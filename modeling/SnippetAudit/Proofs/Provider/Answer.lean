import SnippetAudit.Provider.Client
import SnippetAudit.Proofs.Json.Field
import SnippetAudit.Proofs.Text.Blank

/-!
# Answers of the model provider

What the body of an answer has to be, as relations of JSON trees: records of one field all the way down, from the
candidates to the text of a part (`AnswerTexts`), and from the envelope of an error to its message (`EnvelopeText`). The
client reads exactly these (`answers_iff`, `envelopes_iff`). A fault of the transport is told by what kind it is
(`Fault.Says`), and is a failure of the network in any case.

A prompt is one request, and what comes of it is settled by the answer (`Client.complete_classified`): the text that an
answer carries, or the failure that its status or its body stands for. Only where the settings make no request at all
is none sent (`Client.complete_unsent`).
-/

namespace SnippetAudit.Provider

open Json (Decoder IsText Items OneField OrNull TextOf Tree)

variable {σ : Type}

/-- A transport that also keeps the requests it gets, oldest first. -/
def Transport.recording (T : Transport σ) : Transport (σ × List Request) := fun request (state, requests) =>
  let (answer, state) := T request state
  (answer, (state, requests ++ [request]))

namespace Response

/-! ## What bodies say -/

def PartText : Tree → Option String → Prop := OneField "text" false (some none) (OrNull IsText)

/-- The texts of the parts of a content. -/
def ContentTexts : Tree → List (Option String) → Prop := OneField "parts" true (some []) (Items PartText)

/-- The content of a candidate, which may have none. -/
def CandidateTexts : Tree → Option (List (Option String)) → Prop :=
  OneField "content" false (some none) (OrNull ContentTexts)

def AnswerTexts : Tree → List (Option (List (Option String))) → Prop :=
  OneField "candidates" true (some []) (Items CandidateTexts)

def MessageText : Tree → String → Prop := OneField "message" false none IsText

def EnvelopeText : Tree → String → Prop := OneField "error" false none MessageText

/-- A body that is an answer with these candidates. -/
def Answers (body : String) (candidates : List (Option (List (Option String)))) : Prop :=
  ∃ t, TextOf t body.toList ∧ AnswerTexts t candidates

/-- A body that is the envelope of an error with this message. -/
def Envelopes (body message : String) : Prop := ∃ t, TextOf t body.toList ∧ EnvelopeText t message

/-- What a body says about an error: the message in its envelope or, failing that, all of it. -/
inductive Says (body : String) : String → Prop
  | envelope {message : String} (h : Envelopes body message) : Says body message
  | plain (h : ∀ message, ¬Envelopes body message) : Says body (Text.trimmed body)

/-- The text that a body carries: the texts of the parts of the first candidate in their order, unless that is blank. -/
def Carries (body text : String) : Prop :=
  ∃ parts others, Answers body (some parts :: others) ∧ text = String.join (parts.filterMap id) ∧
    ∃ c ∈ text.toList, Text.isBlank c = false

/-! ### Reading them -/

theorem partDecoder_reads : partDecoder.Reads PartText := Decoder.Reads.string.optional "text"

theorem contentDecoder_reads : contentDecoder.Reads ContentTexts := partDecoder_reads.listOf.omitted "parts" []

theorem candidateDecoder_reads : candidateDecoder.Reads CandidateTexts := contentDecoder_reads.optional "content"

theorem candidatesDecoder_reads : candidatesDecoder.Reads AnswerTexts :=
  candidateDecoder_reads.listOf.omitted "candidates" []

theorem messageDecoder_reads : messageDecoder.Reads MessageText := Decoder.Reads.string.required "message"

theorem errorDecoder_reads : errorDecoder.Reads EnvelopeText := messageDecoder_reads.required "error"

/-- **The client reads the candidates of an answer, and nothing else.** -/
theorem answers_iff {body : String} {candidates : List (Option (List (Option String)))} :
    Json.decode? candidatesDecoder body = some candidates ↔ Answers body candidates :=
  candidatesDecoder_reads.decode?_eq_some

theorem envelopes_iff {body message : String} :
    Json.decode? errorDecoder body = some message ↔ Envelopes body message :=
  errorDecoder_reads.decode?_eq_some

theorem says_iff {body message : String} : Says body message ↔ message = errorMessage body := by
  unfold errorMessage
  cases hbody : Json.decode? errorDecoder body with
  | none =>
    have hnone : ∀ message, ¬Envelopes body message := fun message h => by
      rw [← envelopes_iff, hbody] at h
      cases h
    constructor
    · rintro (h | -)
      · exact absurd h (hnone message)
      · rfl
    · rintro rfl
      exact .plain hnone
  | some said =>
    have hsaid : Envelopes body said := envelopes_iff.1 hbody
    constructor
    · rintro (h | hno)
      · rw [← envelopes_iff, hbody] at h
        exact (Option.some.inj h).symm
      · exact absurd hsaid (hno said)
    · rintro rfl
      exact .envelope hsaid

theorem firstText?_eq_some {candidates : List (Option (List (Option String)))} {text : String} :
    firstText? candidates = some text ↔
      ∃ parts others, candidates = some parts :: others ∧ text = String.join (parts.filterMap id) := by
  rcases candidates with _ | ⟨_ | parts, others⟩
  · simp [firstText?]
  · simp [firstText?]
  · simp [firstText?, eq_comm]

theorem carries_iff {body text : String} : Carries body text ↔
    ∃ candidates, Json.decode? candidatesDecoder body = some candidates ∧ firstText? candidates = some text ∧
      Text.isBlankText text = false := by
  have hblank : Text.isBlankText text = false ↔ ∃ c ∈ text.toList, Text.isBlank c = false := by
    simp [Text.isBlankText]
  rw [hblank]
  constructor
  · rintro ⟨parts, others, hanswers, htext, hc⟩
    exact ⟨_, answers_iff.2 hanswers, firstText?_eq_some.2 ⟨parts, others, rfl, htext⟩, hc⟩
  · rintro ⟨candidates, hdecode, hfirst, hc⟩
    obtain ⟨parts, others, rfl, htext⟩ := firstText?_eq_some.1 hfirst
    exact ⟨parts, others, answers_iff.1 hdecode, htext, hc⟩

/-! ## What becomes of an answer -/

def Succeeds (r : Response) : Prop := 200 ≤ r.status ∧ r.status < 300

/-- The failure that a status stands for, with a message. -/
inductive Refusal (message : String) : Nat → Failure → Prop
  | quota : Refusal message 429 (.quotaExceeded message)
  | unauthorized : Refusal message 401 (.auth message)
  | forbidden : Refusal message 403 (.auth message)
  | other {status : Nat} (hquota : status ≠ 429) (hunauthorized : status ≠ 401) (hforbidden : status ≠ 403) :
      Refusal message status (.api status message)

variable {r : Response} {text : String}

theorem isSuccess_iff : r.isSuccess = true ↔ r.Succeeds := by
  simp [isSuccess, Succeeds]

theorem refusal_statusFailure (status : Nat) (message : String) :
    Refusal message status (statusFailure status message) := by
  unfold statusFailure
  split
  · next h => exact h ▸ .quota
  · next hquota =>
    split
    · next h =>
      obtain rfl | rfl := h
      · exact .unauthorized
      · exact .forbidden
    · next h => exact .other hquota (fun h401 => h (.inl h401)) fun h403 => h (.inr h403)

theorem Refusal.isRetryable_iff {message : String} {status : Nat} {f : Failure} (h : Refusal message status f) :
    f.isRetryable = true ↔ status = 429 ∨ 500 ≤ status := by
  cases h with
  | quota => simp [Failure.isRetryable]
  | unauthorized => simp [Failure.isRetryable]
  | forbidden => simp [Failure.isRetryable]
  | other hquota => simp [Failure.isRetryable, hquota]

/-- **A status of failure is the failure it stands for, with what the body says.** -/
theorem completion_refused (h : ¬r.Succeeds) :
    ∃ message f, Says r.text message ∧ Refusal message r.status f ∧ r.completion = .error f := by
  have hsuccess : r.isSuccess = false := Bool.eq_false_iff.2 (mt isSuccess_iff.1 h)
  exact ⟨_, _, says_iff.2 rfl, refusal_statusFailure _ _, by simp [completion, hsuccess]⟩

theorem completion_unread (h : r.Succeeds) (hno : ∀ candidates, ¬Answers r.text candidates) :
    r.completion = .error .serialization := by
  have hnone : Json.decode? candidatesDecoder r.text = none :=
    Option.eq_none_iff_forall_ne_some.2 fun candidates hsome => hno candidates (answers_iff.1 hsome)
  simp [completion, isSuccess_iff.2 h, hnone]

theorem completion_carried (h : r.Succeeds) (hcarries : Carries r.text text) : r.completion = .ok text := by
  obtain ⟨candidates, hdecode, hfirst, hblank⟩ := carries_iff.1 hcarries
  simp [completion, isSuccess_iff.2 h, hdecode, hfirst, hblank]

theorem completion_empty (h : r.Succeeds) {candidates : List (Option (List (Option String)))}
    (hanswers : Answers r.text candidates) (hno : ∀ text, ¬Carries r.text text) :
    r.completion = .error .emptyCompletion := by
  have hdecode := answers_iff.2 hanswers
  cases hfirst : firstText? candidates with
  | none => simp [completion, isSuccess_iff.2 h, hdecode, hfirst]
  | some text =>
    have hblank : Text.isBlankText text = true := by
      by_contra hne
      exact hno text (carries_iff.2 ⟨candidates, hdecode, hfirst, Bool.eq_false_iff.2 hne⟩)
    simp [completion, isSuccess_iff.2 h, hdecode, hfirst, hblank]

/-- The three ways of a status of success. -/
theorem completion_cases (h : r.Succeeds) :
    (∃ text, Carries r.text text ∧ r.completion = .ok text) ∨
    ((∀ candidates, ¬Answers r.text candidates) ∧ r.completion = .error .serialization) ∨
    ((∃ candidates, Answers r.text candidates) ∧ (∀ text, ¬Carries r.text text) ∧
      r.completion = .error .emptyCompletion) := by
  by_cases hcarries : ∃ text, Carries r.text text
  · obtain ⟨text, hcarries⟩ := hcarries
    exact .inl ⟨text, hcarries, completion_carried h hcarries⟩
  rw [not_exists] at hcarries
  by_cases hanswers : ∃ candidates, Answers r.text candidates
  · obtain ⟨candidates, hanswers⟩ := hanswers
    exact .inr (.inr ⟨⟨candidates, hanswers⟩, hcarries, completion_empty h hanswers hcarries⟩)
  · rw [not_exists] at hanswers
    exact .inr (.inl ⟨hanswers, completion_unread h hanswers⟩)

/-- **A text comes of an answer that carries it, and of no other.** -/
theorem completion_eq_ok : r.completion = .ok text ↔ r.Succeeds ∧ Carries r.text text := by
  constructor
  · intro hdone
    by_cases h : r.Succeeds
    · obtain ⟨text, hcarries, hcompletion⟩ | ⟨-, hcompletion⟩ | ⟨-, -, hcompletion⟩ := completion_cases h
      · cases hcompletion.symm.trans hdone
        exact ⟨h, hcarries⟩
      · cases hcompletion.symm.trans hdone
      · cases hcompletion.symm.trans hdone
    · obtain ⟨message, f, -, -, hcompletion⟩ := completion_refused h
      cases hcompletion.symm.trans hdone
  · rintro ⟨h, hcarries⟩
    exact completion_carried h hcarries

/-- **Only the status makes a failure worth another try.** -/
theorem isRetryable_of_completion {f : Failure} (hf : r.completion = .error f) :
    f.isRetryable = true ↔ r.status = 429 ∨ 500 ≤ r.status := by
  by_cases h : r.Succeeds
  · have hstatus : ¬(r.status = 429 ∨ 500 ≤ r.status) := by
      unfold Succeeds at h
      omega
    obtain ⟨text, -, hcompletion⟩ | ⟨-, hcompletion⟩ | ⟨-, -, hcompletion⟩ := completion_cases h
    · cases hcompletion.symm.trans hf
    · cases hcompletion.symm.trans hf
      simpa [Failure.isRetryable] using hstatus
    · cases hcompletion.symm.trans hf
      simpa [Failure.isRetryable] using hstatus
  · obtain ⟨message, g, -, hrefusal, hcompletion⟩ := completion_refused h
    cases hcompletion.symm.trans hf
    exact hrefusal.isRetryable_iff

end Response

/-! ## Faults -/

namespace Fault

/-- What is said of a fault: that it was late comes first, then that nothing was connected. -/
inductive Says (f : Fault) : String → Prop
  | timeout (late : f.isTimeout = true) : Says f ("request timeout: " ++ f.reason)
  | connect (intime : f.isTimeout = false) (unconnected : f.isConnect = true) : Says f ("connection failed: " ++ f.reason)
  | other (intime : f.isTimeout = false) (connected : f.isConnect = false) : Says f f.reason

/-- **Every fault is one of the network**, and can be gone another time. -/
theorem failure_says (f : Fault) : ∃ text, f.Says text ∧ f.failure = .network text := by
  unfold failure
  split
  · next late => exact ⟨_, .timeout late, rfl⟩
  · next late =>
    have intime : f.isTimeout = false := Bool.eq_false_iff.2 late
    split
    · next unconnected => exact ⟨_, .connect intime unconnected, rfl⟩
    · next unconnected => exact ⟨_, .other intime (Bool.eq_false_iff.2 unconnected), rfl⟩

theorem isRetryable_failure (f : Fault) : f.failure.isRetryable = true := by
  obtain ⟨text, -, hfailure⟩ := f.failure_says
  rw [hfailure]
  rfl

end Fault

/-! ## What becomes of a prompt -/

open Response

/-- What an answer makes of a prompt: the text that it carries, or the failure that it stands for. -/
structure Classified (model : String) (answer : Except Fault Response) (result : Except Failure Completion) : Prop where
  unanswered : ∀ fault, answer = .error fault → ∃ text, fault.Says text ∧ result = .error (.network text)
  completed : ∀ r, answer = .ok r → ∀ completion,
    result = .ok completion ↔ r.Succeeds ∧ Carries r.text completion.text ∧ completion.model = model
  refused : ∀ r, answer = .ok r → ¬r.Succeeds →
    ∃ message f, Says r.text message ∧ Refusal message r.status f ∧ result = .error f
  unread : ∀ r, answer = .ok r → r.Succeeds → (∀ candidates, ¬Answers r.text candidates) →
    result = .error .serialization
  empty : ∀ r, answer = .ok r → r.Succeeds → (∃ candidates, Answers r.text candidates) →
    (∀ text, ¬Carries r.text text) → result = .error .emptyCompletion
  retryable : ∀ f, result = .error f → (f.isRetryable = true ↔
    (∃ fault, answer = .error fault) ∨ ∃ r, answer = .ok r ∧ (r.status = 429 ∨ 500 ≤ r.status))

theorem classified_error (model : String) (fault : Fault) : Classified model (.error fault) (.error fault.failure) where
  unanswered := by
    rintro _ ⟨⟩
    obtain ⟨text, hsays, hfailure⟩ := fault.failure_says
    exact ⟨text, hsays, congrArg Except.error hfailure⟩
  completed r h := by cases h
  refused r h := by cases h
  unread r h := by cases h
  empty r h := by cases h
  retryable := by
    rintro _ ⟨⟩
    simp [fault.isRetryable_failure]

theorem classified_ok (model : String) (r : Response) :
    Classified model (.ok r) (r.completion.map (⟨·, model⟩)) where
  unanswered fault h := by cases h
  completed := by
    rintro _ ⟨⟩ ⟨text, m⟩
    rw [← and_assoc, ← completion_eq_ok]
    cases r.completion with
    | error f => simp [Except.map]
    | ok text' => simp [Except.map, eq_comm]
  refused := by
    rintro _ ⟨⟩ h
    obtain ⟨message, f, hsays, hrefusal, hcompletion⟩ := completion_refused h
    exact ⟨message, f, hsays, hrefusal, by rw [hcompletion]; rfl⟩
  unread := by
    rintro _ ⟨⟩ h hno
    rw [completion_unread h hno]
    rfl
  empty := by
    rintro _ ⟨⟩ h ⟨candidates, hanswers⟩ hno
    rw [completion_empty h hanswers hno]
    rfl
  retryable := by
    intro f hf
    have hcompletion : r.completion = .error f := by
      cases hr : r.completion with
      | error g => simpa [hr, Except.map] using hf
      | ok text => simp [hr, Except.map] at hf
    rw [isRetryable_of_completion hcompletion]
    simp

namespace Client

variable {T : Transport σ} {c : Client} {prompt : String}

/-- A character that no header may hold. -/
def IsControl (ch : Char) : Prop := ch ≠ '\t' ∧ (ch.toNat < 0x20 ∨ ch.toNat = 0x7F)

theorem isHeaderText_eq_false {s : String} : isHeaderText s = false ↔ ∃ ch ∈ s.toList, IsControl ch := by
  have hcontrol (ch : Char) : (ch == '\t' || (decide (0x20 ≤ ch.toNat) && decide (ch.toNat ≠ 0x7F))) = false ↔
      IsControl ch := by
    simp only [IsControl, Bool.or_eq_false_iff, Bool.and_eq_false_iff, beq_eq_false_iff_ne, decide_eq_false_iff_not,
      Nat.not_le, not_not]
  simp only [isHeaderText, List.all_eq_false, Bool.not_eq_true, hcontrol]

/-- **When no request can be made.** -/
theorem request?_eq_none : c.request? prompt = none ↔
    Address.ofText? c.endpoint = none ∨ ∃ ch ∈ c.apiKey.toList, IsControl ch := by
  rw [← isHeaderText_eq_false]
  unfold request?
  cases Address.ofText? c.endpoint with
  | none => simp
  | some address => cases isHeaderText c.apiKey <;> simp

theorem prompt_of_request? {request : Request} (h : c.request? prompt = some request) : request.prompt = prompt := by
  unfold request? at h
  cases haddress : Address.ofText? c.endpoint with
  | none => simp [haddress] at h
  | some address =>
    simp only [haddress] at h
    split at h
    · obtain rfl := Option.some.inj h
      rfl
    · cases h

theorem complete_none (h : c.request? prompt = none) (state : σ) :
    c.complete T prompt state = (.error (.network "builder error"), state) := by
  have hunbuilt : Fault.unbuilt.failure = .network "builder error" := rfl
  simp [complete, h, hunbuilt]

variable {request : Request} {state after : σ} {sent : List Request}

theorem complete_error {fault : Fault} (h : c.request? prompt = some request)
    (hT : T request state = (.error fault, after)) :
    c.complete T prompt state = (.error fault.failure, after) := by
  simp [complete, h, hT]

theorem complete_ok {r : Response} (h : c.request? prompt = some request) (hT : T request state = (.ok r, after)) :
    c.complete T prompt state = (r.completion.map (⟨·, c.settings.model⟩), after) := by
  simp [complete, h, hT]

theorem recording_apply {answer : Except Fault Response} (hT : T request state = (answer, after)) :
    T.recording request (state, sent) = (answer, (after, sent ++ [request])) := by
  simp [Transport.recording, hT]

/-- **A prompt is one request, and its answer settles what comes of it.** The transport gets one request, with the
prompt, and nothing else; where the settings make none it gets none, which is a failure of the network too. -/
theorem complete_classified (T : Transport σ) (c : Client) (prompt : String) (state : σ) (sent : List Request) :
    (∀ request, c.request? prompt = some request → request.prompt = prompt ∧
      ∃ answer after result, T request state = (answer, after) ∧
        c.complete T prompt state = (result, after) ∧
        c.complete T.recording prompt (state, sent) = (result, (after, sent ++ [request])) ∧
        Classified c.settings.model answer result) ∧
    (c.request? prompt = none →
      c.complete T.recording prompt (state, sent) = (.error (.network "builder error"), (state, sent)) ∧
      (Failure.network "builder error").isRetryable = true) ∧
    (c.request? prompt = none ↔ Address.ofText? c.endpoint = none ∨ ∃ ch ∈ c.apiKey.toList, IsControl ch) := by
  refine ⟨fun request h => ⟨prompt_of_request? h, ?_⟩, fun h => ⟨complete_none h _, rfl⟩, request?_eq_none⟩
  obtain ⟨answer, after, hT⟩ : ∃ answer after, T request state = (answer, after) := ⟨_, _, rfl⟩
  have hrecording : T.recording request (state, sent) = (answer, (after, sent ++ [request])) := recording_apply hT
  cases answer with
  | error fault =>
    exact ⟨_, after, _, hT, complete_error h hT, complete_error h hrecording, classified_error _ fault⟩
  | ok r => exact ⟨_, after, _, hT, complete_ok h hT, complete_ok h hrecording, classified_ok _ r⟩

/-- A text in two parts around one without a text. -/
theorem complete_classified_parts :
    let c : Client := ⟨⟨"m", "http://h", some "k", 1, 0, 1⟩, "k"⟩
    let parts := "[\x7b\"text\": \"a\"\x7d, \x7b\x7d, \x7b\"text\": \" b\"\x7d]"
    let body := "\x7b\"candidates\": [\x7b\"content\": \x7b\"parts\": " ++ parts ++ "\x7d\x7d]\x7d"
    let T : Transport Nat := fun _ n => (.ok ⟨200, body.toUTF8⟩, n + 1)
    ∃ request, c.request? "p" = some request ∧
      c.complete T.recording "p" (0, []) = (.ok ⟨"a b", "m"⟩, (1, [request])) := by
  intro c parts body T
  obtain ⟨request, hrequest⟩ : ∃ request, c.request? "p" = some request :=
    Option.isSome_iff_exists.1 (by decide +kernel)
  obtain ⟨-, answer, after, result, hT, -, hcomplete, hclass⟩ := (complete_classified T c "p" 0 []).1 request hrequest
  obtain ⟨rfl, rfl⟩ : .ok ⟨200, body.toUTF8⟩ = answer ∧ 1 = after := Prod.mk.inj hT
  have hcarries : Carries (Response.text ⟨200, body.toUTF8⟩) "a b" :=
    carries_iff.2 ⟨[some [some "a", none, some " b"]], by decide +kernel, by decide, by decide⟩
  have hresult := (hclass.completed _ rfl ⟨"a b", "m"⟩).2 ⟨⟨by decide, by decide⟩, hcarries, rfl⟩
  refine ⟨request, hrequest, ?_⟩
  rw [hcomplete, hresult]
  rfl

/-- A key that no header may hold: no request is sent, whatever would be answered. -/
theorem complete_unsent :
    let settings : Settings := ⟨"m", "http://h", some "a\x01b", 1, 0, 1⟩
    let T : Transport Nat := fun _ n => (.ok ⟨200, .empty⟩, n + 1)
    ∃ c, Client.ofSettings settings = .ok c ∧
      (c.complete T.recording "p" (0, [])).1 = .error (.network "builder error") ∧
      ¬∃ request, (c.complete T.recording "p" (0, [])).2.2 = [request] := by
  intro settings T
  have hnone : (⟨settings, "a\x01b"⟩ : Client).request? "p" = none :=
    request?_eq_none.2 (.inr ⟨'\x01', by decide, by decide, .inl (by decide)⟩)
  refine ⟨⟨settings, "a\x01b"⟩, rfl, ?_, ?_⟩
  · rw [complete_none hnone]
  · rw [complete_none hnone]
    rintro ⟨request, hone⟩
    cases hone

end Client

end SnippetAudit.Provider

import SnippetAudit.Proofs.Backend.Steady
import SnippetAudit.Proofs.Finding
import SnippetAudit.Proofs.Json.Reread
import SnippetAudit.Proofs.Service.Confine

/-!
# Many snippets are looked at as one is

Over a steady backend the two endpoints for detection agree, as far as a client can read it in their answers.

- Whatever was asked before, a request has the same answer (`answer_settled`, `answerAfter_eq`).
- What is read in the answer about one snippet (`finds_respond`, `failsWith_respond`) and what is read in an item of the
  answer about many (`succeeds_itemRead`, `fails_itemRead`) is told by the outcome of the detection.
- So an item reports a verdict exactly when the snippet alone would be answered with it, and a failure exactly when the
  snippet alone would be answered with that failure (`batch_agrees`).
-/

namespace SnippetAudit.Service

variable {σ : Type}

/-! ## What a client sends and reads -/

/-- A request about one snippet that names no artifact. -/
structure Request.AsksAbout (r : Request) (code : String) : Prop where
  method : r.method = "POST"
  path : r.path = "/detect"
  body : readBody Inquiry.decoder r = .ok ⟨code, none⟩

/-- A request about many snippets. -/
structure Request.Lists (r : Request) (qs : List Inquiry) : Prop where
  method : r.method = "POST"
  path : r.path = "/batch-detect"
  body : readBody (.listOf Inquiry.decoder) r = .ok qs

/-- A value that tells whether there is a bug, and which ones. -/
def Tells (j : Json) (hasBug : Bool) (bugs : List Json) : Prop :=
  j.member? "has_bug" = some (.bool hasBug) ∧ j.member? "bugs" = some (.arr bugs)

/-- An item that is a success. -/
def Succeeds (item : Json) (hasBug : Bool) (bugs : List Json) : Prop :=
  item.member? "success" = some (.bool true) ∧ Tells item hasBug bugs

/-- An item that is a failure. -/
def Fails (item : Json) (error : String) : Prop :=
  item.member? "success" = some (.bool false) ∧ item.member? "error" = some (.str error)

/-- An answer with a verdict. -/
def Response.Finds (r : Response) (hasBug : Bool) (bugs : List Json) : Prop :=
  r.status = 200 ∧ ∃ j, Json.parse? r.body = some j ∧ Tells j hasBug bugs

/-- An answer with the failure of a detection. -/
def Response.FailsWith (r : Response) (error : String) : Prop :=
  r.status = 500 ∧ ∃ j, Json.parse? r.body = some j ∧
    j.member? "detail" = some (.str ("detection failed: " ++ error))

/-- What a body was read as, it holds, within the limit. -/
theorem decode_of_readBody {α : Type} {d : Json.Decoder α} {r : Request} {a : α} (h : readBody d r = .ok a) :
    r.body.utf8ByteSize ≤ bodyLimit ∧ Json.decode d r.body.toList = .ok a := by
  unfold readBody at h
  split at h
  · cases h
  · split at h
    · cases h
    · next hsize =>
      refine ⟨Nat.not_lt.1 hsize, ?_⟩
      split at h
      · next hdecode =>
        cases h
        exact hdecode
      · cases h
      · cases h

/-! ## Requests in a row -/

/-- The answer to a request behind earlier ones. -/
def answerAfter (B : Backend σ) (s : Service) (earlier : List Request) (r : Request) : Audit σ Response := do
  let _ ← earlier.mapM (s.answer B)
  s.answer B r

section Settled

variable {B : Backend σ} {reply : String → Answer} {holds : σ → Prop} {fs : Files}

/-- The answer about one snippet, from the outcome of its detection. -/
def respond (d : Detector) : Except Failure Verdict → Response
  | .error e => detail 500 ("detection failed: " ++ e.message)
  | .ok v =>
    .ofJson 200 (Json.compact (.obj
      [("has_bug", .bool v.hasBug), ("bugs", findingsJson v), ("model_type", .str d.modelType)]))

/-- The answer about many snippets, from what became of them. -/
def respondAll (total : Nat) (outcomes : List Outcome) : Response :=
  .ofJson 200 (Json.compact (.obj [("total", .nat total), ("results", .arr (outcomes.mapIdx itemJson))]))

/-- The outcome of a detection over a steady backend. -/
def outcomeOf (reply : String → Answer) (d : Detector) (code : String) : Except Failure Verdict :=
  Detector.outcome (reply (d.program.render code))

theorem detectorFor_settled (holds : σ → Prop) (fs : Files) (s : Service) (requested : Option String) :
    ∃ d, Audit.Settled holds fs (s.detectorFor requested) d := by
  cases requested with
  | none => exact ⟨some s.detector, .pure _⟩
  | some name =>
    cases hpath : confine s.models name with
    | none =>
      refine ⟨none, ?_⟩
      simp only [detectorFor, hpath]
      exact .pure _
    | some path =>
      obtain ⟨d, hd⟩ := Detector.withArtifact_settled holds fs s.detector.program.taxonomy (some path)
      refine ⟨some d, ?_⟩
      simp only [detectorFor, hpath]
      exact hd.bind (.pure _)

/-- **One snippet**, once its detector is settled. -/
theorem answerDetect_of_detector (hB : B.Steady reply holds) {s : Service} {q : Inquiry} {d : Detector}
    (hd : Audit.Settled holds fs (s.detectorFor q.artifact) (some d)) :
    Audit.Settled holds fs (answerDetect B s q) (respond d (outcomeOf reply d q.code)) := by
  unfold answerDetect
  refine hd.bind ((Detector.detect_settled hB d q.code).bind ?_)
  unfold outcomeOf
  cases Detector.outcome (reply (d.program.render q.code)) with
  | error e => exact .pure _
  | ok v => exact .pure _

theorem answerDetect_settled (hB : B.Steady reply holds) (s : Service) (q : Inquiry) :
    ∃ response, Audit.Settled holds fs (answerDetect B s q) response := by
  obtain ⟨d, hd⟩ := detectorFor_settled holds fs s q.artifact
  cases d with
  | none =>
    refine ⟨refusal (q.artifact.getD ""), ?_⟩
    unfold answerDetect
    exact hd.bind (.pure _)
  | some d => exact ⟨_, answerDetect_of_detector hB hd⟩

/-- **Many snippets**: only their codes count. -/
theorem answerBatch_settled (hB : B.Steady reply holds) (s : Service) (qs : List Inquiry) :
    Audit.Settled holds fs (answerBatch B s qs)
      (respondAll qs.length ((qs.map (·.code)).map fun code => .ofResult (outcomeOf reply s.detector code))) := by
  have hitems : Audit.Settled holds fs _ _ := Batch.detectSnippets_settled hB s.detector (qs.map (·.code))
  have hanswer : answerBatch B s qs =
      (do return respondAll qs.length (← Batch.detectSnippets B s.detector (qs.map (·.code)))) := rfl
  rw [hanswer]
  exact hitems.returning (respondAll qs.length)

theorem answerEndpoint_settled (hB : B.Steady reply holds) (fs : Files) (s : Service) (r : Request) (e : Endpoint) :
    ∃ response, Audit.Settled holds fs (answerEndpoint B s r e) response := by
  cases e with
  | banner | health | types => exact ⟨_, .pure _⟩
  | detect =>
    cases hbody : readBody Inquiry.decoder r with
    | error refusal =>
      simp only [answerEndpoint, hbody]
      exact ⟨_, .pure _⟩
    | ok q =>
      simp only [answerEndpoint, hbody]
      exact answerDetect_settled hB s q
  | batch =>
    cases hbody : readBody (.listOf Inquiry.decoder) r with
    | error refusal =>
      simp only [answerEndpoint, hbody]
      exact ⟨_, .pure _⟩
    | ok qs =>
      simp only [answerEndpoint, hbody]
      exact ⟨_, answerBatch_settled hB s qs⟩

/-- **Every request has one answer**, whatever was asked before. -/
theorem answer_settled (hB : B.Steady reply holds) (fs : Files) (s : Service) (r : Request) :
    ∃ response, Audit.Settled holds fs (s.answer B r) response := by
  unfold answer
  simp only
  by_cases hoptions : (r.method == "OPTIONS") = true
  · rw [if_pos hoptions]
    exact ⟨_, .pure _⟩
  · rw [if_neg hoptions]
    cases Endpoint.ofPath? r.path with
    | none => exact ⟨.empty 404 none, .pure _⟩
    | some e =>
      simp only
      by_cases haccepts : (!e.accepts r.method) = true
      · rw [if_pos haccepts]
        exact ⟨_, .pure _⟩
      · rw [if_neg haccepts]
        obtain ⟨response, hresponse⟩ := answerEndpoint_settled hB fs s r e
        exact ⟨_, hresponse.returning fun response =>
          if (r.method == "HEAD") = true then { response with body := "" } else response⟩

/-- **The requests before a request do not change its answer.** -/
theorem answerAfter_eq (hB : B.Steady reply holds) (s : Service) (earlier : List Request) (r : Request) {run : Run σ}
    (hrun : holds run.backend) : (s.answerAfter B earlier r run).1 = (s.answer B r run).1 := by
  choose responses hresponses using answer_settled hB run.files s
  have hstands : run.Stands holds run.files := ⟨hrun, rfl⟩
  have hafter : Audit.Settled holds run.files (s.answerAfter B earlier r) (responses r) :=
    (Audit.Settled.mapM hresponses earlier).bind (hresponses r)
  exact (hafter run hstands).1.trans ((hresponses r run hstands).1).symm

/-- A request with `POST` is answered by its endpoint. -/
theorem answer_post (B : Backend σ) (s : Service) {r : Request} {e : Endpoint} (hmethod : r.method = "POST")
    (hpath : Endpoint.ofPath? r.path = some e) (hpost : e.isPost = true) : s.answer B r = answerEndpoint B s r e := by
  have haccepts : e.accepts "POST" = true := by simp [Endpoint.accepts, hpost]
  simp only [answer, hmethod, hpath, haccepts]
  rw [if_neg (by decide), if_neg (by decide)]
  exact bind_pure _

theorem answer_single (hB : B.Steady reply holds) (s : Service) {r : Request} {code : String} (h : r.AsksAbout code) :
    Audit.Settled holds fs (s.answer B r) (respond s.detector (outcomeOf reply s.detector code)) := by
  have hpath : Endpoint.ofPath? r.path = some .detect := by
    rw [h.path]
    decide
  rw [answer_post B s h.method hpath rfl]
  simp only [answerEndpoint, h.body]
  exact answerDetect_of_detector hB (.pure _)

theorem answer_list (hB : B.Steady reply holds) (s : Service) {r : Request} {qs : List Inquiry} (h : r.Lists qs) :
    Audit.Settled holds fs (s.answer B r)
      (respondAll qs.length ((qs.map (·.code)).map fun code => .ofResult (outcomeOf reply s.detector code))) := by
  have hpath : Endpoint.ofPath? r.path = some .batch := by
    rw [h.path]
    decide
  rw [answer_post B s h.method hpath rfl]
  simp only [answerEndpoint, h.body]
  exact answerBatch_settled hB s qs

end Settled

/-! ## What is read of an answer -/

/-- A finding as a client reads it. -/
def findingRead (f : Finding) : Json :=
  .ofMembers
    [("line_number", Finding.lineJson f.line), ("code_line", .strOrNull f.code),
     ("bug_type_id", .str (f.typeId.getD "Unknown")), ("explanation", .str (f.explanation.getD ""))]

/-- The bugs of a verdict as a client reads them. -/
def bugsRead (v : Verdict) : List Json := v.bugs.map findingRead

/-- An item as a client reads it. -/
def itemRead (index : Nat) : Outcome → Json
  | .detected v =>
    .ofMembers [("index", .nat index), ("has_bug", .bool v.hasBug), ("bugs", .arr (bugsRead v)),
      ("success", .bool true)]
  | .failed reason => .ofMembers [("index", .nat index), ("error", .str reason), ("success", .bool false)]

section Read

open Json (Reread RereadMember)

variable {depth : Nat}

theorem reread_finding (f : Finding) : Reread (depth + 1) (findingJson f) (findingRead f) := by
  have hline : Reread depth (Finding.lineJson f.line) (Finding.lineJson f.line) := (Finding.reread_line depth f.line).1
  have hjson : findingJson f = .obj
      [("line_number", Finding.lineJson f.line), ("code_line", .strOrNull f.code),
       ("bug_type_id", .str (f.typeId.getD "Unknown")), ("explanation", .str (f.explanation.getD ""))] := by
    unfold findingJson
    cases f.line <;> rfl
  rw [hjson]
  exact .obj (.cons ⟨rfl, hline⟩ (.cons ⟨rfl, .strOrNull _⟩ (.cons ⟨rfl, .str _⟩ (.cons ⟨rfl, .str _⟩ .nil))))

theorem reread_findings (v : Verdict) : Reread (depth + 2) (findingsJson v) (.arr (bugsRead v)) := by
  apply Json.Reread.arr
  rw [bugsRead, List.forall₂_map_left_iff, List.forall₂_map_right_iff]
  exact List.forall₂_same.2 fun f _ => reread_finding f

theorem reread_item {index : Nat} (h : index < UInt64.size) (o : Outcome) :
    Reread (depth + 3) (itemJson index o) (itemRead index o) := by
  cases o with
  | detected v =>
    exact .obj (.cons ⟨rfl, .nat h⟩ (.cons ⟨rfl, .bool _⟩ (.cons ⟨rfl, reread_findings v⟩ (.cons ⟨rfl, .bool _⟩ .nil))))
  | failed reason => exact .obj (.cons ⟨rfl, .nat h⟩ (.cons ⟨rfl, .str _⟩ (.cons ⟨rfl, .bool _⟩ .nil)))

theorem reread_items {outcomes : List Outcome} (h : outcomes.length < UInt64.size) :
    Reread (depth + 4) (.arr (outcomes.mapIdx itemJson)) (.arr (outcomes.mapIdx itemRead)) := by
  apply Json.Reread.arr
  rw [List.forall₂_iff_get]
  refine ⟨by rw [List.length_mapIdx, List.length_mapIdx], ?_⟩
  intro i hi hi'
  rw [List.length_mapIdx] at hi
  simp only [List.get_eq_getElem, List.getElem_mapIdx]
  exact reread_item (hi.trans h) _

end Read

/-! ### One snippet -/

theorem parse?_detail (status : Nat) (text : String) :
    Json.parse? (detail status text).body = some (.ofMembers [("detail", .str text)]) :=
  Json.Reread.parse?_compact (.obj (.cons ⟨rfl, .str _⟩ .nil))

/-- The answer with a verdict as a client reads it. -/
def verdictRead (d : Detector) (v : Verdict) : Json :=
  .ofMembers [("has_bug", .bool v.hasBug), ("bugs", .arr (bugsRead v)), ("model_type", .str d.modelType)]

theorem parse?_respond (d : Detector) (v : Verdict) :
    Json.parse? (respond d (.ok v)).body = some (verdictRead d v) :=
  Json.Reread.parse?_compact
    (.obj (.cons ⟨rfl, .bool _⟩ (.cons ⟨rfl, reread_findings v⟩ (.cons ⟨rfl, .str _⟩ .nil))))

theorem tells_ofMembers {ms : List (String × Json)} {v : Verdict} {hasBug : Bool} {bugs : List Json}
    (hhas : ms.reverse.lookup "has_bug" = some (.bool v.hasBug))
    (hbugs : ms.reverse.lookup "bugs" = some (.arr (bugsRead v))) :
    Tells (.ofMembers ms) hasBug bugs ↔ v.hasBug = hasBug ∧ bugsRead v = bugs := by
  rw [Tells, Json.member?_ofMembers, Json.member?_ofMembers, hhas, hbugs, Option.some.injEq, Option.some.injEq,
    Json.bool.injEq, Json.arr.injEq]

/-- **The answer about one snippet tells a verdict** when its detection does. -/
theorem finds_respond {d : Detector} {result : Except Failure Verdict} {hasBug : Bool} {bugs : List Json} :
    (respond d result).Finds hasBug bugs ↔ ∃ v, result = .ok v ∧ v.hasBug = hasBug ∧ bugsRead v = bugs := by
  cases result with
  | error e => exact iff_of_false (fun h => by cases h.1) (fun ⟨_, h, _⟩ => by cases h)
  | ok v =>
    have htells : Tells (verdictRead d v) hasBug bugs ↔ v.hasBug = hasBug ∧ bugsRead v = bugs :=
      tells_ofMembers rfl rfl
    rw [Response.Finds, parse?_respond]
    simp only [Option.some.injEq, exists_eq_left', htells, Except.ok.injEq]
    exact ⟨fun h => h.2, fun h => ⟨rfl, h⟩⟩

theorem failsWith_respond {d : Detector} {result : Except Failure Verdict} {error : String} :
    (respond d result).FailsWith error ↔ ∃ e, result = .error e ∧ e.message = error := by
  cases result with
  | ok v => exact iff_of_false (fun h => by cases h.1) (fun ⟨_, h, _⟩ => by cases h)
  | error e =>
    have hbody : Json.parse? (respond d (.error e)).body = _ := parse?_detail 500 ("detection failed: " ++ e.message)
    have hmember : (Json.ofMembers [("detail", .str ("detection failed: " ++ e.message))]).member? "detail" =
        some (.str ("detection failed: " ++ e.message)) := by
      rw [Json.member?_ofMembers]
      rfl
    rw [Response.FailsWith, hbody]
    have htext : "detection failed: " ++ e.message = "detection failed: " ++ error ↔ e.message = error := by
      rw [String.ext_iff, String.ext_iff, String.toList_append, String.toList_append, List.append_cancel_left_eq]
    simp only [Option.some.injEq, exists_eq_left', hmember, Json.str.injEq, Except.error.injEq, htext]
    exact ⟨fun h => h.2, fun h => ⟨rfl, h⟩⟩

/-! ### Many snippets -/

theorem index_itemRead (index : Nat) (o : Outcome) : (itemRead index o).member? "index" = some (.nat index) := by
  cases o with
  | detected v => exact Json.member?_ofMembers _ _
  | failed reason => exact Json.member?_ofMembers _ _

theorem success_itemRead (index : Nat) (o : Outcome) :
    (itemRead index o).member? "success" = some (.bool o.isSuccess) := by
  cases o with
  | detected v => exact Json.member?_ofMembers _ _
  | failed reason => exact Json.member?_ofMembers _ _

/-- **An item tells a verdict** when the detection does. -/
theorem succeeds_itemRead {index : Nat} {o : Outcome} {hasBug : Bool} {bugs : List Json} :
    Succeeds (itemRead index o) hasBug bugs ↔ ∃ v, o = .detected v ∧ v.hasBug = hasBug ∧ bugsRead v = bugs := by
  rw [Succeeds, success_itemRead]
  cases o with
  | detected v =>
    have htells : Tells (itemRead index (.detected v)) hasBug bugs ↔ v.hasBug = hasBug ∧ bugsRead v = bugs :=
      tells_ofMembers rfl rfl
    rw [htells]
    simp [Outcome.isSuccess, Outcome.verdict?]
  | failed reason => simp [Outcome.isSuccess, Outcome.verdict?]

theorem fails_itemRead {index : Nat} {o : Outcome} {error : String} :
    Fails (itemRead index o) error ↔ o = .failed error := by
  rw [Fails, success_itemRead]
  cases o with
  | detected v => simp [Outcome.isSuccess, Outcome.verdict?]
  | failed reason =>
    have herror : (itemRead index (.failed reason)).member? "error" = some (.str reason) := Json.member?_ofMembers _ _
    rw [herror]
    simp [Outcome.isSuccess, Outcome.verdict?]

/-- **The answer about many snippets** as a client reads it. -/
theorem parse?_respondAll {outcomes : List Outcome} (h : outcomes.length < UInt64.size) :
    ∃ j, Json.parse? (respondAll outcomes.length outcomes).body = some j ∧
      j.member? "total" = some (.nat outcomes.length) ∧
      j.member? "results" = some (.arr (outcomes.mapIdx itemRead)) :=
  ⟨.ofMembers [("total", .nat outcomes.length), ("results", .arr (outcomes.mapIdx itemRead))],
    Json.Reread.parse?_compact (.obj (.cons ⟨rfl, .nat h⟩ (.cons ⟨rfl, reread_items h⟩ .nil))),
    Json.member?_ofMembers _ _, Json.member?_ofMembers _ _⟩

/-- A text has a byte at least for each character. -/
theorem length_le_utf8Len : ∀ cs : List Char, cs.length ≤ String.utf8Len cs
  | [] => Nat.zero_le _
  | c :: cs => by
    have h := length_le_utf8Len cs
    have hc := c.utf8Size_pos
    rw [List.length_cons, String.utf8Len_cons]
    omega

/-- A list that came in a body is short enough for its length to be answered. -/
theorem length_of_lists {r : Request} {qs : List Inquiry} (h : r.Lists qs) : qs.length < UInt64.size := by
  obtain ⟨hsize, hdecode⟩ := decode_of_readBody h.body
  have hchars := length_le_utf8Len r.body.toList
  rw [← String.utf8ByteSize_ofList, String.ofList_toList] at hchars
  have hlength := Json.length_of_decode hdecode
  have hlimit : 2 * bodyLimit + 2 < UInt64.size := by decide
  omega

/-! ## Agreement -/

/-- The outcomes of the items and of the snippets alone. -/
theorem ofResult_eq_detected {result : Except Failure Verdict} {v : Verdict} :
    Outcome.ofResult result = .detected v ↔ result = .ok v := by
  cases result <;> simp [Outcome.ofResult]

theorem ofResult_eq_failed {result : Except Failure Verdict} {reason : String} :
    Outcome.ofResult result = .failed reason ↔ ∃ e, result = .error e ∧ e.message = reason := by
  cases result <;> simp [Outcome.ofResult]

/-- **Detection of many snippets and of each of them agree** over a steady backend. Whatever was asked before, a request
has the same answer. The answer about many snippets has an item for each of them, in order and with its index, and does
not depend on the artifacts that are named. An item tells a verdict or a failure, and tells it exactly when the answer
about its snippet alone does. -/
theorem batch_agrees {B : Backend σ} {reply : String → Answer} {holds : σ → Prop} (hB : B.Steady reply holds)
    (s : Service) (run : Run σ) (hrun : holds run.backend) :
    (∀ earlier r, (s.answerAfter B earlier r run).1 = (s.answer B r run).1) ∧
    ∀ batch qs, batch.Lists qs →
      (∀ batch' qs', batch'.Lists qs' → qs'.map (·.code) = qs.map (·.code) →
        (s.answer B batch' run).1 = (s.answer B batch run).1) ∧
      ∃ j items, (s.answer B batch run).1.status = 200 ∧ Json.parse? (s.answer B batch run).1.body = some j ∧
        j.member? "total" = some (.nat qs.length) ∧ j.member? "results" = some (.arr items) ∧
        items.length = qs.length ∧
        ∀ i item q, items[i]? = some item → qs[i]? = some q → item.member? "index" = some (.nat i) ∧
          ((∃ hasBug bugs, Succeeds item hasBug bugs) ∨ ∃ error, Fails item error) ∧
          ∀ single, single.AsksAbout q.code →
            (∀ hasBug bugs, Succeeds item hasBug bugs ↔ (s.answer B single run).1.Finds hasBug bugs) ∧
            ∀ error, Fails item error ↔ (s.answer B single run).1.FailsWith error := by
  have hstands : run.Stands holds run.files := ⟨hrun, rfl⟩
  let result := outcomeOf reply s.detector
  have hlist : ∀ {r qs}, r.Lists qs →
      (s.answer B r run).1 = respondAll qs.length ((qs.map (·.code)).map fun code => .ofResult (result code)) :=
    fun h => (answer_list hB s h run hstands).1
  have hsingle : ∀ {r code}, r.AsksAbout code → (s.answer B r run).1 = respond s.detector (result code) :=
    fun h => (answer_single hB s h run hstands).1
  refine ⟨fun earlier r => answerAfter_eq hB s earlier r hrun, fun batch qs hbatch => ⟨?_, ?_⟩⟩
  · intro batch' qs' hbatch' hcodes
    have hlength : qs'.length = qs.length := by simpa using congrArg List.length hcodes
    rw [hlist hbatch', hlist hbatch, hcodes, hlength]
  · let outcomes := (qs.map (·.code)).map fun code => Outcome.ofResult (result code)
    have hlength : outcomes.length = qs.length := by simp [outcomes]
    obtain ⟨j, hj, htotal, hresults⟩ := parse?_respondAll (hlength ▸ length_of_lists hbatch)
    rw [hlength] at hj htotal
    refine ⟨j, _, ?_, ?_, htotal, hresults, ?_, ?_⟩
    · rw [hlist hbatch]
      rfl
    · rw [hlist hbatch]
      exact hj
    · rw [List.length_mapIdx, hlength]
    · intro i item q hitem hq
      have hoc : outcomes[i]? = some (.ofResult (result q.code)) := by simp [outcomes, hq]
      obtain rfl : itemRead i (.ofResult (result q.code)) = item := by
        rw [List.getElem?_mapIdx, hoc] at hitem
        exact Option.some.inj hitem
      refine ⟨index_itemRead _ _, ?_, fun single h => ?_⟩
      · simp only [succeeds_itemRead, fails_itemRead]
        cases Outcome.ofResult (result q.code) with
        | detected v => exact .inl ⟨_, _, v, rfl, rfl, rfl⟩
        | failed reason => exact .inr ⟨reason, rfl⟩
      · rw [hsingle h]
        refine ⟨fun hasBug bugs => ?_, fun error => ?_⟩
        · simp only [succeeds_itemRead, finds_respond, ofResult_eq_detected]
        · rw [fails_itemRead, failsWith_respond, ofResult_eq_failed]

/-- A script that fails for one snippet and finds a bug in another, behind a request that names an artifact. -/
theorem batch_agrees_scripted :
    let script : Script :=
      ⟨[("strcpy", .reply (Script.markedReply "True" "[\x7b\"bug_type_id\": \"A.1\"\x7d]")), ("gets", .fail "down")],
        fun _ => none, [], none, []⟩
    let s : Service := ⟨.base .hierarchical, ⟨"models"⟩⟩
    let run := Run.start script .empty
    let batch : Request := ⟨"POST", "/batch-detect", some "application/json",
      "[\x7b\"code\": \"strcpy(a, b);\", \"model_path\": \"tuned.json\"\x7d, \x7b\"code\": \"gets(a);\"\x7d]"⟩
    let single : Request := ⟨"POST", "/detect", some "application/json", "\x7b\"code\": \"gets(a);\"\x7d"⟩
    batch.Lists [⟨"strcpy(a, b);", some "tuned.json"⟩, ⟨"gets(a);", none⟩] ∧ single.AsksAbout "gets(a);" ∧
    (s.answerAfter Script.backend [single, batch] batch run).1 = (s.answer Script.backend batch run).1 ∧
    ∃ j items, Json.parse? (s.answer Script.backend batch run).1.body = some j ∧
      j.member? "results" = some (.arr items) ∧ items.length = 2 ∧
      ∀ item, items[1]? = some item →
        ∀ error, Fails item error ↔ (s.answer Script.backend single run).1.FailsWith error := by
  intro script s run batch single
  have hbatch : batch.Lists [⟨"strcpy(a, b);", some "tuned.json"⟩, ⟨"gets(a);", none⟩] :=
    ⟨rfl, by decide +kernel, readBody_of_decode? (by decide +kernel) (by decide +kernel) (by decide +kernel)⟩
  have hsingle : single.AsksAbout "gets(a);" :=
    ⟨rfl, by decide +kernel, readBody_of_decode? (by decide +kernel) (by decide +kernel) (by decide +kernel)⟩
  obtain ⟨hafter, hagree⟩ := batch_agrees script.backend_steady s run ⟨[], rfl⟩
  obtain ⟨-, j, items, -, hj, -, hresults, hlength, hitems⟩ := hagree batch _ hbatch
  refine ⟨hbatch, hsingle, hafter _ _, j, items, hj, hresults, hlength, fun item hitem => ?_⟩
  exact ((hitems 1 item _ hitem rfl).2.2 single hsingle).2

end SnippetAudit.Service

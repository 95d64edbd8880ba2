import SnippetAudit.Backend.Script
import SnippetAudit.Proofs.Backend.Logged
import SnippetAudit.Proofs.Text.Search
import Mathlib.Data.List.Infix

/-!
# The replay of a script

A call waits when no rule and no responder answers its prompt (`Script.Waits`). What a call gets is settled by its prompt
and by the number of calls that waited before it (`Script.Gets`): the waiting ones get what is queued, one step each, and
then the last resort.

- This is a function of the script (`Script.gets_iff`). One call gets what is due, and takes a step from the queue when it
  waits (`Script.complete_fst`, `Script.complete_snd`).
- Of calls in a row each gets what is due behind the ones before (`Script.getElem?_serve`), and the waiting ones together
  play the queue from its front (`Script.waiting_serve`). A call that does not wait might as well not be made
  (`Script.serve_eraseIdx`).
-/

namespace SnippetAudit.Script

variable {s : Script} {prompt : String} {prompts : List String} {step : Step} {n : Nat} {answer : Answer}

/-! ## Who answers a prompt -/

/-- The prompt holds the text of no rule. -/
def Unruled (s : Script) (prompt : String) : Prop := ∀ rule ∈ s.rules, ¬rule.1.toList <:+: prompt.toList

instance (s : Script) (prompt : String) : Decidable (s.Unruled prompt) :=
  List.decidableBAll (fun rule : String × Step => ¬rule.1.toList <:+: prompt.toList) s.rules

/-- The first rule whose text the prompt holds has this answer. -/
def Ruled (s : Script) (prompt : String) (step : Step) : Prop := ∃ before needle after,
  s.rules = before ++ (needle, step) :: after ∧ needle.toList <:+: prompt.toList ∧
    ∀ rule ∈ before, ¬rule.1.toList <:+: prompt.toList

/-- No rule and no responder answers the prompt. -/
def Waits (s : Script) (prompt : String) : Prop := s.Unruled prompt ∧ s.responder prompt = none

instance (s : Script) (prompt : String) : Decidable (s.Waits prompt) :=
  inferInstanceAs (Decidable (s.Unruled prompt ∧ s.responder prompt = none))

theorem rule?_eq_none_iff : s.rule? prompt = none ↔ s.Unruled prompt := by
  simp only [rule?, Option.map_eq_none_iff, List.find?_eq_none, Text.holds_iff, Unruled]

theorem rule?_eq_some_iff : s.rule? prompt = some step ↔ s.Ruled prompt step := by
  constructor
  · intro h
    obtain ⟨⟨needle, step'⟩, hfind, rfl⟩ := Option.map_eq_some_iff.1 h
    obtain ⟨hholds, before, after, hrules, hbefore⟩ := List.find?_eq_some_iff_append.1 hfind
    refine ⟨before, needle, after, hrules, Text.holds_iff.1 hholds, fun rule hrule hneedle => ?_⟩
    have hnot : Text.holds prompt rule.1 = false := by simpa using hbefore rule hrule
    exact Bool.eq_false_iff.1 hnot (Text.holds_iff.2 hneedle)
  · rintro ⟨before, needle, after, hrules, hneedle, hbefore⟩
    refine Option.map_eq_some_iff.2 ⟨(needle, step), ?_, rfl⟩
    refine List.find?_eq_some_iff_append.2 ⟨Text.holds_iff.2 hneedle, before, after, hrules, fun rule hrule => ?_⟩
    have hnot : Text.holds prompt rule.1 = false := Bool.eq_false_iff.2 (mt Text.holds_iff.1 (hbefore rule hrule))
    simpa using hnot

theorem direct?_of_ruled (h : s.Ruled prompt step) : s.direct? prompt = some step := by
  rw [direct?, rule?_eq_some_iff.2 h]

theorem direct?_of_unruled (h : s.Unruled prompt) : s.direct? prompt = (s.responder prompt).map .reply := by
  rw [direct?, rule?_eq_none_iff.2 h]

theorem direct?_eq_none_iff : s.direct? prompt = none ↔ s.Waits prompt := by
  rw [Waits, ← rule?_eq_none_iff, direct?]
  cases s.rule? prompt with
  | some step => simp
  | none => simp

/-! ## What a call gets -/

/-- What a call gets that nothing else answers. -/
def lastResort (s : Script) : Answer := s.fallback.elim (.error .emptyCompletion) fun text => (Step.reply text).answer

/-- What a call gets before which `n` calls have waited. -/
inductive Gets (s : Script) (n : Nat) (prompt : String) : Answer → Prop
  | ruled {step : Step} (h : s.Ruled prompt step) : Gets s n prompt step.answer
  | responded {text : String} (hrules : s.Unruled prompt) (h : s.responder prompt = some text) :
    Gets s n prompt (.ok ⟨text, "scripted"⟩)
  | queued {step : Step} (hwaits : s.Waits prompt) (h : s.queue[n]? = some step) : Gets s n prompt step.answer
  | exhausted (hwaits : s.Waits prompt) (h : s.queue.length ≤ n) : Gets s n prompt s.lastResort

/-- What `Gets` tells, as a function. -/
def due (s : Script) (n : Nat) (prompt : String) : Answer :=
  (((s.direct? prompt).or s.queue[n]?).map Step.answer).getD s.lastResort

theorem due_of_direct? (h : s.direct? prompt = some step) (n : Nat) : s.due n prompt = step.answer := by
  rw [due, h]
  rfl

theorem due_of_waits (h : s.Waits prompt) (n : Nat) :
    s.due n prompt = ((s.queue[n]?).map Step.answer).getD s.lastResort := by
  rw [due, direct?_eq_none_iff.2 h, Option.none_or]

/-- **What a call gets is settled.** -/
theorem gets_iff : s.Gets n prompt answer ↔ answer = s.due n prompt := by
  constructor
  · intro h
    cases h with
    | ruled h => exact (due_of_direct? (direct?_of_ruled h) n).symm
    | @responded text hrules h =>
      have hdirect : s.direct? prompt = some (.reply text) := by rw [direct?_of_unruled hrules, h, Option.map_some]
      exact (due_of_direct? hdirect n).symm
    | queued hwaits h => rw [due_of_waits hwaits, h, Option.map_some, Option.getD_some]
    | exhausted hwaits h => rw [due_of_waits hwaits, List.getElem?_eq_none h, Option.map_none, Option.getD_none]
  · rintro rfl
    by_cases hwaits : s.Waits prompt
    · rw [due_of_waits hwaits]
      cases hstep : s.queue[n]? with
      | some step => exact .queued hwaits hstep
      | none => exact .exhausted hwaits (List.getElem?_eq_none_iff.1 hstep)
    · cases hrule : s.rule? prompt with
      | some step =>
        have hruled := rule?_eq_some_iff.1 hrule
        rw [due_of_direct? (direct?_of_ruled hruled)]
        exact .ruled hruled
      | none =>
        have hrules := rule?_eq_none_iff.1 hrule
        obtain ⟨text, htext⟩ := Option.ne_none_iff_exists'.1 fun hsilent => hwaits ⟨hrules, hsilent⟩
        rw [due_of_direct? (by rw [direct?_of_unruled hrules, htext, Option.map_some])]
        exact .responded hrules htext

/-- The number of prompts that wait. -/
def waitingIn (s : Script) (prompts : List String) : Nat := prompts.countP (s.Waits ·)

/-- A script that was asked some prompts. -/
def asked (s : Script) (prompts : List String) : Script :=
  { s with queue := s.queue.drop (s.waitingIn prompts), prompts := s.prompts ++ prompts }

theorem waitingIn_of_waits (h : s.Waits prompt) (prompts : List String) :
    s.waitingIn (prompt :: prompts) = s.waitingIn prompts + 1 :=
  List.countP_cons_of_pos (decide_eq_true h)

theorem waitingIn_of_not_waits (h : ¬s.Waits prompt) (prompts : List String) :
    s.waitingIn (prompt :: prompts) = s.waitingIn prompts :=
  List.countP_cons_of_neg (by simpa using h)

theorem waitingIn_append (s : Script) (xs ys : List String) :
    s.waitingIn (xs ++ ys) = s.waitingIn xs + s.waitingIn ys :=
  List.countP_append

/-- Who answers a prompt stays the same. -/
theorem waits_asked (s : Script) (prompts : List String) : (s.asked prompts).Waits prompt ↔ s.Waits prompt := Iff.rfl

theorem asked_append (s : Script) (xs ys : List String) : (s.asked xs).asked ys = s.asked (xs ++ ys) := by
  have hqueue : (s.queue.drop (s.waitingIn xs)).drop ((s.asked xs).waitingIn ys) =
      s.queue.drop (s.waitingIn (xs ++ ys)) := by
    rw [List.drop_drop, waitingIn_append]
    rfl
  have hprompts : s.prompts ++ xs ++ ys = s.prompts ++ (xs ++ ys) := List.append_assoc _ _ _
  simp only [asked, hprompts] at hqueue ⊢
  rw [hqueue]

theorem asked_of_waits (h : s.Waits prompt) :
    s.asked [prompt] = { s with queue := s.queue.drop 1, prompts := s.prompts ++ [prompt] } := by
  rw [asked, waitingIn_of_waits h]
  rfl

theorem asked_of_not_waits (h : ¬s.Waits prompt) :
    s.asked [prompt] = { s with prompts := s.prompts ++ [prompt] } := by
  rw [asked, waitingIn_of_not_waits h]
  rfl

/-- What a call gets behind others. -/
theorem due_asked (s : Script) (prompts : List String) (n : Nat) (prompt : String) :
    (s.asked prompts).due n prompt = s.due (s.waitingIn prompts + n) prompt := by
  have hstep : (s.asked prompts).queue[n]? = s.queue[s.waitingIn prompts + n]? := List.getElem?_drop
  rw [due, due, hstep]
  rfl

/-! ## One call -/

theorem complete_of_direct? (h : s.direct? prompt = some step) :
    s.complete prompt = (step.answer, { s with prompts := s.prompts ++ [prompt] }) := by
  have hdirect : { s with prompts := s.prompts ++ [prompt] }.direct? prompt = some step := h
  simp only [complete, hdirect]

theorem complete_of_waits (h : s.Waits prompt) :
    s.complete prompt =
      (s.due 0 prompt, { s with queue := s.queue.drop 1, prompts := s.prompts ++ [prompt] }) := by
  have hdirect : { s with prompts := s.prompts ++ [prompt] }.direct? prompt = none := direct?_eq_none_iff.2 h
  rw [due_of_waits h]
  simp only [complete, hdirect, play]
  cases s.queue with
  | cons step rest => rfl
  | nil => cases hfallback : s.fallback <;> simp [lastResort, hfallback]

/-- **What one call gets.** -/
theorem complete_fst (s : Script) (prompt : String) : (s.complete prompt).1 = s.due 0 prompt := by
  cases hdirect : s.direct? prompt with
  | none => rw [complete_of_waits (direct?_eq_none_iff.1 hdirect)]
  | some step => rw [complete_of_direct? hdirect, due_of_direct? hdirect]

/-- **A call takes a step from the queue when it waits**, and nothing otherwise. -/
theorem complete_snd (s : Script) (prompt : String) : (s.complete prompt).2 = s.asked [prompt] := by
  by_cases hwaits : s.Waits prompt
  · rw [complete_of_waits hwaits, asked_of_waits hwaits]
  · obtain ⟨step, hstep⟩ := Option.ne_none_iff_exists'.1 (mt direct?_eq_none_iff.1 hwaits)
    rw [complete_of_direct? hstep, asked_of_not_waits hwaits]

/-! ## Calls in a row -/

/-- The answers to some prompts, one after another, and the script behind them. -/
def serve : List String → Script → List Answer × Script
  | [], s => ([], s)
  | prompt :: prompts, s =>
    let (answer, s) := s.complete prompt
    let (answers, s) := serve prompts s
    (answer :: answers, s)

theorem serve_cons (s : Script) (prompt : String) (prompts : List String) :
    s.serve (prompt :: prompts) =
      ((s.complete prompt).1 :: ((s.asked [prompt]).serve prompts).1, ((s.asked [prompt]).serve prompts).2) := by
  rw [← complete_snd]
  rfl

theorem length_serve (prompts : List String) : ∀ s : Script, (s.serve prompts).1.length = prompts.length := by
  induction prompts with
  | nil => exact fun _ => rfl
  | cons prompt prompts ih =>
    intro s
    rw [serve_cons, List.length_cons, ih, List.length_cons]

/-- **What is left of a script** by some prompts. -/
theorem serve_snd (prompts : List String) : ∀ s : Script, (s.serve prompts).2 = s.asked prompts := by
  induction prompts with
  | nil =>
    intro s
    simp [serve, asked, waitingIn]
  | cons prompt prompts ih =>
    intro s
    rw [serve_cons, ih, asked_append, List.singleton_append]

theorem serve_append (xs ys : List String) :
    ∀ s : Script, (s.serve (xs ++ ys)).1 = (s.serve xs).1 ++ ((s.asked xs).serve ys).1 := by
  induction xs with
  | nil =>
    intro s
    simp [serve, asked, waitingIn]
  | cons prompt xs ih =>
    intro s
    rw [List.cons_append, serve_cons, serve_cons, ih, asked_append, List.singleton_append, List.cons_append]

/-- **What each call gets.** -/
theorem getElem?_serve {i : Nat} (h : prompts[i]? = some prompt) (s : Script) :
    (s.serve prompts).1[i]? = some (s.due (s.waitingIn (prompts.take i)) prompt) := by
  induction prompts generalizing i s with
  | nil => cases h
  | cons first prompts ih =>
    rw [serve_cons]
    cases i with
    | zero =>
      obtain rfl := Option.some.inj h
      rw [List.getElem?_cons_zero, complete_fst]
      rfl
    | succ i =>
      have hcount : s.waitingIn [first] + s.waitingIn (prompts.take i) = s.waitingIn (first :: prompts.take i) :=
        (s.waitingIn_append [first] (prompts.take i)).symm
      rw [List.getElem?_cons_succ] at h ⊢
      rw [ih h, due_asked, List.take_succ_cons, ← hcount]
      rfl

/-- The answers that the waiting ones among some calls got. -/
def waiting (s : Script) (prompts : List String) (answers : List Answer) : List Answer :=
  ((prompts.zip answers).filter fun call => s.Waits call.1).map (·.2)

theorem waiting_cons_of_waits (h : s.Waits prompt) (answer : Answer) (prompts : List String) (answers : List Answer) :
    s.waiting (prompt :: prompts) (answer :: answers) = answer :: s.waiting prompts answers := by
  simp [waiting, h]

theorem waiting_cons_of_not_waits (h : ¬s.Waits prompt) (answer : Answer) (prompts : List String)
    (answers : List Answer) : s.waiting (prompt :: prompts) (answer :: answers) = s.waiting prompts answers := by
  simp [waiting, h]

/-- **The waiting calls play the queue from its front**, and then the last resort. -/
theorem waiting_serve (prompts : List String) : ∀ s : Script, s.waiting prompts (s.serve prompts).1 =
    (s.queue.take (s.waitingIn prompts)).map Step.answer ++
      List.replicate (s.waitingIn prompts - s.queue.length) s.lastResort := by
  induction prompts with
  | nil =>
    intro s
    simp [serve, waiting, waitingIn]
  | cons prompt prompts ih =>
    intro s
    -- those behind play what the first call leaves in the queue
    have hrest : s.waiting prompts ((s.asked [prompt]).serve prompts).1 =
        ((s.asked [prompt]).queue.take (s.waitingIn prompts)).map Step.answer ++
          List.replicate (s.waitingIn prompts - (s.asked [prompt]).queue.length) s.lastResort := ih (s.asked [prompt])
    rw [serve_cons]
    by_cases hwaits : s.Waits prompt
    · rw [waiting_cons_of_waits hwaits, hrest, asked_of_waits hwaits, complete_fst, due_of_waits hwaits,
        waitingIn_of_waits hwaits]
      cases s.queue with
      | nil => simp [List.replicate_succ]
      | cons step rest => simp
    · rw [waiting_cons_of_not_waits hwaits, hrest, asked_of_not_waits hwaits, waitingIn_of_not_waits hwaits]

/-- What was asked before shows in the queue only. -/
theorem serve_prompts (prompts : List String) : ∀ (s : Script) (before : List String),
    ({ s with prompts := before }.serve prompts).1 = (s.serve prompts).1 := by
  induction prompts with
  | nil => exact fun _ _ => rfl
  | cons prompt prompts ih =>
    intro s before
    have hfirst : ({ s with prompts := before }.complete prompt).1 = (s.complete prompt).1 := by
      rw [complete_fst, complete_fst]
      rfl
    have hrest : (({ s with prompts := before }.asked [prompt]).serve prompts).1 =
        ((s.asked [prompt]).serve prompts).1 := ih (s.asked [prompt]) (before ++ [prompt])
    rw [serve_cons, serve_cons, hfirst, hrest]

/-- **A call that does not wait might as well not be made.** -/
theorem serve_eraseIdx (h : ¬s.Waits prompt) (before after : List String) :
    (s.serve (before ++ after)).1 = (s.serve (before ++ prompt :: after)).1.eraseIdx before.length := by
  have hrest : (((s.asked before).asked [prompt]).serve after).1 = ((s.asked before).serve after).1 := by
    rw [asked_of_not_waits ((waits_asked s before).not.2 h)]
    exact serve_prompts after _ _
  rw [serve_append, serve_append, serve_cons, hrest,
    List.eraseIdx_append_of_length_le (Nat.le_of_eq (length_serve before s)), length_serve, Nat.sub_self,
    List.eraseIdx_cons_zero]

/-- **A script plays its queue once and in order.** The waiting calls get the queued steps, one each from the front, and
then the last resort. Every call gets what its prompt and the number of waiting calls before it tell, and one that does
not wait changes nothing for the others. In the end the steps that were played are gone, and every prompt is recorded. -/
theorem serve_replays (s : Script) (prompts : List String) :
    s.waiting prompts (s.serve prompts).1 =
      (s.queue.take (s.waitingIn prompts)).map Step.answer ++
        List.replicate (s.waitingIn prompts - s.queue.length) s.lastResort ∧
    (s.serve prompts).1.length = prompts.length ∧
    (∀ i prompt answer, prompts[i]? = some prompt →
      ((s.serve prompts).1[i]? = some answer ↔ s.Gets (s.waitingIn (prompts.take i)) prompt answer)) ∧
    (∀ before prompt after, prompts = before ++ prompt :: after → ¬s.Waits prompt →
      (s.serve (before ++ after)).1 = (s.serve prompts).1.eraseIdx before.length) ∧
    (s.serve prompts).2 =
      { s with queue := s.queue.drop (s.waitingIn prompts), prompts := s.prompts ++ prompts } := by
  refine ⟨waiting_serve prompts s, length_serve prompts s, ?_, ?_, serve_snd prompts s⟩
  · intro i prompt answer h
    rw [getElem?_serve h, Option.some_inj, gets_iff]
    exact eq_comm
  · rintro before prompt after rfl hwaits
    exact serve_eraseIdx hwaits before after

/-- A script with all kinds of answers. -/
def mixed : Script :=
  [Step.reply "first", .fail "down"].foldl enqueue
    (((always "fallback").addRule "boom" (.fail "refused")).respondWith
      fun prompt => if prompt = "hey!" then some "loud" else none)

/-- The calls in between take nothing from the queue. -/
theorem serve_replays_mixed :
    let prompts := ["a", "boom", "b", "hey!", "c"]
    (prompts[4]? = some "c" ∧ prompts = ["a"] ++ "boom" :: ["b", "hey!", "c"] ∧ ¬mixed.Waits "boom") ∧
      mixed.waiting prompts (mixed.serve prompts).1 =
        [.ok ⟨"first", "scripted"⟩, .error (.network "down"), .ok ⟨"fallback", "scripted"⟩] ∧
      (mixed.serve prompts).1[4]? = some (.ok ⟨"fallback", "scripted"⟩) ∧
      (mixed.serve ["a", "b", "hey!", "c"]).1 = (mixed.serve prompts).1.eraseIdx 1 ∧
      (mixed.serve prompts).2.prompts = prompts := by
  intro prompts
  have hwaits : ¬mixed.Waits "boom" := by decide +kernel
  have hcount : mixed.waitingIn prompts = 3 := by decide +kernel
  have hbefore : mixed.waitingIn (prompts.take 4) = 2 := by decide +kernel
  have hlast : mixed.Waits "c" := by decide +kernel
  have hqueue : mixed.queue = [.reply "first", .fail "down"] := queue_foldl_enqueue _ _
  obtain ⟨hplayed, -, hgets, herase, hleft⟩ := serve_replays mixed prompts
  refine ⟨⟨rfl, rfl, hwaits⟩, ?_, ?_, herase ["a"] "boom" ["b", "hey!", "c"] rfl hwaits, ?_⟩
  · rw [hplayed, hcount, hqueue]
    rfl
  · refine (hgets 4 "c" _ rfl).2 ?_
    rw [hbefore]
    exact .exhausted hlast (by rw [hqueue]; exact Nat.le_refl 2)
  · rw [hleft]
    rfl

end SnippetAudit.Script

import SnippetAudit.Optimizer.Reflective

/-!
# What is shown to a model

A prompt shows solved demos, and a request for better instructions shows lost samples: both are texts about numbered
items, one after another (`Numbered`), as the text joined from them is (`numbered_join`).

- Every prompt of a program shows its demos, each as a snippet with the two sections of its answer (`ShowsDemo`,
  `Demo.sections`, `Program.shows_demos`).
- A request shows the instructions, and the first lost samples up to the bound, each with what was expected and what was
  predicted (`Reflective.ShowsLoss`, `Reflective.shows_request`).
-/

namespace SnippetAudit

/-! ## Numbered items -/

/-- A text about items one after another, the first of them numbered `number`. -/
inductive Numbered {α : Type} (About : Nat → α → String → Prop) : (number : Nat) → List α → (text : String) → Prop
  | nil {number : Nat} : Numbered About number [] ""
  | cons {number : Nat} {a : α} {as : List α} {text rest : String} (first : About number a text)
      (others : Numbered About (number + 1) as rest) : Numbered About number (a :: as) (text ++ rest)

/-- **A text joined from numbered items is about them.** -/
theorem numbered_join {α : Type} {About : Nat → α → String → Prop} (as : List α) :
    ∀ {number : Nat} {f : Nat → α → String}, (∀ i a, About (number + i) a (f i a)) →
      Numbered About number as (String.join (as.mapIdx f)) := by
  induction as with
  | nil =>
    intro number f h
    exact .nil
  | cons a as ih =>
    intro number f h
    rw [List.mapIdx_cons, String.join_cons]
    refine .cons (h 0 a) (ih fun i a => ?_)
    rw [Nat.add_right_comm]
    exact h (i + 1) a

/-! ## Demos -/

/-- The text about a demo: its snippet, then its answer. -/
def ShowsDemo (number : Nat) (d : Demo) (text : String) : Prop :=
  text = "\nExample " ++ toString number ++ ":\n" ++ "Code snippet:\n" ++ d.snippet ++ "\n" ++ d.answer

/-- The prompts of a program show its demos, under a headline of their own where there are any. -/
structure Program.ShowsDemos (p : Program) : Prop where
  listed : ∃ text, Numbered ShowsDemo 1 p.demos text ∧
    renderDemos p.demos = if p.demos = [] then "" else "\nSolved examples:\n" ++ text
  prompted : ∀ snippet, ∃ before after, p.render snippet = before ++ renderDemos p.demos ++ after

/-- The answer of a demo is two sections. -/
theorem Demo.sections (d : Demo) : d.answer =
    "[[ ## has_bug ## ]]" ++ "\n" ++ (if d.hasBug then "True" else "False") ++ "\n" ++
      "[[ ## bug_details ## ]]" ++ "\n" ++ d.details ++ "\n" := by
  have hhasBug : Reply.marker "has_bug" = "[[ ## has_bug ## ]]" := by decide +kernel
  have hdetails : Reply.marker "bug_details" = "[[ ## bug_details ## ]]" := by decide +kernel
  unfold answer
  rw [hhasBug, hdetails]

theorem Demo.shows_render (index : Nat) (d : Demo) : ShowsDemo (1 + index) d (d.render index) := by
  unfold ShowsDemo render snippetHeader
  rw [Nat.add_comm]

/-- **A prompt shows the demos of its program.** -/
theorem Program.shows_demos (p : Program) : p.ShowsDemos where
  listed := by
    refine ⟨_, numbered_join p.demos Demo.shows_render, ?_⟩
    unfold renderDemos
    simp only [List.isEmpty_iff]
  prompted := by
    intro snippet
    refine ⟨p.instructions ++ "\n\n" ++ renderTypes p.taxonomy,
      "\n" ++ Demo.snippetHeader ++ snippet ++ "\n" ++ renderFormat p.taxonomy, ?_⟩
    unfold render
    simp only [String.append_assoc]

/-! ## Requests -/

namespace Reflective

variable (c : Reflective)

/-- The text about a lost sample. Of its snippet only the first characters are shown, up to a bound. -/
def ShowsLoss (number : Nat) (l : Loss) (text : String) : Prop :=
  ∃ code : String, code.toList <+: l.sample.snippet.toList ∧
    code.toList.length = min c.maxSnippet l.sample.snippet.toList.length ∧
    text = "Example " ++ toString number ++ " (score " ++ Number.fixed 2 l.score ++ "):\n" ++
      "Snippet:\n" ++ code ++ "\n" ++
      "Expected: " ++ "has_bug=" ++ toString l.sample.hasBug ++ " bug_details=" ++ l.sample.details ++ "\n" ++
      "Predicted: " ++ l.predicted ++ "\n" ++
      "Feedback: " ++ l.feedback ++ "\n\n"

/-- A request that shows instructions and lost samples, and asks for better instructions. -/
def Shows (instructions : String) (losses : List Loss) (prompt : String) : Prop :=
  ∃ text, Numbered (ShowsLoss c) 1 losses text ∧ prompt =
    "You are improving the instructions given to a model that finds bugs in C code.\n\n" ++
      "Current instructions:\n" ++ instructions ++
      "\n\nThe model lost points on these examples:\n\n" ++ text ++
      "Write improved instructions that avoid these mistakes and still ask for the " ++
      "has_bug and bug_details fields. Put them after the line\n" ++
      "[[ ## instructions ## ]]" ++ "\n"

theorem shows_text (index : Nat) (l : Loss) : ShowsLoss c (1 + index) l (l.text c index) := by
  refine ⟨String.ofList (l.sample.snippet.toList.take c.maxSnippet), ?_, ?_, ?_⟩
  · rw [String.toList_ofList]
    exact List.take_prefix _ _
  · rw [String.toList_ofList, List.length_take]
  · rw [Nat.add_comm]
    unfold Loss.text answerText
    simp only [String.append_assoc]

/-- **A request shows its instructions and the first lost samples.** -/
theorem shows_request (instructions : String) (losses : List Loss) :
    Shows c instructions (losses.take c.maxShown) (c.request instructions losses) := by
  have hmarker : Reply.marker sectionName = "[[ ## instructions ## ]]" := by decide +kernel
  refine ⟨_, numbered_join (losses.take c.maxShown) (shows_text c), ?_⟩
  unfold request
  rw [hmarker]

end Reflective
end SnippetAudit

import SnippetAudit.Backend.Script
import SnippetAudit.Proofs.Text.Search
import Mathlib.Data.List.Infix

/-!
# The snippet of a prompt

A prompt ends with its snippet, whatever else the program puts into it. The snippet header has no line break but the one
at its end, and it does not occur in the demanded form of the answer (`Program.not_infix_renderFormat`). So behind the
last header no other is begun, unless the snippet itself holds one (`Program.not_infix_behindHeader`), and what follows
is the snippet and the form of the answer (`Program.render_snippet`).
-/

namespace SnippetAudit

open Text (LastAt)

namespace Demo

/-- A snippet that holds no snippet header, also with the line break that follows it in a prompt. -/
def Headless (s : String) : Prop := ¬snippetHeader.toList <:+: s.toList ++ ['\n']

instance (s : String) : Decidable (Headless s) :=
  inferInstanceAs (Decidable ¬snippetHeader.toList <:+: s.toList ++ ['\n'])

/-- The last line of a snippet can be a header, too. -/
example : Headless "Code snippet: a" ∧ ¬Headless "int a;\nCode snippet:" := by decide +kernel

theorem snippetHeader_eq : snippetHeader.toList = "Code snippet:".toList ++ ['\n'] := by decide +kernel

/-- An occurrence of the header does not reach over a line break. -/
theorem header_infix_iff {a b : List Char} : snippetHeader.toList <:+: a ++ '\n' :: b ↔
    snippetHeader.toList <:+: a ++ ['\n'] ∨ snippetHeader.toList <:+: b := by
  rw [snippetHeader_eq]
  exact Text.infix_append_cons_iff (by decide +kernel)

end Demo

namespace Program

open Demo (snippetHeader header_infix_iff Headless)

variable {s s' : String}

/-! ## The form of the answer -/

/-- The type id in the example of the demanded answer. -/
def exampleId (t : Taxonomy) : String := (t.entries.head?.map (·.1)).getD ""

/-- The header starts with a letter that is nowhere in the demanded form of the answer. -/
theorem not_mem_renderFormat (t : Taxonomy) : 'C' ∉ (renderFormat t).toList := by
  have hid : 'C' ∉ (exampleId t).toList := by
    cases t <;> decide +kernel
  unfold renderFormat
  rw [← exampleId]
  simp only [renderSlot, Reply.marker, Reply.completedName, String.toList_append, List.mem_append, not_or,
    -String.reduceAppend, -String.reduceToList]
  simpa using hid

theorem not_infix_renderFormat (t : Taxonomy) : ¬snippetHeader.toList <:+: (renderFormat t).toList := by
  intro h
  have hmem : 'C' ∈ snippetHeader.toList := by decide +kernel
  exact not_mem_renderFormat t (h.subset hmem)

/-- The forms of two answers differ in the type id only. -/
theorem exampleId_of_renderFormat {t t' : Taxonomy} {a b : List Char}
    (h : a ++ (renderFormat t).toList = b ++ (renderFormat t').toList) :
    ∃ a' b', a' ++ (exampleId t).toList = b' ++ (exampleId t').toList := by
  unfold renderFormat at h
  rw [← exampleId, ← exampleId] at h
  -- as variables, so that no id is unfolded in the search for a common end
  generalize exampleId t = id at h ⊢
  generalize exampleId t' = id' at h ⊢
  simp only [String.toList_append, ← List.append_assoc, List.append_cancel_right_eq, -String.reduceAppend,
    -String.reduceToList] at h
  exact ⟨_, _, h⟩

/-- The taxonomy can be told from the demanded form of the answer, whatever stands before that. -/
theorem taxonomy_eq_of_renderFormat {t t' : Taxonomy} {a b : List Char}
    (h : a ++ (renderFormat t).toList = b ++ (renderFormat t').toList) : t = t' := by
  obtain ⟨a', b', hid⟩ := exampleId_of_renderFormat h
  -- the last character but one is a point in one id, and a digit in the other
  have hlast := congrArg (fun l => l.reverse[1]?) hid
  cases t with
  | hierarchical =>
    cases t' with
    | hierarchical => rfl
    | legacy => simp [exampleId, Taxonomy.entries] at hlast
  | legacy =>
    cases t' with
    | hierarchical => simp [exampleId, Taxonomy.entries] at hlast
    | legacy => rfl

/-! ## Behind the last header -/

/-- What follows the last header. -/
def behindHeader (t : Taxonomy) (s : String) : List Char := s.toList ++ '\n' :: (renderFormat t).toList

theorem toList_behindHeader (t : Taxonomy) (s : String) : (s ++ "\n" ++ renderFormat t).toList = behindHeader t s := by
  simp [behindHeader]

/-- **Behind the last header no other is begun.** -/
theorem not_infix_behindHeader (h : Headless s) (t : Taxonomy) :
    ¬snippetHeader.toList <:+: (snippetHeader.toList ++ behindHeader t s).tail := by
  have htail : (snippetHeader.toList ++ behindHeader t s).tail = "ode snippet:".toList ++ '\n' :: behindHeader t s := by
    have hheader : snippetHeader.toList = 'C' :: ("ode snippet:".toList ++ ['\n']) := by decide +kernel
    rw [hheader, List.cons_append, List.tail_cons, List.append_assoc, List.singleton_append]
  have hbegun : ¬snippetHeader.toList <:+: "ode snippet:".toList ++ ['\n'] := by decide +kernel
  have hbehind : ¬snippetHeader.toList <:+: behindHeader t s := by
    rw [behindHeader, header_infix_iff]
    exact not_or.2 ⟨h, not_infix_renderFormat t⟩
  rw [htail, header_infix_iff]
  exact not_or.2 ⟨hbegun, hbehind⟩

/-- It tells the snippet and the taxonomy. -/
theorem behindHeader_inj {t t' : Taxonomy} (h : behindHeader t s = behindHeader t' s') : s = s' ∧ t = t' := by
  have htaxonomy : t = t' := by
    rw [behindHeader, behindHeader, List.append_cons, List.append_cons s'.toList] at h
    exact taxonomy_eq_of_renderFormat h
  subst htaxonomy
  exact ⟨String.toList_inj.1 (List.append_cancel_right h), rfl⟩

/-! ## Prompts -/

/-- What stands in a prompt before its last header. -/
def beforeHeader (p : Program) : List Char :=
  (p.instructions ++ "\n\n" ++ renderTypes p.taxonomy ++ renderDemos p.demos ++ "\n").toList

theorem toList_render (p : Program) (s : String) :
    (p.render s).toList = p.beforeHeader ++ (snippetHeader.toList ++ behindHeader p.taxonomy s) := by
  simp [render, beforeHeader, behindHeader]

theorem lastAt_render (h : Headless s) (p : Program) :
    LastAt snippetHeader.toList p.beforeHeader (behindHeader p.taxonomy s) (p.render s).toList := by
  rw [toList_render]
  exact Text.lastAt_of_not_infix (not_infix_behindHeader h p.taxonomy) p.beforeHeader

theorem tail?_render (h : Headless s) (p : Program) :
    Script.tail? (p.render s) = some (snippetHeader.toList ++ behindHeader p.taxonomy s) := by
  rw [Script.tail?, toList_render]
  exact Text.fromLast_append (by decide +kernel) (not_infix_behindHeader h p.taxonomy) p.beforeHeader

/-- **A prompt ends with its snippet.** For a snippet that holds no snippet header, what follows the last header of the
prompt is the snippet, a line break, and the demanded form of the answer. Instructions and demos show nowhere from that
header on, and no prompt for another such snippet, or for another taxonomy, is the same. -/
theorem render_snippet (p : Program) (s : String) (h : Headless s) :
    (∃ before, LastAt snippetHeader.toList before (s ++ "\n" ++ renderFormat p.taxonomy).toList (p.render s).toList) ∧
    (∀ instructions demos, Script.tail? (render ⟨p.taxonomy, instructions, demos⟩ s) =
      some (snippetHeader ++ (s ++ "\n" ++ renderFormat p.taxonomy)).toList) ∧
    ∀ (q : Program) (s' : String), Headless s' → p.render s = q.render s' → s = s' ∧ p.taxonomy = q.taxonomy := by
  refine ⟨⟨p.beforeHeader, ?_⟩, fun instructions demos => ?_, fun q s' h' heq => ?_⟩
  · rw [toList_behindHeader]
    exact lastAt_render h p
  · rw [tail?_render h, String.toList_append, toList_behindHeader]
  · have htail := tail?_render h p
    rw [heq, tail?_render h' q, Option.some.injEq] at htail
    exact behindHeader_inj (List.append_cancel_left htail).symm

/-- A program that shows the header in its instructions and in every part of a demo. -/
def crowded : Program where
  taxonomy := .legacy
  instructions := "Code snippet:\nint a;"
  demos := [⟨"Code snippet:\n", true, "Code snippet:\nCode snippet:\n"⟩]

theorem render_snippet_crowded : Headless "Code snippet;" ∧ ∃ before, LastAt snippetHeader.toList before
    ("Code snippet;" ++ "\n" ++ renderFormat .legacy).toList (crowded.render "Code snippet;").toList := by
  have h : Headless "Code snippet;" := by decide +kernel
  exact ⟨h, (render_snippet crowded _ h).1⟩

end Program
end SnippetAudit

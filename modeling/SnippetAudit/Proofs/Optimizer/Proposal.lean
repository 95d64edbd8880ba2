import SnippetAudit.Optimizer.Reflective
import SnippetAudit.Proofs.Reply.Section
import Mathlib.Data.List.Infix

/-!
# The proposal in a reply

A reply proposes what stands in it behind the first marker of the instructions (`Text.Behind`) and up to the first end
marker after that (`Text.UpTo`), trimmed, unless that is blank (`Reflective.proposal?_eq_some_iff`). Two markers of a name
never overlap (`Reply.unbordered_marker`). So where a text without a marker ends and the marker follows, that is the
first one, and instructions that are laid out between the two are found (`Reflective.behind_opening`,
`Reflective.upTo_closing`).
-/

namespace SnippetAudit.Reflective

open Text (Behind Blank Trimmed UpTo trim)

/-- The marker that the instructions stand behind. -/
abbrev opening : List Char := (Reply.marker sectionName).toList

/-- The marker that ends them. -/
abbrev closing : List Char := (Reply.marker Reply.completedName).toList

variable {p t body kept : List Char} {reply text : String}

/-! ## What a reply proposes -/

theorem proposal?_of_parts (hbody : Behind opening reply.toList body) (hkept : UpTo closing body kept) :
    proposal? reply = if (trim kept).isEmpty then none else some (String.ofList (trim kept)) := by
  cases hbody with
  | found hopening =>
    have hopens := Text.cutAt_eq_some_iff.2 hopening
    cases hkept with
    | found hclosing => simp only [proposal?, hopens, Text.cutAt_eq_some_iff.2 hclosing]
    | absent hclosing => simp only [proposal?, hopens, Text.cutAt_eq_none_iff.2 hclosing]
  | absent hopening =>
    have hopens := Text.cutAt_eq_none_iff.2 hopening
    cases hkept with
    | found hclosing => simp only [proposal?, hopens, Text.cutAt_eq_some_iff.2 hclosing]
    | absent hclosing => simp only [proposal?, hopens, Text.cutAt_eq_none_iff.2 hclosing]

/-- **What a reply proposes** is trimmed text from between the markers, as far as they are there. -/
theorem proposal?_eq_some_iff : proposal? reply = some text ↔ ∃ body kept, Behind opening reply.toList body ∧
    UpTo closing body kept ∧ ¬Blank kept ∧ text = String.ofList (trim kept) := by
  constructor
  · intro h
    obtain ⟨body, hbody⟩ := Text.exists_behind opening reply.toList
    obtain ⟨kept, hkept⟩ := Text.exists_upTo closing body
    rw [proposal?_of_parts hbody hkept] at h
    split at h
    · cases h
    · next hne =>
      rw [List.isEmpty_iff, Text.trim_eq_nil] at hne
      exact ⟨body, kept, hbody, hkept, hne, (Option.some.inj h).symm⟩
  · rintro ⟨body, kept, hbody, hkept, hblank, rfl⟩
    rw [proposal?_of_parts hbody hkept, if_neg (by rwa [List.isEmpty_iff, Text.trim_eq_nil])]

/-- The instructions start behind the first of their markers, whatever was ended before it. -/
theorem behind_opening (hp : ¬opening <:+: p) (rest : List Char) : Behind opening (p ++ (opening ++ rest)) rest :=
  .found (Text.firstAt_append (Reply.unbordered_marker (by decide)) hp rest)

/-- They go on to the end marker, whatever is opened again in them. -/
theorem upTo_closing (ht : ¬closing <:+: t) (rest : List Char) :
    UpTo closing ('\n' :: (t ++ '\n' :: (closing ++ rest))) ('\n' :: (t ++ ['\n'])) := by
  have hnewline : '\n' ∉ closing := Reply.not_mem_marker (by decide) (by decide)
  have hframed : ¬closing <:+: [] ++ '\n' :: (t ++ '\n' :: []) := by
    rw [Text.infix_append_cons_iff_of_not_mem hnewline, Text.infix_append_cons_iff_of_not_mem hnewline, List.infix_nil]
    exact not_or.2 ⟨Reply.marker_ne_nil _, not_or.2 ⟨ht, Reply.marker_ne_nil _⟩⟩
  have hfirst := Text.firstAt_append (Reply.unbordered_marker (by decide)) hframed rest
  simp only [List.nil_append, List.cons_append, List.append_assoc] at hfirst
  exact .found hfirst

/-- **Instructions are read back** from between their markers, whatever stands around these; and what is read from any
reply at all is a text with no blank at its ends and without an end marker. -/
theorem proposal?_between :
    (∀ before instructions after : String, ¬opening <:+: before.toList → ¬Blank instructions.toList →
      ¬closing <:+: instructions.toList →
      proposal? (before ++ Reply.marker sectionName ++ "\n" ++ instructions ++ "\n" ++
        Reply.marker Reply.completedName ++ after) = some (Text.trimmed instructions)) ∧
    ∀ reply text, proposal? reply = some text → text ≠ "" ∧ Trimmed text.toList ∧ ¬closing <:+: text.toList := by
  constructor
  · intro before instructions after hbefore hblank hinstructions
    have hframe : trim ('\n' :: (instructions.toList ++ ['\n'])) = trim instructions.toList := by
      have hnewline : Blank ['\n'] := by decide
      rw [← List.singleton_append, Text.trim_blank_append hnewline, Text.trim_append_blank hnewline]
    refine proposal?_eq_some_iff.2 ⟨_, _, ?_, upTo_closing hinstructions after.toList, ?_, ?_⟩
    · have hbehind := behind_opening hbefore ('\n' :: (instructions.toList ++ '\n' :: (closing ++ after.toList)))
      simpa [opening, closing] using hbehind
    · rwa [← Text.trim_eq_nil, hframe, Text.trim_eq_nil]
    · rw [hframe, Text.trimmed]
  · intro reply text h
    obtain ⟨body, kept, -, hkept, hblank, rfl⟩ := proposal?_eq_some_iff.1 h
    rw [String.toList_ofList]
    refine ⟨?_, Text.trimmed_trim kept, fun hholds => ?_⟩
    · intro hempty
      exact hblank (Text.trim_eq_nil.1 (String.ofList_eq_empty_iff.1 hempty))
    · exact hkept.not_infix (Reply.marker_ne_nil _) (hholds.trans (Text.trim_infix kept))

/-- Behind an end marker, with both markers within or behind. -/
theorem proposal?_between_repeated :
    let before := "Done. [[ ## completed ## ]]\n"
    let instructions := "  Put them behind [[ ## instructions ## ]].\t"
    let after := "[[ ## instructions ## ]] [[ ## completed ## ]]"
    let reply := before ++ Reply.marker sectionName ++ "\n" ++ instructions ++ "\n" ++
      Reply.marker Reply.completedName ++ after
    let text := "Put them behind [[ ## instructions ## ]]."
    (¬opening <:+: before.toList ∧ ¬Blank instructions.toList ∧ ¬closing <:+: instructions.toList) ∧
      proposal? reply = some text ∧ text ≠ "" ∧ Trimmed text.toList ∧ ¬closing <:+: text.toList := by
  intro before instructions after reply text
  have hbefore : ¬opening <:+: before.toList := by decide +kernel
  have hblank : ¬Blank instructions.toList := by decide +kernel
  have hinstructions : ¬closing <:+: instructions.toList := by decide +kernel
  have htrimmed : Text.trimmed instructions = text := by decide +kernel
  have hread := proposal?_between.1 before instructions after hbefore hblank hinstructions
  rw [htrimmed] at hread
  exact ⟨⟨hbefore, hblank, hinstructions⟩, hread, proposal?_between.2 reply text hread⟩

end SnippetAudit.Reflective

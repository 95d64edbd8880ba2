import SnippetAudit.Reply.Basic
import SnippetAudit.Proofs.Reply.Section
import SnippetAudit.Proofs.Text.Lines
import Mathlib.Data.List.Induction

/-!
# What stands under a name

The text under a name can be told without taking the completion apart: it is made of the lines whose nearest marker
line before them has that name (`bodyUnder`). A completion that has a section is read as just that (`declared`).

* Line by line: one more line is under the name on the nearest marker line, if it is none itself (`linesUnder_concat`).
  So lines behind each other add up (`linesUnder_append_plain`), and all that counts of the lines in front is what they
  put under the name, and their nearest marker line (`linesUnder_append_congr`).
* Every text is written as sections behind lines of none (`exists_written`), and `Section.split` finds these
  (`Section.split_written`). Under a name are the bodies of its sections (`Written.linesUnder`).
* Hence the reply does not see what stands under other names (`Edited`), nor where a section stands among those of other
  names (`Moved`): `ofCompletion_declared`.
-/

namespace SnippetAudit.Reply

open Text (trim lines unlines)

/-- Lines that are no marker lines. -/
def Plain (ls : List (List Char)) : Prop := ∀ l ∈ ls, markerName? l = none

instance (ls : List (List Char)) : Decidable (Plain ls) := List.decidableBAll (fun l => markerName? l = none) ls

theorem plain_concat {ls : List (List Char)} {l : List Char} :
    Plain (ls ++ [l]) ↔ Plain ls ∧ markerName? l = none := by
  rw [Plain, List.forall_mem_append, List.forall_mem_singleton, Plain]

/-! ## Lines under a name -/

/-- The name on the nearest marker line, looking back over some lines. -/
def nearest? (before : List (List Char)) : Option (List Char) := before.reverse.findSome? markerName?

/-- The lines that are no marker lines and have the name on the nearest marker line before them. -/
def linesUnder (name : List Char) (ls : List (List Char)) : List (List Char) :=
  (ls.zipIdx.filter fun (l, i) => markerName? l = none ∧ nearest? (ls.take i) = some name).map Prod.fst

/-- The text under a name. -/
def bodyUnder (name : String) (ls : List (List Char)) : List Char := unlines (linesUnder name.toList ls)

theorem nearest?_append (a b : List (List Char)) : nearest? (a ++ b) = (nearest? b).or (nearest? a) := by
  rw [nearest?, List.reverse_append, List.findSome?_append, nearest?, nearest?]

theorem nearest?_append_plain {b : List (List Char)} (h : Plain b) (a : List (List Char)) :
    nearest? (a ++ b) = nearest? a := by
  have hb : nearest? b = none := List.findSome?_eq_none_iff.2 fun l hl => h l (List.mem_reverse.1 hl)
  rw [nearest?_append, hb, Option.none_or]

theorem nearest?_concat_marker {l name : List Char} (h : markerName? l = some name) (a : List (List Char)) :
    nearest? (a ++ [l]) = some name := by
  have hl : nearest? [l] = some name := by
    rw [nearest?, List.reverse_singleton, List.findSome?_cons, h]
  rw [nearest?_append, hl, Option.some_or]

/-- **One more line** is under the name of the nearest marker line, unless it is a marker line. -/
theorem linesUnder_concat (name : List Char) (ls : List (List Char)) (l : List Char) :
    linesUnder name (ls ++ [l]) =
      linesUnder name ls ++ if markerName? l = none ∧ nearest? ls = some name then [l] else [] := by
  have hold : (ls.zipIdx.filter fun (l', i) => markerName? l' = none ∧ nearest? ((ls ++ [l]).take i) = some name) =
      ls.zipIdx.filter fun (l', i) => markerName? l' = none ∧ nearest? (ls.take i) = some name := by
    refine List.filter_congr ?_
    rintro ⟨l', i⟩ hp
    have hlt : i < ls.length := by simpa using (List.mem_zipIdx hp).2.1
    simp only [List.take_append_of_le_length (Nat.le_of_lt hlt)]
  rw [linesUnder, List.zipIdx_append, List.filter_append, List.map_append, hold, linesUnder]
  congr 1
  rw [List.zipIdx_singleton, Nat.zero_add]
  by_cases h : markerName? l = none ∧ nearest? ls = some name
  · rw [if_pos h, List.filter_cons_of_pos (by simpa using h)]
    rfl
  · rw [if_neg h, List.filter_cons_of_neg (by simpa using h)]
    rfl

theorem linesUnder_concat_marker {l name' : List Char} (h : markerName? l = some name') (name : List Char)
    (ls : List (List Char)) : linesUnder name (ls ++ [l]) = linesUnder name ls := by
  rw [linesUnder_concat, if_neg (by simp [h]), List.append_nil]

/-- Lines that are no marker lines are under the name in front of them. -/
theorem linesUnder_append_plain {b : List (List Char)} (h : Plain b) (name : List Char) (a : List (List Char)) :
    linesUnder name (a ++ b) = linesUnder name a ++ if nearest? a = some name then b else [] := by
  induction b using List.reverseRecOn with
  | nil => simp
  | append_singleton b l ih =>
    obtain ⟨hb, hl⟩ := plain_concat.1 h
    rw [← List.append_assoc, linesUnder_concat, ih hb, nearest?_append_plain hb]
    by_cases hname : nearest? a = some name
    · rw [if_pos hname, if_pos ⟨hl, hname⟩, if_pos hname, List.append_assoc]
    · rw [if_neg hname, if_neg fun h => hname h.2, if_neg hname, List.append_nil]

/-- Of the lines in front, only what they put under the name and their nearest marker line count. -/
theorem linesUnder_append_congr {name : List Char} {a a' : List (List Char)} (hnear : nearest? a' = nearest? a)
    (h : linesUnder name a' = linesUnder name a) (b : List (List Char)) :
    linesUnder name (a' ++ b) = linesUnder name (a ++ b) := by
  induction b using List.reverseRecOn with
  | nil => rw [List.append_nil, List.append_nil, h]
  | append_singleton b l ih =>
    rw [← List.append_assoc, ← List.append_assoc, linesUnder_concat, linesUnder_concat, ih, nearest?_append a' b,
      nearest?_append a b, hnear]

/-! ## Sections as they are written -/

/-- A section as it stands in a text: its marker line, and lines that are none. -/
structure Block where
  line : List Char
  name : List Char
  body : List (List Char)
  marked : markerName? line = some name
  plain : Plain body

namespace Block

def lines (b : Block) : List (List Char) := b.line :: b.body

/-- The section that is read. -/
def toSection (b : Block) : Section := ⟨b.name, b.body⟩

end Block

/-- Lines are written as some sections, one behind the other, behind lines of none. -/
def Written (ls : List (List Char)) (blocks : List Block) : Prop :=
  ∃ before, Plain before ∧ ls = before ++ blocks.flatMap Block.lines

/-- **Every text is written as sections.** -/
theorem exists_written (ls : List (List Char)) : ∃ blocks, Written ls blocks := by
  induction ls with
  | nil => exact ⟨[], [], fun _ h => absurd h List.not_mem_nil, rfl⟩
  | cons l ls ih =>
    obtain ⟨blocks, before, hbefore, rfl⟩ := ih
    cases hl : markerName? l with
    | none => exact ⟨blocks, l :: before, List.forall_mem_cons.2 ⟨hl, hbefore⟩, rfl⟩
    | some name =>
      exact ⟨⟨l, name, before, hl, hbefore⟩ :: blocks, [], fun _ h => absurd h List.not_mem_nil, rfl⟩

namespace Section

theorem split_blocks (blocks : List Block) :
    split (blocks.flatMap Block.lines) = ([], blocks.map Block.toSection) := by
  induction blocks with
  | nil => rfl
  | cons b blocks ih =>
    have hb := split_section b.marked b.plain (by rw [ih] : (split (blocks.flatMap Block.lines)).1 = [])
    rw [List.flatMap_cons, Block.lines, List.cons_append, hb, ih]
    rfl

/-- **The sections that are written are found.** -/
theorem split_written {ls : List (List Char)} {blocks : List Block} (h : Written ls blocks) :
    (split ls).2 = blocks.map Block.toSection := by
  obtain ⟨before, hbefore, rfl⟩ := h
  rw [split_append hbefore, split_blocks]

end Section

namespace Written

variable {ls : List (List Char)} {blocks : List Block}

/-- **Under a name are the bodies of its sections**, in their order. -/
theorem linesUnder (h : Written ls blocks) (name : List Char) :
    linesUnder name ls = (blocks.filter (·.name = name)).flatMap Block.body := by
  obtain ⟨before, hbefore, rfl⟩ := h
  induction blocks using List.reverseRecOn with
  | nil =>
    have hnear : nearest? [] ≠ some name := (Option.some_ne_none name).symm
    rw [List.flatMap_nil, List.append_nil, ← List.nil_append before, linesUnder_append_plain hbefore, if_neg hnear]
    rfl
  | append_singleton blocks b ih =>
    have hsplit : before ++ (blocks ++ [b]).flatMap Block.lines =
        ((before ++ blocks.flatMap Block.lines) ++ [b.line]) ++ b.body := by
      simp [Block.lines]
    rw [hsplit, linesUnder_append_plain b.plain, linesUnder_concat_marker b.marked, ih,
      nearest?_concat_marker b.marked, List.filter_append, List.flatMap_append]
    congr 1
    by_cases hname : b.name = name
    · simp [hname]
    · simp [hname]

/-- The text under a name joins its sections. -/
theorem bodyUnder (h : Written ls blocks) (name : String) :
    bodyUnder name ls = (blocks.filter (·.name = name.toList)).flatMap fun b => unlines b.body := by
  rw [Reply.bodyUnder, h.linesUnder, unlines, List.flatMap_assoc]
  rfl

/-- A marker line opens one of the sections. -/
theorem exists_block (h : Written ls blocks) {l name : List Char} (hl : l ∈ ls) (hname : markerName? l = some name) :
    ∃ b ∈ blocks, b.name = name := by
  have hnone : ∀ {ls' : List (List Char)}, Plain ls' → l ∉ ls' := by
    intro ls' hls hmem
    rw [hls l hmem] at hname
    cases hname
  obtain ⟨before, hbefore, rfl⟩ := h
  obtain ⟨b, hb, hlb⟩ := List.mem_flatMap.1 ((List.mem_append.1 hl).resolve_left (hnone hbefore))
  rcases List.mem_cons.1 hlb with rfl | hlb
  · exact ⟨b, hb, Option.some.inj (b.marked.symm.trans hname)⟩
  · exact absurd hlb (hnone b.plain)

/-- What is read under a name is what is written under it. -/
theorem body? (h : Written ls blocks) (name : String) :
    (Section.body? name (Section.split ls).2).getD [] = Reply.bodyUnder name ls := by
  rw [Section.split_written h, h.bodyUnder, Section.body?, List.filter_map]
  have hnamed : (blocks.filter ((·.name == name.toList) ∘ Block.toSection)) =
      blocks.filter (·.name = name.toList) := by
    refine List.filter_congr fun b _ => ?_
    exact beq_eq_decide _ _
  rw [hnamed]
  cases hfound : blocks.filter (·.name = name.toList) with
  | nil => rfl
  | cons b bs => simp [Block.toSection, List.flatMap_map]

end Written

/-! ## The reply -/

/-- Some marker line has another name than the end of a reply. -/
def HasSection (ls : List (List Char)) : Prop :=
  ∃ l ∈ ls, ∃ name, markerName? l = some name ∧ name ≠ completedName.toList

/-- The names of the sections that are read. -/
def fieldNames : List String := ["reasoning", "has_bug", "bug_details"]

/-- The reply of what stands under the three names. -/
def declared (ls : List (List Char)) : Reply where
  reasoning :=
    let reasoning := trim (bodyUnder "reasoning" ls)
    if reasoning = [] then none else some (String.ofList reasoning)
  hasBug := String.ofList (trim (bodyUnder "has_bug" ls))
  details := String.ofList (unfencedJson (trim (bodyUnder "bug_details" ls)))

theorem declared_congr {ls ls' : List (List Char)} (h : ∀ f ∈ fieldNames, bodyUnder f ls' = bodyUnder f ls) :
    declared ls' = declared ls := by
  simp only [fieldNames, List.forall_mem_cons] at h
  obtain ⟨hreasoning, hclaim, hdetails, -⟩ := h
  rw [declared, declared, hreasoning, hclaim, hdetails]

theorem ofSections_split (ls : List (List Char)) : ofSections (Section.split ls).2 = declared ls := by
  obtain ⟨blocks, h⟩ := exists_written ls
  have hempty : trim [] = [] := rfl
  have hunfenced : unfencedJson [] = [] := by decide
  rw [ofSections, declared, ← h.body?, ← h.body?, ← h.body?, Section.field?, Section.field?, Section.field?,
    Reply.mk.injEq]
  refine ⟨?_, ?_, ?_⟩
  · cases Section.body? "reasoning" (Section.split ls).2 with
    | none => rfl
    | some body =>
      by_cases hbody : trim body = []
      · simp [hbody]
      · simp [hbody]
  · cases Section.body? "has_bug" (Section.split ls).2 with
    | none => rfl
    | some body => rfl
  · cases Section.body? "bug_details" (Section.split ls).2 with
    | none =>
      show String.ofList [] = String.ofList (unfencedJson (trim []))
      rw [hempty, hunfenced]
    | some body => rfl

theorem ofCompletion_of_hasSection {completion : String} (h : HasSection (lines completion.toList)) :
    ofCompletion completion = declared (lines completion.toList) := by
  obtain ⟨blocks, hwritten⟩ := exists_written (lines completion.toList)
  obtain ⟨l, hl, name, hname, hne⟩ := h
  obtain ⟨b, hb, rfl⟩ := hwritten.exists_block hl hname
  have hany : (Section.ofText completion.toList).any (·.name ≠ completedName.toList) = true := by
    rw [Section.ofText, Section.split_written hwritten]
    exact List.any_eq_true.2 ⟨b.toSection, List.mem_map_of_mem hb, decide_eq_true hne⟩
  rw [ofCompletion, if_pos hany, Section.ofText, ofSections_split]

/-! ## What the reply does not see -/

/-- Lines were exchanged for others where none of the three names is in front of them: before the first marker line,
or under another name. -/
inductive Edited : List (List Char) → List (List Char) → Prop
  | exchange {before m m' : List (List Char)} (hm : Plain m) (hm' : Plain m')
      (hnear : ∀ f ∈ fieldNames, nearest? before ≠ some f.toList) (after : List (List Char)) :
      Edited (before ++ m ++ after) (before ++ m' ++ after)

/-- Neighbouring sections of different names changed places, any number of times. -/
inductive Moved (blocks : List Block) : List Block → Prop
  | refl : Moved blocks blocks
  | swap {a c : List Block} {b b' : Block} (h : Moved blocks (a ++ b :: b' :: c)) (hname : b.name ≠ b'.name) :
      Moved blocks (a ++ b' :: b :: c)

section Unseen

variable {ls ls' : List (List Char)} {blocks blocks' : List Block}

theorem Edited.bodyUnder (h : Edited ls ls') : ∀ f ∈ fieldNames, bodyUnder f ls' = bodyUnder f ls := by
  intro f hf
  obtain ⟨hm, hm', hnear, after⟩ := h
  rw [Reply.bodyUnder, Reply.bodyUnder]
  congr 1
  refine linesUnder_append_congr ?_ ?_ after
  · rw [nearest?_append_plain hm', nearest?_append_plain hm]
  · rw [linesUnder_append_plain hm', linesUnder_append_plain hm, if_neg (hnear f hf), if_neg (hnear f hf)]

theorem Edited.hasSection (h : Edited ls ls') (hs : HasSection ls) : HasSection ls' := by
  obtain ⟨l, hl, name, hname, hne⟩ := hs
  refine ⟨l, ?_, name, hname, hne⟩
  obtain ⟨hm, -, -, after⟩ := h
  rw [List.mem_append, List.mem_append] at hl ⊢
  rcases hl with (hl | hl) | hl
  · exact Or.inl (Or.inl hl)
  · rw [hm l hl] at hname
    cases hname
  · exact Or.inr hl

/-- The sections of each name are still the same, in the same order. -/
theorem Moved.filter (h : Moved blocks blocks') (name : List Char) :
    blocks'.filter (·.name = name) = blocks.filter (·.name = name) := by
  induction h with
  | refl => rfl
  | @swap a c b b' _ hname ih =>
    rw [← ih, List.filter_append, List.filter_append]
    congr 1
    -- only one of the two can have the name, so the filter does not tell them apart
    by_cases hb : b.name = name
    · have hb' : b'.name ≠ name := fun he => hname (hb.trans he.symm)
      simp [hb, hb']
    · simp [List.filter_cons, hb]

theorem Moved.mem (h : Moved blocks blocks') {b : Block} (hb : b ∈ blocks) : b ∈ blocks' := by
  have hmem : b ∈ blocks.filter (·.name = b.name) := List.mem_filter.2 ⟨hb, decide_eq_true rfl⟩
  rw [← h.filter] at hmem
  exact (List.mem_filter.1 hmem).1

theorem Moved.trans {blocks'' : List Block} (h : Moved blocks blocks') (h' : Moved blocks' blocks'') :
    Moved blocks blocks'' := by
  induction h' with
  | refl => exact h
  | swap _ hname ih => exact .swap ih hname

theorem Moved.cons (b : Block) (h : Moved blocks blocks') : Moved (b :: blocks) (b :: blocks') := by
  induction h with
  | refl => exact .refl
  | @swap a c b₁ b₂ _ hname ih => exact @Moved.swap _ (b :: a) c b₁ b₂ ih hname

/-- Sections of distinct names can be moved to any place. -/
theorem Moved.of_perm (h : blocks.Perm blocks') (hn : (blocks.map Block.name).Nodup) : Moved blocks blocks' := by
  induction h with
  | nil => exact .refl
  | cons b _ ih => exact (ih (List.nodup_cons.1 hn).2).cons b
  | swap b b' c =>
    have hne : b'.name ≠ b.name := fun he => (List.nodup_cons.1 hn).1 (he ▸ List.mem_cons_self)
    exact @Moved.swap _ [] c b' b .refl hne
  | trans h _ ih ih' => exact (ih hn).trans (ih' ((h.map Block.name).nodup_iff.1 hn))

theorem Moved.bodyUnder (h : Moved blocks blocks') (hw : Written ls blocks) (hw' : Written ls' blocks')
    (f : String) : bodyUnder f ls' = bodyUnder f ls := by
  rw [hw'.bodyUnder, hw.bodyUnder, h.filter]

theorem Written.hasSection (h : Written ls blocks) {b : Block} (hb : b ∈ blocks)
    (hname : b.name ≠ completedName.toList) : HasSection ls := by
  obtain ⟨before, -, rfl⟩ := h
  refine ⟨b.line, ?_, b.name, b.marked, hname⟩
  exact List.mem_append_right _ (List.mem_flatMap.2 ⟨b, hb, List.mem_cons_self⟩)

theorem Moved.hasSection (h : Moved blocks blocks') (hw : Written ls blocks) (hw' : Written ls' blocks')
    (hs : HasSection ls) : HasSection ls' := by
  obtain ⟨l, hl, name, hname, hne⟩ := hs
  obtain ⟨b, hb, rfl⟩ := hw.exists_block hl hname
  exact hw'.hasSection (h.mem hb) hne

end Unseen

/-- **A reply is what stands under its three names.** It does not change with what stands elsewhere; repeated sections
are joined in their order; and sections can be moved past those of other names. -/
theorem ofCompletion_declared {completion : String} (h : HasSection (lines completion.toList)) :
    ofCompletion completion = declared (lines completion.toList) ∧
      (∀ completion' : String, Edited (lines completion.toList) (lines completion'.toList) →
        ofCompletion completion' = ofCompletion completion) ∧
      (∃ blocks, Written (lines completion.toList) blocks) ∧
      ∀ blocks, Written (lines completion.toList) blocks →
        (∀ name : String, bodyUnder name (lines completion.toList) =
          (blocks.filter (·.name = name.toList)).flatMap fun b => unlines b.body) ∧
        (∀ (completion' : String) (blocks' : List Block), Written (lines completion'.toList) blocks' →
          Moved blocks blocks' → ofCompletion completion' = ofCompletion completion) ∧
        ((blocks.map Block.name).Nodup → ∀ (completion' : String) (blocks' : List Block),
          Written (lines completion'.toList) blocks' → blocks.Perm blocks' →
          ofCompletion completion' = ofCompletion completion) := by
  refine ⟨ofCompletion_of_hasSection h, ?_, exists_written _, fun blocks hw => ?_⟩
  · intro completion' hedit
    rw [ofCompletion_of_hasSection (hedit.hasSection h), ofCompletion_of_hasSection h]
    exact declared_congr hedit.bodyUnder
  have hmoved : ∀ (completion' : String) (blocks' : List Block), Written (lines completion'.toList) blocks' →
      Moved blocks blocks' → ofCompletion completion' = ofCompletion completion := by
    intro completion' blocks' hw' hm
    rw [ofCompletion_of_hasSection (hm.hasSection hw hw' h), ofCompletion_of_hasSection h]
    exact declared_congr fun f _ => hm.bodyUnder hw hw' f
  refine ⟨hw.bodyUnder, hmoved, ?_⟩
  intro hn completion' blocks' hw' hp
  exact hmoved completion' blocks' hw' (.of_perm hp hn)

/-- A reply with odd marker lines, two kinds of line ends and a section of an unknown name. -/
def odd : String :=
  "intro\r\n\t[[ ##  has_bug## ]] \r\nyes\r\n[[ ## notes ## ]]\nx\n" ++
    "[[ ## bug_details ## ]]\n\x60\x60\x60\n[]\n\x60\x60\x60"

/-- The same reply with another text under the unknown name. -/
def oddEdited : String :=
  "intro\r\n\t[[ ##  has_bug## ]] \r\nyes\r\n[[ ## notes ## ]]\n[[ ## has_bug\nno\n" ++
    "[[ ## bug_details ## ]]\n\x60\x60\x60\n[]\n\x60\x60\x60"

/-- The same reply with its last section in front and no text before it. -/
def oddMoved : String :=
  "[[ ## bug_details ## ]]\n\x60\x60\x60\n[]\n\x60\x60\x60\n\t[[ ##  has_bug## ]] \r\nyes\r\n" ++
    "[[ ## notes ## ]]\nx"

theorem ofCompletion_declared_odd : HasSection (lines odd.toList) ∧ ofCompletion odd = ⟨none, "yes", "[]"⟩ ∧
    ofCompletion oddEdited = ofCompletion odd ∧ ofCompletion oddMoved = ofCompletion odd := by
  let claim : Block := ⟨"\t[[ ##  has_bug## ]] ".toList, "has_bug".toList, ["yes".toList], by decide, by decide⟩
  let notes : Block := ⟨"[[ ## notes ## ]]".toList, "notes".toList, ["x".toList], by decide, by decide⟩
  let details : Block := ⟨"[[ ## bug_details ## ]]".toList, "bug_details".toList,
    ["\x60\x60\x60".toList, "[]".toList, "\x60\x60\x60".toList], by decide, by decide⟩
  have hwritten : Written (lines odd.toList) [claim, notes, details] :=
    ⟨["intro".toList], by decide, by decide +kernel⟩
  have hsection : HasSection (lines odd.toList) := hwritten.hasSection List.mem_cons_self (by decide)
  obtain ⟨hreply, hedit, -, hmove⟩ := ofCompletion_declared hsection
  refine ⟨hsection, ?_, ?_, ?_⟩
  · rw [hreply]
    decide +kernel
  · let before := ["intro".toList, claim.line, "yes".toList, notes.line]
    let other := ["[[ ## has_bug".toList, "no".toList]
    have hlines : lines odd.toList = before ++ ["x".toList] ++ details.lines := by decide +kernel
    have hlines' : lines oddEdited.toList = before ++ other ++ details.lines := by decide +kernel
    have hedited := @Edited.exchange before ["x".toList] other (by decide) (by decide) (by decide) details.lines
    rw [← hlines, ← hlines'] at hedited
    exact hedit oddEdited hedited
  · exact (hmove _ hwritten).2.2 (by decide) _ [details, claim, notes] ⟨[], by decide, by decide +kernel⟩
      (@List.perm_append_comm _ [claim, notes] [details])

end SnippetAudit.Reply

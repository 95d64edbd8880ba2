import SnippetAudit.Finding
import SnippetAudit.Sample
import SnippetAudit.Proofs.Json.Compact
import SnippetAudit.Proofs.Reply.Plain

/-!
# Findings are read as they were written

What `Findings.json` writes, `Findings.ofText` reads as the same bugs (`Findings.ofText_json`). The members of a finding
are not written in the order of their names, so they are looked up in the object that is read. The details of a label
are read as the bug it was built with, or none (`Sample.Built.findings`).
-/

namespace SnippetAudit

/-! ## One finding -/

namespace Finding

/-- A line number as it is written. -/
def lineJson : Option UInt32 → Json
  | some n => .nat n.toNat
  | none => .null

theorem reread_line (depth : Nat) (line : Option UInt32) :
    (lineJson line).printed.json? depth = some (lineJson line) ∧ line? (lineJson line) = line := by
  cases line with
  | none => exact ⟨rfl, rfl⟩
  | some n =>
    have hn : n.toNat < UInt64.size := Nat.lt_trans n.toNat_lt (by decide)
    constructor
    · rw [lineJson, Json.printed_nat hn]
      rfl
    · have hbound : (0 : Int) ≤ (n.toNat : Int) ∧ (n.toNat : Int) < (UInt32.size : Int) :=
        ⟨Int.natCast_nonneg _, Int.ofNat_lt.2 n.toNat_lt⟩
      rw [lineJson, Json.nat, line?, if_pos hbound, Int.toNat_natCast, UInt32.ofNat_toNat]

theorem reread_string (depth : Nat) (text : Option String) :
    (Json.strOrNull text).printed.json? depth = some (Json.strOrNull text) ∧
      (Json.strOrNull text).asString? = text := by
  cases text with
  | none => exact ⟨rfl, rfl⟩
  | some s => exact ⟨rfl, rfl⟩

/-- **A finding is read as it was written.** -/
theorem reread (depth : Nat) (f : Finding) :
    ∃ v, f.json.printed.json? (depth + 1) = some v ∧ ofJson? v = some f := by
  obtain ⟨line, code, typeId, explanation⟩ := f
  obtain ⟨hline, hline'⟩ := reread_line depth line
  obtain ⟨hcode, hcode'⟩ := reread_string depth code
  obtain ⟨htype, htype'⟩ := reread_string depth typeId
  obtain ⟨htext, htext'⟩ := reread_string depth explanation
  let ms : List (String × Json) := [("line_number", lineJson line), ("code_line", .strOrNull code),
    ("bug_type_id", .strOrNull typeId), ("explanation", .strOrNull explanation)]
  have hjson : (⟨line, code, typeId, explanation⟩ : Finding).json = .obj ms := by
    cases line <;> rfl
  refine ⟨.ofMembers ms, ?_, ?_⟩
  · rw [hjson, Json.printed, Json.Tree.json?]
    simp only [ms, Json.printedMembers, Json.Tree.jsonMembers?, hline, hcode, htype, htext, Option.map_some]
  · obtain ⟨ms', hms', -, -⟩ := Json.ofMembers_eq ms
    have hmember : ∀ name, (Json.obj ms').member? name = ms.reverse.lookup name := by
      intro name
      rw [← hms', Json.member?_ofMembers]
    rw [hms', ofJson?, hmember, hmember, hmember, hmember]
    have h₁ : ms.reverse.lookup "line_number" = some (lineJson line) := rfl
    have h₂ : ms.reverse.lookup "code_line" = some (.strOrNull code) := rfl
    have h₃ : ms.reverse.lookup "bug_type_id" = some (.strOrNull typeId) := rfl
    have h₄ : ms.reverse.lookup "explanation" = some (.strOrNull explanation) := rfl
    simp only [h₁, h₂, h₃, h₄, Option.bind_eq_bind, Option.bind_some, hline', hcode', htype', htext']

end Finding

/-! ## All of them -/

namespace Findings

/-- The member for a text that could not be read. -/
def rawMember (f : Findings) : List (String × Json) :=
  match f.raw? with
  | some raw => [("raw_response", .str raw)]
  | none => []

theorem reread_bugs (depth : Nat) (bugs : List Finding) :
    ∃ vs, Json.Tree.jsons? (depth + 1) (Json.printedItems (bugs.map Finding.json)) = some vs ∧
      vs.filterMap Finding.ofJson? = bugs := by
  induction bugs with
  | nil => exact ⟨[], rfl, rfl⟩
  | cons f bugs ih =>
    obtain ⟨v, hv, hf⟩ := f.reread depth
    obtain ⟨vs, hvs, hbugs⟩ := ih
    refine ⟨v :: vs, ?_, ?_⟩
    · rw [List.map_cons, Json.printedItems, Json.Tree.jsons?, hv, hvs]
      rfl
    · rw [List.filterMap_cons_some hf, hbugs]

/-- **Findings are read as the bugs that were written**, also those of a text that could not be read. -/
theorem ofText_json (f : Findings) : ofText f.json.compact = .listed f.bugs := by
  obtain ⟨vs, hvs, hbugs⟩ := reread_bugs 124 f.bugs
  let ms : List (String × Json) := ("bugs", .arr vs) :: f.rawMember
  have hread : f.json.printed.json? Json.depthLimit = some (.ofMembers ms) := by
    rw [json, Json.printed, Json.depthLimit, Json.Tree.json?, Json.printedMembers, Json.printed]
    simp only [Json.Tree.jsonMembers?, Json.Tree.json?, hvs, Option.map_some]
    cases f with
    | listed bugs => rfl
    | unread raw => rfl
  have hparse : Json.parse? f.json.compact = some (.ofMembers ms) := by
    rw [Json.parse?, Json.compact, String.toList_ofList]
    exact Json.parseChars?_eq_some.2 ⟨f.json.printed, (Json.spells_compact f.json).textOf, hread⟩
  have hmember : (Json.ofMembers ms).member? "bugs" = some (.arr vs) := by
    rw [Json.member?_ofMembers]
    cases f with
    | listed bugs => rfl
    | unread raw => rfl
  rw [ofText, hparse]
  simp only [ofJson, hmember, Option.bind_eq_bind, Option.bind_some, Json.asArray?, Option.getD_some, hbugs]

end Findings

/-! ## Labels -/

namespace Sample

/-- A sample that was built, with the bugs of its label. -/
inductive Built : Sample → List Finding → Prop
  | buggy (snippet typeId typeName : String) : Built (.buggy snippet typeId typeName)
      [⟨none, none, some typeId, some ("This code contains " ++ typeName)⟩]
  | clean (snippet : String) : Built (.clean snippet) []
  | withSource {s : Sample} {bugs : List Finding} (h : Built s bugs) (path : String) : Built (s.withSource path) bugs

/-- **A label is read as the bugs it was built with.** -/
theorem Built.findings {s : Sample} {bugs : List Finding} (h : s.Built bugs) :
    Findings.ofText s.details = .listed bugs := by
  induction h with
  | buggy snippet typeId typeName =>
    have hreadable : Json.Readable Json.depthLimit (.obj [("bugs", .arr [.obj
        [("bug_type", .str typeName), ("bug_type_id", .str typeId),
         ("explanation", .str ("This code contains " ++ typeName))]])]) := by
      refine .obj (List.forall_mem_singleton.2 (.arr (List.forall_mem_singleton.2 (.obj ?_ ?_)))) ?_
      · simp only [List.forall_mem_cons]
        exact ⟨.str _, .str _, .str _, fun _ h => absurd h List.not_mem_nil⟩
      · show List.Pairwise (· < ·) ["bug_type", "bug_type_id", "explanation"]
        decide
      · exact List.pairwise_singleton _ _
    exact Findings.ofText_compact hreadable
  | clean snippet =>
    have hreadable : Json.Readable Json.depthLimit (.obj [("bugs", .arr [])]) :=
      .obj (List.forall_mem_singleton.2 (.arr fun _ h => absurd h List.not_mem_nil)) (List.pairwise_singleton _ _)
    exact Findings.ofText_compact hreadable
  | withSource _ _ ih => exact ih

/-- A label claims a bug when it lists one. -/
theorem Built.hasBug {s : Sample} {bugs : List Finding} (h : s.Built bugs) : s.hasBug = !bugs.isEmpty := by
  induction h with
  | buggy snippet typeId typeName => rfl
  | clean snippet => rfl
  | withSource _ _ ih => exact ih

end Sample
end SnippetAudit

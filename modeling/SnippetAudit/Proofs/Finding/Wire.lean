import SnippetAudit.Report.Single
import SnippetAudit.Proofs.Finding
import SnippetAudit.Proofs.Json.Record

/-!
# Findings in every written form

Findings are written alone, without blanks, and as members of the indented record of a file. The strict reader takes
both: one finding is decoded as itself (`Finding.decoder_json`), so are all of them (`Findings.decoder_json`), and the
other members of a record make no difference (`Findings.decoder_after`). The lenient reader takes the same text as the
same findings, unless they are a text that could not be read (`Findings.decode_written`).
-/

namespace SnippetAudit

open Json (Decoder Field Slots slots_record)

/-! ## One finding -/

namespace Finding

theorem decoder_line (line : Option UInt32) : Decoder.nullable lineDecoder (lineJson line).printed = .ok line := by
  cases line with
  | none => rfl
  | some n =>
    have hdigits := Json.printed_nat (Nat.lt_trans n.toNat_lt (by decide : UInt32.size < UInt64.size))
    have hn : lineDecoder (Json.nat n.toNat).printed = .ok n := by
      rw [lineDecoder, Json.natBelow_printed n.toNat_lt (by decide), Except.map, UInt32.ofNat_toNat]
    -- the number is printed as digits, so it is not taken for a null
    rw [hdigits] at hn
    rw [lineJson, hdigits, Decoder.nullable, hn, Except.map]
    exact fun h => Json.Tree.noConfusion h

/-- **A finding is decoded as itself.** -/
theorem decoder_json (f : Finding) : decoder f.json.printed = .ok f := by
  obtain ⟨line, code, typeId, explanation⟩ := f
  have hline := decoder_line line
  have hcode := Json.nullable_strOrNull code
  have htype := Json.nullable_strOrNull typeId
  have htext := Json.nullable_strOrNull explanation
  have htree : (⟨line, code, typeId, explanation⟩ : Finding).json.printed =
      .obj [(some "line_number", (lineJson line).printed), (some "code_line", (Json.strOrNull code).printed),
        (some "bug_type_id", (Json.strOrNull typeId).printed),
        (some "explanation", (Json.strOrNull explanation).printed)] := by
    cases line <;> rfl
  rw [htree]
  generalize (lineJson line).printed = t₁ at hline ⊢
  generalize (Json.strOrNull code).printed = t₂ at hcode ⊢
  generalize (Json.strOrNull typeId).printed = t₃ at htype ⊢
  generalize (Json.strOrNull explanation).printed = t₄ at htext ⊢
  have hslots := @slots_record
    [.omitted "line_number" (.nullable lineDecoder), .omitted "code_line" (.nullable .string),
      .omitted "bug_type_id" (.nullable .string), .omitted "explanation" (.nullable .string)]
    [("line_number", t₁), ("code_line", t₂), ("bug_type_id", t₃), ("explanation", t₄)] (by decide)
    ⟨_, _, rfl, Json.check_ok hline, _, _, rfl, Json.check_ok hcode, _, _, rfl, Json.check_ok htype, _, _, rfl,
      Json.check_ok htext, rfl⟩
  simp only [List.map_cons, List.map_nil] at hslots
  rw [decoder, hslots]
  simp [bind, Except.bind, Slots.get?, Slots.getD, List.lookup_cons, hline, hcode, htype, htext, pure, Except.pure]

end Finding

/-! ## All of them -/

namespace Findings

/-- The members that findings are written as. -/
def members (f : Findings) : List (String × Json) := ("bugs", .arr (f.bugs.map Finding.json)) :: f.rawMember

theorem json_eq (f : Findings) : f.json = .obj f.members := by
  cases f <;> rfl

theorem fileJson_eq (file : String) (v : Verdict) :
    Report.fileJson file v = .obj ([("file", .str file), ("has_bug", .bool v.hasBug)] ++ v.findings.members) := by
  obtain ⟨hasBug, f, reasoning, completion⟩ := v
  cases f <;> rfl

/-- **Findings are decoded as themselves.** -/
theorem decoder_json (f : Findings) : decoder f.json.printed = .ok f := by
  have hbugs := Json.listOf_printed Finding.decoder_json f.bugs
  rw [json_eq, members, Json.printed, Json.printedMembers]
  generalize (Json.arr (f.bugs.map Finding.json)).printed = t at hbugs ⊢
  let fields : List Field := [.omitted "bugs" (.listOf Finding.decoder), .omitted "raw_response" (.nullable .string)]
  have hfirst : Json.Accepted fields ("bugs", t) := ⟨_, rfl, Json.check_ok hbugs⟩
  cases f with
  | listed bugs =>
    have hslots := @Json.slots_accepted fields [("bugs", t)] (by simp) (List.forall_mem_singleton.2 hfirst)
    simp only [List.map_cons, List.map_nil, fields] at hslots
    simp only [rawMember, raw?, Json.printedMembers, decoder, hslots]
    simp [bind, Except.bind, Slots.get?, Slots.getD, List.lookup_cons, hbugs, Findings.bugs, pure, Except.pure]
  | unread raw =>
    have hraw : Json.Accepted fields ("raw_response", .str (some raw)) := ⟨_, rfl, rfl⟩
    have hslots := @Json.slots_accepted fields [("bugs", t), ("raw_response", .str (some raw))] (by simp)
      (List.forall_mem_cons.2 ⟨hfirst, List.forall_mem_singleton.2 hraw⟩)
    simp only [List.map_cons, List.map_nil, fields] at hslots
    simp only [rawMember, raw?, Json.printedMembers, Json.printed, decoder, hslots]
    simp [bind, Except.bind, Slots.get?, Slots.getD, List.lookup_cons, hbugs, Decoder.nullable, Decoder.string,
      Except.map, pure, Except.pure]

/-- **Members of other names before them make no difference.** -/
theorem decoder_after {before : List (String × Json)} (h : ∀ m ∈ before, m.1 ≠ "bugs" ∧ m.1 ≠ "raw_response")
    (f : Findings) : decoder (Json.obj (before ++ f.members)).printed = .ok f := by
  have hunknown : ∀ m ∈ before, ([.omitted "bugs" (.listOf Finding.decoder),
      .omitted "raw_response" (.nullable .string)] : List Field).find? (·.name == m.1) = none := by
    intro m hm
    obtain ⟨hbugs, hraw⟩ := h m hm
    simp [Field.omitted, hbugs.symm, hraw.symm]
  have hf := decoder_json f
  rw [json_eq, Json.printed, decoder, Json.Tree.slots] at hf
  rw [Json.printed, decoder, Json.Tree.slots, Json.ofMembers_unknowns hunknown]
  exact hf

/-- **What is written is read.** The strict reader takes findings alone and in the record of a file; the lenient one
takes the same text, and gives the same findings just when they were read from JSON. -/
theorem decode_written (f : Findings) :
    Json.decode decoder f.json.compact.toList = .ok f ∧
      (∀ (file : String) (hasBug : Bool) (reasoning : Option String) (completion : String),
        Json.decode decoder (Report.fileJson file ⟨hasBug, f, reasoning, completion⟩).pretty.toList = .ok f) ∧
      (ofText f.json.compact = f ↔ f.isUnread = false) := by
  refine ⟨?_, ?_, ?_⟩
  · rw [Json.decode_compact, decoder_json]
  · intro file hasBug reasoning completion
    rw [Json.decode_pretty, fileJson_eq]
    exact decoder_after (by simp) f
  · rw [ofText_json]
    cases f with
    | listed bugs => exact iff_of_true rfl rfl
    | unread raw => exact iff_of_false Findings.noConfusion Bool.noConfusion

end Findings
end SnippetAudit

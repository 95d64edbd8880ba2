import SnippetAudit.Artifact.Basic
import SnippetAudit.Proofs.Archive.Gzip
import SnippetAudit.Proofs.Json.Compact
import SnippetAudit.Proofs.Json.Record
import SnippetAudit.Proofs.Time.Text

/-!
# Artifacts are read back

Every record of an artifact is read back from its JSON: taxonomies, demos and programs as they are, a version and an
instant too, and a score as some number where it was one (`decoder_score`). So the bytes of an artifact, plain or
compressed, decode to an artifact that keeps all but the last digits of its scores (`decode_encode`).
-/

namespace SnippetAudit

open Json (Decoder Accepted Field Tree slots_record)

/-! ## Programs -/

theorem Taxonomy.decoder_json (t : Taxonomy) : Taxonomy.decoder t.json.printed = .ok t := by
  cases t <;> rfl

theorem Demo.decoder_json (d : Demo) : Demo.decoder d.json.printed = .ok d := rfl

/-- **A program is read back.** -/
theorem Program.decoder_json (p : Program) : Program.decoder p.json.printed = .ok p := by
  have ht := Taxonomy.decoder_json p.taxonomy
  have hd := Json.listOf_printed Demo.decoder_json p.demos
  have hp : p.json.printed = .obj [(some "taxonomy", p.taxonomy.json.printed),
    (some "instructions", .str (some p.instructions)),
    (some "demos", (Json.arr (p.demos.map Demo.json)).printed)] := rfl
  rw [hp]
  generalize p.taxonomy.json.printed = t at ht ⊢
  generalize (Json.arr (p.demos.map Demo.json)).printed = ds at hd ⊢
  have hs := @slots_record
    [.required "taxonomy" Taxonomy.decoder, .required "instructions" Decoder.string,
      .omitted "demos" (.listOf Demo.decoder)]
    [("taxonomy", t), ("instructions", .str (some p.instructions)), ("demos", ds)] (by decide)
    ⟨_, _, rfl, Json.check_ok ht, _, _, rfl, rfl, _, _, rfl, Json.check_ok hd, rfl⟩
  simp only [List.map_cons, List.map_nil] at hs
  rw [decoder, hs]
  simp [bind, Except.bind, Json.Slots.get, Json.Slots.getD, ht, hd, Decoder.string, List.lookup_cons]
  rfl

namespace Artifact

/-! ## The other fields -/

theorem decoder_version (v : UInt32) : versionDecoder (Json.nat v.toNat).printed = .ok v := by
  rw [versionDecoder, Json.natBelow_printed v.toNat_lt (by decide), Except.map, UInt32.ofNat_toNat]

theorem decoder_instant {t : Instant} (h : t.isValid = true) : instantDecoder (Json.str t.text).printed = .ok t := by
  simp [instantDecoder, Json.printed, Decoder.string, bind, Except.bind, Instant.ofText?_text h, pure, Except.pure]

/-- **A finite score is read back as a score, and any other as none.** -/
theorem decoder_score (s : Option Float) :
    ∃ s', Decoder.nullable .float (scoreJson s).printed = .ok s' ∧ (s' = none ↔ ∀ x ∈ s, x.isFinite = false) := by
  cases s with
  | none => exact ⟨none, rfl, by simp⟩
  | some x =>
    have hscore : (scoreJson (some x)).printed = (Json.Num.real x).printed := by
      rw [scoreJson, Json.real, Json.printed]
    rw [hscore]
    rcases Json.Num.printed_real x with ⟨hx, y, hy⟩ | ⟨hx, hnull⟩
    · exact ⟨some y, by rw [hy]; rfl, by simp [hx]⟩
    · exact ⟨none, by rw [hnull]; rfl, by simp [hx]⟩

/-! ## The whole record -/

/-- What an artifact keeps when it is written and read. -/
structure Kept (a b : Artifact) : Prop where
  version : b.version = a.version
  createdAt : b.createdAt = a.createdAt
  optimizer : b.optimizer = a.optimizer
  program : b.program = a.program
  baselineScore : b.baselineScore = none ↔ ∀ x ∈ a.baselineScore, x.isFinite = false
  optimizedScore : b.optimizedScore = none ↔ ∀ x ∈ a.optimizedScore, x.isFinite = false

theorem decoder_json {a : Artifact} (h : a.createdAt.isValid = true) :
    ∃ b, decoder a.json.printed = .ok b ∧ a.Kept b := by
  obtain ⟨s, hs, hs'⟩ := decoder_score a.baselineScore
  obtain ⟨s₂, hs₂, hs₂'⟩ := decoder_score a.optimizedScore
  have hv := decoder_version a.version
  have ht := decoder_instant h
  have ho := Json.nullable_strOrNull a.optimizer
  have hp := Program.decoder_json a.program
  refine ⟨⟨a.version, a.createdAt, a.optimizer, s, s₂, a.program⟩, ?_, ⟨rfl, rfl, rfl, rfl, hs', hs₂'⟩⟩
  have htree : a.json.printed = .obj [(some "format_version", (Json.nat a.version.toNat).printed),
      (some "created_at", (Json.str a.createdAt.text).printed),
      (some "optimizer", (Json.strOrNull a.optimizer).printed),
      (some "baseline_score", (scoreJson a.baselineScore).printed),
      (some "optimized_score", (scoreJson a.optimizedScore).printed), (some "program", a.program.json.printed)] := rfl
  rw [htree]
  generalize (Json.nat a.version.toNat).printed = tv at hv ⊢
  generalize (Json.str a.createdAt.text).printed = tt at ht ⊢
  generalize (Json.strOrNull a.optimizer).printed = tn at ho ⊢
  generalize (scoreJson a.baselineScore).printed = ts at hs ⊢
  generalize (scoreJson a.optimizedScore).printed = ts₂ at hs₂ ⊢
  generalize a.program.json.printed = tp at hp ⊢
  have hslots := @slots_record
    [.required "format_version" versionDecoder, .required "created_at" instantDecoder,
      .omitted "optimizer" (.nullable .string), .omitted "baseline_score" (.nullable .float),
      .omitted "optimized_score" (.nullable .float), .required "program" Program.decoder]
    [("format_version", tv), ("created_at", tt), ("optimizer", tn), ("baseline_score", ts), ("optimized_score", ts₂),
      ("program", tp)] (by decide)
    ⟨_, _, rfl, Json.check_ok hv, _, _, rfl, Json.check_ok ht, _, _, rfl, Json.check_ok ho, _, _, rfl, Json.check_ok hs,
      _, _, rfl, Json.check_ok hs₂, _, _, rfl, Json.check_ok hp, rfl⟩
  simp only [List.map_cons, List.map_nil] at hslots
  rw [decoder, hslots]
  simp [bind, Except.bind, Json.Slots.get, Json.Slots.get?, Json.Slots.getD, List.lookup_cons, hv, ht, ho, hs, hs₂, hp,
    pure, Except.pure]

/-! ## Bytes -/

theorem guarded_toUTF8 (s : String) : Text.guarded s.toUTF8 = s.toList := by
  have h : String.fromUTF8? s.toUTF8 = some s := dif_pos s.isValidUTF8
  rw [Text.guarded, h]

theorem decodeJson_pretty {a : Artifact} (h : a.createdAt.isValid = true) :
    ∃ b, decodeJson a.json.pretty.toUTF8 = .ok b ∧ a.Kept b := by
  obtain ⟨b, hb, hk⟩ := decoder_json h
  refine ⟨b, ?_, hk⟩
  rw [decodeJson, guarded_toUTF8, Json.decode_pretty, hb]

/-- The bytes of an artifact hold what it keeps. -/
theorem exists_kept {a : Artifact} (h : a.createdAt.isValid = true) (f : Format) :
    ∃ b, decode (a.encode f) f = .ok b ∧ a.Kept b := by
  obtain ⟨b, hb, hk⟩ := decodeJson_pretty h
  refine ⟨b, ?_, hk⟩
  cases f with
  | json =>
    rw [encode, decode]
    exact hb
  | binary =>
    rw [encode, decode, Gzip.decompress_compress]
    exact hb

/-- **Decoding undoes encoding**, but for the digits of a score; a score that is no number is lost. -/
theorem decode_encode {a : Artifact} (h : a.createdAt.isValid = true) (f : Format) :
    ∃ b, decode (a.encode f) f = .ok b ∧ b.version = a.version ∧ b.createdAt = a.createdAt ∧
      b.optimizer = a.optimizer ∧ b.program = a.program ∧
      (b.baselineScore = none ↔ ∀ x ∈ a.baselineScore, x.isFinite = false) ∧
      (b.optimizedScore = none ↔ ∀ x ∈ a.optimizedScore, x.isFinite = false) := by
  obtain ⟨b, hb, hk⟩ := exists_kept h f
  exact ⟨b, hb, hk.version, hk.createdAt, hk.optimizer, hk.program, hk.baselineScore, hk.optimizedScore⟩

/-- An artifact with characters that are escaped or beyond ASCII, a late second, a score that is no number, and the
greatest double. -/
def odd : Artifact where
  version := 4294967295
  createdAt := ⟨⟨2016, 12, 31⟩, 23, 59, 60, 999999999⟩
  optimizer := none
  baselineScore := some (0 / 0)
  optimizedScore := some (Float.ofBits 0x7FEFFFFFFFFFFFFF)
  program := ⟨.legacy, "\"\\\x00\x1f\x7f", [⟨"\r\n\t", true, "é\u2028😀"⟩]⟩

theorem decode_encode_odd : odd.createdAt.isValid = true ∧
    ∃ b, decode (odd.encode .binary) .binary = .ok b ∧ b.version = odd.version ∧ b.createdAt = odd.createdAt ∧
      b.optimizer = odd.optimizer ∧ b.program = odd.program ∧
      (b.baselineScore = none ↔ ∀ x ∈ odd.baselineScore, x.isFinite = false) ∧
      (b.optimizedScore = none ↔ ∀ x ∈ odd.optimizedScore, x.isFinite = false) :=
  ⟨by decide, decode_encode (by decide) .binary⟩

end Artifact
end SnippetAudit

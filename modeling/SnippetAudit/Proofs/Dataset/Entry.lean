import SnippetAudit.Dataset
import SnippetAudit.Proofs.Json.Members

/-!
# Listed values that are entries

What an entry of a dataset looks like, as a relation of a listed value and the entry it describes
(`Dataset.Entry.Describes`): the type and its name are texts, null, or missing, the files stand in a record of their
own whose names are texts or missing, and other members may be anything. A value is taken as an entry exactly when it
describes one (`Dataset.Entry.ofJson?_eq_some_iff`), so everything else is passed over.
-/

namespace SnippetAudit.Dataset.Entry

open Json

/-! ## What describes an entry -/

/-- A text, or none. -/
inductive TextOrNone : Option Json → Option String → Prop
  | missing : TextOrNone none none
  | null : TextOrNone (some .null) none
  | text (s : String) : TextOrNone (some (.str s)) (some s)

/-- The name of a file, which is empty where it is missing. -/
inductive FileName : Option Json → String → Prop
  | missing : FileName none ""
  | text (s : String) : FileName (some (.str s)) s

/-- A value that names the two files. -/
def NamesFiles (v : Json) (buggyFile fixedFile : String) : Prop :=
  ∃ value, IsRecord ["buggy_function", "fixed_function"] 0 v value ∧ FileName (value "buggy_function") buggyFile ∧
    FileName (value "fixed_function") fixedFile

/-- A value that is an entry. -/
def Describes (v : Json) (e : Entry) : Prop :=
  ∃ value, IsRecord ["bug_type_id", "bug_type", "files"] 3 v value ∧ TextOrNone (value "bug_type_id") e.typeId ∧
    TextOrNone (value "bug_type") e.typeName ∧ ∃ files, value "files" = some files ∧
      NamesFiles files e.buggyFile e.fixedFile

/-! ## Fields -/

theorem string_tree {v : Json} {s : String} : Decoder.string v.tree = .ok s ↔ FileName (some v) s := by
  rw [Decoder.Reads.string.ok_iff]
  constructor
  · intro h
    cases v <;> cases h
    exact .text s
  · rintro ⟨⟩
    exact .text s

theorem nullable_tree {v : Json} {o : Option String} :
    Decoder.nullable .string v.tree = .ok o ↔ TextOrNone (some v) o := by
  cases v with
  | null =>
    constructor
    · rintro ⟨⟩
      exact .null
    · rintro ⟨⟩
      rfl
  | str s =>
    constructor
    · rintro ⟨⟩
      exact .text s
    · rintro ⟨⟩
      rfl
  | bool | num | arr | obj => exact ⟨nofun, nofun⟩

section Slots

variable {slots : Slots} {name : String} {found : Option Json} (h : slots.lookup name = found.map tree)
include h

theorem get?_eq_ok {o : Option String} : slots.get? name .string = .ok o ↔ TextOrNone found o := by
  unfold Slots.get? Slots.getD
  rw [h]
  cases found with
  | none =>
    constructor
    · rintro ⟨⟩
      exact .missing
    · rintro ⟨⟩
      rfl
  | some v => exact nullable_tree

theorem getD_eq_ok {s : String} : slots.getD name .string "" = .ok s ↔ FileName found s := by
  unfold Slots.getD
  rw [h]
  cases found with
  | none =>
    constructor
    · rintro ⟨⟩
      exact .missing
    · rintro ⟨⟩
      rfl
  | some v => exact string_tree

theorem get_eq_ok {α : Type} {d : Decoder α} {a : α} :
    slots.get name d = .ok a ↔ ∃ v, found = some v ∧ d v.tree = .ok a := by
  unfold Slots.get
  rw [h]
  cases found with
  | none => simp
  | some v => simp

end Slots

/-! ## Records -/

def fileFields : List Field := [.omitted "buggy_function" .string, .omitted "fixed_function" .string]

def fields : List Field :=
  [.optional "bug_type_id" (.nullable .string), .optional "bug_type" (.nullable .string),
   .required "files" filesDecoder]

theorem required_fileFields : Required fileFields 0 := by
  intro n
  refine iff_of_true (fun f hf => ?_) (Nat.zero_le n)
  have hmem : f ∈ fileFields := List.mem_of_mem_drop hf
  simp only [fileFields, List.mem_cons, List.not_mem_nil, or_false] at hmem
  rcases hmem with rfl | rfl
  · rfl
  · rfl

theorem required_fields : Required fields 3 := by
  intro n
  match n with
  | 0 | 1 | 2 => simp [fields, Field.optional, Field.required]
  | n + 3 => simp [fields]

/-- **What names files is decoded as their names.** -/
theorem filesDecoder_eq_ok {v : Json} {files : String × String} :
    filesDecoder v.tree = .ok files ↔ NamesFiles v files.1 files.2 := by
  obtain ⟨buggyFile, fixedFile⟩ := files
  have hdecoder : filesDecoder v.tree = v.tree.slots fileFields >>= fun slots =>
      slots.getD "buggy_function" .string "" >>= fun b => slots.getD "fixed_function" .string "" >>= fun f =>
        pure (b, f) := rfl
  simp only [hdecoder, bind_eq_ok]
  constructor
  · rintro ⟨slots, hslots, b, hb, f, hf, ⟨⟩⟩
    obtain ⟨value, hrecord, hlookup⟩ := isRecord_of_slots required_fileFields hslots
    simp only [fileFields, List.forall_mem_cons] at hlookup
    obtain ⟨hbuggy, hfixed, -⟩ := hlookup
    exact ⟨value, hrecord, (getD_eq_ok hbuggy).1 hb, (getD_eq_ok hfixed).1 hf⟩
  · rintro ⟨value, hrecord, hb, hf⟩
    have hchecks : ∀ f ∈ fileFields, ∀ w, value f.name = some w → f.check w.tree = .ok () := by
      simp only [fileFields, List.forall_mem_cons]
      refine ⟨fun w hw => ?_, fun w hw => ?_, nofun⟩
      · exact check_ok (string_tree.2 (hw ▸ hb))
      · exact check_ok (string_tree.2 (hw ▸ hf))
    obtain ⟨slots, hslots, hlookup⟩ := slots_of_isRecord (by decide) required_fileFields hrecord hchecks
    simp only [fileFields, List.forall_mem_cons] at hlookup
    obtain ⟨hbuggy, hfixed, -⟩ := hlookup
    exact ⟨slots, hslots, _, (getD_eq_ok hbuggy).2 hb, _, (getD_eq_ok hfixed).2 hf, rfl⟩

/-- **What describes an entry is decoded as it.** -/
theorem decoder_eq_ok {v : Json} {e : Entry} : decoder v.tree = .ok e ↔ Describes v e := by
  have hdecoder : decoder v.tree = v.tree.slots fields >>= fun slots =>
      slots.get "files" filesDecoder >>= fun files => slots.get? "bug_type_id" .string >>= fun typeId =>
        slots.get? "bug_type" .string >>= fun typeName => pure ⟨typeId, typeName, files.1, files.2⟩ := rfl
  simp only [hdecoder, bind_eq_ok]
  constructor
  · rintro ⟨slots, hslots, files, hfiles, typeId, hid, typeName, hname, ⟨⟩⟩
    obtain ⟨value, hrecord, hlookup⟩ := isRecord_of_slots required_fields hslots
    simp only [fields, List.forall_mem_cons] at hlookup
    obtain ⟨hid', hname', hfiles', -⟩ := hlookup
    obtain ⟨w, hw, hwfiles⟩ := (get_eq_ok hfiles').1 hfiles
    exact ⟨value, hrecord, (get?_eq_ok hid').1 hid, (get?_eq_ok hname').1 hname, w, hw, filesDecoder_eq_ok.1 hwfiles⟩
  · rintro ⟨value, hrecord, hid, hname, w, hw, hfiles⟩
    have hwfiles : filesDecoder w.tree = .ok (e.buggyFile, e.fixedFile) := filesDecoder_eq_ok.2 hfiles
    have hchecks : ∀ f ∈ fields, ∀ v, value f.name = some v → f.check v.tree = .ok () := by
      simp only [fields, List.forall_mem_cons]
      refine ⟨fun v hv => ?_, fun v hv => ?_, fun v hv => ?_, nofun⟩
      · exact check_ok (nullable_tree.2 (hv ▸ hid))
      · exact check_ok (nullable_tree.2 (hv ▸ hname))
      · obtain rfl : w = v := Option.some.inj (hw.symm.trans hv)
        exact check_ok hwfiles
    obtain ⟨slots, hslots, hlookup⟩ := slots_of_isRecord (by decide) required_fields hrecord hchecks
    simp only [fields, List.forall_mem_cons] at hlookup
    obtain ⟨hid', hname', hfiles', -⟩ := hlookup
    exact ⟨slots, hslots, _, (get_eq_ok hfiles').2 ⟨w, hw, hwfiles⟩, _, (get?_eq_ok hid').2 hid, _,
      (get?_eq_ok hname').2 hname, rfl⟩

/-- **A value is an entry exactly when it describes one.** -/
theorem ofJson?_eq_some_iff {v : Json} {e : Entry} : ofJson? v = some e ↔ Describes v e := by
  rw [ofJson?, ← decoder_eq_ok]
  cases decoder v.tree <;> simp [Except.toOption]

end SnippetAudit.Dataset.Entry

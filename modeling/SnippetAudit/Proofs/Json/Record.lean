import SnippetAudit.Json.Decoder
import SnippetAudit.Proofs.Json.Compact

/-!
# Records that are read back

A decoder of a text is a decoder of the tree it is read as (`decode_pretty`, `decode_compact`). An object of distinct
members, each of which a field accepts, is a record of just these members (`slots_record`), and members of other names
are passed over (`ofMembers_unknowns`).
-/

namespace SnippetAudit.Json

/-- A decoder of a text is one of its tree. -/
theorem decode_of_read {α : Type} (d : Decoder α) {s : List Char} {t : Tree} (h : read s = (t, true)) :
    decode d s = d t := by
  rw [decode, h]
  cases ht : d t with
  | error => simp [ht]
  | ok => simp [ht, pure, Except.pure, bind, Except.bind]

/-- **The text of a value is decoded as its tree.** -/
theorem decode_pretty {α : Type} (d : Decoder α) (v : Json) : decode d v.pretty.toList = d v.printed :=
  decode_of_read d (read_pretty v)

/-- **The text without blanks is decoded as the same tree.** -/
theorem decode_compact {α : Type} (d : Decoder α) (v : Json) : decode d v.compact.toList = d v.printed := by
  rw [compact, String.toList_ofList]
  exact decode_of_read d (read_of_textOf (spells_compact v).textOf)

theorem Num.sound_printed (n : Num) : n.printed.sound = true := by
  have hbinary : ∀ (F : Number.Format) (b : Number.Binary), (printedBinary F b).sound = true := by
    intro F b
    cases b <;> rfl
  cases n with
  | whole n => rfl
  | real x => exact hbinary _ _
  | real32 x => exact hbinary _ _

mutual

/-- **What is printed is JSON throughout.** -/
theorem sound_printed : ∀ v : Json, v.printed.sound = true
  | .null => rfl
  | .bool _ => rfl
  | .num n => n.sound_printed
  | .str _ => rfl
  | .arr vs => sound_printedItems vs
  | .obj ms => sound_printedMembers ms

theorem sound_printedItems : ∀ vs : List Json, Tree.soundItems (printedItems vs) = true
  | [] => rfl
  | v :: vs => Bool.and_eq_true_iff.2 ⟨sound_printed v, sound_printedItems vs⟩

theorem sound_printedMembers : ∀ ms : List (String × Json), Tree.soundMembers (printedMembers ms) = true
  | [] => rfl
  | (_, v) :: ms => Bool.and_eq_true_iff.2 ⟨sound_printed v, sound_printedMembers ms⟩

end

theorem printedItems_eq (vs : List Json) : printedItems vs = vs.map printed := by
  induction vs with
  | nil => rfl
  | cons v vs ih => rw [printedItems, ih, List.map_cons]

/-- Items that are decoded one by one are decoded as a list. -/
theorem listOf_printed {α : Type} {d : Decoder α} {json : α → Json} (h : ∀ a, d (json a).printed = .ok a)
    (as : List α) : Decoder.listOf d (Json.arr (as.map json)).printed = .ok as := by
  rw [printed, printedItems_eq, Decoder.listOf]
  induction as with
  | nil => rfl
  | cons a as ih =>
    rw [List.map_cons, List.map_cons, List.mapM_cons, h a, ih]
    rfl

/-- A natural below a bound of 64 bits is decoded as itself. -/
theorem natBelow_printed {bound n : Nat} (h : n < bound) (hbound : bound ≤ UInt64.size) :
    Decoder.natBelow bound (nat n).printed = .ok n := by
  have hrange : (0 : Int) ≤ n ∧ (n : Int) < bound := ⟨Int.natCast_nonneg n, Int.ofNat_lt.2 h⟩
  rw [printed_nat (Nat.lt_of_lt_of_le h hbound), Decoder.natBelow, if_pos hrange, Int.toNat_natCast]

/-- A text that may be missing is decoded as itself. -/
theorem nullable_strOrNull (o : Option String) : Decoder.nullable .string (strOrNull o).printed = .ok o := by
  cases o <;> rfl

/-- Every kind of field takes a tree that its decoder takes. -/
theorem check_ok {α : Type} {d : Decoder α} {t : Tree} {a : α} (h : d t = .ok a) :
    ((d t).map fun _ => ()) = .ok () := by
  rw [h]
  rfl

/-- A member that a field of the list takes. -/
def Accepted (fields : List Field) (m : String × Tree) : Prop :=
  ∃ f, fields.find? (·.name == m.1) = some f ∧ f.check m.2 = .ok ()

theorem ofMembers_accepted {fields : List Field} : ∀ {seen ms : Slots},
    ((seen ++ ms).map (·.1)).Nodup → (∀ m ∈ ms, Accepted fields m) →
    Slots.ofMembers fields seen (ms.map fun m => (some m.1, m.2)) = .ok (seen ++ ms)
  | seen, [], _, _ => by simp [Slots.ofMembers]
  | seen, (n, t) :: ms, hn, h => by
    obtain ⟨f, hf, hc⟩ := h (n, t) List.mem_cons_self
    have hnew : (seen.lookup n).isSome = false := by
      rw [List.map_append, List.nodup_append] at hn
      rw [Option.isSome_eq_false_iff, Option.isNone_iff_eq_none, List.lookup_eq_none_iff]
      intro m hm
      have hne := hn.2.2 m.1 (List.mem_map_of_mem hm) n (by simp)
      simpa using Ne.symm hne
    have hn' : (((seen ++ [(n, t)]) ++ ms).map (·.1)).Nodup := by simpa using hn
    have ih := ofMembers_accepted hn' fun m hm => h m (List.mem_cons_of_mem _ hm)
    rw [List.append_assoc, List.singleton_append] at ih
    rw [List.map_cons, Slots.ofMembers]
    simp only [hf, hnew, hc, Bool.false_eq_true, if_false]
    exact ih

/-- **An object of members that fields take is a record of them.** -/
theorem slots_accepted {fields : List Field} {ms : Slots} (hn : (ms.map (·.1)).Nodup)
    (h : ∀ m ∈ ms, Accepted fields m) : (Tree.obj (ms.map fun m => (some m.1, m.2))).slots fields = .ok ms :=
  ofMembers_accepted (by rwa [List.nil_append]) h

/-- **A member of a name that is no field is passed over.** -/
theorem ofMembers_unknown {fields : List Field} {n : String} {t : Tree} {ms : List (Option String × Tree)}
    (hn : fields.find? (·.name == n) = none) (ht : t.sound = true) (seen : Slots) :
    Slots.ofMembers fields seen ((some n, t) :: ms) = Slots.ofMembers fields seen ms := by
  rw [Slots.ofMembers, hn]
  simp only [Decoder.skip, ht, if_true]
  rfl

/-- Printed members of such names change nothing. -/
theorem ofMembers_unknowns {fields : List Field} {before : List (String × Json)}
    (h : ∀ m ∈ before, fields.find? (·.name == m.1) = none) (seen : Slots) (ms : List (String × Json)) :
    Slots.ofMembers fields seen (printedMembers (before ++ ms)) = Slots.ofMembers fields seen (printedMembers ms) := by
  induction before with
  | nil => rfl
  | cons m before ih =>
    obtain ⟨hm, hbefore⟩ := List.forall_mem_cons.1 h
    rw [List.cons_append, printedMembers, ofMembers_unknown hm (sound_printed m.2), ih hbefore]

/-- The members of a record are as its fields. -/
def Fits : List Field → Slots → Prop
  | [], ms => ms = []
  | f :: fields, ms => ∃ t rest, ms = (f.name, t) :: rest ∧ f.check t = .ok () ∧ Fits fields rest

theorem Fits.accepted {fields : List Field} {ms : Slots} (hn : (fields.map (·.name)).Nodup) (h : Fits fields ms) :
    ms.map (·.1) = fields.map (·.name) ∧ ∀ m ∈ ms, Accepted fields m := by
  induction fields generalizing ms with
  | nil =>
    obtain rfl : ms = [] := h
    exact ⟨rfl, by simp⟩
  | cons f fields ih =>
    obtain ⟨t, rest, rfl, hcheck, hrest⟩ := h
    rw [List.map_cons, List.nodup_cons] at hn
    obtain ⟨hnames, haccepted⟩ := ih hn.2 hrest
    refine ⟨by rw [List.map_cons, List.map_cons, hnames], ?_⟩
    intro m hm
    rcases List.mem_cons.1 hm with rfl | hm
    · exact ⟨f, List.find?_cons_of_pos (by simp), hcheck⟩
    · obtain ⟨g, hg, hgcheck⟩ := haccepted m hm
      have hmem : m.1 ∈ fields.map (·.name) := hnames ▸ List.mem_map_of_mem hm
      have hne : f.name ≠ m.1 := fun he => hn.1 (he ▸ hmem)
      exact ⟨g, by rwa [List.find?_cons_of_neg (by simpa using hne)], hgcheck⟩

/-- **An object of a member for each field is a record of them.** -/
theorem slots_record {fields : List Field} {ms : Slots} (hn : (fields.map (·.name)).Nodup) (h : Fits fields ms) :
    (Tree.obj (ms.map fun m => (some m.1, m.2))).slots fields = .ok ms := by
  obtain ⟨hnames, haccepted⟩ := h.accepted hn
  exact slots_accepted (by rwa [hnames]) haccepted

end SnippetAudit.Json

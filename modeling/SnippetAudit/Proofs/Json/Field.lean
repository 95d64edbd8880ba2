import SnippetAudit.Proofs.Json.Record
import Mathlib.Data.List.Forall2

/-!
# Records of one field

What a decoder takes, as a relation of trees and values (`Decoder.Reads`). A record of one field is an object in which
its name stands once at most, among members of other names that may be any JSON, or the array of its value alone
(`HasField`, `LacksField`); its decoder takes exactly these (`Decoder.Reads.oneField`). So a text has a value for a
decoder exactly when it spells a tree that the relation reads (`Decoder.Reads.decode?_eq_some`).
-/

namespace SnippetAudit.Json

variable {α : Type}

/-! ## What trees are read as -/

/-- A decoder that takes what a relation reads, and nothing else. All of that is JSON throughout. -/
structure Decoder.Reads (d : Decoder α) (V : Tree → α → Prop) : Prop where
  ok_iff : ∀ t a, d t = .ok a ↔ V t a
  sound : ∀ t a, V t a → t.sound = true

inductive IsText : Tree → String → Prop
  | text (s : String) : IsText (.str (some s)) s

/-- A null, or a value. -/
inductive OrNull (V : Tree → α → Prop) : Tree → Option α → Prop
  | null : OrNull V .null none
  | value {t : Tree} {a : α} (hne : t ≠ .null) (h : V t a) : OrNull V t (some a)

inductive Items (V : Tree → α → Prop) : Tree → List α → Prop
  | items {ts : List Tree} {as : List α} (h : List.Forall₂ V ts as) : Items V (.arr ts) as

/-- Members of other names, which may be any JSON. -/
def Passed (name : String) (ms : List (Option String × Tree)) : Prop :=
  ∀ m ∈ ms, (∃ n, m.1 = some n ∧ n ≠ name) ∧ m.2.sound = true

/-- A record with a field, and the tree of its value. -/
inductive HasField (name : String) : Tree → Tree → Prop
  | member {before after : List (Option String × Tree)} {v : Tree} (hbefore : Passed name before)
      (hafter : Passed name after) : HasField name (.obj (before ++ (some name, v) :: after)) v
  | item (v : Tree) : HasField name (.arr [v]) v

/-- A record without a field. -/
inductive LacksField (name : String) (omissible : Bool) : Tree → Prop
  | members {ms : List (Option String × Tree)} (h : Passed name ms) : LacksField name omissible (.obj ms)
  | noItems (h : omissible = true) : LacksField name omissible (.arr [])

/-- What a record of one field is read as; `absent` is its value without the field, if it has one. -/
inductive OneField (name : String) (omissible : Bool) (absent : Option α) (V : Tree → α → Prop) : Tree → α → Prop
  | there {t v : Tree} {a : α} (hfield : HasField name t v) (h : V v a) : OneField name omissible absent V t a
  | missing {t : Tree} {a : α} (hfield : LacksField name omissible t) (h : absent = some a) :
      OneField name omissible absent V t a

/-! ## JSON throughout -/

theorem soundItems_iff {ts : List Tree} : Tree.soundItems ts = true ↔ ∀ t ∈ ts, t.sound = true := by
  induction ts with
  | nil => simp [Tree.soundItems]
  | cons t ts ih => rw [Tree.soundItems, Bool.and_eq_true, ih, List.forall_mem_cons]

theorem soundMembers_iff {ms : List (Option String × Tree)} :
    Tree.soundMembers ms = true ↔ ∀ m ∈ ms, m.2.sound = true := by
  induction ms with
  | nil => simp [Tree.soundMembers]
  | cons m ms ih => rw [Tree.soundMembers, Bool.and_eq_true, ih, List.forall_mem_cons]

theorem HasField.sound {name : String} {t v : Tree} (h : HasField name t v) (hv : v.sound = true) :
    t.sound = true := by
  cases h with
  | member hbefore hafter =>
    rw [Tree.sound, soundMembers_iff, List.forall_mem_append, List.forall_mem_cons]
    exact ⟨fun m hm => (hbefore m hm).2, hv, fun m hm => (hafter m hm).2⟩
  | item =>
    rw [Tree.sound, soundItems_iff]
    exact List.forall_mem_singleton.2 hv

theorem LacksField.sound {name : String} {omissible : Bool} {t : Tree} (h : LacksField name omissible t) :
    t.sound = true := by
  cases h with
  | members h =>
    rw [Tree.sound, soundMembers_iff]
    exact fun m hm => (h m hm).2
  | noItems => rfl

theorem mismatch_ne_ok (t : Tree) {a : α} : t.mismatch ≠ .ok a := by
  intro h
  unfold Tree.mismatch at h
  split at h <;> cases h

/-! ## The fields of a record -/

section Slots

variable {f : Field} {ms : List (Option String × Tree)} {slots : Slots}

/-- A member of another name is taken exactly when it is JSON. -/
theorem ofMembers_other {n : String} (hn : n ≠ f.name) (t : Tree) (seen : Slots) :
    Slots.ofMembers [f] seen ((some n, t) :: ms) = .ok slots ↔
      t.sound = true ∧ Slots.ofMembers [f] seen ms = .ok slots := by
  have hfind : [f].find? (·.name == n) = none := by simpa using Ne.symm hn
  by_cases ht : t.sound = true
  · rw [ofMembers_unknown hfind ht]
    exact (and_iff_right ht).symm
  · rw [Slots.ofMembers, hfind]
    simp [Decoder.skip, ht, bind, Except.bind]

theorem passed_cons {name : String} {m : Option String × Tree} :
    Passed name (m :: ms) ↔ ((∃ n, m.1 = some n ∧ n ≠ name) ∧ m.2.sound = true) ∧ Passed name ms :=
  List.forall_mem_cons

theorem passed_nil (name : String) : Passed name [] := fun _ h => by cases h

/-- Behind the field only members of other names are taken. -/
theorem ofMembers_seen {v : Tree} :
    Slots.ofMembers [f] [(f.name, v)] ms = .ok slots ↔ Passed f.name ms ∧ slots = [(f.name, v)] := by
  induction ms with
  | nil =>
    rw [Slots.ofMembers, Except.ok.injEq]
    exact ⟨fun h => ⟨passed_nil _, h.symm⟩, fun h => h.2.symm⟩
  | cons m ms ih =>
    obtain ⟨n, t⟩ := m
    rw [passed_cons]
    cases n with
    | none => simp [Slots.ofMembers]
    | some n =>
      by_cases hn : n = f.name
      · simp [Slots.ofMembers, hn]
      · rw [ofMembers_other hn, ih]
        simp [hn, and_assoc]

theorem ofMembers_field {v : Tree} :
    Slots.ofMembers [f] [] ((some f.name, v) :: ms) = .ok slots ↔
      f.check v = .ok () ∧ Passed f.name ms ∧ slots = [(f.name, v)] := by
  have hfind : [f].find? (·.name == f.name) = some f := List.find?_cons_of_pos (beq_self_eq_true _)
  rw [Slots.ofMembers, hfind]
  simp only [List.lookup_nil, Option.isSome_none, Bool.false_eq_true, if_false, List.nil_append]
  cases hcheck : f.check v with
  | error e => simp [bind, Except.bind]
  | ok => simpa [bind, Except.bind] using ofMembers_seen

theorem ofMembers_passed {before : List (Option String × Tree)} (h : Passed f.name before) (seen : Slots) :
    Slots.ofMembers [f] seen (before ++ ms) = Slots.ofMembers [f] seen ms := by
  induction before with
  | nil => rfl
  | cons m before ih =>
    obtain ⟨n, t⟩ := m
    obtain ⟨⟨⟨n, rfl, hn⟩, ht⟩, hbefore⟩ := passed_cons.1 h
    rw [List.cons_append, ofMembers_unknown (by simpa using Ne.symm hn) ht, ih hbefore]

/-- An object that is taken has the field once, or not at all. -/
theorem field_of_ofMembers (h : Slots.ofMembers [f] [] ms = .ok slots) :
    (Passed f.name ms ∧ slots = []) ∨ ∃ before v after, ms = before ++ (some f.name, v) :: after ∧
      Passed f.name before ∧ Passed f.name after ∧ f.check v = .ok () ∧ slots = [(f.name, v)] := by
  induction ms with
  | nil =>
    cases h
    exact .inl ⟨passed_nil _, rfl⟩
  | cons m ms ih =>
    obtain ⟨n, t⟩ := m
    cases n with
    | none => cases h
    | some n =>
      by_cases hn : n = f.name
      · subst hn
        obtain ⟨hcheck, hafter, hslots⟩ := ofMembers_field.1 h
        exact .inr ⟨[], t, ms, rfl, passed_nil _, hafter, hcheck, hslots⟩
      · obtain ⟨ht, hrest⟩ := (ofMembers_other hn t []).1 h
        have hpassed {ms : List (Option String × Tree)} (hms : Passed f.name ms) : Passed f.name ((some n, t) :: ms) :=
          passed_cons.2 ⟨⟨⟨n, rfl, hn⟩, ht⟩, hms⟩
        obtain ⟨hms, hslots⟩ | ⟨before, v, after, rfl, hbefore, hafter, hcheck, hslots⟩ := ih hrest
        · exact .inl ⟨hpassed hms, hslots⟩
        · exact .inr ⟨_ :: before, v, after, rfl, hpassed hbefore, hafter, hcheck, hslots⟩

/-- **The fields of a record of one field.** -/
theorem slots_one_iff {t : Tree} : t.slots [f] = .ok slots ↔
    (LacksField f.name f.omissible t ∧ slots = []) ∨
      ∃ v, HasField f.name t v ∧ f.check v = .ok () ∧ slots = [(f.name, v)] := by
  constructor
  · intro h
    cases t with
    | obj ms =>
      obtain ⟨hms, hslots⟩ | ⟨before, v, after, rfl, hbefore, hafter, hcheck, hslots⟩ := field_of_ofMembers h
      · exact .inl ⟨.members hms, hslots⟩
      · exact .inr ⟨v, .member hbefore hafter, hcheck, hslots⟩
    | arr ts =>
      match ts with
      | [] =>
        by_cases ho : f.omissible = true
        · simp [Tree.slots, Slots.ofItems, ho] at h
          exact .inl ⟨.noItems ho, h⟩
        · simp [Tree.slots, Slots.ofItems, ho] at h
      | [v] =>
        cases hcheck : f.check v with
        | error e => simp [Tree.slots, Slots.ofItems, hcheck, bind, Except.bind] at h
        | ok =>
          simp [Tree.slots, Slots.ofItems, hcheck, bind, Except.bind, pure, Except.pure] at h
          exact .inr ⟨v, .item v, hcheck, h.symm⟩
      | v :: w :: ts =>
        cases hcheck : f.check v <;> simp [Tree.slots, Slots.ofItems, hcheck, bind, Except.bind] at h
    | null | bool | broken => cases h
    | num | str => exact absurd h (mismatch_ne_ok _)
  · rintro (⟨hlacks, rfl⟩ | ⟨v, hfield, hcheck, rfl⟩)
    · cases hlacks with
      | @members ms h =>
        rw [Tree.slots, ← List.append_nil ms, ofMembers_passed h]
        rfl
      | noItems h => simp [Tree.slots, Slots.ofItems, h]
    · cases hfield with
      | member hbefore hafter =>
        rw [Tree.slots, ofMembers_passed hbefore]
        exact ofMembers_field.2 ⟨hcheck, hafter, rfl⟩
      | item => simp [Tree.slots, Slots.ofItems, hcheck, bind, Except.bind, pure, Except.pure]

end Slots

/-! ## Decoders -/

namespace Decoder.Reads

variable {d : Decoder α} {V : Tree → α → Prop}

theorem string : Decoder.string.Reads IsText where
  ok_iff t s := by
    constructor
    · intro h
      unfold Decoder.string at h
      split at h
      · cases h
        exact .text _
      · exact absurd h (mismatch_ne_ok _)
    · rintro ⟨⟩
      rfl
  sound t s h := by
    cases h
    rfl

theorem nullable (hd : d.Reads V) : (Decoder.nullable d).Reads (OrNull V) where
  ok_iff t o := by
    by_cases ht : t = .null
    · subst ht
      constructor
      · rintro ⟨⟩
        exact .null
      · rintro (_ | ⟨hne, -⟩)
        · rfl
        · exact absurd rfl hne
    · have hnullable : Decoder.nullable d t = (d t).map some := by
        unfold Decoder.nullable
        split
        · exact absurd rfl ht
        · rfl
      rw [hnullable]
      constructor
      · intro h
        cases hdt : d t with
        | error e => simp [hdt, Except.map] at h
        | ok a =>
          obtain rfl : some a = o := by simpa [hdt, Except.map] using h
          exact .value ht ((hd.ok_iff t a).1 hdt)
      · rintro (_ | ⟨-, h⟩)
        · exact absurd rfl ht
        · rw [(hd.ok_iff _ _).2 h]
          rfl
  sound t o h := by
    cases h with
    | null => rfl
    | value _ h => exact hd.sound _ _ h

theorem mapM_iff (hd : d.Reads V) : ∀ {ts : List Tree} {as : List α}, ts.mapM d = .ok as ↔ List.Forall₂ V ts as
  | [], as => by
    constructor
    · rintro ⟨⟩
      exact .nil
    · rintro ⟨⟩
      rfl
  | t :: ts, as => by
    rw [List.mapM_cons]
    constructor
    · intro h
      cases hdt : d t with
      | error e => simp [hdt, bind, Except.bind] at h
      | ok a =>
        cases hts : ts.mapM d with
        | error e => simp [hdt, hts, bind, Except.bind] at h
        | ok as' =>
          obtain rfl : a :: as' = as := by simpa [hdt, hts, bind, Except.bind, pure, Except.pure] using h
          exact .cons ((hd.ok_iff t a).1 hdt) (hd.mapM_iff.1 hts)
    · rintro (_ | ⟨h, hrest⟩)
      rw [(hd.ok_iff _ _).2 h, hd.mapM_iff.2 hrest]
      rfl

theorem listOf (hd : d.Reads V) : (Decoder.listOf d).Reads (Items V) where
  ok_iff t as := by
    constructor
    · intro h
      unfold Decoder.listOf at h
      split at h
      · exact .items (hd.mapM_iff.1 h)
      · exact absurd h (mismatch_ne_ok _)
    · rintro ⟨h⟩
      exact hd.mapM_iff.2 h
  sound t as h := by
    obtain ⟨h⟩ := h
    rw [Tree.sound, soundItems_iff]
    induction h with
    | nil => exact fun _ hmem => by cases hmem
    | cons h _ ih => exact List.forall_mem_cons.2 ⟨hd.sound _ _ h, ih⟩

/-- **A record of one field is read as the field, or as what stands for it.** -/
theorem oneField (hd : d.Reads V) {f : Field} {absent : Option α} {finish : Slots → Except Fault α}
    (hcheck : ∀ v, f.check v = (d v).map fun _ => ()) (hthere : ∀ v, finish [(f.name, v)] = d v)
    (hmissing : ∀ a, finish [] = .ok a ↔ absent = some a) :
    Decoder.Reads (fun t => t.slots [f] >>= finish) (OneField f.name f.omissible absent V) where
  ok_iff t a := by
    constructor
    · intro h
      cases hslots : t.slots [f] with
      | error e => simp [hslots, bind, Except.bind] at h
      | ok slots =>
        obtain ⟨hlacks, rfl⟩ | ⟨v, hfield, -, rfl⟩ := slots_one_iff.1 hslots
        · simp only [hslots, bind, Except.bind] at h
          exact .missing hlacks ((hmissing a).1 h)
        · simp only [hslots, bind, Except.bind, hthere] at h
          exact .there hfield ((hd.ok_iff v a).1 h)
    · rintro (⟨hfield, h⟩ | ⟨hlacks, h⟩)
      · rename_i v
        have hv := (hd.ok_iff v a).2 h
        rw [slots_one_iff.2 (.inr ⟨v, hfield, by rw [hcheck, hv]; rfl, rfl⟩)]
        exact (hthere v).trans hv
      · rw [slots_one_iff.2 (.inl ⟨hlacks, rfl⟩)]
        exact (hmissing a).2 h
  sound t a h := by
    cases h with
    | there hfield h => exact hfield.sound (hd.sound _ _ h)
    | missing hlacks => exact hlacks.sound

theorem required (hd : d.Reads V) (name : String) :
    Decoder.Reads (fun t => t.slots [.required name d] >>= (·.get name d)) (OneField name false none V) :=
  hd.oneField (fun _ => rfl) (fun v => by simp [Slots.get, Field.required]) fun a => by simp [Slots.get]

/-- A field that may be missing or null is nothing then. -/
theorem optional (hd : d.Reads V) (name : String) :
    Decoder.Reads (fun t => t.slots [.optional name (.nullable d)] >>= (·.get? name d))
      (OneField name false (some none) (OrNull V)) :=
  hd.nullable.oneField (fun _ => rfl) (fun v => by simp [Slots.get?, Slots.getD, Field.optional])
    fun a => by simp [Slots.get?, Slots.getD]

theorem omitted (hd : d.Reads V) (name : String) (fallback : α) :
    Decoder.Reads (fun t => t.slots [.omitted name d] >>= (·.getD name d fallback))
      (OneField name true (some fallback) V) :=
  hd.oneField (fun _ => rfl) (fun v => by simp [Slots.getD, Field.omitted]) fun a => by simp [Slots.getD]

/-- **A text has a value for a decoder exactly when it spells a tree that is read so.** -/
theorem decode?_eq_some (hd : d.Reads V) {s : String} {a : α} :
    decode? d s = some a ↔ ∃ t, TextOf t s.toList ∧ V t a := by
  constructor
  · intro h
    obtain ⟨t, whole, hread⟩ : ∃ t whole, read s.toList = (t, whole) := ⟨_, _, rfl⟩
    cases hdt : d t with
    | error e => simp [decode?, decode, hread, hdt, Except.toOption, bind, Except.bind] at h
    | ok b =>
      cases whole with
      | false => simp [decode?, decode, hread, hdt, Except.toOption, bind, Except.bind] at h
      | true =>
        rw [decode?, decode_of_read d hread, hdt] at h
        obtain rfl := Option.some.inj h
        have hb := (hd.ok_iff t b).1 hdt
        exact ⟨t, textOf_of_read hread (hd.sound t b hb), hb⟩
  · rintro ⟨t, ht, h⟩
    rw [decode?, decode_of_read d (read_of_textOf ht), (hd.ok_iff t a).2 h]
    rfl

end Decoder.Reads

end SnippetAudit.Json

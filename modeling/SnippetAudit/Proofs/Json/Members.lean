import SnippetAudit.Proofs.Json.Field

/-!
# Records of several fields

A value is a record of fields when it is an object in which none of their names stands twice, or an array of their
values in order, which may end before the omissible ones (`IsRecord`). Members of other names are passed over. The slots
of such a record hold its values, and only such a record has slots (`slots_of_isRecord`, `isRecord_of_slots`).
-/

namespace SnippetAudit.Json

/-! ## Values as trees -/

mutual

/-- **A value is JSON throughout.** -/
theorem sound_tree : ∀ v : Json, v.tree.sound = true
  | .null => rfl
  | .bool _ => rfl
  | .num _ => rfl
  | .str _ => rfl
  | .arr vs => sound_trees vs
  | .obj ms => sound_treeMembers ms

theorem sound_trees : ∀ vs : List Json, Tree.soundItems (trees vs) = true
  | [] => rfl
  | v :: vs => Bool.and_eq_true_iff.2 ⟨sound_tree v, sound_trees vs⟩

theorem sound_treeMembers : ∀ ms : List (String × Json), Tree.soundMembers (treeMembers ms) = true
  | [] => rfl
  | (_, v) :: ms => Bool.and_eq_true_iff.2 ⟨sound_tree v, sound_treeMembers ms⟩

end

theorem trees_eq (vs : List Json) : trees vs = vs.map tree := by
  induction vs with
  | nil => rfl
  | cons v vs ih => rw [trees, ih, List.map_cons]

/-! ## Records -/

/-- A record of the fields of some names, the first `least` of which stand in every array, with its values. -/
inductive IsRecord (names : List String) (least : Nat) : Json → (String → Option Json) → Prop
  | members {ms : List (String × Json)} (once : ((ms.map (·.1)).filter (· ∈ names)).Nodup) :
      IsRecord names least (.obj ms) fun name => ms.lookup name
  | items {vs : List Json} (enough : least ≤ vs.length) (most : vs.length ≤ names.length) :
      IsRecord names least (.arr vs) fun name => (names.zip vs).lookup name

variable {fields : List Field} {least : Nat}

/-! ### Objects -/

/-- The slots of the members that are fields. -/
def slotsOf (fields : List Field) (ms : List (String × Json)) : Slots :=
  (ms.filter fun m => m.1 ∈ fields.map (·.name)).map fun m => (m.1, m.2.tree)

theorem names_slotsOf (fields : List Field) (ms : List (String × Json)) :
    (slotsOf fields ms).map (·.1) = (ms.map (·.1)).filter (· ∈ fields.map (·.name)) := by
  rw [slotsOf, List.map_map, List.filter_map]
  rfl

theorem find?_eq_none_iff {n : String} : fields.find? (·.name == n) = none ↔ n ∉ fields.map (·.name) := by
  simp [List.find?_eq_none]

theorem name_of_find? {n : String} {f : Field} (h : fields.find? (·.name == n) = some f) : f.name = n := by
  simpa using List.find?_some h

theorem mem_names_of_find? {n : String} {f : Field} (h : fields.find? (·.name == n) = some f) :
    n ∈ fields.map (·.name) :=
  name_of_find? h ▸ List.mem_map_of_mem (List.mem_of_find?_eq_some h)

theorem lookup_isSome_iff {seen : Slots} {n : String} : (seen.lookup n).isSome = true ↔ n ∈ seen.map (·.1) := by
  rw [← not_iff_not, Bool.not_eq_true, Option.isSome_eq_false_iff, Option.isNone_iff_eq_none, List.lookup_eq_none_iff,
    List.mem_map]
  constructor
  · rintro h ⟨m, hm, rfl⟩
    simpa using h m hm
  · intro h m hm
    simpa using fun hn => h ⟨m, hm, Eq.symm hn⟩

theorem slotsOf_cons_other {n : String} (h : n ∉ fields.map (·.name)) (v : Json) (ms : List (String × Json)) :
    slotsOf fields ((n, v) :: ms) = slotsOf fields ms := by
  rw [slotsOf, List.filter_cons_of_neg (by simpa using h)]
  rfl

theorem slotsOf_cons_field {n : String} (h : n ∈ fields.map (·.name)) (v : Json) (ms : List (String × Json)) :
    slotsOf fields ((n, v) :: ms) = (n, v.tree) :: slotsOf fields ms := by
  rw [slotsOf, List.filter_cons_of_pos (by simpa using h)]
  rfl

theorem nodup_names_concat {seen : Slots} {n : String} (h : (seen.map (·.1)).Nodup) (hn : n ∉ seen.map (·.1))
    (t : Tree) : ((seen ++ [(n, t)]).map (·.1)).Nodup := by
  rw [List.map_append]
  exact h.append (List.nodup_singleton _) (List.disjoint_singleton.2 hn)

/-- **What an object has for slots**: a member of a known name must pass its field, and stand there once. -/
theorem ofMembers_treeMembers {seen slots : Slots} {ms : List (String × Json)} (hseen : (seen.map (·.1)).Nodup) :
    Slots.ofMembers fields seen (treeMembers ms) = .ok slots ↔
      ((seen ++ slotsOf fields ms).map (·.1)).Nodup ∧
        (∀ m ∈ ms, ∀ f, fields.find? (·.name == m.1) = some f → f.check m.2.tree = .ok ()) ∧
        slots = seen ++ slotsOf fields ms := by
  induction ms generalizing seen with
  | nil => simp [treeMembers, Slots.ofMembers, slotsOf, hseen, eq_comm]
  | cons m ms ih =>
    obtain ⟨n, v⟩ := m
    rw [treeMembers]
    cases hfind : fields.find? (·.name == n) with
    | none =>
      rw [ofMembers_unknown hfind (sound_tree v), ih hseen, slotsOf_cons_other (find?_eq_none_iff.1 hfind),
        List.forall_mem_cons]
      simp [hfind]
    | some f =>
      rw [Slots.ofMembers, hfind, slotsOf_cons_field (mem_names_of_find? hfind), List.forall_mem_cons]
      by_cases hold : n ∈ seen.map (·.1)
      · simp only [lookup_isSome_iff.2 hold, if_true]
        constructor
        · intro h
          cases h
        · rintro ⟨hnodup, -, -⟩
          rw [List.map_append, List.nodup_append] at hnodup
          exact (hnodup.2.2 n hold n (by simp) rfl).elim
      · have hnew : (seen.lookup n).isSome = false := Bool.eq_false_iff.2 (mt lookup_isSome_iff.1 hold)
        simp only [hnew, Bool.false_eq_true, if_false, hfind, Option.some.injEq]
        cases hcheck : f.check v.tree with
        | error e =>
          constructor
          · intro h
            cases h
          · rintro ⟨-, ⟨hfirst, -⟩, -⟩
            rw [hfirst f rfl] at hcheck
            cases hcheck
        | ok =>
          have hrest := @ih (seen ++ [(n, v.tree)]) (nodup_names_concat hseen hold v.tree)
          rw [List.append_assoc, List.singleton_append] at hrest
          refine Iff.trans hrest (and_congr_right fun _ => and_congr_left fun _ => ?_)
          exact ⟨fun h => ⟨fun g hg => hg ▸ hcheck, h⟩, fun h => h.2⟩

theorem lookup_eq_some_of_once {names : List String} {ms : List (String × Json)} {m : String × Json}
    (once : ((ms.map (·.1)).filter (· ∈ names)).Nodup) (hm : m ∈ ms) (hname : m.1 ∈ names) :
    ms.lookup m.1 = some m.2 := by
  induction ms with
  | nil => cases hm
  | cons m' ms ih =>
    obtain ⟨n', v'⟩ := m'
    rw [lookup_member]
    rcases List.mem_cons.1 hm with rfl | hrest
    · rw [if_pos rfl]
    · by_cases hsame : m.1 = n'
      · -- the name would stand twice
        subst hsame
        rw [List.map_cons, List.filter_cons_of_pos (by simpa using hname), List.nodup_cons] at once
        exact (once.1 (List.mem_filter.2 ⟨List.mem_map.2 ⟨m, hrest, rfl⟩, by simpa using hname⟩)).elim
      · rw [if_neg hsame]
        refine ih ?_ hrest
        rw [List.map_cons, List.filter_cons] at once
        split at once
        · exact (List.nodup_cons.1 once).2
        · exact once

theorem lookup_slotsOf {f : Field} (hf : f ∈ fields) (ms : List (String × Json)) :
    (slotsOf fields ms).lookup f.name = (ms.lookup f.name).map tree := by
  have hmem : f.name ∈ fields.map (·.name) := List.mem_map_of_mem hf
  induction ms with
  | nil => rfl
  | cons m ms ih =>
    obtain ⟨n, v⟩ := m
    rw [lookup_member]
    by_cases hn : f.name = n
    · subst hn
      rw [slotsOf_cons_field hmem, if_pos rfl, List.lookup_cons_self]
      rfl
    · rw [if_neg hn, ← ih]
      by_cases hmem' : n ∈ fields.map (·.name)
      · rw [slotsOf_cons_field hmem', List.lookup_cons, beq_false_of_ne hn]
      · rw [slotsOf_cons_other hmem']

/-! ### Arrays -/

/-- **What an array has for slots**: an item for each field it reaches, which must pass the field; what it does not reach
may be missing. -/
theorem ofItems_eq_ok {ts : List Tree} {slots : Slots} : Slots.ofItems fields ts = .ok slots ↔
    ts.length ≤ fields.length ∧ (∀ f ∈ fields.drop ts.length, f.omissible = true) ∧
      (∀ p ∈ fields.zip ts, p.1.check p.2 = .ok ()) ∧ slots = (fields.zip ts).map fun p => (p.1.name, p.2) := by
  induction fields generalizing ts slots with
  | nil =>
    cases ts with
    | nil =>
      constructor
      · rintro ⟨⟩
        simp
      · rintro ⟨-, -, -, rfl⟩
        rfl
    | cons t ts =>
      constructor
      · intro h
        cases h
      · rintro ⟨hmost, -, -, -⟩
        cases hmost
  | cons f fields ih =>
    cases ts with
    | nil =>
      have hrest := @ih [] slots
      rw [Slots.ofItems]
      split
      · next ho => simpa [ho] using hrest
      · next ho => simp [ho]
    | cons t ts =>
      rw [Slots.ofItems, List.zip_cons_cons, List.forall_mem_cons, List.map_cons, List.length_cons, List.length_cons,
        List.drop_succ_cons, Nat.add_le_add_iff_right]
      cases hcheck : f.check t with
      | error e => simp [bind, Except.bind]
      | ok =>
        cases hslots : Slots.ofItems fields ts with
        | error e =>
          constructor
          · intro h
            cases h
          · rintro ⟨hmost, homissible, ⟨-, hchecks⟩, -⟩
            rw [ih.2 ⟨hmost, homissible, hchecks, rfl⟩] at hslots
            cases hslots
        | ok slots' =>
          obtain ⟨hmost, homissible, hchecks, rfl⟩ := ih.1 hslots
          constructor
          · rintro ⟨⟩
            exact ⟨hmost, homissible, ⟨rfl, hchecks⟩, rfl⟩
          · rintro ⟨-, -, -, rfl⟩
            rfl

theorem lookup_map_tree (name : String) (ms : List (String × Json)) :
    (ms.map fun m => (m.1, m.2.tree)).lookup name = (ms.lookup name).map tree := by
  induction ms with
  | nil => rfl
  | cons m ms ih =>
    rw [List.map_cons, List.lookup_cons, List.lookup_cons, ih]
    split
    · rfl
    · rfl

theorem zip_trees (fields : List Field) (vs : List Json) :
    ((fields.zip (trees vs)).map fun p => (p.1.name, p.2)) =
      ((fields.map (·.name)).zip vs).map fun m => (m.1, m.2.tree) := by
  rw [trees_eq, List.zip_map_right, List.zip_map_left, List.map_map, List.map_map]
  rfl

theorem lookup_zip_of_mem {f : Field} {t : Tree} {vs : List Json} (hnames : (fields.map (·.name)).Nodup)
    (h : (f, t) ∈ fields.zip (trees vs)) : ∃ w, ((fields.map (·.name)).zip vs).lookup f.name = some w ∧ w.tree = t := by
  induction fields generalizing vs with
  | nil => cases h
  | cons g fields ih =>
    cases vs with
    | nil => cases h
    | cons v vs =>
      rw [trees, List.zip_cons_cons] at h
      rw [List.map_cons, List.nodup_cons] at hnames
      rw [List.map_cons, List.zip_cons_cons, lookup_member]
      rcases List.mem_cons.1 h with hfirst | hrest
      · obtain ⟨rfl, rfl⟩ := Prod.mk.inj hfirst
        exact ⟨v, if_pos rfl, rfl⟩
      · have hne : f.name ≠ g.name := fun he => hnames.1 (he ▸ List.mem_map_of_mem (List.of_mem_zip hrest).1)
        rw [if_neg hne]
        exact ih hnames.2 hrest

/-! ### Both -/

theorem bind_eq_ok {α β : Type} {x : Except Fault α} {k : α → Except Fault β} {b : β} :
    x >>= k = .ok b ↔ ∃ a, x = .ok a ∧ k a = .ok b := by
  cases x with
  | error e => simp [bind, Except.bind]
  | ok a => simp [bind, Except.bind]

/-- The fields that must be there are the first `least`. -/
def Required (fields : List Field) (least : Nat) : Prop :=
  ∀ n, (∀ f ∈ fields.drop n, f.omissible = true) ↔ least ≤ n

/-- **A record whose values pass their fields has slots, with its values.** -/
theorem slots_of_isRecord {v : Json} {value : String → Option Json} (hnames : (fields.map (·.name)).Nodup)
    (hleast : Required fields least) (h : IsRecord (fields.map (·.name)) least v value)
    (hchecks : ∀ f ∈ fields, ∀ w, value f.name = some w → f.check w.tree = .ok ()) :
    ∃ slots, v.tree.slots fields = .ok slots ∧ ∀ f ∈ fields, slots.lookup f.name = (value f.name).map tree := by
  cases h with
  | @members ms once =>
    refine ⟨slotsOf fields ms, ?_, fun f hf => lookup_slotsOf hf ms⟩
    rw [tree, Tree.slots, @ofMembers_treeMembers _ [] _ _ List.nodup_nil, List.nil_append]
    refine ⟨names_slotsOf fields ms ▸ once, fun m hm f hfind => ?_, rfl⟩
    refine hchecks f (List.mem_of_find?_eq_some hfind) m.2 ?_
    rw [name_of_find? hfind]
    exact lookup_eq_some_of_once once hm (mem_names_of_find? hfind)
  | @items vs enough most =>
    rw [List.length_map] at most
    refine ⟨_, ?_, fun f _ => lookup_map_tree f.name _⟩
    rw [tree, Tree.slots, ofItems_eq_ok, zip_trees, trees_eq, List.length_map, hleast]
    refine ⟨most, enough, fun p hp => ?_, rfl⟩
    rw [← trees_eq] at hp
    obtain ⟨w, hw, hwt⟩ := lookup_zip_of_mem hnames hp
    rw [← hwt]
    exact hchecks p.1 (List.of_mem_zip hp).1 w hw

/-- **Only a record has slots.** -/
theorem isRecord_of_slots {v : Json} {slots : Slots} (hleast : Required fields least)
    (h : v.tree.slots fields = .ok slots) : ∃ value, IsRecord (fields.map (·.name)) least v value ∧
      ∀ f ∈ fields, slots.lookup f.name = (value f.name).map tree := by
  cases v with
  | obj ms =>
    rw [tree, Tree.slots, @ofMembers_treeMembers _ [] _ _ List.nodup_nil, List.nil_append] at h
    obtain ⟨honce, -, rfl⟩ := h
    exact ⟨_, .members (names_slotsOf fields ms ▸ honce), fun f hf => lookup_slotsOf hf ms⟩
  | arr vs =>
    rw [tree, Tree.slots, ofItems_eq_ok, zip_trees, trees_eq, List.length_map, hleast] at h
    obtain ⟨hmost, henough, -, rfl⟩ := h
    exact ⟨_, .items henough (by rwa [List.length_map]), fun f _ => lookup_map_tree f.name _⟩
  | null | bool | num | str => cases h

end SnippetAudit.Json

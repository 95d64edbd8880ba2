import SnippetAudit.Proofs.Json.Printed
import SnippetAudit.Proofs.Json.Range
import SnippetAudit.Proofs.Number.Double
import Mathlib.Data.String.Basic

/-!
# Compact text is read back

A value that was read from a text can be written without blanks and read again. The text is a spelling of the value
(`spells_compact`), and a value that was read is in a form that lasts (`Readable`): its integers have 64 bits, the
names of its members are in order, and it has no more levels than were allowed (`readable_of_parse?`). So it is read
again as the same value, but that a double may lose its last digits (`reread`, `parse?_compact`). The members of a
value that was built by hand are put in order on the way, and stay the members of their names (`member?_ofMembers`).
-/

namespace SnippetAudit.Json

/-! ## The compact text -/

mutual

/-- **A compact text is a spelling of its value.** -/
theorem spells_compact : ∀ v : Json, Spells (.value v.printed) (compactChars v)
  | .null => .null
  | .bool true => .yes
  | .bool false => .no
  | .num n => by
    rw [printed, compactChars]
    exact n.spells_text
  | .str s => by
    rw [printed, compactChars]
    exact spells_quoted s
  | .arr [] => .noItems .nil
  | .arr (v :: vs) => by
    have h := spells_compactItems (v :: vs) (List.cons_ne_nil _ _)
    rw [printed, compactChars]
    exact .arr h
  | .obj [] => .noMembers .nil
  | .obj (m :: ms) => by
    have h := spells_compactMembers (m :: ms) (List.cons_ne_nil _ _)
    rw [printed, compactChars]
    exact .obj h

theorem spells_compactItems : ∀ vs : List Json, vs ≠ [] → Spells (.items (printedItems vs)) (compactItems vs)
  | [], h => absurd rfl h
  | [v], _ => by
    have h := Spells.lastItem .nil (spells_compact v) .nil
    simpa [printedItems, compactItems] using h
  | v :: v' :: vs, _ => by
    have hs := spells_compactItems (v' :: vs) (List.cons_ne_nil _ _)
    have h := Spells.item .nil (spells_compact v) .nil hs
    simpa [printedItems, compactItems] using h

theorem spells_compactMembers : ∀ ms : List (String × Json), ms ≠ [] →
    Spells (.members (printedMembers ms)) (compactMembers ms)
  | [], h => absurd rfl h
  | [(n, v)], _ => by
    have h := spells_lastMember (n := n) .nil .nil (spells_compact v) .nil
    simpa [printedMembers, compactMembers] using h
  | (n, v) :: m :: ms, _ => by
    have hs := spells_compactMembers (m :: ms) (List.cons_ne_nil _ _)
    have h := spells_member (n := n) .nil .nil (spells_compact v) .nil hs
    simpa [printedMembers, compactMembers] using h

end

/-! ## Members in order -/

/-- The names of the members stand in order, each once. -/
def Ordered (ms : List (String × Json)) : Prop := (ms.map (·.1)).Pairwise (· < ·)

theorem mem_insertMember {n : String} {v : Json} {ms : List (String × Json)} {m : String × Json}
    (h : m ∈ insertMember n v ms) : m = (n, v) ∨ m ∈ ms := by
  induction ms with
  | nil => exact Or.inl (List.mem_singleton.1 h)
  | cons m' ms ih =>
    obtain ⟨n', v'⟩ := m'
    rw [insertMember] at h
    split at h
    · rcases List.mem_cons.1 h with h | h
      · exact Or.inl h
      · exact Or.inr (List.mem_cons_of_mem _ h)
    · split at h
      · exact List.mem_cons.1 h
      · rcases List.mem_cons.1 h with h | h
        · exact Or.inr (h ▸ List.mem_cons_self)
        · exact (ih h).imp_right (List.mem_cons_of_mem _)

/-- A member is put in its place. -/
theorem Ordered.insert {ms : List (String × Json)} (h : Ordered ms) (n : String) (v : Json) :
    Ordered (insertMember n v ms) := by
  unfold Ordered at h ⊢
  induction ms with
  | nil => exact List.pairwise_singleton _ _
  | cons m ms ih =>
    obtain ⟨n', v'⟩ := m
    rw [List.map_cons, List.pairwise_cons] at h
    obtain ⟨hfirst, hrest⟩ := h
    rw [insertMember]
    split
    · next heq =>
      subst heq
      exact List.pairwise_cons.2 ⟨hfirst, hrest⟩
    next hne =>
    split
    · next hlt =>
      refine List.pairwise_cons.2 ⟨?_, List.pairwise_cons.2 ⟨hfirst, hrest⟩⟩
      intro name hname
      rcases List.mem_cons.1 hname with rfl | hname
      · exact hlt
      · exact lt_trans hlt (hfirst name hname)
    · next hge =>
      refine List.pairwise_cons.2 ⟨?_, ih hrest⟩
      intro name hname
      obtain ⟨m, hm, rfl⟩ := List.mem_map.1 hname
      rcases mem_insertMember hm with rfl | hm
      · exact lt_of_le_of_ne (not_lt.1 hge) (Ne.symm hne)
      · exact hfirst m.1 (List.mem_map_of_mem hm)

/-- Members in order are appended one by one. -/
theorem insertMember_append {n : String} {v : Json} {ms : List (String × Json)} (h : ∀ m ∈ ms, m.1 < n) :
    insertMember n v ms = ms ++ [(n, v)] := by
  induction ms with
  | nil => rfl
  | cons m ms ih =>
    obtain ⟨n', v'⟩ := m
    have hlt : n' < n := h (n', v') List.mem_cons_self
    rw [insertMember, if_neg (ne_of_gt hlt), if_neg (lt_asymm hlt), ih fun m hm => h m (List.mem_cons_of_mem _ hm)]
    rfl

theorem foldl_insertMember {ms : List (String × Json)} : ∀ {acc : List (String × Json)}, Ordered (acc ++ ms) →
    ms.foldl (fun acc m => insertMember m.1 m.2 acc) acc = acc ++ ms := by
  induction ms with
  | nil =>
    intro acc _
    exact (List.append_nil acc).symm
  | cons m ms ih =>
    intro acc h
    have hlast : ∀ m' ∈ acc, m'.1 < m.1 := by
      unfold Ordered at h
      rw [List.map_append, List.pairwise_append] at h
      intro m' hm'
      exact h.2.2 m'.1 (List.mem_map_of_mem hm') m.1 List.mem_cons_self
    rw [List.foldl_cons, insertMember_append hlast, ih (by rwa [List.append_assoc]), List.append_assoc]
    rfl

/-- **Members in order are those of their object.** -/
theorem ofMembers_ordered {ms : List (String × Json)} (h : Ordered ms) : ofMembers ms = .obj ms := by
  rw [ofMembers, @foldl_insertMember ms [] h, List.nil_append]

/-- The object of some members has them in order, and no others. -/
theorem ofMembers_eq (ms : List (String × Json)) :
    ∃ ms', ofMembers ms = .obj ms' ∧ Ordered ms' ∧ ∀ m ∈ ms', m ∈ ms := by
  have hfold : ∀ (ms acc : List (String × Json)), Ordered acc →
      Ordered (ms.foldl (fun acc m => insertMember m.1 m.2 acc) acc) ∧
        ∀ m ∈ ms.foldl (fun acc m => insertMember m.1 m.2 acc) acc, m ∈ acc ∨ m ∈ ms := by
    intro ms
    induction ms with
    | nil =>
      intro acc h
      exact ⟨h, fun m hm => Or.inl hm⟩
    | cons m ms ih =>
      intro acc h
      obtain ⟨hordered, hmem⟩ := ih _ (h.insert m.1 m.2)
      refine ⟨hordered, fun m' hm' => ?_⟩
      rcases hmem m' hm' with hm' | hm'
      · rcases mem_insertMember hm' with rfl | hm'
        · exact Or.inr List.mem_cons_self
        · exact Or.inl hm'
      · exact Or.inr (List.mem_cons_of_mem _ hm')
  obtain ⟨hordered, hmem⟩ := hfold ms [] List.Pairwise.nil
  refine ⟨_, rfl, hordered, fun m hm => ?_⟩
  exact (hmem m hm).resolve_left List.not_mem_nil

theorem lookup_member (name n : String) (v : Json) (ms : List (String × Json)) :
    ((n, v) :: ms).lookup name = if name = n then some v else ms.lookup name := by
  rw [List.lookup_cons]
  by_cases h : name = n
  · rw [if_pos h, beq_iff_eq.2 h]
  · rw [if_neg h, beq_false_of_ne h]

/-- A member that is set is found under its name, and all others are found as before. -/
theorem lookup_insertMember (name n : String) (v : Json) (ms : List (String × Json)) :
    (insertMember n v ms).lookup name = if name = n then some v else ms.lookup name := by
  induction ms with
  | nil => rw [insertMember, lookup_member]
  | cons m ms ih =>
    obtain ⟨n', v'⟩ := m
    rw [insertMember]
    by_cases hn : n = n'
    · subst hn
      rw [if_pos rfl, lookup_member, lookup_member]
      split
      · rfl
      · rfl
    · rw [if_neg hn]
      split
      · rw [lookup_member]
      · rw [lookup_member, lookup_member, ih]
        -- the names differ, so at most one of the two tests holds
        by_cases h : name = n
        · rw [if_neg (h ▸ hn), if_pos h, if_pos h]
        · rw [if_neg h, if_neg h]

/-- **A member of an object is the last one of its name.** -/
theorem member?_ofMembers (name : String) (ms : List (String × Json)) :
    (ofMembers ms).member? name = ms.reverse.lookup name := by
  have hfold : ∀ acc : List (String × Json), (ms.foldl (fun acc m => insertMember m.1 m.2 acc) acc).lookup name =
      (ms.reverse ++ acc).lookup name := by
    induction ms with
    | nil =>
      intro acc
      rfl
    | cons m ms ih =>
      intro acc
      rw [List.foldl_cons, ih, List.reverse_cons, List.append_assoc, List.lookup_append, List.lookup_append,
        lookup_insertMember, List.singleton_append, lookup_member]
  rw [ofMembers, member?, hfold, List.append_nil]

/-! ## Values that were read -/

/-- The form of a value that was read with at most `depth` levels. -/
inductive Readable : Nat → Json → Prop
  | null {depth : Nat} : Readable depth .null
  | bool {depth : Nat} (b : Bool) : Readable depth (.bool b)
  | whole {depth : Nat} {n : Int} (h : Num.IsWord n) : Readable depth (.num (.whole n))
  | real {depth : Nat} (x : Float) : Readable depth (.num (.real x))
  | str {depth : Nat} (s : String) : Readable depth (.str s)
  | arr {depth : Nat} {vs : List Json} (h : ∀ v ∈ vs, Readable depth v) : Readable (depth + 1) (.arr vs)
  | obj {depth : Nat} {ms : List (String × Json)} (h : ∀ m ∈ ms, Readable depth m.2) (ordered : Ordered ms) :
      Readable (depth + 1) (.obj ms)

/-- More levels may be allowed. -/
theorem Readable.mono {depth depth' : Nat} {v : Json} (h : Readable depth v) (hle : depth ≤ depth') :
    Readable depth' v := by
  induction h generalizing depth' with
  | null => exact .null
  | bool b => exact .bool b
  | whole h => exact .whole h
  | real x => exact .real x
  | str s => exact .str s
  | arr _ ih =>
    obtain ⟨depth', rfl⟩ := Nat.exists_eq_add_of_lt hle
    exact .arr fun v hv => ih v hv (by omega)
  | obj _ ordered ih =>
    obtain ⟨depth', rfl⟩ := Nat.exists_eq_add_of_lt hle
    exact .obj (fun m hm => ih m hm (by omega)) ordered

/-- A numeral denotes an integer of 64 bits, or a double. -/
theorem Numeral.readable_number? {n : Numeral} {k : Num} (h : n.number? = some k) (depth : Nat) :
    Readable depth (.num k) := by
  have hlt := gather_lt (by decide : 0 < UInt64.size) n.whole
  have hsize : UInt64.size = 2 ^ 64 := rfl
  unfold number? at h
  simp only at h
  generalize (gather 0 n.whole).1 = significand at h hlt
  split at h
  · next hcond =>
    simp only [Bool.and_eq_true, Bool.or_eq_true, Bool.not_eq_true', decide_eq_true_eq] at hcond
    cases h
    refine .whole ?_
    cases hneg : n.negative with
    | false =>
      rw [if_neg (by decide)]
      constructor
      · omega
      · omega
    | true =>
      have hle : significand ≤ UInt64.size / 2 := hcond.2.resolve_left (by rw [hneg]; decide)
      rw [if_pos rfl]
      constructor
      · omega
      · omega
  · obtain ⟨d, -, rfl⟩ := Option.map_eq_some_iff.1 h
    exact .real _

/-- What a tree, or the inside of brackets, denotes is readable. -/
def Shape.Denotes : Shape → Prop
  | .value t => ∀ depth v, t.json? depth = some v → Readable depth v
  | .items ts => ∀ depth vs, Tree.jsons? depth ts = some vs → ∀ v ∈ vs, Readable depth v
  | .members ms => ∀ depth vs, Tree.jsonMembers? depth ms = some vs → ∀ m ∈ vs, Readable depth m.2

theorem jsons?_cons {depth : Nat} {t : Tree} {ts : List Tree} {vs : List Json}
    (h : Tree.jsons? depth (t :: ts) = some vs) :
    ∃ v vs', vs = v :: vs' ∧ t.json? depth = some v ∧ Tree.jsons? depth ts = some vs' := by
  rw [Tree.jsons?] at h
  split at h
  · cases h
  · next v hv =>
    obtain ⟨vs', hvs', rfl⟩ := Option.map_eq_some_iff.1 h
    exact ⟨v, vs', rfl, hv, hvs'⟩

theorem jsonMembers?_cons {depth : Nat} {o : Option String} {t : Tree} {ms : List (Option String × Tree)}
    {vs : List (String × Json)} (h : Tree.jsonMembers? depth ((o, t) :: ms) = some vs) :
    ∃ n v vs', vs = (n, v) :: vs' ∧ t.json? depth = some v ∧ Tree.jsonMembers? depth ms = some vs' := by
  cases o with
  | none => cases h
  | some n =>
    rw [Tree.jsonMembers?] at h
    split at h
    · cases h
    · next v hv =>
      obtain ⟨vs', hvs', rfl⟩ := Option.map_eq_some_iff.1 h
      exact ⟨n, v, vs', rfl, hv, hvs'⟩

theorem readable_arr {ts : List Tree} (h : (Shape.items ts).Denotes) : (Shape.value (.arr ts)).Denotes := by
  intro depth v hv
  cases depth with
  | zero => cases hv
  | succ depth =>
    obtain ⟨vs, hvs, rfl⟩ := Option.map_eq_some_iff.1 hv
    exact .arr (h depth vs hvs)

theorem readable_obj {ms : List (Option String × Tree)} (h : (Shape.members ms).Denotes) :
    (Shape.value (.obj ms)).Denotes := by
  intro depth v hv
  cases depth with
  | zero => cases hv
  | succ depth =>
    obtain ⟨vs, hvs, rfl⟩ := Option.map_eq_some_iff.1 hv
    obtain ⟨ms', hms', hordered, hmem⟩ := ofMembers_eq vs
    rw [hms']
    exact .obj (fun m hm => h depth vs hvs m (hmem m hm)) hordered

theorem denotes_items {t : Tree} {ts : List Tree} (h : (Shape.value t).Denotes) (hs : (Shape.items ts).Denotes) :
    (Shape.items (t :: ts)).Denotes := by
  intro depth vs hvs
  obtain ⟨v, vs', rfl, hv, hvs'⟩ := jsons?_cons hvs
  exact List.forall_mem_cons.2 ⟨h depth v hv, hs depth vs' hvs'⟩

theorem denotes_members {o : Option String} {t : Tree} {ms : List (Option String × Tree)}
    (h : (Shape.value t).Denotes) (hs : (Shape.members ms).Denotes) : (Shape.members ((o, t) :: ms)).Denotes := by
  intro depth vs hvs
  obtain ⟨n, v, vs', rfl, hv, hvs'⟩ := jsonMembers?_cons hvs
  exact List.forall_mem_cons.2 ⟨h depth v hv, hs depth vs' hvs'⟩

theorem denotes_noItems : (Shape.items []).Denotes := by
  rintro depth vs ⟨⟩ v hv
  cases hv

theorem denotes_noMembers : (Shape.members []).Denotes := by
  rintro depth vs ⟨⟩ v hv
  cases hv

/-- **What a spelling denotes is readable.** -/
theorem Spells.denotes {sh : Shape} {w : List Char} (h : Spells sh w) : sh.Denotes := by
  induction h with
  | null =>
    rintro depth v ⟨⟩
    exact .null
  | yes | no =>
    rintro depth v ⟨⟩
    exact .bool _
  | num _ =>
    intro depth v hv
    obtain ⟨k, hk, rfl⟩ := Option.map_eq_some_iff.1 hv
    exact Numeral.readable_number? hk depth
  | str _ =>
    intro depth v hv
    obtain ⟨s, -, rfl⟩ := Option.map_eq_some_iff.1 hv
    exact .str s
  | noItems => exact readable_arr denotes_noItems
  | arr _ ih => exact readable_arr ih
  | noMembers => exact readable_obj denotes_noMembers
  | obj _ ih => exact readable_obj ih
  | lastItem _ _ _ ih => exact denotes_items ih denotes_noItems
  | item _ _ _ _ ih ihs => exact denotes_items ih ihs
  | lastMember _ _ _ _ _ _ ih => exact denotes_members ih denotes_noMembers
  | member _ _ _ _ _ _ _ ih ihs => exact denotes_members ih ihs

/-- **A value that was read is readable.** -/
theorem readable_of_parse? {s : List Char} {v : Json} (h : parseChars? s = some v) : Readable depthLimit v := by
  obtain ⟨t, ⟨g, w, g', -, hw, -, -⟩, hv⟩ := parseChars?_eq_some.1 h
  exact hw.denotes depthLimit v hv

/-- A member has at most as many levels as its object. -/
theorem Readable.member? {depth : Nat} {v m : Json} {name : String} (h : Readable depth v)
    (hm : v.member? name = some m) : Readable depth m := by
  cases h with
  | null | bool | whole | real | str | arr => cases hm
  | obj h _ =>
    obtain ⟨before, after, rfl, -⟩ := List.lookup_eq_some_iff.1 hm
    have hmem : (name, m) ∈ before ++ (name, m) :: after := List.mem_append_right before List.mem_cons_self
    exact (h (name, m) hmem).mono (Nat.le_succ _)

/-! ## Reading again -/

mutual

/-- A value with null in the place of every binary number. -/
def withoutReals : Json → Json
  | .null => .null
  | .bool b => .bool b
  | .num (.whole n) => .num (.whole n)
  | .num _ => .null
  | .str s => .str s
  | .arr vs => .arr (withoutRealsItems vs)
  | .obj ms => .obj (withoutRealsMembers ms)

def withoutRealsItems : List Json → List Json
  | [] => []
  | v :: vs => v.withoutReals :: withoutRealsItems vs

def withoutRealsMembers : List (String × Json) → List (String × Json)
  | [] => []
  | (n, v) :: ms => (n, v.withoutReals) :: withoutRealsMembers ms

end

/-- What a double is printed as is read as a double, or as null where it is not finite. -/
theorem Num.printed_real (x : Float) : (x.isFinite = true ∧ ∃ y, (Num.real x).printed = .num (some (.real y))) ∨
    (x.isFinite = false ∧ (Num.real x).printed = .null) := by
  cases hx : x.isFinite with
  | false =>
    refine Or.inr ⟨rfl, ?_⟩
    rw [Num.printed]
    rcases Number.ofFloat_not_finite hx with h | ⟨negative, h⟩
    · rw [h]
      rfl
    · rw [h]
      rfl
  | true =>
    obtain ⟨negative, d, hd, hm, he⟩ := Number.ofFloat_finite hx
    obtain ⟨y, hy⟩ := number?_numeralOf negative hm he
    refine Or.inl ⟨rfl, y, ?_⟩
    rw [Num.printed, hd, Num.printedBinary, hy]

/-- Items that are read again one by one are read again as a list. -/
theorem reread_items {depth : Nat} {vs : List Json}
    (h : ∀ v ∈ vs, ∃ v', v.printed.json? depth = some v' ∧ v'.withoutReals = v.withoutReals) :
    ∃ vs', Tree.jsons? depth (printedItems vs) = some vs' ∧ withoutRealsItems vs' = withoutRealsItems vs := by
  induction vs with
  | nil => exact ⟨[], rfl, rfl⟩
  | cons v vs ih =>
    obtain ⟨hv, hvs⟩ := List.forall_mem_cons.1 h
    obtain ⟨v', hv', he⟩ := hv
    obtain ⟨vs', hvs', hes⟩ := ih hvs
    refine ⟨v' :: vs', ?_, ?_⟩
    · rw [printedItems, Tree.jsons?, hv', hvs']
      rfl
    · rw [withoutRealsItems, withoutRealsItems, he, hes]

theorem reread_members {depth : Nat} {ms : List (String × Json)}
    (h : ∀ m ∈ ms, ∃ v', m.2.printed.json? depth = some v' ∧ v'.withoutReals = m.2.withoutReals) :
    ∃ ms', Tree.jsonMembers? depth (printedMembers ms) = some ms' ∧ ms'.map (·.1) = ms.map (·.1) ∧
      withoutRealsMembers ms' = withoutRealsMembers ms := by
  induction ms with
  | nil => exact ⟨[], rfl, rfl, rfl⟩
  | cons m ms ih =>
    obtain ⟨n, v⟩ := m
    obtain ⟨hv, hvs⟩ := List.forall_mem_cons.1 h
    obtain ⟨v', hv', he⟩ := hv
    obtain ⟨ms', hms', hnames, hes⟩ := ih hvs
    refine ⟨(n, v') :: ms', ?_, ?_, ?_⟩
    · rw [printedMembers, Tree.jsonMembers?]
      simp only [hv', hms', Option.map_some]
    · rw [List.map_cons, List.map_cons, hnames]
    · rw [withoutRealsMembers, withoutRealsMembers, hes]
      exact congrArg (fun u => (n, u) :: _) he

/-- **A readable value is read again as itself**, up to its doubles. -/
theorem Readable.reread {depth : Nat} {v : Json} (h : Readable depth v) :
    ∃ v', v.printed.json? depth = some v' ∧ v'.withoutReals = v.withoutReals := by
  induction h with
  | null => exact ⟨_, rfl, rfl⟩
  | bool b => exact ⟨_, rfl, rfl⟩
  | str s => exact ⟨_, rfl, rfl⟩
  | @whole depth n hn =>
    refine ⟨.num (.whole n), ?_, rfl⟩
    rw [printed, Num.printed, Num.number?_whole hn]
    rfl
  | real x =>
    rcases Num.printed_real x with ⟨-, y, hy⟩ | ⟨-, hnull⟩
    · exact ⟨.num (.real y), by rw [printed, hy]; rfl, rfl⟩
    · exact ⟨.null, by rw [printed, hnull]; rfl, rfl⟩
  | arr _ ih =>
    obtain ⟨vs', hvs', hes⟩ := reread_items ih
    refine ⟨.arr vs', ?_, ?_⟩
    · rw [printed, Tree.json?, hvs']
      rfl
    · rw [withoutReals, withoutReals, hes]
  | obj _ ordered ih =>
    obtain ⟨ms', hms', hnames, hes⟩ := reread_members ih
    have hordered : Ordered ms' := by
      unfold Ordered at ordered ⊢
      rwa [hnames]
    refine ⟨.obj ms', ?_, ?_⟩
    · rw [printed, Tree.json?, hms', Option.map_some, ofMembers_ordered hordered]
    · rw [withoutReals, withoutReals, hes]

/-- **The compact text of a readable value is read as the value**, up to its doubles. -/
theorem Readable.parse?_compact {v : Json} (h : Readable depthLimit v) :
    ∃ v', parse? v.compact = some v' ∧ v'.withoutReals = v.withoutReals := by
  obtain ⟨v', hv', he⟩ := h.reread
  refine ⟨v', ?_, he⟩
  rw [parse?, compact, String.toList_ofList]
  exact parseChars?_eq_some.2 ⟨v.printed, (spells_compact v).textOf, hv'⟩

/-! ## Without doubles -/

theorem withoutRealsItems_eq (vs : List Json) : withoutRealsItems vs = vs.map withoutReals := by
  induction vs with
  | nil => rfl
  | cons v vs ih => rw [withoutRealsItems, ih, List.map_cons]

theorem asString?_withoutReals (v : Json) : v.withoutReals.asString? = v.asString? := by
  cases v with
  | num n => cases n <;> rfl
  | null | bool | str | arr | obj => rfl

theorem asArray?_withoutReals (v : Json) : v.withoutReals.asArray? = v.asArray?.map (List.map withoutReals) := by
  cases v with
  | num n => cases n <;> rfl
  | arr vs => exact congrArg some (withoutRealsItems_eq vs)
  | null | bool | str | obj => rfl

theorem lookup_withoutReals (n : String) (ms : List (String × Json)) :
    (withoutRealsMembers ms).lookup n = (ms.lookup n).map withoutReals := by
  induction ms with
  | nil => rfl
  | cons m ms ih =>
    obtain ⟨n', v⟩ := m
    rw [withoutRealsMembers, List.lookup_cons, List.lookup_cons]
    cases n == n' with
    | true => rfl
    | false => exact ih

/-- The members stay in their places. -/
theorem member?_withoutReals (n : String) (v : Json) :
    v.withoutReals.member? n = (v.member? n).map withoutReals := by
  cases v with
  | num k => cases k <;> rfl
  | obj ms => exact lookup_withoutReals n ms
  | null | bool | str | arr => rfl

end SnippetAudit.Json

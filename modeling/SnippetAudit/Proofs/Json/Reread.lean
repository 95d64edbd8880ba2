import Mathlib.Data.List.Forall2
import SnippetAudit.Json.Decoder
import SnippetAudit.Proofs.Json.Compact

/-!
# What is read back of what is written

`Reread depth v v'` says that the text of `v` is read as `v'`, at a place with at most `depth` levels left. There is one
rule for each kind of value; an object is read with its members in the order of their names (`Reread.obj`). A whole text
is read by `Reread.parse?_compact`.

A list that is decoded from a text is not much longer than the text (`length_of_decode`), so its length and the places
in it are numbers that are read as they are written.
-/

namespace SnippetAudit.Json

/-- The text of a value is read as another value. -/
def Reread (depth : Nat) (v v' : Json) : Prop := v.printed.json? depth = some v'

/-- A member that is read under the same name. -/
def RereadMember (depth : Nat) (m m' : String × Json) : Prop := m.1 = m'.1 ∧ Reread depth m.2 m'.2

/-! ## Rules -/

namespace Reread

variable {depth : Nat}

theorem null : Reread depth .null .null := rfl

theorem bool (b : Bool) : Reread depth (.bool b) (.bool b) := rfl

theorem str (s : String) : Reread depth (.str s) (.str s) := rfl

theorem strOrNull (s : Option String) : Reread depth (.strOrNull s) (.strOrNull s) := by
  cases s <;> rfl

theorem nat {n : Nat} (h : n < UInt64.size) : Reread depth (.nat n) (.nat n) := by
  rw [Reread, printed_nat h]
  rfl

theorem jsons?_printedItems {vs vs' : List Json} (h : List.Forall₂ (Reread depth) vs vs') :
    Tree.jsons? depth (printedItems vs) = some vs' := by
  induction h with
  | nil => rfl
  | @cons v v' vs vs' hv _ ih =>
    have hjson : v.printed.json? depth = some v' := hv
    rw [printedItems, Tree.jsons?, hjson, ih]
    rfl

theorem jsonMembers?_printedMembers {ms ms' : List (String × Json)} (h : List.Forall₂ (RereadMember depth) ms ms') :
    Tree.jsonMembers? depth (printedMembers ms) = some ms' := by
  induction h with
  | nil => rfl
  | @cons m m' ms ms' hm _ ih =>
    obtain ⟨n, v⟩ := m
    obtain ⟨n', v'⟩ := m'
    obtain ⟨rfl, hv⟩ := hm
    have hjson : v.printed.json? depth = some v' := hv
    simp only [printedMembers, Tree.jsonMembers?, hjson, ih, Option.map_some]

/-- **Arrays** are read item by item. -/
theorem arr {vs vs' : List Json} (h : List.Forall₂ (Reread depth) vs vs') :
    Reread (depth + 1) (.arr vs) (.arr vs') := by
  rw [Reread, printed, Tree.json?, jsons?_printedItems h]
  rfl

/-- **Objects** are read member by member, and put in order. -/
theorem obj {ms ms' : List (String × Json)} (h : List.Forall₂ (RereadMember depth) ms ms') :
    Reread (depth + 1) (.obj ms) (.ofMembers ms') := by
  rw [Reread, printed, Tree.json?, jsonMembers?_printedMembers h]
  rfl

/-- **A compact text is read as the value it is reread as.** -/
theorem parse?_compact {v v' : Json} (h : Reread depthLimit v v') : parse? v.compact = some v' := by
  rw [parse?, compact, String.toList_ofList]
  exact parseChars?_eq_some.2 ⟨v.printed, (spells_compact v).textOf, h⟩

end Reread

/-! ## Lengths -/

/-- The reader takes an item from the fuel for each item. -/
theorem length_items (fuel : Nat) : ∀ s : List Char, (items fuel s).1.length ≤ fuel + 1 := by
  induction fuel with
  | zero =>
    intro s
    simp [items]
  | succ fuel ih =>
    intro s
    rw [items.eq_def]
    simp only
    split
    · next r _ =>
      have hrest := ih r
      simp only [List.length_cons]
      omega
    · simp
    · simp

theorem length_of_value {fuel : Nat} {s r : List Char} {ts : List Tree} (h : value fuel s = (.arr ts, r)) :
    ts.length ≤ fuel := by
  cases fuel with
  | zero => simp [value] at h
  | succ fuel =>
    have hword : ∀ (word s : List Char) (t : Tree), t ≠ .arr ts → expect word t s ≠ (.arr ts, r) := by
      intro word s t ht
      unfold expect
      split
      · exact fun he => ht (Prod.mk.inj he).1
      · exact fun he => by cases he
    rw [value.eq_def] at h
    simp only at h
    split at h
    · cases h
    · split at h <;> cases h
    · split at h
      · cases h
        exact Nat.zero_le _
      · next s' hs _ _ =>
        have hts : (items fuel (skipGap s')).1 = ts := by
          simpa using congrArg Prod.fst h
        rw [← hts]
        exact length_items fuel _
    · split at h <;> cases h
    · exact absurd h (hword _ _ _ Tree.noConfusion)
    · exact absurd h (hword _ _ _ Tree.noConfusion)
    · exact absurd h (hword _ _ _ Tree.noConfusion)
    · split at h <;> cases h

theorem length_of_mapM {α β ε : Type} {f : α → Except ε β} : ∀ {xs : List α} {ys : List β}, xs.mapM f = .ok ys →
    ys.length = xs.length := by
  intro xs
  induction xs with
  | nil =>
    intro ys h
    rw [List.mapM_nil] at h
    cases h
    rfl
  | cons x xs ih =>
    intro ys h
    rw [List.mapM_cons] at h
    cases hx : f x with
    | error e =>
      rw [hx] at h
      cases h
    | ok y =>
      cases hxs : xs.mapM f with
      | error e =>
        rw [hx, hxs] at h
        cases h
      | ok ys' =>
        rw [hx, hxs] at h
        cases h
        rw [List.length_cons, List.length_cons, ih hxs]

/-- **A list that is decoded is bounded by its text.** -/
theorem length_of_decode {α : Type} {d : Decoder α} {s : List Char} {as : List α}
    (h : decode (.listOf d) s = .ok as) : as.length ≤ 2 * s.length + 2 := by
  obtain ⟨t, r, hvalue⟩ : ∃ t r, value (2 * s.length + 2) s = (t, r) := ⟨_, _, rfl⟩
  have hlist : Decoder.listOf d t = .ok as := by
    rw [decode, read, hvalue] at h
    cases hd : Decoder.listOf d t with
    | error fault =>
      simp only [hd] at h
      cases h
    | ok bs =>
      simp only [hd] at h
      cases hrest : (skipGap r).isEmpty with
      | false =>
        rw [hrest] at h
        cases h
      | true =>
        rw [hrest] at h
        cases h
        rfl
  cases t with
  | arr ts =>
    rw [length_of_mapM (f := d) hlist]
    exact length_of_value hvalue
  | num n => cases n <;> cases hlist
  | str o => cases o <;> cases hlist
  | null | bool | obj | broken => cases hlist

end SnippetAudit.Json

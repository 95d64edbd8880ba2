import SnippetAudit.Proofs.Files.Path
import Mathlib.Data.List.Lex
import Mathlib.Data.List.Sort

/-!
# The order of paths

Paths are compared by their components, the first difference deciding (`Path.Before`). That is a strict order, and a
total one up to different spellings of the same components, so `Path.le` sorts (`pairwise_le_mergeSort`). A list of
paths in which each stands strictly before the later ones has no path twice and is settled by its members
(`eq_of_pairwise_before`).
-/

namespace SnippetAudit.Path

namespace Component

/-- A component that comes first. -/
def Before (a b : Component) : Prop := a.before b = true

theorem name_before_name {s t : String} : Before (.name s) (.name t) ↔ s < t := by
  simp [Before, before]

/-- Components of different kinds are ordered by kind. -/
theorem before_iff_rank {a b : Component} (h : a.rank ≠ b.rank) : a.Before b ↔ a.rank < b.rank := by
  cases a <;> cases b <;> simp_all [Before, before, rank]

theorem eq_or_names_of_rank_eq {a b : Component} (h : a.rank = b.rank) :
    (a = b ∧ ¬a.Before b) ∨ ∃ s t, a = .name s ∧ b = .name t := by
  cases a <;> cases b <;> simp_all [Before, before, rank]

theorem rank_le_of_before {a b : Component} (h : a.Before b) : a.rank ≤ b.rank := by
  by_cases hrank : a.rank = b.rank
  · exact hrank.le
  · exact ((before_iff_rank hrank).1 h).le

theorem before_trans {a b c : Component} (hab : a.Before b) (hbc : b.Before c) : a.Before c := by
  have h1 := rank_le_of_before hab
  have h2 := rank_le_of_before hbc
  by_cases hac : a.rank = c.rank
  · obtain ⟨-, hno⟩ | ⟨s, t, rfl, rfl⟩ := eq_or_names_of_rank_eq (h1.antisymm (h2.trans hac.ge))
    · exact absurd hab hno
    obtain ⟨-, hno⟩ | ⟨_, u, -, rfl⟩ := eq_or_names_of_rank_eq (h2.antisymm hac.ge)
    · exact absurd hbc hno
    exact name_before_name.2 (String.lt_trans (name_before_name.1 hab) (name_before_name.1 hbc))
  · exact (before_iff_rank hac).2 (by omega)

theorem before_irrefl (a : Component) : ¬a.Before a := by
  obtain ⟨-, hno⟩ | ⟨s, t, rfl, -⟩ := eq_or_names_of_rank_eq (rfl : a.rank = a.rank)
  · exact hno
  · exact mt name_before_name.1 (String.lt_irrefl s)

theorem eq_of_not_before {a b : Component} (hab : ¬a.Before b) (hba : ¬b.Before a) : a = b := by
  by_cases hrank : a.rank = b.rank
  · obtain ⟨heq, -⟩ | ⟨s, t, rfl, rfl⟩ := eq_or_names_of_rank_eq hrank
    · exact heq
    · rw [name_before_name, String.not_lt] at hab hba
      rw [String.le_antisymm hba hab]
  · rw [before_iff_rank hrank] at hab
    rw [before_iff_rank (Ne.symm hrank)] at hba
    omega

instance : IsStrictTotalOrder Component Before where
  trichotomous _ _ := eq_of_not_before
  irrefl := before_irrefl
  trans _ _ _ := before_trans

end Component

/-! ## Lists of components -/

/-- The first difference decides, and a beginning comes before what it is a beginning of. -/
theorem componentsLe_iff : ∀ {as bs : List Component},
    componentsLe as bs = true ↔ as = bs ∨ List.Lex Component.Before as bs
  | [], [] => by simp [componentsLe]
  | [], b :: bs => by simp [componentsLe]
  | a :: as, [] => by simp [componentsLe]
  | a :: as, b :: bs => by
    rw [componentsLe, Bool.or_eq_true, Bool.and_eq_true, beq_iff_eq, componentsLe_iff, List.cons_lex_cons_iff]
    change a.Before b ∨ _ ↔ _
    constructor
    · rintro (h | ⟨rfl, rfl | h⟩)
      · exact .inr (.inl h)
      · exact .inl rfl
      · exact .inr (.inr ⟨rfl, h⟩)
    · rintro (h | h | ⟨rfl, h⟩)
      · obtain ⟨rfl, rfl⟩ := List.cons.inj h
        exact .inr ⟨rfl, .inl rfl⟩
      · exact .inl h
      · exact .inr ⟨rfl, .inr h⟩

instance : IsStrictTotalOrder (List Component) (List.Lex Component.Before) :=
  { isStrictWeakOrder_of_isOrderConnected with }

/-! ## Paths -/

/-- A path whose components come strictly first. -/
def Before (p q : Path) : Prop := List.Lex Component.Before p.components q.components

theorem le_iff {p q : Path} : p.le q = true ↔ p.components = q.components ∨ p.Before q := componentsLe_iff

theorem before_of_le {p q : Path} (h : p.le q = true) (hne : p.components ≠ q.components) : p.Before q :=
  (le_iff.1 h).resolve_left hne

instance : Std.Asymm Before where
  asymm _ _ h := asymm_of (List.Lex Component.Before) h

theorem le_trans (p q r : Path) (hpq : p.le q = true) (hqr : q.le r = true) : p.le r = true := by
  rw [le_iff] at *
  obtain hpq | hpq := hpq
  · rw [hpq, Before, hpq]
    exact hqr
  obtain hqr | hqr := hqr
  · rw [← hqr, Before, ← hqr]
    exact .inr hpq
  · exact .inr (trans_of (List.Lex Component.Before) hpq hqr)

theorem le_total (p q : Path) : (p.le q || q.le p) = true := by
  rw [Bool.or_eq_true, le_iff, le_iff]
  obtain h | h | h := trichotomous_of (List.Lex Component.Before) p.components q.components
  · exact .inl (.inr h)
  · exact .inl (.inl h)
  · exact .inr (.inr h)

theorem pairwise_le_mergeSort (ps : List Path) : (ps.mergeSort le).Pairwise fun p q => p.le q = true :=
  List.pairwise_mergeSort le_trans le_total ps

/-- **Sorting paths with different components puts each strictly before the later ones.** -/
theorem pairwise_before_mergeSort {ps : List Path} (h : (ps.map components).Nodup) :
    (ps.mergeSort le).Pairwise Before := by
  have hnodup : ((ps.mergeSort le).map components).Nodup := ((List.mergeSort_perm ps le).map components).nodup_iff.2 h
  rw [List.Nodup, List.pairwise_map] at hnodup
  exact (pairwise_le_mergeSort ps).imp₂ (fun _ _ => before_of_le) hnodup

/-- **A list in strict order is settled by its members.** -/
theorem eq_of_pairwise_before {ps qs : List Path} (hps : ps.Pairwise Before) (hqs : qs.Pairwise Before)
    (h : ∀ p, p ∈ ps ↔ p ∈ qs) : ps = qs :=
  hps.eq_of_mem_iff hqs h

/-- By their texts the two would stand the other way round: a point comes before a slash. -/
example : (⟨"a/b"⟩ : Path).le ⟨"a.c"⟩ = true ∧ (⟨"a.c"⟩ : Path).le ⟨"a/b"⟩ = false := by decide

end SnippetAudit.Path

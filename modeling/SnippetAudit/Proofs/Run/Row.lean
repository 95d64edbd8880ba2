import SnippetAudit.Proofs.Backend.Logged

/-!
# Steps in a row

What a row of steps of one kind does, told from one of its steps: as many results as there are steps
(`Audit.length_mapM`), each the result of its step from the run that the steps before it leave behind
(`Audit.mapM_at`), and nothing touched that no step touches (`Audit.mapM_keeps`). A row that is a part of a longer one
does the same there (`Audit.mapM_append_apply`).

A walk with a state of its own keeps what every step keeps of it (`Audit.foldlM_keeps`). Where each step writes one
result down, what is written is the row of the results (`Audit.foldlM_writes`).
-/

namespace SnippetAudit.Audit

variable {σ α β γ : Type}

theorem length_mapM (step : α → Audit σ β) (xs : List α) : ∀ run, (xs.mapM step run).1.length = xs.length := by
  induction xs with
  | nil =>
    intro run
    rfl
  | cons x xs ih =>
    intro run
    rw [List.mapM_cons]
    exact congrArg (· + 1) (ih (step x run).2)

theorem mapM_append_apply (step : α → Audit σ β) (xs ys : List α) (run : Run σ) :
    (xs ++ ys).mapM step run =
      let first := xs.mapM step run
      let rest := ys.mapM step first.2
      (first.1 ++ rest.1, rest.2) := by
  rw [List.mapM_append]
  rfl

/-- **The result at a place**, and the run behind it. -/
theorem mapM_at (step : α → Audit σ β) {xs : List α} {i : Nat} {x : α} (h : xs[i]? = some x) (run : Run σ) :
    let reached := ((xs.take i).mapM step run).2
    (xs.mapM step run).1[i]? = some (step x reached).1 ∧ ((xs.take (i + 1)).mapM step run).2 = (step x reached).2 := by
  induction xs generalizing i run with
  | nil => cases h
  | cons y xs ih =>
    cases i with
    | zero =>
      cases h
      rw [List.mapM_cons]
      exact ⟨rfl, rfl⟩
    | succ i =>
      rw [List.getElem?_cons_succ] at h
      obtain ⟨hresult, hrun⟩ := ih h (step y run).2
      rw [List.take_succ_cons, List.take_succ_cons, List.mapM_cons, List.mapM_cons, List.mapM_cons]
      exact ⟨hresult, hrun⟩

/-- What no step touches stays. -/
theorem mapM_keeps (view : Run σ → γ) {step : α → Audit σ β} (h : ∀ x run, view (step x run).2 = view run)
    (xs : List α) : ∀ run, view (xs.mapM step run).2 = view run := by
  induction xs with
  | nil =>
    intro run
    rfl
  | cons x xs ih =>
    intro run
    rw [List.mapM_cons]
    exact (ih (step x run).2).trans (h x run)

/-! ## Walks -/

/-- What every step keeps of the state stays so. -/
theorem foldlM_keeps {P : β → Prop} {step : β → α → Audit σ β} (h : ∀ b x run, P b → P (step b x run).1)
    (xs : List α) : ∀ b run, P b → P (xs.foldlM step b run).1 := by
  induction xs with
  | nil =>
    intro b run hb
    exact hb
  | cons x xs ih =>
    intro b run hb
    rw [List.foldlM_cons]
    exact ih _ _ (h b x run hb)

/-- **A walk whose steps write their results down** does what the row of these steps does. -/
theorem foldlM_writes {written : β → List γ} {step : β → α → Audit σ β} {look : α → Audit σ γ}
    (h : ∀ b x run, written (step b x run).1 = written b ++ [(look x run).1] ∧ (step b x run).2 = (look x run).2)
    (xs : List α) : ∀ b run, written (xs.foldlM step b run).1 = written b ++ (xs.mapM look run).1 ∧
      (xs.foldlM step b run).2 = (xs.mapM look run).2 := by
  induction xs with
  | nil =>
    intro b run
    exact ⟨(List.append_nil _).symm, rfl⟩
  | cons x xs ih =>
    intro b run
    obtain ⟨hwritten, hrun⟩ := h b x run
    obtain ⟨hrest, hend⟩ := ih (step b x run).1 (step b x run).2
    rw [List.foldlM_cons, List.mapM_cons]
    refine ⟨hrest.trans ?_, hend.trans ?_⟩
    · rw [hwritten, hrun, List.append_assoc]
      rfl
    · rw [hrun]
      rfl

end SnippetAudit.Audit

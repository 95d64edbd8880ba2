import SnippetAudit.Command.Console
import SnippetAudit.Proofs.Backend.Logged

/-!
# Attempts from a state on

What an attempt comes to from a transcript and a run: its result, what was printed, and the run behind it. A step that
was done hands its state on (`Attempt.bind_ok`), a step that was given up is the end (`Attempt.bind_error`).
-/

namespace SnippetAudit.Command.Attempt

variable {σ α β : Type} {t t' : Transcript} {run run' : Run σ}

theorem pure_apply (a : α) (t : Transcript) (run : Run σ) : (pure a : Attempt σ α) t run = ((.ok a, t), run) := rfl

theorem throw_apply (e : Trouble) (t : Transcript) (run : Run σ) :
    (throw e : Attempt σ α) t run = ((.error e, t), run) := rfl

theorem audit_apply (m : Audit σ α) (t : Transcript) (run : Run σ) :
    audit m t run = ((.ok (m run).1, t), (m run).2) := rfl

theorem liftM_apply (m : Audit σ α) (t : Transcript) (run : Run σ) :
    (liftM m : Attempt σ α) t run = ((.ok (m run).1, t), (m run).2) := rfl

theorem files_apply (t : Transcript) (run : Run σ) : files t run = ((.ok run.files, t), run) := rfl

theorem print_apply (text : String) (t : Transcript) (run : Run σ) :
    print text t run = ((.ok (), t.print text), run) := rfl

theorem say_apply (line : String) (t : Transcript) (run : Run σ) :
    say line t run = ((.ok (), t.print (line ++ "\n")), run) := rfl

theorem remark_apply (line : String) (t : Transcript) (run : Run σ) :
    remark line t run = ((.ok (), t.remark line), run) := rfl

/-- What is expected prints nothing and leaves the run alone. -/
theorem expect_apply (subject : String) (r : Except Failure α) (t : Transcript) (run : Run σ) :
    expect subject r t run = ((r.mapError (Trouble.ofFailure subject), t), run) := by
  cases r <;> rfl

section Bind

variable {m : Attempt σ α} {k : α → Attempt σ β}

theorem bind_apply (m : Attempt σ α) (k : α → Attempt σ β) (t : Transcript) (run : Run σ) :
    (m >>= k) t run = ExceptT.bindCont k (m t run).1.1 (m t run).1.2 (m t run).2 := rfl

/-- **A step that was done hands its state on.** -/
theorem bind_ok {a : α} (h : m t run = ((.ok a, t'), run')) : (m >>= k) t run = k a t' run' := by
  rw [bind_apply, h]
  rfl

/-- **A step that was given up is the end.** -/
theorem bind_error {e : Trouble} (h : m t run = ((.error e, t'), run')) : (m >>= k) t run = ((.error e, t'), run') := by
  rw [bind_apply, h]
  rfl

end Bind

end SnippetAudit.Command.Attempt

import SpecTrace.Proofs.Text.Cursor
import SpecTrace.Workspace.Session

/-! What a computation with faults and a state answers, and in which state it ends. -/

namespace SpecTrace

section

variable {ε σ α β : Type}

/-- The answer of a computation that starts in a state, and the state it ends in. -/
def runFrom (m : ExceptT ε (StateM σ) α) (s : σ) : Except ε α × σ :=
  m.run s

@[simp] theorem mapError_ok {ε' : Type} (f : ε → ε') (a : α) :
    (Except.ok a : Except ε α).mapError f = .ok a := rfl

@[simp] theorem mapError_error {ε' : Type} (f : ε → ε') (e : ε) :
    (Except.error e : Except ε α).mapError f = .error (f e) := rfl

/-- Only the fault of an outcome is changed. -/
theorem mapError_eq_ok {ε' : Type} {f : ε → ε'} {outcome : Except ε α} {a : α} :
    outcome.mapError f = .ok a ↔ outcome = .ok a := by
  cases outcome <;> simp

/-- An outcome has an answer if it is one. -/
theorem toOption_eq_some {outcome : Except ε α} {a : α} :
    outcome.toOption = some a ↔ outcome = .ok a := by
  cases outcome <;> simp [Except.toOption]

@[simp] theorem runFrom_pure (a : α) (s : σ) :
    runFrom (pure a : ExceptT ε (StateM σ) α) s = (.ok a, s) := rfl

@[simp] theorem runFrom_throw (e : ε) (s : σ) :
    runFrom (throw e : ExceptT ε (StateM σ) α) s = (.error e, s) := rfl

@[simp] theorem runFrom_get (s : σ) :
    runFrom (get : ExceptT ε (StateM σ) σ) s = (.ok s, s) := rfl

@[simp] theorem runFrom_set (t s : σ) :
    runFrom (set t : ExceptT ε (StateM σ) PUnit) s = (.ok ⟨⟩, t) := rfl

@[simp] theorem runFrom_modify (f : σ → σ) (s : σ) :
    runFrom (modify f : ExceptT ε (StateM σ) PUnit) s = (.ok ⟨⟩, f s) := rfl

@[simp] theorem runFrom_lift (r : Except ε α) (s : σ) :
    runFrom (liftM r : ExceptT ε (StateM σ) α) s = (r, s) := by
  cases r <;> rfl

/-- The second of two steps starts where the first one ended, unless that one failed. -/
theorem runFrom_bind (m : ExceptT ε (StateM σ) α) (f : α → ExceptT ε (StateM σ) β) (s : σ) :
    runFrom (m >>= f) s =
      match runFrom m s with
      | (.ok a, t) => runFrom (f a) t
      | (.error e, t) => (.error e, t) := by
  unfold runFrom ExceptT.run
  simp only [bind, ExceptT.bind, ExceptT.mk, StateT.bind, ExceptT.bindCont]
  -- The first step is run, and its answer decides whether the second one is run as well.
  cases m s with
  | mk r t => cases r <;> rfl

/-- Changing the answer changes nothing else. -/
theorem runFrom_map (f : α → β) (m : ExceptT ε (StateM σ) α) (s : σ) :
    runFrom (f <$> m) s =
      match runFrom m s with
      | (.ok a, t) => (.ok (f a), t)
      | (.error e, t) => (.error e, t) := by
  rw [map_eq_pure_bind, runFrom_bind]
  rfl

/-- A step that answers hands its answer to the next one. -/
theorem runFrom_bind_ok {m : ExceptT ε (StateM σ) α} {f : α → ExceptT ε (StateM σ) β} {s t : σ}
    {a : α} (answered : runFrom m s = (.ok a, t)) : runFrom (m >>= f) s = runFrom (f a) t := by
  rw [runFrom_bind, answered]

/-- A step that fails is the last one. -/
theorem runFrom_bind_error {m : ExceptT ε (StateM σ) α} {f : α → ExceptT ε (StateM σ) β}
    {s t : σ} {e : ε} (failed : runFrom m s = (.error e, t)) :
    runFrom (m >>= f) s = (.error e, t) := by
  rw [runFrom_bind, failed]

/-- Two steps answer if the first one does and the second one does behind it. -/
theorem runFrom_bind_eq_ok {m : ExceptT ε (StateM σ) α} {f : α → ExceptT ε (StateM σ) β} {s : σ}
    {b : β} : (runFrom (m >>= f) s).1 = .ok b ↔
      ∃ a, (runFrom m s).1 = .ok a ∧ (runFrom (f a) (runFrom m s).2).1 = .ok b := by
  rw [runFrom_bind]
  rcases runFrom m s with ⟨answer, t⟩
  cases answer <;> simp

/-- What is known of the first of two steps decides about both, if it does so when the first step
answers and when it fails. -/
theorem runFrom_bind_of {m : ExceptT ε (StateM σ) α} {f : α → ExceptT ε (StateM σ) β} {s : σ}
    {P : Except ε α × σ → Prop} {Q : Except ε β × σ → Prop} (first : P (runFrom m s))
    (answers : ∀ a t, P (.ok a, t) → Q (runFrom (f a) t))
    (fails : ∀ e t, P (.error e, t) → Q (.error e, t)) : Q (runFrom (m >>= f) s) := by
  rcases ran : runFrom m s with ⟨answer, t⟩
  rw [ran] at first
  -- The second step runs only behind an answer.
  cases answer with
  | ok a =>
    rw [runFrom_bind_ok ran]
    exact answers a t first
  | error e =>
    rw [runFrom_bind_error ran]
    exact fails e t first

/-- A run that is seen to answer has an answer. -/
theorem exists_of_isOk {m : ExceptT ε (StateM σ) α} {s : σ}
    (answers : (runFrom m s).1.isOk = true) : ∃ a t, runFrom m s = (.ok a, t) := by
  rcases ran : runFrom m s with ⟨answer, t⟩
  rw [ran] at answers
  -- A fault is no answer, so only an answer is left.
  cases answer with
  | ok a => exact ⟨a, t, rfl⟩
  | error e => cases answers

/-- A run whose answer is seen to pass a test has such an answer. -/
theorem exists_of_answers {m : ExceptT ε (StateM σ) α} {s : σ} {test : α → Bool}
    (passes : (runFrom m s).1.toOption.any test = true) :
    ∃ a t, runFrom m s = (.ok a, t) ∧ test a = true := by
  -- A fault passes no test, so the run has an answer.
  rcases ran : runFrom m s with ⟨answer, t⟩
  rw [ran] at passes
  cases answer with
  | ok a => exact ⟨a, t, rfl, passes⟩
  | error e => cases passes

/-- A handler goes on in the state in which the failing step ended. -/
theorem runFrom_tryCatch (m : ExceptT ε (StateM σ) α) (f : ε → ExceptT ε (StateM σ) α) (s : σ) :
    runFrom (tryCatch m f) s =
      match runFrom m s with
      | (.ok a, t) => (.ok a, t)
      | (.error e, t) => runFrom (f e) t := by
  unfold runFrom ExceptT.run
  simp only [tryCatch, tryCatchThe, MonadExceptOf.tryCatch, ExceptT.tryCatch, ExceptT.mk, bind,
    StateT.bind]
  -- The handler is asked for a fault only, in the state that the failing step left behind.
  cases m s with
  | mk r t => cases r <;> rfl

end

end SpecTrace

/-!
# Steps that fail and keep what was done

In `ExceptT ε (StateM σ)` a step that fails leaves the state as it is at that
moment.  `exec` runs a step and gives both, its result and the state it leaves.
The lemmas here take a run apart, one step after the other.
-/

namespace DebugCatalog

section Steps

variable {ε σ α β : Type}

/-- The result of a step and the state it leaves. -/
def exec (x : ExceptT ε (StateM σ) α) (s : σ) : Except ε α × σ :=
  x.run.run s

variable {x : ExceptT ε (StateM σ) α} {f : α → ExceptT ε (StateM σ) β} {s s' : σ}

theorem exec_bind_ok {a : α} (h : exec x s = (.ok a, s')) : exec (x >>= f) s = exec (f a) s' := by
  unfold exec at h ⊢
  rw [ExceptT.run_bind, StateT.run_bind, h]
  rfl

theorem exec_bind_error {e : ε} (h : exec x s = (.error e, s')) :
    exec (x >>= f) s = (.error e, s') := by
  unfold exec at h ⊢
  rw [ExceptT.run_bind, StateT.run_bind, h]
  rfl

/-- Two steps that succeed one after the other. -/
theorem exists_of_exec_bind_ok {b : β} (h : exec (x >>= f) s = (.ok b, s')) :
    ∃ a s₁, exec x s = (.ok a, s₁) ∧ exec (f a) s₁ = (.ok b, s') := by
  cases hx : exec x s with
  | mk result s₁ =>
    cases result with
    | ok a => exact ⟨a, s₁, rfl, (exec_bind_ok hx).symm.trans h⟩
    | error e => cases (exec_bind_error hx).symm.trans h

/-- Of two steps, the first fails or the second does. -/
theorem error_of_exec_bind {e : ε} (h : exec (x >>= f) s = (.error e, s')) :
    exec x s = (.error e, s') ∨
      ∃ a s₁, exec x s = (.ok a, s₁) ∧ exec (f a) s₁ = (.error e, s') := by
  cases hx : exec x s with
  | mk result s₁ =>
    cases result with
    | ok a => exact .inr ⟨a, s₁, rfl, (exec_bind_ok hx).symm.trans h⟩
    | error e' =>
      cases (exec_bind_error hx).symm.trans h
      exact .inl rfl

theorem exec_pure (a : α) (s : σ) : exec (pure a : ExceptT ε (StateM σ) α) s = (.ok a, s) := rfl

theorem exec_get (s : σ) : exec (get : ExceptT ε (StateM σ) σ) s = (.ok s, s) := rfl

theorem exec_modify (g : σ → σ) (s : σ) :
    exec (modify g : ExceptT ε (StateM σ) PUnit) s = (.ok ⟨⟩, g s) := rfl

/-- Steps that never fail, one for each entry of a list. -/
theorem exec_forM {ι : Type} {g : ι → ExceptT ε (StateM σ) PUnit} {put : σ → ι → σ}
    (h : ∀ i s, exec (g i) s = (.ok ⟨⟩, put s i)) (l : List ι) (s : σ) :
    exec (l.forM g) s = (.ok ⟨⟩, l.foldl put s) := by
  induction l generalizing s with
  | nil => rfl
  | cons i l ih =>
    change exec (g i >>= fun _ => l.forM g) s = _
    rw [exec_bind_ok (h i s), ih, List.foldl_cons]

end Steps

end DebugCatalog

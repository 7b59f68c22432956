/-!
# Evaluating `Except` computations

The functions that throw in the source return `Except` here. These lemmas evaluate
`do` blocks over `Except` step by step: a returned value passes on, a thrown one
skips the rest, and a sequence of checks returns exactly when each check does.
-/

namespace KitchenSync

/-- A returned value passes straight to the rest of the computation. -/
@[simp] theorem except_ok_bind {ε α β : Type} (a : α) (f : α → Except ε β) :
    (Except.ok a >>= f) = f a := rfl

/-- A thrown failure skips the rest of the computation. -/
@[simp] theorem except_error_bind {ε α β : Type} (e : ε) (f : α → Except ε β) :
    (Except.error e >>= f) = .error e := rfl

/-- `throw` is `Except.error`. -/
@[simp] theorem except_throw {ε α : Type} (e : ε) : (throw e : Except ε α) = .error e := rfl

/-- `pure` is `Except.ok`. -/
@[simp] theorem except_pure {ε α : Type} (a : α) : (pure a : Except ε α) = .ok a := rfl

/-- A thrown failure passes through `<$>`. -/
@[simp] theorem except_map_error {ε α β : Type} (f : α → β) (e : ε) :
    (f <$> Except.error e : Except ε β) = .error e := rfl

/-- A sequence of checks returns when every check in it returns. -/
@[simp] theorem except_bind_eq_ok {ε β : Type} {x : Except ε Unit} {f : Unit → Except ε β} {b : β} :
    (x >>= f) = .ok b ↔ x = .ok () ∧ f () = .ok b := by
  rcases x with e | ⟨⟩ <;> simp

/-- A sequence of checks throws what its first throwing check throws. -/
@[simp] theorem except_bind_eq_error {ε β : Type} {x : Except ε Unit} {f : Unit → Except ε β}
    {e : ε} : (x >>= f) = .error e ↔ x = .error e ∨ (x = .ok () ∧ f () = .error e) := by
  rcases x with e' | ⟨⟩ <;> simp

/-- A computation throws what its first step throws, or what the rest throws once the first
step returns. -/
theorem except_bind_eq_error_iff {ε α β : Type} {x : Except ε α} {f : α → Except ε β} {e : ε} :
    (x >>= f) = .error e ↔ x = .error e ∨ ∃ a, x = .ok a ∧ f a = .error e := by
  rcases x with e' | a <;> simp

/-! ### Loops

A loop over rows whose step may throw is a `foldlM` over `Except`. What the step keeps, the
loop keeps, and a loop throws only what one of its steps throws. -/

section Loops

variable {ε σ α : Type} (P : σ → Prop) {f : σ → α → Except ε σ}

/-- A loop whose every step from a state satisfying `P`, on a row of the loop, returns what a
plain step does and keeps `P`, runs as the plain fold. -/
theorem foldlM_eq_ok_foldl {g : σ → α → σ} {rows : List α}
    (hstep : ∀ state, P state → ∀ row ∈ rows, f state row = .ok (g state row) ∧ P (g state row))
    {state : σ} (hstate : P state) : rows.foldlM f state = .ok (rows.foldl g state) := by
  induction rows generalizing state with
  | nil => rfl
  | cons row rows ih =>
    obtain ⟨hrow, hnext⟩ := hstep state hstate row (List.mem_cons_self _ _)
    rw [List.foldlM_cons, hrow, except_ok_bind, List.foldl_cons]
    exact ih (fun state h row hrow => hstep state h row (List.mem_cons_of_mem _ hrow)) hnext

variable (hstep : ∀ state row next, P state → f state row = .ok next → P next)
include hstep

/-- A loop whose steps keep `P` ends, when it returns, in a state satisfying `P`. -/
theorem foldlM_invariant {rows : List α} {state final : σ} (hstate : P state)
    (h : rows.foldlM f state = .ok final) : P final := by
  induction rows generalizing state with
  | nil => exact Except.ok.inj h ▸ hstate
  | cons row rows ih =>
    rw [List.foldlM_cons] at h
    cases hrow : f state row with
    | error e => rw [hrow, except_error_bind] at h; cases h
    | ok next => rw [hrow, except_ok_bind] at h; exact ih (hstep _ _ _ hstate hrow) h

/-- A loop throws what one of its steps throws on one of its rows, from a state satisfying
`P` when the steps keep `P`. -/
theorem exists_eq_error_of_foldlM_eq_error {rows : List α} {state : σ} {e : ε}
    (hstate : P state) (h : rows.foldlM f state = .error e) :
    ∃ state, P state ∧ ∃ row ∈ rows, f state row = .error e := by
  induction rows generalizing state with
  | nil => cases h
  | cons row rows ih =>
    rw [List.foldlM_cons] at h
    rcases except_bind_eq_error_iff.mp h with h | ⟨next, hrow, h⟩
    · exact ⟨state, hstate, row, List.mem_cons_self _ _, h⟩
    · obtain ⟨state, hP, row', hrow', h⟩ := ih (hstep _ _ _ hstate hrow) h
      exact ⟨state, hP, row', List.mem_cons_of_mem _ hrow', h⟩

end Loops

end KitchenSync

-- SUMMARY: Operations on a state that may fail and keep the state they failed in.
import Reindent.Failure

/-! # Attempts

An attempt changes a state and either gives a value or fails. A failure does not undo anything: the
state is left as it was when the failure arose, and later attempts go on from there. -/

namespace Reindent

def Attempt (σ α : Type) : Type :=
  σ → Except Failure α × σ

namespace Attempt

variable {σ α β : Type}

protected def pure (a : α) : Attempt σ α :=
  fun s => (.ok a, s)

protected def bind (x : Attempt σ α) (k : α → Attempt σ β) : Attempt σ β :=
  fun s =>
    match x s with
    | (.ok a, s') => k a s'
    | (.error e, s') => (.error e, s')

instance : Monad (Attempt σ) where
  pure := Attempt.pure
  bind := Attempt.bind

def fail (e : Failure) : Attempt σ α :=
  fun s => (.error e, s)

def state : Attempt σ σ :=
  fun s => (.ok s, s)

def update (f : σ → σ) : Attempt σ Unit :=
  fun s => (.ok (), f s)

/-- Gives a result that is there already, or fails with it. -/
def lift (r : Except Failure α) : Attempt σ α :=
  fun s => (r, s)

/-! ## Laws -/

theorem bind_ok {x : Attempt σ α} {k : α → Attempt σ β} {s s' : σ} {a : α} (h : x s = (.ok a, s')) :
    (x >>= k) s = k a s' := by
  show Attempt.bind x k s = _
  simp [Attempt.bind, h]

theorem bind_error {x : Attempt σ α} {k : α → Attempt σ β} {s s' : σ} {e : Failure}
    (h : x s = (.error e, s')) : (x >>= k) s = (.error e, s') := by
  show Attempt.bind x k s = _
  simp [Attempt.bind, h]

/-- What follows depends only on what the first attempt comes to. -/
theorem bind_congr {x y : Attempt σ α} (k : α → Attempt σ β) {s t : σ} (h : x s = y t) :
    (x >>= k) s = (y >>= k) t := by
  show Attempt.bind x k s = Attempt.bind y k t
  simp [Attempt.bind, h]

@[simp] theorem pure_apply (a : α) (s : σ) : (pure a : Attempt σ α) s = (.ok a, s) := rfl

@[simp] theorem state_bind (k : σ → Attempt σ β) (s : σ) : (state >>= k) s = k s s := rfl

@[simp] theorem update_bind (f : σ → σ) (k : Unit → Attempt σ β) (s : σ) :
    (update f >>= k) s = k () (f s) := rfl

@[simp] theorem fail_bind (e : Failure) (k : α → Attempt σ β) (s : σ) :
    ((fail e : Attempt σ α) >>= k) s = (.error e, s) := rfl

/-- A sequence succeeds exactly if both its parts do. -/
theorem bind_eq_ok_iff {x : Attempt σ α} {k : α → Attempt σ β} {s t : σ} {b : β} :
    (x >>= k) s = (.ok b, t) ↔ ∃ a s', x s = (.ok a, s') ∧ k a s' = (.ok b, t) := by
  cases h : x s with
  | mk r s' =>
    cases r with
    | ok a => simp [bind_ok h, and_assoc]
    | error e => simp [bind_error h]

/-! ## Measures -/

/-- The attempt, whether it succeeds or fails, does not make `μ` larger. -/
def Wanes (μ : σ → Nat) (x : Attempt σ α) : Prop :=
  ∀ s, μ (x s).2 ≤ μ s

namespace Wanes

variable {μ : σ → Nat}

theorem bind {x : Attempt σ α} {k : α → Attempt σ β} (hx : Wanes μ x) (hk : ∀ a, Wanes μ (k a)) :
    Wanes μ (x >>= k) := by
  intro s
  have hs := hx s
  cases h : x s with
  | mk r s' =>
    rw [h] at hs
    cases r with
    | ok a =>
      rw [bind_ok h]
      exact Nat.le_trans (hk a s') hs
    | error e =>
      rw [bind_error h]
      exact hs

theorem pure (a : α) : Wanes μ (Pure.pure a : Attempt σ α) :=
  fun s => Nat.le_refl (μ s)

theorem fail (e : Failure) : Wanes μ (Attempt.fail e : Attempt σ α) :=
  fun s => Nat.le_refl (μ s)

theorem state : Wanes μ (Attempt.state : Attempt σ σ) :=
  fun s => Nat.le_refl (μ s)

theorem lift (r : Except Failure α) : Wanes μ (Attempt.lift r : Attempt σ α) :=
  fun s => Nat.le_refl (μ s)

theorem update {f : σ → σ} (h : ∀ s, μ (f s) ≤ μ s) : Wanes μ (Attempt.update f) :=
  h

end Wanes

end Attempt

end Reindent

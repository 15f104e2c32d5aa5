-- SUMMARY: Attempts on two states that give the same result and leave the states related as before.
import Reindent.Attempt

/-! # Agreement

Two attempts, each on a state of its own, agree over a relation if from related states they give the
same result, be it a value or a failure, and leave related states behind. Agreement goes through
sequences step by step, so a long attempt agrees with another if their steps do. -/

namespace Reindent.Attempt

variable {σ τ α β : Type}

/-- From related states the two attempts give the same result and lead to related states. -/
def Agree (R : σ → τ → Prop) (x : Attempt σ α) (y : Attempt τ α) : Prop :=
  ∀ s t, R s t → (x s).1 = (y t).1 ∧ R (x s).2 (y t).2

namespace Agree

variable {R : σ → τ → Prop}

theorem bind {x : Attempt σ α} {y : Attempt τ α} {k : α → Attempt σ β} {l : α → Attempt τ β}
    (hx : Agree R x y) (hk : ∀ a, Agree R (k a) (l a)) : Agree R (x >>= k) (y >>= l) := by
  intro s t hst
  obtain ⟨hres, hrel⟩ := hx s t hst
  cases hxs : x s with
  | mk r s' =>
    cases hyt : y t with
    | mk r' t' =>
      rw [hxs, hyt] at hres hrel
      dsimp only at hres hrel
      subst hres
      cases r with
      | ok a =>
        rw [bind_ok hxs, bind_ok hyt]
        exact hk a s' t' hrel
      | error e =>
        rw [bind_error hxs, bind_error hyt]
        exact ⟨rfl, hrel⟩

theorem pure (a : α) :
    Agree R (Pure.pure a : Attempt σ α) (Pure.pure a : Attempt τ α) :=
  fun _ _ hst => ⟨rfl, hst⟩

theorem fail (e : Failure) : Agree R (Attempt.fail e : Attempt σ α) (Attempt.fail e) :=
  fun _ _ hst => ⟨rfl, hst⟩

theorem lift (r : Except Failure α) : Agree R (Attempt.lift r : Attempt σ α) (Attempt.lift r) :=
  fun _ _ hst => ⟨rfl, hst⟩

theorem update {f : σ → σ} {g : τ → τ} (h : ∀ s t, R s t → R (f s) (g t)) :
    Agree R (Attempt.update f) (Attempt.update g) :=
  fun s t hst => ⟨rfl, h s t hst⟩

end Agree

end Reindent.Attempt

import CloudIdentity.Service.Program

/-!
A program that is run again and again, each time in the state that the last run left behind. What
one run keeps, all later ones keep.
-/

namespace CloudIdentity.Program

variable {S : Interface} {σ α : Type} {service : Service S σ} {p : Program S α} {state : σ}

/-- The runs of so many attempts, from the first on. -/
def attempts (service : Service S σ) (p : Program S α) : Nat → σ → List (Run S σ α)
  | 0, _ => []
  | n + 1, state => p.run service state :: attempts service p n (p.run service state).state

theorem mem_attempts {n : Nat} {run : Run S σ α} (h : run ∈ p.attempts service n state) :
    ∃ before, run = p.run service before := by
  induction n generalizing state with
  | zero => cases h
  | succ n ih =>
    rcases List.mem_cons.mp h with rfl | hrest
    · exact ⟨state, rfl⟩
    · exact ih hrest

/-- If every run from a state with `Q` ends in one, every attempt from such a state on starts in
one. -/
theorem mem_attempts_of_invariant {Q : σ → Prop}
    (step : ∀ before, Q before → Q (p.run service before).state) {n : Nat} (h : Q state)
    {run : Run S σ α} (hrun : run ∈ p.attempts service n state) :
    ∃ before, Q before ∧ run = p.run service before := by
  induction n generalizing state with
  | zero => cases hrun
  | succ n ih =>
    rcases List.mem_cons.mp hrun with rfl | hrest
    · exact ⟨state, h, rfl⟩
    · exact ih (step state h) hrest

/-- What relates each run to all attempts after it holds between any two of them. -/
theorem pairwise_attempts {T : Run S σ α → Run S σ α → Prop}
    (step : ∀ before n, ∀ later ∈ p.attempts service n (p.run service before).state,
      T (p.run service before) later) (n : Nat) (state : σ) :
    (p.attempts service n state).Pairwise T := by
  induction n generalizing state with
  | zero => exact List.Pairwise.nil
  | succ n ih => exact List.Pairwise.cons (step state n) (ih _)

end CloudIdentity.Program

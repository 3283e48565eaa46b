import CloudIdentity.Service.Program

/-!
Which calls a program can make. What no such call can change in a service, no run of the program can
change.
-/

namespace CloudIdentity

variable {S : Interface} {σ α β : Type} {P : S.Call → Prop}

namespace Program

/-- Every call that the program can make is one of `P`, whatever the calls before were answered. -/
def Calls (P : S.Call → Prop) : Program S α → Prop
  | done _ => True
  | call c next => P c ∧ ∀ answer, (next answer).Calls P
  | log _ next => next.Calls P

theorem Calls.bind {p : Program S α} {f : α → Program S β} (h : p.Calls P)
    (hf : ∀ a, (f a).Calls P) : (p >>= f).Calls P := by
  induction p with
  | done a => exact hf a
  | call c next ih => exact ⟨h.1, fun answer => ih answer (h.2 answer)⟩
  | log entry next ih => exact ih h

theorem Calls.mono {Q : S.Call → Prop} {p : Program S α} (h : p.Calls P) (hPQ : ∀ c, P c → Q c) :
    p.Calls Q := by
  induction p with
  | done a => trivial
  | call c next ih => exact ⟨hPQ c h.1, fun answer => ih answer (h.2 answer)⟩
  | log entry next ih => exact ih h

/-- What every call of a program keeps, the run of the program keeps. -/
theorem Calls.run_keeps {service : Service S σ} {I : σ → Prop} {p : Program S α} (h : p.Calls P)
    (hkeep : ∀ c, P c → ∀ state, I state → I (service.answer c state).2) {state : σ}
    (hstate : I state) : I (p.run service state).state := by
  induction p generalizing state with
  | done a => exact hstate
  | call c next ih => exact ih _ (h.2 _) (hkeep c h.1 state hstate)
  | log entry next ih => exact ih h hstate

end Program

namespace Action

theorem calls_bind {x : Action S α} {f : α → Action S β} (h : x.run.Calls P)
    (hf : ∀ a, (f a).run.Calls P) : (x >>= f).run.Calls P := by
  rw [ExceptT.run_bind]
  refine h.bind fun result => ?_
  cases result with
  | ok a => exact hf a
  | error f => trivial

theorem calls_attempt {x : Action S α} (h : x.run.Calls P) : x.attempt.run.Calls P := by
  rw [run_attempt, map_eq_pure_bind]
  exact h.bind fun _ => trivial

/-- An action that goes on after another: it fails with the first, or the second runs in the state
that the first has left. -/
theorem run_bind_cases (x : Action S α) (f : α → Action S β) (service : Service S σ) (state : σ) :
    let first := x.run.run service state
    let both := (x >>= f).run.run service state
    (∃ e, first.result = .error e ∧ both.result = .error e ∧ both.state = first.state) ∨
      ∃ a, first.result = .ok a ∧ both.result = ((f a).run.run service first.state).result ∧
        both.state = ((f a).run.run service first.state).state := by
  simp only [ExceptT.run_bind, Program.run_bind]
  cases (x.run.run service state).result with
  | error e => exact Or.inl ⟨e, rfl, rfl, rfl⟩
  | ok a => exact Or.inr ⟨a, rfl, rfl, rfl⟩

end Action

end CloudIdentity

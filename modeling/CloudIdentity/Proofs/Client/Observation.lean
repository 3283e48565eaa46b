import CloudIdentity.Proofs.Client.Invocation

/-!
What can be told of a run from outside its log: the calls that the service gets, the state it is
left in, and the result. Two programs that differ in nothing but their log entries cannot be told
apart, whatever the service, and neither can operations of a client that come down to such programs.
-/

namespace CloudIdentity

open Document InMemory

variable {S : Interface} {Handle σ α β : Type}

/-- Runs that cannot be told apart but by their log. -/
structure Run.Alike (r s : Run S σ α) : Prop where
  result : r.result = s.result
  state : r.state = s.state
  calls : Report.calls r.trace = Report.calls s.trace

theorem Run.Alike.refl (r : Run S σ α) : r.Alike r := ⟨rfl, rfl, rfl⟩

namespace Program

/-- A program without its log entries. -/
def unlogged : Program S α → Program S α
  | done a => done a
  | call c next => call c fun answer => (next answer).unlogged
  | log _ next => next.unlogged

theorem unlogged_bind (p : Program S α) (f : α → Program S β) :
    (p >>= f).unlogged = p.unlogged >>= fun a => (f a).unlogged := by
  induction p with
  | done a => rfl
  | call c next ih => simp only [call_bind, unlogged, ih]
  | log entry next ih => exact ih

/-- Log entries neither make calls nor change what comes of a run. -/
theorem alike_unlogged (p : Program S α) (service : Service S σ) (state : σ) :
    (p.run service state).Alike (p.unlogged.run service state) := by
  induction p generalizing state with
  | done a => exact .refl _
  | call c next ih =>
    obtain ⟨hresult, hstate, hcalls⟩ :=
      ih (service.answer c state).1 (service.answer c state).2
    exact ⟨hresult, hstate, congrArg (c :: ·) hcalls⟩
  | log entry next ih =>
    obtain ⟨hresult, hstate, hcalls⟩ := ih state
    exact ⟨hresult, hstate, hcalls⟩

theorem alike_of_unlogged_eq {p q : Program S α} (h : p.unlogged = q.unlogged)
    (service : Service S σ) (state : σ) : (p.run service state).Alike (q.run service state) := by
  have hp := alike_unlogged p service state
  have hq := alike_unlogged q service state
  rw [← h] at hq
  exact ⟨hp.result.trans hq.result.symm, hp.state.trans hq.state.symm,
    hp.calls.trans hq.calls.symm⟩

end Program

namespace Action

/-- An action without its log entries. -/
def unlogged (action : Action S α) : Program S (Except Failure α) := action.run.unlogged

/-- Actions that are the same up to their log, and go on the same up to their log. -/
theorem unlogged_bind_congr {x y : Action S α} {f g : α → Action S β}
    (h : x.unlogged = y.unlogged) (hf : ∀ a, (f a).unlogged = (g a).unlogged) :
    (x >>= f).unlogged = (y >>= g).unlogged := by
  unfold unlogged at h ⊢
  rw [ExceptT.run_bind, ExceptT.run_bind, Program.unlogged_bind, Program.unlogged_bind, h]
  congr 1
  funext result
  cases result with
  | ok a => exact hf a
  | error f => rfl

end Action

namespace Opened

variable {o : Opened S Handle} {service : Service S σ} {state : σ}

/-- What the caller is told depends on the operation, and on nothing else in the request. -/
theorem told_congr {a b : AdapterCall} (h : a.operation = b.operation)
    (classify : Failure.Classifier) (result : Except Failure Value) :
    a.told classify result = b.told classify result := by
  have hanswer : a.hasAnswer = b.hasAnswer := by
    cases a <;> cases b <;> first | rfl | cases h
  cases result <;> simp only [AdapterCall.told, h, hanswer]

/-- Admitted calls cannot be told apart, if the adapter does the same for both but for its log. -/
theorem outcome_alike_of_admitted {c c' : ClientCall} {a a' : AdapterCall} (hc : c.admit = .ok a)
    (hc' : c'.admit = .ok a') (hoperation : a.operation = a'.operation)
    (hperform : (a.perform o.adapter o.handle).unlogged =
      (a'.perform o.adapter o.handle).unlogged) :
    (o.outcome service c state).Alike (o.outcome service c' state) := by
  have hperformed : (o.performed service a state).Alike (o.performed service a' state) :=
    Program.alike_of_unlogged_eq hperform service state
  refine ⟨?_, ?_, ?_⟩
  · rw [outcome_result hc, outcome_result hc', hperformed.result]
    exact told_congr hoperation _ _
  · rw [outcome_state hc, outcome_state hc', hperformed.state]
  · rw [outcome_admitted hc, outcome_admitted hc', calls_carryOut, calls_carryOut,
      hperformed.calls]

/-- Calls that the gate refuses alike, or makes requests of for which the adapter does the same but
for its log. -/
theorem outcome_alike {c c' : ClientCall} {gate : Except Failure α} {make make' : α → AdapterCall}
    (hc : c.admit = make <$> gate) (hc' : c'.admit = make' <$> gate)
    (hoperation : ∀ r, (make r).operation = (make' r).operation)
    (hperform : ∀ r, ((make r).perform o.adapter o.handle).unlogged =
      ((make' r).perform o.adapter o.handle).unlogged) :
    (o.outcome service c state).Alike (o.outcome service c' state) := by
  cases gate with
  | error f =>
    rw [outcome_refused hc, outcome_refused hc']
    exact .refl _
  | ok r => exact outcome_alike_of_admitted hc hc' (hoperation r) (hperform r)

end Opened

end CloudIdentity

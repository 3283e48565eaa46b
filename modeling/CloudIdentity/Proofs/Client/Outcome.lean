import CloudIdentity.Client.Operations

/-!
What a caller sees of an operation. The gate refuses it without a call, or the adapter carries it
out and the caller is told what that came to: the answer, if the operation has one, or the failure
made canonical. Between the entries that begin and end its log, an admitted operation does to the
service just what the adapter does.
-/

namespace CloudIdentity

open Document

variable {S : Interface} {Handle σ : Type}

namespace AdapterCall

/-- What the caller is told of what the adapter came to. -/
def told (classify : Failure.Classifier) (c : AdapterCall) :
    Except Failure Value → Except Failure Value
  | .ok answer => .ok (if c.hasAnswer then answer else .null)
  | .error f =>
    match f.toCanonical classify (c.operation.name ++ " failed") with
    | .ok g | .error g => .error g

/-- The entries that end the log of what the adapter came to. -/
def closingEntries (provider : String) (classify : Failure.Classifier) (c : AdapterCall) :
    Except Failure Value → List Journal.Entry
  | .ok _ => []
  | .error f =>
    match f.toCanonical classify (c.operation.name ++ " failed") with
    | .ok g => [failedEntry provider c g]
    | .error _ => []

end AdapterCall

namespace Opened

/-- What the adapter comes to when it carries out a call. -/
def performed (o : Opened S Handle) (service : Service S σ) (c : AdapterCall) (state : σ) :
    Run S σ (Except Failure Value) :=
  (c.perform o.adapter o.handle).run.run service state

/-- What an operation of the client comes to. -/
def outcome (o : Opened S Handle) (service : Service S σ) (c : ClientCall) (state : σ) :
    Run S σ (Except Failure Value) :=
  (o.call c).run.run service state

/-- The results of operations called in turn, and the state they leave the service in. -/
def outcomes (o : Opened S Handle) (service : Service S σ) :
    List ClientCall → σ → List (Except Failure Value) × σ
  | [], state => ([], state)
  | c :: rest, state =>
    let first := o.outcome service c state
    let others := outcomes o service rest first.state
    (first.result :: others.1, others.2)

variable {o : Opened S Handle} {service : Service S σ} {c : ClientCall} {a : AdapterCall}
  {state : σ}

theorem carryOut_run (o : Opened S Handle) (service : Service S σ) (a : AdapterCall) (state : σ) :
    (o.carryOut a).run.run service state =
      { result := a.told o.adapter.classify (o.performed service a state).result
        state := (o.performed service a state).state
        trace := .logged (startedEntry o.adapter.provider a) ::
          ((o.performed service a state).trace ++
            (a.closingEntries o.adapter.provider o.adapter.classify
              (o.performed service a state).result).map .logged) } := by
  rw [carryOut, performed, ExceptT.run_bind, Action.run_log, Program.log_bind, Program.done_bind,
    Program.run]
  simp only [ExceptT.run_bind, Action.run_attempt, map_eq_pure_bind, bind_assoc, Program.run_bind,
    Program.pure_eq_done, Program.done_bind]
  generalize (a.perform o.adapter o.handle).run.run service state = run
  obtain ⟨f | answer, after, trace⟩ := run
  · simp only [AdapterCall.told, AdapterCall.closingEntries]
    cases f.toCanonical o.adapter.classify (a.operation.name ++ " failed") <;> rfl
  · rfl

/-- The gate lets nothing through that it refuses. -/
theorem outcome_refused {f : Failure} (h : c.admit = .error f) :
    o.outcome service c state = ⟨.error f, state, []⟩ := by
  rw [outcome, call, h]
  rfl

theorem outcome_admitted (h : c.admit = .ok a) :
    o.outcome service c state = (o.carryOut a).run.run service state := by
  rw [outcome, call, h]
  rfl

/-- A gate refuses a call, or makes a request of it. -/
theorem admit_cases {α : Type} {gate : Except Failure α} {make : α → AdapterCall}
    (h : c.admit = make <$> gate) :
    (∃ f, c.admit = .error f) ∨ ∃ r, gate = .ok r ∧ c.admit = .ok (make r) := by
  cases gate with
  | error f => exact Or.inl ⟨f, h⟩
  | ok r => exact Or.inr ⟨r, rfl, h⟩

theorem outcome_result (h : c.admit = .ok a) :
    (o.outcome service c state).result =
      a.told o.adapter.classify (o.performed service a state).result := by
  rw [outcome_admitted h, carryOut_run]

theorem outcome_state (h : c.admit = .ok a) :
    (o.outcome service c state).state = (o.performed service a state).state := by
  rw [outcome_admitted h, carryOut_run]

/-- The calls of an operation are those of the adapter. -/
theorem called_mem_outcome_iff (h : c.admit = .ok a) {call : S.Call}
    {answer : Except Failure (S.Reply call)} :
    .called call answer ∈ (o.outcome service c state).trace ↔
      .called call answer ∈ (o.performed service a state).trace := by
  rw [outcome_admitted h, carryOut_run]
  simp

theorem outcome_answered {answer : Value} (h : c.admit = .ok a)
    (hanswer : (o.performed service a state).result = .ok answer) :
    (o.outcome service c state).result = .ok (if a.hasAnswer then answer else .null) := by
  rw [outcome_result h, hanswer, AdapterCall.told]

/-- An operation that returns was admitted, and the adapter has carried it out. -/
theorem exists_of_outcome_ok {v : Value} (h : (o.outcome service c state).result = .ok v) :
    ∃ a answer, c.admit = .ok a ∧ (o.performed service a state).result = .ok answer := by
  cases hadmitted : c.admit with
  | error f =>
    rw [outcome_refused hadmitted] at h
    cases h
  | ok a =>
    rw [outcome_result hadmitted] at h
    cases hperformed : (o.performed service a state).result with
    | ok answer => exact ⟨a, answer, rfl, hperformed⟩
    | error f =>
      rw [hperformed, AdapterCall.told] at h
      split at h <;> cases h

end Opened

end CloudIdentity

import CloudIdentity.Client.Operations
import CloudIdentity.InMemory.Script

/-!
Sessions: an opened provider taken through steps, each with a script of its own. What a step reports
is its result and the trace of its calls and log entries.
-/

namespace CloudIdentity.InMemory

open Document

/-- What is done in one step. -/
inductive Step where
  /-- An operation of the client. -/
  | client (c : ClientCall)
  /-- An operation of the adapter itself, past the gate. -/
  | adapter (c : AdapterCall)
  /-- A request that could not be made. -/
  | refused (f : Failure)
  | close
  /-- A block that the provider is open for, which may fail. -/
  | block (failure : Option Failure)
  | provider
  | region

/-- One step of an opened provider. -/
def Step.perform {S : Interface} {Handle : Type} (o : Opened S Handle) :
    Step → Program S (Except Failure Value × Opened S Handle)
  | client c => do
    let result ← (o.call c).run
    pure (result, o)
  | adapter c => do
    let result ← (c.perform o.adapter o.handle).run
    pure (result, o)
  | refused f => pure (.error f, o)
  | close => do
    let (result, o) ← o.close
    pure ((fun _ => .null) <$> result, o)
  | block failure =>
    o.leave (match failure with
      | some f => .error f
      | none => .ok (.bool true))
  | provider => pure (.ok (.str o.adapter.provider), o)
  | region => pure (.ok (.ofText (o.adapter.region o.handle)), o)

structure Report (S : Interface) where
  result : Except Failure Value
  trace : List (Event S)

/-- The reports of steps taken in turn, and the state they leave the service in. -/
def runSteps {S : Interface} {Handle σ : Type} (service : Service S (Script × σ)) :
    Opened S Handle → σ → List (Script × Step) → List (Report S) × σ
  | _, state, [] => ([], state)
  | o, state, (script, step) :: rest =>
    let run := (step.perform o).run service (script, state)
    let (reports, state) := runSteps service run.result.2 run.state.2 rest
    (⟨run.result.1, run.trace⟩ :: reports, state)

namespace Report

variable {S : Interface}

/-- The calls of a trace, in order. -/
def calls (trace : List (Event S)) : List S.Call :=
  trace.filterMap fun
    | .called c _ => some c
    | .logged _ => none

/-- The log entries of a trace, in order. -/
def entries (trace : List (Event S)) : List Journal.Entry :=
  trace.filterMap fun
    | .called _ _ => none
    | .logged e => some e

end Report

end CloudIdentity.InMemory

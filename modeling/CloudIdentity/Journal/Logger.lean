import CloudIdentity.Journal.Entry

/-!
Loggers. However often a logger is set up, it gets one handler, and its level is set with the first
of them only; so an entry at or above the level is emitted once. An entry that cannot be written is
dropped.
-/

namespace CloudIdentity.Journal

open Document

/-- A logger by its handlers, each of which emits every enabled entry, and its level; zero stands
for a level that was never set. -/
structure Logger where
  name : String
  handlers : Nat := 0
  level : Level := 0
  deriving DecidableEq, Repr

namespace Logger

/-- Makes a logger ready: the first time it gets a handler and the level INFO. -/
def setUp (l : Logger) : Logger :=
  if l.handlers = 0 then { l with handlers := 1, level := Level.info } else l

def setLevel (level : Level) (l : Logger) : Logger := { l with level := level }

/-- The level in force; where none was set it is WARNING. -/
def threshold (l : Logger) : Level := if l.level = 0 then Level.warning else l.level

def enabled (l : Logger) (level : Level) : Bool := decide (0 < level ∧ l.threshold ≤ level)

/-- An entry that has a request id; `fresh` where none was given. -/
def identified (fresh : String) (e : Entry) : Entry :=
  if e.context.requestId.truthy then e
  else { e with context := { e.context with requestId := .str fresh } }

/-- The records that an entry leads to. -/
def emit (l : Logger) (fresh : String) (e : Entry) : List Record :=
  let record := Record.ofEntry l.name (identified fresh e)
  if l.enabled e.level && record.writable then List.replicate l.handlers record else []

end Logger

/-! ## Entries from calls -/

/-- The ways to log a message: at a level of the caller's choice, or at a fixed one. -/
inductive Method where
  | atLevel
  | info
  | error
  | debug
  deriving DecidableEq, Repr

namespace Method

def name : Method → String
  | atLevel => "log_operation"
  | info => "info"
  | error => "error"
  | debug => "debug"

/-- The particulars that may come with a message. -/
def particulars : List String :=
  ["provider", "operation", "identity", "tenant", "error_kind", "request_id", "exc_info"]

/-- The names of what a method is given by position. -/
def positional : Method → List String
  | atLevel => ["self", "level", "message"]
  | _ => ["self", "message"]

def refusal (m : Method) (problem name : String) : Failure :=
  Failure.general .type ("IAMLogger." ++ m.name ++ "() got " ++ problem ++ " '" ++ name ++ "'")

/-- What is wrong with a particular of that name: that it is given by position too, or, where only
the known ones are taken, that it is not known. -/
def misfit? (m : Method) (name : String) : Option Failure :=
  if m.positional.contains name then
    some (m.refusal "multiple values for argument" name)
  else if m = atLevel ∧ !particulars.contains name then
    some (m.refusal "an unexpected keyword argument" name)
  else none

/-- The failure of the first particular that is refused. A method with a fixed level hands on what
it does not take by position itself. -/
def firstMisfit? (m : Method) (given : Members) : Option Failure :=
  (given.findSome? fun (name, _) => m.misfit? name).or
    (given.findSome? fun (name, _) => atLevel.misfit? name)

/-- The level of a message; the caller's where there is no fixed one. -/
def level (m : Method) (chosen : Value) : Value :=
  match m with
  | atLevel => chosen
  | info => .int Level.info
  | error => .int Level.error
  | debug => .int Level.debug

end Method

/-- The entry for a message with particulars by name; `handling` is the exception being handled,
told only on request. -/
def Entry.ofCall (method : Method) (chosen message : Value) (given : Members)
    (handling : Option Failure) : Except Failure Entry :=
  match method.firstMisfit? given with
  | some f => .error f
  | none => do
    let level ← Level.ofNumber (method.level chosen)
    let label ← Level.label (method.level chosen)
    pure
      { level := level
        label := label
        message := message.display
        context := Context.ofMembers given
        exception := if (given.get "exc_info").truthy then handling.map Failure.message else none }

end CloudIdentity.Journal

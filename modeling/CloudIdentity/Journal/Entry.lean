import CloudIdentity.Document.Writer
import CloudIdentity.Journal.Level

/-!
Log entries and their lines. A line is one JSON object: when, how grave, which logger, the message,
then those parts of the context that are there, then the text of an exception. Quotes and line
breaks are escaped and nothing beyond ASCII is left, so a message cannot end its line or pass for
another member.
-/

namespace CloudIdentity.Journal

open Document

/-- What an entry is about. A null part is absent. -/
structure Context where
  requestId : Value := .null
  provider : Value := .null
  operation : Value := .null
  identity : Value := .null
  tenant : Value := .null
  errorKind : Value := .null

namespace Context

def members (c : Context) : Members :=
  [("request_id", c.requestId), ("provider", c.provider), ("operation", c.operation),
    ("identity", c.identity), ("tenant", c.tenant), ("error_kind", c.errorKind)]

/-- The parts that are there. -/
def present (c : Context) : Members := c.members.filter fun (_, v) => !v.isNull

def ofMembers (members : Members) : Context where
  requestId := members.get "request_id"
  provider := members.get "provider"
  operation := members.get "operation"
  identity := members.get "identity"
  tenant := members.get "tenant"
  errorKind := members.get "error_kind"

end Context

structure Entry where
  level : Level
  /-- What the level is shown as. -/
  label : Value := .str level.name
  message : String
  context : Context := {}
  exception : Option String := none

/-- An entry as a logger emits it. -/
structure Record where
  level : Value
  logger : Value
  message : String
  context : Context
  exception : Option String

namespace Record

/-- The record of an entry under the name of a logger. -/
def ofEntry (logger : String) (e : Entry) : Record where
  level := e.label
  logger := .str logger
  message := e.message
  context := e.context
  exception := e.exception

/-- The members of a record, but for the time. -/
def members (r : Record) : Members :=
  ("level", r.level) :: ("logger", r.logger) :: ("message", .str r.message) :: r.context.present
    ++ (match r.exception with
      | some text => [("exception", .str text)]
      | none => [])

/-- The line of a record, if all that it holds can be written. -/
def line? (r : Record) (timestamp : String) : Option String :=
  (Value.object (("timestamp", .str timestamp) :: r.members)).text? spaced

/-- The line of a record; one that holds something without a text has none. -/
def line (r : Record) (timestamp : String) : Except Failure String :=
  match r.line? timestamp with
  | some s => .ok s
  | none => .error (Value.noText (Value.object r.members).obstacle?)

/-- Whether a record has a line. -/
def writable (r : Record) : Bool := (r.line? "").isSome

end Record

end CloudIdentity.Journal

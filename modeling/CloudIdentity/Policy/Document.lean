import CloudIdentity.Validation.Schema

/-!
Policy documents that belong to no provider: an ordered list of statements, each of which allows or
denies some actions.
-/

namespace CloudIdentity

open Document Validation

inductive Effect where
  | allow
  | deny
  deriving DecidableEq, Repr

namespace Effect

def name : Effect → String
  | allow => "Allow"
  | deny => "Deny"

def read : Validation.Reader Effect
  | .str "Allow" => pure allow
  | .str "Deny" => pure deny
  | _ => .refuse .notInEnumeration

end Effect

/-- One grant or denial. Google reads each action as the name of a role; only AWS uses the
identifier, the resources, the principals and the conditions. -/
structure Statement where
  sid : Option String := none
  effect : Effect
  actions : List String := []
  resources : Option (List String) := none
  principals : Option Members := none
  conditions : Option Members := none

structure PolicyDocument where
  name : Option String := none
  version : Option String := none
  statements : List Statement := []

/-- The value of a member that may be absent. -/
def orNull {α : Type} (toValue : α → Value) : Option α → Value
  | some a => toValue a
  | none => .null

namespace Statement

def fieldNames : List String :=
  ["sid", "effect", "actions", "resources", "principals", "conditions"]

def readMembers (members : Members) : Checked Statement :=
  members.closed fieldNames <|
    Statement.mk
      <$> members.optional "sid" Reader.text
      <*> members.required "effect" Effect.read
      <*> members.withDefault "actions" (Reader.list Reader.text) []
      <*> members.optional "resources" (Reader.list Reader.text)
      <*> members.optional "principals" Reader.mapping
      <*> members.optional "conditions" Reader.mapping

def read : Validation.Reader Statement := Reader.record readMembers

def toValue (s : Statement) : Value :=
  .object [("sid", .ofText s.sid), ("effect", .str s.effect.name), ("actions", .ofTexts s.actions),
    ("resources", orNull .ofTexts s.resources), ("principals", orNull .object s.principals),
    ("conditions", orNull .object s.conditions)]

end Statement

namespace PolicyDocument

def fieldNames : List String := ["name", "version", "statements"]

def readMembers (members : Members) : Checked PolicyDocument :=
  members.closed fieldNames <|
    PolicyDocument.mk
      <$> members.optional "name" Reader.text
      <*> members.optional "version" Reader.text
      <*> members.withDefault "statements" (Reader.list Statement.read) []

def read : Validation.Reader PolicyDocument := Reader.record readMembers

def toValue (d : PolicyDocument) : Value :=
  .object [("name", .ofText d.name), ("version", .ofText d.version),
    ("statements", .array (d.statements.map Statement.toValue))]

/-- The actions of the statements that allow them, in order and with repetitions. -/
def allowedActions (d : PolicyDocument) : List String :=
  d.statements.flatMap fun s => if s.effect = .allow then s.actions else []

end PolicyDocument

end CloudIdentity

import CloudIdentity.Policy.Document

/-!
An alternate source of credentials: a session whose keys or token are given, or a role to assume
from the ambient credentials.
-/

namespace CloudIdentity

open Document Validation

inductive OverrideKind where
  | session
  | assumeRole
  deriving DecidableEq, Repr

namespace OverrideKind

def name : OverrideKind → String
  | session => "session"
  | assumeRole => "assume_role"

def read : Validation.Reader OverrideKind
  | .str "session" => pure session
  | .str "assume_role" => pure assumeRole
  | _ => .refuse .notLiteral

end OverrideKind

structure CredentialsOverride where
  kind : OverrideKind
  accessKeyId : Option String := none
  secretAccessKey : Option String := none
  sessionToken : Option String := none
  role : Option String := none
  sessionName : String := "crossiam"
  durationSeconds : Int := 3600

/-- Whether a text is there and not empty. -/
def given : Option String → Bool
  | some s => s != ""
  | none => false

namespace CredentialsOverride

def fieldNames : List String :=
  ["type", "access_key_id", "secret_access_key", "session_token", "role", "session_name",
    "duration_seconds"]

/-- A role to assume has to be named, and a session needs both keys or a token. -/
def check (o : CredentialsOverride) : Checked CredentialsOverride :=
  match o.kind with
  | .assumeRole =>
    if given o.role then pure o
    else .refuse (.rule "credentials_overrider of type 'assume_role' requires 'role'")
  | .session =>
    if (given o.accessKeyId && given o.secretAccessKey) || given o.sessionToken then pure o
    else .refuse (.rule
      "credentials_overrider of type 'session' requires access keys or a session_token")

def readMembers (members : Members) : Checked CredentialsOverride :=
  (members.closed fieldNames <|
    CredentialsOverride.mk
      <$> members.required "type" OverrideKind.read
      <*> members.optional "access_key_id" Reader.text
      <*> members.optional "secret_access_key" Reader.text
      <*> members.optional "session_token" Reader.text
      <*> members.optional "role" Reader.text
      <*> members.withDefault "session_name" Reader.text "crossiam"
      <*> members.withDefault "duration_seconds" Reader.positive 3600).andThen check

def read : Validation.Reader CredentialsOverride := Reader.record readMembers

def toValue (o : CredentialsOverride) : Value :=
  .object [("type", .str o.kind.name), ("access_key_id", .ofText o.accessKeyId),
    ("secret_access_key", .ofText o.secretAccessKey), ("session_token", .ofText o.sessionToken),
    ("role", .ofText o.role), ("session_name", .str o.sessionName),
    ("duration_seconds", .int o.durationSeconds)]

end CredentialsOverride

end CloudIdentity

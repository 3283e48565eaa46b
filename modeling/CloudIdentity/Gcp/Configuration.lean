import CloudIdentity.Configuration.Environment
import CloudIdentity.Configuration.Override
import CloudIdentity.Gcp.Call

/-!
How the Google Cloud adapter is configured. Credentials come from an object that the configuration
holds or else from a key file, whose path falls back to an environment variable; the file is read
only if there is no such object.
-/

namespace CloudIdentity.Gcp

open Document Validation

structure Configuration where
  region : Option String := none
  endpoint : Option String := none
  credentials : Option Credentials := none
  credentialsPath : Option String := none
  credentialsOverride : Option CredentialsOverride := none

namespace Configuration

def title : String := "GCPConfig"

def fieldNames : List String :=
  ["region", "endpoint", "credentials", "credentials_path", "credentials_overrider"]

/-- The members after what they leave out has been taken from the environment. -/
def complete (env : Environment) (members : Members) : Members :=
  members.fallBack env "credentials_path" "GOOGLE_APPLICATION_CREDENTIALS"

def readCredentials : Validation.Reader Credentials := fun v => pure (.given v)

def readMembers (members : Members) : Checked Configuration :=
  members.closed fieldNames <|
    Configuration.mk
      <$> members.optional "region" Reader.text
      <*> members.optional "endpoint" Reader.text
      <*> members.optional "credentials" readCredentials
      <*> members.optional "credentials_path" Reader.text
      <*> members.optional "credentials_overrider" CredentialsOverride.read

def broken (text : String) : Failure := Failure.refused title [.here (.rule text)]

/-- What a failure to load a key file is reported as: that the configuration is unfit, if the file
holds something unfit. -/
def loadFailure (f : Failure) : Failure :=
  if f.origin.isValueFault then broken f.message else f

/-- The path of the key file to load, if there is one to load. -/
def keyPath? (c : Configuration) : Option String :=
  match c.credentials, c.credentialsPath with
  | none, some path => if path = "" then none else some path
  | _, _ => none

/-- Loads the key file, where there is no credentials object but a path. -/
def load (env : Environment) (c : Configuration) : Action interface Configuration :=
  match c.keyPath? with
  | none => pure c
  | some path =>
    let file := normalisedPath path
    if env.fileExists file then do
      match ← Action.attempt (Action.request (S := interface) (.loadKeyFile file)) with
      | .ok credentials => pure { c with credentials := credentials }
      | .error f => Action.fail (loadFailure f)
    else Action.fail (broken ("Credentials file not found: " ++ path))

/-- The configuration that members make up in an environment. -/
def validate (env : Environment) (members : Members) : Action interface Configuration :=
  match readMembers (complete env members) with
  | .accepted c => load env c
  | .refused complaints => Action.fail (Failure.refused title complaints)

/-- The configuration as a value, with credentials encoded as is asked. -/
def toValue (encode : Credentials → Value) (c : Configuration) : Value :=
  .object [("region", .ofText c.region), ("endpoint", .ofText c.endpoint),
    ("credentials", orNull encode c.credentials), ("credentials_path", .ofText c.credentialsPath),
    ("credentials_overrider", orNull CredentialsOverride.toValue c.credentialsOverride)]

end Configuration

end CloudIdentity.Gcp

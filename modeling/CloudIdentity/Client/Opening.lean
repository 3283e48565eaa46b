import CloudIdentity.Aws.Roles
import CloudIdentity.Gcp.Accounts

/-!
Opening a client. The provider is chosen by name; its configuration is validated before its adapter
connects.
-/

namespace CloudIdentity

open Document

inductive Provider where
  | aws
  | gcp
  deriving DecidableEq, Repr

namespace Provider

def name : Provider → String
  | aws => Aws.provider
  | gcp => Gcp.provider

def ofName? (s : String) : Option Provider := [aws, gcp].find? fun p => p.name == s

/-- The provider to open a client for. -/
def supported (s : String) : Except Failure Provider :=
  match ofName? s with
  | some p => .ok p
  | none => .error (Failure.general .value ("Unsupported cloud provider: " ++ s))

/-- The provider to validate a configuration for. -/
def configurable (s : String) : Except Failure Provider :=
  match ofName? s with
  | some p => .ok p
  | none => .error (Failure.general .value ("No config model registered for provider: " ++ s))

end Provider

namespace Aws

/-- A client for AWS with the configuration that members make up. -/
def openClient (env : Environment) (members : Members) :
    Action interface (Opened interface Handle) := do
  let configuration ← Action.ofExcept (Configuration.validate env members)
  let handle ← connect configuration
  pure ⟨adapter, handle⟩

end Aws

namespace Gcp

/-- A client for Google Cloud with the configuration that members make up. -/
def openClient (env : Environment) (members : Members) :
    Action interface (Opened interface Handle) := do
  let configuration ← Configuration.validate env members
  let handle ← connect configuration
  pure ⟨adapter, handle⟩

end Gcp

end CloudIdentity

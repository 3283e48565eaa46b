import CloudIdentity.Aws.Call
import CloudIdentity.Aws.Configuration
import CloudIdentity.Document.Access
import CloudIdentity.Service.Adapter

/-!
Opening and closing the AWS adapter. A role that has to be assumed first is assumed through a
connection to the token service, which is closed whether that succeeds or not.
-/

namespace CloudIdentity.Aws

open Document

/-- The adapter's connection: whether it is open, and the region it was made for. -/
structure Handle where
  connected : Bool
  region : Option String

/-- The ambient keys of a configuration. -/
def configuredKeys (c : Configuration) : Keys :=
  ⟨.ofText c.accessKeyId, .ofText c.secretAccessKey, .ofText c.sessionToken⟩

def sessionKeys (o : CredentialsOverride) : Keys :=
  ⟨.ofText o.accessKeyId, .ofText o.secretAccessKey, .ofText o.sessionToken⟩

/-- The keys in the answer to a role assumption. -/
def assumedKeys (credentials : Value) : Except Failure Keys := do
  let accessKeyId ← credentials.member "AccessKeyId"
  let secretAccessKey ← credentials.member "SecretAccessKey"
  let sessionToken ← credentials.member "SessionToken"
  pure ⟨accessKeyId, secretAccessKey, sessionToken⟩

/-- Makes a call. -/
def ask (c : Call) : Action interface c.Reply := Action.request (S := interface) c

/-- Assumes a role. A failure to close the connection used for it takes the place of any other. -/
def assumeRole (c : Configuration) (o : CredentialsOverride) : Action interface Keys := do
  let _ : Unit ← ask (.connectTokens (configuredKeys c) c.regionName)
  let answer ← Action.attempt (ask (.assumeRole o.role o.sessionName o.durationSeconds))
  let _ : Unit ← ask .closeTokens
  let response : Value ← Action.ofExcept answer
  let credentials ← Action.ofExcept (response.member "Credentials")
  Action.ofExcept (assumedKeys credentials)

/-- The keys that the connection is made with. -/
def resolveKeys (c : Configuration) : Action interface Keys :=
  match c.credentialsOverride with
  | none => pure (configuredKeys c)
  | some o =>
    match o.kind with
    | .session => pure (sessionKeys o)
    | .assumeRole => assumeRole c o

def connect (c : Configuration) : Action interface Handle := do
  let keys ← resolveKeys c
  let _ : Unit ← ask (.connect keys c.regionName c.endpointUrl)
  pure ⟨true, c.regionName⟩

/-- Closes the connection if it is open. It counts as closed even where that fails. -/
def disconnect (h : Handle) : Program interface (Except Failure Unit × Handle) :=
  if h.connected then do
    let answer ← (ask .close).run
    pure (answer, { h with connected := false })
  else pure (.ok (), h)

/-- Makes a call on an open connection. -/
def Handle.request (h : Handle) (c : Call) : Action interface c.Reply :=
  if h.connected then ask c
  else Action.fail (closedClient c.method)

end CloudIdentity.Aws

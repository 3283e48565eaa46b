import CloudIdentity.Gcp.Configuration
import CloudIdentity.Service.Adapter

/-!
Opening and closing the Google Cloud adapter. It has two clients; if the second cannot be made the
first is closed again. Closing takes each client that is open, the projects client first.
-/

namespace CloudIdentity.Gcp

open Document

/-- Which of the two clients are open, and the configured region. -/
structure Handle where
  projects : Bool
  accounts : Bool
  region : Option String

def platformScope : String := "https://www.googleapis.com/auth/cloud-platform"

/-- Makes a call. -/
def ask (c : Call) : Action interface c.Reply := Action.request (S := interface) c

/-- The credentials that the ambient ones, or the configured ones, are used to reach. -/
def impersonate (c : Configuration) (o : CredentialsOverride) : Action interface Credentials := do
  let source ← match c.credentials with
    | some credentials => pure credentials
    | none => ask (.defaultCredentials [platformScope])
  pure (.impersonated source o.role [platformScope] o.durationSeconds)

/-- The credentials that the clients are made with. -/
def resolveCredentials (c : Configuration) : Action interface (Option Credentials) :=
  match c.credentialsOverride with
  | none => pure c.credentials
  | some o =>
    match o.kind with
    | .session => pure (some (.token o.sessionToken))
    | .assumeRole => some <$> impersonate c o

namespace Handle

/-- Closes the client for service accounts if it is open. -/
def closeAccounts (h : Handle) : Program interface (Except Failure Unit × Handle) :=
  if h.accounts then do
    let answer ← (ask (.close .accounts)).run
    pure (answer, { h with accounts := false })
  else pure (.ok (), h)

/-- Closes the clients that are open. A client counts as closed even where closing it fails, and
then the next one is left alone. -/
def close (h : Handle) : Program interface (Except Failure Unit × Handle) :=
  if h.projects then do
    let answer ← (ask (.close .projects)).run
    let h := { h with projects := false }
    match answer with
    | .ok () => h.closeAccounts
    | .error f => pure (.error f, h)
  else h.closeAccounts

/-- Makes a call on a client that has to be open. -/
def request (h : Handle) (client : Client) (c : Call) : Action interface c.Reply :=
  let isOpen := match client with
    | .projects => h.projects
    | .accounts => h.accounts
  if isOpen then ask c else Action.fail (closedClient c.method)

end Handle

/-- An endpoint that is not empty. -/
def endpoint? (c : Configuration) : Option String := c.endpoint.filter (· != "")

def connect (c : Configuration) : Action interface Handle := do
  let credentials ← resolveCredentials c
  let _ : Unit ← ask (.connect .projects credentials (endpoint? c))
  match ← Action.attempt (ask (.connect .accounts credentials (endpoint? c))) with
  | .ok _ => pure ⟨true, true, c.region⟩
  | .error f =>
    let (closed, _) ← ExceptT.lift (Handle.close ⟨true, false, c.region⟩)
    Action.ofExcept closed
    Action.fail f

end CloudIdentity.Gcp

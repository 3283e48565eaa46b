import CloudIdentity.Failure.Reported
import CloudIdentity.Gcp.Call
import CloudIdentity.Service.Program
import CloudIdentity.Text.Affix

/-!
Google Cloud in memory: service accounts by their full names, and a policy for each resource. A
resource that was never written to has an empty policy; one may also be said to have none.
-/

namespace CloudIdentity.InMemory.Gcp

open Document CloudIdentity.Gcp

structure State where
  /-- The addresses of the service accounts, by full name. -/
  accounts : List (String × String) := []
  policies : List (String × Option Policy) := []

def State.policyOf (s : State) (resource : String) : Option Policy :=
  match s.policies.lookup resource with
  | some policy => policy
  | none => some {}

/-- Gives a resource another policy. -/
def putPolicy (resource : String) (policy : Policy) :
    List (String × Option Policy) → List (String × Option Policy)
  | [] => [(resource, some policy)]
  | (name, old) :: rest =>
    if name = resource then (name, some policy) :: rest
    else (name, old) :: putPolicy resource policy rest

def State.createAccount (s : State) (project accountId : String) : Except Failure String × State :=
  let email := accountId ++ "@" ++ project ++ ".iam.gserviceaccount.com"
  let name := "projects/" ++ project ++ "/serviceAccounts/" ++ email
  if (s.accounts.lookup name).isSome then
    (.error (Failure.googleApi .alreadyExists
      ("Service account " ++ accountId ++ " already exists.") none), s)
  else (.ok email, { s with accounts := s.accounts ++ [(name, email)] })

def noSuchAccount (name : String) : Failure :=
  Failure.googleApi .notFound ("Service account " ++ name ++ " does not exist.") none

def State.getAccount (s : State) (name : String) : Except Failure String :=
  match s.accounts.lookup name with
  | some email => .ok email
  | none => .error (noSuchAccount name)

def State.deleteAccount (s : State) (name : String) : Except Failure Unit × State :=
  if (s.accounts.lookup name).isSome then
    (.ok (), { s with accounts := s.accounts.filter fun (key, _) => key != name })
  else (.error (noSuchAccount name), s)

def service : Service interface State where
  answer
    | .defaultCredentials _, s => (.ok .ambient, s)
    | .loadKeyFile path, s => (.ok (some (.keyFile path)), s)
    | .connect .., s => (.ok (), s)
    | .close _, s => (.ok (), s)
    | .getPolicy _ resource _, s => (.ok (s.policyOf resource), s)
    | .setPolicy _ resource policy, s =>
      (.ok (), { s with policies := putPolicy resource policy s.policies })
    | .createAccount project accountId _ _, s => s.createAccount project accountId
    | .getAccount name, s => (s.getAccount name, s)
    | .deleteAccount name, s => s.deleteAccount name

/-- Credentials that a value stands for; null stands for none. -/
def credentialsOf : Value → Option Credentials
  | .null => none
  | v => some (.given v)

/-- A reply that a script gives as a value. Default credentials come in a pair with the name of a
project. -/
def reply : (c : Call) → Value → Except Failure c.Reply
  | .defaultCredentials _, v => do
    let (credentials, _) ← v.pair
    pure (Credentials.given credentials)
  | .loadKeyFile _, v => .ok (credentialsOf v)
  | .connect .., _ => .ok ()
  | .close _, _ => .ok ()
  | .getPolicy .., v => .ok (Policy.ofValue? v)
  | .setPolicy .., _ => .ok ()
  | .createAccount .., v => .ok v.text
  | .getAccount _, v => .ok v.text
  | .deleteAccount _, _ => .ok ()

end CloudIdentity.InMemory.Gcp

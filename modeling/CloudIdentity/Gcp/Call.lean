import CloudIdentity.Gcp.Policy
import CloudIdentity.Service.Program

/-!
The calls made to Google Cloud: to the projects client, to the client for service accounts, and for
credentials. A policy may be missing from the answer to a read.
-/

namespace CloudIdentity.Gcp

open Document

/-- What a client is made with. -/
inductive Credentials where
  /-- An object that the configuration holds. -/
  | given (v : Value)
  /-- The ambient credentials. -/
  | ambient
  | keyFile (path : String)
  | token (token : Option String)
  /-- Those of a service account, reached from others. -/
  | impersonated (source : Credentials) (principal : Option String) (scopes : List String)
    (seconds : Int)

inductive Client where
  | projects
  | accounts
  deriving DecidableEq, Repr

inductive Call where
  | defaultCredentials (scopes : List String)
  | loadKeyFile (path : String)
  | connect (client : Client) (credentials : Option Credentials) (endpoint : Option String)
  | close (client : Client)
  | getPolicy (client : Client) (resource : String) (version : Option Nat)
  | setPolicy (client : Client) (resource : String) (policy : Policy)
  | createAccount (project accountId displayName description : String)
  | getAccount (name : String)
  | deleteAccount (name : String)

namespace Call

/-- An account is answered by its address. A key file may turn out to hold no credentials. -/
@[reducible] def Reply : Call → Type
  | defaultCredentials _ => Credentials
  | loadKeyFile _ => Option Credentials
  | connect .. | close _ | setPolicy .. | deleteAccount _ => Unit
  | getPolicy .. => Option Policy
  | createAccount .. | getAccount _ => String

/-- The name of a call, whichever client it is made on. -/
def method : Call → String
  | defaultCredentials _ => "default_credentials"
  | loadKeyFile _ => "load_key_file"
  | connect .. => "connect"
  | close _ => "close"
  | getPolicy .. => "get_iam_policy"
  | setPolicy .. => "set_iam_policy"
  | createAccount .. => "create_service_account"
  | getAccount _ => "get_service_account"
  | deleteAccount _ => "delete_service_account"

def credentialsValue (encode : Credentials → Value) : Option Credentials → Value
  | some credentials => encode credentials
  | none => .null

def endpointValue : Option String → Value
  | some endpoint => .object [("api_endpoint", .str endpoint)]
  | none => .null

/-- What a read of a policy asks for. -/
def policyRequest (resource : String) : Option Nat → Members
  | some version =>
    [("resource", .str resource),
      ("options", .object [("requested_policy_version", .int version)])]
  | none => [("resource", .str resource)]

/-- The arguments of a call, by name, with credentials encoded as is asked. -/
def arguments (encode : Credentials → Value) : Call → Members
  | defaultCredentials scopes => [("scopes", .ofTexts scopes)]
  | loadKeyFile path => [("path", .str path)]
  | connect _ credentials endpoint =>
    [("credentials", credentialsValue encode credentials),
      ("client_options", endpointValue endpoint)]
  | close _ => []
  | getPolicy _ resource version => policyRequest resource version
  | setPolicy _ resource policy => [("resource", .str resource), ("policy", policy.toValue)]
  | createAccount project accountId displayName description =>
    [("name", .str ("projects/" ++ project)), ("account_id", .str accountId),
      ("service_account", .object
        [("display_name", .str displayName), ("description", .str description)])]
  | getAccount name | deleteAccount name => [("name", .str name)]

end Call

/-- The Google Cloud services that the library uses. -/
abbrev interface : Interface := ⟨Call, Call.Reply⟩

end CloudIdentity.Gcp

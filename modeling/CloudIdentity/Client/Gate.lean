import CloudIdentity.Client.Argument
import CloudIdentity.Failure.Basic
import CloudIdentity.Identity.Request
import CloudIdentity.Text.Blank

/-!
The gate that every operation passes before anything else happens. It checks that names are given,
that wrapped arguments are wrapped, and that the request's schema accepts the rest; the first thing
found wrong is an invalid argument.
-/

namespace CloudIdentity.Gate

open Document Validation

/-- A text with a character that is not blank. -/
def name (field : String) : Argument → Except Failure String
  | .plain (.str s) =>
    if Text.blank s then .error (Failure.invalidArgument (field ++ " is required")) else .ok s
  | _ => .error (Failure.invalidArgument (field ++ " is required"))

/-- What a wrapped argument holds. -/
def wrapped (field : String) : Argument → Except Failure Value
  | .present v => .ok v
  | .unset | .plain .null => .error (Failure.invalidArgument (field ++ " cannot be unset"))
  | .plain _ => .error (Failure.invalidArgument (field ++ " must be wrapped in Present(...)"))

/-- The request that members make up. -/
def build {α : Type} (title : String) (result : Checked α) : Except Failure α :=
  match result with
  | .accepted r => .ok r
  | .refused complaints =>
    .error ((Failure.invalidArgument ("invalid " ++ title)).withCause
      (Failure.refused title complaints))

/-- The arguments of a creation. -/
structure Creation where
  identityName : Argument
  description : Argument
  tenantId : Argument
  region : Argument
  trustConfig : Argument
  options : Argument

def createIdentity (c : Creation) : Except Failure Request.CreateIdentity := do
  let identityName ← name "identity_name" c.identityName
  let tenantId ← name "tenant_id" c.tenantId
  let trustConfig ← wrapped "trust_config" c.trustConfig
  let options ← wrapped "options" c.options
  build Request.CreateIdentity.title <| Request.CreateIdentity.readMembers
    [("identity_name", .str identityName), ("description", c.description.toValue),
      ("tenant_id", .str tenantId), ("region", c.region.toValue), ("trust_config", trustConfig),
      ("options", options)]

def getIdentity (identityName tenantId region : Argument) : Except Failure Request.GetIdentity := do
  let identityName ← name "identity_name" identityName
  let tenantId ← name "tenant_id" tenantId
  build Request.GetIdentity.title <| Request.GetIdentity.readMembers
    [("identity_name", .str identityName), ("tenant_id", .str tenantId),
      ("region", region.toValue)]

def deleteIdentity (identityName tenantId region : Argument) :
    Except Failure Request.DeleteIdentity := do
  let identityName ← name "identity_name" identityName
  let tenantId ← name "tenant_id" tenantId
  build Request.DeleteIdentity.title <| Request.DeleteIdentity.readMembers
    [("identity_name", .str identityName), ("tenant_id", .str tenantId),
      ("region", region.toValue)]

def removePolicy (identityName policyName tenantId region : Argument) :
    Except Failure Request.RemovePolicy := do
  let identityName ← name "identity_name" identityName
  let policyName ← name "policy_name" policyName
  let tenantId ← name "tenant_id" tenantId
  build Request.RemovePolicy.title <| Request.RemovePolicy.readMembers
    [("identity_name", .str identityName), ("policy_name", .str policyName),
      ("tenant_id", .str tenantId), ("region", region.toValue)]

/-- A request that is there. -/
def request {α : Type} : Option α → Except Failure α
  | some r => .ok r
  | none => .error (Failure.invalidArgument "request cannot be null")

def attachInlinePolicy (r : Option Request.AttachInlinePolicy) :
    Except Failure Request.AttachInlinePolicy := do
  let r ← request r
  match Text.filled? r.identityName with
  | none => .error (Failure.invalidArgument "identity_name is required")
  | some _ =>
    match r.policyDocument with
    | none => .error (Failure.invalidArgument "policy_document cannot be null")
    | some _ => .ok r

end CloudIdentity.Gate

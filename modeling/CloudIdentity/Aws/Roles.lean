import CloudIdentity.Aws.Classification
import CloudIdentity.Aws.Connection
import CloudIdentity.Aws.PolicyText
import CloudIdentity.Aws.Response
import CloudIdentity.Document.Equality

/-!
The operations on AWS, where an identity is a role and its policies are inline role policies. A role
that already exists is converged: its description, session duration and trust policy are updated
where they differ from what is requested. The two updates are independent of each other.
-/

namespace CloudIdentity.Aws

open Document

def provider : String := "aws"

/-- Whether a failed creation found that the role is already there. -/
def alreadyExists (f : Failure) : Bool :=
  match f.origin with
  | .awsService (.str code) => code == "EntityAlreadyExists"
  | _ => false

/-! ## Roles -/

def creation (r : Request.CreateIdentity) (trustPolicy : String) : RoleCreation where
  roleName := r.identityName
  trustPolicy := trustPolicy
  description := r.description.getD ""
  path := r.options.bind fun o => Text.filled? o.path
  maxSessionDuration := r.options.bind CreateOptions.maxSessionDuration
  permissionsBoundary := r.options.bind fun o => Text.filled? o.permissionBoundary

/-- The identifier of the role in a response. -/
def roleArn (response : Value) : Except Failure Value :=
  response.member "Role" >>= Value.member "Arn"

def convergingEntry (r : Request.CreateIdentity) : Journal.Entry where
  level := Journal.Level.info
  message := "Role already exists, converging"
  context := { provider := .str provider, operation := .str Operation.createIdentity.name,
               identity := .str r.identityName, tenant := .str r.tenantId }

/-- Whether a stored description is not the requested one; an absent one counts as empty. -/
def descriptionDiffers (stored : Value) (requested : String) : Bool :=
  let stored := if stored.truthy then stored else .str ""
  !stored.equal (.str requested)

/-- Whether a session duration is requested that is not the stored one. -/
def durationDiffers (stored : Value) : Option Int → Bool
  | some requested => !(Value.int requested).equal stored
  | none => false

/-- Updates an existing role where it is not as requested. -/
def updateRole (h : Handle) (existing : Value) (description trustPolicy : String)
    (duration : Option Int) : Action interface Unit := do
  let name ← Action.ofExcept (existing.member "RoleName")
  let storedDescription ← Action.ofExcept (existing.memberOr "Description" .null)
  let storedDuration ← Action.ofExcept (existing.memberOr "MaxSessionDuration" .null)
  if descriptionDiffers storedDescription description
      || durationDiffers storedDuration duration then
    let _ : Value ← h.request (.updateRole name description duration)
  let storedTrust ← Action.ofExcept (existing.memberOr "AssumeRolePolicyDocument" .null)
  if ← Action.ofExcept (Response.differs storedTrust (some trustPolicy)) then
    let _ : Value ← h.request (.updateTrustPolicy name trustPolicy)

/-- Brings an existing role to what is requested. -/
def converge (h : Handle) (r : Request.CreateIdentity) (c : RoleCreation) :
    Action interface Value := do
  Action.log (convergingEntry r)
  let response : Value ← h.request (.getRole r.identityName)
  let existing ← Action.ofExcept (response.member "Role")
  updateRole h existing c.description c.trustPolicy c.maxSessionDuration
  Action.ofExcept (existing.member "Arn")

/-- Creates a role, or converges the one of that name. -/
def createIdentity (h : Handle) (r : Request.CreateIdentity) : Action interface Value := do
  let trustPolicy ← Action.ofExcept (trustPolicyText r.tenantId r.trustConfig)
  let c := creation r trustPolicy
  match ← Action.attempt (h.request (.createRole c)) with
  | .ok response => Action.ofExcept (roleArn response)
  | .error f => if alreadyExists f then converge h r c else Action.fail f

def getIdentity (h : Handle) (r : Request.GetIdentity) : Action interface Value := do
  let response : Value ← h.request (.getRole r.identityName)
  Action.ofExcept (roleArn response)

def deleteIdentity (h : Handle) (r : Request.DeleteIdentity) : Action interface Value := do
  let _ : Value ← h.request (.deleteRole r.identityName)
  pure .null

/-! ## Inline policies -/

/-- A text that is neither absent nor blank. -/
def required (name : String) (text : Option String) : Action interface String :=
  match Text.filled? text with
  | some s => pure s
  | none => Action.fail (Failure.invalidArgument (name ++ " is required for AWS IAM"))

/-- Puts a named policy on a role. On a closed connection that is found out before the policy is
written. -/
def attachInlinePolicy (h : Handle) (r : Request.AttachInlinePolicy) : Action interface Value := do
  let document := r.policyDocument.getD {}
  let name ← required "policy name" document.name
  if h.connected then
    let text ← Action.ofExcept (inlinePolicyText document)
    let _ : Value ← h.request (.putRolePolicy r.identityName name text)
    pure .null
  else Action.fail (closedClient "put_role_policy")

/-- The text of a named policy; empty if the response has none. -/
def getInlinePolicyDetails (h : Handle) (r : Request.GetInlinePolicyDetails) :
    Action interface Value := do
  let roleName ← required "role_name" r.roleName
  let policyName ← required "policy_name" r.policyName
  let response : Value ← h.request (.getRolePolicy roleName policyName)
  let document ← Action.ofExcept (response.member "PolicyDocument")
  let document ← Action.ofExcept (Response.stored document)
  let text ← Action.ofExcept document.decode
  pure (.str (text.getD ""))

/-- The policy names on the pages of a listing, up to a page that could not be fetched. -/
def pagedNames : List (Except Failure Value) → Except Failure (List Value)
  | [] => .ok []
  | page :: rest => do
    let page ← page
    let names ← page.memberOr "PolicyNames" (.array [])
    let names ← names.elements
    let more ← pagedNames rest
    pure (names ++ more)

def getAttachedPolicies (h : Handle) (r : Request.GetAttachedPolicies) :
    Action interface Value := do
  let roleName ← required "role_name" r.roleName
  let _ : Unit ← h.request .openListing
  let pages : List (Except Failure Value) ← h.request (.listPolicies roleName)
  let names ← Action.ofExcept (pagedNames pages)
  pure (.array names)

def removePolicy (h : Handle) (r : Request.RemovePolicy) : Action interface Value := do
  let _ : Value ← h.request (.deleteRolePolicy r.identityName r.policyName)
  pure .null

/-- The adapter for AWS. -/
def adapter : Adapter interface Handle where
  provider := provider
  classify := classify
  region := Handle.region
  createIdentity := createIdentity
  getIdentity := getIdentity
  deleteIdentity := deleteIdentity
  attachInlinePolicy := attachInlinePolicy
  getInlinePolicyDetails := getInlinePolicyDetails
  getAttachedPolicies := getAttachedPolicies
  removePolicy := removePolicy
  close := disconnect

end CloudIdentity.Aws

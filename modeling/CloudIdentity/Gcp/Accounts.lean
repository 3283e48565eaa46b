import CloudIdentity.Gcp.Classification
import CloudIdentity.Gcp.Connection
import CloudIdentity.Gcp.Name
import CloudIdentity.Text.Blank

/-!
The operations on Google Cloud, where an identity is a service account and its policies are the
roles that the project's policy binds to it. A policy is written back as it was read, with the same
etag, so a write that another one has overtaken is refused by the service.
-/

namespace CloudIdentity.Gcp

open Document

def provider : String := "gcp"

/-- The role that lets a principal act as a service account. -/
def serviceAccountUserRole : String := "roles/iam.serviceAccountUser"

/-- The policy version that has to be asked for, so that bindings under a condition are read too. -/
def requestedPolicyVersion : Nat := 3

/-- A text that is neither absent nor blank. -/
def required (name : String) (text : Option String) : Action interface String :=
  match Text.filled? text with
  | some s => pure s
  | none => Action.fail (Failure.invalidArgument (name ++ " is required for GCP IAM"))

/-! ## Accounts -/

def alreadyExists (f : Failure) : Bool :=
  match f.origin with
  | .googleApi status => status.isA .alreadyExists
  | _ => false

def reusingEntry (r : Request.CreateIdentity) : Journal.Entry where
  level := Journal.Level.info
  message := "Service account already exists, reusing it"
  context := { provider := .str provider, operation := .str Operation.createIdentity.name,
               identity := .str r.identityName, tenant := .str r.tenantId }

/-- The members that trusted principals stand for, but for blank ones. -/
def trustedMembers (trust : TrustConfiguration) : List String :=
  (trust.trustedPrincipals.filter fun p => !Text.blank p).map fun p =>
    principalMember (Text.strip p)

/-- Lets the trusted principals act as an account. Nothing is written if they all may already. -/
def grantTrusted (h : Handle) (email project : String) (trust : Option TrustConfiguration) :
    Action interface Unit := do
  let members := (trust.map trustedMembers).getD []
  if members.isEmpty then pure ()
  else
    let resource := accountName email project
    let policy : Option Policy ← h.request .accounts (.getPolicy .accounts resource none)
    let (policy, changed) := (policy.getD {}).addMembers serviceAccountUserRole members
    if changed then
      let _ : Unit ← h.request .accounts (.setPolicy .accounts resource policy)

/-- The address of a new account, or of the one that is already there. -/
def createAccount (h : Handle) (r : Request.CreateIdentity) (project : String) :
    Action interface String := do
  let creation : Call :=
    .createAccount project r.identityName r.identityName (r.description.getD "")
  match ← Action.attempt (h.request .accounts creation) with
  | .ok email => pure email
  | .error f =>
    if alreadyExists f then
      Action.log (reusingEntry r)
      h.request .accounts (.getAccount (accountName r.identityName project))
    else Action.fail f

/-- Creates a service account, or reuses the one of that name, and grants it to the trusted
principals. -/
def createIdentity (h : Handle) (r : Request.CreateIdentity) : Action interface Value := do
  let project := projectId r.tenantId
  let email ← createAccount h r project
  grantTrusted h email project r.trustConfig
  pure (.str email)

def getIdentity (h : Handle) (r : Request.GetIdentity) : Action interface Value := do
  let name := accountName r.identityName (projectId r.tenantId)
  let email : String ← h.request .accounts (.getAccount name)
  pure (.str email)

def deleteIdentity (h : Handle) (r : Request.DeleteIdentity) : Action interface Value := do
  let name := accountName r.identityName (projectId r.tenantId)
  let _ : Unit ← h.request .accounts (.deleteAccount name)
  pure .null

/-! ## Project policy -/

/-- The policy of a project; a missing one counts as empty. -/
def projectPolicy (h : Handle) (project : String) : Action interface Policy := do
  let policy : Option Policy ←
    h.request .projects (.getPolicy .projects (projectName project) (some requestedPolicyVersion))
  pure (policy.getD {})

def setProjectPolicy (h : Handle) (project : String) (policy : Policy) : Action interface Unit :=
  h.request .projects (.setPolicy .projects (projectName project) policy)

/-- The member that a policy is attached to: the account named by the resource, or else the
identity's own. -/
def attachedMember (r : Request.AttachInlinePolicy) (project : String) : Action interface String :=
  match Text.filled? r.resource with
  | some resource => pure (serviceAccountMember resource)
  | none => do
    let identity ← required "resource" r.identityName
    pure (serviceAccountMember (serviceAccountEmail identity project))

/-- Grants each action that the document allows as a role on the project. The policy is written back
even if it is as before. -/
def attachInlinePolicy (h : Handle) (r : Request.AttachInlinePolicy) : Action interface Value := do
  let tenant ← required "tenant_id" r.tenantId
  let project := projectId tenant
  let member ← attachedMember r project
  let policy ← projectPolicy h project
  match r.policyDocument with
  | some document =>
    setProjectPolicy h project (policy.mergeDocument document member).1
    pure .null
  | none => Action.fail (closedClient "statements")

def getInlinePolicyDetails (_ : Handle) (_ : Request.GetInlinePolicyDetails) :
    Action interface Value :=
  Action.fail (Failure.ofKind .unsupportedOperation
    "GCP IAM has no named inline policies; use get_attached_policies")

/-- The roles that the project's policy binds to an account. -/
def getAttachedPolicies (h : Handle) (r : Request.GetAttachedPolicies) :
    Action interface Value := do
  let tenant ← required "tenant_id" r.tenantId
  let project := projectId tenant
  let identity ← required "identity_name" r.identityName
  let policy ← projectPolicy h project
  pure (.ofTexts (policy.rolesOf (serviceAccountMember (serviceAccountEmail identity project))))

/-- Takes a role on the project from an account. Nothing is written if the account does not hold
it. -/
def removePolicy (h : Handle) (r : Request.RemovePolicy) : Action interface Value := do
  let project := projectId r.tenantId
  let member := serviceAccountMember (serviceAccountEmail r.identityName project)
  let policy ← projectPolicy h project
  let (policy, changed) := policy.removeBinding r.policyName member
  if changed then setProjectPolicy h project policy
  pure .null

/-- The adapter for Google Cloud. -/
def adapter : Adapter interface Handle where
  provider := provider
  classify := classify
  region := Handle.region
  createIdentity := createIdentity
  getIdentity := getIdentity
  deleteIdentity := deleteIdentity
  attachInlinePolicy := attachInlinePolicy
  getInlinePolicyDetails := getInlinePolicyDetails
  getAttachedPolicies := getAttachedPolicies
  removePolicy := removePolicy
  close := Handle.close

end CloudIdentity.Gcp

import CloudIdentity.Aws.Call
import CloudIdentity.Document.Reader
import CloudIdentity.Failure.Reported
import CloudIdentity.Service.Program

/-!
AWS in memory: roles with their inline policies. A role that does not exist is not found, one that
exists is not created again, and one with inline policies is not deleted.
-/

namespace CloudIdentity.InMemory.Aws

open Document CloudIdentity.Aws

structure State where
  /-- The stored roles by name. -/
  roles : Members := []
  /-- The inline policies by role. -/
  inline : List (String × Members) := []
  /-- Whether documents are handed back as the text that was sent. -/
  keepsText : Bool := false

/-- A document as it is handed back. -/
def State.document (s : State) (text : String) : Value :=
  if s.keepsText then .str text else (Value.ofText? text).getD (.str text)

def noSuchRole (roleName operation : String) : Failure :=
  Failure.awsService "NoSuchEntity"
    ("The role with name " ++ roleName ++ " cannot be found.") operation

def noSuchPolicy (policyName operation : String) : Failure :=
  Failure.awsService "NoSuchEntity"
    ("The role policy with name " ++ policyName ++ " cannot be found.") operation

def roleExists (roleName : String) : Failure :=
  Failure.awsService "EntityAlreadyExists"
    ("Role with name " ++ roleName ++ " already exists.") "CreateRole"

def hasPolicies : Failure :=
  Failure.awsService "DeleteConflict" "Cannot delete entity, must delete policies first."
    "DeleteRole"

def newRole (s : State) (c : RoleCreation) : Members :=
  [("RoleName", .str c.roleName),
    ("Arn", .str ("arn:aws:iam::123456789012:role" ++ c.path.getD "/" ++ c.roleName)),
    ("Description", .str c.description),
    ("MaxSessionDuration", .int (c.maxSessionDuration.getD 3600)),
    ("AssumeRolePolicyDocument", s.document c.trustPolicy)]

/-- The inline policies of a role. -/
def State.policiesOf (s : State) (roleName : String) : Members := (s.inline.lookup roleName).getD []

/-- Gives a role other inline policies. -/
def putPolicies (roleName : String) (policies : Members) :
    List (String × Members) → List (String × Members)
  | [] => [(roleName, policies)]
  | (name, old) :: rest =>
    if name = roleName then (name, policies) :: rest
    else (name, old) :: putPolicies roleName policies rest

/-- The stored role of that name, which has to exist. Only a text is the name of one. -/
def State.role (s : State) (roleName : Value) (operation : String) : Except Failure Value := do
  let key ← roleName.lookupKey
  match key with
  | .str name =>
    match s.roles.lookup name with
    | some role => pure role
    | none => .error (noSuchRole name operation)
  | _ => .error (noSuchRole key.display operation)

/-- Changes a stored role, which has to exist. -/
def State.changeRole (s : State) (roleName : Value) (operation : String)
    (change : Members → Members) : Except Failure Value × State :=
  match s.role roleName operation with
  | .ok (.object role) =>
    (.ok (.object []), { s with roles := s.roles.put roleName.text (.object (change role)) })
  | .ok _ => (.ok (.object []), s)
  | .error f => (.error f, s)

def State.createRole (s : State) (c : RoleCreation) : Except Failure Value × State :=
  if (s.roles.lookup c.roleName).isSome then (.error (roleExists c.roleName), s)
  else
    let role := Value.object (newRole s c)
    (.ok (.object [("Role", role)]), { s with roles := s.roles.put c.roleName role })

def State.getRole (s : State) (roleName : String) : Except Failure Value := do
  let role ← s.role (.str roleName) "GetRole"
  pure (.object [("Role", role)])

def State.updateRole (s : State) (roleName : Value) (description : String)
    (duration : Option Int) : Except Failure Value × State :=
  s.changeRole roleName "UpdateRole" fun role =>
    let role := role.put "Description" (.str description)
    match duration with
    | some n => role.put "MaxSessionDuration" (.int n)
    | none => role

def State.updateTrustPolicy (s : State) (roleName : Value) (document : String) :
    Except Failure Value × State :=
  s.changeRole roleName "UpdateAssumeRolePolicy" fun role =>
    role.put "AssumeRolePolicyDocument" (s.document document)

def State.deleteRole (s : State) (roleName : String) : Except Failure Value × State :=
  match s.role (.str roleName) "DeleteRole" with
  | .error f => (.error f, s)
  | .ok _ =>
    if (s.policiesOf roleName).isEmpty then
      (.ok (.object []), { s with roles := s.roles.erase roleName })
    else (.error hasPolicies, s)

def State.putRolePolicy (s : State) (roleName : Option String) (policyName document : String) :
    Except Failure Value × State :=
  match s.role (.ofText roleName) "PutRolePolicy" with
  | .error f => (.error f, s)
  | .ok _ =>
    let roleName := roleName.getD ""
    let policies := (s.policiesOf roleName).put policyName (s.document document)
    (.ok (.object []), { s with inline := putPolicies roleName policies s.inline })

def State.getRolePolicy (s : State) (roleName policyName : String) : Except Failure Value :=
  match (s.policiesOf roleName).lookup policyName with
  | some document => .ok (.object [("PolicyDocument", document)])
  | none => .error (noSuchPolicy policyName "GetRolePolicy")

def State.deleteRolePolicy (s : State) (roleName policyName : String) :
    Except Failure Value × State :=
  if ((s.policiesOf roleName).lookup policyName).isNone then
    (.error (noSuchPolicy policyName "DeleteRolePolicy"), s)
  else
    let policies := (s.policiesOf roleName).erase policyName
    (.ok (.object []), { s with inline := putPolicies roleName policies s.inline })

def State.listPolicies (s : State) (roleName : String) :
    Except Failure (List (Except Failure Value)) := do
  let _ ← s.role (.str roleName) "ListRolePolicies"
  let names := (s.policiesOf roleName).map fun (name, _) => name
  pure [.ok (.object [("PolicyNames", .ofTexts names)])]

/-- What assuming a role answers. -/
def assumed : Value :=
  .object [("Credentials", .object
    [("AccessKeyId", .str "ASIA"), ("SecretAccessKey", .str "assumed-secret"),
      ("SessionToken", .str "assumed-token")])]

def service : Service interface State where
  answer
    | .connectTokens .., s => (.ok (), s)
    | .assumeRole .., s => (.ok assumed, s)
    | .closeTokens, s => (.ok (), s)
    | .connect .., s => (.ok (), s)
    | .close, s => (.ok (), s)
    | .createRole creation, s => s.createRole creation
    | .getRole roleName, s => (s.getRole roleName, s)
    | .updateRole roleName description duration, s => s.updateRole roleName description duration
    | .updateTrustPolicy roleName document, s => s.updateTrustPolicy roleName document
    | .deleteRole roleName, s => s.deleteRole roleName
    | .putRolePolicy roleName policyName document, s => s.putRolePolicy roleName policyName document
    | .getRolePolicy roleName policyName, s => (s.getRolePolicy roleName policyName, s)
    | .deleteRolePolicy roleName policyName, s => s.deleteRolePolicy roleName policyName
    | .openListing, s => (.ok (), s)
    | .listPolicies roleName, s => (s.listPolicies roleName, s)

/-- The pages of a listing that a value stands for. Where it has no elements, going through the
listing fails at once. -/
def pagesOf (page : Value → Except Failure Value) (v : Value) : List (Except Failure Value) :=
  match v.elements with
  | .ok pages => pages.map page
  | .error f => [.error f]

/-- A reply that a script gives as a value; `page` tells what became of a page of a listing. -/
def reply (page : Value → Except Failure Value) : (c : Call) → Value → Except Failure c.Reply
  | .connectTokens .., _ => .ok ()
  | .assumeRole .., v => .ok v
  | .closeTokens, _ => .ok ()
  | .connect .., _ => .ok ()
  | .close, _ => .ok ()
  | .createRole _, v => .ok v
  | .getRole _, v => .ok v
  | .updateRole .., v => .ok v
  | .updateTrustPolicy .., v => .ok v
  | .deleteRole _, v => .ok v
  | .putRolePolicy .., v => .ok v
  | .getRolePolicy .., v => .ok v
  | .deleteRolePolicy .., v => .ok v
  | .openListing, _ => .ok ()
  | .listPolicies _, v => .ok (pagesOf page v)

end CloudIdentity.InMemory.Aws

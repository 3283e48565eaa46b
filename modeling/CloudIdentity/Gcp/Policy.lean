import CloudIdentity.Policy.Document

/-!
Allow policies of Google Cloud: bindings of roles to members, some of them under a condition. A
grant joins the first unconditional binding of its role, or makes a new one at the end; a revocation
takes the member out of the first unconditional binding of the role that holds it, and drops the
binding once it is empty. Bindings under a condition are never touched.
-/

namespace CloudIdentity.Gcp

open Document

structure Condition where
  title : String := ""
  description : String := ""
  expression : String := ""
  deriving DecidableEq, Repr

structure Binding where
  role : String
  members : List String
  condition : Option Condition := none
  deriving DecidableEq, Repr

structure Policy where
  version : Int := 0
  etag : String := ""
  bindings : List Binding := []
  deriving DecidableEq, Repr, Inhabited

/-- Whether a binding is of a role and under no condition. -/
def Binding.grants (b : Binding) (role : String) : Bool := b.role == role && b.condition.isNone

/-- The bindings with a role granted to a member; `none` if it is already. -/
def grant? (role member : String) : List Binding → Option (List Binding)
  | [] => some [{ role := role, members := [member] }]
  | b :: rest =>
    if b.grants role then
      if b.members.contains member then none
      else some ({ b with members := b.members ++ [member] } :: rest)
    else (grant? role member rest).map (b :: ·)

/-- The bindings with a role taken from a member; `none` if the member does not hold it. -/
def revoke? (role member : String) : List Binding → Option (List Binding)
  | [] => none
  | b :: rest =>
    if b.grants role && b.members.contains member then
      match b.members.erase member with
      | [] => some rest
      | members => some ({ b with members := members } :: rest)
    else (revoke? role member rest).map (b :: ·)

namespace Policy

/-- A policy, and whether it is another than before. -/
abbrev Change := Policy × Bool

/-- The change to other bindings, or none. -/
def changeTo (p : Policy) : Option (List Binding) → Change
  | some bindings => ({ p with bindings := bindings }, true)
  | none => (p, false)

def addBinding (p : Policy) (role member : String) : Change :=
  p.changeTo (grant? role member p.bindings)

def removeBinding (p : Policy) (role member : String) : Change :=
  p.changeTo (revoke? role member p.bindings)

/-- Grants roles to a member one after another. -/
def addRoles (p : Policy) (roles : List String) (member : String) : Change :=
  roles.foldl (fun (p, changed) role =>
    let (p, added) := p.addBinding role member
    (p, added || changed)) (p, false)

/-- Grants a role to members one after another. -/
def addMembers (p : Policy) (role : String) (members : List String) : Change :=
  members.foldl (fun (p, changed) member =>
    let (p, added) := p.addBinding role member
    (p, added || changed)) (p, false)

/-- Grants a member each action that a document allows, as a role. -/
def mergeDocument (p : Policy) (d : PolicyDocument) (member : String) : Change :=
  p.addRoles d.allowedActions member

/-- The roles of the bindings that hold a member, in order. -/
def rolesOf (p : Policy) (member : String) : List String :=
  (p.bindings.filter fun b => b.members.contains member).map Binding.role

end Policy

/-! ## As values -/

/-- The parts of a condition that are not empty. -/
def Condition.toValue (c : Condition) : Value :=
  .object <|
    [("title", c.title), ("description", c.description), ("expression", c.expression)].filterMap
      fun (name, text) => if text = "" then none else some (name, .str text)

def Binding.toValue (b : Binding) : Value :=
  .object ([("role", .str b.role), ("members", .ofTexts b.members)]
    ++ (match b.condition with
      | some c => [("condition", c.toValue)]
      | none => []))

def Policy.toValue (p : Policy) : Value :=
  .object [("version", .int p.version), ("etag", .str p.etag),
    ("bindings", .array (p.bindings.map Binding.toValue))]

def Condition.ofMembers (members : Members) : Condition where
  title := (members.get "title").text
  description := (members.get "description").text
  expression := (members.get "expression").text

def Binding.ofMembers (members : Members) : Binding where
  role := (members.get "role").text
  members := (members.get "members").items.map Value.text
  condition := match members.get "condition" with
    | .object condition => some (Condition.ofMembers condition)
    | _ => none

def Binding.ofValue (v : Value) : Binding := Binding.ofMembers v.members

def Policy.ofMembers (members : Members) : Policy where
  version := match members.get "version" with
    | .int n => n
    | _ => 0
  etag := (members.get "etag").text
  bindings := (members.get "bindings").items.map Binding.ofValue

/-- The policy that a value stands for; null stands for no policy. -/
def Policy.ofValue? : Value → Option Policy
  | .object members => some (Policy.ofMembers members)
  | _ => none

end CloudIdentity.Gcp

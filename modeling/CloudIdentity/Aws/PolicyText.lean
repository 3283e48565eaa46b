import CloudIdentity.Aws.Principal
import CloudIdentity.Document.Stored
import CloudIdentity.Identity.Trust

/-!
Policies in the form AWS takes: the trust policy of a role, and its inline policies. Parts that say
nothing are left out.
-/

namespace CloudIdentity.Aws

open Document

/-- The version of the policy language. -/
def policyVersion : String := "2012-10-17"

/-- A member, unless its list of texts is empty. -/
def listed (name : String) (texts : List String) : Members :=
  if texts.isEmpty then [] else [(name, .ofTexts texts)]

/-- A member, unless it is absent or an empty object. -/
def mapped (name : String) : Option Members → Members
  | some (m :: ms) => [(name, .object (m :: ms))]
  | _ => []

/-! ## Trust -/

/-- The principals that a trust configuration names. A role that would trust no one trusts the root
of its own account. -/
def trustedPrincipals (tenantId : String) (trust : Option TrustConfiguration) : Principals :=
  let named := Principals.ofEntries ((trust.map TrustConfiguration.trustedPrincipals).getD [])
  if named.isEmpty then { aws := [accountRootArn tenantId] } else named

def principalMembers (p : Principals) : Members := listed "AWS" p.aws ++ listed "Service" p.service

def trustPolicy (tenantId : String) (trust : Option TrustConfiguration) : Value :=
  let principal := principalMembers (trustedPrincipals tenantId trust)
  let statement : Members :=
    [("Effect", .str "Allow"), ("Action", .str "sts:AssumeRole"), ("Principal", .object principal)]
      ++ mapped "Condition" (trust.bind TrustConfiguration.conditions)
  .object [("Version", .str policyVersion), ("Statement", .array [.object statement])]

def trustPolicyText (tenantId : String) (trust : Option TrustConfiguration) :
    Except Failure String :=
  serialize "assume role policy document" (trustPolicy tenantId trust)

/-! ## Inline policies -/

def statementMembers (s : Statement) : Members :=
  [("Effect", .str s.effect.name)]
    ++ listed "Action" s.actions
    ++ (match Text.filled? s.sid with
      | some sid => [("Sid", .str sid)]
      | none => [])
    ++ listed "Resource" (s.resources.getD [])
    ++ mapped "Condition" s.conditions
    ++ mapped "Principal" s.principals

/-- The policy that says what a document says, statement by statement. -/
def inlinePolicy (d : PolicyDocument) : Value :=
  .object [("Version", .str ((Text.filled? d.version).getD policyVersion)),
    ("Statement", .array (d.statements.map fun s => .object (statementMembers s)))]

def inlinePolicyText (d : PolicyDocument) : Except Failure String :=
  serialize "inline policy document" (inlinePolicy d)

end CloudIdentity.Aws

import CloudIdentity.Document.Value
import CloudIdentity.Service.Program

/-!
The calls made to AWS: connecting to the identity service and to the token service, and what is
asked of each. A reply is the value of the response; a listing comes in pages, and fetching any of
them may fail.
-/

namespace CloudIdentity.Aws

open Document

/-- The keys that a connection is made with. -/
structure Keys where
  accessKeyId : Value
  secretAccessKey : Value
  sessionToken : Value

structure RoleCreation where
  roleName : String
  trustPolicy : String
  description : String
  path : Option String
  maxSessionDuration : Option Int
  permissionsBoundary : Option String

inductive Call where
  | connectTokens (keys : Keys) (region : Option String)
  | assumeRole (role : Option String) (sessionName : String) (seconds : Int)
  | closeTokens
  | connect (keys : Keys) (region endpoint : Option String)
  | close
  | createRole (creation : RoleCreation)
  | getRole (roleName : String)
  | updateRole (roleName : Value) (description : String) (maxSessionDuration : Option Int)
  | updateTrustPolicy (roleName : Value) (document : String)
  | deleteRole (roleName : String)
  | putRolePolicy (roleName : Option String) (policyName document : String)
  | getRolePolicy (roleName policyName : String)
  | deleteRolePolicy (roleName policyName : String)
  | openListing
  | listPolicies (roleName : String)

namespace Call

@[reducible] def Reply : Call → Type
  | connectTokens .. | closeTokens | connect .. | close | openListing => Unit
  | listPolicies _ => List (Except Failure Value)
  | _ => Value

/-- The name of a call. -/
def method : Call → String
  | connectTokens .. => "sts.connect"
  | assumeRole .. => "sts.assume_role"
  | closeTokens => "sts.close"
  | connect .. => "iam.connect"
  | close => "iam.close"
  | createRole _ => "create_role"
  | getRole _ => "get_role"
  | updateRole .. => "update_role"
  | updateTrustPolicy .. => "update_assume_role_policy"
  | deleteRole _ => "delete_role"
  | putRolePolicy .. => "put_role_policy"
  | getRolePolicy .. => "get_role_policy"
  | deleteRolePolicy .. => "delete_role_policy"
  | openListing => "get_paginator"
  | listPolicies _ => "paginate"

/-- A member that is only there if its value is. -/
def whenPresent {α : Type} (name : String) (toValue : α → Value) : Option α → Members
  | some a => [(name, toValue a)]
  | none => []

def keyMembers (k : Keys) : Members :=
  [("aws_access_key_id", k.accessKeyId), ("aws_secret_access_key", k.secretAccessKey),
    ("aws_session_token", k.sessionToken)]

/-- The arguments of a call, by name. -/
def arguments : Call → Members
  | connectTokens keys region => keyMembers keys ++ [("region_name", .ofText region)]
  | assumeRole role sessionName seconds =>
    [("RoleArn", .ofText role), ("RoleSessionName", .str sessionName),
      ("DurationSeconds", .int seconds)]
  | closeTokens | close => []
  | connect keys region endpoint =>
    ("region_name", .ofText region) :: ("endpoint_url", .ofText endpoint) :: keyMembers keys
  | createRole c =>
    [("RoleName", .str c.roleName), ("AssumeRolePolicyDocument", .str c.trustPolicy),
        ("Description", .str c.description)]
      ++ whenPresent "Path" .str c.path
      ++ whenPresent "MaxSessionDuration" .int c.maxSessionDuration
      ++ whenPresent "PermissionsBoundary" .str c.permissionsBoundary
  | getRole roleName | deleteRole roleName | listPolicies roleName => [("RoleName", .str roleName)]
  | updateRole roleName description duration =>
    [("RoleName", roleName), ("Description", .str description)]
      ++ whenPresent "MaxSessionDuration" .int duration
  | updateTrustPolicy roleName document =>
    [("RoleName", roleName), ("PolicyDocument", .str document)]
  | putRolePolicy roleName policyName document =>
    [("RoleName", .ofText roleName), ("PolicyName", .str policyName),
      ("PolicyDocument", .str document)]
  | getRolePolicy roleName policyName | deleteRolePolicy roleName policyName =>
    [("RoleName", .str roleName), ("PolicyName", .str policyName)]
  | openListing => [("name", .str "list_role_policies")]

end Call

/-- The AWS services that the library uses. -/
abbrev interface : Interface := ⟨Call, Call.Reply⟩

end CloudIdentity.Aws

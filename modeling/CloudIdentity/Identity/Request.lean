import CloudIdentity.Identity.Trust

/-!
The requests that an adapter is handed, one record for each operation. Each is read from the members
of an object, which it describes completely: no member but its own is accepted.
-/

namespace CloudIdentity.Request

open Document Validation

structure CreateIdentity where
  identityName : String
  description : Option String := none
  tenantId : String
  region : Option String := none
  trustConfig : Option TrustConfiguration := none
  options : Option CreateOptions := none

/-- Attaches a document to an identity. Google grants it to the account named by the resource; AWS
has no use for one. -/
structure AttachInlinePolicy where
  identityName : Option String := none
  policyDocument : Option PolicyDocument := none
  tenantId : Option String := none
  region : Option String := none
  resource : Option String := none

structure GetInlinePolicyDetails where
  identityName : Option String := none
  policyName : Option String := none
  roleName : Option String := none
  tenantId : Option String := none
  region : Option String := none

structure GetAttachedPolicies where
  identityName : Option String := none
  roleName : Option String := none
  tenantId : Option String := none
  region : Option String := none

structure RemovePolicy where
  identityName : String
  policyName : String
  tenantId : String
  region : Option String := none

structure DeleteIdentity where
  identityName : String
  tenantId : String
  region : Option String := none

structure GetIdentity where
  identityName : String
  tenantId : String
  region : Option String := none

namespace CreateIdentity

def title : String := "CreateIdentityRequest"

def fieldNames : List String :=
  ["identity_name", "description", "tenant_id", "region", "trust_config", "options"]

def readMembers (members : Members) : Checked CreateIdentity :=
  members.closed fieldNames <|
    CreateIdentity.mk
      <$> members.required "identity_name" Reader.text
      <*> members.optional "description" Reader.text
      <*> members.required "tenant_id" Reader.text
      <*> members.optional "region" Reader.text
      <*> members.optional "trust_config" TrustConfiguration.read
      <*> members.optional "options" CreateOptions.read

def toValue (r : CreateIdentity) : Value :=
  .object [("identity_name", .str r.identityName), ("description", .ofText r.description),
    ("tenant_id", .str r.tenantId), ("region", .ofText r.region),
    ("trust_config", orNull TrustConfiguration.toValue r.trustConfig),
    ("options", orNull CreateOptions.toValue r.options)]

end CreateIdentity

namespace AttachInlinePolicy

def title : String := "AttachInlinePolicyRequest"

def fieldNames : List String :=
  ["identity_name", "policy_document", "tenant_id", "region", "resource"]

def readMembers (members : Members) : Checked AttachInlinePolicy :=
  members.closed fieldNames <|
    AttachInlinePolicy.mk
      <$> members.optional "identity_name" Reader.text
      <*> members.optional "policy_document" PolicyDocument.read
      <*> members.optional "tenant_id" Reader.text
      <*> members.optional "region" Reader.text
      <*> members.optional "resource" Reader.text

def toValue (r : AttachInlinePolicy) : Value :=
  .object [("identity_name", .ofText r.identityName),
    ("policy_document", orNull PolicyDocument.toValue r.policyDocument),
    ("tenant_id", .ofText r.tenantId), ("region", .ofText r.region),
    ("resource", .ofText r.resource)]

end AttachInlinePolicy

namespace GetInlinePolicyDetails

def title : String := "GetInlinePolicyDetailsRequest"

def fieldNames : List String :=
  ["identity_name", "policy_name", "role_name", "tenant_id", "region"]

def readMembers (members : Members) : Checked GetInlinePolicyDetails :=
  members.closed fieldNames <|
    GetInlinePolicyDetails.mk
      <$> members.optional "identity_name" Reader.text
      <*> members.optional "policy_name" Reader.text
      <*> members.optional "role_name" Reader.text
      <*> members.optional "tenant_id" Reader.text
      <*> members.optional "region" Reader.text

def toValue (r : GetInlinePolicyDetails) : Value :=
  .object [("identity_name", .ofText r.identityName), ("policy_name", .ofText r.policyName),
    ("role_name", .ofText r.roleName), ("tenant_id", .ofText r.tenantId),
    ("region", .ofText r.region)]

end GetInlinePolicyDetails

namespace GetAttachedPolicies

def title : String := "GetAttachedPoliciesRequest"

def fieldNames : List String := ["identity_name", "role_name", "tenant_id", "region"]

def readMembers (members : Members) : Checked GetAttachedPolicies :=
  members.closed fieldNames <|
    GetAttachedPolicies.mk
      <$> members.optional "identity_name" Reader.text
      <*> members.optional "role_name" Reader.text
      <*> members.optional "tenant_id" Reader.text
      <*> members.optional "region" Reader.text

def toValue (r : GetAttachedPolicies) : Value :=
  .object [("identity_name", .ofText r.identityName), ("role_name", .ofText r.roleName),
    ("tenant_id", .ofText r.tenantId), ("region", .ofText r.region)]

end GetAttachedPolicies

namespace RemovePolicy

def title : String := "RemovePolicyRequest"

def fieldNames : List String := ["identity_name", "policy_name", "tenant_id", "region"]

def readMembers (members : Members) : Checked RemovePolicy :=
  members.closed fieldNames <|
    RemovePolicy.mk
      <$> members.required "identity_name" Reader.text
      <*> members.required "policy_name" Reader.text
      <*> members.required "tenant_id" Reader.text
      <*> members.optional "region" Reader.text

def toValue (r : RemovePolicy) : Value :=
  .object [("identity_name", .str r.identityName), ("policy_name", .str r.policyName),
    ("tenant_id", .str r.tenantId), ("region", .ofText r.region)]

end RemovePolicy

namespace DeleteIdentity

def title : String := "DeleteIdentityRequest"

def fieldNames : List String := ["identity_name", "tenant_id", "region"]

def readMembers (members : Members) : Checked DeleteIdentity :=
  members.closed fieldNames <|
    DeleteIdentity.mk
      <$> members.required "identity_name" Reader.text
      <*> members.required "tenant_id" Reader.text
      <*> members.optional "region" Reader.text

def toValue (r : DeleteIdentity) : Value :=
  .object [("identity_name", .str r.identityName), ("tenant_id", .str r.tenantId),
    ("region", .ofText r.region)]

end DeleteIdentity

namespace GetIdentity

def title : String := "GetIdentityRequest"

def fieldNames : List String := ["identity_name", "tenant_id", "region"]

def readMembers (members : Members) : Checked GetIdentity :=
  members.closed fieldNames <|
    GetIdentity.mk
      <$> members.required "identity_name" Reader.text
      <*> members.required "tenant_id" Reader.text
      <*> members.optional "region" Reader.text

def toValue (r : GetIdentity) : Value :=
  .object [("identity_name", .str r.identityName), ("tenant_id", .str r.tenantId),
    ("region", .ofText r.region)]

end GetIdentity

end CloudIdentity.Request

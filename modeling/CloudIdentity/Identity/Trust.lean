import CloudIdentity.Policy.Document

/-!
What a new identity is created with: who may act as it, and the options that some providers have.
-/

namespace CloudIdentity

open Document Validation

structure TrustConfiguration where
  trustedPrincipals : List String := []
  conditions : Option Members := none

/-- A maximal session duration, where there is one, is greater than zero in every options record
that validation makes. -/
structure CreateOptions where
  path : Option String := none
  maxSessionDuration : Option Int := none
  permissionBoundary : Option String := none

namespace TrustConfiguration

def fieldNames : List String := ["trusted_principals", "conditions"]

def readMembers (members : Members) : Checked TrustConfiguration :=
  members.closed fieldNames <|
    TrustConfiguration.mk
      <$> members.withDefault "trusted_principals" (Reader.list Reader.text) []
      <*> members.optional "conditions" Reader.mapping

def read : Validation.Reader TrustConfiguration := Reader.record readMembers

def toValue (t : TrustConfiguration) : Value :=
  .object [("trusted_principals", .ofTexts t.trustedPrincipals),
    ("conditions", orNull .object t.conditions)]

end TrustConfiguration

namespace CreateOptions

def fieldNames : List String := ["path", "max_session_duration", "permission_boundary"]

def readMembers (members : Members) : Checked CreateOptions :=
  members.closed fieldNames <|
    CreateOptions.mk
      <$> members.optional "path" Reader.text
      <*> members.optional "max_session_duration" Reader.positive
      <*> members.optional "permission_boundary" Reader.text

def read : Validation.Reader CreateOptions := Reader.record readMembers

def toValue (o : CreateOptions) : Value :=
  .object [("path", .ofText o.path), ("max_session_duration", orNull .int o.maxSessionDuration),
    ("permission_boundary", .ofText o.permissionBoundary)]

end CreateOptions

end CloudIdentity

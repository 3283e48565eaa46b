import CloudIdentity.Configuration.Environment
import CloudIdentity.Configuration.Override
import CloudIdentity.Failure.Basic

/-!
How the AWS adapter is configured. Each key, and the region, falls back to an environment variable
of its own when the configuration leaves it out or empty; the region falls back to a fixed one
after that, since identities are global within a partition.
-/

namespace CloudIdentity.Aws

open Document Validation

structure Configuration where
  accessKeyId : Option String := none
  secretAccessKey : Option String := none
  sessionToken : Option String := none
  regionName : Option String := none
  endpointUrl : Option String := none
  credentialsOverride : Option CredentialsOverride := none

namespace Configuration

def title : String := "AWSConfig"

/-- The region where neither the configuration nor the environment names one. -/
def defaultRegion : String := "us-east-1"

def fieldNames : List String :=
  ["aws_access_key_id", "aws_secret_access_key", "aws_session_token", "region_name",
    "endpoint_url", "credentials_overrider"]

/-- A member with a fixed value, unless it already has one that counts. -/
def defaulted (name value : String) (members : Members) : Members :=
  if (members.get name).truthy then members else members.put name (.str value)

/-- The members after what they leave out has been taken from the environment. -/
def complete (env : Environment) (members : Members) : Members :=
  members.fallBack env "aws_access_key_id" "AWS_ACCESS_KEY_ID"
    |>.fallBack env "aws_secret_access_key" "AWS_SECRET_ACCESS_KEY"
    |>.fallBack env "aws_session_token" "AWS_SESSION_TOKEN"
    |>.fallBack env "region_name" "AWS_DEFAULT_REGION"
    |> defaulted "region_name" defaultRegion

def readMembers (members : Members) : Checked Configuration :=
  members.closed fieldNames <|
    Configuration.mk
      <$> members.optional "aws_access_key_id" Reader.text
      <*> members.optional "aws_secret_access_key" Reader.text
      <*> members.optional "aws_session_token" Reader.text
      <*> members.optional "region_name" Reader.text
      <*> members.optional "endpoint_url" Reader.text
      <*> members.optional "credentials_overrider" CredentialsOverride.read

/-- The configuration that members make up in an environment. -/
def validate (env : Environment) (members : Members) : Except Failure Configuration :=
  match readMembers (complete env members) with
  | .accepted c => .ok c
  | .refused complaints => .error (Failure.refused title complaints)

def toValue (c : Configuration) : Value :=
  .object [("aws_access_key_id", .ofText c.accessKeyId),
    ("aws_secret_access_key", .ofText c.secretAccessKey),
    ("aws_session_token", .ofText c.sessionToken), ("region_name", .ofText c.regionName),
    ("endpoint_url", .ofText c.endpointUrl),
    ("credentials_overrider", orNull CredentialsOverride.toValue c.credentialsOverride)]

end Configuration

end CloudIdentity.Aws

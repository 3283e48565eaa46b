import CloudIdentity.Document.Access

/-!
Failures as services report them. What a response says of its error becomes the text of the failure;
a part that the response leaves out is shown as unknown. A report that does not have the expected
form cannot be made into a failure, and that is a failure of its own.
-/

namespace CloudIdentity.Failure

open Document

/-- The failure of an AWS operation whose response has an error with a code and a message; `note`
tells of retries. -/
def serviceFailure (operation note : String) (error : Members) : Failure :=
  let told (name : String) : String := ((error.lookup name).getD (.str "Unknown")).display
  let code := (error.lookup "Code").getD (.str "")
  mk (.awsService code)
    ("An error occurred (" ++ told "Code" ++ ") when calling the " ++ operation ++ " operation"
      ++ note ++ ": " ++ told "Message")
    .untagged none

/-- The failure of an AWS operation with an error code. -/
def awsService (code message operation : String) : Failure :=
  serviceFailure operation "" [("Code", .str code), ("Message", .str message)]

/-- The part of a service failure's text that tells of retries: a service that was tried as often
as allowed says how often. -/
def retryNote (response : Value) : Except Failure String := do
  if ← response.holds "ResponseMetadata" then
    let metadata ← response.member "ResponseMetadata"
    let exhausted ← metadata.memberOr "MaxAttemptsReached" (.bool false)
    match exhausted.truthy, metadata.members.lookup "RetryAttempts" with
    | true, some attempts => pure (" (reached max retries: " ++ attempts.display ++ ")")
    | _, _ => pure ""
  else pure ""

/-- The failure that the response to an AWS operation tells of. -/
def ofResponse (operation : String) (response : Value) : Except Failure Failure := do
  let note ← retryNote response
  let error ← response.memberOr "Error" (.object [])
  match error with
  | .object members => pure (serviceFailure operation note members)
  | other => .error (Value.noAttribute "get" other)

/-- A text with its places filled from particulars by name, all of which have to be there. -/
def filled (particulars : Members) : List Piece → Except Failure String
  | [] => .ok ""
  | .text s :: rest => do
    let more ← filled particulars rest
    pure (s ++ more)
  | .particular name :: rest => do
    let v ← (Value.object particulars).member name
    let more ← filled particulars rest
    pure (v.display ++ more)

/-- The failure of the AWS client, with its particulars by name. -/
def awsLocal (fault : LocalFault) (particulars : Members) : Except Failure Failure := do
  let message ← filled particulars fault.template
  pure (mk (.awsLocal fault) message .untagged none)

/-- The failure of a Google API; `last` is the failure that a given-up call ended with. -/
def googleApi (status : ApiStatus) (message : String) (last : Option Failure) : Failure :=
  mk (.googleApi status) (status.describe message ((last.map Failure.message).getD "None"))
    .untagged none

def googleAuth (fault : AuthFault) (message : String) : Failure :=
  mk (.googleAuth fault) (fault.describe message) .untagged none

end CloudIdentity.Failure

import CloudIdentity.Document.Access

/-!
Which kind a failure of AWS is. A service failure goes by its error code. Of those raised before a
response arrived, timeouts are deadlines, missing credentials are a lack of authority, and the
rest are the caller's.
-/

namespace CloudIdentity.Aws

open Document

/-- The kinds of the error codes that have one. -/
def codeKinds : List (String × Kind) :=
  [("ValidationError", .invalidArgument),
    ("InvalidInput", .invalidArgument),
    ("MalformedPolicyDocument", .invalidArgument),
    ("InvalidParameterValue", .invalidArgument),
    ("InvalidParameterCombination", .invalidArgument),
    ("MissingParameter", .invalidArgument),
    ("PolicyNotAttachable", .invalidArgument),
    ("RequestTimeout", .deadlineExceeded),
    ("RequestTimeoutException", .deadlineExceeded),
    ("RequestExpired", .deadlineExceeded),
    ("NoSuchEntity", .resourceNotFound),
    ("NotFound", .resourceNotFound),
    ("ResourceNotFoundException", .resourceNotFound),
    ("EntityAlreadyExists", .resourceAlreadyExists),
    ("AccessDenied", .unauthorized),
    ("AccessDeniedException", .unauthorized),
    ("UnauthorizedOperation", .unauthorized),
    ("InvalidClientTokenId", .unauthorized),
    ("SignatureDoesNotMatch", .unauthorized),
    ("ExpiredToken", .unauthorized),
    ("MissingAuthenticationToken", .unauthorized),
    ("UnrecognizedClientException", .unauthorized),
    ("LimitExceeded", .resourceExhausted),
    ("Throttling", .resourceExhausted),
    ("ThrottlingException", .resourceExhausted),
    ("RequestLimitExceeded", .resourceExhausted),
    ("TooManyRequestsException", .resourceExhausted),
    ("ServiceQuotaExceededException", .resourceExhausted),
    ("DeleteConflict", .failedPrecondition),
    ("ConcurrentModification", .failedPrecondition),
    ("UnmodifiableEntity", .failedPrecondition),
    ("PreconditionFailed", .failedPrecondition),
    ("NotImplemented", .unsupportedOperation),
    ("UnsupportedOperation", .unsupportedOperation),
    ("OperationNotSupportedException", .unsupportedOperation)]

/-- The kind of an error code. A code that is no text is of an unknown kind, and an array or an
object cannot even be looked up. -/
def codeKind (code : Value) : Except Failure Kind := do
  match ← code.lookupKey with
  | .str s => pure ((codeKinds.lookup s).getD .unknown)
  | _ => pure .unknown

def classifyLocal : LocalFault → Kind
  | .connectTimeout | .readTimeout => .deadlineExceeded
  | .noCredentials | .partialCredentials => .unauthorized
  | _ => .invalidArgument

/-- A failure that is tagged with a kind is of that kind. -/
def classify : Failure.Classifier := fun f =>
  match f.kind? with
  | some kind => .ok kind
  | none =>
    match f.origin with
    | .awsService code => codeKind code
    | .awsLocal fault => .ok (classifyLocal fault)
    | origin => .ok (if origin.isValueFault then .invalidArgument else .unknown)

end CloudIdentity.Aws

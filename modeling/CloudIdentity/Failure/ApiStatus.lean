/-!
The families of failures that Google clients raise: answers of an API, which form a tree by status,
and failures to authenticate.
-/

namespace CloudIdentity

/-- The status of a Google API failure. Each but the root refines another, its `parent?`. -/
inductive ApiStatus where
  | apiError
  | retry
  | call
  | redirection
  | movedPermanently
  | notModified
  | temporaryRedirect
  | resumeIncomplete
  | client
  | unauthorized
  | unauthenticated
  | forbidden
  | permissionDenied
  | notFound
  | methodNotAllowed
  | lengthRequired
  | preconditionFailed
  | rangeNotSatisfiable
  | cancelled
  | badRequest
  | invalidArgument
  | failedPrecondition
  | outOfRange
  | conflict
  | alreadyExists
  | aborted
  | tooManyRequests
  | resourceExhausted
  | server
  | internal
  | unknown
  | dataLoss
  | methodNotImplemented
  | badGateway
  | serviceUnavailable
  | gatewayTimeout
  | deadlineExceeded
  deriving DecidableEq, Repr

namespace ApiStatus

def parent? : ApiStatus → Option ApiStatus
  | apiError => none
  | retry | call => some apiError
  | redirection | client | server => some call
  | movedPermanently | notModified | temporaryRedirect | resumeIncomplete => some redirection
  | unauthorized | forbidden | notFound | methodNotAllowed | lengthRequired | preconditionFailed
  | rangeNotSatisfiable | cancelled | badRequest | conflict | tooManyRequests => some client
  | unauthenticated => some unauthorized
  | permissionDenied => some forbidden
  | invalidArgument | failedPrecondition | outOfRange => some badRequest
  | alreadyExists | aborted => some conflict
  | resourceExhausted => some tooManyRequests
  | internal | unknown | dataLoss | methodNotImplemented | badGateway | serviceUnavailable
  | gatewayTimeout => some server
  | deadlineExceeded => some gatewayTimeout

/-- A status and those it refines, as far as `steps` reach. -/
def lineageFrom : Nat → ApiStatus → List ApiStatus
  | 0, status => [status]
  | steps + 1, status =>
    status :: match status.parent? with
      | some parent => lineageFrom steps parent
      | none => []

/-- A status and all those it refines: none is more than four steps from the root. -/
def lineage (status : ApiStatus) : List ApiStatus := lineageFrom 4 status

/-- Whether the first status is the second or refines it. -/
def isA (status ancestor : ApiStatus) : Bool := status.lineage.contains ancestor

/-- The number of the status. -/
def code? : ApiStatus → Option Nat
  | movedPermanently => some 301
  | notModified => some 304
  | temporaryRedirect => some 307
  | resumeIncomplete => some 308
  | badRequest | invalidArgument | failedPrecondition | outOfRange => some 400
  | unauthorized | unauthenticated => some 401
  | forbidden | permissionDenied => some 403
  | notFound => some 404
  | methodNotAllowed => some 405
  | conflict | alreadyExists | aborted => some 409
  | lengthRequired => some 411
  | preconditionFailed => some 412
  | rangeNotSatisfiable => some 416
  | tooManyRequests | resourceExhausted => some 429
  | cancelled => some 499
  | internal => some 500
  | methodNotImplemented => some 501
  | badGateway => some 502
  | serviceUnavailable => some 503
  | gatewayTimeout | deadlineExceeded => some 504
  | apiError | retry | call | redirection | client | server | unknown | dataLoss => none

def codeText (status : ApiStatus) : String :=
  match status.code? with
  | some n => String.ofList (Nat.toDigits 10 n)
  | none => "None"

/-- The text of a failure with that status. A call that was given up after several attempts tells
the last of them. -/
def describe (status : ApiStatus) (message : String) (last : String) : String :=
  if status = apiError then message
  else if status = retry then message ++ ", last exception: " ++ last
  else status.codeText ++ " " ++ message

end ApiStatus

/-- A failure to authenticate with Google. -/
inductive AuthFault where
  | authError
  | transport
  | mutualTls
  | userAccessToken
  | refresh
  | reauthentication
  | defaultCredentials
  | malformed
  deriving DecidableEq, Repr

namespace AuthFault

/-- Whether credentials could not be renewed. -/
def isRefresh : AuthFault → Bool
  | refresh | reauthentication => true
  | _ => false

/-- Whether no default credentials could be made out. -/
def isDefaultCredentials : AuthFault → Bool
  | defaultCredentials | malformed => true
  | _ => false

def describe (fault : AuthFault) (message : String) : String :=
  match fault with
  | reauthentication => "Reauthentication failed. " ++ message
  | _ => message

end AuthFault

end CloudIdentity

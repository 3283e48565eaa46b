/-!
The nine kinds of failure that a caller can tell apart, whatever the provider.
-/

namespace CloudIdentity

inductive Kind where
  | invalidArgument
  | deadlineExceeded
  | resourceNotFound
  | resourceAlreadyExists
  | unauthorized
  | resourceExhausted
  | failedPrecondition
  | unsupportedOperation
  | unknown
  deriving DecidableEq, Repr, Inhabited

namespace Kind

def all : List Kind :=
  [invalidArgument, deadlineExceeded, resourceNotFound, resourceAlreadyExists, unauthorized,
    resourceExhausted, failedPrecondition, unsupportedOperation, unknown]

def name : Kind → String
  | invalidArgument => "InvalidArgument"
  | deadlineExceeded => "DeadlineExceeded"
  | resourceNotFound => "ResourceNotFound"
  | resourceAlreadyExists => "ResourceAlreadyExists"
  | unauthorized => "Unauthorized"
  | resourceExhausted => "ResourceExhausted"
  | failedPrecondition => "FailedPrecondition"
  | unsupportedOperation => "UnsupportedOperation"
  | unknown => "Unknown"

def ofName? (s : String) : Option Kind := all.find? fun k => k.name == s

/-- Whether the same call may succeed when it is made again. -/
def retryable : Kind → Bool
  | deadlineExceeded | resourceExhausted => true
  | _ => false

theorem ofName?_name (k : Kind) : ofName? k.name = some k := by
  cases k <;> rfl

end Kind

end CloudIdentity

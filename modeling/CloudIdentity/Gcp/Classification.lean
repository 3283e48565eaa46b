import CloudIdentity.Failure.Basic

/-!
Which kind a failure of Google Cloud is. A status counts by the first row that it is or refines, so
that rows for particular statuses stand before those for the statuses they refine.
-/

namespace CloudIdentity.Gcp

def statusKinds : List (ApiStatus × Kind) :=
  [(.failedPrecondition, .failedPrecondition),
    (.preconditionFailed, .failedPrecondition),
    (.alreadyExists, .resourceAlreadyExists),
    (.aborted, .deadlineExceeded),
    (.conflict, .resourceAlreadyExists),
    (.badRequest, .invalidArgument),
    (.unauthorized, .unauthorized),
    (.forbidden, .unauthorized),
    (.notFound, .resourceNotFound),
    (.tooManyRequests, .resourceExhausted),
    (.methodNotImplemented, .unsupportedOperation),
    (.gatewayTimeout, .deadlineExceeded),
    (.retry, .deadlineExceeded)]

def statusKind (status : ApiStatus) : Kind :=
  match statusKinds.find? fun (row, _) => status.isA row with
  | some (_, kind) => kind
  | none => .unknown

def authKind (fault : AuthFault) : Kind :=
  if fault.isDefaultCredentials || fault.isRefresh then .unauthorized else .unknown

/-- A failure that is tagged with a kind is of that kind. -/
def classify : Failure.Classifier := fun f =>
  match f.kind? with
  | some kind => .ok kind
  | none =>
    match f.origin with
    | .googleApi status => .ok (statusKind status)
    | .googleAuth fault => .ok (authKind fault)
    | _ => .ok .unknown

/-- Every failure is of some kind. -/
theorem classify_ne_error (f g : Failure) : classify f ≠ .error g := by
  intro h
  unfold classify at h
  split at h
  · cases h
  · split at h <;> cases h

end CloudIdentity.Gcp

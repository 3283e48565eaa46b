import CloudIdentity.Document.Display
import CloudIdentity.Failure.ApiStatus
import CloudIdentity.Failure.Kind
import CloudIdentity.Failure.LocalFault
import CloudIdentity.Validation.Complaint

/-!
Failures, and how they are made canonical. A failure knows where it comes from, its text, the tag it
carries, and the failure that caused it. A canonical failure is one of this library's own with a
kind as its tag; every other gives way to the canonical failure of the kind that a classifier
assigns, which keeps it as its cause.
-/

namespace CloudIdentity

open Document Validation

/-- Failures of a general nature, raised by no client in particular. -/
inductive GeneralFault where
  | value
  | runtime
  | key
  | index
  | overflow
  | type
  | noAttribute
  | os
  | timeout
  | connection
  | permission
  | notImplemented
  | other
  deriving DecidableEq, Repr

namespace GeneralFault

/-- The text of a failure that was raised with an argument. A missing key is shown as it is inside a
container, so a text is quoted. -/
def describe (fault : GeneralFault) (argument : Value) : String :=
  match fault with
  | key => argument.shown
  | _ => argument.display

end GeneralFault

namespace Failure

/-- Where a failure comes from. -/
inductive Origin where
  /-- This library: the failure of one kind, or the root of them all. -/
  | library (kind : Option Kind)
  /-- An AWS service that answered with an error code; an absent code is the empty text. -/
  | awsService (code : Value)
  | awsLocal (fault : LocalFault)
  | googleApi (status : ApiStatus)
  | googleAuth (fault : AuthFault)
  /-- The schema of a record did not accept its members. -/
  | schema (title : String) (complaints : List Complaint)
  | general (fault : GeneralFault)

/-- What a failure is marked with: nothing, a kind, or something that is not a kind. -/
inductive Tag where
  | untagged
  | kind (k : Kind)
  | other (raw : Value)

end Failure

inductive Failure where
  | mk (origin : Failure.Origin) (message : String) (tag : Failure.Tag) (cause : Option Failure)

namespace Failure

def origin : Failure → Origin
  | mk origin _ _ _ => origin

def message : Failure → String
  | mk _ message _ _ => message

def tag : Failure → Tag
  | mk _ _ tag _ => tag

def cause : Failure → Option Failure
  | mk _ _ _ cause => cause

def withTag (f : Failure) (tag : Tag) : Failure := mk f.origin f.message tag f.cause

def withCause (f cause : Failure) : Failure := mk f.origin f.message f.tag (some cause)

/-- Whether a failure says that some value was unfit. -/
def Origin.isValueFault : Origin → Bool
  | .general .value | .awsLocal .invalidRegion | .googleAuth .malformed | .schema _ _ => true
  | _ => false

def Origin.isLibrary : Origin → Bool
  | .library _ => true
  | _ => false

/-! ## Making failures -/

/-- The canonical failure of a kind. -/
def ofKind (kind : Kind) (message : String) : Failure :=
  mk (.library (some kind)) message (.kind kind) none

/-- A library failure that is only known to be one counts as unknown. -/
def root (message : String) : Failure := mk (.library none) message (.kind .unknown) none

/-- A general failure, raised with an argument. -/
def raised (fault : GeneralFault) (argument : Value) : Failure :=
  mk (.general fault) (fault.describe argument) .untagged none

def general (fault : GeneralFault) (message : String) : Failure := raised fault (.str message)

def invalidArgument (message : String) : Failure := ofKind .invalidArgument message

/-- A record was refused. -/
def refused (title : String) (complaints : List Complaint) : Failure :=
  mk (.schema title complaints) title .untagged none

/-! ## Canonical failures -/

/-- The kind a failure is tagged with. -/
def kind? (f : Failure) : Option Kind :=
  match f.tag with
  | .kind k => some k
  | _ => none

/-- Whether a failure may leave the library as it is. -/
def isCanonical (f : Failure) : Bool := f.origin.isLibrary && f.kind?.isSome

/-- Says which kind a failure is of. It may fail itself, where a failure tells of itself in a form
that nothing can be looked up by. -/
abbrev Classifier := Failure → Except Failure Kind

/-- A canonical failure as it is; any other as the canonical failure of its kind, with the context
before its text and itself as the cause. -/
def toCanonical (classify : Classifier) (context : String) (f : Failure) : Except Failure Failure :=
  if f.isCanonical then .ok f
  else
    match classify f with
    | .ok kind => .ok ((ofKind kind (context ++ ": " ++ f.message)).withCause f)
    | .error g => .error g

end Failure

end CloudIdentity

/-!
What is wrong with a value that does not fit its schema: a reason, and the path to the place.
-/

namespace CloudIdentity.Validation

/-- One step from a value into its parts. -/
inductive Step where
  | field (name : String)
  | index (position : Nat)
  deriving DecidableEq, Repr

inductive Reason where
  | missing
  /-- A record has a member that its schema does not know. -/
  | unexpected
  | notText
  | notRecord
  | notObject
  | notList
  | notInEnumeration
  | notLiteral
  | notInteger
  | unreadableInteger
  | oversizedInteger
  /-- A number with a fraction stands where an integer should. -/
  | fractional
  | notFinite
  | notPositive
  /-- A record was to be changed after it was made. -/
  | frozen
  /-- A rule that joins several fields is broken. -/
  | rule (text : String)
  deriving DecidableEq, Repr

structure Complaint where
  reason : Reason
  path : List Step
  deriving DecidableEq, Repr

namespace Complaint

/-- A complaint about the value itself. -/
def here (reason : Reason) : Complaint := ⟨reason, []⟩

/-- A complaint about a part, seen from the whole. -/
def under (step : Step) (c : Complaint) : Complaint := ⟨c.reason, step :: c.path⟩

end Complaint

end CloudIdentity.Validation

import CloudIdentity.Document.Equality

/-!
Arguments of the client's operations. Some are wrapped, so that leaving one out can be told from
choosing to pass nothing: `present null` is such a choice, `unset` is none.
-/

namespace CloudIdentity

open Document

inductive Argument where
  | plain (v : Value)
  | unset
  | present (v : Value)

namespace Argument

def truthy : Argument → Bool
  | plain v => v.truthy
  | unset => false
  | present _ => true

def isUnset : Argument → Bool
  | unset => true
  | _ => false

/-- Whether a wrapper holds nothing; `none` for what is no wrapper. -/
def isEmpty? : Argument → Option Bool
  | present v => some v.isNull
  | _ => none

/-- How an argument shows; `none` where it shows as what it holds. -/
def shown? : Argument → Option String
  | unset => some "UNSET"
  | _ => none

/-- Wrappers are equal if they hold equal values. -/
def equal : Argument → Argument → Bool
  | plain a, plain b => a.equal b
  | unset, unset => true
  | present a, present b => a.same b
  | _, _ => false

/-- An argument as a member of a request. No schema has a place for a wrapper. -/
def toValue : Argument → Value
  | plain v => v
  | unset => .foreign "unset"
  | present _ => .foreign "present"

end Argument

end CloudIdentity

import CloudIdentity.Document.Value

/-!
Structural equality of values. Numbers are compared by the number they stand for, whatever their
kind, so `true`, `1` and `1.0` are equal and a large integer is compared with a double exactly.
The order of an object's members does not count. A not-a-number differs from itself, except that
inside an array or an object the interned one is recognised. No two foreign values are equal.
-/

namespace CloudIdentity.Document

open Decimal

/-- What a value that holds no others is compared by. -/
inductive Scalar (τ : Type := String) where
  | null
  | number (m : Binary64.Magnitude)
  | text (s : τ)
  | interned
  deriving DecidableEq

namespace Value

variable {τ : Type}

/-- What a value is compared by. Arrays and objects are compared in other ways; a foreign value, and
a not-a-number that is not interned, are equal to nothing. -/
def scalar? : Value τ → Option (Scalar τ)
  | .null => some .null
  | .bool b => some (.number (.exact (if b then 1 else 0)))
  | .int n => some (.number (.exact (n : Rat)))
  | .float x => some (.number x.magnitude)
  | .notANumber true => some .interned
  | .notANumber false => none
  | .str s => some (.text s)
  | .foreign _ | .array _ | .object _ => none

variable [DecidableEq τ]

def sameScalar (a b : Value τ) : Bool :=
  match a.scalar?, b.scalar? with
  | some x, some y => decide (x = y)
  | _, _ => false

mutual

/-- Equality of two values that stand inside an array or an object. -/
def same : Value τ → Value τ → Bool
  | .array xs, b =>
    match b with
    | .array ys => sameItems xs ys
    | _ => false
  | .object xs, b =>
    match b with
    | .object ys => xs.length == ys.length && sameMembers xs ys
    | _ => false
  | a, b => sameScalar a b

def sameItems : List (Value τ) → List (Value τ) → Bool
  | [], ys => ys.isEmpty
  | x :: xs, ys =>
    match ys with
    | [] => false
    | y :: ys => same x y && sameItems xs ys

/-- Whether each member of the first object is equal to the one of that name in the second. -/
def sameMembers : List (τ × Value τ) → List (τ × Value τ) → Bool
  | [], _ => true
  | (name, x) :: xs, ys =>
    (match ys.lookup name with
      | some y => same x y
      | none => false) && sameMembers xs ys

end

/-- Equality of two values that stand on their own. -/
def equal : Value τ → Value τ → Bool
  | .notANumber _, .notANumber _ => false
  | a, b => same a b

end Value

end CloudIdentity.Document

/-!
Double-precision numbers as exact values. A finite one is a signed whole number times a power of
two, so it can be compared with any rational without rounding; `ofRatio` is the one place where a
value is rounded, to the nearest double with ties going to the even neighbour.
-/

namespace CloudIdentity.Decimal

/-- A double other than not-a-number: `finite n m e` is `m · 2^e`, negated if `n`. -/
inductive Binary64 where
  | finite (negative : Bool) (mantissa : Nat) (exponent : Int)
  | infinite (negative : Bool)
  deriving DecidableEq, Repr, Inhabited

namespace Binary64

/-- The exponent of the smallest doubles. -/
def minExponent : Int := -1074

/-- The exponent of the largest doubles. -/
def maxExponent : Int := 971

/-- The least mantissa of a double whose exponent is not the smallest. -/
def hiddenBit : Nat := Nat.pow 2 52

def zero (negative : Bool) : Binary64 := .finite negative 0 minExponent

/-- A number beyond every finite double, or an exact number. -/
inductive Magnitude where
  | exact (value : Rat)
  | unbounded (negative : Bool)
  deriving DecidableEq

/-- The number that a double stands for. The two zeros stand for the same one. -/
def magnitude : Binary64 → Magnitude
  | .infinite negative => .unbounded negative
  | .finite negative mantissa exponent =>
    let signed : Int := if negative then -(mantissa : Int) else mantissa
    match exponent with
    | .ofNat up => .exact ((signed * Nat.pow 2 up : Int) : Rat)
    | .negSucc down => .exact (mkRat signed (Nat.pow 2 (down + 1)))

/-- The quotient rounded to a whole number, a half going to the even neighbour. -/
def roundQuotient (numerator denominator : Nat) : Nat :=
  let whole := numerator / denominator
  let twice := 2 * (numerator % denominator)
  if twice < denominator then whole
  else if denominator < twice then whole + 1
  else if whole % 2 = 0 then whole else whole + 1

/-- The quotient `numerator / denominator` in units of `2 ^ exponent`, rounded. -/
def scaledQuotient (numerator denominator : Nat) : Int → Nat
  | .ofNat up => roundQuotient numerator (denominator * Nat.pow 2 up)
  | .negSucc down => roundQuotient (numerator * Nat.pow 2 (down + 1)) denominator

/-- Whether `numerator / denominator` reaches `2 ^ 52` units of `2 ^ exponent`. -/
def fillsMantissa (numerator denominator : Nat) : Int → Bool
  | .ofNat up => decide (hiddenBit * (denominator * Nat.pow 2 up) ≤ numerator)
  | .negSucc down => decide (hiddenBit * denominator ≤ numerator * Nat.pow 2 (down + 1))

/-- The exponent at which a positive quotient is rounded: the one that gives it 53 binary digits,
and never less than the smallest. -/
def exponentOf (numerator denominator : Nat) : Int :=
  let estimate : Int := (numerator.log2 : Int) - denominator.log2 - 52
  let exponent := if fillsMantissa numerator denominator estimate then estimate else estimate - 1
  max exponent minExponent

/-- The double nearest to `numerator / denominator`. -/
def ofRatio (negative : Bool) (numerator denominator : Nat) : Binary64 :=
  if numerator = 0 then zero negative
  else
    let exponent := exponentOf numerator denominator
    let mantissa := scaledQuotient numerator denominator exponent
    let (mantissa, exponent) :=
      if mantissa = 2 * hiddenBit then (hiddenBit, exponent + 1) else (mantissa, exponent)
    if maxExponent < exponent then .infinite negative else .finite negative mantissa exponent

/-- The double nearest to `digits · 10 ^ power`, where `digits` is written with `length` digits.
A power that takes the number out of reach is not carried out. -/
def ofDecimal (negative : Bool) (digits length : Nat) (power : Int) : Binary64 :=
  if digits = 0 then zero negative
  else if 310 < (length : Int) + power then .infinite negative
  else if (length : Int) + power < -330 then zero negative
  else match power with
    | .ofNat up => ofRatio negative (digits * Nat.pow 10 up) 1
    | .negSucc down => ofRatio negative digits (Nat.pow 10 (down + 1))

end Binary64

end CloudIdentity.Decimal

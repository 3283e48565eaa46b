import CloudIdentity.Decimal.Shortest

/-!
How a double is written: the fewest digits that read back, positionally while the point stays
within sixteen places of the first digit, with an exponent otherwise.
-/

namespace CloudIdentity.Decimal

/-- The bounds of positional writing: a number has no exponent if its point comes after more than
`least` and at most `greatest` of its digits. -/
structure PointRange where
  least : Int
  greatest : Int

/-- Numbers from `0.0001` up to, but not including, `1e16` are written positionally. -/
def plainPoints : PointRange := ⟨-4, 16⟩

/-- At least two digits. -/
def exponentDigits (n : Nat) : List Char :=
  if n < 10 then '0' :: Nat.toDigits 10 n else Nat.toDigits 10 n

def exponentText (e : Int) : List Char :=
  'e' :: (if e < 0 then '-' else '+') :: exponentDigits e.natAbs

/-- Digits with the point after the first `point` of them; at least one digit stands on each side
of a point. -/
def positional (digits : List Char) (point : Int) : List Char :=
  if point ≤ 0 then '0' :: '.' :: List.replicate point.natAbs '0' ++ digits
  else
    let n := point.toNat
    if digits.length ≤ n then digits ++ List.replicate (n - digits.length) '0' ++ ['.', '0']
    else digits.take n ++ '.' :: digits.drop n

/-- One digit before the point, and no point after a digit that stands alone. -/
def scientific (digits : List Char) (point : Int) : List Char :=
  match digits with
  | [] => exponentText (point - 1)
  | [d] => d :: exponentText (point - 1)
  | d :: rest => d :: '.' :: rest ++ exponentText (point - 1)

def Scaled.text (d : Scaled) : List Char :=
  if d.digits = 0 then ['0', '.', '0']
  else
    let digits := Nat.toDigits 10 d.digits
    let point : Int := digits.length + d.power
    if plainPoints.least < point ∧ point ≤ plainPoints.greatest then
      positional digits point
    else scientific digits point

namespace Binary64

/-- A double as text, with `infinity` for the unbounded ones. -/
def text (infinity : List Char) (x : Binary64) : List Char :=
  let sign (negative : Bool) (rest : List Char) := if negative then '-' :: rest else rest
  match x with
  | .infinite negative => sign negative infinity
  | .finite negative mantissa exponent => sign negative (shortest mantissa exponent).text

end Binary64

end CloudIdentity.Decimal

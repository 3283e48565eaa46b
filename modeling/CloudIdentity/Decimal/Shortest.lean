import CloudIdentity.Decimal.Binary64

/-!
The shortest decimal that reads back as a given double. The reals that round to a double form an
interval; on the grid of decimals with one, two, … seventeen digits only the two neighbours of the
double can be the nearest points, so the first grid with a neighbour inside the interval gives the
fewest digits, and the nearer of two such neighbours gives the digits themselves.
-/

namespace CloudIdentity.Decimal

/-- The number `digits · 10 ^ power`. -/
structure Scaled where
  digits : Nat
  power : Int
  deriving DecidableEq, Repr, Inhabited

namespace Scaled

/-- The same number without zeros at the end of its digits. -/
def dropZeros (fuel digits : Nat) (power : Int) : Scaled :=
  match fuel with
  | 0 => ⟨digits, power⟩
  | fuel + 1 =>
    if digits ≠ 0 ∧ digits % 10 = 0 then dropZeros fuel (digits / 10) (power + 1)
    else ⟨digits, power⟩

def trimmed (d : Scaled) : Scaled := dropZeros d.digits d.digits d.power

end Scaled

/-- The reals that round to a positive double, all in units of `1 / denominator`. The ends belong
to the interval if the mantissa is even. -/
structure Rounding where
  value : Nat
  low : Nat
  high : Nat
  denominator : Nat
  closed : Bool

namespace Rounding

/-- The gap below a power of two is half the gap above it. -/
def ofFinite (mantissa : Nat) (exponent : Int) : Rounding :=
  let below := if mantissa = Binary64.hiddenBit ∧ Binary64.minExponent < exponent then 1 else 2
  let (up, down) : Nat × Nat := match exponent with
    | .ofNat n => (n, 0)
    | .negSucc n => (0, n + 1)
  { value := 4 * mantissa * Nat.pow 2 up
    low := (4 * mantissa - below) * Nat.pow 2 up
    high := (4 * mantissa + 2) * Nat.pow 2 up
    denominator := 4 * Nat.pow 2 down
    closed := mantissa % 2 = 0 }

/-- Whether `point / (denominator · scale)` rounds to the double, where the grid is `1 / scale`. -/
def holds (r : Rounding) (scale point : Nat) : Bool :=
  if r.closed then decide (r.low * scale ≤ point ∧ point ≤ r.high * scale)
  else decide (r.low * scale < point ∧ point < r.high * scale)

/-- The exponent `p` for which the value lies between `10 ^ (p - 1)` and `10 ^ p`. A double times
`10 ^ 400` is greater than one, so the digits of its whole part can be counted. -/
def position (r : Rounding) : Int :=
  ((Nat.toDigits 10 (r.value * Nat.pow 10 400 / r.denominator)).length : Int) - 400

/-- The nearer neighbour of the value among the multiples of `10 ^ power` that round to it. A value
half way between the two goes to the even one. -/
def nearest? (r : Rounding) (power : Int) : Option Scaled :=
  -- value / denominator = (value · scale / (denominator · unit)) · 10 ^ power
  let (scale, unit) : Nat × Nat := match power with
    | .ofNat n => (1, Nat.pow 10 n)
    | .negSucc n => (Nat.pow 10 (n + 1), 1)
  let step := r.denominator * unit
  let target := r.value * scale
  let floor := target / step
  let holdsAt := fun n => r.holds scale (n * step)
  let below := target - floor * step
  let above := (floor + 1) * step - target
  let preferred := if below < above ∨ (below = above ∧ floor % 2 = 0) then floor else floor + 1
  let other := if preferred = floor then floor + 1 else floor
  if holdsAt preferred then some ⟨preferred, power⟩
  else if holdsAt other then some ⟨other, power⟩
  else none

/-- The first grid with a point that rounds to the value, among those with so many digits each. -/
def search (r : Rounding) (position : Int) : List Nat → Scaled
  | [] => ⟨0, 0⟩
  | count :: more =>
    match r.nearest? (position - count) with
    | some d => d
    | none => search r position more

end Rounding

/-- The fewest digits that read back as `mantissa · 2 ^ exponent`. -/
def shortest (mantissa : Nat) (exponent : Int) : Scaled :=
  if mantissa = 0 then ⟨0, 0⟩
  else
    let rounding := Rounding.ofFinite mantissa exponent
    (rounding.search rounding.position (List.range' 1 17)).trimmed

end CloudIdentity.Decimal

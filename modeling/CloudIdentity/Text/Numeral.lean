import CloudIdentity.Text.Blank

/-!
Whole numbers as text: the decimal digits of an integer, and the looser numerals that are accepted
for one. A text is first taken as plain digits. If it is none, it is trimmed and cleaned of a plus
sign, zeros behind the sign, a tail of zeros after a point, and single underscores, and taken as
plain digits once more.
-/

namespace CloudIdentity.Text

/-- The decimal digits of an integer, without a sign for those that are not negative. -/
def integer : Int → List Char
  | .ofNat n => Nat.toDigits 10 n
  | .negSucc n => '-' :: Nat.toDigits 10 (n + 1)

/-- How many digits an integer may have as a text. -/
def maxDigits : Nat := 4300

/-- An integer has no more digits than it may have as a text; its sign does not count. -/
def FewDigits (n : Int) : Prop := (Nat.toDigits 10 n.natAbs).length ≤ maxDigits

instance (n : Int) : Decidable (FewDigits n) := inferInstanceAs (Decidable (_ ≤ _))

/-- What a text is when it is taken for a numeral. -/
inductive Numeral where
  | integer (n : Int)
  | unreadable
  | tooLong
  deriving DecidableEq, Repr

namespace Numeral

/-- Digits of which the first is not zero; what follows them is only looked at if they are not too
many. -/
def ofLeading (negative : Bool) (digits rest : List Char) : Numeral :=
  if maxDigits < digits.length then tooLong
  else if rest.isEmpty then
    let n : Int := Nat.ofDigitChars 10 digits 0
    integer (if negative then -n else n)
  else unreadable

/-- Digits with no needless zero in front and nothing after them. -/
def ofUnsigned (negative : Bool) (cs : List Char) : Numeral :=
  match cs with
  | ['0'] => integer 0
  | '0' :: _ => unreadable
  | cs =>
    match cs.takeWhile Char.isDigit with
    | [] => unreadable
    | digits => ofLeading negative digits (cs.dropWhile Char.isDigit)

/-- Plain digits, behind a minus sign if the integer is negative. -/
def ofPlain : List Char → Numeral
  | '-' :: cs => ofUnsigned true cs
  | cs => ofUnsigned false cs

/-- What is left of a numeral whose zeros and underscores, up to the character `last`, have been
taken off its front. Where nothing or a point follows them, the last of them stays. -/
def afterZeros? (last : Char) : List Char → Option (List Char)
  | [] => some [last]
  | c :: rest =>
    if c = '0' ∨ c = '_' then afterZeros? c rest
    else if c.isDigit ∨ c = '-' then some (c :: rest)
    else if c = '.' then some (last :: c :: rest)
    else none

/-- A numeral that has no sign without needless zeros in front; `none` for what can be none. A minus
sign that comes after them stays. -/
def withoutZeros? : List Char → Option (List Char)
  | [] => none
  | c :: rest =>
    if c = '0' then afterZeros? c rest
    else if c.isDigit then some (c :: rest)
    else none

/-- A numeral without needless zeros behind its sign, and without the sign if that is a plus. -/
def normalised? : List Char → Option (List Char)
  | '-' :: cs => (withoutZeros? cs).map ('-' :: ·)
  | '+' :: cs => withoutZeros? cs
  | cs => withoutZeros? cs

/-- A numeral without the point and the zeros that it ends in. -/
def withoutZeroTail (cs : List Char) : List Char :=
  match cs.dropWhile (· != '.') with
  | '.' :: '0' :: zeros => if zeros.all (· == '0') then cs.takeWhile (· != '.') else cs
  | _ => cs

/-- The characters without their underscores, none of which may be first or last or stand next to
another. -/
def ungrouped? : List Char → Option (List Char)
  | [] => some []
  | c :: rest =>
    if c = '_' then none
    else
      match rest with
      | ['_'] => none
      | '_' :: more => (ungrouped? more).map (c :: ·)
      | others => (ungrouped? others).map (c :: ·)

/-- The plain digits that a loose numeral comes down to. -/
def cleaned? (cs : List Char) : Option (List Char) := do
  let cs ← normalised? (trimmed isWhiteSpace cs)
  ungrouped? (withoutZeroTail cs)

/-- A loose numeral. Only one that is plain as it stands is told to be too long; one that is still
too long when cleaned is unreadable. -/
def ofText (s : String) : Numeral :=
  match ofPlain s.toList with
  | unreadable =>
    match (cleaned? s.toList).map ofPlain with
    | some (integer n) => integer n
    | _ => unreadable
  | numeral => numeral

end Numeral

end CloudIdentity.Text

import CloudIdentity.Document.Access
import CloudIdentity.Text.Numeral

/-!
Moments as text in UTC. Days are counted in eras of four hundred years, all of one length, and years
from March on, so that a leap day is the last day of its year. Months, days and times have two
digits; a year has as many as it needs, and a minus sign before the year 0.
-/

namespace CloudIdentity.Journal

open Document

structure Date where
  year : Int
  month : Nat
  day : Nat
  deriving DecidableEq, Repr

/-- The days of an era, of a hundred years, of four years and of a year, leap days aside. -/
def daysOfEra : Int := 146097

/-- The date that is so many days after the first of January 1970. -/
def Date.ofDays (days : Int) : Date :=
  -- 719468 days lie between the first of March of the year 0 and the first of January 1970
  let shifted := days + 719468
  let era := shifted.fdiv daysOfEra
  let dayOfEra := (shifted - era * daysOfEra).toNat
  let yearOfEra :=
    (dayOfEra - dayOfEra / 1460 + dayOfEra / 36524 - dayOfEra / 146096) / 365
  let dayOfYear := dayOfEra - (365 * yearOfEra + yearOfEra / 4 - yearOfEra / 100)
  let monthFromMarch := (5 * dayOfYear + 2) / 153
  let day := dayOfYear - (153 * monthFromMarch + 2) / 5 + 1
  let month := if monthFromMarch < 10 then monthFromMarch + 3 else monthFromMarch - 9
  let year : Int := yearOfEra + era * 400
  ⟨if month ≤ 2 then year + 1 else year, month, day⟩

/-- The digits of a number after as many zeros as make up `width` characters with its sign. -/
def padded (width : Nat) : Int → List Char
  | .ofNat n => zeros width (Nat.toDigits 10 n)
  | .negSucc n => '-' :: zeros (width - 1) (Nat.toDigits 10 (n + 1))
where
  zeros (width : Nat) (digits : List Char) : List Char :=
    List.replicate (width - digits.length) '0' ++ digits

/-- The text of a moment that is so many seconds after the start of 1970, to the thousandth of a
second. -/
def timestamp (seconds thousandths : Int) : String :=
  let days := seconds.fdiv 86400
  let second := seconds - days * 86400
  let date := Date.ofDays days
  String.ofList (Text.integer date.year ++ '-' :: padded 2 date.month ++ '-' :: padded 2 date.day
    ++ ' ' :: padded 2 (second / 3600) ++ ':' :: padded 2 (second / 60 % 60)
    ++ ':' :: padded 2 (second % 60) ++ ',' :: padded 3 thousandths)

/-! ## Moments from values -/

/-- Whether an integer can be told in so many bits, one of which is its sign. -/
def fits (bits : Nat) (n : Int) : Bool :=
  let bound : Int := Nat.pow 2 (bits - 1)
  decide (-bound ≤ n ∧ n < bound)

/-- The whole seconds of a moment given as a number, which are told in 64 bits. -/
def wholeSeconds (v : Value) : Except Failure Int :=
  match v with
  | .int n => bounded n
  | .bool b => .ok b.toInt
  | .float x =>
    match x.magnitude with
    | .exact q => bounded q.floor
    | .unbounded _ => .error tooFar
  | .notANumber _ => .error (Failure.general .value "Invalid value NaN (not a number)")
  | v => .error (Value.wrongType
    ("'" ++ v.typeWord ++ "' object cannot be interpreted as an integer"))
where
  tooFar : Failure := Failure.general .overflow "timestamp out of range for platform time_t"
  bounded (n : Int) : Except Failure Int := if fits 64 n then .ok n else .error tooFar

/-- The thousandths of a second given as a number, without what is left beyond them. -/
def wholeThousandths (v : Value) : Except Failure Int :=
  match v with
  | .int n => .ok n
  | .bool b => .ok b.toInt
  | .float x =>
    match x.magnitude with
    | .exact q => .ok (q.num.tdiv q.den)
    | .unbounded _ =>
      .error (Failure.general .overflow "cannot convert float infinity to integer")
  | .notANumber _ => .error (Failure.general .value "cannot convert float NaN to integer")
  | v => .error (Value.wrongType
    ("%d format: a real number is required, not " ++ v.typeWord))

/-- The text of a moment given as numbers. Its year is told in 32 bits, counted from 1900 and
counted from 0. -/
def moment (seconds thousandths : Value) : Except Failure String := do
  let seconds ← wholeSeconds seconds
  let year := (Date.ofDays (seconds.fdiv 86400)).year
  if !fits 32 (year - 1900) then
    .error (Failure.general .os "[Errno 75] Value too large for defined data type")
  else if !fits 32 year then
    .error (Failure.general .overflow "signed integer is greater than maximum")
  else
    let thousandths ← wholeThousandths thousandths
    pure (timestamp seconds thousandths)

end CloudIdentity.Journal

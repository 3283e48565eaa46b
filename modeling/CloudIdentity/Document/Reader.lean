import CloudIdentity.Decimal.Binary64
import CloudIdentity.Document.Reading
import CloudIdentity.Text.Numeral
import CloudIdentity.Text.Percent

/-!
Values from JSON text. Besides JSON proper the reader takes the literals `NaN`, `Infinity` and
`-Infinity`. A number without point and exponent is an integer, and refused if it has too many
digits; any other is the nearest double. Of two members with one name, the first keeps its place and
the last its value. Half of a surrogate pair that stands alone is a number of its own in a text.
-/

namespace CloudIdentity.Document.Reader

open Decimal

def isSpace (c : Char) : Bool := c == ' ' || c == '\t' || c == '\n' || c == '\r'

def skipSpace (cs : List Char) : List Char := cs.dropWhile isSpace

/-- What follows `literal` in a text that begins with it. -/
def after? (literal : String) (cs : List Char) : Option (List Char) :=
  if literal.toList.isPrefixOf cs then some (cs.drop literal.length) else none

/-! ## Strings -/

/-- One element between quotes: a character that stands for itself or for another, or a 16-bit unit
given by its number. -/
inductive Piece where
  | char (c : Char)
  | unit (n : Nat)

def unit? (a b c d : Char) : Option Nat := do
  let high ← Text.Percent.octet? a b
  let low ← Text.Percent.octet? c d
  pure (256 * high + low)

/-- The character that `\` and a letter stand for. -/
def simpleEscape? (c : Char) : Option Char :=
  match c with
  | '"' => some '"'
  | '\\' => some '\\'
  | '/' => some '/'
  | 'b' => some '\x08'
  | 'f' => some '\x0c'
  | 'n' => some '\n'
  | 'r' => some '\r'
  | 't' => some '\t'
  | _ => none

/-- The pieces up to the closing quote, and what follows it. -/
def pieces? : List Char → Option (List Piece × List Char)
  | [] => none
  | c :: rest =>
    if c = '"' then some ([], rest)
    else if c = '\\' then
      match rest with
      | 'u' :: a :: b :: c :: d :: more =>
        match unit? a b c d with
        | some n => (pieces? more).map fun (ps, tail) => (.unit n :: ps, tail)
        | none => none
      | e :: more =>
        match simpleEscape? e with
        | some c => (pieces? more).map fun (ps, tail) => (.char c :: ps, tail)
        | none => none
      | [] => none
    else if c.toNat < 0x20 then none
    else (pieces? rest).map fun (ps, tail) => (.char c :: ps, tail)

def isHigh (n : Nat) : Bool := decide (0xD800 ≤ n ∧ n ≤ 0xDBFF)

def isLow (n : Nat) : Bool := decide (0xDC00 ≤ n ∧ n ≤ 0xDFFF)

/-- The numbers of the pieces; a high surrogate and the low one after it make one character. -/
def assemble : List Piece → List Nat
  | [] => []
  | .char c :: rest => c.toNat :: assemble rest
  | .unit n :: rest =>
    match rest with
    | .unit m :: more =>
      if isHigh n && isLow m then
        (0x10000 + (n - 0xD800) * 0x400 + (m - 0xDC00)) :: assemble more
      else n :: assemble (.unit m :: more)
    | others => n :: assemble others

/-- A string whose opening quote has been read. -/
def string? (cs : List Char) : Option (Text.Codes × List Char) :=
  (pieces? cs).map fun (ps, rest) => (⟨assemble ps⟩, rest)

/-! ## Numbers -/

/-- Digits without needless zeros in front, and what follows them. -/
def wholePart? : List Char → Option (List Char × List Char)
  | '0' :: rest => some (['0'], rest)
  | cs => match cs.takeWhile Char.isDigit with
    | [] => none
    | ds => some (ds, cs.dropWhile Char.isDigit)

/-- The digits after a point, and what follows them; no digits if there is no such part. -/
def fraction (cs : List Char) : List Char × List Char :=
  match cs with
  | '.' :: rest => match rest.takeWhile Char.isDigit with
    | [] => ([], cs)
    | ds => (ds, rest.dropWhile Char.isDigit)
  | _ => ([], cs)

/-- The power of ten after `e` or `E`, and what follows it. -/
def exponent (cs : List Char) : Option Int × List Char :=
  let digits (negative : Bool) (rest : List Char) : Option Int × List Char :=
    match rest.takeWhile Char.isDigit with
    | [] => (none, cs)
    | ds =>
      let n : Int := Nat.ofDigitChars 10 ds 0
      (some (if negative then -n else n), rest.dropWhile Char.isDigit)
  match cs with
  | c :: rest =>
    if c = 'e' ∨ c = 'E' then
      match rest with
      | '+' :: more => digits false more
      | '-' :: more => digits true more
      | _ => digits false rest
    else (none, cs)
  | [] => (none, cs)

/-- The digits of a number without those zeros in front that tell nothing of its size. -/
def significant (ds : List Char) : List Char := ds.dropWhile (· == '0')

def unsignedNumber? (negative : Bool) (cs : List Char) : Option (Reading × List Char) :=
  match wholePart? cs with
  | none => none
  | some (whole, rest) =>
    let (decimals, rest) := fraction rest
    let (power, rest) := exponent rest
    if decimals.isEmpty && power.isNone then
      if whole.length ≤ Text.maxDigits then
        let n : Int := Nat.ofDigitChars 10 whole 0
        some (.int (if negative then -n else n), rest)
      else none
    else
      let digits := significant (whole ++ decimals)
      let scale : Int := power.getD 0 - decimals.length
      some (.float (Binary64.ofDecimal negative (Nat.ofDigitChars 10 digits 0) digits.length scale),
        rest)

def number? : List Char → Option (Reading × List Char)
  | '-' :: rest => unsignedNumber? true rest
  | cs => unsignedNumber? false cs

/-! ## Values -/

/-- A value that is no string, array or object. -/
def literal? (cs : List Char) : Option (Reading × List Char) :=
  match number? cs with
  | some result => some result
  | none =>
    let table : List (String × Reading) :=
      [("null", .null), ("true", .bool true), ("false", .bool false), ("NaN", .notANumber true),
        ("Infinity", .float (.infinite false)), ("-Infinity", .float (.infinite true))]
    table.findSome? fun (name, v) => (after? name cs).map fun rest => (v, rest)

mutual

/-- The value that a text begins with, and what follows it. The count of steps is never reached
when it exceeds the length of the text. -/
def value? : Nat → List Char → Option (Reading × List Char)
  | 0, _ => none
  | steps + 1, cs =>
    match cs with
    | '"' :: rest => (string? rest).map fun (s, rest) => (.str s, rest)
    | '[' :: rest =>
      match skipSpace rest with
      | ']' :: rest => some (.array [], rest)
      | rest => (items? steps rest).map fun (vs, rest) => (.array vs, rest)
    | '{' :: rest =>
      match skipSpace rest with
      | '}' :: rest => some (.object [], rest)
      | rest => (members? steps rest).map fun (ms, rest) => (.object (Members.ofWritten ms), rest)
    | cs => literal? cs

/-- The items of an array from one of them on. -/
def items? : Nat → List Char → Option (List Reading × List Char)
  | 0, _ => none
  | steps + 1, cs =>
    match value? steps cs with
    | none => none
    | some (v, rest) =>
      match skipSpace rest with
      | ',' :: rest => (items? steps (skipSpace rest)).map fun (vs, rest) => (v :: vs, rest)
      | ']' :: rest => some ([v], rest)
      | _ => none

/-- The members of an object from one of them on. -/
def members? : Nat → List Char → Option (Members Text.Codes × List Char)
  | 0, _ => none
  | steps + 1, cs =>
    match cs with
    | '"' :: rest =>
      match string? rest with
      | none => none
      | some (name, rest) =>
        match skipSpace rest with
        | ':' :: rest =>
          match value? steps (skipSpace rest) with
          | none => none
          | some (v, rest) =>
            match skipSpace rest with
            | ',' :: rest =>
              (members? steps (skipSpace rest)).map fun (ms, rest) => ((name, v) :: ms, rest)
            | '}' :: rest => some ([(name, v)], rest)
            | _ => none
        | _ => none
    | _ => none

end

end CloudIdentity.Document.Reader

namespace CloudIdentity.Document

/-- What a whole text says, with white space around it. -/
def read? (cs : List Char) : Option Reading :=
  match Reader.value? (cs.length + 1) (Reader.skipSpace cs) with
  | some (v, rest) => if (Reader.skipSpace rest).isEmpty then some v else none
  | none => none

def Reading.ofText? (s : String) : Option Reading := read? s.toList

/-- The value of a whole text. -/
def Value.ofText? (s : String) : Option Value := (Reading.ofText? s).bind Reading.value?

end CloudIdentity.Document

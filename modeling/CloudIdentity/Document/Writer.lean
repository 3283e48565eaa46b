import CloudIdentity.Decimal.Text
import CloudIdentity.Document.Value
import CloudIdentity.Text.Numeral

/-!
Values as JSON text on one line of printable ASCII. Every other character is escaped, those above
U+FFFF as a pair of surrogates. A foreign value has no text, and neither has an integer with too many
digits.
-/

namespace CloudIdentity.Document

/-- What stands after an item that is not the last, and between a member's name and its value. -/
structure Spacing where
  afterItem : List Char
  afterName : List Char

/-- Policy documents are written without spaces. -/
def compact : Spacing := ⟨[','], [':']⟩

/-- Log lines have a space after each comma and colon. -/
def spaced : Spacing := ⟨[',', ' '], [':', ' ']⟩

/-- Four hexadecimal digits, in lower case, of a 16-bit unit. -/
def unitDigits (n : Nat) : List Char :=
  [n / 4096 % 16, n / 256 % 16, n / 16 % 16, n % 16].map Nat.digitChar

def unitEscape (n : Nat) : List Char := '\\' :: 'u' :: unitDigits n

/-- A character inside quotes. -/
def escape (c : Char) : List Char :=
  let n := c.toNat
  if c = '"' ∨ c = '\\' then ['\\', c]
  else if c = '\n' then ['\\', 'n']
  else if c = '\r' then ['\\', 'r']
  else if c = '\t' then ['\\', 't']
  else if c = '\x08' then ['\\', 'b']
  else if c = '\x0c' then ['\\', 'f']
  else if 0x20 ≤ n ∧ n ≤ 0x7E then [c]
  else if n ≤ 0xFFFF then unitEscape n
  else
    unitEscape (0xD800 + (n - 0x10000) / 0x400) ++ unitEscape (0xDC00 + (n - 0x10000) % 0x400)

def quote (s : String) : List Char := '"' :: s.toList.flatMap escape ++ ['"']

/-- The text of infinity. -/
def infinity : List Char := "Infinity".toList

/-- The text of not-a-number. -/
def nan : List Char := "NaN".toList

namespace Value

mutual

/-- The text of a value; `none` if something without a text occurs in it. -/
def write? (spacing : Spacing) : Value → Option (List Char)
  | .null => some "null".toList
  | .bool b => some (if b then "true".toList else "false".toList)
  | .int n => if Text.FewDigits n then some (Text.integer n) else none
  | .float x => some (x.text infinity)
  | .notANumber _ => some nan
  | .str s => some (quote s)
  | .array items =>
    (writeItems? spacing items).map fun texts =>
      '[' :: spacing.afterItem.intercalate texts ++ [']']
  | .object members =>
    (writeMembers? spacing members).map fun texts =>
      '{' :: spacing.afterItem.intercalate texts ++ ['}']
  | .foreign _ => none

def writeItems? (spacing : Spacing) : List Value → Option (List (List Char))
  | [] => some []
  | v :: rest =>
    match write? spacing v, writeItems? spacing rest with
    | some text, some texts => some (text :: texts)
    | _, _ => none

def writeMembers? (spacing : Spacing) : List (String × Value) → Option (List (List Char))
  | [] => some []
  | (name, v) :: rest =>
    match write? spacing v, writeMembers? spacing rest with
    | some text, some texts => some ((quote name ++ spacing.afterName ++ text) :: texts)
    | _, _ => none

end

def text? (spacing : Spacing) (v : Value) : Option String :=
  (v.write? spacing).map String.ofList

mutual

/-- The first value without a text that comes up where a value is written. -/
def obstacle? : Value → Option Value
  | .int n => if Text.FewDigits n then none else some (.int n)
  | .array items => obstacleItems? items
  | .object members => obstacleMembers? members
  | .foreign label => some (.foreign label)
  | _ => none

def obstacleItems? : List Value → Option Value
  | [] => none
  | v :: rest => (obstacle? v).or (obstacleItems? rest)

def obstacleMembers? : List (String × Value) → Option Value
  | [] => none
  | (_, v) :: rest => (obstacle? v).or (obstacleMembers? rest)

end

end Value

end CloudIdentity.Document

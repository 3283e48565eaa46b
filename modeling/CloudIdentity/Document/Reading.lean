import CloudIdentity.Document.Value
import CloudIdentity.Text.Codes

/-!
What a JSON text says. A text can spell out half of a surrogate pair, and is then told from every
other; so the texts in what is read are given by numbers. A value says the same as one reading, and
a reading without such halves as one value.
-/

namespace CloudIdentity.Document

/-- A value as it is read: with the numbers of the characters of each text in it. -/
abbrev Reading := Value Text.Codes

namespace Value

mutual

/-- What a value says. -/
def spelled : Value → Reading
  | .null => .null
  | .bool b => .bool b
  | .int n => .int n
  | .float x => .float x
  | .notANumber interned => .notANumber interned
  | .str s => .str (Text.codes s)
  | .array items => .array (spelledItems items)
  | .object members => .object (spelledMembers members)
  | .foreign label => .foreign label

def spelledItems : List Value → List Reading
  | [] => []
  | v :: rest => spelled v :: spelledItems rest

def spelledMembers : Members → Members Text.Codes
  | [] => []
  | (name, v) :: rest => (Text.codes name, spelled v) :: spelledMembers rest

end

end Value

namespace Reading

mutual

/-- The value that says this, unless half of a surrogate pair stands alone in a text or a name. -/
def value? : Reading → Option Value
  | .null => some .null
  | .bool b => some (.bool b)
  | .int n => some (.int n)
  | .float x => some (.float x)
  | .notANumber interned => some (.notANumber interned)
  | .str s => (Text.ofCodes? s).map .str
  | .array items => (items? items).map .array
  | .object members => (members? members).map .object
  | .foreign label => some (.foreign label)

def items? : List Reading → Option (List Value)
  | [] => some []
  | r :: rest =>
    match value? r, items? rest with
    | some v, some more => some (v :: more)
    | _, _ => none

def members? : Members Text.Codes → Option Members
  | [] => some []
  | (name, r) :: rest =>
    match Text.ofCodes? name, value? r, members? rest with
    | some name, some v, some more => some ((name, v) :: more)
    | _, _, _ => none

end

end Reading

end CloudIdentity.Document

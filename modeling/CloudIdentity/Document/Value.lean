import CloudIdentity.Decimal.Binary64

/-!
Dynamic values: what a policy document, a configuration or a service response is made of. An
object keeps the order in which its members were written.
-/

namespace CloudIdentity.Document

open Decimal

/-- A JSON value, or something among such values that no JSON text stands for. The texts in it, names
included, are strings unless something else is said.

Not-a-number has two forms. An `interned` one is the single object that every reading of a text
yields; any other belongs to the caller who made it and is the same as nothing else. -/
inductive Value (τ : Type := String) where
  | null
  | bool (b : Bool)
  | int (n : Int)
  | float (x : Binary64)
  | notANumber (interned : Bool)
  | str (s : τ)
  | array (items : List (Value τ))
  | object (members : List (τ × Value τ))
  | foreign (label : String)
  deriving Inhabited, Repr

/-- The members of an object, in order. -/
abbrev Members (τ : Type := String) := List (τ × Value τ)

namespace Members

section

variable {τ : Type} [DecidableEq τ]

/-- Gives a member a value: in its place if there is one of that name, at the end otherwise. -/
def put (name : τ) (value : Value τ) : Members τ → Members τ
  | [] => [(name, value)]
  | (key, old) :: rest =>
    if key = name then (name, value) :: rest else (key, old) :: put name value rest

/-- Members as they were written one after another: of two with one name, the first keeps its place
and the last its value. -/
def ofWritten (written : Members τ) : Members τ :=
  written.foldl (fun members (name, value) => members.put name value) []

end

def erase (name : String) (members : Members) : Members :=
  members.filter fun (key, _) => key != name

/-- A member's value, null if there is none. -/
def get (members : Members) (name : String) : Value := (members.lookup name).getD .null

end Members

namespace Value

def ofText : Option String → Value
  | some s => .str s
  | none => .null

def ofTexts (texts : List String) : Value := .array (texts.map .str)

/-- The members of an object; none of any other value. -/
def members : Value → Members
  | .object members => members
  | _ => []

/-- The items of an array; none of any other value. -/
def items : Value → List Value
  | .array items => items
  | _ => []

/-- The text that a value is, empty if it is none. -/
def text : Value → String
  | .str s => s
  | _ => ""

def isNull : Value → Bool
  | .null => true
  | _ => false

/-- Whether a value counts as given: null, false, zero and what is empty do not. -/
def truthy : Value → Bool
  | .null => false
  | .bool b => b
  | .int n => n != 0
  | .float (.finite _ mantissa _) => mantissa != 0
  | .float (.infinite _) => true
  | .notANumber _ => true
  | .str s => s != ""
  | .array items => !items.isEmpty
  | .object members => !members.isEmpty
  | .foreign _ => true

end Value

end CloudIdentity.Document

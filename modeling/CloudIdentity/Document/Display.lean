import CloudIdentity.Decimal.Text
import CloudIdentity.Document.Value
import CloudIdentity.Text.Numeral
import CloudIdentity.Text.Quoted

/-!
How a value shows in a message: a text as it is, anything inside an array or an object with its
texts quoted.
-/

namespace CloudIdentity.Document.Value

mutual

/-- A value inside an array or an object. -/
def shown : Value → String
  | .null => "None"
  | .bool b => if b then "True" else "False"
  | .int n => String.ofList (Text.integer n)
  | .float x => String.ofList (x.text "inf".toList)
  | .notANumber _ => "nan"
  | .str s => Text.quoted s
  | .array items => "[" ++ ", ".intercalate (shownItems items) ++ "]"
  | .object members => "\x7b" ++ ", ".intercalate (shownMembers members) ++ "\x7d"
  | .foreign label => label

def shownItems : List Value → List String
  | [] => []
  | v :: rest => shown v :: shownItems rest

def shownMembers : List (String × Value) → List String
  | [] => []
  | (name, v) :: rest => (Text.quoted name ++ ": " ++ shown v) :: shownMembers rest

end

/-- A value on its own. -/
def display : Value → String
  | .str s => s
  | v => v.shown

end CloudIdentity.Document.Value

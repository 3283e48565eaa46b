import CloudIdentity.Document.Equality
import CloudIdentity.Failure.Basic
import CloudIdentity.Text.Affix

/-!
Taking values apart that were made elsewhere. A value that does not have the form a step expects
leads to a failure that tells what was found instead.
-/

namespace CloudIdentity.Document.Value

/-- The word for what a value is. -/
def typeWord : Value → String
  | .null => "NoneType"
  | .bool _ => "bool"
  | .int _ => "int"
  | .float _ | .notANumber _ => "float"
  | .str _ => "str"
  | .array _ => "list"
  | .object _ => "dict"
  | .foreign _ => "Opaque"

/-- A value is not of a type that a step needs. -/
def wrongType (text : String) : Failure := Failure.general .type text

/-- A value has no text, because of the first one in it that has none. -/
def noText (obstacle : Option Value) : Failure :=
  match obstacle with
  | some (.int _) =>
    Failure.general .value ("Exceeds the limit (4300 digits) for integer string conversion; use "
      ++ "sys.set_int_max_str_digits() to increase the limit")
  | _ => wrongType ("Object of type " ++ typeWord (.foreign "") ++ " is not JSON serializable")

/-- A value has no part of that name. -/
def noAttribute (name : String) (v : Value) : Failure :=
  Failure.general .noAttribute ("'" ++ typeWord v ++ "' object has no attribute '" ++ name ++ "'")

/-- The member of that name, which has to be there. -/
def member (name : String) : Value → Except Failure Value
  | .object members =>
    match members.lookup name with
    | some v => .ok v
    | none => .error (Failure.general .key name)
  | .array _ => .error (wrongType "list indices must be integers or slices, not str")
  | .str _ => .error (wrongType "string indices must be integers, not 'str'")
  | v => .error (wrongType ("'" ++ typeWord v ++ "' object is not subscriptable"))

/-- The member of that name, or `absent` where there is none. -/
def memberOr (v : Value) (name : String) (absent : Value) : Except Failure Value :=
  match v with
  | .object members => .ok ((members.lookup name).getD absent)
  | _ => .error (noAttribute "get" v)

/-- Whether a value holds a text: as the name of a member, as an element, or as a part. -/
def holds (text : String) : Value → Except Failure Bool
  | .object members => .ok (members.lookup text).isSome
  | .array items => .ok (items.any fun v => v.same (.str text))
  | .str s => .ok (Text.hasPart text s)
  | v => .error (wrongType ("argument of type '" ++ typeWord v ++ "' is not iterable"))

/-- The element at a position, which has to be there. An object is asked for a member, and none has
a number for its name. -/
def element (position : Nat) : Value → Except Failure Value
  | .array items =>
    match items[position]? with
    | some v => .ok v
    | none => .error (Failure.general .index "list index out of range")
  | .str s =>
    match s.toList[position]? with
    | some c => .ok (.str (String.singleton c))
    | none => .error (Failure.general .index "string index out of range")
  | .object _ => .error (Failure.raised .key (.int position))
  | v => .error (wrongType ("'" ++ typeWord v ++ "' object is not subscriptable"))

/-- The elements of a value that has some: those of an array, the characters of a text, the names in
an object. -/
def elements? : Value → Option (List Value)
  | .array items => some items
  | .str s => some (s.toList.map fun c => .str (String.singleton c))
  | .object members => some (members.map fun (name, _) => .str name)
  | _ => none

def elements (v : Value) : Except Failure (List Value) :=
  match v.elements? with
  | some items => .ok items
  | none => .error (wrongType ("'" ++ typeWord v ++ "' object is not iterable"))

/-- The two elements of a value that has just two. -/
def pair (v : Value) : Except Failure (Value × Value) :=
  match v.elements? with
  | none => .error (wrongType ("cannot unpack non-iterable " ++ typeWord v ++ " object"))
  | some [a, b] => .ok (a, b)
  | some items =>
    if items.length < 2 then
      .error (Failure.general .value ("not enough values to unpack (expected 2, got "
        ++ String.ofList (Nat.toDigits 10 items.length) ++ ")"))
    else .error (Failure.general .value "too many values to unpack (expected 2)")

/-- A value that something can be looked up by. Arrays and objects cannot be. -/
def lookupKey (v : Value) : Except Failure Value :=
  match v with
  | .array _ | .object _ => .error (wrongType ("unhashable type: '" ++ typeWord v ++ "'"))
  | _ => .ok v

@[simp] theorem lookupKey_str (s : String) : lookupKey (.str s) = .ok (.str s) := rfl

end CloudIdentity.Document.Value

import CloudIdentity.Document.Value
import CloudIdentity.Text.Numeral
import CloudIdentity.Validation.Checked

/-!
Readers that take a dynamic value to a typed one. Texts are taken as they are and never made from
anything else. Integers are read loosely: booleans count as one and zero, doubles without a
fraction and numerals count as the integer they stand for.
-/

namespace CloudIdentity.Validation

open Document Decimal

/-- A reader of values of one type. -/
abbrev Reader (α : Type) := Value → Checked α

namespace Reader

variable {α : Type}

def text : Reader String
  | .str s => pure s
  | _ => .refuse .notText

/-- Null, or what `read` accepts. -/
def nullable (read : Reader α) : Reader (Option α)
  | .null => pure none
  | v => some <$> read v

def itemsFrom (read : Reader α) (position : Nat) : List Value → Checked (List α)
  | [] => pure []
  | v :: rest =>
    List.cons <$> (read v).under (.index position) <*> itemsFrom read (position + 1) rest

def list (read : Reader α) : Reader (List α)
  | .array items => itemsFrom read 0 items
  | _ => .refuse .notList

/-- An object with any members. -/
def mapping : Reader Members
  | .object members => pure members
  | _ => .refuse .notObject

/-- An object whose members make up a record. -/
def record (read : Members → Checked α) : Reader α
  | .object members => read members
  | _ => .refuse .notRecord

/-- The bound below which, in size, a double is taken for an integer. -/
def integerBound : Rat := (Nat.pow 2 63 : Rat)

def wholeDouble (x : Binary64) : Checked Int :=
  match x.magnitude with
  | .unbounded _ => .refuse .notFinite
  | .exact q =>
    if q.den ≠ 1 then .refuse .fractional
    else if -integerBound < q ∧ q < integerBound then pure q.num
    else .refuse .oversizedInteger

def integer : Reader Int
  | .bool b => pure (if b then 1 else 0)
  | .int n => pure n
  | .float x => wholeDouble x
  | .notANumber _ => .refuse .notFinite
  | .str s =>
    match Text.Numeral.ofText s with
    | .integer n => pure n
    | .unreadable => .refuse .unreadableInteger
    | .tooLong => .refuse .oversizedInteger
  | _ => .refuse .notInteger

/-- An integer greater than zero. -/
def positive : Reader Int := fun v =>
  (integer v).andThen fun n => if 0 < n then pure n else .refuse .notPositive

end Reader

end CloudIdentity.Validation

/-! ## Records -/

namespace CloudIdentity.Document.Members

open Validation

variable {α : Type}

/-- The member of that name, or `absent` if there is none. -/
def field (members : Members) (name : String) (read : Reader α) (absent : Checked α) : Checked α :=
  match members.lookup name with
  | some v => (read v).under (.field name)
  | none => absent

def required (members : Members) (name : String) (read : Reader α) : Checked α :=
  field members name read (.refused [⟨.missing, [.field name]⟩])

def withDefault (members : Members) (name : String) (read : Reader α) (value : α) : Checked α :=
  field members name read (pure value)

/-- A member that may be absent or null. -/
def optional (members : Members) (name : String) (read : Reader α) : Checked (Option α) :=
  withDefault members name read.nullable none

/-- A complaint about each member whose name is not known, in the order of the members. -/
def strangers (known : List String) (members : Members) : List Complaint :=
  (members.filter fun (name, _) => !known.contains name).map fun (name, _) =>
    ⟨.unexpected, [.field name]⟩

/-- A record that has no members but the known ones. -/
def closed (known : List String) (members : Members) (body : Checked α) : Checked α :=
  match strangers known members with
  | [] => body
  | complaints => (fun a _ => a) <$> body <*> (.refused complaints : Checked Unit)

end CloudIdentity.Document.Members

namespace CloudIdentity.Validation

/-- The complaint about a change to a record after it was made. A name that begins with an
underscore is not part of the record. -/
def changeRefused? : List String → Option Complaint
  | [] => none
  | name :: rest =>
    if name.toList.head? = some '_' then changeRefused? rest
    else some ⟨.frozen, [.field name]⟩

end CloudIdentity.Validation

import CloudIdentity.Document.Access
import CloudIdentity.Document.Reader
import CloudIdentity.Document.Writer

/-!
Policy documents as a provider stores them: written as compact JSON text, handed back parsed or as
percent-encoded text, and compared by structure. Two documents differ unless they are equal as
values; where a text cannot be read, the texts themselves are compared. What is compared is what the
texts say, so texts with halves of surrogate pairs in them are told apart too.
-/

namespace CloudIdentity.Document

/-- The text of a value; an invalid argument, with the part `what` named, if it has none. -/
def serialize (what : String) (v : Value) : Except Failure String :=
  match v.text? compact with
  | some s => .ok s
  | none =>
    .error ((Failure.invalidArgument ("Failed to serialize " ++ what)).withCause
      (Value.noText v.obstacle?))

/-- A document as a provider hands it back. -/
inductive Stored where
  | absent
  | parsed (members : Members)
  | text (s : String)

namespace Stored

/-- The document as plain text. -/
def decode : Stored → Except Failure (Option String)
  | absent => .ok none
  | parsed members => some <$> serialize "policy document" (.object members)
  | text s => .ok (some (Text.Percent.decode s))

/-- Whether a stored document says something other than the text of a new one. -/
def differs (existing : Stored) (new : Option String) : Bool :=
  match existing, new with
  | absent, none => false
  | absent, some _ => true
  | _, none => true
  | parsed members, some t =>
    match Reading.ofText? t with
    | some v => !(Value.object members).spelled.equal v
    | none => true
  | text s, some t =>
    match Reading.ofText? (Text.Percent.decode s), Reading.ofText? t with
    | some a, some b => !a.equal b
    | _, _ => s != t

end Stored

end CloudIdentity.Document

import CloudIdentity.Document.Access
import CloudIdentity.Document.Stored

/-!
The policy document in a response. It may be missing, parsed, or percent-encoded text; anything else
is found out where it would be decoded.
-/

namespace CloudIdentity.Aws.Response

open Document

/-- A policy document in a response. -/
def stored : Value → Except Failure Stored
  | .null => .ok .absent
  | .object members => .ok (.parsed members)
  | .str s => .ok (.text s)
  | v => do
    if ← v.holds "%" then
      .error (Value.wrongType ("expected string or bytes-like object, got '" ++ v.typeWord ++ "'"))
    else .error (Value.noAttribute "split" v)

/-- Whether the document in a response says something other than a new one. -/
def differs (document : Value) (new : Option String) : Except Failure Bool :=
  match new with
  | some text => (fun existing => existing.differs (some text)) <$> stored document
  | none => .ok (!document.isNull)

end CloudIdentity.Aws.Response

import CloudIdentity.Text.Utf8

/-!
Percent-encoded text. `%XX` stands for an octet and every other ASCII character for its own; the
octets between two characters beyond ASCII are decoded together as UTF-8. A `%` that no two
hexadecimal digits follow stands for itself, and `+` is not a space.
-/

namespace CloudIdentity.Text.Percent

def hexDigit? (c : Char) : Option Nat :=
  if c.isDigit then some (c.toNat - '0'.toNat)
  else if 'a' ≤ c ∧ c ≤ 'f' then some (c.toNat - 'a'.toNat + 10)
  else if 'A' ≤ c ∧ c ≤ 'F' then some (c.toNat - 'A'.toNat + 10)
  else none

def octet? (a b : Char) : Option Nat := do
  let high ← hexDigit? a
  let low ← hexDigit? b
  pure (16 * high + low)

/-- Decodes what follows octets that have left the decoder in a state. -/
def decodeFrom (state : Utf8.State) : List Char → List Char
  | [] => Utf8.flush state
  | c :: rest =>
    if c = '%' then
      match rest with
      | a :: b :: more =>
        match octet? a b with
        | some octet =>
          let (out, state) := Utf8.feed state octet
          out ++ decodeFrom state more
        | none =>
          let (out, state) := Utf8.feed state '%'.toNat
          out ++ decodeFrom state (a :: b :: more)
      | short =>
        let (out, state) := Utf8.feed state '%'.toNat
        out ++ decodeFrom state short
    else if c.toNat ≤ 0x7F then
      let (out, state) := Utf8.feed state c.toNat
      out ++ decodeFrom state rest
    else Utf8.flush state ++ c :: decodeFrom .idle rest

def decode (s : String) : String := String.ofList (decodeFrom .idle s.toList)

end CloudIdentity.Text.Percent

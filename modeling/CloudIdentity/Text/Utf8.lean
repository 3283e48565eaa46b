/-!
UTF-8 decoding that never fails: each longest run of octets that could begin a character but does
not become one is replaced by U+FFFD. The decoder is a machine that takes one octet at a time.
-/

namespace CloudIdentity.Text.Utf8

def replacement : Char := '\uFFFD'

/-- Where the decoder stands: between characters, or inside one whose bits so far are `bits`, that
wants `more` octets, the next of them between `low` and `high`. -/
inductive State where
  | idle
  | inside (more bits low high : Nat)
  deriving DecidableEq, Repr

/-- The octet that a character begins with. The bounds on the next octet exclude long forms of
short characters, surrogates, and numbers above U+10FFFF. -/
def start (octet : Nat) : List Char × State :=
  if octet ≤ 0x7F then ([Char.ofNat octet], .idle)
  else if octet < 0xC2 then ([replacement], .idle)
  else if octet ≤ 0xDF then ([], .inside 1 (octet - 0xC0) 0x80 0xBF)
  else if octet = 0xE0 then ([], .inside 2 0 0xA0 0xBF)
  else if octet = 0xED then ([], .inside 2 0xD 0x80 0x9F)
  else if octet ≤ 0xEF then ([], .inside 2 (octet - 0xE0) 0x80 0xBF)
  else if octet = 0xF0 then ([], .inside 3 0 0x90 0xBF)
  else if octet ≤ 0xF3 then ([], .inside 3 (octet - 0xF0) 0x80 0xBF)
  else if octet = 0xF4 then ([], .inside 3 4 0x80 0x8F)
  else ([replacement], .idle)

/-- The characters that one more octet completes. -/
def feed : State → Nat → List Char × State
  | .idle, octet => start octet
  | .inside more bits low high, octet =>
    if low ≤ octet ∧ octet ≤ high then
      let bits := bits * 64 + (octet - 0x80)
      if more ≤ 1 then ([Char.ofNat bits], .idle) else ([], .inside (more - 1) bits 0x80 0xBF)
    else
      let (out, state) := start octet
      (replacement :: out, state)

/-- What an unfinished character leaves behind when the octets end. -/
def flush : State → List Char
  | .idle => []
  | .inside .. => [replacement]

end CloudIdentity.Text.Utf8

/-!
Blank characters and blank texts. Names are trimmed by `isBlank`; numerals are trimmed by the
narrower `isWhiteSpace`, which leaves out the four information separators.
-/

namespace CloudIdentity.Text

/-- The Unicode property White_Space. -/
def isWhiteSpace (c : Char) : Bool :=
  let n := c.toNat
  decide (0x09 ≤ n ∧ n ≤ 0x0D) || n == 0x20 || n == 0x85 || n == 0xA0 || n == 0x1680
    || decide (0x2000 ≤ n ∧ n ≤ 0x200A) || n == 0x2028 || n == 0x2029 || n == 0x202F
    || n == 0x205F || n == 0x3000

/-- White space, or one of the information separators U+001C to U+001F. -/
def isBlank (c : Char) : Bool :=
  isWhiteSpace c || decide (0x1C ≤ c.toNat ∧ c.toNat ≤ 0x1F)

/-- The characters left when those that satisfy `p` are taken off both ends. -/
def trimmed (p : Char → Bool) (cs : List Char) : List Char :=
  ((cs.dropWhile p).reverse.dropWhile p).reverse

def strip (s : String) : String := String.ofList (trimmed isBlank s.toList)

/-- Whether a text has no character, or only blank ones. -/
def blank (s : String) : Bool := s.toList.all isBlank

/-- A text that is there and is not blank. -/
def filled? : Option String → Option String
  | some s => if blank s then none else some s
  | none => none

theorem blank_append (s t : String) : blank (s ++ t) = (blank s && blank t) := by
  simp only [blank, String.toList_append, List.all_append]

theorem filled?_of_not_blank {s : String} (h : blank s = false) : filled? (some s) = some s := by
  simp [filled?, h]

theorem filled?_eq_some_iff {text : Option String} {s : String} :
    filled? text = some s ↔ text = some s ∧ blank s = false := by
  constructor
  · intro h
    unfold filled? at h
    split at h
    · split at h
      · cases h
      · next hblank =>
        obtain rfl := Option.some.inj h
        exact ⟨rfl, by simpa using hblank⟩
    · cases h
  · rintro ⟨rfl, h⟩
    exact filled?_of_not_blank h

theorem not_blank_iff {s : String} : blank s = false ↔ ∃ c ∈ s.toList, isBlank c = false := by
  simp [blank]

end CloudIdentity.Text

/-!
Texts by the numbers of their characters. A number may be that of half of a surrogate pair, which
is no character; a text with such a half standing alone in it is no string.
-/

namespace CloudIdentity.Text

/-- A text by the numbers of its characters and of the halves that stand alone. -/
structure Codes where
  toList : List Nat
  deriving DecidableEq, Repr

/-- The numbers of the characters of a string. -/
def codes (s : String) : Codes := ⟨s.toList.map Char.toNat⟩

/-- The string with these characters, unless a half stands alone among them. -/
def ofCodes? (c : Codes) : Option String :=
  let s := String.ofList (c.toList.map Char.ofNat)
  if codes s = c then some s else none

theorem codes_inj {s t : String} : codes s = codes t ↔ s = t := by
  have hlist : s.toList.map Char.toNat = t.toList.map Char.toNat ↔ s.toList = t.toList :=
    List.map_inj_right fun _ _ => Char.toNat_inj.mp
  rw [codes, codes, Codes.mk.injEq, hlist, String.toList_inj]

theorem ofCodes?_codes (s : String) : ofCodes? (codes s) = some s := by
  have hself : String.ofList ((codes s).toList.map Char.ofNat) = s := by
    simp [codes, Function.comp_def]
  rw [ofCodes?]
  simp only [hself, if_true]

theorem codes_of_ofCodes? {c : Codes} {s : String} (h : ofCodes? c = some s) : codes s = c := by
  unfold ofCodes? at h
  dsimp only at h
  split at h
  · next hself =>
    obtain rfl := Option.some.inj h
    exact hself
  · cases h

end CloudIdentity.Text

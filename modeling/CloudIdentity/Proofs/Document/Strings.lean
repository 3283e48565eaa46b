import CloudIdentity.Document.Reader
import CloudIdentity.Document.Writer
import CloudIdentity.Proofs.Text.PercentEncoding
import Mathlib.Tactic.SplitIfs

/-!
Strings survive being written and read. Each character is written as one or two pieces of a quoted
text, whatever follows them, and assembling the pieces gives its number back; that of a character
above U+FFFF comes back from its two surrogates. Any quoted text is read as the same, whatever
follows it.
-/

namespace CloudIdentity.Document.Reader

/-- What is read from `text` is `ps`, whatever stands behind it. -/
def Spells (text : List Char) (ps : List Piece) : Prop :=
  ∀ rest, pieces? (text ++ rest) = (pieces? rest).map fun (more, tail) => (ps ++ more, tail)

/-- The pieces are assembled to one character, whatever stands behind them. -/
def Assembles (ps : List Piece) (c : Char) : Prop :=
  ∀ more, assemble (ps ++ more) = c.toNat :: assemble more

theorem spells_char {c : Char} (hquote : c ≠ '"') (hslash : c ≠ '\\') (hplain : 0x20 ≤ c.toNat) :
    Spells [c] [.char c] := by
  intro rest
  rw [List.singleton_append, pieces?.eq_def]
  simp only [if_neg hquote, if_neg hslash, if_neg (Nat.not_lt.mpr hplain)]
  rfl

theorem spells_simpleEscape {e c : Char} (h : simpleEscape? e = some c) :
    Spells ['\\', e] [.char c] := by
  intro rest
  rw [List.cons_append, List.singleton_append, pieces?.eq_def]
  have hunit : e ≠ 'u' := by
    rintro rfl
    simp [simpleEscape?] at h
  simp only [Char.reduceEq, if_false, if_true]
  split
  · next hcons => exact absurd (List.cons.inj hcons).1 hunit
  · next hcons =>
    obtain ⟨rfl, rfl⟩ := List.cons.inj hcons
    rw [h]
    rfl
  · next hcons => exact absurd hcons (List.cons_ne_nil _ _)

theorem spells_unit {a b c d : Char} {n : Nat} (h : unit? a b c d = some n) :
    Spells ['\\', 'u', a, b, c, d] [.unit n] := by
  intro rest
  rw [pieces?.eq_def]
  simp only [List.cons_append, List.nil_append, Char.reduceEq, if_false, if_true, h]

theorem unit?_digits {n : Nat} (h : n < 0x10000) :
    unit? (Nat.digitChar (n / 4096 % 16)) (Nat.digitChar (n / 256 % 16))
      (Nat.digitChar (n / 16 % 16)) (Nat.digitChar (n % 16)) = some n := by
  have hhigh : Text.Percent.octet? (Nat.digitChar (n / 4096 % 16)) (Nat.digitChar (n / 256 % 16)) =
      some (n / 256) :=
    Text.Percent.octet?_eq_some (by omega) (Or.inl (by congr 1; omega)) (Or.inl rfl)
  have hlow : Text.Percent.octet? (Nat.digitChar (n / 16 % 16)) (Nat.digitChar (n % 16)) =
      some (n % 256) :=
    Text.Percent.octet?_eq_some (by omega) (Or.inl (by congr 1; omega))
      (Or.inl (by congr 1; omega))
  have hsum : 256 * (n / 256) + n % 256 = n := Nat.div_add_mod n 256
  rw [unit?, hhigh, hlow]
  simp [hsum]

theorem spells_unitEscape {n : Nat} (h : n < 0x10000) : Spells (unitEscape n) [.unit n] :=
  spells_unit (unit?_digits h)

theorem Spells.append {text text' : List Char} {ps ps' : List Piece} (h : Spells text ps)
    (h' : Spells text' ps') : Spells (text ++ text') (ps ++ ps') := by
  intro rest
  rw [List.append_assoc, h, h', Option.map_map]
  congr 1
  funext more
  simp

theorem assembles_char (c : Char) : Assembles [.char c] c := fun _ => rfl

/-- A character up to U+FFFF is no surrogate, so its unit does not wait for another. -/
theorem assembles_unit {c : Char} (h : c.toNat ≤ 0xFFFF) : Assembles [.unit c.toNat] c := by
  intro more
  have hvalid := Text.Utf8.toNat_cases c
  have hhigh : isHigh c.toNat = false := decide_eq_false (by omega)
  rw [List.singleton_append, assemble.eq_def]
  cases more with
  | nil => rfl
  | cons p rest => cases p <;> simp [hhigh]

theorem assembles_surrogates {c : Char} (h : 0xFFFF < c.toNat) :
    Assembles [.unit (0xD800 + (c.toNat - 0x10000) / 0x400),
      .unit (0xDC00 + (c.toNat - 0x10000) % 0x400)] c := by
  intro more
  have hvalid := Text.Utf8.toNat_cases c
  have hhigh : isHigh (0xD800 + (c.toNat - 0x10000) / 0x400) = true := decide_eq_true (by omega)
  have hlow : isLow (0xDC00 + (c.toNat - 0x10000) % 0x400) = true := decide_eq_true (by omega)
  have hnumber : 0x10000 + (0xD800 + (c.toNat - 0x10000) / 0x400 - 0xD800) * 0x400 +
      (0xDC00 + (c.toNat - 0x10000) % 0x400 - 0xDC00) = c.toNat := by omega
  rw [List.cons_append, List.cons_append, assemble.eq_def]
  simp only [hhigh, hlow, Bool.and_self, if_true, hnumber, List.nil_append]

/-- What a character is written as is read as that character. -/
theorem escape_spells (c : Char) : ∃ ps, Spells (escape c) ps ∧ Assembles ps c := by
  have hsimple : ∀ e, simpleEscape? e = some c → ∃ ps, Spells ['\\', e] ps ∧ Assembles ps c :=
    fun e he => ⟨_, spells_simpleEscape he, assembles_char c⟩
  unfold escape
  dsimp only
  split_ifs with hself hnewline hreturn htab hback hfeed hprintable hbasic
  · apply hsimple c
    rcases hself with rfl | rfl <;> rfl
  · exact hsimple 'n' (hnewline ▸ rfl)
  · exact hsimple 'r' (hreturn ▸ rfl)
  · exact hsimple 't' (htab ▸ rfl)
  · exact hsimple 'b' (hback ▸ rfl)
  · exact hsimple 'f' (hfeed ▸ rfl)
  · obtain ⟨hquote, hslash⟩ := not_or.mp hself
    exact ⟨_, spells_char hquote hslash hprintable.1, assembles_char c⟩
  · exact ⟨_, spells_unitEscape (Nat.lt_succ_of_le hbasic), assembles_unit hbasic⟩
  · have hvalid := Text.Utf8.toNat_cases c
    exact ⟨_, (spells_unitEscape (by omega)).append (spells_unitEscape (by omega)),
      assembles_surrogates (Nat.lt_of_not_le hbasic)⟩

theorem pieces?_escaped (cs rest : List Char) :
    ∃ ps, pieces? (cs.flatMap escape ++ '"' :: rest) = some (ps, rest) ∧
      assemble ps = cs.map Char.toNat := by
  induction cs with
  | nil => exact ⟨[], by simp [pieces?.eq_def], rfl⟩
  | cons c cs ih =>
    obtain ⟨ps, hps, hcs⟩ := ih
    obtain ⟨head, hspells, hassembles⟩ := escape_spells c
    refine ⟨head ++ ps, ?_, ?_⟩
    · rw [List.flatMap_cons, List.append_assoc, hspells, hps]
      rfl
    · rw [hassembles, hcs, List.map_cons]

/-- A written string is read back, up to its closing quote. -/
theorem string?_escaped (s : String) (rest : List Char) :
    string? (s.toList.flatMap escape ++ '"' :: rest) = some (Text.codes s, rest) := by
  obtain ⟨ps, hps, hs⟩ := pieces?_escaped s.toList rest
  rw [string?, hps]
  simp only [Option.map_some, hs, Text.codes]

/-! ## Strings in a text -/

/-- What begins a text and is read from it is there whatever follows. -/
theorem Spells.token {head more text rest : List Char} {p : Piece} {ps : List Piece}
    (h : Spells head [p]) (hmore : more = text ++ rest)
    (htext : ∀ rest', pieces? (text ++ rest') = some (ps, rest')) :
    ∃ text', head ++ more = text' ++ rest ∧
      ∀ rest', pieces? (text' ++ rest') = some (p :: ps, rest') := by
  refine ⟨head ++ text, by rw [hmore, List.append_assoc], fun rest' => ?_⟩
  rw [List.append_assoc, h, htext]
  rfl

/-- The pieces up to a closing quote are read as the same, whatever stands behind it. -/
theorem pieces?_token {cs rest : List Char} {ps : List Piece} (h : pieces? cs = some (ps, rest)) :
    ∃ text, cs = text ++ rest ∧ ∀ rest', pieces? (text ++ rest') = some (ps, rest') := by
  fun_induction pieces? cs generalizing ps rest with
  | case1 => cases h
  | case2 more =>
    cases h
    exact ⟨['"'], rfl, fun rest' => by simp [pieces?.eq_def]⟩
  | case3 a b c d more n hunit _ ih =>
    obtain ⟨⟨qs, tail⟩, hmore, heq⟩ := Option.map_eq_some_iff.mp h
    cases heq
    obtain ⟨text, hsplit, htext⟩ := ih hmore
    exact (spells_unit hunit).token hsplit htext
  | case4 => cases h
  | case5 e more _ c hescape _ ih =>
    obtain ⟨⟨qs, tail⟩, hmore, heq⟩ := Option.map_eq_some_iff.mp h
    cases heq
    obtain ⟨text, hsplit, htext⟩ := ih hmore
    exact (spells_simpleEscape hescape).token hsplit htext
  | case6 => cases h
  | case7 => cases h
  | case8 => cases h
  | case9 c more hquote hslash hplain ih =>
    obtain ⟨⟨qs, tail⟩, hmore, heq⟩ := Option.map_eq_some_iff.mp h
    cases heq
    obtain ⟨text, hsplit, htext⟩ := ih hmore
    exact (spells_char hquote hslash (Nat.not_lt.mp hplain)).token hsplit htext

/-- A string is read as the same, whatever stands behind its closing quote. -/
theorem string?_token {cs rest : List Char} {s : Text.Codes} (h : string? cs = some (s, rest)) :
    ∃ text, cs = text ++ rest ∧ ∀ rest', string? (text ++ rest') = some (s, rest') := by
  obtain ⟨⟨ps, tail⟩, hpieces, heq⟩ := Option.map_eq_some_iff.mp h
  cases heq
  obtain ⟨text, hsplit, htext⟩ := pieces?_token hpieces
  exact ⟨text, hsplit, fun rest' => by rw [string?, htext, Option.map_some]⟩

end CloudIdentity.Document.Reader

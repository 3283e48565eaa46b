import CloudIdentity.Proofs.Document.RoundTrip

/-!
The text of a value is printable ASCII, whatever the value holds: what is written between quotes is
escaped, and everything else is digits, letters and punctuation. So a text has no line break, and no
character of it can be taken for the end of a line or for a control sequence.
-/

namespace CloudIdentity.Document

open Decimal

/-- No character is a control character, and none lies beyond ASCII. -/
def Printable (text : List Char) : Prop := ∀ c ∈ text, 0x20 ≤ c.toNat ∧ c.toNat < 0x7F

instance (text : List Char) : Decidable (Printable text) :=
  List.decidableBAll (fun c : Char => 0x20 ≤ c.toNat ∧ c.toNat < 0x7F) text

namespace Printable

variable {text more : List Char}

theorem nil : Printable [] := fun _ hc => absurd hc List.not_mem_nil

theorem cons {c : Char} (hc : 0x20 ≤ c.toNat ∧ c.toNat < 0x7F) (h : Printable text) :
    Printable (c :: text) :=
  List.forall_mem_cons.mpr ⟨hc, h⟩

theorem append (h : Printable text) (hmore : Printable more) : Printable (text ++ more) :=
  List.forall_mem_append.mpr ⟨h, hmore⟩

theorem intercalate {separator : List Char} {texts : List (List Char)}
    (hseparator : Printable separator) (h : ∀ text ∈ texts, Printable text) :
    Printable (separator.intercalate texts) := by
  induction texts with
  | nil => exact nil
  | cons text texts ih =>
    obtain ⟨hhead, htail⟩ := List.forall_mem_cons.mp h
    cases texts with
    | nil => rwa [List.intercalate_singleton]
    | cons text' texts =>
      rw [List.intercalate_cons_cons]
      exact (hhead.append hseparator).append (ih htail)

/-! ## Digits -/

theorem of_isDigit (h : ∀ c ∈ text, c.isDigit = true) : Printable text := by
  intro c hc
  have hdigit := h c hc
  rw [Char.isDigit, Bool.and_eq_true, decide_eq_true_eq, decide_eq_true_eq] at hdigit
  obtain ⟨hlow, hhigh⟩ := hdigit
  have hlow : 48 ≤ c.toNat := UInt32.le_iff_toNat_le.mp hlow
  have hhigh : c.toNat ≤ 57 := UInt32.le_iff_toNat_le.mp hhigh
  omega

theorem toDigits (n : Nat) : Printable (Nat.toDigits 10 n) :=
  of_isDigit fun _ => Reader.isDigit_of_mem_toDigits

theorem integer (n : Int) : Printable (Text.integer n) := by
  cases n with
  | ofNat n => exact toDigits n
  | negSucc n => exact cons (by decide) (toDigits (n + 1))

theorem hexDigit (n : Nat) : Printable [Nat.digitChar (n % 16)] := by
  have hdigits : ∀ d < 16, Printable [Nat.digitChar d] := by decide
  exact hdigits (n % 16) (Nat.mod_lt n (by omega))

theorem unitEscape (n : Nat) : Printable (Document.unitEscape n) := by
  have hdigits : Printable (unitDigits n) :=
    (hexDigit _).append ((hexDigit _).append ((hexDigit _).append (hexDigit _)))
  exact cons (by decide) (cons (by decide) hdigits)

/-! ## Strings -/

theorem escape (c : Char) : Printable (Document.escape c) := by
  unfold Document.escape
  dsimp only
  split_ifs with hself _ _ _ _ _ hplain _
  · rcases hself with rfl | rfl <;> decide
  · decide
  · decide
  · decide
  · decide
  · decide
  · exact cons ⟨hplain.1, Nat.lt_succ_of_le hplain.2⟩ nil
  · exact unitEscape _
  · exact (unitEscape _).append (unitEscape _)

theorem quote (s : String) : Printable (Document.quote s) := by
  have hescaped : Printable (s.toList.flatMap Document.escape) := by
    intro c hc
    obtain ⟨d, _, hd⟩ := List.mem_flatMap.mp hc
    exact escape d c hd
  exact cons (by decide) (hescaped.append (by decide))

/-! ## Doubles -/

theorem exponentText (e : Int) : Printable (Decimal.exponentText e) := by
  have hdigits : Printable (exponentDigits e.natAbs) :=
    of_isDigit fun _ => Reader.isDigit_of_mem_exponentDigits
  have hsign : Printable [if e < 0 then '-' else '+'] := by split <;> decide
  exact cons (by decide) (hsign.append hdigits)

theorem positional {digits : List Char} (h : Printable digits) (point : Int) :
    Printable (Decimal.positional digits point) := by
  have hzeros (n : Nat) : Printable (List.replicate n '0') :=
    of_isDigit fun _ => Reader.isDigit_of_mem_zeros
  unfold Decimal.positional
  dsimp only
  split_ifs
  · exact cons (by decide) (cons (by decide) ((hzeros _).append h))
  · exact (h.append (hzeros _)).append (by decide)
  · have htake : Printable (digits.take point.toNat) := fun c hc => h c (List.mem_of_mem_take hc)
    have hdrop : Printable (digits.drop point.toNat) := fun c hc => h c (List.mem_of_mem_drop hc)
    exact htake.append (cons (by decide) hdrop)

theorem scientific {digits : List Char} (h : Printable digits) (point : Int) :
    Printable (Decimal.scientific digits point) := by
  unfold Decimal.scientific
  split
  · exact exponentText _
  · exact h.append (exponentText _)
  · obtain ⟨hfirst, hrest⟩ := List.forall_mem_cons.mp h
    exact cons hfirst (cons (by decide) (append hrest (exponentText _)))

theorem double (x : Binary64) : Printable (x.text infinity) := by
  have hscaled (d : Scaled) : Printable d.text := by
    unfold Scaled.text
    dsimp only
    split_ifs
    · decide
    · exact positional (toDigits _) _
    · exact scientific (toDigits _) _
  have hinfinity : Printable infinity := by decide
  cases x with
  | infinite negative =>
    cases negative
    · exact hinfinity
    · exact cons (by decide) hinfinity
  | finite negative mantissa exponent =>
    cases negative
    · exact hscaled _
    · exact cons (by decide) (hscaled _)

/-! ## Values -/

variable {spacing : Spacing}

theorem of_writeItems? {items : List Value} {texts : List (List Char)}
    (hitems : ∀ v ∈ items, ∀ text, v.write? spacing = some text → Printable text)
    (h : Value.writeItems? spacing items = some texts) : ∀ text ∈ texts, Printable text := by
  induction items generalizing texts with
  | nil =>
    obtain rfl : texts = [] := (Option.some.inj h).symm
    exact fun _ htext => absurd htext List.not_mem_nil
  | cons v items ih =>
    obtain ⟨text, more, htext, hmore, rfl⟩ := Value.writeItems?_cons h
    obtain ⟨hhead, htail⟩ := List.forall_mem_cons.mp hitems
    exact List.forall_mem_cons.mpr ⟨hhead text htext, ih htail hmore⟩

theorem of_writeMembers? {members : Members} {texts : List (List Char)}
    (hname : Printable spacing.afterName)
    (hmembers : ∀ m ∈ members, ∀ text, m.2.write? spacing = some text → Printable text)
    (h : Value.writeMembers? spacing members = some texts) : ∀ text ∈ texts, Printable text := by
  induction members generalizing texts with
  | nil =>
    obtain rfl : texts = [] := (Option.some.inj h).symm
    exact fun _ htext => absurd htext List.not_mem_nil
  | cons m members ih =>
    obtain ⟨name, v⟩ := m
    obtain ⟨text, more, htext, hmore, rfl⟩ := Value.writeMembers?_cons h
    obtain ⟨hhead, htail⟩ := List.forall_mem_cons.mp hmembers
    exact List.forall_mem_cons.mpr
      ⟨((quote name).append hname).append (hhead text htext), ih htail hmore⟩

/-- The text of a value is printable if what stands between its parts is. -/
theorem of_write? (hitem : Printable spacing.afterItem) (hname : Printable spacing.afterName)
    (v : Value) : ∀ text, v.write? spacing = some text → Printable text := by
  induction v using Value.nested_induction with
  | leaf v hleaf =>
    intro text htext
    cases v with
    | array items => cases hleaf
    | object members => cases hleaf
    | foreign label => cases htext
    | null =>
      obtain rfl := Option.some.inj htext
      decide
    | bool b =>
      obtain rfl := Option.some.inj htext
      cases b <;> decide
    | int n =>
      obtain ⟨_, rfl⟩ := Value.write?_int_eq_some_iff.mp htext
      exact integer n
    | float x =>
      obtain rfl := Option.some.inj htext
      exact double x
    | notANumber interned =>
      obtain rfl := Option.some.inj htext
      decide
    | str s =>
      obtain rfl := Option.some.inj htext
      exact quote s
  | array items ih =>
    intro text htext
    obtain ⟨texts, htexts, rfl⟩ := Option.map_eq_some_iff.mp htext
    have hjoined := intercalate hitem (of_writeItems? ih htexts)
    exact cons (by decide) (hjoined.append (by decide))
  | object members ih =>
    intro text htext
    obtain ⟨texts, htexts, rfl⟩ := Option.map_eq_some_iff.mp htext
    have hjoined := intercalate hitem (of_writeMembers? hname ih htexts)
    exact cons (by decide) (hjoined.append (by decide))

end Printable

end CloudIdentity.Document

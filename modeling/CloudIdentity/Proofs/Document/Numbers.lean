import CloudIdentity.Decimal.Text
import CloudIdentity.Document.Reader
import CloudIdentity.Document.Writer
import Mathlib.Data.List.TakeWhile
import Mathlib.Data.Nat.Digits.Defs
import Mathlib.Tactic.SplitIfs

/-!
Numbers survive being written and read. An integer is read as itself, unless it has too many digits
to be read at all. A double is written with a point or an exponent, so it is read as a double again,
and as the same one wherever it stands.
-/

namespace CloudIdentity.Document

open Decimal

namespace Reader

/-- The text does not go on with a digit. -/
def Undigited (rest : List Char) : Prop := ∀ c ∈ rest.head?, c.isDigit = false

/-- Digits that can stand in front of a point: at least one, the first of which is no needless
zero. -/
structure Whole (digits : List Char) : Prop where
  digit : ∀ c ∈ digits, c.isDigit = true
  ne_nil : digits ≠ []
  lone : digits.head? = some '0' → digits = ['0']

variable {cs rest : List Char} {power : Option Int}

/-- A value ends here: with the text, at a blank, or at what closes or goes on with an array or an
object. -/
def Ended (rest : List Char) : Prop :=
  ∀ c ∈ rest.head?, isSpace c = true ∨ c = ',' ∨ c = ']' ∨ c = '}'

theorem ended_nil : Ended [] := by simp [Ended]

theorem isSpace_iff {c : Char} : isSpace c = true ↔ c = ' ' ∨ c = '\t' ∨ c = '\n' ∨ c = '\r' := by
  simp [isSpace, or_assoc]

theorem Ended.head_cases {c : Char} (h : Ended (c :: rest)) :
    c ∈ [' ', '\t', '\n', '\r', ',', ']', '}'] := by
  have hc := h c rfl
  rw [isSpace_iff] at hc
  simpa [or_assoc] using hc

theorem Ended.undigited (h : Ended rest) : Undigited rest := by
  intro c hc
  cases rest with
  | nil => cases hc
  | cons d rest =>
    obtain rfl := Option.some.inj hc
    have hplain : ∀ c ∈ [' ', '\t', '\n', '\r', ',', ']', '}'], c.isDigit = false := by simp
    exact hplain d h.head_cases

theorem takeWhile_digits {digits : List Char} (hdigits : ∀ c ∈ digits, c.isDigit = true)
    (hrest : Undigited rest) : (digits ++ rest).takeWhile Char.isDigit = digits := by
  rw [List.takeWhile_append_of_pos hdigits]
  cases rest with
  | nil => simp
  | cons c rest => simp [hrest c rfl]

theorem dropWhile_digits {digits : List Char} (hdigits : ∀ c ∈ digits, c.isDigit = true)
    (hrest : Undigited rest) : (digits ++ rest).dropWhile Char.isDigit = rest := by
  rw [List.dropWhile_append_of_pos hdigits]
  cases rest with
  | nil => rfl
  | cons c rest => simp [hrest c rfl]

/-! ## The digits of a number -/

theorem isDigit_of_mem_toDigits {n : Nat} {c : Char} (h : c ∈ Nat.toDigits 10 n) :
    c.isDigit = true :=
  Nat.isDigit_of_mem_toDigits (by omega) (by omega) h

theorem head?_toDigits {n : Nat} (h : n ≠ 0) : (Nat.toDigits 10 n).head? ≠ some '0' := by
  induction n using Nat.strongRecOn with
  | ind n ih =>
    by_cases hlarge : 10 ≤ n
    · have hhead := ih (n / 10) (by omega) (by omega)
      obtain ⟨c, ds, hds⟩ := List.exists_cons_of_ne_nil (Nat.toDigits_ne_nil (n := n / 10) (b := 10))
      rw [Nat.toDigits_of_base_le (by omega) hlarge]
      rwa [hds] at hhead ⊢
    · rw [Nat.toDigits_of_lt_base (by omega)]
      simpa using h

theorem whole_toDigits (n : Nat) : Whole (Nat.toDigits 10 n) where
  digit _ hc := isDigit_of_mem_toDigits hc
  ne_nil := Nat.toDigits_ne_nil
  lone hzero := by
    by_cases h : n = 0
    · rw [h, Nat.toDigits_zero]
    · exact absurd hzero (head?_toDigits h)

theorem Whole.wholePart? {digits : List Char} (h : Whole digits) (hrest : Undigited rest) :
    wholePart? (digits ++ rest) = some (digits, rest) := by
  have htake := takeWhile_digits h.digit hrest
  have hdrop := dropWhile_digits h.digit hrest
  unfold Reader.wholePart?
  split
  · next more hcons =>
    cases digits with
    | nil => exact absurd rfl h.ne_nil
    | cons c ds =>
      obtain ⟨rfl, rfl⟩ := List.cons.inj hcons
      have hlone := h.lone rfl
      obtain rfl : ds = [] := (List.cons.inj hlone).2
      rfl
  · rw [htake, hdrop]
    cases digits with
    | nil => exact absurd rfl h.ne_nil
    | cons c ds => rfl

/-! ## What stands behind the digits -/

/-- What may stand behind the digits after a point: a power of ten, or nothing. -/
structure Tail (tail rest : List Char) (power : Option Int) : Prop where
  undigited : Undigited tail
  pointless : fraction tail = ([], tail)
  exponent : exponent tail = (power, rest)

theorem Ended.fraction (h : Ended rest) : fraction rest = ([], rest) := by
  unfold Reader.fraction
  split
  · next hcons => simpa using h.head_cases
  · rfl

theorem Ended.exponent (h : Ended rest) : exponent rest = (none, rest) := by
  cases rest with
  | nil => rfl
  | cons c rest =>
    have hplain : ∀ c ∈ [' ', '\t', '\n', '\r', ',', ']', '}'], ¬(c = 'e' ∨ c = 'E') := by simp
    unfold Reader.exponent
    simp only [if_neg (hplain c h.head_cases)]

theorem Ended.tail (h : Ended rest) : Tail rest rest none := ⟨h.undigited, h.fraction, h.exponent⟩

/-! ## Integers -/

/-- Digits are read as an integer, and not at all where they are too many. -/
theorem unsignedNumber?_whole (negative : Bool) {whole tail : List Char} (hwhole : Whole whole)
    (htail : Tail tail rest none) :
    unsignedNumber? negative (whole ++ tail) =
      if whole.length ≤ Text.maxDigits then
        some (.int (if negative then -(Nat.ofDigitChars 10 whole 0 : Int)
          else Nat.ofDigitChars 10 whole 0), rest)
      else none := by
  rw [unsignedNumber?, hwhole.wholePart? htail.undigited]
  simp only [htail.pointless, htail.exponent, List.isEmpty_nil, Option.isNone_none, Bool.and_self,
    if_true]

theorem unsignedNumber?_toDigits (negative : Bool) {n : Nat}
    (hfew : (Nat.toDigits 10 n).length ≤ Text.maxDigits) (hrest : Ended rest) :
    unsignedNumber? negative (Nat.toDigits 10 n ++ rest) =
      some (.int (if negative then -n else n), rest) := by
  rw [unsignedNumber?_whole negative (whole_toDigits n) hrest.tail, if_pos hfew,
    Nat.ofDigitChars_ten_toDigits]

/-- What is read without a sign does not begin with one. -/
theorem number?_of_unsigned {cs : List Char} {result : Reading × List Char}
    (h : unsignedNumber? false cs = some result) : number? cs = some result := by
  unfold number?
  split
  · next more =>
    have hminus : unsignedNumber? false ('-' :: more) = none := rfl
    rw [hminus] at h
    cases h
  · exact h

theorem number?_integer {n : Int} (hfew : Text.FewDigits n) (hrest : Ended rest) :
    number? (Text.integer n ++ rest) = some (.int n, rest) := by
  cases n with
  | ofNat n =>
    exact number?_of_unsigned (unsignedNumber?_toDigits false hfew hrest)
  | negSucc n =>
    have hdigits : (Nat.toDigits 10 (n + 1)).length ≤ Text.maxDigits := hfew
    rw [Text.integer, List.cons_append, number?, unsignedNumber?_toDigits true hdigits hrest]
    rfl

/-! ## Doubles -/

/-- The power of ten that digits behind a sign make up. -/
def signedPower (sign digits : List Char) : Int :=
  let n : Int := Nat.ofDigitChars 10 digits 0
  if sign = ['-'] then -n else n

/-- `e`, a sign or none, and digits: the text of a power of ten. -/
structure Power (text : List Char) (power : Int) : Prop where
  spelled : ∃ e sign digits, text = e :: sign ++ digits ∧ (e = 'e' ∨ e = 'E') ∧
    (sign = [] ∨ sign = ['+'] ∨ sign = ['-']) ∧ (∀ c ∈ digits, c.isDigit = true) ∧ digits ≠ [] ∧
    power = signedPower sign digits

theorem Power.exponent {text : List Char} {power : Int} (h : Power text power)
    (hrest : Undigited rest) : exponent (text ++ rest) = (some power, rest) := by
  obtain ⟨e, sign, digits, rfl, he, hsign, hdigits, hne, rfl⟩ := h.spelled
  have htake := takeWhile_digits hdigits hrest
  have hdrop := dropWhile_digits hdigits hrest
  obtain ⟨d, ds, rfl⟩ := List.exists_cons_of_ne_nil hne
  have hd : d.isDigit = true := hdigits d List.mem_cons_self
  rw [List.cons_append] at htake hdrop
  rcases hsign with rfl | rfl | rfl
  · unfold Reader.exponent
    simp only [List.cons_append, List.nil_append, if_pos he]
    split
    · next hcons =>
      obtain rfl := (List.cons.inj hcons).1
      cases hd
    · next hcons =>
      obtain rfl := (List.cons.inj hcons).1
      cases hd
    · simp only [htake, hdrop]
      rfl
  · unfold Reader.exponent
    simp only [List.cons_append, List.nil_append, if_pos he, htake, hdrop]
    rfl
  · unfold Reader.exponent
    simp only [List.cons_append, List.nil_append, if_pos he, htake, hdrop]
    rfl

theorem Power.tail {text : List Char} {power : Int} (h : Power text power)
    (hrest : Undigited rest) : Tail (text ++ rest) rest (some power) where
  exponent := h.exponent hrest
  undigited := by
    obtain ⟨e, sign, digits, rfl, he, _⟩ := h.spelled
    intro c hc
    obtain rfl := Option.some.inj hc
    rcases he with rfl | rfl <;> rfl
  pointless := by
    obtain ⟨e, sign, digits, rfl, he, _⟩ := h.spelled
    rcases he with rfl | rfl <;> rfl

theorem ofDigitChars_exponentDigits (n : Nat) :
    Nat.ofDigitChars 10 (exponentDigits n) 0 = n := by
  unfold exponentDigits
  split
  · rw [Nat.ofDigitChars_cons]
    exact Nat.ofDigitChars_ten_toDigits
  · exact Nat.ofDigitChars_ten_toDigits

theorem isDigit_of_mem_exponentDigits {n : Nat} {c : Char} (h : c ∈ exponentDigits n) :
    c.isDigit = true := by
  unfold exponentDigits at h
  split at h
  · rcases List.mem_cons.mp h with rfl | h
    · rfl
    · exact isDigit_of_mem_toDigits h
  · exact isDigit_of_mem_toDigits h

theorem exponentDigits_ne_nil (n : Nat) : exponentDigits n ≠ [] := by
  unfold exponentDigits
  split
  · exact List.cons_ne_nil _ _
  · exact Nat.toDigits_ne_nil

theorem power_exponentText (e : Int) : Power (exponentText e) e where
  spelled := by
    have hnumber := ofDigitChars_exponentDigits e.natAbs
    refine ⟨'e', [if e < 0 then '-' else '+'], exponentDigits e.natAbs, rfl, Or.inl rfl, ?_,
      fun _ => isDigit_of_mem_exponentDigits, exponentDigits_ne_nil _, ?_⟩
    · by_cases hneg : e < 0 <;> simp [hneg]
    · by_cases hneg : e < 0
      · simp only [signedPower, if_pos hneg, if_true, hnumber]
        omega
      · simp only [signedPower, if_neg hneg, hnumber, List.cons.injEq, Char.reduceEq, and_true,
          if_false]
        omega

theorem exponentText_tail (e : Int) (hrest : Ended rest) :
    Tail (exponentText e ++ rest) rest (some e) :=
  (power_exponentText e).tail hrest.undigited

/-- The double that digits before and behind a point and a power of ten make up. -/
def double (negative : Bool) (whole decimals : List Char) (power : Option Int) : Binary64 :=
  let digits := significant (whole ++ decimals)
  Binary64.ofDecimal negative (Nat.ofDigitChars 10 digits 0) digits.length
    (power.getD 0 - decimals.length)

theorem unsignedNumber?_power (negative : Bool) {whole tail : List Char} {power : Int}
    (hwhole : Whole whole) (htail : Tail tail rest (some power)) :
    unsignedNumber? negative (whole ++ tail) =
      some (.float (double negative whole [] (some power)), rest) := by
  rw [unsignedNumber?, hwhole.wholePart? htail.undigited]
  simp only [htail.pointless, htail.exponent, Option.isNone_some, Bool.and_false,
    Bool.false_eq_true, if_false]
  rfl

theorem unsignedNumber?_point (negative : Bool) {whole decimals tail : List Char}
    {power : Option Int} (hwhole : Whole whole) (hdigit : ∀ c ∈ decimals, c.isDigit = true)
    (hne : decimals ≠ []) (htail : Tail tail rest power) :
    unsignedNumber? negative (whole ++ '.' :: decimals ++ tail) =
      some (.float (double negative whole decimals power), rest) := by
  have hpoint : Undigited ('.' :: (decimals ++ tail)) := by
    intro c hc
    obtain rfl := Option.some.inj hc
    rfl
  have hfraction : fraction ('.' :: (decimals ++ tail)) = (decimals, tail) := by
    rw [fraction, takeWhile_digits hdigit htail.undigited, dropWhile_digits hdigit htail.undigited]
    cases decimals with
    | nil => exact absurd rfl hne
    | cons d ds => rfl
  have hfull : decimals.isEmpty = false := by simpa using hne
  rw [List.append_assoc, List.cons_append, unsignedNumber?, hwhole.wholePart? hpoint]
  simp only [hfraction, htail.exponent, hfull, Bool.false_and, Bool.false_eq_true, if_false]
  rfl

/-- The text is read as the double, whatever may stand behind it. -/
def Reads (negative : Bool) (text : List Char) (x : Binary64) : Prop :=
  ∀ rest, Ended rest → unsignedNumber? negative (text ++ rest) = some (.float x, rest)

theorem reads_point (negative : Bool) {whole decimals : List Char} (hwhole : Whole whole)
    (hdigit : ∀ c ∈ decimals, c.isDigit = true) (hne : decimals ≠ []) :
    ∃ x, Reads negative (whole ++ '.' :: decimals) x :=
  ⟨_, fun _ hrest => unsignedNumber?_point negative hwhole hdigit hne hrest.tail⟩

theorem Whole.append {digits more : List Char} (h : Whole digits) (hhead : digits.head? ≠ some '0')
    (hmore : ∀ c ∈ more, c.isDigit = true) : Whole (digits ++ more) where
  digit c hc := (List.mem_append.mp hc).elim (h.digit c) (hmore c)
  ne_nil := List.append_ne_nil_of_left_ne_nil h.ne_nil more
  lone hzero := by
    obtain ⟨c, ds, rfl⟩ := List.exists_cons_of_ne_nil h.ne_nil
    exact absurd hzero hhead

theorem Whole.take {digits : List Char} (h : Whole digits) (hhead : digits.head? ≠ some '0')
    {n : Nat} (hn : n ≠ 0) : Whole (digits.take n) where
  digit c hc := h.digit c (List.mem_of_mem_take hc)
  ne_nil := by simp [h.ne_nil, hn]
  lone hzero := by
    obtain ⟨c, ds, rfl⟩ := List.exists_cons_of_ne_nil h.ne_nil
    obtain ⟨k, rfl⟩ := Nat.exists_eq_succ_of_ne_zero hn
    exact absurd hzero hhead

theorem whole_zero : Whole ['0'] := whole_toDigits 0

theorem isDigit_of_mem_zeros {n : Nat} {c : Char} (h : c ∈ List.replicate n '0') :
    c.isDigit = true := by
  rw [List.eq_of_mem_replicate h]
  rfl

theorem reads_positional (negative : Bool) {digits : List Char} (h : Whole digits)
    (hhead : digits.head? ≠ some '0') (point : Int) :
    ∃ x, Reads negative (positional digits point) x := by
  unfold positional
  dsimp only
  split_ifs with _ hshort
  · refine reads_point negative whole_zero ?_ (by simp [h.ne_nil])
    intro c hc
    exact (List.mem_append.mp hc).elim isDigit_of_mem_zeros (h.digit c)
  · exact reads_point negative (h.append hhead fun _ => isDigit_of_mem_zeros) whole_zero.digit
      whole_zero.ne_nil
  · have hlength : point.toNat < digits.length := Nat.lt_of_not_le hshort
    refine reads_point negative (h.take hhead (by omega)) ?_ (by simpa using hlength)
    intro c hc
    exact h.digit c (List.mem_of_mem_drop hc)

theorem reads_scientific (negative : Bool) {digits : List Char} (h : Whole digits) (point : Int) :
    ∃ x, Reads negative (scientific digits point) x := by
  have hlone : ∀ d ∈ digits, Whole [d] := by
    intro d hd
    refine ⟨?_, List.cons_ne_nil _ _, fun hzero => by rw [Option.some.inj hzero]⟩
    intro c hc
    rw [List.mem_singleton.mp hc]
    exact h.digit d hd
  match digits, h, hlone with
  | [], h, _ => exact absurd rfl h.ne_nil
  | [d], _, hlone =>
    refine ⟨double negative [d] [] (some (point - 1)), fun rest hrest => ?_⟩
    exact unsignedNumber?_power negative (hlone d List.mem_cons_self)
      (exponentText_tail (point - 1) hrest)
  | d :: d' :: ds, h, hlone =>
    refine ⟨double negative [d] (d' :: ds) (some (point - 1)), fun rest hrest => ?_⟩
    have hread := unsignedNumber?_point negative (hlone d List.mem_cons_self)
      (fun c hc => h.digit c (List.mem_cons_of_mem d hc)) (List.cons_ne_nil d' ds)
      (exponentText_tail (point - 1) hrest)
    simpa [scientific] using hread

/-- The text of a decimal is read as a double. -/
theorem reads_scaled (negative : Bool) (d : Scaled) : ∃ x, Reads negative d.text x := by
  unfold Scaled.text
  dsimp only
  split_ifs with hzero _
  · exact reads_point negative whole_zero whole_zero.digit whole_zero.ne_nil
  · exact reads_positional negative (whole_toDigits _) (head?_toDigits hzero) _
  · exact reads_scientific negative (whole_toDigits _) _

/-- The double that the text of a double is read as. -/
def readBack (x : Binary64) : Binary64 :=
  match literal? (x.text infinity) with
  | some (.float y, _) => y
  | _ => x

theorem literal?_of_number? {cs : List Char} {result : Reading × List Char}
    (h : number? cs = some result) : literal? cs = some result := by
  rw [literal?, h]

/-- The text of a double is read as one double, whatever stands behind it. -/
theorem literal?_double (x : Binary64) (hrest : Ended rest) :
    literal? (x.text infinity ++ rest) = some (.float (readBack x), rest) := by
  suffices hread : ∃ y, ∀ rest, Ended rest →
      literal? (x.text infinity ++ rest) = some (.float y, rest) by
    obtain ⟨y, hy⟩ := hread
    have hback : readBack x = y := by
      have halone := hy [] ended_nil
      rw [List.append_nil] at halone
      rw [readBack, halone]
    rw [hback]
    exact hy rest hrest
  cases x with
  | infinite negative => cases negative <;> exact ⟨_, fun _ _ => rfl⟩
  | finite negative mantissa exponent =>
    obtain ⟨y, hy⟩ := reads_scaled negative (shortest mantissa exponent)
    refine ⟨y, fun rest hrest => literal?_of_number? ?_⟩
    cases negative with
    | false => exact number?_of_unsigned (hy rest hrest)
    | true => exact hy rest hrest

/-! ## Numbers in a text -/

/-- A character that stands for no blank and does not open a string. -/
def Plain (c : Char) : Prop := isSpace c = false ∧ c ≠ '"'

theorem ne_of_isDigit {c d : Char} (hc : c.isDigit = true) (hd : d.isDigit = false) : c ≠ d := by
  rintro rfl
  rw [hc] at hd
  cases hd

theorem plain_of_isDigit {c : Char} (h : c.isDigit = true) : Plain c := by
  have hother : ∀ d, d.isDigit = false → c ≠ d := fun _ => ne_of_isDigit h
  refine ⟨?_, hother '"' rfl⟩
  simp [isSpace, hother ' ' rfl, hother '\t' rfl, hother '\n' rfl, hother '\r' rfl]

/-- What else numbers are made of, and what stands between values. -/
theorem plain_of_mem {c : Char}
    (h : c ∈ ['.', 'e', 'E', '+', '-', ',', ':', '[', ']', '{', '}']) : Plain c := by
  have hplain : ∀ c ∈ ['.', 'e', 'E', '+', '-', ',', ':', '[', ']', '{', '}'],
      isSpace c = false ∧ c ≠ '"' := by simp [isSpace]
  exact hplain c h

theorem Power.plain {text : List Char} {n : Int} (h : Power text n) : ∀ c ∈ text, Plain c := by
  obtain ⟨e, sign, digits, rfl, he, hsign, hdigits, _, _⟩ := h
  intro c hc
  rw [List.cons_append, List.mem_cons, List.mem_append] at hc
  rcases hc with rfl | hc | hc
  · apply plain_of_mem
    rcases he with rfl | rfl <;> simp
  · apply plain_of_mem
    rcases hsign with rfl | rfl | rfl
    · cases hc
    · simp [List.mem_singleton.mp hc]
    · simp [List.mem_singleton.mp hc]
  · exact plain_of_isDigit (hdigits c hc)

theorem digit_of_mem_takeWhile {c : Char} (h : c ∈ cs.takeWhile Char.isDigit) : c.isDigit = true :=
  List.mem_takeWhile_imp h

theorem whole_of_wholePart? {digits tail : List Char} (h : wholePart? cs = some (digits, tail)) :
    cs = digits ++ tail ∧ Whole digits := by
  unfold wholePart? at h
  split at h
  · cases h
    exact ⟨rfl, whole_zero⟩
  · next hzero =>
    split at h
    · cases h
    · next hne =>
      cases h
      have hsplit : cs.takeWhile Char.isDigit ++ cs.dropWhile Char.isDigit = cs :=
        List.takeWhile_append_dropWhile
      refine ⟨hsplit.symm, fun _ => digit_of_mem_takeWhile, hne, fun hhead => ?_⟩
      obtain ⟨ds, hds⟩ := List.head?_eq_some_iff.mp hhead
      rw [hds] at hsplit
      exact absurd hsplit.symm (hzero _)

/-- The digits after a point, if there are any. -/
theorem fraction_cases {digits tail : List Char} (h : fraction cs = (digits, tail)) :
    (digits = [] ∧ cs = tail) ∨
      (digits ≠ [] ∧ (∀ c ∈ digits, c.isDigit = true) ∧ cs = '.' :: digits ++ tail) := by
  unfold fraction at h
  split at h
  · next more =>
    split at h
    · cases h
      exact Or.inl ⟨rfl, rfl⟩
    · next hne =>
      cases h
      refine Or.inr ⟨hne, fun _ => digit_of_mem_takeWhile, ?_⟩
      rw [List.cons_append, List.takeWhile_append_dropWhile]
  · cases h
    exact Or.inl ⟨rfl, rfl⟩

theorem power_of_takeWhile {e : Char} {more : List Char} (sign : List Char) (he : e = 'e' ∨ e = 'E')
    (hsign : sign = [] ∨ sign = ['+'] ∨ sign = ['-']) (hne : more.takeWhile Char.isDigit ≠ []) :
    ∃ text, e :: sign ++ more = text ++ more.dropWhile Char.isDigit ∧
      Power text (signedPower sign (more.takeWhile Char.isDigit)) := by
  refine ⟨e :: sign ++ more.takeWhile Char.isDigit, ?_, e, sign, _, rfl, he, hsign,
    fun _ => digit_of_mem_takeWhile, hne, rfl⟩
  rw [List.append_assoc, List.takeWhile_append_dropWhile]

/-- The power of ten at the head of a text, if there is one. -/
theorem exponent_cases (h : exponent cs = (power, rest)) :
    (power = none ∧ cs = rest) ∨
      ∃ text n, power = some n ∧ cs = text ++ rest ∧ Power text n := by
  unfold exponent at h
  dsimp only at h
  split at h
  · next e more =>
    split at h
    · next he =>
      split at h
      · next more =>
        split at h
        · cases h
          exact Or.inl ⟨rfl, rfl⟩
        · next hne =>
          cases h
          obtain ⟨text, htext, hpower⟩ := power_of_takeWhile ['+'] he (by simp) hne
          exact Or.inr ⟨text, _, rfl, htext, hpower⟩
      · next more =>
        split at h
        · cases h
          exact Or.inl ⟨rfl, rfl⟩
        · next hne =>
          cases h
          obtain ⟨text, htext, hpower⟩ := power_of_takeWhile ['-'] he (by simp) hne
          exact Or.inr ⟨text, _, rfl, htext, hpower⟩
      · split at h
        · cases h
          exact Or.inl ⟨rfl, rfl⟩
        · next hne =>
          cases h
          obtain ⟨text, htext, hpower⟩ := power_of_takeWhile [] he (by simp) hne
          exact Or.inr ⟨text, _, rfl, htext, hpower⟩
    · cases h
      exact Or.inl ⟨rfl, rfl⟩
  · cases h
    exact Or.inl ⟨rfl, rfl⟩

/-- What is read of a text as a power of ten, or as none, is read as the same before any text at
which a value ends. -/
theorem exponent_token (h : exponent cs = (power, rest)) :
    ∃ text, cs = text ++ rest ∧ (∀ c ∈ text, Plain c) ∧
      ∀ rest', Ended rest' → Tail (text ++ rest') rest' power := by
  rcases exponent_cases h with ⟨rfl, rfl⟩ | ⟨text, n, rfl, rfl, hpower⟩
  · exact ⟨[], rfl, nofun, fun rest' hrest => hrest.tail⟩
  · exact ⟨text, rfl, hpower.plain, fun rest' hrest => hpower.tail hrest.undigited⟩

/-- A number is read as the same before any text at which a value ends. -/
theorem unsignedNumber?_token {negative : Bool} {v : Reading}
    (h : unsignedNumber? negative cs = some (v, rest)) :
    ∃ text, cs = text ++ rest ∧ (∀ c ∈ text, Plain c) ∧
      ∀ rest', Ended rest' → unsignedNumber? negative (text ++ rest') = some (v, rest') := by
  unfold unsignedNumber? at h
  split at h
  · cases h
  next whole tail hwholePart =>
  obtain ⟨rfl, hwhole⟩ := whole_of_wholePart? hwholePart
  cases hfraction : fraction tail with
  | mk decimals tail' =>
    cases hexponent : exponent tail' with
    | mk power rest =>
      simp only [hfraction, hexponent] at h
      obtain ⟨text, rfl, hplain, htail⟩ := exponent_token hexponent
      have hdigitsPlain : ∀ c ∈ whole, Plain c := fun c hc => plain_of_isDigit (hwhole.digit c hc)
      rcases fraction_cases hfraction with ⟨rfl, rfl⟩ | ⟨hne, hdigits, rfl⟩
      · cases power with
        | none =>
          simp only [List.isEmpty_nil, Option.isNone_none, Bool.and_self, if_true] at h
          split at h
          · next hfew =>
            cases h
            refine ⟨whole ++ text, (List.append_assoc ..).symm,
              List.forall_mem_append.mpr ⟨hdigitsPlain, hplain⟩, fun rest' hrest => ?_⟩
            rw [List.append_assoc, unsignedNumber?_whole negative hwhole (htail rest' hrest),
              if_pos hfew]
          · cases h
        | some n =>
          cases h
          refine ⟨whole ++ text, (List.append_assoc ..).symm,
            List.forall_mem_append.mpr ⟨hdigitsPlain, hplain⟩, fun rest' hrest => ?_⟩
          rw [List.append_assoc, unsignedNumber?_power negative hwhole (htail rest' hrest)]
          rfl
      · have hfull : decimals.isEmpty = false := by simpa using hne
        simp only [hfull, Bool.false_and, Bool.false_eq_true, if_false] at h
        cases h
        have hpointPlain : ∀ c ∈ '.' :: decimals, Plain c :=
          List.forall_mem_cons.mpr
            ⟨plain_of_mem (by simp), fun c hc => plain_of_isDigit (hdigits c hc)⟩
        have htextPlain : ∀ c ∈ whole ++ '.' :: decimals ++ text, Plain c :=
          List.forall_mem_append.mpr
            ⟨List.forall_mem_append.mpr ⟨hdigitsPlain, hpointPlain⟩, hplain⟩
        refine ⟨whole ++ '.' :: decimals ++ text, by simp, htextPlain, fun rest' hrest => ?_⟩
        have hpoint := unsignedNumber?_point negative hwhole hdigits hne (htail rest' hrest)
        rw [List.append_assoc, hpoint]
        rfl

theorem number?_token {v : Reading} (h : number? cs = some (v, rest)) :
    ∃ text, cs = text ++ rest ∧ (∀ c ∈ text, Plain c) ∧
      ∀ rest', Ended rest' → number? (text ++ rest') = some (v, rest') := by
  unfold number? at h
  split at h
  · next more =>
    obtain ⟨text, rfl, hplain, htext⟩ := unsignedNumber?_token h
    exact ⟨'-' :: text, rfl, List.forall_mem_cons.mpr ⟨plain_of_mem (by simp), hplain⟩,
      fun rest' hrest => htext rest' hrest⟩
  · obtain ⟨text, rfl, hplain, htext⟩ := unsignedNumber?_token h
    exact ⟨text, rfl, hplain, fun rest' hrest => number?_of_unsigned (htext rest' hrest)⟩

theorem eq_append_of_after? {name : String} (h : after? name cs = some rest) :
    cs = name.toList ++ rest := by
  unfold after? at h
  split at h
  · next hprefix =>
    obtain ⟨more, rfl⟩ := List.isPrefixOf_iff_prefix.mp hprefix
    rw [← Option.some.inj h, ← String.length_toList, List.drop_left]
  · cases h

/-- A value without parts is read as the same before any text at which a value ends. -/
theorem literal?_token {v : Reading} (h : literal? cs = some (v, rest)) :
    ∃ text, cs = text ++ rest ∧ (∀ c ∈ text, Plain c) ∧
      ∀ rest', Ended rest' → literal? (text ++ rest') = some (v, rest') := by
  unfold literal? at h
  split at h
  · next hnumber =>
    rw [h] at hnumber
    obtain ⟨text, rfl, hplain, htext⟩ := number?_token hnumber
    exact ⟨text, rfl, hplain, fun rest' hrest => literal?_of_number? (htext rest' hrest)⟩
  · obtain ⟨⟨name, w⟩, hmem, hw⟩ := List.exists_of_findSome?_eq_some h
    obtain ⟨rest, hafter, heq⟩ := Option.map_eq_some_iff.mp hw
    cases heq
    have hwords : ∀ name ∈ ["null", "true", "false", "NaN", "Infinity", "-Infinity"],
        ∀ c ∈ name.toList, isSpace c = false ∧ c ≠ '"' := by simp [isSpace]
    simp only [List.mem_cons, Prod.mk.injEq, List.not_mem_nil, or_false] at hmem
    refine ⟨name.toList, eq_append_of_after? hafter, hwords name ?_, fun rest' _ => ?_⟩
    · rcases hmem with h | h | h | h | h | h <;> simp [h.1]
    · rcases hmem with
        ⟨rfl, rfl⟩ | ⟨rfl, rfl⟩ | ⟨rfl, rfl⟩ | ⟨rfl, rfl⟩ | ⟨rfl, rfl⟩ | ⟨rfl, rfl⟩ <;> rfl

/-- Digits that are too many for an integer are no value at all. -/
theorem literal?_overlong {whole tail : List Char} (hwhole : Whole whole)
    (hmany : Text.maxDigits < whole.length) (htail : Tail tail rest none) :
    literal? (whole ++ tail) = none := by
  have hunsigned := unsignedNumber?_whole false hwhole htail
  rw [if_neg (Nat.not_le.mpr hmany)] at hunsigned
  obtain ⟨c, digits, rfl⟩ := List.exists_cons_of_ne_nil hwhole.ne_nil
  have hother : ∀ d, d.isDigit = false → d ≠ c :=
    fun d hd => (ne_of_isDigit (hwhole.digit c List.mem_cons_self) hd).symm
  rw [List.cons_append] at hunsigned ⊢
  have hnumber : number? (c :: (digits ++ tail)) = none := by
    unfold number?
    split
    · next hcons => exact absurd (List.cons.inj hcons).1.symm (hother '-' rfl)
    · exact hunsigned
  rw [literal?, hnumber]
  simp [after?, hother 'n' rfl, hother 't' rfl, hother 'f' rfl, hother 'N' rfl, hother 'I' rfl,
    hother '-' rfl]

end Reader

end CloudIdentity.Document

import CloudIdentity.Text.Percent

/-!
Percent-encoding, and that the decoder undoes it. An encoder may write any character as the octets
of its UTF-8 form, each as `%` and two hexadecimal digits in either case; it has to do so with `%`
itself. A text in which no `%` is followed by two such digits is its own decoding.
-/

namespace CloudIdentity.Text

namespace Utf8

/-- The octets of a character. -/
def octets (c : Char) : List Nat := (String.utf8EncodeChar c).map UInt8.toNat

theorem lt_of_mem_octets {c : Char} {octet : Nat} (h : octet ∈ octets c) : octet < 256 := by
  obtain ⟨byte, _, rfl⟩ := List.mem_map.mp h
  exact byte.toNat_lt

/-- The characters that octets complete, and the state that they leave the decoder in. -/
def feedAll : State → List Nat → List Char × State
  | state, [] => ([], state)
  | state, octet :: rest =>
    ((feed state octet).1 ++ (feedAll (feed state octet).2 rest).1,
      (feedAll (feed state octet).2 rest).2)

theorem feed_more {more bits low high octet : Nat} (hlow : low ≤ octet) (hhigh : octet ≤ high) :
    feed (.inside (more + 2) bits low high) octet =
      ([], .inside (more + 1) (bits * 64 + (octet - 0x80)) 0x80 0xBF) := by
  rw [feed, if_pos ⟨hlow, hhigh⟩, if_neg (by omega)]
  rfl

theorem feed_next {more bits n : Nat} (hn : n < 64) :
    feed (.inside (more + 2) bits 0x80 0xBF) (n + 0x80) =
      ([], .inside (more + 1) (bits * 64 + n) 0x80 0xBF) := by
  rw [feed_more (by omega) (by omega), Nat.add_sub_cancel]

theorem feed_last {bits n : Nat} (hn : n < 64) :
    feed (.inside 1 bits 0x80 0xBF) (n + 0x80) = ([Char.ofNat (bits * 64 + n)], .idle) := by
  rw [feed, if_pos ⟨by omega, by omega⟩, if_pos (Nat.le_refl 1), Nat.add_sub_cancel]

theorem start_one {n : Nat} (h : n ≤ 0x7F) : start n = ([Char.ofNat n], .idle) := by
  rw [start, if_pos h]

theorem start_two {n : Nat} (hlow : 2 ≤ n) (hhigh : n < 32) :
    start (n + 0xC0) = ([], .inside 1 n 0x80 0xBF) := by
  rw [start, if_neg (by omega), if_neg (by omega), if_pos (by omega), Nat.add_sub_cancel]

/-- The first of three octets admits a second one if they begin neither a long form nor a
surrogate. -/
theorem start_three {n m : Nat} (hn : n < 16) (hm : m < 64) (hlong : n = 0 → 32 ≤ m)
    (hsurrogate : n = 13 → m < 32) :
    ∃ low high, start (n + 0xE0) = ([], .inside 2 n low high) ∧ low ≤ m + 0x80 ∧
      m + 0x80 ≤ high := by
  rw [start, if_neg (by omega), if_neg (by omega), if_neg (by omega)]
  by_cases hfirst : n = 0
  · have := hlong hfirst
    subst hfirst
    exact ⟨0xA0, 0xBF, rfl, by omega, by omega⟩
  rw [if_neg (by omega)]
  by_cases hlast : n = 13
  · have := hsurrogate hlast
    subst hlast
    exact ⟨0x80, 0x9F, rfl, by omega, by omega⟩
  rw [if_neg (by omega), if_pos (by omega), Nat.add_sub_cancel]
  exact ⟨0x80, 0xBF, rfl, by omega, by omega⟩

/-- The first of four octets admits a second one if they begin neither a long form nor a number
above U+10FFFF. -/
theorem start_four {n m : Nat} (hn : n ≤ 4) (hm : m < 64) (hlong : n = 0 → 16 ≤ m)
    (hlarge : n = 4 → m < 16) :
    ∃ low high, start (n + 0xF0) = ([], .inside 3 n low high) ∧ low ≤ m + 0x80 ∧
      m + 0x80 ≤ high := by
  rw [start, if_neg (by omega), if_neg (by omega), if_neg (by omega), if_neg (by omega),
    if_neg (by omega), if_neg (by omega)]
  by_cases hfirst : n = 0
  · have := hlong hfirst
    subst hfirst
    exact ⟨0x90, 0xBF, rfl, by omega, by omega⟩
  rw [if_neg (by omega)]
  by_cases hlast : n = 4
  · have := hlarge hlast
    subst hlast
    exact ⟨0x80, 0x8F, rfl, by omega, by omega⟩
  rw [if_pos (by omega), Nat.add_sub_cancel]
  exact ⟨0x80, 0xBF, rfl, by omega, by omega⟩

theorem toNat_cases (c : Char) :
    c.toNat < 0xD800 ∨ (0xDFFF < c.toNat ∧ c.toNat < 0x110000) := by
  rcases c.valid with h | h
  · exact Or.inl h
  · exact Or.inr h

/-- The octets of a character are decoded as that character. -/
theorem feedAll_octets (c : Char) : feedAll .idle (octets c) = ([c], .idle) := by
  have hvalid := toNat_cases c
  have hchar : ∀ n, n = c.toNat → Char.ofNat n = c := by
    rintro n rfl
    exact Char.ofNat_toNat c
  have hbyte : ∀ n, n < 256 → (UInt8.ofNat n).toNat = n := fun n hn => UInt8.toNat_ofNat_of_lt hn
  have htoNat : c.val.toNat = c.toNat := rfl
  generalize c.toNat = v at hvalid hchar htoNat
  have h0 : v % 64 < 64 := by omega
  have h1 : v / 64 % 64 < 64 := by omega
  have h2 : v / 4096 % 64 < 64 := by omega
  have hbyte0 := hbyte (v % 64 + 0x80) (by omega)
  have hbyte1 := hbyte (v / 64 % 64 + 0x80) (by omega)
  have hbyte2 := hbyte (v / 4096 % 64 + 0x80) (by omega)
  rw [octets, String.utf8EncodeChar, htoNat]
  by_cases hone : v ≤ 0x7F
  · rw [if_pos hone]
    simp only [List.map, hbyte v (by omega), feedAll, feed, start_one hone, hchar v rfl,
      List.append_nil]
  rw [if_neg hone]
  by_cases htwo : v ≤ 0x7FF
  · have hfirst := hbyte (v / 64 % 32 + 0xC0) (by omega)
    have hstart := start_two (by omega : 2 ≤ v / 64 % 32) (by omega)
    rw [if_pos htwo]
    simp only [List.map, hfirst, hbyte0, feedAll, feed.eq_1, hstart, feed_last h0,
      List.append_nil, List.nil_append]
    rw [hchar _ (by omega)]
  rw [if_neg htwo]
  by_cases hthree : v ≤ 0xFFFF
  · have hfirst := hbyte (v / 4096 % 16 + 0xE0) (by omega)
    obtain ⟨low, high, hstart, hlow, hhigh⟩ :=
      start_three (by omega : v / 4096 % 16 < 16) h1 (by omega) (by omega)
    rw [if_pos hthree]
    simp only [List.map, hfirst, hbyte0, hbyte1, feedAll, feed.eq_1, hstart, feed_more hlow hhigh,
      Nat.add_sub_cancel, feed_last h0, List.append_nil, List.nil_append]
    rw [hchar _ (by omega)]
  · have hfirst := hbyte (v / 262144 % 8 + 0xF0) (by omega)
    obtain ⟨low, high, hstart, hlow, hhigh⟩ :=
      start_four (by omega : v / 262144 % 8 ≤ 4) h2 (by omega) (by omega)
    rw [if_neg hthree]
    simp only [List.map, hfirst, hbyte0, hbyte1, hbyte2, feedAll, feed.eq_1, hstart,
      feed_more hlow hhigh, Nat.add_sub_cancel, feed_next h1, feed_last h0, List.append_nil,
      List.nil_append]
    rw [hchar _ (by omega)]

end Utf8

namespace Percent

/-- A hexadecimal digit in either case. -/
def HexDigit (n : Nat) (c : Char) : Prop := c = Nat.digitChar n ∨ c = (Nat.digitChar n).toUpper

theorem hexDigit?_digitChar {n : Nat} (h : n < 16) : hexDigit? (Nat.digitChar n) = some n := by
  revert n
  decide

theorem hexDigit?_eq_some {n : Nat} {c : Char} (hn : n < 16) (h : HexDigit n c) :
    hexDigit? c = some n := by
  have hupper : ∀ n < 16, hexDigit? (Nat.digitChar n).toUpper = some n := by decide
  rcases h with rfl | rfl
  · exact hexDigit?_digitChar hn
  · exact hupper n hn

/-- Octets, each written as `%` and two digits. -/
inductive Escapes : List Nat → List Char → Prop where
  | nil : Escapes [] []
  | cons {octet : Nat} {octets : List Nat} {a b : Char} {text : List Char}
      (high : HexDigit (octet / 16) a) (low : HexDigit (octet % 16) b)
      (rest : Escapes octets text) : Escapes (octet :: octets) ('%' :: a :: b :: text)

/-- The second text is a percent-encoding of the first. -/
inductive Encodes : List Char → List Char → Prop where
  | nil : Encodes [] []
  | literal {c : Char} {plain text : List Char} (hc : c ≠ '%') (rest : Encodes plain text) :
      Encodes (c :: plain) (c :: text)
  | escaped {c : Char} {plain escape text : List Char} (head : Escapes (Utf8.octets c) escape)
      (rest : Encodes plain text) : Encodes (c :: plain) (escape ++ text)

theorem octet?_eq_some {octet : Nat} {a b : Char} (hoctet : octet < 256)
    (high : HexDigit (octet / 16) a) (low : HexDigit (octet % 16) b) :
    octet? a b = some octet := by
  rw [octet?, hexDigit?_eq_some (by omega) high, hexDigit?_eq_some (by omega) low]
  have hsum : 16 * (octet / 16) + octet % 16 = octet := Nat.div_add_mod octet 16
  simp [hsum]

theorem decodeFrom_escapes {octets : List Nat} {escape : List Char} (h : Escapes octets escape)
    (hoctets : ∀ octet ∈ octets, octet < 256) (state : Utf8.State) (rest : List Char) :
    decodeFrom state (escape ++ rest) =
      (Utf8.feedAll state octets).1 ++ decodeFrom (Utf8.feedAll state octets).2 rest := by
  induction h generalizing state with
  | nil => rfl
  | @cons octet octets a b text high low _ ih =>
    have hoctet : octet < 256 := hoctets octet List.mem_cons_self
    have htail := ih (fun o ho => hoctets o (List.mem_cons_of_mem _ ho)) (Utf8.feed state octet).2
    rw [List.cons_append, List.cons_append, List.cons_append, decodeFrom, if_pos rfl]
    simp only [octet?_eq_some hoctet high low, Utf8.feedAll, htail, List.append_assoc]

theorem decodeFrom_literal {c : Char} (hc : c ≠ '%') (rest : List Char) :
    decodeFrom .idle (c :: rest) = c :: decodeFrom .idle rest := by
  rw [decodeFrom.eq_def]
  simp only [if_neg hc]
  split
  · next hascii =>
    simp only [Utf8.feed, Utf8.start_one hascii, Char.ofNat_toNat, List.singleton_append]
  · rfl

/-- Decoding undoes every percent-encoding. -/
theorem decodeFrom_of_encodes {plain text : List Char} (h : Encodes plain text) :
    decodeFrom .idle text = plain := by
  induction h with
  | nil => rfl
  | literal hc _ ih => rw [decodeFrom_literal hc, ih]
  | escaped head _ ih =>
    rw [decodeFrom_escapes head (fun _ => Utf8.lt_of_mem_octets), Utf8.feedAll_octets, ih]
    rfl

theorem decode_of_encodes {plain text : String} (h : Encodes plain.toList text.toList) :
    decode text = plain := by
  rw [decode, decodeFrom_of_encodes h, String.ofList_toList]

/-! ## An encoder -/

/-- Octets, each as `%` and two digits, all in one case. -/
def escapeOctets (upper : Bool) (octets : List Nat) : List Char :=
  octets.flatMap fun octet =>
    '%' :: [octet / 16, octet % 16].map fun n =>
      if upper then (Nat.digitChar n).toUpper else Nat.digitChar n

/-- Encodes certain characters, some of them in upper case. -/
def encodeWhere (encoded upper : Char → Bool) (plain : List Char) : List Char :=
  plain.flatMap fun c =>
    if encoded c then escapeOctets (upper c) (Utf8.octets c) else [c]

theorem escapes_escapeOctets (upper : Bool) (octets : List Nat) :
    Escapes octets (escapeOctets upper octets) := by
  have hdigit : ∀ n, HexDigit n (if upper then (Nat.digitChar n).toUpper else Nat.digitChar n) := by
    intro n
    cases upper with
    | true => exact Or.inr rfl
    | false => exact Or.inl rfl
  induction octets with
  | nil => exact .nil
  | cons octet octets ih => exact .cons (hdigit _) (hdigit _) ih

theorem encodes_encodeWhere {encoded : Char → Bool} (hpercent : encoded '%' = true)
    (upper : Char → Bool) (plain : List Char) :
    Encodes plain (encodeWhere encoded upper plain) := by
  induction plain with
  | nil => exact .nil
  | cons c plain ih =>
    rw [encodeWhere, List.flatMap_cons]
    by_cases hc : encoded c = true
    · rw [if_pos hc]
      exact .escaped (escapes_escapeOctets _ _) ih
    · rw [if_neg hc]
      refine .literal ?_ ih
      rintro rfl
      exact hc hpercent

/-! ## Text that is not encoded -/

theorem toNat_le_of_hexDigit? {n : Nat} {c : Char} (h : hexDigit? c = some n) :
    c.toNat ≤ 'f'.toNat := by
  unfold hexDigit? at h
  split at h
  · next hdigit =>
    have hnine : c.toNat ≤ '9'.toNat := by
      simp only [Char.isDigit, Bool.and_eq_true, decide_eq_true_eq] at hdigit
      exact hdigit.2
    exact Nat.le_trans hnine (by decide)
  · split at h
    · next hlower => exact hlower.2
    · split at h
      · next hupper => exact Nat.le_trans (show c.toNat ≤ 'F'.toNat from hupper.2) (by decide)
      · cases h

theorem hexDigit_of_hexDigit? {n : Nat} {c : Char} (h : hexDigit? c = some n) :
    n < 16 ∧ HexDigit n c := by
  have hdigits : ∀ k ≤ 'f'.toNat, ∀ n ∈ hexDigit? (Char.ofNat k), n < 16 ∧
      (Char.ofNat k = Nat.digitChar n ∨ Char.ofNat k = (Nat.digitChar n).toUpper) := by
    decide
  have hc := hdigits c.toNat (toNat_le_of_hexDigit? h) n
  rw [Char.ofNat_toNat] at hc
  exact hc h

/-- No percent sign is followed by two hexadecimal digits. -/
def Unescaped (text : List Char) : Prop :=
  ∀ before a b after, text = before ++ '%' :: a :: b :: after →
    ∀ m < 16, ∀ n < 16, HexDigit m a → ¬ HexDigit n b

theorem unescaped_nil : Unescaped [] := by
  intro before a b after heq
  simp at heq

/-- The octet that a text begins with the escape of. -/
def headOctet? : List Char → Option Nat
  | '%' :: a :: b :: _ => octet? a b
  | _ => none

theorem headOctet?_eq_none_iff {text : List Char} :
    headOctet? text = none ↔ ∀ a b after, text = '%' :: a :: b :: after →
      ∀ m < 16, ∀ n < 16, HexDigit m a → ¬ HexDigit n b := by
  constructor
  · rintro hnone a b after rfl m hm n hn ha hb
    have hoctet : octet? a b = some (16 * m + n) := by
      simp [octet?, hexDigit?_eq_some hm ha, hexDigit?_eq_some hn hb]
    have hnone : octet? a b = none := hnone
    rw [hoctet] at hnone
    cases hnone
  · intro h
    unfold headOctet?
    split
    · next a b after =>
      rw [octet?]
      cases ha : hexDigit? a with
      | none => rfl
      | some m =>
        cases hb : hexDigit? b with
        | none => rfl
        | some n =>
          obtain ⟨hm, ha⟩ := hexDigit_of_hexDigit? ha
          obtain ⟨hn, hb⟩ := hexDigit_of_hexDigit? hb
          exact absurd hb (h a b after rfl m hm n hn ha)
    · rfl

theorem unescaped_cons_iff {c : Char} {text : List Char} :
    Unescaped (c :: text) ↔ headOctet? (c :: text) = none ∧ Unescaped text := by
  rw [headOctet?_eq_none_iff]
  constructor
  · intro h
    refine ⟨h [], ?_⟩
    rintro before a b after rfl
    exact h (c :: before) a b after rfl
  · rintro ⟨hhead, htail⟩ before a b after heq
    cases before with
    | nil => exact hhead a b after heq
    | cons d before => exact htail before a b after (List.cons.inj heq).2

instance decidableUnescaped : (text : List Char) → Decidable (Unescaped text)
  | [] => isTrue unescaped_nil
  | c :: text =>
    have := decidableUnescaped text
    decidable_of_iff (headOctet? (c :: text) = none ∧ Unescaped text) unescaped_cons_iff.symm

theorem decodeFrom_of_unescaped {text : List Char} (h : Unescaped text) :
    decodeFrom .idle text = text := by
  induction text with
  | nil => rfl
  | cons c text ih =>
    obtain ⟨hhead, htail⟩ := unescaped_cons_iff.mp h
    have htext := ih htail
    by_cases hc : c = '%'
    · subst hc
      have hfeed : Utf8.feed .idle '%'.toNat = (['%'], .idle) := rfl
      rcases text with _ | ⟨a, _ | ⟨b, text⟩⟩
      · rfl
      · rw [decodeFrom, if_pos rfl]
        · simp only [hfeed, htext, List.singleton_append]
        · nofun
      · rw [decodeFrom, if_pos rfl]
        have hnone : octet? a b = none := hhead
        simp only [hnone, hfeed, htext, List.singleton_append]
    · rw [decodeFrom_literal hc, htext]

theorem decode_of_unescaped {text : String} (h : Unescaped text.toList) : decode text = text := by
  rw [decode, decodeFrom_of_unescaped h, String.ofList_toList]

end Percent

end CloudIdentity.Text

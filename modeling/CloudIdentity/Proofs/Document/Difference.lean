import CloudIdentity.Proofs.Document.Comparison
import CloudIdentity.Proofs.Document.Serialization
import CloudIdentity.Proofs.Text.PercentEncoding

/-!
The forms of a stored document. A provider hands back a document parsed, or its text percent-encoded
in one of many ways. Each form is decoded to the text, and each differs from a new text just if the
values of the two differ. A text that was not encoded is decoded too, which changes it only where a
percent sign stands before two digits.
-/

namespace CloudIdentity.Document

/-! ## Equality of documents -/

/-- Two values with distinct names in their objects are equal if they are congruent, unless both are
not-a-number and stand on their own. -/
theorem Value.equal_iff_congruent {τ : Type} [DecidableEq τ] {v w : Value τ} (hv : v.Sound)
    (hw : w.Sound) (hproper : w ≠ .notANumber true) : v.equal w = true ↔ v.Congruent w := by
  rw [← Value.same_iff_congruent hv hw, Value.equal.eq_def]
  split
  · next interned =>
    cases interned with
    | true => exact absurd rfl hproper
    | false =>
      cases hw with
      | scalar h => cases h
  · rfl

/-- Two faithful objects are equal if they are congruent. -/
theorem Value.equal_object_iff_congruent {xs ys : Members} (hxs : (Value.object xs).Faithful)
    (hys : (Value.object ys).Faithful) :
    (Value.object xs).equal (.object ys) = true ↔ (Value.object xs).Congruent (.object ys) :=
  Value.equal_iff_congruent hxs.sound hys.sound nofun

namespace Stored

variable {members : Members} {plain encoded new : String} {v w : Reading}

/-! ## Each form by itself -/

theorem decode_text (h : Text.Percent.Encodes plain.toList encoded.toList) :
    (text encoded).decode = .ok (some plain) := by
  rw [decode, Text.Percent.decode_of_encodes h]

theorem decode_parsed {what : String} (h : serialize what (.object members) = .ok plain) :
    (parsed members).decode = .ok (some plain) := by
  rw [decode, serialize_again h]
  rfl

theorem differs_text (h : Text.Percent.Encodes plain.toList encoded.toList)
    (hplain : Reading.ofText? plain = some v) (hnew : Reading.ofText? new = some w) :
    (text encoded).differs (some new) = !v.equal w := by
  simp only [differs, Text.Percent.decode_of_encodes h, hplain, hnew]

theorem differs_parsed (hnew : Reading.ofText? new = some w) :
    (parsed members).differs (some new) = !(Value.object members).spelled.equal w := by
  simp only [differs, hnew]

/-- Which encoding of a text is handed back makes no difference. Each is decoded to the text, and
whether it differs from a new text is told by what the two texts say. -/
theorem encoding_immaterial (h : Text.Percent.Encodes plain.toList encoded.toList) :
    (text encoded).decode = .ok (some plain) ∧
      ∀ v new w, Reading.ofText? plain = some v → Reading.ofText? new = some w →
        (text encoded).differs (some new) = !v.equal w := by
  refine ⟨decode_text h, fun v new w hplain hnew => ?_⟩
  exact differs_text h hplain hnew

/-- Two encodings of one text, with characters beyond ASCII encoded and as they are, side by side,
and with a plus sign. The new text has the same characters in other escapes, and another number. -/
theorem encoding_immaterial_beyond_ascii :
    let plain := "[\"日本+é%é\",1.0]"
    let encoded := "%5b\"%e6%97%a5本+%C3%A9%25%C3%A9\",1.0]"
    let encoded' := "[\"%E6%97%A5%E6%9C%AC%2Bé%25é\",1.0]"
    let new := "[ \"\\u65e5本+\\u00e9%\\u00e9\", true ]"
    let other := "[\"日本+é%25é\",1]"
    Text.Percent.Encodes plain.toList encoded.toList ∧
      Text.Percent.Encodes plain.toList encoded'.toList ∧
      (text encoded).decode = .ok (some plain) ∧ (text encoded').decode = .ok (some plain) ∧
      (text encoded).differs (some new) = false ∧ (text encoded').differs (some new) = false ∧
      (text encoded).differs (some other) = true ∧ (text encoded').differs (some other) = true := by
  intro plain encoded encoded' new other
  have hencodes : Text.Percent.Encodes plain.toList encoded.toList := by
    have hencoded : encoded.toList = Text.Percent.encodeWhere
        (fun c => c ∈ ['[', '日', 'é', '%']) (fun c => c = 'é') plain.toList := by
      decide +kernel
    rw [hencoded]
    exact Text.Percent.encodes_encodeWhere rfl _ _
  have hencodes' : Text.Percent.Encodes plain.toList encoded'.toList := by
    have hencoded : encoded'.toList = Text.Percent.encodeWhere
        (fun c => c ∈ ['日', '本', '+', '%']) (fun _ => true) plain.toList := by
      decide +kernel
    rw [hencoded]
    exact Text.Percent.encodes_encodeWhere rfl _ _
  obtain ⟨v, hread⟩ : ∃ v, Reading.ofText? plain = some v :=
    Option.isSome_iff_exists.mp (by decide +kernel)
  obtain ⟨w, hnew⟩ : ∃ w, Reading.ofText? new = some w :=
    Option.isSome_iff_exists.mp (by decide +kernel)
  obtain ⟨u, hother⟩ : ∃ u, Reading.ofText? other = some u :=
    Option.isSome_iff_exists.mp (by decide +kernel)
  obtain ⟨hdecode, hdiffers⟩ := encoding_immaterial hencodes
  obtain ⟨hdecode', hdiffers'⟩ := encoding_immaterial hencodes'
  have hsame : (text encoded).differs (some new) = false := by decide +kernel
  have hchanged : (text encoded).differs (some other) = true := by decide +kernel
  refine ⟨hencodes, hencodes', hdecode, hdecode', hsame, ?_, hchanged, ?_⟩
  · rw [hdiffers' v new w hread hnew, ← hdiffers v new w hread hnew, hsame]
  · rw [hdiffers' v other u hread hother, ← hdiffers v other u hread hother, hchanged]

/-! ## Text that is not encoded -/

/-- Whatever a stored text is, it is compared by what it is decoded to. -/
theorem differs_decoded_iff {u : Reading}
    (hdecoded : Reading.ofText? (Text.Percent.decode plain) = some u)
    (hnew : Reading.ofText? new = some w) (hproper : w ≠ .notANumber true) :
    (text plain).differs (some new) = true ↔ ¬ u.Congruent w := by
  have hequal := Value.equal_iff_congruent (Reading.sound_of_ofText? hdecoded)
    (Reading.sound_of_ofText? hnew) hproper
  simp only [differs, hdecoded, hnew]
  rw [Bool.not_eq_true', ← Bool.not_eq_true, hequal]

/-- A text whose decoding cannot be read is compared as a text. -/
theorem differs_undecoded_iff (hdecoded : Reading.ofText? (Text.Percent.decode plain) = none) :
    (text plain).differs (some new) = true ↔ plain ≠ new := by
  simp [differs, hdecoded]

/-- A stored text is taken to be percent-encoded, even if it can be read as it stands. So it differs
from a new text if what its decoding says is not congruent to what the new one says, or, where its
decoding cannot be read, if the texts are not the same. If no percent sign in it is followed by two
hexadecimal digits, this is what the two texts say themselves, and a text does not differ from
itself. -/
theorem plain_text_differs (hplain : Reading.ofText? plain = some v)
    (hnew : Reading.ofText? new = some w) (hproper : w ≠ .notANumber true) :
    (∀ u, Reading.ofText? (Text.Percent.decode plain) = some u →
      ((text plain).differs (some new) = true ↔ ¬ u.Congruent w)) ∧
    (Reading.ofText? (Text.Percent.decode plain) = none →
      ((text plain).differs (some new) = true ↔ plain ≠ new)) ∧
    (Text.Percent.Unescaped plain.toList →
      ((text plain).differs (some new) = true ↔ ¬ v.Congruent w) ∧
      (v ≠ .notANumber true → (text plain).differs (some plain) = false)) := by
  refine ⟨fun u hdecoded => differs_decoded_iff hdecoded hnew hproper, differs_undecoded_iff,
    fun hunescaped => ?_⟩
  have hdecoded : Reading.ofText? (Text.Percent.decode plain) = some v := by
    rw [Text.Percent.decode_of_unescaped hunescaped, hplain]
  refine ⟨differs_decoded_iff hdecoded hnew hproper, fun hself => ?_⟩
  rw [← Bool.not_eq_true, differs_decoded_iff hdecoded hplain hself, not_not]
  exact (Reading.sound_of_ofText? hplain).congruent

/-- Two texts of one document, in which percent signs stand before one digit and at the end of a
string, and not before two digits. They do not differ, and neither does the first from itself. -/
theorem plain_text_differs_percent_signs :
    let plain := "\x7b\"a\":[\"100%\",\"%4 1\"],\"b\":true\x7d"
    let new := "\x7b\"b\": 1.0, \"a\": [\"100%\", \"%4 1\"]\x7d"
    Text.Percent.Unescaped plain.toList ∧ (text plain).differs (some new) = false ∧
      (text plain).differs (some plain) = false := by
  intro plain new
  let one : Decimal.Binary64 := .finite false (Nat.pow 2 52) (-52)
  let v : Value := .object [("a", .array [.str "100%", .str "%4 1"]), ("b", .bool true)]
  let w : Value := .object [("b", .float one), ("a", .array [.str "100%", .str "%4 1"])]
  have hone : Reader.readBack one = one := by decide +kernel
  have hv : v.Faithful := by
    simp [v, Value.faithful_object_iff, Value.faithful_array_iff, Value.Faithful.str,
      Value.Faithful.bool]
  have hw : w.Faithful := by
    simp [w, Value.faithful_object_iff, Value.faithful_array_iff, Value.Faithful.str,
      Value.Faithful.float, hone]
  have hplain : Reading.ofText? plain = some v.spelled :=
    hv.reading_of_text? Reader.passes_compact (by decide +kernel)
  have hnew : Reading.ofText? new = some w.spelled :=
    hw.reading_of_text? Reader.passes_spaced (by decide +kernel)
  have hunescaped : Text.Percent.Unescaped plain.toList := by decide +kernel
  have hcongruent : v.spelled.Congruent w.spelled :=
    (Value.equal_iff_congruent (Reading.sound_of_ofText? hplain) (Reading.sound_of_ofText? hnew)
      nofun).mp (by decide +kernel)
  obtain ⟨hdiffers, hself⟩ := (plain_text_differs hplain hnew nofun).2.2 hunescaped
  refine ⟨hunescaped, ?_, hself nofun⟩
  rw [← Bool.not_eq_true, hdiffers, not_not]
  exact hcongruent

/-- Halves of surrogate pairs that stand alone are told apart. -/
example : (text "[\"\\ud800\"]").differs (some "[\"\\ud801\"]") = true := by decide +kernel

/-- The text of an array with a percent sign and two digits in a string differs from itself: it is
taken to be an encoding of another text. -/
theorem escaped_text_differs_from_itself :
    let plain := "[\"%41\"]"
    (∃ v, Reading.ofText? plain = some v ∧ v ≠ .notANumber true ∧ v.Congruent v) ∧
      (text plain).differs (some plain) = true := by
  intro plain
  have hv : (Value.array [.str "%41"]).Faithful := by
    simp [Value.faithful_array_iff, Value.Faithful.str]
  have hread : Reading.ofText? plain = some (.array [.str (Text.codes "%41")]) :=
    hv.reading_of_text? Reader.passes_compact (by decide +kernel)
  exact ⟨⟨_, hread, nofun, .array (.cons (.str _) .nil)⟩, by decide +kernel⟩

/-! ## The forms together -/

/-- A stored object and the text of a new one: whether they differ is the same for the object itself
and for each percent-encoding of its text, and it means that the two objects are not congruent. All
forms are decoded to the same text. -/
theorem parsed_encoded_agree (what : String) {xs ys : Members} (hxs : (Value.object xs).Faithful)
    (hys : (Value.object ys).Faithful) :
    ∃ plain new, serialize what (.object xs) = .ok plain ∧ serialize what (.object ys) = .ok new ∧
      (parsed xs).decode = .ok (some plain) ∧
      ((parsed xs).differs (some new) = true ↔ ¬ (Value.object xs).Congruent (.object ys)) ∧
      ∀ encoded, Text.Percent.Encodes plain.toList encoded.toList →
        (text encoded).decode = (parsed xs).decode ∧
        (text encoded).differs (some new) = (parsed xs).differs (some new) := by
  obtain ⟨plain, hplain⟩ := (hxs.writable compact).serialize what
  obtain ⟨new, hnew⟩ := (hys.writable compact).serialize what
  have hreadPlain : Reading.ofText? plain = some (Value.object xs).spelled :=
    hxs.reading_of_serialize hplain
  have hreadNew : Reading.ofText? new = some (Value.object ys).spelled :=
    hys.reading_of_serialize hnew
  have hdecode := decode_parsed hplain
  have hdiffers : (parsed xs).differs (some new) = !(Value.object xs).equal (.object ys) := by
    rw [differs_parsed hreadNew, Value.equal_spelled]
  refine ⟨plain, new, hplain, hnew, hdecode, ?_, fun encoded hencoded => ⟨?_, ?_⟩⟩
  · rw [hdiffers, Bool.not_eq_true', ← Bool.not_eq_true, Value.equal_object_iff_congruent hxs hys]
  · rw [decode_text hencoded, hdecode]
  · rw [differs_text hencoded hreadPlain hreadNew, Value.equal_spelled, hdiffers]

/-- Objects that are written in another order and with other kinds of the same numbers are told
apart in no form; a percent sign in a name and digits in both cases make no difference. But an
integer is told apart from the double that is nearest to it. -/
theorem parsed_encoded_agree_mixed_numbers :
    let half : Decimal.Binary64 := .finite false (Nat.pow 2 52) (-53)
    let one : Decimal.Binary64 := .finite false (Nat.pow 2 52) (-52)
    let xs : Members :=
      [("100%", .array [.bool true, .float half, .float (.infinite true)]),
        ("\u00fc", .object [("n", .int 9007199254740993)])]
    let ys : Members :=
      [("\u00fc", .object [("n", .int 9007199254740993)]),
        ("100%", .array [.float one, .float half, .float (.infinite true)])]
    let zs : Members :=
      [("\u00fc", .object [("n", .float (.finite false (Nat.pow 2 52) 1))]),
        ("100%", .array [.int 1, .float half, .float (.infinite true)])]
    let plain := "\x7b\"100%\":[true,0.5,-Infinity],\"\\u00fc\":\x7b\"n\":9007199254740993\x7d\x7d"
    let encoded :=
      "%7b%22100%25%22:[true,0.5,-Infinity],%22%5Cu00fc%22:%7b%22n%22:9007199254740993%7D%7D"
    (Value.object xs).Faithful ∧ (Value.object ys).Faithful ∧ (Value.object zs).Faithful ∧
      Text.Percent.Encodes plain.toList encoded.toList ∧
      (text encoded).decode = .ok (some plain) ∧
      (∃ new, serialize "policy document" (.object ys) = .ok new ∧
        (text encoded).differs (some new) = false) ∧
      ∃ new, serialize "policy document" (.object zs) = .ok new ∧
        (text encoded).differs (some new) = true := by
  intro half one xs ys zs plain encoded
  have hhalf : Reader.readBack half = half := by decide +kernel
  have hone : Reader.readBack one = one := by decide +kernel
  have hlarge :
      Reader.readBack (.finite false (Nat.pow 2 52) 1) = .finite false (Nat.pow 2 52) 1 := by
    decide +kernel
  have hinfinite : Reader.readBack (.infinite true) = .infinite true := rfl
  have hfew : Text.FewDigits 9007199254740993 ∧ Text.FewDigits 1 := by decide +kernel
  have hxs : (Value.object xs).Faithful := by
    simp [xs, Value.faithful_object_iff, Value.faithful_array_iff, Value.Faithful.bool,
      Value.faithful_int_iff, Value.Faithful.float, hhalf, hinfinite, hfew]
  have hys : (Value.object ys).Faithful := by
    simp [ys, Value.faithful_object_iff, Value.faithful_array_iff, Value.faithful_int_iff,
      Value.Faithful.float, hone, hhalf, hinfinite, hfew]
  have hzs : (Value.object zs).Faithful := by
    simp [zs, Value.faithful_object_iff, Value.faithful_array_iff, Value.faithful_int_iff,
      Value.Faithful.float, hlarge, hhalf, hinfinite, hfew]
  have hplain : serialize "policy document" (.object xs) = .ok plain :=
    serialize_eq_ok_iff.mpr (by decide +kernel)
  have hencodes : Text.Percent.Encodes plain.toList encoded.toList := by
    have hencoded : encoded.toList = Text.Percent.encodeWhere
        (fun c => c ∈ ['\x7b', '\x7d', '"', '%', '\\']) (fun c => c ∈ ['\x7d', '\\'])
        plain.toList := by
      decide +kernel
    rw [hencoded]
    exact Text.Percent.encodes_encodeWhere rfl _ _
  obtain ⟨plain', new, hplain', hnew, hdecode, hiff, hforms⟩ :=
    parsed_encoded_agree "policy document" hxs hys
  obtain rfl : plain = plain' := Except.ok.inj (hplain.symm.trans hplain')
  obtain ⟨plain'', new', hplain'', hnew', _, hiff', hforms'⟩ :=
    parsed_encoded_agree "policy document" hxs hzs
  obtain rfl : plain = plain'' := Except.ok.inj (hplain.symm.trans hplain'')
  refine ⟨hxs, hys, hzs, hencodes, ?_, ⟨new, hnew, ?_⟩, new', hnew', ?_⟩
  · rw [(hforms encoded hencodes).1, hdecode]
  · rw [(hforms encoded hencodes).2, ← Bool.not_eq_true, hiff, not_not,
      ← Value.equal_object_iff_congruent hxs hys]
    decide +kernel
  · rw [(hforms' encoded hencodes).2, hiff', ← Value.equal_object_iff_congruent hxs hzs]
    decide +kernel

end Stored

end CloudIdentity.Document

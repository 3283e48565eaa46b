import CloudIdentity.Document.Stored
import CloudIdentity.Proofs.Document.Printable
import CloudIdentity.Proofs.Failure.Canonical

/-!
Documents as texts. A document has a text unless something in it has none; the text is printable and
is read back as the document. Of a document without doubles nothing is lost: what is read is the
document itself, with the members of each object in order, and so it has the same text again.
-/

namespace CloudIdentity.Document

variable {what text : String} {v : Value} {spacing : Spacing}

theorem serialize_eq_ok_iff : serialize what v = .ok text ↔ v.text? compact = some text := by
  rw [serialize]
  cases v.text? compact <;> simp

theorem Value.Writable.serialize (h : v.Writable compact) (what : String) :
    ∃ text, Document.serialize what v = .ok text := by
  obtain ⟨cs, hcs⟩ := h
  exact ⟨.ofList cs, serialize_eq_ok_iff.mpr (by rw [Value.text?, hcs, Option.map_some])⟩

/-- Whether a document has a text, and which, does not depend on what it is called. -/
theorem serialize_again (h : serialize what v = .ok text) (again : String) :
    serialize again v = .ok text :=
  serialize_eq_ok_iff.mpr (serialize_eq_ok_iff.mp h)

theorem printable_serialize (h : serialize what v = .ok text) : Printable text.toList := by
  obtain ⟨cs, hcs, rfl⟩ := Option.map_eq_some_iff.mp (serialize_eq_ok_iff.mp h)
  rw [String.toList_ofList]
  exact Printable.of_write? (by decide) (by decide) v cs hcs

/-! ## What has no text -/

namespace Value

/-- A value is foreign or an integer with too many digits, or such a value occurs in it at some
depth. -/
inductive Unencodable : Value → Prop where
  | foreign (label : String) : Unencodable (.foreign label)
  | int {n : Int} (many : ¬ Text.FewDigits n) : Unencodable (.int n)
  | item {items : List Value} {v : Value} (hmem : v ∈ items) (h : Unencodable v) :
      Unencodable (.array items)
  | member {members : Members} {m : String × Value} (hmem : m ∈ members)
      (h : Unencodable m.2) : Unencodable (.object members)

/-- The integers that cannot be encoded are those from a power of ten on, whatever their sign. -/
theorem unencodable_int_iff {n : Int} : Unencodable (.int n) ↔ 10 ^ Text.maxDigits ≤ n.natAbs := by
  have hfew : Text.FewDigits n ↔ n.natAbs < 10 ^ Text.maxDigits :=
    Nat.length_toDigits_le_iff (by decide) (by decide)
  rw [← not_lt, ← hfew]
  constructor
  · intro h
    cases h with
    | int many => exact many
  · exact .int

theorem writable_of_mem_items {items : List Value} {texts : List (List Char)}
    (h : writeItems? spacing items = some texts) (hmem : v ∈ items) : v.Writable spacing := by
  induction items generalizing texts with
  | nil => cases hmem
  | cons w items ih =>
    obtain ⟨text, more, htext, hmore, _⟩ := writeItems?_cons h
    rcases List.mem_cons.mp hmem with rfl | hrest
    · exact ⟨text, htext⟩
    · exact ih hmore hrest

theorem writable_of_mem_members {members : Members} {texts : List (List Char)}
    {m : String × Value} (h : writeMembers? spacing members = some texts) (hmem : m ∈ members) :
    m.2.Writable spacing := by
  induction members generalizing texts with
  | nil => cases hmem
  | cons head members ih =>
    obtain ⟨name, w⟩ := head
    obtain ⟨text, more, htext, hmore, _⟩ := writeMembers?_cons h
    rcases List.mem_cons.mp hmem with rfl | hrest
    · exact ⟨text, htext⟩
    · exact ih hmore hrest

/-- The text of a value has the text of each of its parts in it. -/
theorem Unencodable.not_writable (h : v.Unencodable) : ¬ v.Writable spacing := by
  rintro ⟨text, htext⟩
  induction h generalizing text with
  | foreign label => cases htext
  | int many => exact many (write?_int_eq_some_iff.mp htext).1
  | item hmem _ ih =>
    obtain ⟨texts, htexts, _⟩ := Option.map_eq_some_iff.mp htext
    obtain ⟨part, hpart⟩ := writable_of_mem_items htexts hmem
    exact ih part hpart
  | member hmem _ ih =>
    obtain ⟨texts, htexts, _⟩ := Option.map_eq_some_iff.mp htext
    obtain ⟨part, hpart⟩ := writable_of_mem_members htexts hmem
    exact ih part hpart

/-- A value has a text if it has a property that its parts have with it, and that foreign values and
integers with too many digits lack. -/
theorem writable_of_hereditary {P : Value → Prop} (foreign : ∀ label, ¬ P (.foreign label))
    (int : ∀ n, P (.int n) → Text.FewDigits n)
    (array : ∀ items, P (.array items) → ∀ v ∈ items, P v)
    (object : ∀ members, P (.object members) → ∀ m ∈ members, P m.2) (v : Value) (h : P v) :
    v.Writable spacing := by
  induction v using nested_induction with
  | leaf v hleaf =>
    cases v with
    | array items => cases hleaf
    | object members => cases hleaf
    | foreign label => exact absurd h (foreign label)
    | int n => exact writable_int (int n h)
    | null | bool | float | notANumber | str => exact ⟨_, rfl⟩
  | array items ih => exact writable_array fun v hv => ih v hv (array items h v hv)
  | object members ih => exact writable_object fun m hm => ih m hm (object members h m hm)

theorem writable_of_not_unencodable (v : Value) (h : ¬ v.Unencodable) : v.Writable spacing := by
  refine writable_of_hereditary (P := fun v => ¬ v.Unencodable) ?_ ?_ ?_ ?_ v h
  · exact fun label hnone => hnone (.foreign label)
  · exact fun n hnone => not_not.mp fun many => hnone (.int many)
  · exact fun items hnone v hv hpart => hnone (.item hv hpart)
  · exact fun members hnone m hm hpart => hnone (.member hm hpart)

/-- A value has a text unless something that cannot be encoded occurs in it. Not-a-number and the
infinities can be. -/
theorem writable_iff : v.Writable spacing ↔ ¬ v.Unencodable :=
  ⟨fun hwritable hpart => hpart.not_writable hwritable, writable_of_not_unencodable v⟩

theorem obstacleItems?_eq_none_iff {items : List Value} :
    obstacleItems? items = none ↔ ∀ v ∈ items, v.obstacle? = none := by
  induction items with
  | nil => exact iff_of_true rfl nofun
  | cons v items ih => rw [obstacleItems?, Option.or_eq_none_iff, ih, List.forall_mem_cons]

theorem obstacleMembers?_eq_none_iff {members : Members} :
    obstacleMembers? members = none ↔ ∀ m ∈ members, m.2.obstacle? = none := by
  induction members with
  | nil => exact iff_of_true rfl nofun
  | cons m members ih => rw [obstacleMembers?, Option.or_eq_none_iff, ih, List.forall_mem_cons]

/-- Something stands in the way of every value that has no text. -/
theorem writable_of_obstacle?_eq_none (v : Value) (h : v.obstacle? = none) :
    v.Writable spacing := by
  refine writable_of_hereditary (P := fun v => v.obstacle? = none) ?_ ?_ ?_ ?_ v h
  · intro label hnone
    cases hnone
  · intro n hnone
    rw [obstacle?] at hnone
    split at hnone
    · next hfew => exact hfew
    · cases hnone
  · intro items hnone
    rwa [obstacle?, obstacleItems?_eq_none_iff] at hnone
  · intro members hnone
    rwa [obstacle?, obstacleMembers?_eq_none_iff] at hnone

end Value

/-- What cannot be written down is an invalid argument, which tells what it was to be. -/
theorem serialize_error {f : Failure} (h : serialize what v = .error f) :
    f.IsOfKind .invalidArgument ∧ f.message = "Failed to serialize " ++ what := by
  rw [serialize] at h
  split at h
  · cases h
  · obtain rfl := Except.error.inj h
    exact ⟨(Failure.isOfKind_ofKind .invalidArgument _).withCause _, rfl⟩

/-- The cause of a refusal is the first thing in the document that has no text. -/
theorem serialize_cause {f : Failure} (h : serialize what v = .error f) :
    ∃ obstacle, v.obstacle? = some obstacle ∧ f.cause = some (Value.noText (some obstacle)) := by
  cases hobstacle : v.obstacle? with
  | none =>
    obtain ⟨text, htext⟩ := (v.writable_of_obstacle?_eq_none hobstacle).serialize what
    rw [htext] at h
    cases h
  | some obstacle =>
    rw [serialize, hobstacle] at h
    split at h
    · cases h
    · obtain rfl := Except.error.inj h
      exact ⟨obstacle, rfl, rfl⟩

theorem exists_serialize_iff (what : String) :
    (∃ text, serialize what v = .ok text) ↔ ¬ v.Unencodable := by
  constructor
  · rintro ⟨text, htext⟩
    obtain ⟨cs, hcs, _⟩ := Option.map_eq_some_iff.mp (serialize_eq_ok_iff.mp htext)
    exact Value.writable_iff.mp ⟨cs, hcs⟩
  · intro hnone
    exact (Value.writable_iff.mpr hnone).serialize what

/-- A document is refused as an invalid argument just if something that cannot be encoded occurs in
it. -/
theorem serialize_refuses_iff (what : String) :
    (∃ f : Failure, f.IsOfKind .invalidArgument ∧ serialize what v = .error f) ↔
      v.Unencodable := by
  constructor
  · rintro ⟨f, _, hf⟩
    by_contra hnone
    obtain ⟨text, htext⟩ := (exists_serialize_iff what).mpr hnone
    rw [htext] at hf
    cases hf
  · intro hpart
    cases hserialized : serialize what v with
    | error f => exact ⟨f, (serialize_error hserialized).1, rfl⟩
    | ok text => exact absurd hpart ((exists_serialize_iff what).mp ⟨text, hserialized⟩)

/-! ## What survives in a text -/

namespace Value

theorem Faithful.ofText?_of_serialize (hv : v.Faithful) (h : Document.serialize what v = .ok text) :
    Value.ofText? text = some v :=
  hv.ofText?_of_text? Reader.passes_compact (serialize_eq_ok_iff.mp h)

theorem Faithful.reading_of_serialize (hv : v.Faithful)
    (h : Document.serialize what v = .ok text) : Reading.ofText? text = some v.spelled :=
  hv.reading_of_text? Reader.passes_compact (serialize_eq_ok_iff.mp h)

/-- A value made of null, booleans, integers with few digits, strings, arrays, and objects with
distinct names. -/
inductive Discrete : Value → Prop where
  | null : Discrete .null
  | bool (b : Bool) : Discrete (.bool b)
  | int {n : Int} (few : Text.FewDigits n) : Discrete (.int n)
  | str (s : String) : Discrete (.str s)
  | array {items : List Value} (h : ∀ v ∈ items, Discrete v) : Discrete (.array items)
  | object {members : Members} (names : (members.map Prod.fst).Nodup)
      (h : ∀ m ∈ members, Discrete m.2) : Discrete (.object members)

theorem Discrete.faithful (h : v.Discrete) : v.Faithful := by
  induction h with
  | null => exact .null
  | bool b => exact .bool b
  | int few => exact .int few
  | str s => exact .str s
  | array _ ih => exact .array ih
  | object names _ ih => exact .object names ih

end Value

/-- A document without doubles survives as a text, however deep it is. It has a text, and that is
printable; it is read as the very document, members in order; and what is read has the same text. -/
theorem discrete_round_trip (what : String) (h : v.Discrete) :
    ∃ text, serialize what v = .ok text ∧
      (∀ c ∈ text.toList, 0x20 ≤ c.toNat ∧ c.toNat < 0x7F) ∧
      Value.ofText? text = some v ∧
      ∀ again w, Value.ofText? text = some w → serialize again w = .ok text := by
  obtain ⟨text, htext⟩ := (h.faithful.writable compact).serialize what
  have hread : Value.ofText? text = some v := h.faithful.ofText?_of_serialize htext
  refine ⟨text, htext, printable_serialize htext, hread, fun again w hw => ?_⟩
  obtain rfl : v = w := Option.some.inj (hread.symm.trans hw)
  exact serialize_again htext again

/-- Names out of order, a character of each kind of escape, a large negative integer, and nothing
inside an array and an object. -/
theorem discrete_round_trip_escapes :
    let v : Value := .object
      [("z", .array [.int (-18446744073709551617), .bool true, .null, .array [], .object []]),
        ("a\n\"\\/", .str "%\u00fc\u0001\u007f\uffff😀")]
    let text := "\x7b\"z\":[-18446744073709551617,true,null,[],\x7b\x7d]," ++
      "\"a\\n\\\"\\\\/\":\"%\\u00fc\\u0001\\u007f\\uffff\\ud83d\\ude00\"\x7d"
    v.Discrete ∧ serialize "policy document" v = .ok text ∧ Value.ofText? text = some v := by
  intro v text
  have hv : v.Discrete := by
    refine .object (by decide) ?_
    simp only [List.forall_mem_cons, List.not_mem_nil, false_implies, implies_true, and_true]
    refine ⟨.array ?_, .str _⟩
    simp only [List.forall_mem_cons, List.not_mem_nil, false_implies, implies_true, and_true]
    exact ⟨.int (by decide +kernel), .bool true, .null, .array nofun, .object List.nodup_nil nofun⟩
  have htext : serialize "policy document" v = .ok text :=
    serialize_eq_ok_iff.mpr (by decide +kernel)
  obtain ⟨text', htext', _, hread, _⟩ := discrete_round_trip "policy document" hv
  obtain rfl : text = text' := Except.ok.inj (htext.symm.trans htext')
  exact ⟨hv, htext, hread⟩

end CloudIdentity.Document

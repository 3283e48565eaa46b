import CloudIdentity.Proofs.Document.Layout
import CloudIdentity.Proofs.Document.Readings

/-!
Every value that has a text is read back from it. Strings, integers and the order of the members
come back as they were; a double comes back as what its own text stands for, and not-a-number as
the interned one. Blanks after commas and colons make no difference.
-/

namespace CloudIdentity.Document

/-! ## What a text is read as -/

namespace Value

mutual

/-- The value that the text of a value is read as. -/
def reread : Value → Value
  | .float x => .float (Reader.readBack x)
  | .notANumber _ => .notANumber true
  | .array items => .array (rereadItems items)
  | .object members => .object (Members.ofWritten (rereadMembers members))
  | v => v

def rereadItems : List Value → List Value
  | [] => []
  | v :: rest => reread v :: rereadItems rest

def rereadMembers : List (String × Value) → List (String × Value)
  | [] => []
  | (name, v) :: rest => (name, reread v) :: rereadMembers rest

end

variable {spacing : Spacing}

theorem writeItems?_cons {v : Value} {rest : List Value} {texts : List (List Char)}
    (h : writeItems? spacing (v :: rest) = some texts) :
    ∃ text more, v.write? spacing = some text ∧ writeItems? spacing rest = some more ∧
      texts = text :: more := by
  rw [writeItems?] at h
  split at h
  · next text more htext hmore => exact ⟨text, more, htext, hmore, (Option.some.inj h).symm⟩
  · cases h

theorem writeMembers?_cons {name : String} {v : Value} {rest : Members} {texts : List (List Char)}
    (h : writeMembers? spacing ((name, v) :: rest) = some texts) :
    ∃ text more, v.write? spacing = some text ∧ writeMembers? spacing rest = some more ∧
      texts = (quote name ++ spacing.afterName ++ text) :: more := by
  rw [writeMembers?] at h
  split at h
  · next text more htext hmore => exact ⟨text, more, htext, hmore, (Option.some.inj h).symm⟩
  · cases h

theorem write?_int_eq_some_iff {n : Int} {text : List Char} :
    write? spacing (.int n) = some text ↔ Text.FewDigits n ∧ Text.integer n = text := by
  rw [write?]
  split <;> simp [*]

/-! ## Which values have a text -/

def Writable (spacing : Spacing) (v : Value) : Prop := ∃ text, v.write? spacing = some text

theorem writable_str (s : String) : Writable spacing (.str s) := ⟨_, rfl⟩

theorem writable_int {n : Int} (h : Text.FewDigits n) : Writable spacing (.int n) :=
  ⟨_, write?_int_eq_some_iff.mpr ⟨h, rfl⟩⟩

theorem writable_array {items : List Value} (h : ∀ v ∈ items, Writable spacing v) :
    Writable spacing (.array items) := by
  suffices hitems : ∃ texts, writeItems? spacing items = some texts by
    obtain ⟨texts, htexts⟩ := hitems
    exact ⟨_, by rw [write?, htexts, Option.map_some]⟩
  induction items with
  | nil => exact ⟨[], rfl⟩
  | cons v items ih =>
    obtain ⟨text, htext⟩ := h v List.mem_cons_self
    obtain ⟨texts, htexts⟩ := ih fun w hw => h w (List.mem_cons_of_mem v hw)
    exact ⟨_, by rw [writeItems?, htext, htexts]⟩

theorem writable_object {members : Members} (h : ∀ m ∈ members, Writable spacing m.2) :
    Writable spacing (.object members) := by
  suffices hmembers : ∃ texts, writeMembers? spacing members = some texts by
    obtain ⟨texts, htexts⟩ := hmembers
    exact ⟨_, by rw [write?, htexts, Option.map_some]⟩
  induction members with
  | nil => exact ⟨[], rfl⟩
  | cons m members ih =>
    obtain ⟨text, htext⟩ := h m List.mem_cons_self
    obtain ⟨texts, htexts⟩ := ih fun w hw => h w (List.mem_cons_of_mem m hw)
    exact ⟨_, by rw [writeMembers?, htext, htexts]⟩

theorem writable_ofTexts (texts : List String) : Writable spacing (.ofTexts texts) := by
  apply writable_array
  intro v hv
  obtain ⟨s, _, rfl⟩ := List.mem_map.mp hv
  exact writable_str s

end Value

namespace Reader

/-! ## What a written text lays out -/

/-- A spacing that a reader passes over: a comma or a colon, and blanks. -/
structure Passes (spacing : Spacing) where
  itemBlanks : List Char
  nameBlanks : List Char
  afterItem : spacing.afterItem = ',' :: itemBlanks
  afterName : spacing.afterName = ':' :: nameBlanks
  items : ∀ c ∈ itemBlanks, isSpace c = true
  names : ∀ c ∈ nameBlanks, isSpace c = true

def passes_compact : Passes compact := ⟨[], [], rfl, rfl, by simp, by simp⟩

def passes_spaced : Passes spaced := ⟨[' '], [' '], rfl, rfl, by simp [isSpace], by simp [isSpace]⟩

variable {spacing : Spacing}

/-- Every text of the value lays out what the value is read back as. -/
def WrittenOut (spacing : Spacing) (v : Value) : Prop :=
  ∀ text, v.write? spacing = some text → Layout text v.reread.spelled

theorem writtenOut_leaf {v : Value} (hleaf : v.isLeaf = true) : WrittenOut spacing v := by
  intro text htext
  cases v with
  | array items => cases hleaf
  | object members => cases hleaf
  | foreign label => cases htext
  | str s =>
    obtain rfl := Option.some.inj htext
    exact .string (string?_escaped s [])
  | int n =>
    obtain ⟨hfew, rfl⟩ := Value.write?_int_eq_some_iff.mp htext
    have hread := number?_integer hfew ended_nil
    rw [List.append_nil] at hread
    exact .literal (literal?_of_number? hread)
  | float x =>
    obtain rfl := Option.some.inj htext
    have hread := literal?_double x ended_nil
    rw [List.append_nil] at hread
    exact .literal hread
  | bool b =>
    obtain rfl := Option.some.inj htext
    cases b <;> exact .literal rfl
  | null =>
    obtain rfl := Option.some.inj htext
    exact .literal rfl
  | notANumber interned =>
    obtain rfl := Option.some.inj htext
    exact .literal rfl

/-- The texts of items, one at least, with the spacing between them. -/
theorem laysItems_written (hs : Passes spacing) {items : List Value} {texts : List (List Char)}
    (hitems : ∀ v ∈ items, WrittenOut spacing v)
    (htexts : Value.writeItems? spacing items = some texts) (hne : items ≠ []) :
    LaysItems (spacing.afterItem.intercalate texts)
      (Value.spelledItems (Value.rereadItems items)) := by
  induction items generalizing texts with
  | nil => exact absurd rfl hne
  | cons v items ih =>
    obtain ⟨text, more, htext, hmore, rfl⟩ := Value.writeItems?_cons htexts
    have hvalue := hitems v List.mem_cons_self text htext
    obtain ⟨i, hi, hspaced, hlaid, rfl⟩ := exists_item_bare hvalue
    rw [Value.rereadItems, Value.spelledItems, ← hi]
    cases items with
    | nil =>
      obtain rfl : more = [] := (Option.some.inj hmore).symm
      rw [List.intercalate_singleton]
      exact .singleton hspaced hlaid
    | cons v' items =>
      obtain ⟨text', more', _, _, rfl⟩ := Value.writeItems?_cons hmore
      have hrest :=
        ih (fun w hw => hitems w (List.mem_cons_of_mem v hw)) hmore (List.cons_ne_nil _ _)
      rw [List.intercalate_cons_cons, List.append_assoc, hs.afterItem, List.cons_append]
      rw [hs.afterItem] at hrest
      exact .cons hspaced hlaid (hrest.blanks_append hs.items)

/-- The texts of members, one at least, with the spacing between them. -/
theorem laysMembers_written (hs : Passes spacing) {members : Members} {texts : List (List Char)}
    (hmembers : ∀ m ∈ members, WrittenOut spacing m.2)
    (htexts : Value.writeMembers? spacing members = some texts) (hne : members ≠ []) :
    LaysMembers (spacing.afterItem.intercalate texts)
      (Value.spelledMembers (Value.rereadMembers members)) := by
  induction members generalizing texts with
  | nil => exact absurd rfl hne
  | cons m members ih =>
    obtain ⟨name, v⟩ := m
    obtain ⟨text, more, htext, hmore, rfl⟩ := Value.writeMembers?_cons htexts
    have hvalue := hmembers (name, v) List.mem_cons_self text htext
    obtain ⟨e, he, hspaced, hlaid, hentry⟩ :=
      exists_entry_bare (string?_escaped name []) hs.names hvalue
    have hwritten : quote name ++ spacing.afterName ++ text = e.text := by
      rw [← hentry, hs.afterName]
      simp [quote]
    rw [Value.rereadMembers, Value.spelledMembers, ← he, hwritten]
    cases members with
    | nil =>
      obtain rfl : more = [] := (Option.some.inj hmore).symm
      rw [List.intercalate_singleton]
      exact .singleton hspaced hlaid
    | cons m' members =>
      obtain ⟨text', more', _, _, rfl⟩ := Value.writeMembers?_cons hmore
      have hrest :=
        ih (fun w hw => hmembers w (List.mem_cons_of_mem _ hw)) hmore (List.cons_ne_nil _ _)
      rw [List.intercalate_cons_cons, List.append_assoc, hs.afterItem, List.cons_append]
      rw [hs.afterItem] at hrest
      exact .cons hspaced hlaid (hrest.blanks_append hs.items)

theorem writtenOut_array (hs : Passes spacing) {items : List Value}
    (hitems : ∀ v ∈ items, WrittenOut spacing v) : WrittenOut spacing (.array items) := by
  intro text htext
  rw [Value.write?, Option.map_eq_some_iff] at htext
  obtain ⟨texts, htexts, rfl⟩ := htext
  rw [Value.reread, Value.spelled, List.cons_append]
  cases items with
  | nil =>
    obtain rfl : texts = [] := (Option.some.inj htexts).symm
    exact layout_array_nil blanks_nil
  | cons v items =>
    exact (laysItems_written hs hitems htexts (List.cons_ne_nil v items)).layout

theorem writtenOut_object (hs : Passes spacing) {members : Members}
    (hmembers : ∀ m ∈ members, WrittenOut spacing m.2) : WrittenOut spacing (.object members) := by
  intro text htext
  rw [Value.write?, Option.map_eq_some_iff] at htext
  obtain ⟨texts, htexts, rfl⟩ := htext
  rw [Value.reread, Value.spelled, Value.spelledMembers_ofWritten, List.cons_append]
  cases members with
  | nil =>
    obtain rfl : texts = [] := (Option.some.inj htexts).symm
    exact layout_object_nil blanks_nil
  | cons m members =>
    exact (laysMembers_written hs hmembers htexts (List.cons_ne_nil m members)).layout

theorem writtenOut (hs : Passes spacing) (v : Value) : WrittenOut spacing v := by
  induction v using Value.nested_induction with
  | leaf v hleaf => exact writtenOut_leaf hleaf
  | array items ih => exact writtenOut_array hs ih
  | object members ih => exact writtenOut_object hs ih

end Reader

/-- A value that has a text is read back from it. -/
theorem Value.ofText?_of_text? {spacing : Spacing} (hs : Reader.Passes spacing) {v : Value}
    {s : String} (h : v.text? spacing = some s) : Value.ofText? s = some v.reread := by
  obtain ⟨text, htext, rfl⟩ := Option.map_eq_some_iff.mp h
  have hlayout := Reader.writtenOut hs v text htext
  rw [Value.ofText?_eq_some_iff, Reading.ofText?_eq_some_iff, String.toList_ofList]
  exact ⟨[], text, [], Reader.blanks_nil, Reader.blanks_nil, hlayout, (List.append_nil text).symm⟩

/-! ## Values that come back as they were -/

namespace Value

/-- A value that its text tells all of: no not-a-number occurs in it and nothing without a text,
every double in it is what its own text is read as, and every object in it has distinct names. -/
inductive Faithful : Value → Prop where
  | null : Faithful .null
  | bool (b : Bool) : Faithful (.bool b)
  | int {n : Int} (few : Text.FewDigits n) : Faithful (.int n)
  | float {x : Decimal.Binary64} (back : Reader.readBack x = x) : Faithful (.float x)
  | str (s : String) : Faithful (.str s)
  | array {items : List Value} (h : ∀ v ∈ items, Faithful v) : Faithful (.array items)
  | object {members : Members} (names : (members.map Prod.fst).Nodup)
      (h : ∀ m ∈ members, Faithful m.2) : Faithful (.object members)

theorem faithful_int_iff {n : Int} : Faithful (.int n) ↔ Text.FewDigits n := by
  constructor
  · intro h
    cases h with
    | int few => exact few
  · exact .int

theorem faithful_array_iff {items : List Value} :
    Faithful (.array items) ↔ ∀ v ∈ items, Faithful v := by
  constructor
  · intro h
    cases h with
    | array h => exact h
  · exact .array

theorem faithful_object_iff {members : Members} :
    Faithful (.object members) ↔
      (members.map Prod.fst).Nodup ∧ ∀ m ∈ members, Faithful m.2 := by
  constructor
  · intro h
    cases h with
    | object names h => exact ⟨names, h⟩
  · rintro ⟨names, h⟩
    exact .object names h

theorem faithful_ofTexts (texts : List String) : Faithful (.ofTexts texts) := by
  refine .array fun v hv => ?_
  obtain ⟨s, _, rfl⟩ := List.mem_map.mp hv
  exact .str s

theorem Faithful.writable {v : Value} (h : Faithful v) (spacing : Spacing) :
    Writable spacing v := by
  induction h with
  | null | bool | float | str => exact ⟨_, rfl⟩
  | int few => exact writable_int few
  | array _ ih => exact writable_array ih
  | object _ _ ih => exact writable_object ih

theorem rereadItems_eq_self {items : List Value} (h : ∀ v ∈ items, v.reread = v) :
    rereadItems items = items := by
  induction items with
  | nil => rfl
  | cons v items ih =>
    rw [rereadItems, h v List.mem_cons_self, ih fun w hw => h w (List.mem_cons_of_mem v hw)]

theorem rereadMembers_eq_self {members : Members} (h : ∀ m ∈ members, m.2.reread = m.2) :
    rereadMembers members = members := by
  induction members with
  | nil => rfl
  | cons m members ih =>
    rw [rereadMembers, h m List.mem_cons_self, ih fun w hw => h w (List.mem_cons_of_mem m hw)]

theorem Faithful.reread {v : Value} (h : Faithful v) : v.reread = v := by
  induction h with
  | null | bool | int | str => rfl
  | float back => rw [Value.reread, back]
  | array _ ih => rw [Value.reread, rereadItems_eq_self ih]
  | object names _ ih =>
    rw [Value.reread, rereadMembers_eq_self ih, Members.ofWritten_eq_self names]

/-- A faithful value is what its text is read as. -/
theorem Faithful.ofText?_of_text? {spacing : Spacing} (hs : Reader.Passes spacing) {v : Value}
    {s : String} (hv : Faithful v) (h : v.text? spacing = some s) : Value.ofText? s = some v := by
  rw [Value.ofText?_of_text? hs h, hv.reread]

/-- The text of a faithful value says what the value does. -/
theorem Faithful.reading_of_text? {spacing : Spacing} (hs : Reader.Passes spacing) {v : Value}
    {s : String} (hv : Faithful v) (h : v.text? spacing = some s) :
    Reading.ofText? s = some v.spelled :=
  Value.ofText?_eq_some_iff.mp (hv.ofText?_of_text? hs h)

end Value

end CloudIdentity.Document

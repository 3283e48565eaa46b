import CloudIdentity.Proofs.Document.Numbers
import CloudIdentity.Proofs.Document.Strings

/-!
The texts of a value. `Layout` is their grammar: an array is its items with commas between them, an
object its members, and before and after each item, each name and each value there may be any
blanks. The reader accepts just the texts of the grammar, and reads each as the value that it lays
out; so blanks make no difference.
-/

namespace CloudIdentity.Document

namespace Reader

/-! ## The grammar -/

def Blanks (cs : List Char) : Prop := ∀ c ∈ cs, isSpace c = true

/-- A value in an array, or behind a name: its text, in blanks. -/
structure Item where
  before : List Char
  core : List Char
  after : List Char
  value : Reading

def Item.text (i : Item) : List Char := i.before ++ (i.core ++ i.after)

structure Item.Spaced (i : Item) : Prop where
  before : Blanks i.before
  after : Blanks i.after

/-- A member of an object: a quoted name in blanks, and a value behind a colon. -/
structure Entry where
  before : List Char
  quoted : List Char
  after : List Char
  name : Text.Codes
  item : Item

def Entry.text (e : Entry) : List Char :=
  e.before ++ '"' :: (e.quoted ++ (e.after ++ ':' :: e.item.text))

def Entry.member (e : Entry) : Text.Codes × Reading := (e.name, e.item.value)

structure Entry.Spaced (e : Entry) : Prop where
  before : Blanks e.before
  name : string? e.quoted = some (e.name, [])
  after : Blanks e.after
  item : e.item.Spaced

/-- Texts with commas between them; blanks where there is none. -/
inductive Listed : List (List Char) → List Char → Prop where
  | none {blanks : List Char} (h : Blanks blanks) : Listed [] blanks
  | last (text : List Char) : Listed [text] text
  | more {text next rest : List Char} {texts : List (List Char)}
      (h : Listed (next :: texts) rest) : Listed (text :: next :: texts) (text ++ ',' :: rest)

/-- The text lays out the value. Of two members with one name the last one counts. -/
inductive Layout : List Char → Reading → Prop where
  | literal {text : List Char} {v : Reading} (h : literal? text = some (v, [])) : Layout text v
  | string {quoted : List Char} {s : Text.Codes} (h : string? quoted = some (s, [])) :
      Layout ('"' :: quoted) (.str s)
  | array {items : List Item} {inner : List Char} (spaced : ∀ i ∈ items, i.Spaced)
      (values : ∀ i ∈ items, Layout i.core i.value) (listed : Listed (items.map Item.text) inner) :
      Layout ('[' :: (inner ++ [']'])) (.array (items.map Item.value))
  | object {entries : List Entry} {inner : List Char} (spaced : ∀ e ∈ entries, e.Spaced)
      (values : ∀ e ∈ entries, Layout e.item.core e.item.value)
      (listed : Listed (entries.map Entry.text) inner) :
      Layout ('{' :: (inner ++ ['}'])) (.object (Members.ofWritten (entries.map Entry.member)))

/-! ## Blanks -/

/-- The text begins with something that is neither a blank nor the end of an array or an object. -/
def Solid (text : List Char) : Prop :=
  ∃ c cs, text = c :: cs ∧ isSpace c = false ∧ c ≠ ']' ∧ c ≠ '}'

variable {blanks text rest : List Char} {v : Reading}

theorem blanks_nil : Blanks [] := by simp [Blanks]

theorem skipSpace_blanks (h : Blanks blanks) (rest : List Char) :
    skipSpace (blanks ++ rest) = skipSpace rest :=
  List.dropWhile_append_of_pos h

theorem skipSpace_cons {c : Char} (h : isSpace c = false) : skipSpace (c :: rest) = c :: rest := by
  rw [skipSpace, List.dropWhile_cons_of_neg (by simp [h])]

/-- A text is the blanks that it begins with and what is left of it without them. -/
theorem blanks_split (cs : List Char) : ∃ blanks, Blanks blanks ∧ cs = blanks ++ skipSpace cs :=
  ⟨cs.takeWhile isSpace, fun _ => List.mem_takeWhile_imp, List.takeWhile_append_dropWhile.symm⟩

theorem Solid.append (h : Solid text) (rest : List Char) : Solid (text ++ rest) := by
  obtain ⟨c, cs, rfl, hc⟩ := h
  exact ⟨c, cs ++ rest, rfl, hc⟩

theorem Solid.skipSpace (h : Solid text) : skipSpace text = text := by
  obtain ⟨c, cs, rfl, hc, _⟩ := h
  exact skipSpace_cons hc

theorem ended_cons {c : Char} (h : c = ',' ∨ c = ']' ∨ c = '}') : Ended (c :: rest) := by
  intro d hd
  obtain rfl := Option.some.inj hd
  exact Or.inr h

theorem Ended.blanks_append (h : Ended rest) (hblanks : Blanks blanks) :
    Ended (blanks ++ rest) := by
  cases blanks with
  | nil => exact h
  | cons c blanks =>
    intro d hd
    obtain rfl := Option.some.inj hd
    exact Or.inl (hblanks c List.mem_cons_self)

/-! ## Values that hold no others -/

/-- What a value without parts is read from begins like neither a blank nor a string, an array or an
object. -/
theorem literal?_head {c : Char} {cs : List Char} {result : Reading × List Char}
    (h : literal? (c :: cs) = some result) :
    isSpace c = false ∧ c ∉ [']', '}', '"', '[', '{'] := by
  have hother : ∀ d, literal? (d :: cs) = none → c ≠ d := by
    rintro d hnone rfl
    rw [hnone] at h
    cases h
  refine ⟨?_, ?_⟩
  · simp [isSpace, hother ' ' rfl, hother '\t' rfl, hother '\n' rfl, hother '\r' rfl]
  · simp [hother ']' rfl, hother '}' rfl, hother '"' rfl, hother '[' rfl, hother '{' rfl]

theorem value?_literal (steps : Nat) {cs : List Char} {result : Reading × List Char}
    (h : literal? cs = some result) : value? (steps + 1) cs = some result := by
  cases cs with
  | nil => cases h
  | cons c cs =>
    have hhead := (literal?_head h).2
    unfold value?
    dsimp only
    split
    · next hcons => simp [(List.cons.inj hcons).1] at hhead
    · next hcons => simp [(List.cons.inj hcons).1] at hhead
    · next hcons => simp [(List.cons.inj hcons).1] at hhead
    · exact h

theorem literal?_append (h : literal? text = some (v, [])) (hrest : Ended rest) :
    literal? (text ++ rest) = some (v, rest) := by
  obtain ⟨text', hsplit, _, htext⟩ := literal?_token h
  rw [List.append_nil] at hsplit
  rw [hsplit]
  exact htext rest hrest

theorem string?_append {s : Text.Codes} (h : string? text = some (s, [])) (rest : List Char) :
    string? (text ++ rest) = some (s, rest) := by
  obtain ⟨text', hsplit, htext⟩ := string?_token h
  rw [List.append_nil] at hsplit
  rw [hsplit]
  exact htext rest

/-- What begins with a digit is read as a number, or not at all. -/
theorem value?_of_isDigit {c : Char} {cs : List Char} (hc : c.isDigit = true)
    (h : literal? (c :: cs) = none) (steps : Nat) : value? steps (c :: cs) = none := by
  cases steps with
  | zero => rfl
  | succ steps =>
    unfold value?
    dsimp only
    split
    · next hcons => exact absurd (List.cons.inj hcons).1 (ne_of_isDigit hc rfl)
    · next hcons => exact absurd (List.cons.inj hcons).1 (ne_of_isDigit hc rfl)
    · next hcons => exact absurd (List.cons.inj hcons).1 (ne_of_isDigit hc rfl)
    · exact h

/-- An array is not read if its first item is digits and no number. -/
theorem read?_array_of_isDigit {c : Char} {cs : List Char} (hc : c.isDigit = true)
    (h : literal? (c :: cs) = none) : read? ('[' :: c :: cs) = none := by
  have hitems : ∀ steps, items? steps (c :: cs) = none := by
    intro steps
    cases steps with
    | zero => rfl
    | succ steps => rw [items?, value?_of_isDigit hc h]
  rw [read?, skipSpace_cons rfl, value?, skipSpace_cons (plain_of_isDigit hc).1]
  split
  · next hsome =>
    split at hsome
    · next hcons => exact absurd (List.cons.inj hcons).1 (ne_of_isDigit hc rfl)
    · rw [hitems] at hsome
      cases hsome
  · rfl

/-! ## Every text of the grammar is read -/

/-- A text is read as a value wherever a value may end behind it. The count of steps has to exceed
the length of the text. -/
structure Legible (text : List Char) (v : Reading) : Prop where
  solid : Solid text
  value : ∀ steps rest, text.length < steps → Ended rest →
    value? steps (text ++ rest) = some (v, rest)

theorem legible_literal (h : literal? text = some (v, [])) : Legible text v where
  solid := by
    cases text with
    | nil => cases h
    | cons c cs =>
      obtain ⟨hspace, hother⟩ := literal?_head h
      exact ⟨c, cs, rfl, hspace, fun hc => hother (by simp [hc]), fun hc => hother (by simp [hc])⟩
  value steps rest hsteps hrest := by
    obtain ⟨k, rfl⟩ := Nat.exists_eq_succ_of_ne_zero (by omega : steps ≠ 0)
    exact value?_literal k (literal?_append h hrest)

theorem solid_cons {c : Char} {cs : List Char} (hspace : isSpace c = false)
    (harray : c ≠ ']') (hobject : c ≠ '}') : Solid (c :: cs) :=
  ⟨c, cs, rfl, hspace, harray, hobject⟩

theorem legible_string {s : Text.Codes} (h : string? text = some (s, [])) :
    Legible ('"' :: text) (.str s) where
  solid := solid_cons rfl (by simp) (by simp)
  value steps rest hsteps _ := by
    obtain ⟨k, rfl⟩ := Nat.exists_eq_succ_of_ne_zero (by omega : steps ≠ 0)
    have hread := string?_append h rest
    rw [List.cons_append, value?.eq_def]
    simp only [hread]
    rfl

namespace Item

variable {i : Item}

theorem skipSpace_text (hspaced : i.Spaced) (hcore : Solid i.core) (rest : List Char) :
    skipSpace (i.text ++ rest) = i.core ++ (i.after ++ rest) := by
  rw [Item.text, List.append_assoc, List.append_assoc, skipSpace_blanks hspaced.before]
  exact (hcore.append _).skipSpace

theorem length_core_le (i : Item) : i.core.length ≤ i.text.length := by
  simp only [Item.text, List.length_append]
  omega

/-- An item is read up to what ends it, and the blanks before that are skipped. -/
theorem reads (hspaced : i.Spaced) (hcore : Legible i.core i.value) {steps : Nat}
    (hsteps : i.core.length < steps) {c : Char} (hc : c = ',' ∨ c = ']' ∨ c = '}')
    (rest : List Char) :
    ∃ tail, value? steps (skipSpace (i.text ++ c :: rest)) = some (i.value, tail) ∧
      skipSpace tail = c :: rest := by
  have hspace : isSpace c = false := by rcases hc with rfl | rfl | rfl <;> rfl
  refine ⟨i.after ++ c :: rest, ?_, ?_⟩
  · rw [skipSpace_text hspaced hcore.solid]
    exact hcore.value steps _ hsteps ((ended_cons hc).blanks_append hspaced.after)
  · rw [skipSpace_blanks hspaced.after, skipSpace_cons hspace]

end Item

namespace Entry

variable {e : Entry}

theorem skipSpace_text (hspaced : e.Spaced) (rest : List Char) :
    skipSpace (e.text ++ rest) =
      '"' :: (e.quoted ++ (e.after ++ ':' :: (e.item.text ++ rest))) := by
  rw [Entry.text, List.append_assoc, skipSpace_blanks hspaced.before, List.cons_append,
    skipSpace_cons rfl]
  simp only [List.append_assoc, List.cons_append]

/-- The name is read up to the colon, and the blanks before that are skipped. -/
theorem reads_name (hspaced : e.Spaced) (rest : List Char) :
    ∃ tail, string? (e.quoted ++ (e.after ++ ':' :: (e.item.text ++ rest))) =
        some (e.name, tail) ∧ skipSpace tail = ':' :: (e.item.text ++ rest) := by
  refine ⟨_, string?_append hspaced.name _, ?_⟩
  rw [skipSpace_blanks hspaced.after, skipSpace_cons rfl]

theorem length_core_le (e : Entry) : e.item.core.length ≤ e.text.length := by
  have hitem := e.item.length_core_le
  simp only [Entry.text, List.length_append, List.length_cons]
  omega

end Entry

theorem length_le_of_listed {inner : List Char} {texts : List (List Char)}
    (h : Listed (text :: texts) inner) : text.length ≤ inner.length := by
  cases h with
  | last => exact Nat.le_refl _
  | more h =>
    rw [List.length_append]
    omega

/-- The items from one of them on are read up to the end of the array. -/
theorem items?_listed {items : List Item} {inner : List Char} (hne : items ≠ [])
    (hspaced : ∀ i ∈ items, i.Spaced) (hvalues : ∀ i ∈ items, Legible i.core i.value)
    (hlisted : Listed (items.map Item.text) inner) (steps : Nat) (rest : List Char)
    (hsteps : inner.length + 1 < steps) :
    items? steps (skipSpace (inner ++ ']' :: rest)) = some (items.map Item.value, rest) := by
  -- Each step of the reader takes one item and the comma behind it.
  induction items generalizing inner steps with
  | nil => exact absurd rfl hne
  | cons i items ih =>
    obtain ⟨k, rfl⟩ := Nat.exists_eq_succ_of_ne_zero (by omega : steps ≠ 0)
    have hlength : i.core.length < k := by
      have hinner := length_le_of_listed hlisted
      have hcore := i.length_core_le
      omega
    have hreads {c : Char} (hc : c = ',' ∨ c = ']' ∨ c = '}') := Item.reads
      (hspaced i List.mem_cons_self) (hvalues i List.mem_cons_self) hlength hc
    cases items with
    | nil =>
      cases hlisted with
      | last =>
        obtain ⟨tail, hvalue, htail⟩ := hreads (c := ']') (by simp) rest
        rw [items?, hvalue]
        simp only [htail]
        rfl
    | cons j items =>
      cases hlisted with
      | @more _ _ inner _ hmore =>
        obtain ⟨tail, hvalue, htail⟩ := hreads (c := ',') (by simp) (inner ++ ']' :: rest)
        have hrest := ih (List.cons_ne_nil _ _) (fun j hj => hspaced j (List.mem_cons_of_mem i hj))
          (fun j hj => hvalues j (List.mem_cons_of_mem i hj)) hmore k
          (by rw [List.length_append, List.length_cons] at hsteps; omega)
        rw [List.append_assoc, List.cons_append, items?, hvalue]
        simp only [htail, hrest]
        rfl

/-- The members from one of them on are read up to the end of the object. -/
theorem members?_listed {entries : List Entry} {inner : List Char} (hne : entries ≠ [])
    (hspaced : ∀ e ∈ entries, e.Spaced) (hvalues : ∀ e ∈ entries, Legible e.item.core e.item.value)
    (hlisted : Listed (entries.map Entry.text) inner) (steps : Nat) (rest : List Char)
    (hsteps : inner.length + 1 < steps) :
    members? steps (skipSpace (inner ++ '}' :: rest)) = some (entries.map Entry.member, rest) := by
  induction entries generalizing inner steps with
  | nil => exact absurd rfl hne
  | cons e entries ih =>
    obtain ⟨k, rfl⟩ := Nat.exists_eq_succ_of_ne_zero (by omega : steps ≠ 0)
    have hlength : e.item.core.length < k := by
      have hinner := length_le_of_listed hlisted
      have htext := e.length_core_le
      omega
    have hentry := hspaced e List.mem_cons_self
    have hreads {c : Char} (hc : c = ',' ∨ c = ']' ∨ c = '}') := Item.reads
      hentry.item (hvalues e List.mem_cons_self) hlength hc
    cases entries with
    | nil =>
      cases hlisted with
      | last =>
        obtain ⟨tail, hvalue, htail⟩ := hreads (c := '}') (by simp) rest
        obtain ⟨after, hname, hcolon⟩ := Entry.reads_name hentry ('}' :: rest)
        rw [Entry.skipSpace_text hentry, members?, hname]
        simp only [hcolon, hvalue, htail]
        rfl
    | cons e' entries =>
      cases hlisted with
      | @more _ _ inner _ hmore =>
        obtain ⟨tail, hvalue, htail⟩ := hreads (c := ',') (by simp) (inner ++ '}' :: rest)
        obtain ⟨after, hname, hcolon⟩ := Entry.reads_name hentry (',' :: (inner ++ '}' :: rest))
        have hrest := ih (List.cons_ne_nil _ _)
          (fun e' he => hspaced e' (List.mem_cons_of_mem e he))
          (fun e' he => hvalues e' (List.mem_cons_of_mem e he)) hmore k
          (by rw [List.length_append, List.length_cons] at hsteps; omega)
        rw [List.append_assoc, List.cons_append, Entry.skipSpace_text hentry, members?, hname]
        simp only [hcolon, hvalue, htail, hrest]
        rfl

/-- A list that is not empty begins with something solid, behind its blanks. -/
theorem solid_of_listed {head : List Char} {texts : List (List Char)} {inner : List Char}
    (h : Listed (head :: texts) inner) (hhead : ∀ rest, Solid (skipSpace (head ++ rest)))
    (rest : List Char) : Solid (skipSpace (inner ++ rest)) := by
  cases h with
  | last => exact hhead rest
  | more h =>
    rw [List.append_assoc]
    exact hhead _

theorem legible_array {items : List Item} {inner : List Char} (hspaced : ∀ i ∈ items, i.Spaced)
    (hvalues : ∀ i ∈ items, Legible i.core i.value)
    (hlisted : Listed (items.map Item.text) inner) :
    Legible ('[' :: (inner ++ [']'])) (.array (items.map Item.value)) where
  solid := solid_cons rfl (by simp) (by simp)
  value steps rest hsteps _ := by
    obtain ⟨k, rfl⟩ := Nat.exists_eq_succ_of_ne_zero (by omega : steps ≠ 0)
    rw [List.length_cons, List.length_append, List.length_singleton] at hsteps
    rw [List.cons_append, List.append_assoc, List.singleton_append, value?]
    cases items with
    | nil =>
      cases hlisted with
      | none hblanks =>
        simp only [skipSpace_blanks hblanks, skipSpace_cons (c := ']') rfl]
        rfl
    | cons i items =>
      have hread := items?_listed (List.cons_ne_nil i items) hspaced hvalues hlisted k rest
        (by omega)
      have hsolid := solid_of_listed hlisted (fun rest => by
        rw [Item.skipSpace_text (hspaced i List.mem_cons_self) (hvalues i List.mem_cons_self).solid]
        exact (hvalues i List.mem_cons_self).solid.append _) (']' :: rest)
      -- What the array goes on with closes nothing, so the reader takes it for an item.
      obtain ⟨c, cs, hcons, _, hclosing, _⟩ := hsolid
      rw [hcons] at hread ⊢
      split
      · next heq => exact absurd (List.cons.inj heq).1 hclosing
      · rw [hread]
        rfl

theorem legible_object {entries : List Entry} {inner : List Char}
    (hspaced : ∀ e ∈ entries, e.Spaced) (hvalues : ∀ e ∈ entries, Legible e.item.core e.item.value)
    (hlisted : Listed (entries.map Entry.text) inner) :
    Legible ('{' :: (inner ++ ['}'])) (.object (Members.ofWritten (entries.map Entry.member))) where
  solid := solid_cons rfl (by simp) (by simp)
  value steps rest hsteps _ := by
    obtain ⟨k, rfl⟩ := Nat.exists_eq_succ_of_ne_zero (by omega : steps ≠ 0)
    rw [List.length_cons, List.length_append, List.length_singleton] at hsteps
    rw [List.cons_append, List.append_assoc, List.singleton_append, value?]
    cases entries with
    | nil =>
      cases hlisted with
      | none hblanks =>
        simp only [skipSpace_blanks hblanks, skipSpace_cons (c := '}') rfl]
        rfl
    | cons e entries =>
      have hread := members?_listed (List.cons_ne_nil e entries) hspaced hvalues hlisted k rest
        (by omega)
      have hsolid := solid_of_listed hlisted (fun rest => by
        rw [Entry.skipSpace_text (hspaced e List.mem_cons_self)]
        exact solid_cons rfl (by simp) (by simp)) ('}' :: rest)
      obtain ⟨c, cs, hcons, _, _, hclosing⟩ := hsolid
      rw [hcons] at hread ⊢
      split
      · next heq => exact absurd (List.cons.inj heq).1 hclosing
      · rw [hread]
        rfl

/-- Every text that lays out a value is read as the value. -/
theorem Layout.legible (h : Layout text v) : Legible text v := by
  induction h with
  | literal h => exact legible_literal h
  | string h => exact legible_string h
  | array spaced _ listed ih => exact legible_array spaced ih listed
  | object spaced _ listed ih => exact legible_object spaced ih listed

/-! ## Every text that is read is one of the grammar -/

/-- The text lists items, at least one, that lay out the values. -/
def LaysItems (inner : List Char) (vs : List Reading) : Prop :=
  ∃ items : List Item, items ≠ [] ∧ items.map Item.value = vs ∧ (∀ i ∈ items, i.Spaced) ∧
    (∀ i ∈ items, Layout i.core i.value) ∧ Listed (items.map Item.text) inner

/-- The text lists entries, at least one, that lay out the members. -/
def LaysMembers (inner : List Char) (ms : Members Text.Codes) : Prop :=
  ∃ entries : List Entry, entries ≠ [] ∧ entries.map Entry.member = ms ∧
    (∀ e ∈ entries, e.Spaced) ∧ (∀ e ∈ entries, Layout e.item.core e.item.value) ∧
    Listed (entries.map Entry.text) inner

theorem Listed.cons {texts : List (List Char)} {inner : List Char} (h : Listed texts inner)
    (hne : texts ≠ []) (text : List Char) : Listed (text :: texts) (text ++ ',' :: inner) := by
  cases texts with
  | nil => exact absurd rfl hne
  | cons next texts => exact .more h

theorem LaysItems.singleton {i : Item} (hspaced : i.Spaced) (hvalue : Layout i.core i.value) :
    LaysItems i.text [i.value] :=
  ⟨[i], List.cons_ne_nil _ _, rfl, by simpa using hspaced, by simpa using hvalue, .last _⟩

theorem LaysItems.cons {i : Item} {inner : List Char} {vs : List Reading} (hspaced : i.Spaced)
    (hvalue : Layout i.core i.value) (h : LaysItems inner vs) :
    LaysItems (i.text ++ ',' :: inner) (i.value :: vs) := by
  obtain ⟨items, hne, rfl, hitems, hvalues, hlisted⟩ := h
  exact ⟨i :: items, List.cons_ne_nil _ _, rfl, List.forall_mem_cons.mpr ⟨hspaced, hitems⟩,
    List.forall_mem_cons.mpr ⟨hvalue, hvalues⟩, hlisted.cons (by simpa using hne) _⟩

theorem LaysMembers.singleton {e : Entry} (hspaced : e.Spaced)
    (hvalue : Layout e.item.core e.item.value) : LaysMembers e.text [e.member] :=
  ⟨[e], List.cons_ne_nil _ _, rfl, by simpa using hspaced, by simpa using hvalue, .last _⟩

theorem LaysMembers.cons {e : Entry} {inner : List Char} {ms : Members Text.Codes} (hspaced : e.Spaced)
    (hvalue : Layout e.item.core e.item.value) (h : LaysMembers inner ms) :
    LaysMembers (e.text ++ ',' :: inner) (e.member :: ms) := by
  obtain ⟨entries, hne, rfl, hentries, hvalues, hlisted⟩ := h
  exact ⟨e :: entries, List.cons_ne_nil _ _, rfl, List.forall_mem_cons.mpr ⟨hspaced, hentries⟩,
    List.forall_mem_cons.mpr ⟨hvalue, hvalues⟩, hlisted.cons (by simpa using hne) _⟩

theorem Listed.blanks_append {head : List Char} {texts : List (List Char)} {inner : List Char}
    (h : Listed (head :: texts) inner) (blanks : List Char) :
    Listed ((blanks ++ head) :: texts) (blanks ++ inner) := by
  cases h with
  | last => exact .last _
  | more h =>
    rw [← List.append_assoc]
    exact .more h

theorem blanks_append {blanks' : List Char} (h : Blanks blanks) (h' : Blanks blanks') :
    Blanks (blanks ++ blanks') :=
  List.forall_mem_append.mpr ⟨h, h'⟩

/-- Blanks in front of the items are blanks in front of the first one. -/
theorem LaysItems.blanks_append {inner : List Char} {vs : List Reading} (h : LaysItems inner vs)
    (hblanks : Blanks blanks) : LaysItems (blanks ++ inner) vs := by
  obtain ⟨items, hne, rfl, hspaced, hvalues, hlisted⟩ := h
  cases items with
  | nil => exact absurd rfl hne
  | cons i items =>
    obtain ⟨hi, hspaced⟩ := List.forall_mem_cons.mp hspaced
    obtain ⟨hv, hvalues⟩ := List.forall_mem_cons.mp hvalues
    let spaced : Item := { i with before := blanks ++ i.before }
    have htext : spaced.text = blanks ++ i.text := List.append_assoc ..
    refine ⟨spaced :: items, List.cons_ne_nil _ _, rfl, List.forall_mem_cons.mpr ⟨?_, hspaced⟩,
      List.forall_mem_cons.mpr ⟨hv, hvalues⟩, ?_⟩
    · exact ⟨Reader.blanks_append hblanks hi.before, hi.after⟩
    · rw [List.map_cons, htext]
      exact hlisted.blanks_append blanks

/-- Blanks in front of the members are blanks in front of the first name. -/
theorem LaysMembers.blanks_append {inner : List Char} {ms : Members Text.Codes} (h : LaysMembers inner ms)
    (hblanks : Blanks blanks) : LaysMembers (blanks ++ inner) ms := by
  obtain ⟨entries, hne, rfl, hspaced, hvalues, hlisted⟩ := h
  cases entries with
  | nil => exact absurd rfl hne
  | cons e entries =>
    obtain ⟨he, hspaced⟩ := List.forall_mem_cons.mp hspaced
    obtain ⟨hv, hvalues⟩ := List.forall_mem_cons.mp hvalues
    let spaced : Entry := { e with before := blanks ++ e.before }
    have htext : spaced.text = blanks ++ e.text := List.append_assoc ..
    refine ⟨spaced :: entries, List.cons_ne_nil _ _, rfl, List.forall_mem_cons.mpr ⟨?_, hspaced⟩,
      List.forall_mem_cons.mpr ⟨hv, hvalues⟩, ?_⟩
    · exact ⟨Reader.blanks_append hblanks he.before, he.name, he.after, he.item⟩
    · rw [List.map_cons, htext]
      exact hlisted.blanks_append blanks

/-- A value without blanks around it is an item. -/
theorem exists_item_bare {core : List Char} (hcore : Layout core v) :
    ∃ i : Item, i.value = v ∧ i.Spaced ∧ Layout i.core i.value ∧ core = i.text :=
  ⟨⟨[], core, [], v⟩, rfl, ⟨blanks_nil, blanks_nil⟩, hcore, (List.append_nil core).symm⟩

/-- A name and a value with blanks between them only are an entry. -/
theorem exists_entry_bare {quoted core : List Char} {name : Text.Codes}
    (hname : string? quoted = some (name, [])) (hblanks : Blanks blanks) (hcore : Layout core v) :
    ∃ e : Entry, e.member = (name, v) ∧ e.Spaced ∧ Layout e.item.core e.item.value ∧
      '"' :: (quoted ++ ':' :: (blanks ++ core)) = e.text := by
  refine ⟨⟨[], quoted, [], name, ⟨blanks, core, [], v⟩⟩, rfl,
    ⟨blanks_nil, hname, blanks_nil, ⟨hblanks, blanks_nil⟩⟩, hcore, ?_⟩
  simp only [Entry.text, Item.text, List.nil_append, List.append_nil]

/-- A value behind blanks is an item, with the blanks that follow it. -/
theorem exists_item {cs core tail : List Char} (hsplit : skipSpace cs = core ++ tail)
    (hcore : Layout core v) :
    ∃ i : Item, i.value = v ∧ i.Spaced ∧ Layout i.core i.value ∧ cs = i.text ++ skipSpace tail := by
  obtain ⟨before, hbefore, hcs⟩ := blanks_split cs
  obtain ⟨after, hafter, htail⟩ := blanks_split tail
  refine ⟨⟨before, core, after, v⟩, rfl, ⟨hbefore, hafter⟩, hcore, ?_⟩
  rw [Item.text, List.append_assoc, List.append_assoc, ← htail, ← hsplit, ← hcs]

theorem exists_entry {cs named tail : List Char} {name : Text.Codes} {i : Item}
    (hquote : skipSpace cs = '"' :: named) (hname : string? named = some (name, tail))
    (hcolon : skipSpace tail = ':' :: (i.text ++ rest)) (hspaced : i.Spaced) :
    ∃ e : Entry, e.member = (name, i.value) ∧ e.item = i ∧ e.Spaced ∧ cs = e.text ++ rest := by
  obtain ⟨before, hbefore, hcs⟩ := blanks_split cs
  obtain ⟨after, hafter, htail⟩ := blanks_split tail
  obtain ⟨quoted, rfl, hquoted⟩ := string?_token hname
  have halone : string? quoted = some (name, []) := by
    have hread := hquoted []
    rwa [List.append_nil] at hread
  refine ⟨⟨before, quoted, after, name, i⟩, rfl, rfl, ⟨hbefore, halone, hafter, hspaced⟩, ?_⟩
  rw [hcs, hquote, htail, hcolon]
  simp only [Entry.text, List.append_assoc, List.cons_append]

/-- What is read within so many steps was laid out. The three functions call each other with one
step less, so they are taken together. -/
structure LaidWithin (steps : Nat) : Prop where
  value : ∀ cs v rest, value? steps cs = some (v, rest) → ∃ text, cs = text ++ rest ∧ Layout text v
  items : ∀ cs vs rest, items? steps (skipSpace cs) = some (vs, rest) →
    ∃ inner, cs = inner ++ ']' :: rest ∧ LaysItems inner vs
  members : ∀ cs ms rest, members? steps (skipSpace cs) = some (ms, rest) →
    ∃ inner, cs = inner ++ '}' :: rest ∧ LaysMembers inner ms

theorem layout_array_nil (h : Blanks blanks) : Layout ('[' :: (blanks ++ [']'])) (.array []) :=
  @Layout.array [] _ nofun nofun (.none h)

theorem layout_object_nil (h : Blanks blanks) : Layout ('{' :: (blanks ++ ['}'])) (.object []) :=
  @Layout.object [] _ nofun nofun (.none h)

theorem LaysItems.layout {inner : List Char} {vs : List Reading} (h : LaysItems inner vs) :
    Layout ('[' :: (inner ++ [']'])) (.array vs) := by
  obtain ⟨items, _, rfl, hspaced, hvalues, hlisted⟩ := h
  exact .array hspaced hvalues hlisted

theorem LaysMembers.layout {inner : List Char} {ms : Members Text.Codes} (h : LaysMembers inner ms) :
    Layout ('{' :: (inner ++ ['}'])) (.object (Members.ofWritten ms)) := by
  obtain ⟨entries, _, rfl, hspaced, hvalues, hlisted⟩ := h
  exact .object hspaced hvalues hlisted

theorem laidWithin_succ {steps : Nat} (ih : LaidWithin steps) : LaidWithin (steps + 1) where
  value := by
    intro cs v rest h
    unfold value? at h
    dsimp only at h
    split at h
    · next quoted =>
      obtain ⟨⟨s, _⟩, hs, heq⟩ := Option.map_eq_some_iff.mp h
      cases heq
      obtain ⟨text, rfl, htext⟩ := string?_token hs
      have halone := htext []
      rw [List.append_nil] at halone
      exact ⟨'"' :: text, rfl, .string halone⟩
    · next inner =>
      obtain ⟨blanks, hblanks, hinner⟩ := blanks_split inner
      split at h
      · next hclosing =>
        cases h
        rw [hclosing] at hinner
        refine ⟨'[' :: (blanks ++ [']']), by simp [hinner], ?_⟩
        exact layout_array_nil hblanks
      · obtain ⟨⟨vs, _⟩, hvs, heq⟩ := Option.map_eq_some_iff.mp h
        cases heq
        obtain ⟨inner, rfl, hlays⟩ := ih.items _ _ _ hvs
        exact ⟨_, by simp, hlays.layout⟩
    · next inner =>
      obtain ⟨blanks, hblanks, hinner⟩ := blanks_split inner
      split at h
      · next hclosing =>
        cases h
        rw [hclosing] at hinner
        refine ⟨'{' :: (blanks ++ ['}']), by simp [hinner], ?_⟩
        exact layout_object_nil hblanks
      · obtain ⟨⟨ms, _⟩, hms, heq⟩ := Option.map_eq_some_iff.mp h
        cases heq
        obtain ⟨inner, rfl, hlays⟩ := ih.members _ _ _ hms
        exact ⟨_, by simp, hlays.layout⟩
    · obtain ⟨text, rfl, _, htext⟩ := literal?_token h
      have halone := htext [] ended_nil
      rw [List.append_nil] at halone
      exact ⟨text, rfl, .literal halone⟩
  items := by
    intro cs vs rest h
    unfold items? at h
    split at h
    · cases h
    next v tail hv =>
    obtain ⟨core, hsplit, hcore⟩ := ih.value _ _ _ hv
    obtain ⟨i, rfl, hspaced, hvalue, rfl⟩ := exists_item hsplit hcore
    split at h
    · next more hcomma =>
      obtain ⟨⟨vs, _⟩, hvs, heq⟩ := Option.map_eq_some_iff.mp h
      cases heq
      obtain ⟨inner, rfl, hlays⟩ := ih.items _ _ _ hvs
      refine ⟨i.text ++ ',' :: inner, by simp [hcomma], hlays.cons hspaced hvalue⟩
    · next more hclosing =>
      cases h
      exact ⟨i.text, by rw [hclosing], .singleton hspaced hvalue⟩
    · cases h
  members := by
    intro cs ms rest h
    unfold members? at h
    dsimp only at h
    split at h
    · next named hquote =>
      split at h
      · cases h
      next name tail hname =>
      split at h
      · next after hcolon =>
        split at h
        · cases h
        next v tail' hv =>
        obtain ⟨core, hsplit, hcore⟩ := ih.value _ _ _ hv
        obtain ⟨i, rfl, hspaced, hvalue, rfl⟩ := exists_item hsplit hcore
        obtain ⟨e, hmember, rfl, hentry, rfl⟩ := exists_entry hquote hname hcolon hspaced
        split at h
        · next more hcomma =>
          obtain ⟨⟨ms, _⟩, hms, heq⟩ := Option.map_eq_some_iff.mp h
          cases heq
          obtain ⟨inner, rfl, hlays⟩ := ih.members _ _ _ hms
          rw [← hmember]
          exact ⟨e.text ++ ',' :: inner, by simp [hcomma], hlays.cons hentry hvalue⟩
        · next more hclosing =>
          cases h
          rw [← hmember]
          exact ⟨e.text, by rw [hclosing], .singleton hentry hvalue⟩
        · cases h
      · cases h
    · cases h

theorem laidWithin (steps : Nat) : LaidWithin steps := by
  induction steps with
  | zero =>
    refine ⟨?_, ?_, ?_⟩
    · intro cs v rest h
      cases h
    · intro cs vs rest h
      cases h
    · intro cs ms rest h
      cases h
  | succ steps ih => exact laidWithin_succ ih

end Reader

/-! ## Whole texts -/

/-- The text lays out the value, with blanks around it. -/
def Reading.LaidOut (v : Reading) (text : List Char) : Prop :=
  ∃ before core after, Reader.Blanks before ∧ Reader.Blanks after ∧ Reader.Layout core v ∧
    text = before ++ (core ++ after)

/-- The reader takes just the texts of the grammar, and reads each as the value that it lays out. -/
theorem Reading.ofText?_eq_some_iff {text : String} {v : Reading} :
    Reading.ofText? text = some v ↔ v.LaidOut text.toList := by
  rw [Reading.ofText?, read?]
  constructor
  · intro h
    split at h
    · next w rest hread =>
      split at h
      · next hempty =>
        cases h
        obtain ⟨core, hsplit, hcore⟩ := (Reader.laidWithin _).value _ _ _ hread
        obtain ⟨before, hbefore, htext⟩ := Reader.blanks_split text.toList
        obtain ⟨after, hafter, hrest⟩ := Reader.blanks_split rest
        rw [List.isEmpty_iff.mp hempty, List.append_nil] at hrest
        refine ⟨before, core, after, hbefore, hafter, hcore, ?_⟩
        rw [← hrest, ← hsplit, ← htext]
      · cases h
    · cases h
  · rintro ⟨before, core, after, hbefore, hafter, hcore, htext⟩
    have hlegible := hcore.legible
    have hskip : Reader.skipSpace text.toList = core ++ after := by
      rw [htext, Reader.skipSpace_blanks hbefore]
      exact (hlegible.solid.append after).skipSpace
    have hafterEnded : Reader.Ended after := by
      have hended := Reader.ended_nil.blanks_append hafter
      rwa [List.append_nil] at hended
    have hlength : core.length < text.toList.length + 1 := by
      rw [htext, List.length_append, List.length_append]
      omega
    have hblank : Reader.skipSpace after = [] := by
      have hnone := Reader.skipSpace_blanks hafter []
      rwa [List.append_nil] at hnone
    rw [hskip, hlegible.value _ _ hlength hafterEnded]
    simp only [hblank, List.isEmpty_nil, if_true]

end CloudIdentity.Document

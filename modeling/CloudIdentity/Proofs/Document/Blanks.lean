import CloudIdentity.Proofs.Document.Layout

/-!
Blanks between the parts of a text make no difference. A text can be stripped of every blank that
stands outside its strings: if it is read as a value, what is left is read as the same value. So two
texts that are left alike, and can both be read, are read as one value.
-/

namespace CloudIdentity.Document

namespace Reader

/-- The text without the blanks outside its strings. A quote opens a string or closes it; behind a
backslash in a string it does neither. -/
def stripped : Bool → List Char → List Char
  | _, [] => []
  | true, '\\' :: c :: cs => '\\' :: c :: stripped true cs
  | quoted, c :: cs =>
    if quoted = false ∧ isSpace c = true then stripped quoted cs
    else c :: stripped (quoted != (c == '"')) cs

variable {c : Char} {blanks text rest : List Char} {v : Reading}

theorem stripped_nil (quoted : Bool) : stripped quoted [] = [] := by
  cases quoted <;> rfl

theorem stripped_blank (h : isSpace c = true) (cs : List Char) :
    stripped false (c :: cs) = stripped false cs := by
  rw [stripped, if_pos ⟨rfl, h⟩]
  exact nofun

theorem stripped_plain (h : Plain c) (cs : List Char) :
    stripped false (c :: cs) = c :: stripped false cs := by
  have hquote : (c == '"') = false := beq_false_of_ne h.2
  rw [stripped, if_neg (by simp [h.1]), hquote]
  · rfl
  · exact nofun

theorem stripped_opening (cs : List Char) :
    stripped false ('"' :: cs) = '"' :: stripped true cs := rfl

theorem stripped_closing (cs : List Char) :
    stripped true ('"' :: cs) = '"' :: stripped false cs := rfl

theorem stripped_escape (c : Char) (cs : List Char) :
    stripped true ('\\' :: c :: cs) = '\\' :: c :: stripped true cs := rfl

theorem stripped_inside (hquote : c ≠ '"') (hslash : c ≠ '\\') (cs : List Char) :
    stripped true (c :: cs) = c :: stripped true cs := by
  rw [stripped, if_neg (by simp), beq_false_of_ne hquote]
  · rfl
  · intro _ _ _ hc
    exact absurd hc hslash

/-! ## Strings -/

theorem digits_of_unit? {a b c d : Char} {n : Nat} (h : unit? a b c d = some n) :
    ∀ x ∈ [a, b, c, d], x ≠ '"' ∧ x ≠ '\\' := by
  have hdigit {x : Char} {m : Nat} (hx : Text.Percent.hexDigit? x = some m) :
      x ≠ '"' ∧ x ≠ '\\' := by
    constructor
    · rintro rfl
      cases hx
    · rintro rfl
      cases hx
  obtain ⟨high, hhigh, h⟩ := Option.bind_eq_some_iff.mp h
  obtain ⟨low, hlow, _⟩ := Option.bind_eq_some_iff.mp h
  obtain ⟨_, ha, hhigh⟩ := Option.bind_eq_some_iff.mp hhigh
  obtain ⟨_, hb, _⟩ := Option.bind_eq_some_iff.mp hhigh
  obtain ⟨_, hc, hlow⟩ := Option.bind_eq_some_iff.mp hlow
  obtain ⟨_, hd, _⟩ := Option.bind_eq_some_iff.mp hlow
  simp only [List.forall_mem_cons]
  exact ⟨hdigit ha, hdigit hb, hdigit hc, hdigit hd, nofun⟩

/-- What is read as a string keeps its blanks, up to the closing quote. -/
theorem stripped_pieces {cs : List Char} {ps : List Piece} (h : pieces? cs = some (ps, rest)) :
    ∃ text, cs = text ++ rest ∧
      ∀ rest', stripped true (text ++ rest') = text ++ stripped false rest' := by
  fun_induction pieces? cs generalizing ps rest with
  | case1 => cases h
  | case2 more =>
    cases h
    exact ⟨['"'], rfl, fun rest' => stripped_closing rest'⟩
  | case3 a b c d more n hunit _ ih =>
    obtain ⟨⟨qs, tail⟩, hmore, heq⟩ := Option.map_eq_some_iff.mp h
    cases heq
    obtain ⟨text, rfl, htext⟩ := ih hmore
    refine ⟨'\\' :: 'u' :: a :: b :: c :: d :: text, rfl, fun rest' => ?_⟩
    have hdigits := digits_of_unit? hunit
    simp only [List.forall_mem_cons] at hdigits
    obtain ⟨ha, hb, hc, hd, _⟩ := hdigits
    simp only [List.cons_append, stripped_escape, stripped_inside ha.1 ha.2,
      stripped_inside hb.1 hb.2, stripped_inside hc.1 hc.2, stripped_inside hd.1 hd.2, htext]
  | case4 => cases h
  | case5 e more _ c hescape _ ih =>
    obtain ⟨⟨qs, tail⟩, hmore, heq⟩ := Option.map_eq_some_iff.mp h
    cases heq
    obtain ⟨text, rfl, htext⟩ := ih hmore
    refine ⟨'\\' :: e :: text, rfl, fun rest' => ?_⟩
    rw [List.cons_append, List.cons_append, stripped_escape, htext, List.cons_append,
      List.cons_append]
  | case6 => cases h
  | case7 => cases h
  | case8 => cases h
  | case9 c more hquote hslash hplain ih =>
    obtain ⟨⟨qs, tail⟩, hmore, heq⟩ := Option.map_eq_some_iff.mp h
    cases heq
    obtain ⟨text, rfl, htext⟩ := ih hmore
    refine ⟨c :: text, rfl, fun rest' => ?_⟩
    rw [List.cons_append, stripped_inside hquote hslash, htext, List.cons_append]

/-! ## Parts of a text -/

/-- The text opens no string that it does not close, so what follows it is stripped by itself. -/
def Closed (text : List Char) : Prop :=
  ∀ rest, stripped false (text ++ rest) = stripped false text ++ stripped false rest

theorem closed_nil : Closed [] := fun _ => rfl

theorem Closed.append {text' : List Char} (h : Closed text) (h' : Closed text') :
    Closed (text ++ text') := by
  intro rest
  rw [List.append_assoc, h, h', h, List.append_assoc]

/-- A text that is stripped of nothing, whatever follows it. -/
theorem closed_of_keeps (h : ∀ rest, stripped false (text ++ rest) = text ++ stripped false rest) :
    Closed text ∧ stripped false text = text := by
  have hself := h []
  rw [List.append_nil, stripped_nil, List.append_nil] at hself
  exact ⟨fun rest => by rw [h, hself], hself⟩

theorem closed_of_plain (h : ∀ c ∈ text, Plain c) : Closed text ∧ stripped false text = text := by
  apply closed_of_keeps
  intro rest
  induction text with
  | nil => rfl
  | cons c text ih =>
    obtain ⟨hc, hrest⟩ := List.forall_mem_cons.mp h
    rw [List.cons_append, stripped_plain hc, ih hrest, List.cons_append]

theorem closed_of_string {quoted : List Char} {s : Text.Codes} (h : string? quoted = some (s, [])) :
    Closed ('"' :: quoted) ∧ stripped false ('"' :: quoted) = '"' :: quoted := by
  obtain ⟨⟨ps, tail⟩, hpieces, heq⟩ := Option.map_eq_some_iff.mp h
  cases heq
  obtain ⟨text, hsplit, htext⟩ := stripped_pieces hpieces
  rw [List.append_nil] at hsplit
  rw [hsplit]
  apply closed_of_keeps
  intro rest
  rw [List.cons_append, stripped_opening, htext, List.cons_append]

theorem closed_of_blanks (h : Blanks blanks) : Closed blanks ∧ stripped false blanks = [] := by
  have hnone : ∀ rest, stripped false (blanks ++ rest) = stripped false rest := by
    intro rest
    induction blanks with
    | nil => rfl
    | cons c blanks ih =>
      obtain ⟨hc, hrest⟩ := List.forall_mem_cons.mp h
      rw [List.cons_append, stripped_blank hc, ih hrest]
  have hself := hnone []
  rw [List.append_nil, stripped_nil] at hself
  exact ⟨fun rest => by rw [hnone, hself, List.nil_append], hself⟩

theorem Closed.cons (hc : Plain c) (h : Closed text) : Closed (c :: text) := by
  intro rest
  rw [List.cons_append, stripped_plain hc, h, stripped_plain hc, List.cons_append]

/-! ## Values -/

/-- The item without its blanks and those in it. -/
def Item.bare (i : Item) : Item := ⟨[], stripped false i.core, [], i.value⟩

/-- The entry without its blanks and those in its value. -/
def Entry.bare (e : Entry) : Entry := ⟨[], e.quoted, [], e.name, e.item.bare⟩

theorem Item.spaced_bare (i : Item) : i.bare.Spaced := ⟨blanks_nil, blanks_nil⟩

theorem Entry.spaced_bare {e : Entry} (h : e.Spaced) : e.bare.Spaced :=
  ⟨blanks_nil, h.name, blanks_nil, e.item.spaced_bare⟩

theorem Item.text_bare {i : Item} (hspaced : i.Spaced) (hcore : Closed i.core) :
    Closed i.text ∧ stripped false i.text = i.bare.text := by
  obtain ⟨hbefore, hbeforeNil⟩ := closed_of_blanks hspaced.before
  obtain ⟨hafter, hafterNil⟩ := closed_of_blanks hspaced.after
  refine ⟨hbefore.append (hcore.append hafter), ?_⟩
  rw [Item.text, hbefore, hcore, hbeforeNil, hafterNil]
  rfl

theorem Entry.text_bare {e : Entry} (hspaced : e.Spaced) (hcore : Closed e.item.core) :
    Closed e.text ∧ stripped false e.text = e.bare.text := by
  have hcolon : Plain ':' := plain_of_mem (by simp)
  obtain ⟨hbefore, hbeforeNil⟩ := closed_of_blanks hspaced.before
  obtain ⟨hafter, hafterNil⟩ := closed_of_blanks hspaced.after
  obtain ⟨hname, hnameSelf⟩ := closed_of_string hspaced.name
  obtain ⟨hitem, hitemBare⟩ := Item.text_bare hspaced.item hcore
  have htext : e.text = e.before ++ (('"' :: e.quoted) ++ (e.after ++ ':' :: e.item.text)) := rfl
  rw [htext]
  refine ⟨hbefore.append (hname.append (hafter.append (hitem.cons hcolon))), ?_⟩
  rw [hbefore, hname, hafter, stripped_plain hcolon, hbeforeNil, hnameSelf, hafterNil, hitemBare]
  rfl

/-- A list is stripped text by text. -/
theorem Listed.stripped {texts : List (List Char)} {inner : List Char} (h : Listed texts inner)
    (hclosed : ∀ text ∈ texts, Closed text) :
    Closed inner ∧ Listed (texts.map (stripped false)) (stripped false inner) := by
  have hcomma : Plain ',' := plain_of_mem (by simp)
  induction h with
  | none hblanks =>
    obtain ⟨hinner, hnil⟩ := closed_of_blanks hblanks
    rw [hnil]
    exact ⟨hinner, .none blanks_nil⟩
  | last text => exact ⟨hclosed text List.mem_cons_self, .last _⟩
  | @more text next inner texts _ ih =>
    obtain ⟨htext, hrest⟩ := List.forall_mem_cons.mp hclosed
    obtain ⟨hinner, hlisted⟩ := ih hrest
    refine ⟨htext.append (hinner.cons hcomma), ?_⟩
    rw [htext, stripped_plain hcomma]
    exact .more hlisted

/-- A text between brackets is stripped between them. -/
theorem closed_bracketed {inner : List Char} {opening closing : Char} (hopening : Plain opening)
    (hclosing : Plain closing) (h : Closed inner) :
    Closed (opening :: (inner ++ [closing])) ∧
      stripped false (opening :: (inner ++ [closing])) =
        opening :: (stripped false inner ++ [closing]) := by
  refine ⟨(h.append (closed_nil.cons hclosing)).cons hopening, ?_⟩
  rw [stripped_plain hopening, h, stripped_plain hclosing, stripped_nil]

/-- The text of a value is closed, and lays the value out without its blanks too. -/
theorem Layout.stripped (h : Layout text v) :
    Closed text ∧ Layout (stripped false text) v := by
  induction h with
  | @literal text v h =>
    obtain ⟨text', hsplit, hplain, _⟩ := literal?_token h
    rw [List.append_nil] at hsplit
    rw [← hsplit] at hplain
    obtain ⟨hclosed, hself⟩ := closed_of_plain hplain
    rw [hself]
    exact ⟨hclosed, .literal h⟩
  | string h =>
    obtain ⟨hclosed, hself⟩ := closed_of_string h
    rw [hself]
    exact ⟨hclosed, .string h⟩
  | @array items inner spaced _ listed ih =>
    -- The items without their blanks lay out the same values, and stripping gives their texts.
    have hbare : ∀ i ∈ items, Closed i.text ∧ Reader.stripped false i.text = i.bare.text :=
      fun i hi => Item.text_bare (spaced i hi) (ih i hi).1
    obtain ⟨hinner, hlisted⟩ := listed.stripped (List.forall_mem_map.mpr fun i hi => (hbare i hi).1)
    have hopening : Plain '[' := plain_of_mem (by simp)
    have hclosing : Plain ']' := plain_of_mem (by simp)
    obtain ⟨hclosed, hstripped⟩ := closed_bracketed hopening hclosing hinner
    have htexts : (items.map Item.bare).map Item.text =
        (items.map Item.text).map (Reader.stripped false) := by
      rw [List.map_map, List.map_map]
      exact List.map_congr_left fun i hi => (hbare i hi).2.symm
    have hvalues : (items.map Item.bare).map Item.value = items.map Item.value :=
      List.map_map ..
    rw [← htexts] at hlisted
    rw [hstripped, ← hvalues]
    refine ⟨hclosed, .array ?_ ?_ hlisted⟩
    · exact List.forall_mem_map.mpr fun i _ => i.spaced_bare
    · exact List.forall_mem_map.mpr fun i hi => (ih i hi).2
  | @object entries inner spaced _ listed ih =>
    have hbare : ∀ e ∈ entries, Closed e.text ∧ Reader.stripped false e.text = e.bare.text :=
      fun e he => Entry.text_bare (spaced e he) (ih e he).1
    obtain ⟨hinner, hlisted⟩ := listed.stripped (List.forall_mem_map.mpr fun e he => (hbare e he).1)
    have hopening : Plain '{' := plain_of_mem (by simp)
    have hclosing : Plain '}' := plain_of_mem (by simp)
    obtain ⟨hclosed, hstripped⟩ := closed_bracketed hopening hclosing hinner
    have htexts : (entries.map Entry.bare).map Entry.text =
        (entries.map Entry.text).map (Reader.stripped false) := by
      rw [List.map_map, List.map_map]
      exact List.map_congr_left fun e he => (hbare e he).2.symm
    have hmembers : (entries.map Entry.bare).map Entry.member = entries.map Entry.member :=
      List.map_map ..
    rw [← htexts] at hlisted
    rw [hstripped, ← hmembers]
    refine ⟨hclosed, .object ?_ ?_ hlisted⟩
    · exact List.forall_mem_map.mpr fun e he => Entry.spaced_bare (spaced e he)
    · exact List.forall_mem_map.mpr fun e he => (ih e he).2

end Reader

/-! ## Whole texts -/

theorem Reading.LaidOut.stripped {v : Reading} {text : List Char} (h : v.LaidOut text) :
    v.LaidOut (Reader.stripped false text) := by
  obtain ⟨before, core, after, hbefore, hafter, hcore, rfl⟩ := h
  obtain ⟨hbeforeClosed, hbeforeNil⟩ := Reader.closed_of_blanks hbefore
  obtain ⟨hcoreClosed, hlaid⟩ := hcore.stripped
  obtain ⟨_, hafterNil⟩ := Reader.closed_of_blanks hafter
  refine ⟨[], _, [], Reader.blanks_nil, Reader.blanks_nil, hlaid, ?_⟩
  rw [hbeforeClosed, hcoreClosed, hbeforeNil, hafterNil, List.nil_append, List.append_nil]

/-- Texts that differ in blanks outside strings only lay out one value, if they lay out any. -/
theorem Reading.eq_of_stripped {v w : Reading} {plain new : List Char} (hv : v.LaidOut plain)
    (hw : w.LaidOut new) (h : Reader.stripped false plain = Reader.stripped false new) : v = w := by
  have hplain := hv.stripped
  have hnew := hw.stripped
  rw [← h] at hnew
  have hread {u : Reading} (hu : u.LaidOut (Reader.stripped false plain)) :
      Reading.ofText? (.ofList (Reader.stripped false plain)) = some u := by
    rwa [Reading.ofText?_eq_some_iff, String.toList_ofList]
  exact Option.some.inj ((hread hplain).symm.trans (hread hnew))

end CloudIdentity.Document

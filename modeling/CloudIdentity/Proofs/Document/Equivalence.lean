import CloudIdentity.Proofs.Document.Blanks
import CloudIdentity.Proofs.Document.Difference

/-!
When two documents do not differ. Congruence is an equivalence of values, with numbers of all kinds
in them, and it does not see in which order an object names its members. So not to differ is an
equivalence of texts that sees neither the order of names nor blanks; it does see the order and the
number of the items in an array. All this is said of texts that can be read. One with an integer that
is too long cannot, and is compared with its own encoding character by character.
-/

namespace CloudIdentity.Document

namespace Value

variable {τ : Type}

/-! ## Relations part by part -/

theorem forall₂_symm_of_mem {R : Value τ → Value τ → Prop} {xs ys : List (Value τ)}
    (h : List.Forall₂ R xs ys) (hsymm : ∀ x ∈ xs, ∀ y, R x y → R y x) : List.Forall₂ R ys xs := by
  induction h with
  | nil => exact .nil
  | cons head _ ih =>
    obtain ⟨hhead, htail⟩ := List.forall_mem_cons.mp hsymm
    exact .cons (hhead _ head) (ih htail)

theorem forall₂_trans_of_mem {R : Value τ → Value τ → Prop} {xs ys zs : List (Value τ)}
    (h : List.Forall₂ R xs ys) (h' : List.Forall₂ R ys zs)
    (htrans : ∀ x ∈ xs, ∀ y z, R x y → R y z → R x z) : List.Forall₂ R xs zs := by
  induction h generalizing zs with
  | nil => exact h'
  | cons head _ ih =>
    obtain ⟨hhead, htail⟩ := List.forall_mem_cons.mp htrans
    cases h' with
    | cons head' tail' => exact .cons (hhead _ _ head head') (ih tail' htail)

theorem optionRel_symm_of_mem {R : Value τ → Value τ → Prop} {x y : Option (Value τ)}
    (h : Option.Rel R x y) (hsymm : ∀ a ∈ x, ∀ b, R a b → R b a) : Option.Rel R y x := by
  cases h with
  | some hab => exact .some (hsymm _ rfl _ hab)
  | none => exact .none

theorem optionRel_trans_of_mem {R : Value τ → Value τ → Prop} {x y z : Option (Value τ)}
    (h : Option.Rel R x y) (h' : Option.Rel R y z)
    (htrans : ∀ a ∈ x, ∀ b c, R a b → R b c → R a c) : Option.Rel R x z := by
  cases h with
  | some hab =>
    cases h' with
    | some hbc => exact .some (htrans _ rfl _ _ hab hbc)
  | none => exact h'

theorem forall₂_imp_of_mem {R S : Value τ → Value τ → Prop} {P : Value τ → Prop}
    {xs ys : List (Value τ)} (h : List.Forall₂ R xs ys) (himp : ∀ x ∈ xs, ∀ y, R x y → P y ∧ S x y) :
    (∀ y ∈ ys, P y) ∧ List.Forall₂ S xs ys := by
  induction h with
  | nil => exact ⟨nofun, .nil⟩
  | cons head _ ih =>
    obtain ⟨hhead, htail⟩ := List.forall_mem_cons.mp himp
    obtain ⟨hy, hxy⟩ := hhead _ head
    obtain ⟨hys, hxys⟩ := ih htail
    exact ⟨List.forall_mem_cons.mpr ⟨hy, hys⟩, .cons hxy hxys⟩

theorem optionRel_imp_of_mem {R S : Value τ → Value τ → Prop} {x y : Option (Value τ)}
    (h : Option.Rel R x y) (himp : ∀ a ∈ x, ∀ b, R a b → S a b) : Option.Rel S x y := by
  cases h with
  | some hab => exact .some (himp _ rfl _ hab)
  | none => exact .none

/-! ## Congruence is an equivalence -/

section

variable [DecidableEq τ] {v w u : Value τ}

theorem Congruent.exists_scalar (hleaf : v.isLeaf = true) (h : v.Congruent w) :
    ∃ s, v.scalar? = some s := by
  cases h with
  | null => exact ⟨_, rfl⟩
  | number left _ => exact ⟨_, scalar?_eq_number_iff.mpr left⟩
  | notANumber => exact ⟨_, rfl⟩
  | str s => exact ⟨_, rfl⟩
  | array => cases hleaf
  | object => cases hleaf

/-- Two objects are looked up by the same names, so it plays no part which of them is gone
through. -/
theorem Congruent.symm (h : v.Congruent w) : w.Congruent v := by
  induction v using nested_induction generalizing w with
  | leaf v hleaf =>
    -- Numbers of two kinds are compared by one scalar, the number that both stand for.
    obtain ⟨s, hv⟩ := h.exists_scalar hleaf
    have hw := (congruent_iff_of_scalar hv).mp h
    exact (congruent_iff_of_scalar hw).mpr hv
  | array xs ih =>
    obtain ⟨ys, rfl, hitems⟩ := congruent_array_left.mp h
    exact .array (forall₂_symm_of_mem hitems fun x hx y hxy => ih x hx hxy)
  | object xs ih =>
    obtain ⟨ys, rfl, hmembers⟩ := congruent_object_left.mp h
    refine .object fun name => optionRel_symm_of_mem (hmembers name) fun x hx y hxy => ?_
    exact ih (name, x) (Members.mem_of_lookup hx) hxy

theorem Congruent.trans (h : v.Congruent w) (h' : w.Congruent u) : v.Congruent u := by
  induction v using nested_induction generalizing w u with
  | leaf v hleaf =>
    obtain ⟨s, hv⟩ := h.exists_scalar hleaf
    have hw := (congruent_iff_of_scalar hv).mp h
    have hu := (congruent_iff_of_scalar hw).mp h'
    exact (congruent_iff_of_scalar hv).mpr hu
  | array xs ih =>
    obtain ⟨ys, rfl, hitems⟩ := congruent_array_left.mp h
    obtain ⟨zs, rfl, hitems'⟩ := congruent_array_left.mp h'
    exact .array (forall₂_trans_of_mem hitems hitems' fun x hx y z hxy hyz => ih x hx hxy hyz)
  | object xs ih =>
    obtain ⟨ys, rfl, hmembers⟩ := congruent_object_left.mp h
    obtain ⟨zs, rfl, hmembers'⟩ := congruent_object_left.mp h'
    refine .object fun name =>
      optionRel_trans_of_mem (hmembers name) (hmembers' name) fun x hx y z hxy hyz => ?_
    exact ih (name, x) (Members.mem_of_lookup hx) hxy hyz

end

/-! ## The order of names -/

/-- The same value, with the members of every object in it in any order. -/
inductive Reordered : Value τ → Value τ → Prop where
  | refl (v : Value τ) : Reordered v v
  | array {xs ys : List (Value τ)} (items : List.Forall₂ Reordered xs ys) :
      Reordered (.array xs) (.array ys)
  | object {xs ys zs : Members τ} (names : xs.map Prod.fst = ys.map Prod.fst)
      (values : List.Forall₂ Reordered (xs.map Prod.snd) (ys.map Prod.snd))
      (order : ys.Perm zs) : Reordered (.object xs) (.object zs)

variable [DecidableEq τ] {v w : Value τ}

theorem lookup_of_values {R : Value τ → Value τ → Prop} {xs ys : Members τ}
    (hnames : xs.map Prod.fst = ys.map Prod.fst)
    (hvalues : List.Forall₂ R (xs.map Prod.snd) (ys.map Prod.snd)) (name : τ) :
    Option.Rel R (xs.lookup name) (ys.lookup name) := by
  induction xs generalizing ys with
  | nil =>
    obtain rfl : ys = [] := List.map_eq_nil_iff.mp hnames.symm
    exact .none
  | cons x xs ih =>
    cases ys with
    | nil => cases hnames
    | cons y ys =>
      obtain ⟨hname, hnames⟩ := List.cons.inj hnames
      cases hvalues with
      | cons hxy hvalues =>
        rw [List.lookup_cons, List.lookup_cons, hname]
        cases name == y.1 with
        | true => exact .some hxy
        | false => exact ih hnames hvalues

theorem lookup_perm {xs ys : Members τ} (hnames : (xs.map Prod.fst).Nodup) (h : xs.Perm ys)
    (name : τ) : xs.lookup name = ys.lookup name := by
  cases hy : ys.lookup name with
  | none =>
    rw [Members.lookup_eq_none_iff] at hy ⊢
    rwa [(h.map Prod.fst).mem_iff]
  | some y => exact Members.lookup_of_mem hnames (h.mem_iff.mpr (Members.mem_of_lookup hy))

/-- A value with distinct names in its objects still has them when it is reordered, and is congruent
to what it becomes. -/
theorem Reordered.congruent (h : v.Reordered w) (hv : v.Sound) : w.Sound ∧ v.Congruent w := by
  induction hv generalizing w with
  | scalar hscalar =>
    cases h with
    | refl => exact ⟨.scalar hscalar, (Sound.scalar hscalar).congruent⟩
    | array => cases hscalar
    | object => cases hscalar
  | @array xs hxs ih =>
    cases h with
    | refl => exact ⟨.array hxs, (Sound.array hxs).congruent⟩
    | array items =>
      obtain ⟨hys, hxys⟩ := forall₂_imp_of_mem items fun x hx y hxy => ih x hx hxy
      exact ⟨.array hys, .array hxys⟩
  | @object xs hnames hxs ih =>
    cases h with
    | refl => exact ⟨.object hnames hxs, (Sound.object hnames hxs).congruent⟩
    | @object _ ys zs names values order =>
      have hnames' : (ys.map Prod.fst).Nodup := names ▸ hnames
      have hnames'' : (zs.map Prod.fst).Nodup := (order.map Prod.fst).nodup_iff.mp hnames'
      have hlookup : ∀ name, Option.Rel Reordered (xs.lookup name) (zs.lookup name) := by
        intro name
        rw [← lookup_perm hnames' order]
        exact lookup_of_values names values name
      -- The names of one object are distinct, so a member is found wherever it was moved to.
      have hunder : ∀ name, Option.Rel (fun x z => z.Sound ∧ x.Congruent z) (xs.lookup name)
          (zs.lookup name) := fun name =>
        optionRel_imp_of_mem (hlookup name) fun x hx z hxz =>
          ih (name, x) (Members.mem_of_lookup hx) hxz
      refine ⟨.object hnames'' fun m hm => ?_, .object fun name => ?_⟩
      · have hname := hunder m.1
        rw [Members.lookup_of_mem hnames'' hm] at hname
        generalize xs.lookup m.1 = x at hname
        cases hname with
        | some h => exact h.1
      · exact optionRel_imp_of_mem (hunder name) fun x _ z h => h.2

end Value

/-! ## Texts that do not differ -/

/-- A text that can be read, with the value it lays out. It is not the bare literal of
not-a-number, which is equal to nothing. -/
structure Written where
  text : String
  value : Reading
  laid : value.LaidOut text.toList
  proper : value ≠ .notANumber true

namespace Written

variable {a b c : Written} {encoded : String}

/-- The text that a faithful value is written as. -/
def ofFaithful {v : Value} (text : String) (hv : v.Faithful) (h : v.text? compact = some text) :
    Written where
  text := text
  value := v.spelled
  laid := Reading.ofText?_eq_some_iff.mp (hv.reading_of_text? Reader.passes_compact h)
  proper := by
    cases hv <;> exact nofun

theorem read (a : Written) : Reading.ofText? a.text = some a.value :=
  Reading.ofText?_eq_some_iff.mpr a.laid

theorem sound (a : Written) : a.value.Sound := Reading.sound_of_ofText? a.read

/-- The first text does not differ from the second, in whatever encoding it is stored. -/
def Alike (a b : Written) : Prop :=
  ∀ encoded : String, Text.Percent.Encodes a.text.toList encoded.toList →
    (Stored.text encoded).differs (some b.text) = false

theorem differs_eq_false_iff (h : Text.Percent.Encodes a.text.toList encoded.toList) :
    (Stored.text encoded).differs (some b.text) = false ↔ a.value.Congruent b.value := by
  rw [Stored.differs_text h a.read b.read, Bool.not_eq_false',
    Value.equal_iff_congruent a.sound b.sound b.proper]

/-- Texts do not differ if their values are congruent, and only then. -/
theorem alike_iff : a.Alike b ↔ a.value.Congruent b.value := by
  constructor
  · intro h
    let octets := Text.Percent.encodeWhere (fun _ => true) (fun _ => true) a.text.toList
    have hencodes : Text.Percent.Encodes a.text.toList (String.ofList octets).toList := by
      rw [String.toList_ofList]
      exact Text.Percent.encodes_encodeWhere rfl _ _
    exact (differs_eq_false_iff hencodes).mp (h _ hencodes)
  · intro h encoded hencodes
    exact (differs_eq_false_iff hencodes).mpr h

theorem equivalence_alike : Equivalence Alike where
  refl a := alike_iff.mpr a.sound.congruent
  symm h := alike_iff.mpr (alike_iff.mp h).symm
  trans h h' := alike_iff.mpr ((alike_iff.mp h).trans (alike_iff.mp h'))

theorem alike_of_reordered (h : a.value.Reordered b.value) : a.Alike b :=
  alike_iff.mpr (h.congruent a.sound).2

theorem alike_of_stripped
    (h : Reader.stripped false a.text.toList = Reader.stripped false b.text.toList) :
    a.Alike b := by
  have hvalue : a.value = b.value := Reading.eq_of_stripped a.laid b.laid h
  rw [alike_iff, hvalue]
  exact b.sound.congruent

/-- What is like each of two texts may stand for them. -/
theorem alike_congr {a' b' : Written} (ha : a.Alike a') (hb : b.Alike b') :
    a.Alike b ↔ a'.Alike b' := by
  constructor
  · intro h
    exact equivalence_alike.trans (equivalence_alike.symm ha) (equivalence_alike.trans h hb)
  · intro h
    exact equivalence_alike.trans ha (equivalence_alike.trans h (equivalence_alike.symm hb))

theorem alike_array_iff {xs ys : List Reading} (ha : a.value = .array xs) (hb : b.value = .array ys) :
    a.Alike b ↔ xs.length = ys.length ∧
      ∀ i hi hi', (xs.get ⟨i, hi⟩).Congruent (ys.get ⟨i, hi'⟩) := by
  rw [alike_iff, ha, hb, Value.congruent_array_iff, List.forall₂_iff_get]

/-- Not to differ is an equivalence of texts, and the same in whatever encoding the stored one is.
It is unchanged if in either text the members of objects are written in any other order, at any
depth, or blanks are put between its parts or taken from there. Arrays do not differ if they are of
one length and their items are congruent one by one, and only then. -/
theorem no_difference_equivalence :
    (∀ (a b : Written) (encoded : String), Text.Percent.Encodes a.text.toList encoded.toList →
      ((Stored.text encoded).differs (some b.text) = false ↔ a.Alike b)) ∧
    (∀ a b : Written, a.Alike b ↔ a.value.Congruent b.value) ∧
    Equivalence Alike ∧
    (∀ a a' b b' : Written, a.value.Reordered a'.value → b.value.Reordered b'.value →
      (a.Alike b ↔ a'.Alike b')) ∧
    (∀ a a' b b' : Written,
      Reader.stripped false a.text.toList = Reader.stripped false a'.text.toList →
      Reader.stripped false b.text.toList = Reader.stripped false b'.text.toList →
      (a.Alike b ↔ a'.Alike b')) ∧
    (∀ (a b : Written) (xs ys : List Reading), a.value = .array xs → b.value = .array ys →
      (a.Alike b ↔ xs.length = ys.length ∧
        ∀ i hi hi', (xs.get ⟨i, hi⟩).Congruent (ys.get ⟨i, hi'⟩))) := by
  refine ⟨?_, fun a b => alike_iff, equivalence_alike, ?_, ?_, ?_⟩
  · intro a b encoded hencodes
    rw [differs_eq_false_iff hencodes, alike_iff]
  · intro a a' b b' ha hb
    exact alike_congr (alike_of_reordered ha) (alike_of_reordered hb)
  · intro a a' b b' ha hb
    exact alike_congr (alike_of_stripped ha) (alike_of_stripped hb)
  · intro a b xs ys ha hb
    exact alike_array_iff ha hb

/-- Texts with their names in two orders, with blanks, and with numbers of other kinds do not
differ, from whichever side they are compared; two orders of the items of an array do. -/
theorem no_difference_equivalence_mixed_numbers :
    let plain := "\x7b\"n\":[true,9007199254740993],\"k\":\x7b\"a\":1,\"b\":[]\x7d\x7d"
    let encoded := "%7b%22n%22:[true,9007199254740993],%22k%22:%7b%22a%22:1,%22b%22:[]%7D%7D"
    let moved := "\x7b\"k\":\x7b\"b\":[],\"a\":1\x7d,\"n\":[true,9007199254740993]\x7d"
    let spaced :=
      " \x7b\"k\" :\x7b \"b\":[ ],\r\n\t\"a\":1 \x7d, \"n\":[true ,9007199254740993]\x7d\n"
    let mixed := "\x7b\"n\":[1.0,9007199254740993],\"k\":\x7b\"a\":true,\"b\":[]\x7d\x7d"
    (Stored.text encoded).differs (some mixed) = false ∧
      ∃ a b c d : Written, a.text = plain ∧ b.text = moved ∧ c.text = spaced ∧ d.text = mixed ∧
        b.Alike d ∧ d.Alike c ∧
        ∃ e f : Written, e.text = "[1,2.0]" ∧ f.text = "[2.0,true]" ∧ ¬ e.Alike f := by
  intro plain encoded moved spaced mixed
  let one : Decimal.Binary64 := .finite false (Nat.pow 2 52) (-52)
  let two : Decimal.Binary64 := .finite false (Nat.pow 2 52) (-51)
  have hone : Reader.readBack one = one := by decide +kernel
  have htwo : Reader.readBack two = two := by decide +kernel
  have hfew : Text.FewDigits 9007199254740993 ∧ Text.FewDigits 1 := by decide +kernel
  let numbers (first : Value) : Value := .array [first, .int 9007199254740993]
  let keys : Members := [("a", .int 1), ("b", .array [])]
  let v : Value := .object [("n", numbers (.bool true)), ("k", .object keys)]
  let v' : Value := .object [("k", .object keys.reverse), ("n", numbers (.bool true))]
  let w : Value :=
    .object [("n", numbers (.float one)), ("k", .object [("a", .bool true), ("b", .array [])])]
  have hv : v.Faithful := by
    simp [v, numbers, keys, Value.faithful_object_iff, Value.faithful_array_iff,
      Value.faithful_int_iff, Value.Faithful.bool, hfew]
  have hv' : v'.Faithful := by
    simp [v', numbers, keys, Value.faithful_object_iff, Value.faithful_array_iff,
      Value.faithful_int_iff, Value.Faithful.bool, hfew]
  have hw : w.Faithful := by
    simp [w, numbers, Value.faithful_object_iff, Value.faithful_array_iff, Value.faithful_int_iff,
      Value.Faithful.bool, Value.Faithful.float, hone, hfew]
  let a : Written := .ofFaithful plain hv (by decide +kernel)
  let b : Written := .ofFaithful moved hv' (by decide +kernel)
  let d : Written := .ofFaithful mixed hw (by decide +kernel)
  have hsame : Reader.stripped false moved.toList = Reader.stripped false spaced.toList := by
    decide +kernel
  obtain ⟨c, hc⟩ : ∃ c : Written, c.text = spaced := by
    have hreadable : (Reading.ofText? spaced).isSome = true := by decide +kernel
    obtain ⟨u, hu⟩ := Option.isSome_iff_exists.mp hreadable
    have hlaid := Reading.ofText?_eq_some_iff.mp hu
    have hvalue : v'.spelled = u := Reading.eq_of_stripped b.laid hlaid hsame
    exact ⟨⟨spaced, u, hlaid, hvalue ▸ b.proper⟩, rfl⟩
  have hencodes : Text.Percent.Encodes plain.toList encoded.toList := by
    have hencoded : encoded.toList = Text.Percent.encodeWhere
        (fun c => c ∈ ['\x7b', '\x7d', '"', '%']) (fun c => c = '\x7d') plain.toList := by
      decide +kernel
    rw [hencoded]
    exact Text.Percent.encodes_encodeWhere rfl _ _
  have hkeys : (Value.object keys).spelled.Reordered (Value.object keys.reverse).spelled := by
    have horder : (Value.spelledMembers keys).Perm (Value.spelledMembers keys.reverse) :=
      .swap _ _ _
    exact .object rfl (.cons (.refl _) (.cons (.refl _) .nil)) horder
  have hmoved : v.spelled.Reordered v'.spelled := by
    let inner : Members :=
      [("n", numbers (.bool true)), ("k", .object keys.reverse)]
    have horder : (Value.spelledMembers inner).Perm (Value.spelledMembers inner.reverse) :=
      .swap _ _ _
    refine .object ?_ ?_ horder
    · rfl
    · exact .cons (.refl _) (.cons hkeys .nil)
  have hequal : v.equal w = true := by decide +kernel
  have hcongruent : v.spelled.Congruent w.spelled :=
    (Value.equal_iff_congruent a.sound d.sound d.proper).mp (Value.equal_spelled v w ▸ hequal)
  obtain ⟨hdiffers, halike, hequivalence, hreordered, hstripped, harrays⟩ :=
    no_difference_equivalence
  have had : a.Alike d := (halike a d).mpr hcongruent
  have hbd : b.Alike d := (hreordered a b d d hmoved (.refl _)).mp had
  have hcd : c.Alike d := (hstripped b c d d (hc ▸ hsame) rfl).mp hbd
  refine ⟨(hdiffers a d encoded hencodes).mpr had, a, b, c, d, rfl, rfl, hc, rfl, hbd,
    hequivalence.symm hcd, ?_⟩
  have he : (Value.array [.int 1, .float two]).Faithful := by
    simp [Value.faithful_array_iff, Value.faithful_int_iff, Value.Faithful.float, htwo, hfew]
  have hf : (Value.array [.float two, .bool true]).Faithful := by
    simp [Value.faithful_array_iff, Value.Faithful.bool, Value.Faithful.float, htwo]
  let e : Written := .ofFaithful "[1,2.0]" he (by decide +kernel)
  let f : Written := .ofFaithful "[2.0,true]" hf (by decide +kernel)
  refine ⟨e, f, rfl, rfl, fun hef => ?_⟩
  have hfirst : (Value.int 1).Congruent (.float two) :=
    ((harrays e f _ _ rfl rfl).mp hef).2 0 (by decide) (by decide)
  have hscalar := (Value.congruent_iff_of_scalar rfl).mp hfirst
  revert hscalar
  decide +kernel

/-- An array of an integer with one digit too many cannot be read, so its text is compared with its
own encoding as a text, and differs. -/
theorem overlong_integer_differs_from_itself :
    let document := '[' :: List.replicate (Text.maxDigits + 1) '1' ++ [']']
    let plain := String.ofList document
    let encoded := String.ofList
      (Text.Percent.encodeWhere (fun c => c ∈ ['[', ']', '%']) (fun _ => true) document)
    Text.Percent.Encodes plain.toList encoded.toList ∧
      (Stored.text encoded).differs (some plain) = true := by
  -- Said of any document, so that no step has to go through all the digits.
  have hencodes (document : List Char) : Text.Percent.Encodes (String.ofList document).toList
      (String.ofList (Text.Percent.encodeWhere (fun c => c ∈ ['[', ']', '%']) (fun _ => true)
        document)).toList := by
    rw [String.toList_ofList, String.toList_ofList]
    exact Text.Percent.encodes_encodeWhere rfl _ _
  intro document plain encoded
  have hwhole : Reader.Whole (List.replicate (Text.maxDigits + 1) '1') := by
    refine ⟨fun c hc => ?_, List.cons_ne_nil _ _, fun hzero => ?_⟩
    · obtain rfl := List.eq_of_mem_replicate hc
      rfl
    · cases hzero
  have hliteral : Reader.literal? (List.replicate (Text.maxDigits + 1) '1' ++ [']']) = none :=
    Reader.literal?_overlong hwhole (by simp) (Reader.ended_cons (by simp)).tail
  have hread : read? document = none := Reader.read?_array_of_isDigit rfl hliteral
  have hunread : Reading.ofText? (Text.Percent.decode encoded) = none := by
    rw [Text.Percent.decode_of_encodes (hencodes document), Reading.ofText?, String.toList_ofList]
    exact hread
  have hraw : encoded ≠ plain := by
    intro h
    have hfirst (rest : List Char) :
        (Text.Percent.encodeWhere (fun c => c ∈ ['[', ']', '%']) (fun _ => true)
          ('[' :: rest)).head? = some '%' := rfl
    have hhead := hfirst (List.replicate (Text.maxDigits + 1) '1' ++ [']'])
    rw [← List.cons_append, String.ofList_injective h] at hhead
    cases hhead
  exact ⟨hencodes document, (Stored.differs_undecoded_iff hunread).mpr hraw⟩

end Written

end CloudIdentity.Document

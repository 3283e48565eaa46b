import CloudIdentity.Proofs.Document.RoundTrip
import Mathlib.Data.List.Forall2
import Mathlib.Data.List.Perm.Subperm

/-!
Equality of values, part by part: arrays are equal item by item, and objects if under each name both
have nothing or equal values. So what is under a name can be read back from any value that is equal.
-/

namespace CloudIdentity.Document

/-! ## Looking names up -/

namespace Members

section

variable {τ : Type} [DecidableEq τ] {members : Members τ} {name : τ}

theorem mem_of_lookup {value : Value τ} (h : members.lookup name = some value) :
    (name, value) ∈ members := by
  obtain ⟨before, after, rfl, _⟩ := List.lookup_eq_some_iff.mp h
  exact List.mem_append_right before List.mem_cons_self

theorem lookup_eq_none_iff : members.lookup name = none ↔ name ∉ members.map Prod.fst := by
  simp only [List.lookup_eq_none_iff, bne_iff_ne, List.mem_map, not_exists, not_and]
  exact forall₂_congr fun _ _ => ne_comm

end

theorem lookup_singleton (key : String) (value : Value) (name : String) :
    [(key, value)].lookup name = if name = key then some value else none := by
  rw [List.lookup_cons, List.lookup_nil]
  split <;> simp_all

/-- The texts in the array that is under a name. -/
def textsUnder (members : Members) (name : String) : List String :=
  (members.get name).items.map Value.text

end Members

namespace Value

/-! ## Texts -/

theorem texts_ofTexts (texts : List String) : (ofTexts texts).items.map text = texts := by
  rw [ofTexts, items, List.map_map]
  exact List.map_id texts

theorem same_str_iff {s t : String} : same (.str s) (.str t) = true ↔ s = t := by
  simp [same, sameScalar, scalar?]

/-! ## Arrays -/

section

variable {τ : Type} [DecidableEq τ]

theorem sameItems_iff {xs ys : List (Value τ)} :
    sameItems xs ys = true ↔ List.Forall₂ (fun x y => same x y = true) xs ys := by
  induction xs generalizing ys with
  | nil => cases ys <;> simp [sameItems]
  | cons x xs ih => cases ys <;> simp [sameItems, ih]

theorem same_array_iff {xs ys : List (Value τ)} :
    same (.array xs) (.array ys) = true ↔ List.Forall₂ (fun x y => same x y = true) xs ys := by
  rw [same, sameItems_iff]

end

theorem same_ofTexts_iff {ss ts : List String} :
    same (.ofTexts ss) (.ofTexts ts) = true ↔ ss = ts := by
  simp only [ofTexts, same_array_iff, List.forall₂_map_left_iff, List.forall₂_map_right_iff,
    same_str_iff, List.forall₂_eq_eq_eq]

/-! ## Objects -/

variable {τ : Type}

section

variable [DecidableEq τ]

theorem sameMembers_iff {xs ys : Members τ} :
    sameMembers xs ys = true ↔ ∀ m ∈ xs, ∃ y, ys.lookup m.1 = some y ∧ same m.2 y = true := by
  refine ⟨fun h => ?_, sameMembers_of_lookup⟩
  induction xs with
  | nil => nofun
  | cons head xs ih =>
    obtain ⟨name, x⟩ := head
    rw [sameMembers, Bool.and_eq_true] at h
    refine List.forall_mem_cons.mpr ⟨?_, ih h.2⟩
    cases hlookup : ys.lookup name with
    | none => simp [hlookup] at h
    | some y => exact ⟨y, rfl, by simpa [hlookup] using h.1⟩

/-- Objects with distinct names are equal if they are under each name. -/
theorem same_object_iff {xs ys : Members τ} (hxs : (xs.map Prod.fst).Nodup)
    (hys : (ys.map Prod.fst).Nodup) :
    same (.object xs) (.object ys) = true ↔
      ∀ name, Option.Rel (fun x y => same x y = true) (xs.lookup name) (ys.lookup name) := by
  rw [same, Bool.and_eq_true, beq_iff_eq, sameMembers_iff]
  constructor
  · rintro ⟨hlength, hsame⟩ name
    have hsub : xs.map Prod.fst ⊆ ys.map Prod.fst := by
      intro key hkey
      obtain ⟨m, hm, rfl⟩ := List.mem_map.mp hkey
      obtain ⟨y, hy, _⟩ := hsame m hm
      exact List.mem_map.mpr ⟨_, Members.mem_of_lookup hy, rfl⟩
    have hperm := (hxs.subperm hsub).perm_of_length_le (by simp [hlength])
    cases hlookup : xs.lookup name with
    | some x =>
      obtain ⟨y, hy, hxy⟩ := hsame (name, x) (Members.mem_of_lookup hlookup)
      rw [hy]
      exact .some hxy
    | none =>
      rw [Members.lookup_eq_none_iff, hperm.mem_iff, ← Members.lookup_eq_none_iff] at hlookup
      rw [hlookup]
      exact .none
  · intro h
    have hnames : ∀ name, name ∈ xs.map Prod.fst ↔ name ∈ ys.map Prod.fst := by
      intro name
      rw [← not_iff_not, ← Members.lookup_eq_none_iff, ← Members.lookup_eq_none_iff]
      have hname := h name
      generalize xs.lookup name = x at hname
      generalize ys.lookup name = y at hname
      cases hname <;> simp
    refine ⟨?_, fun m hm => ?_⟩
    · simpa using ((List.perm_ext_iff_of_nodup hxs hys).mpr hnames).length_eq
    · have hname := h m.1
      rw [Members.lookup_of_mem hxs hm] at hname
      generalize hlookup : ys.lookup m.1 = y at hname
      cases hname with
      | some hsame => exact ⟨_, rfl, hsame⟩

/-- Objects with no other names than these are equal if they are under each of them. -/
theorem same_object_iff_of_names {names : List τ} (hnames : names.Nodup) {xs ys : Members τ}
    (hxs : (xs.map Prod.fst).Sublist names) (hys : (ys.map Prod.fst).Sublist names) :
    same (.object xs) (.object ys) = true ↔ ∀ name ∈ names,
      Option.Rel (fun x y => same x y = true) (xs.lookup name) (ys.lookup name) := by
  rw [same_object_iff (hxs.nodup hnames) (hys.nodup hnames)]
  refine ⟨fun h name _ => h name, fun h name => ?_⟩
  by_cases hname : name ∈ names
  · exact h name hname
  · rw [Members.lookup_eq_none_iff.mpr fun hmem => hname (hxs.subset hmem),
      Members.lookup_eq_none_iff.mpr fun hmem => hname (hys.subset hmem)]
    exact .none

theorem equal_object (xs ys : Members τ) :
    equal (.object xs) (.object ys) = same (.object xs) (.object ys) := by
  simp [equal]

end

/-! ## Structural equality -/

/-- The number that a boolean, an integer or a double stands for. -/
def number? : Value τ → Option Decimal.Binary64.Magnitude
  | .bool b => some (.exact (if b then 1 else 0))
  | .int n => some (.exact (n : Rat))
  | .float x => some x.magnitude
  | _ => none

/-- Structural equality, by what values are made of: the same number in whatever kind, the same
text, arrays item by item, and objects that have under each name nothing or congruent values. An
interned not-a-number is congruent to itself, as it is inside an array or an object. -/
inductive Congruent [DecidableEq τ] : Value τ → Value τ → Prop where
  | null : Congruent .null .null
  | number {v w : Value τ} {m : Decimal.Binary64.Magnitude} (left : v.number? = some m)
      (right : w.number? = some m) : Congruent v w
  | notANumber : Congruent (.notANumber true) (.notANumber true)
  | str (s : τ) : Congruent (.str s) (.str s)
  | array {xs ys : List (Value τ)} (items : List.Forall₂ Congruent xs ys) :
      Congruent (.array xs) (.array ys)
  | object {xs ys : Members τ}
      (members : ∀ name, Option.Rel Congruent (xs.lookup name) (ys.lookup name)) :
      Congruent (.object xs) (.object ys)

theorem scalar?_eq_null_iff {v : Value τ} : v.scalar? = some .null ↔ v = .null := by
  rcases v with _ | _ | _ | _ | (_ | _) | _ | _ | _ | _ <;> simp [scalar?]

theorem scalar?_eq_number_iff {v : Value τ} {m : Decimal.Binary64.Magnitude} :
    v.scalar? = some (.number m) ↔ v.number? = some m := by
  rcases v with _ | _ | _ | _ | (_ | _) | _ | _ | _ | _ <;> simp [scalar?, number?]

theorem scalar?_eq_text_iff {v : Value τ} {s : τ} :
    v.scalar? = some (.text s) ↔ v = .str s := by
  rcases v with _ | _ | _ | _ | (_ | _) | _ | _ | _ | _ <;> simp [scalar?]

theorem scalar?_eq_interned_iff {v : Value τ} :
    v.scalar? = some .interned ↔ v = .notANumber true := by
  rcases v with _ | _ | _ | _ | (_ | _) | _ | _ | _ | _ <;> simp [scalar?]

theorem forall₂_congr_of_mem {R S : Value τ → Value τ → Prop} {xs ys : List (Value τ)}
    (h : ∀ x ∈ xs, ∀ y ∈ ys, (R x y ↔ S x y)) : List.Forall₂ R xs ys ↔ List.Forall₂ S xs ys := by
  simp only [List.forall₂_iff_get]
  refine and_congr_right fun _ => forall_congr' fun i => forall₂_congr fun hx hy => ?_
  exact h _ (List.get_mem xs ⟨i, hx⟩) _ (List.get_mem ys ⟨i, hy⟩)

variable [DecidableEq τ]

/-- A value that is compared as a whole is congruent to those that are compared by the same. -/
theorem congruent_iff_of_scalar {v w : Value τ} {s : Scalar τ} (hv : v.scalar? = some s) :
    Congruent v w ↔ w.scalar? = some s := by
  constructor
  · intro h
    cases h with
    | null => exact hv
    | number left right =>
      rw [scalar?_eq_number_iff.mpr left] at hv
      rw [scalar?_eq_number_iff.mpr right, hv]
    | notANumber => exact hv
    | str => exact hv
    | array => cases hv
    | object => cases hv
  · intro hw
    cases s with
    | null =>
      obtain rfl := scalar?_eq_null_iff.mp hv
      obtain rfl := scalar?_eq_null_iff.mp hw
      exact .null
    | number m => exact .number (scalar?_eq_number_iff.mp hv) (scalar?_eq_number_iff.mp hw)
    | text s =>
      obtain rfl := scalar?_eq_text_iff.mp hv
      obtain rfl := scalar?_eq_text_iff.mp hw
      exact .str s
    | interned =>
      obtain rfl := scalar?_eq_interned_iff.mp hv
      obtain rfl := scalar?_eq_interned_iff.mp hw
      exact .notANumber

/-- What is congruent to an array is an array, item by item. -/
theorem congruent_array_left {xs : List (Value τ)} {w : Value τ} :
    Congruent (.array xs) w ↔ ∃ ys, w = .array ys ∧ List.Forall₂ Congruent xs ys := by
  constructor
  · intro h
    cases h with
    | number left _ => cases left
    | array items => exact ⟨_, rfl, items⟩
  · rintro ⟨ys, rfl, items⟩
    exact .array items

/-- What is congruent to an object is an object, name by name. -/
theorem congruent_object_left {xs : Members τ} {w : Value τ} :
    Congruent (.object xs) w ↔ ∃ ys : Members τ, w = .object ys ∧
      ∀ name, Option.Rel Congruent (xs.lookup name) (ys.lookup name) := by
  constructor
  · intro h
    cases h with
    | number left _ => cases left
    | object members => exact ⟨_, rfl, members⟩
  · rintro ⟨ys, rfl, members⟩
    exact .object members

theorem congruent_array_iff {xs ys : List (Value τ)} :
    Congruent (.array xs) (.array ys) ↔ List.Forall₂ Congruent xs ys := by
  simp [congruent_array_left]

theorem congruent_object_iff {xs ys : Members τ} :
    Congruent (.object xs) (.object ys) ↔
      ∀ name, Option.Rel Congruent (xs.lookup name) (ys.lookup name) := by
  simp [congruent_object_left]

theorem same_iff_of_scalar {v w : Value τ} {s : Scalar τ} (hv : v.scalar? = some s) :
    same v w = true ↔ w.scalar? = some s := by
  have hsame : same v w = sameScalar v w := by
    cases v with
    | array items => cases hv
    | object members => cases hv
    | _ => simp only [same]
  rw [hsame, sameScalar, hv]
  cases w.scalar? <;> simp [eq_comm]

/-- Values with distinct names in their objects are compared by structure. -/
theorem same_iff_congruent {v w : Value τ} (hv : v.Sound) (hw : w.Sound) :
    same v w = true ↔ Congruent v w := by
  induction hv generalizing w with
  | scalar h => rw [same_iff_of_scalar h, congruent_iff_of_scalar h]
  | @array xs _ ih =>
    cases w with
    | array ys =>
      have hitems : ∀ y ∈ ys, y.Sound := by
        cases hw with
        | scalar h => cases h
        | array h => exact h
      rw [same_array_iff, forall₂_congr_of_mem fun x hx y hy => ih x hx (hitems y hy),
        congruent_array_iff]
    | _ => exact iff_of_false (by simp [same]) (by simp [congruent_array_left])
  | @object xs hnames _ ih =>
    cases w with
    | object ys =>
      obtain ⟨hnames', hmembers⟩ : (ys.map Prod.fst).Nodup ∧ ∀ m ∈ ys, m.2.Sound := by
        cases hw with
        | scalar h => cases h
        | object names h => exact ⟨names, h⟩
      have hunder : ∀ name,
          Option.Rel (fun x y => same x y = true) (xs.lookup name) (ys.lookup name) ↔
            Option.Rel Congruent (xs.lookup name) (ys.lookup name) := by
        intro name
        cases hx : xs.lookup name <;> cases hy : ys.lookup name
        · simp
        · simp
        · simp
        · rw [Option.rel_some_some, Option.rel_some_some]
          exact ih _ (Members.mem_of_lookup hx) (hmembers _ (Members.mem_of_lookup hy))
      rw [same_object_iff hnames hnames', forall_congr' hunder, congruent_object_iff]
    | _ => exact iff_of_false (by simp [same]) (by simp [congruent_object_left])

theorem Sound.congruent {v : Value τ} (h : v.Sound) : v.Congruent v :=
  (same_iff_congruent h h).mp h.same

theorem Faithful.sound {v : Value} (h : v.Faithful) : v.Sound := by
  induction h with
  | null => exact .scalar rfl
  | bool b => exact .scalar rfl
  | int n => exact .scalar rfl
  | float back => exact .scalar rfl
  | str s => exact .scalar rfl
  | array _ ih => exact .array ih
  | object names _ ih => exact .object names ih

/-! ## What was read -/

theorem rereadItems_eq_map (items : List Value) : rereadItems items = items.map reread := by
  induction items with
  | nil => rfl
  | cons v items ih => rw [rereadItems, ih, List.map_cons]

theorem names_rereadMembers (members : Members) :
    (rereadMembers members).map Prod.fst = members.map Prod.fst := by
  induction members with
  | nil => rfl
  | cons m members ih => rw [rereadMembers, List.map_cons, ih, List.map_cons]

theorem lookup_rereadMembers (members : Members) (name : String) :
    (rereadMembers members).lookup name = (members.lookup name).map reread := by
  induction members with
  | nil => rfl
  | cons m members ih =>
    rw [rereadMembers, List.lookup_cons, List.lookup_cons, ih]
    cases name == m.1 <;> rfl

/-- An object with distinct names is read back with each member in its place. -/
theorem reread_object {members : Members} (h : (members.map Prod.fst).Nodup) :
    (Value.object members).reread = .object (rereadMembers members) := by
  rw [reread, Members.ofWritten_eq_self (by rwa [names_rereadMembers])]

end Value

end CloudIdentity.Document

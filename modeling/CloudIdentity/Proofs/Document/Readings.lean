import CloudIdentity.Document.Reader
import CloudIdentity.Proofs.Document.Recognition

/-!
Values and what they say. Different values say different things, and what is said tells a value
unless half of a surrogate pair stands alone in it. Nothing that values are compared by, and no
order of members, is lost on the way.
-/

namespace CloudIdentity.Document

namespace Value

/-! ## Values and their parts -/

section

variable {τ : Type}

/-- Whether a value holds no others. -/
def isLeaf : Value τ → Bool
  | .array _ | .object _ => false
  | _ => true

/-- What holds of values without parts, and of arrays and objects if it holds of their parts, holds
of every value. -/
theorem nested_induction {P : Value τ → Prop} (leaf : ∀ v, isLeaf v = true → P v)
    (array : ∀ items, (∀ v ∈ items, P v) → P (.array items))
    (object : ∀ members : Members τ, (∀ m ∈ members, P m.2) → P (.object members)) (v : Value τ) :
    P v :=
  @Value.rec τ P (fun items => ∀ v ∈ items, P v) (fun members => ∀ m ∈ members, P m.2)
    (fun m => P m.2)
    (leaf _ rfl) (fun _ => leaf _ rfl) (fun _ => leaf _ rfl) (fun _ => leaf _ rfl)
    (fun _ => leaf _ rfl) (fun _ => leaf _ rfl) array object (fun _ => leaf _ rfl)
    (by simp) (fun _ _ head tail => List.forall_mem_cons.mpr ⟨head, tail⟩)
    (by simp) (fun _ _ head tail => List.forall_mem_cons.mpr ⟨head, tail⟩) (fun _ _ h => h) v

end

/-! ## What a value says -/

variable {v w : Value}

theorem lookup_spelledMembers (members : Members) (name : String) :
    (spelledMembers members).lookup (Text.codes name) = (members.lookup name).map spelled := by
  induction members with
  | nil => rfl
  | cons m members ih =>
    have hname : (Text.codes name == Text.codes m.1) = (name == m.1) := by
      rw [Bool.eq_iff_iff, beq_iff_eq, beq_iff_eq, Text.codes_inj]
    rw [spelledMembers, List.lookup_cons, List.lookup_cons, ih, hname]
    cases name == m.1 <;> rfl

theorem length_spelledMembers (members : Members) :
    (spelledMembers members).length = members.length := by
  induction members with
  | nil => rfl
  | cons m members ih => rw [spelledMembers, List.length_cons, List.length_cons, ih]

theorem spelledMembers_put (members : Members) (name : String) (value : Value) :
    spelledMembers (members.put name value) =
      (spelledMembers members).put (Text.codes name) value.spelled := by
  induction members with
  | nil => rfl
  | cons m members ih =>
    rw [Members.put, spelledMembers, Members.put]
    by_cases hname : m.1 = name
    · rw [if_pos hname, if_pos (Text.codes_inj.mpr hname), spelledMembers]
    · rw [if_neg hname, if_neg (Text.codes_inj.not.mpr hname), spelledMembers, ih]

/-- Members that were written one after another say what was written one after another. -/
theorem spelledMembers_ofWritten (written : Members) :
    spelledMembers (Members.ofWritten written) = Members.ofWritten (spelledMembers written) := by
  suffices hfold : ∀ before : Members,
      spelledMembers (written.foldl (fun members m => members.put m.1 m.2) before) =
        (spelledMembers written).foldl (fun members m => members.put m.1 m.2)
          (spelledMembers before) from hfold []
  induction written with
  | nil => exact fun _ => rfl
  | cons m written ih =>
    intro before
    rw [List.foldl_cons, ih, spelledMembers_put, spelledMembers, List.foldl_cons]

/-! ## Equality -/

/-- What a value says is compared by what the value is compared by. -/
def spelledScalar : Scalar → Scalar Text.Codes
  | .null => .null
  | .number m => .number m
  | .text s => .text (Text.codes s)
  | .interned => .interned

theorem spelledScalar_inj {s t : Scalar} : spelledScalar s = spelledScalar t ↔ s = t := by
  cases s <;> cases t <;> simp [spelledScalar, Text.codes_inj]

theorem scalar?_spelled (v : Value) : v.spelled.scalar? = v.scalar?.map spelledScalar := by
  rcases v with _ | _ | _ | _ | (_ | _) | _ | _ | _ | _ <;> rfl

theorem sameScalar_spelled (v w : Value) :
    sameScalar v.spelled w.spelled = sameScalar v w := by
  rw [sameScalar, sameScalar, scalar?_spelled, scalar?_spelled]
  cases v.scalar? <;> cases w.scalar? <;> simp [spelledScalar_inj]

theorem same_spelled_leaf (hleaf : isLeaf v = true) : same v.spelled w.spelled = same v w := by
  have hscalar := sameScalar_spelled v w
  cases v with
  | array items => cases hleaf
  | object members => cases hleaf
  | _ => simpa only [spelled, same] using hscalar

theorem sameItems_spelled {xs ys : List Value}
    (h : ∀ x ∈ xs, ∀ y : Value, same x.spelled y.spelled = same x y) :
    sameItems (spelledItems xs) (spelledItems ys) = sameItems xs ys := by
  induction xs generalizing ys with
  | nil => cases ys <;> rfl
  | cons x xs ih =>
    obtain ⟨hhead, htail⟩ := List.forall_mem_cons.mp h
    cases ys with
    | nil => rfl
    | cons y ys =>
      rw [spelledItems, spelledItems, sameItems, sameItems, hhead, ih htail]

theorem sameMembers_spelled {xs ys : Members}
    (h : ∀ m ∈ xs, ∀ y : Value, same m.2.spelled y.spelled = same m.2 y) :
    sameMembers (spelledMembers xs) (spelledMembers ys) = sameMembers xs ys := by
  induction xs with
  | nil => rfl
  | cons m xs ih =>
    obtain ⟨hhead, htail⟩ := List.forall_mem_cons.mp h
    rw [spelledMembers, sameMembers, sameMembers, ih htail, lookup_spelledMembers]
    cases ys.lookup m.1 with
    | none => rfl
    | some y => simp only [Option.map_some, hhead]

/-- Values are the same inside an array or an object just if what they say is. -/
theorem same_spelled (v w : Value) : same v.spelled w.spelled = same v w := by
  induction v using nested_induction generalizing w with
  | leaf v hleaf => exact same_spelled_leaf hleaf
  | array xs ih =>
    cases w with
    | array ys =>
      rw [spelled, spelled, same, same]
      exact sameItems_spelled ih
    | _ => simp only [spelled, same]
  | object xs ih =>
    cases w with
    | object ys =>
      rw [spelled, spelled, same, same, length_spelledMembers, length_spelledMembers,
        sameMembers_spelled ih]
    | _ => simp only [spelled, same]

/-- Values are equal just if what they say is. -/
theorem equal_spelled (v w : Value) : v.spelled.equal w.spelled = v.equal w := by
  have hsame := same_spelled v w
  cases v with
  | notANumber interned =>
    cases w with
    | notANumber interned' => rfl
    | _ => exact hsame
  | _ => exact hsame

end Value

/-! ## The value that says something -/

namespace Reading

open Value

theorem value?_spelled (v : Value) : Reading.value? v.spelled = some v := by
  induction v using nested_induction with
  | leaf v hleaf =>
    cases v with
    | array items => cases hleaf
    | object members => cases hleaf
    | str s => rw [spelled, value?, Text.ofCodes?_codes, Option.map_some]
    | _ => rfl
  | array items ih =>
    suffices hitems : items? (spelledItems items) = some items by
      rw [spelled, value?, hitems, Option.map_some]
    induction items with
    | nil => rfl
    | cons v items ihitems =>
      obtain ⟨hhead, htail⟩ := List.forall_mem_cons.mp ih
      rw [spelledItems, items?, hhead, ihitems htail]
  | object members ih =>
    suffices hmembers : members? (spelledMembers members) = some members by
      rw [spelled, value?, hmembers, Option.map_some]
    induction members with
    | nil => rfl
    | cons m members ihmembers =>
      obtain ⟨hhead, htail⟩ := List.forall_mem_cons.mp ih
      rw [spelledMembers, members?, Text.ofCodes?_codes, hhead, ihmembers htail]

theorem spelled_of_value? {r : Reading} {v : Value} (h : r.value? = some v) : v.spelled = r := by
  induction r using nested_induction generalizing v with
  | leaf r hleaf =>
    cases r with
    | array items => cases hleaf
    | object members => cases hleaf
    | str s =>
      obtain ⟨text, htext, rfl⟩ := Option.map_eq_some_iff.mp h
      rw [spelled, Text.codes_of_ofCodes? htext]
    | _ =>
      obtain rfl := Option.some.inj h
      rfl
  | array items ih =>
    obtain ⟨vs, hvs, rfl⟩ := Option.map_eq_some_iff.mp h
    suffices hitems : spelledItems vs = items by rw [spelled, hitems]
    clear h
    induction items generalizing vs with
    | nil =>
      obtain rfl := Option.some.inj hvs
      rfl
    | cons r items ihitems =>
      obtain ⟨hhead, htail⟩ := List.forall_mem_cons.mp ih
      rw [items?] at hvs
      split at hvs
      · next v more hv hmore =>
        obtain rfl := Option.some.inj hvs
        rw [spelledItems, hhead hv, ihitems htail more hmore]
      · cases hvs
  | object members ih =>
    obtain ⟨ms, hms, rfl⟩ := Option.map_eq_some_iff.mp h
    suffices hmembers : spelledMembers ms = members by rw [spelled, hmembers]
    clear h
    induction members generalizing ms with
    | nil =>
      obtain rfl := Option.some.inj hms
      rfl
    | cons m members ihmembers =>
      obtain ⟨hhead, htail⟩ := List.forall_mem_cons.mp ih
      rw [members?] at hms
      split at hms
      · next name v more hname hv hmore =>
        obtain rfl := Option.some.inj hms
        rw [spelledMembers, Text.codes_of_ofCodes? hname, hhead hv, ihmembers htail more hmore]
      · cases hms

end Reading

/-- A text is read as a value just if it says what the value does. -/
theorem Value.ofText?_eq_some_iff {text : String} {v : Value} :
    Value.ofText? text = some v ↔ Reading.ofText? text = some v.spelled := by
  rw [Value.ofText?, Option.bind_eq_some_iff]
  constructor
  · rintro ⟨r, hr, hv⟩
    rw [hr, Reading.spelled_of_value? hv]
  · intro h
    exact ⟨v.spelled, h, Reading.value?_spelled v⟩

end CloudIdentity.Document

import CloudIdentity.Document.Equality
import CloudIdentity.Document.Reader
import Mathlib.Data.List.Nodup

/-!
Which values are equal to themselves. Foreign values and a caller's own not-a-number are not, nor is
an object that gives one name twice. No text is read as a value with any of these in it, so what was
read is always recognised.
-/

namespace CloudIdentity.Document

/-! ## The names in an object -/

namespace Members

variable {τ : Type} [DecidableEq τ] {members : Members τ} {name : τ} {value : Value τ}

theorem lookup_of_mem (hnames : (members.map Prod.fst).Nodup) (h : (name, value) ∈ members) :
    members.lookup name = some value := by
  induction members with
  | nil => cases h
  | cons m members ih =>
    rw [List.map_cons, List.nodup_cons] at hnames
    rw [List.lookup_cons]
    rcases List.mem_cons.mp h with rfl | hrest
    · rw [beq_self_eq_true]
    · have hne : name ≠ m.1 := by
        rintro rfl
        exact hnames.1 (List.mem_map.mpr ⟨_, hrest, rfl⟩)
      rw [beq_eq_false_iff_ne.mpr hne]
      exact ih hnames.2 hrest

theorem mem_put {m : τ × Value τ} (h : m ∈ members.put name value) :
    m = (name, value) ∨ m ∈ members := by
  induction members with
  | nil => exact Or.inl (List.mem_singleton.mp h)
  | cons head members ih =>
    obtain ⟨key, old⟩ := head
    unfold put at h
    split at h
    · rcases List.mem_cons.mp h with rfl | hrest
      · exact Or.inl rfl
      · exact Or.inr (List.mem_cons_of_mem _ hrest)
    · rcases List.mem_cons.mp h with rfl | hrest
      · exact Or.inr List.mem_cons_self
      · exact (ih hrest).imp_right (List.mem_cons_of_mem _)

theorem nodup_put (h : (members.map Prod.fst).Nodup) :
    ((members.put name value).map Prod.fst).Nodup := by
  induction members with
  | nil => exact List.nodup_singleton name
  | cons head members ih =>
    obtain ⟨key, old⟩ := head
    rw [List.map_cons, List.nodup_cons] at h
    unfold put
    split
    · next heq =>
      subst heq
      exact List.nodup_cons.mpr h
    · next hne =>
      refine List.nodup_cons.mpr ⟨?_, ih h.2⟩
      intro hmem
      obtain ⟨m, hput, hkey⟩ := List.mem_map.mp hmem
      rcases mem_put hput with rfl | hold
      · exact hne hkey.symm
      · exact h.1 (hkey ▸ List.mem_map_of_mem (f := Prod.fst) hold)

/-- Members that were written one after another have distinct names, and values that were
written. -/
theorem ofWritten_spec (written : Members τ) :
    ((ofWritten written).map Prod.fst).Nodup ∧ ∀ m ∈ ofWritten written, m ∈ written := by
  suffices hfold : ∀ members : Members τ, (members.map Prod.fst).Nodup →
      ((written.foldl (fun members m => members.put m.1 m.2) members).map Prod.fst).Nodup ∧
        ∀ m ∈ written.foldl (fun members m => members.put m.1 m.2) members,
          m ∈ members ∨ m ∈ written by
    obtain ⟨hnames, hmem⟩ := hfold [] List.nodup_nil
    exact ⟨hnames, fun m hm => (hmem m hm).resolve_left List.not_mem_nil⟩
  induction written with
  | nil => exact fun members h => ⟨h, fun m hm => Or.inl hm⟩
  | cons head written ih =>
    intro members h
    obtain ⟨hnames, hmem⟩ := ih (members.put head.1 head.2) (nodup_put h)
    refine ⟨hnames, fun m hm => ?_⟩
    rcases hmem m hm with hput | hrest
    · rcases mem_put hput with rfl | hold
      · exact Or.inr List.mem_cons_self
      · exact Or.inl hold
    · exact Or.inr (List.mem_cons_of_mem _ hrest)

theorem put_of_not_mem (h : name ∉ members.map Prod.fst) :
    members.put name value = members ++ [(name, value)] := by
  induction members with
  | nil => rfl
  | cons head members ih =>
    rw [List.map_cons, List.mem_cons, not_or] at h
    rw [put, if_neg (Ne.symm h.1), ih h.2, List.cons_append]

/-- Members with distinct names are as they were written. -/
theorem ofWritten_eq_self (h : (members.map Prod.fst).Nodup) : ofWritten members = members := by
  suffices hfold : ∀ before : Members τ, ((before ++ members).map Prod.fst).Nodup →
      members.foldl (fun members m => members.put m.1 m.2) before = before ++ members from
    hfold [] h
  intro before hnames
  induction members generalizing before with
  | nil => exact (List.append_nil before).symm
  | cons head members ih =>
    have hfresh : head.1 ∉ before.map Prod.fst := by
      rw [List.map_append, List.map_cons, List.nodup_append] at hnames
      exact fun hmem => hnames.2.2 _ hmem _ List.mem_cons_self rfl
    have hsplit : before ++ head :: members = before ++ [head] ++ members := by
      rw [List.append_assoc, List.singleton_append]
    rw [List.foldl_cons, put_of_not_mem hfresh, hsplit]
    rw [hsplit] at hnames
    exact ih (List.nodup_cons.mp h).2 _ hnames

end Members

/-! ## Values that are equal to themselves -/

namespace Value

variable {τ : Type}

/-- A value made of scalars, arrays, and objects with distinct names. -/
inductive Sound : Value τ → Prop where
  | scalar {v : Value τ} {s : Scalar τ} (h : v.scalar? = some s) : Sound v
  | array {items : List (Value τ)} (h : ∀ v ∈ items, Sound v) : Sound (.array items)
  | object {members : Members τ} (names : (members.map Prod.fst).Nodup)
      (h : ∀ m ∈ members, Sound m.2) : Sound (.object members)

variable [DecidableEq τ]

theorem same_of_scalar {v : Value τ} {s : Scalar τ} (h : v.scalar? = some s) : same v v = true := by
  have hscalar : sameScalar v v = true := by simp [sameScalar, h]
  cases v with
  | array items => cases h
  | object members => cases h
  | _ => simpa only [same] using hscalar

theorem sameItems_self {items : List (Value τ)} (h : ∀ v ∈ items, same v v = true) :
    sameItems items items = true := by
  induction items with
  | nil => rfl
  | cons v items ih =>
    rw [sameItems, h v List.mem_cons_self, ih fun w hw => h w (List.mem_cons_of_mem v hw)]
    rfl

theorem sameMembers_of_lookup {xs ys : Members τ}
    (h : ∀ m ∈ xs, ∃ y, ys.lookup m.1 = some y ∧ same m.2 y = true) :
    sameMembers xs ys = true := by
  induction xs with
  | nil => rfl
  | cons m xs ih =>
    obtain ⟨name, x⟩ := m
    obtain ⟨y, hlookup, hsame⟩ := h (name, x) List.mem_cons_self
    rw [sameMembers, hlookup, ih fun w hw => h w (List.mem_cons_of_mem _ hw)]
    simpa using hsame

theorem Sound.same {v : Value τ} (h : Sound v) : same v v = true := by
  induction h with
  | scalar h => exact same_of_scalar h
  | array _ ih =>
    rw [Value.same]
    exact sameItems_self ih
  | object names _ ih =>
    rw [Value.same, beq_self_eq_true, Bool.true_and]
    exact sameMembers_of_lookup fun m hm => ⟨m.2, Members.lookup_of_mem names hm, ih m hm⟩

end Value

/-! ## Values that were read -/

namespace Reader

open Value

theorem unsignedNumber?_scalar {negative : Bool} {cs rest : List Char} {v : Reading}
    (h : unsignedNumber? negative cs = some (v, rest)) : ∃ s, v.scalar? = some s := by
  unfold unsignedNumber? at h
  split at h
  · cases h
  · dsimp only at h
    split at h
    · split at h <;> cases h
      exact ⟨_, rfl⟩
    · cases h
      exact ⟨_, rfl⟩

theorem number?_scalar {cs rest : List Char} {v : Reading} (h : number? cs = some (v, rest)) :
    ∃ s, v.scalar? = some s := by
  unfold number? at h
  split at h <;> exact unsignedNumber?_scalar h

theorem literal?_scalar {cs rest : List Char} {v : Reading} (h : literal? cs = some (v, rest)) :
    ∃ s, v.scalar? = some s := by
  unfold literal? at h
  split at h
  · next hnumber =>
    rw [h] at hnumber
    exact number?_scalar hnumber
  · obtain ⟨⟨name, w⟩, hmem, hw⟩ := List.exists_of_findSome?_eq_some h
    obtain ⟨_, _, heq⟩ := Option.map_eq_some_iff.mp hw
    cases heq
    simp only [List.mem_cons, Prod.mk.injEq, List.not_mem_nil, or_false] at hmem
    rcases hmem with ⟨_, rfl⟩ | ⟨_, rfl⟩ | ⟨_, rfl⟩ | ⟨_, rfl⟩ | ⟨_, rfl⟩ | ⟨_, rfl⟩ <;>
      exact ⟨_, rfl⟩

/-- Whatever is read within so many steps is sound. -/
structure SoundWithin (steps : Nat) : Prop where
  value : ∀ cs v rest, value? steps cs = some (v, rest) → Sound v
  items : ∀ cs vs rest, items? steps cs = some (vs, rest) → ∀ v ∈ vs, Sound v
  members : ∀ cs ms rest, members? steps cs = some (ms, rest) → ∀ m ∈ ms, Sound m.2

theorem sound_ofWritten {members : Members Text.Codes} (h : ∀ m ∈ members, Sound m.2) :
    Sound (.object (Members.ofWritten members)) :=
  have hwritten := Members.ofWritten_spec members
  .object hwritten.1 fun m hm => h m (hwritten.2 m hm)

theorem soundWithin_succ {steps : Nat} (ih : SoundWithin steps) : SoundWithin (steps + 1) where
  value := by
    intro cs v rest h
    unfold value? at h
    dsimp only at h
    split at h
    · obtain ⟨_, _, heq⟩ := Option.map_eq_some_iff.mp h
      cases heq
      exact .scalar rfl
    · split at h
      · cases h
        exact .array (by simp)
      · obtain ⟨⟨vs, _⟩, hvs, heq⟩ := Option.map_eq_some_iff.mp h
        cases heq
        exact .array (ih.items _ _ _ hvs)
    · split at h
      · cases h
        exact .object List.nodup_nil (by simp)
      · obtain ⟨⟨ms, _⟩, hms, heq⟩ := Option.map_eq_some_iff.mp h
        cases heq
        exact sound_ofWritten (ih.members _ _ _ hms)
    · obtain ⟨s, hs⟩ := literal?_scalar h
      exact .scalar hs
  items := by
    intro cs vs rest h
    unfold items? at h
    split at h
    · cases h
    next v _ hv =>
    have hhead := ih.value _ _ _ hv
    split at h
    · obtain ⟨⟨more, _⟩, hmore, heq⟩ := Option.map_eq_some_iff.mp h
      cases heq
      exact List.forall_mem_cons.mpr ⟨hhead, ih.items _ _ _ hmore⟩
    · cases h
      simpa using hhead
    · cases h
  members := by
    intro cs ms rest h
    unfold members? at h
    dsimp only at h
    split at h
    · split at h
      · cases h
      split at h
      · split at h
        · cases h
        next v _ hv =>
        have hhead := ih.value _ _ _ hv
        split at h
        · obtain ⟨⟨more, _⟩, hmore, heq⟩ := Option.map_eq_some_iff.mp h
          cases heq
          exact List.forall_mem_cons.mpr ⟨hhead, ih.members _ _ _ hmore⟩
        · cases h
          simpa using hhead
        · cases h
      · cases h
    · cases h

theorem soundWithin (steps : Nat) : SoundWithin steps := by
  induction steps with
  | zero =>
    refine ⟨?_, ?_, ?_⟩
    · intro cs v rest h
      cases h
    · intro cs vs rest h
      cases h
    · intro cs ms rest h
      cases h
  | succ steps ih => exact soundWithin_succ ih

end Reader

/-- A value that was read is sound. -/
theorem Reading.sound_of_ofText? {s : String} {v : Reading} (h : Reading.ofText? s = some v) :
    v.Sound := by
  rw [Reading.ofText?, read?] at h
  split at h
  · next hread =>
    split at h
    · cases h
      exact (Reader.soundWithin _).value _ _ _ hread
    · cases h
  · cases h

end CloudIdentity.Document

import CloudIdentity.Gcp.Policy
import Mathlib.Data.List.Forall2
import Mathlib.Tactic.Tauto

/-!
What granting and revoking do to the bindings of a policy, for any bindings at all: several of one
role, empty ones, repeated members and bindings under a condition. A grant only ever appends, a
member to the first unconditional binding of the role or a binding at the end, and it adds one pair
of a role and a member to those that the policy grants. Merging a document for a member a second
time changes nothing.
-/

namespace CloudIdentity

theorem PolicyDocument.mem_allowedActions {d : PolicyDocument} {action : String} :
    action ∈ d.allowedActions ↔ ∃ s ∈ d.statements, s.effect = .allow ∧ action ∈ s.actions := by
  simp [PolicyDocument.allowedActions, List.mem_flatMap, List.mem_ite_nil_right]

end CloudIdentity

namespace CloudIdentity.Gcp

/-- Some binding of the role, under no condition, has the member. -/
def Holds (bindings : List Binding) (role member : String) : Prop :=
  ∃ b ∈ bindings, b.grants role = true ∧ member ∈ b.members

instance (bindings : List Binding) (role member : String) : Decidable (Holds bindings role member) :=
  inferInstanceAs (Decidable (∃ b ∈ bindings, b.grants role = true ∧ member ∈ b.members))

theorem Binding.grants_iff {b : Binding} {role : String} :
    b.grants role = true ↔ b.role = role ∧ b.condition = none := by
  simp [Binding.grants]

/-- Whether a binding is under a condition. -/
def Binding.conditional (b : Binding) : Bool := b.condition.isSome

@[simp] theorem holds_nil (role member : String) : ¬ Holds [] role member := by
  simp [Holds]

@[simp] theorem holds_cons (b : Binding) (bindings : List Binding) (role member : String) :
    Holds (b :: bindings) role member ↔
      (b.grants role = true ∧ member ∈ b.members) ∨ Holds bindings role member := by
  simp [Holds]

@[simp] theorem holds_append (before after : List Binding) (role member : String) :
    Holds (before ++ after) role member ↔
      Holds before role member ∨ Holds after role member := by
  simp [Holds, or_and_right, exists_or]

/-! ## One grant -/

/-- The first unconditional binding of the role has the member: a grant has nothing to do. -/
def Settled (bindings : List Binding) (role member : String) : Prop :=
  ∃ b, bindings.find? (fun a => a.grants role) = some b ∧ member ∈ b.members

theorem Settled.holds {bindings : List Binding} {role member : String}
    (h : Settled bindings role member) : Holds bindings role member := by
  obtain ⟨b, hb, hmem⟩ := h
  have hgrants : b.grants role = true := List.find?_some (p := fun a : Binding => a.grants role) hb
  exact ⟨b, List.mem_of_find?_eq_some hb, hgrants, hmem⟩

theorem grant?_eq_none_iff {role member : String} {bindings : List Binding} :
    grant? role member bindings = none ↔ Settled bindings role member := by
  induction bindings with
  | nil => simp [grant?, Settled]
  | cons b rest ih =>
    by_cases same : b.grants role = true
    · by_cases mem : member ∈ b.members <;> simp [grant?, Settled, same, mem]
    · simpa [grant?, Settled, same] using ih

theorem find?_first {role : String} {before : List Binding} {b : Binding}
    (first : ∀ a ∈ before, a.grants role = false) (same : b.grants role = true)
    (after : List Binding) :
    (before ++ b :: after).find? (fun a => a.grants role) = some b := by
  have hnone : before.find? (fun a => a.grants role) = none := by simpa using first
  rw [List.find?_append, hnone, Option.none_or, List.find?_cons]
  simp [same]

/-- All that a grant can change: it appends the member to the first unconditional binding of the
role, or it appends a binding, where the role has no unconditional one. -/
inductive Granted (role member : String) : List Binding → List Binding → Prop where
  | joined {before after : List Binding} {b : Binding}
      (first : ∀ a ∈ before, a.grants role = false) (same : b.grants role = true)
      (new : member ∉ b.members) :
      Granted role member (before ++ b :: after)
        (before ++ { b with members := b.members ++ [member] } :: after)
  | opened {bindings : List Binding} (first : ∀ a ∈ bindings, a.grants role = false) :
      Granted role member bindings (bindings ++ [{ role := role, members := [member] }])

theorem granted_of_grant? {role member : String} {bindings after : List Binding}
    (h : grant? role member bindings = some after) : Granted role member bindings after := by
  induction bindings generalizing after with
  | nil =>
    obtain rfl := Option.some.inj h
    exact @Granted.opened role member [] (by simp)
  | cons b rest ih =>
    rw [grant?] at h
    split at h
    · next same =>
      split at h
      · cases h
      · next new =>
        obtain rfl := Option.some.inj h
        exact @Granted.joined role member [] rest b (by simp) same (by simpa using new)
    · next other =>
      have hb : b.grants role = false := by simpa using other
      have extend {before : List Binding} (first : ∀ a ∈ before, a.grants role = false) :
          ∀ a ∈ b :: before, a.grants role = false := by
        simpa [hb] using first
      obtain ⟨grown, hgrown, rfl⟩ := Option.map_eq_some_iff.mp h
      cases ih hgrown with
      | joined first same new => exact .joined (extend first) same new
      | opened first => exact .opened (extend first)

namespace Granted

variable {role member : String} {bindings after : List Binding}

/-- A grant adds its own pair and no other. -/
theorem holds_iff (h : Granted role member bindings after) (r x : String) :
    Holds after r x ↔ Holds bindings r x ∨ (r = role ∧ x = member) := by
  cases h with
  | @joined before rest b first same new =>
    have hb := Binding.grants_iff.mp same
    have hgrants : ({ b with members := b.members ++ [member] } : Binding).grants r =
        b.grants r := rfl
    have hrole : b.grants r = true ↔ r = role := by
      rw [Binding.grants_iff, hb.1, hb.2]
      exact ⟨fun h => h.1.symm, fun h => ⟨h.symm, rfl⟩⟩
    simp only [holds_append, holds_cons, hgrants, hrole, List.mem_append, List.mem_singleton]
    tauto
  | opened first =>
    have hrole : ({ role := role, members := [member] } : Binding).grants r = true ↔
        r = role := by
      rw [Binding.grants_iff]
      exact ⟨fun h => h.1.symm, fun h => ⟨h.symm, rfl⟩⟩
    simp only [holds_append, holds_cons, holds_nil, hrole, List.mem_singleton, or_false]

/-- What was granted is not granted again. -/
theorem settled (h : Granted role member bindings after) : Settled after role member := by
  cases h with
  | @joined before rest b first same _ =>
    let joined : Binding := { b with members := b.members ++ [member] }
    have hsame : joined.grants role = true := same
    exact ⟨joined, find?_first first hsame rest, by simp [joined]⟩
  | opened first =>
    let opened : Binding := { role := role, members := [member] }
    have hsame : opened.grants role = true := by simp [opened, Binding.grants]
    exact ⟨opened, find?_first first hsame [], by simp [opened]⟩

end Granted

/-! ## What a grant leaves as it is -/

/-- A binding as it was, or with a new member appended, where it is of one of the roles and under
no condition. -/
def Kept (roles : List String) (member : String) (b kept : Binding) : Prop :=
  kept = b ∨ (b.condition = none ∧ b.role ∈ roles ∧ member ∉ b.members ∧
    kept = { b with members := b.members ++ [member] })

/-- Every binding is kept in its place, and all new ones are at the end, each of one of the roles,
with the member alone. -/
inductive Extends (roles : List String) (member : String) : List Binding → List Binding → Prop where
  | fresh {added : List Binding}
      (alone : ∀ a ∈ added, ∃ role ∈ roles, a = { role := role, members := [member] }) :
      Extends roles member [] added
  | kept {b b' : Binding} {bindings after : List Binding} (head : Kept roles member b b')
      (tail : Extends roles member bindings after) :
      Extends roles member (b :: bindings) (b' :: after)

variable {roles : List String} {role member : String} {bindings after : List Binding}

theorem Kept.refl (b : Binding) : Kept roles member b b := Or.inl rfl

/-- A binding that has the member stays as it is. -/
theorem Kept.eq_of_mem {b kept : Binding} (h : Kept roles member b kept)
    (hmem : member ∈ b.members) : kept = b := by
  rcases h with h | ⟨_, _, hnew, _⟩
  · exact h
  · exact absurd hmem hnew

theorem Kept.grants_eq {b kept : Binding} (h : Kept roles member b kept) (r : String) :
    kept.grants r = b.grants r := by
  rcases h with rfl | ⟨_, _, _, rfl⟩ <;> rfl

theorem Kept.mem {b kept : Binding} (h : Kept roles member b kept) {x : String}
    (hx : x ∈ b.members) : x ∈ kept.members := by
  rcases h with rfl | ⟨_, _, _, rfl⟩
  · exact hx
  · exact List.mem_append_left _ hx

theorem Kept.eq_of_conditional {b kept : Binding} (h : Kept roles member b kept)
    (hcond : b.conditional = true) : kept = b := by
  rcases h with h | ⟨hnone, _⟩
  · exact h
  · simp [Binding.conditional, hnone] at hcond

theorem Kept.conditional_eq {b kept : Binding} (h : Kept roles member b kept) :
    kept.conditional = b.conditional := by
  rcases h with rfl | ⟨_, _, _, rfl⟩ <;> rfl

theorem Kept.trans {a b c : Binding} (hab : Kept roles member a b)
    (hbc : Kept roles member b c) : Kept roles member a c := by
  rcases hab with rfl | ⟨hcond, hrole, hnew, rfl⟩
  · exact hbc
  · obtain rfl := hbc.eq_of_mem (by simp)
    exact Or.inr ⟨hcond, hrole, hnew, rfl⟩

namespace Extends

theorem refl (bindings : List Binding) : Extends roles member bindings bindings := by
  induction bindings with
  | nil => exact .fresh (by simp)
  | cons b rest ih => exact .kept (Kept.refl b) ih

/-- Bindings with the member alone are kept as they are. -/
theorem alone {added last : List Binding} (h : Extends roles member added last)
    (alone : ∀ a ∈ added, ∃ role ∈ roles, a = { role := role, members := [member] }) :
    ∀ a ∈ last, ∃ role ∈ roles, a = { role := role, members := [member] } := by
  induction h with
  | fresh h => exact h
  | @kept b b' rest after head _ ih =>
    obtain ⟨⟨role, hrole, rfl⟩, hrest⟩ := List.forall_mem_cons.mp alone
    obtain rfl := head.eq_of_mem (by simp)
    exact List.forall_mem_cons.mpr ⟨⟨role, hrole, rfl⟩, ih hrest⟩

theorem trans {last : List Binding} (h : Extends roles member bindings after)
    (h' : Extends roles member after last) : Extends roles member bindings last := by
  induction h generalizing last with
  | fresh alone => exact .fresh (h'.alone alone)
  | kept head _ ih =>
    cases h' with
    | kept head' tail' => exact .kept (head.trans head') (ih tail')

/-- The bindings that were there before are the first ones after. -/
theorem split (h : Extends roles member bindings after) :
    ∃ kept added, after = kept ++ added ∧ List.Forall₂ (Kept roles member) bindings kept ∧
      ∀ a ∈ added, ∃ role ∈ roles, a = { role := role, members := [member] } := by
  induction h with
  | @fresh added alone => exact ⟨[], added, rfl, .nil, alone⟩
  | @kept b b' rest after head _ ih =>
    obtain ⟨kept, added, rfl, htail, hadded⟩ := ih
    exact ⟨b' :: kept, added, rfl, .cons head htail, hadded⟩

theorem settled (h : Extends roles member bindings after) {x : String}
    (hs : Settled bindings role x) : Settled after role x := by
  induction h with
  | fresh => simp [Settled] at hs
  | @kept b b' rest after head _ ih =>
    rw [Settled, List.find?_cons] at hs ⊢
    rw [head.grants_eq]
    split at hs
    · obtain ⟨a, ha, hx⟩ := hs
      obtain rfl := Option.some.inj ha
      exact ⟨b', rfl, head.mem hx⟩
    · exact ih hs

theorem conditional_eq (h : Extends roles member bindings after) :
    after.filter Binding.conditional = bindings.filter Binding.conditional := by
  induction h with
  | fresh alone =>
    apply List.filter_eq_nil_iff.mpr
    intro a ha
    obtain ⟨role, _, rfl⟩ := alone a ha
    simp [Binding.conditional]
  | @kept b b' rest after head _ ih =>
    by_cases hb : b.conditional = true
    · obtain rfl := head.eq_of_conditional hb
      simp [hb, ih]
    · have hb' : ¬ b'.conditional = true := by rwa [head.conditional_eq]
      rw [List.filter_cons_of_neg hb', List.filter_cons_of_neg hb, ih]

end Extends

theorem Granted.extends (h : Granted role member bindings after) (hrole : role ∈ roles) :
    Extends roles member bindings after := by
  cases h with
  | @joined before rest b first same new =>
    have hb := Binding.grants_iff.mp same
    have hkept : Kept roles member b { b with members := b.members ++ [member] } :=
      Or.inr ⟨hb.2, hb.1 ▸ hrole, new, rfl⟩
    clear first
    induction before with
    | nil => exact .kept hkept (.refl rest)
    | cons a before ih => exact .kept (Kept.refl a) ih
  | opened first =>
    clear first
    induction bindings with
    | nil => exact .fresh (by simpa using hrole)
    | cons b rest ih => exact .kept (Kept.refl b) ih

/-! ## Grants one after another -/

namespace Policy

theorem addBinding_cases (p : Policy) (role member : String) :
    (Settled p.bindings role member ∧ p.addBinding role member = (p, false)) ∨
      ∃ after, Granted role member p.bindings after ∧
        p.addBinding role member = ({ p with bindings := after }, true) := by
  cases h : grant? role member p.bindings with
  | none =>
    refine Or.inl ⟨grant?_eq_none_iff.mp h, ?_⟩
    rw [addBinding, h]
    rfl
  | some after =>
    refine Or.inr ⟨after, granted_of_grant? h, ?_⟩
    rw [addBinding, h]
    rfl

/-- Grants pairs of a role and a member one after another. -/
def addAll : Policy → List (String × String) → Change
  | p, [] => (p, false)
  | p, (role, member) :: rest =>
    let first := p.addBinding role member
    let others := first.1.addAll rest
    (others.1, others.2 || first.2)

@[simp] theorem addAll_nil (p : Policy) : p.addAll [] = (p, false) := rfl

theorem foldl_addBinding (p : Policy) (pairs : List (String × String)) (changed : Bool) :
    pairs.foldl (fun change pair => ((change.1.addBinding pair.1 pair.2).1,
      (change.1.addBinding pair.1 pair.2).2 || change.2)) (p, changed) =
    ((p.addAll pairs).1, (p.addAll pairs).2 || changed) := by
  induction pairs generalizing p changed with
  | nil => simp
  | cons pair rest ih => simp only [List.foldl_cons, addAll, ih, Bool.or_assoc]

theorem addRoles_eq_addAll (p : Policy) (roles : List String) (member : String) :
    p.addRoles roles member = p.addAll (roles.map fun role => (role, member)) := by
  have hfold := foldl_addBinding p (roles.map fun role => (role, member)) false
  rw [List.foldl_map, Bool.or_false] at hfold
  exact hfold

theorem addMembers_eq_addAll (p : Policy) (role : String) (members : List String) :
    p.addMembers role members = p.addAll (members.map fun member => (role, member)) := by
  have hfold := foldl_addBinding p (members.map fun member => (role, member)) false
  rw [List.foldl_map, Bool.or_false] at hfold
  exact hfold

theorem mergeDocument_eq_addAll (p : Policy) (d : PolicyDocument) (member : String) :
    p.mergeDocument d member = p.addAll (d.allowedActions.map fun role => (role, member)) :=
  addRoles_eq_addAll p d.allowedActions member

/-- What holds of a policy and survives each grant of a list survives them all. -/
theorem addAll_induction {pairs : List (String × String)} {P : Policy → Prop}
    (step : ∀ (p : Policy) (role member : String) (after : List Binding),
      (role, member) ∈ pairs → Granted role member p.bindings after → P p →
        P { p with bindings := after })
    (p : Policy) (h : P p) : P (p.addAll pairs).1 := by
  induction pairs generalizing p with
  | nil => exact h
  | cons pair rest ih =>
    obtain ⟨role, member⟩ := pair
    have hrest := ih fun p r x after hmem => step p r x after (List.mem_cons_of_mem _ hmem)
    rcases p.addBinding_cases role member with ⟨_, hadd⟩ | ⟨after, hgranted, hadd⟩
    · rw [addAll, hadd]
      exact hrest p h
    · rw [addAll, hadd]
      exact hrest _ (step p role member after List.mem_cons_self hgranted h)

theorem addAll_version (p : Policy) (pairs : List (String × String)) :
    (p.addAll pairs).1.version = p.version :=
  addAll_induction (P := fun q => q.version = p.version) (fun _ _ _ _ _ _ h => h) p rfl

theorem addAll_etag (p : Policy) (pairs : List (String × String)) :
    (p.addAll pairs).1.etag = p.etag :=
  addAll_induction (P := fun q => q.etag = p.etag) (fun _ _ _ _ _ _ h => h) p rfl

/-- Grants leave the bindings under a condition as they are. -/
theorem addAll_conditional_eq (p : Policy) (pairs : List (String × String)) :
    (p.addAll pairs).1.bindings.filter Binding.conditional =
      p.bindings.filter Binding.conditional := by
  refine addAll_induction
    (P := fun q => q.bindings.filter Binding.conditional = p.bindings.filter Binding.conditional)
    ?_ p rfl
  intro q role member after _ hgranted hq
  exact ((hgranted.extends (List.mem_singleton_self role)).conditional_eq).trans hq

theorem addAll_settled_of_settled {p : Policy} {role member : String}
    (h : Settled p.bindings role member) (pairs : List (String × String)) :
    Settled (p.addAll pairs).1.bindings role member := by
  refine addAll_induction (P := fun q => Settled q.bindings role member) ?_ p h
  intro q r x after _ hgranted hq
  exact (hgranted.extends (List.mem_singleton_self r)).settled hq

/-- Whatever was granted is settled at the end. -/
theorem addAll_settled (p : Policy) (pairs : List (String × String)) :
    ∀ pair ∈ pairs, Settled (p.addAll pairs).1.bindings pair.1 pair.2 := by
  induction pairs generalizing p with
  | nil => simp
  | cons pair rest ih =>
    obtain ⟨role, member⟩ := pair
    refine List.forall_mem_cons.mpr ⟨?_, ih _⟩
    change Settled ((p.addBinding role member).1.addAll rest).1.bindings role member
    apply addAll_settled_of_settled
    rcases p.addBinding_cases role member with ⟨hs, hadd⟩ | ⟨after, hgranted, hadd⟩
    · rw [hadd]
      exact hs
    · rw [hadd]
      exact hgranted.settled

theorem addAll_of_settled {p : Policy} {pairs : List (String × String)}
    (h : ∀ pair ∈ pairs, Settled p.bindings pair.1 pair.2) : p.addAll pairs = (p, false) := by
  induction pairs with
  | nil => rfl
  | cons pair rest ih =>
    obtain ⟨hpair, hrest⟩ := List.forall_mem_cons.mp h
    have hnone : p.addBinding pair.1 pair.2 = (p, false) := by
      rw [addBinding, grant?_eq_none_iff.mpr hpair]
      rfl
    simp [addAll, hnone, ih hrest]

theorem addAll_holds_iff (p : Policy) (pairs : List (String × String)) (role member : String) :
    Holds (p.addAll pairs).1.bindings role member ↔
      Holds p.bindings role member ∨ (role, member) ∈ pairs := by
  induction pairs generalizing p with
  | nil => simp
  | cons pair rest ih =>
    obtain ⟨r, x⟩ := pair
    rw [addAll, ih, List.mem_cons, Prod.mk.injEq]
    rcases p.addBinding_cases r x with ⟨hs, hadd⟩ | ⟨after, hgranted, hadd⟩
    · rw [hadd]
      have hheld : role = r ∧ member = x → Holds p.bindings role member := by
        rintro ⟨rfl, rfl⟩
        exact hs.holds
      tauto
    · rw [hadd, hgranted.holds_iff, or_assoc]

/-! ## Merging a document -/

theorem mem_mergePairs {d : PolicyDocument} {role member x : String} :
    (role, x) ∈ d.allowedActions.map (fun action => (action, member)) ↔
      x = member ∧ ∃ s ∈ d.statements, s.effect = .allow ∧ role ∈ s.actions := by
  simp only [List.mem_map, Prod.mk.injEq, PolicyDocument.mem_allowedActions]
  constructor
  · rintro ⟨action, hmem, rfl, rfl⟩
    exact ⟨rfl, hmem⟩
  · rintro ⟨rfl, hmem⟩
    exact ⟨role, hmem, rfl, rfl⟩

theorem mergeDocument_extends (p : Policy) (d : PolicyDocument) (member : String) :
    Extends d.allowedActions member p.bindings (p.mergeDocument d member).1.bindings := by
  rw [mergeDocument_eq_addAll]
  refine addAll_induction
    (P := fun q => Extends d.allowedActions member p.bindings q.bindings) ?_ p (.refl _)
  intro q role x after hmem hgranted hq
  obtain ⟨action, haction, heq⟩ := List.mem_map.mp hmem
  obtain ⟨rfl, rfl⟩ := Prod.mk.inj heq
  exact hq.trans (hgranted.extends haction)

theorem mergeDocument_again (p : Policy) (d : PolicyDocument) (member : String) :
    (p.mergeDocument d member).1.mergeDocument d member =
      ((p.mergeDocument d member).1, false) := by
  simp only [mergeDocument_eq_addAll]
  exact addAll_of_settled (addAll_settled p _)

/-- The exact effect of merging a document for a member into any policy. The member comes to hold
the actions of the statements that allow, and nothing else changes hands. All bindings stay in their
places, with at most the member appended; those under a condition stay as they are, as do version
and etag; new bindings stand at the end. A second merge changes nothing. -/
theorem mergeDocument_effect (p : Policy) (d : PolicyDocument) (member : String) :
    let merged := (p.mergeDocument d member).1
    (∀ role x, Holds merged.bindings role x ↔ Holds p.bindings role x ∨
      (x = member ∧ ∃ s ∈ d.statements, s.effect = .allow ∧ role ∈ s.actions)) ∧
    (∃ kept added, merged.bindings = kept ++ added ∧
      List.Forall₂ (Kept d.allowedActions member) p.bindings kept ∧
      ∀ a ∈ added, ∃ role ∈ d.allowedActions, a = { role := role, members := [member] }) ∧
    merged.bindings.filter Binding.conditional = p.bindings.filter Binding.conditional ∧
    merged.version = p.version ∧ merged.etag = p.etag ∧
    merged.mergeDocument d member = (merged, false) := by
  intro merged
  have hextends : Extends d.allowedActions member p.bindings merged.bindings :=
    mergeDocument_extends p d member
  refine ⟨?_, hextends.split, hextends.conditional_eq, ?_, ?_, mergeDocument_again p d member⟩
  · intro role x
    rw [← mem_mergePairs, ← addAll_holds_iff, ← mergeDocument_eq_addAll]
  · simp only [merged, mergeDocument_eq_addAll, addAll_version]
  · simp only [merged, mergeDocument_eq_addAll, addAll_etag]

end Policy

end CloudIdentity.Gcp

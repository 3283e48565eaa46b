import CloudIdentity.Proofs.Gcp.Grants
import Mathlib.Data.List.Nodup
import Mathlib.Order.BooleanAlgebra.Set

/-!
Runs of edits on a policy. A normal policy has at most one unconditional binding for each role, and
in it no member twice and at least one member. Every edit keeps a policy normal, and to a normal
policy it does what it says to the set of pairs of a role and a member that its unconditional
bindings grant: the policy stands for that set, and an edit reports a change just when the set
changes.
-/

namespace CloudIdentity.Gcp

/-! ## One revocation -/

theorem revoke?_eq_none_iff {role member : String} {bindings : List Binding} :
    revoke? role member bindings = none ↔ ¬ Holds bindings role member := by
  induction bindings with
  | nil => simp [revoke?]
  | cons b rest ih =>
    rw [revoke?, holds_cons]
    by_cases held : b.grants role = true ∧ member ∈ b.members
    · have hcond : (b.grants role && b.members.contains member) = true := by simpa using held
      rw [if_pos hcond]
      split <;> simp [held]
    · have hcond : ¬ (b.grants role && b.members.contains member) = true := by simpa using held
      rw [if_neg hcond, Option.map_eq_none_iff, ih]
      simp [held]

/-- All that a revocation can change: in the first unconditional binding of the role that has the
member, it takes the first occurrence of the member out, and it drops the binding if that leaves
it empty. -/
inductive Revoked (role member : String) : List Binding → List Binding → Prop where
  | dropped {before after : List Binding} {b : Binding} (same : b.grants role = true)
      (mem : member ∈ b.members) (empty : b.members.erase member = []) :
      Revoked role member (before ++ b :: after) (before ++ after)
  | reduced {before after : List Binding} {b : Binding} (same : b.grants role = true)
      (mem : member ∈ b.members) (others : b.members.erase member ≠ []) :
      Revoked role member (before ++ b :: after)
        (before ++ { b with members := b.members.erase member } :: after)

theorem revoked_of_revoke? {role member : String} {bindings after : List Binding}
    (h : revoke? role member bindings = some after) : Revoked role member bindings after := by
  induction bindings generalizing after with
  | nil => simp [revoke?] at h
  | cons b rest ih =>
    rw [revoke?] at h
    split at h
    · next held =>
      obtain ⟨same, mem⟩ : b.grants role = true ∧ member ∈ b.members := by simpa using held
      split at h
      · next empty =>
        obtain rfl := Option.some.inj h
        exact @Revoked.dropped role member [] rest b same mem empty
      · next others =>
        obtain rfl := Option.some.inj h
        exact @Revoked.reduced role member [] rest b same mem others
    · obtain ⟨reduced, hreduced, rfl⟩ := Option.map_eq_some_iff.mp h
      cases ih hreduced with
      | @dropped before rest a same mem empty =>
        exact @Revoked.dropped role member (b :: before) rest a same mem empty
      | @reduced before rest a same mem others =>
        exact @Revoked.reduced role member (b :: before) rest a same mem others

/-- A revocation leaves the bindings under a condition as they are. -/
theorem Revoked.conditional_eq {role member : String} {bindings after : List Binding}
    (h : Revoked role member bindings after) :
    after.filter Binding.conditional = bindings.filter Binding.conditional := by
  cases h with
  | dropped same mem empty => simp [Binding.conditional, (Binding.grants_iff.mp same).2]
  | reduced same mem others => simp [Binding.conditional, (Binding.grants_iff.mp same).2]

/-! ## Bindings that repeat nothing -/

/-- At most one unconditional binding for each role, and no member twice in one. -/
structure Unrepeated (bindings : List Binding) : Prop where
  oneEach : bindings.Pairwise fun a b => a.condition = none → b.condition = none → a.role ≠ b.role
  distinct : ∀ b ∈ bindings, b.condition = none → b.members.Nodup

instance (bindings : List Binding) : Decidable (Unrepeated bindings) :=
  decidable_of_iff
    ((bindings.Pairwise fun a b => a.condition = none → b.condition = none → a.role ≠ b.role) ∧
      ∀ b ∈ bindings, b.condition = none → b.members.Nodup)
    ⟨fun h => ⟨h.1, h.2⟩, fun h => ⟨h.oneEach, h.distinct⟩⟩

namespace Unrepeated

variable {role member : String} {before after bindings : List Binding} {b : Binding}

/-- No other unconditional binding is of the same role. -/
theorem alone (h : Unrepeated (before ++ b :: after)) (same : b.grants role = true) :
    ∀ a ∈ before ++ after, a.grants role = false := by
  obtain ⟨hrole, hcond⟩ := Binding.grants_iff.mp same
  obtain ⟨_, htail, hcross⟩ := List.pairwise_append.mp h.oneEach
  intro a ha
  rw [Bool.eq_false_iff, Ne, Binding.grants_iff]
  rintro ⟨harole, hacond⟩
  rcases List.mem_append.mp ha with ha | ha
  · exact hcross a ha b List.mem_cons_self hacond hcond (harole.trans hrole.symm)
  · exact (List.pairwise_cons.mp htail).1 a ha hcond hacond (hrole.trans harole.symm)

/-- A revocation takes its own pair and no other. -/
theorem holds_revoked_iff (h : Unrepeated bindings) (hrevoked : Revoked role member bindings after)
    (r x : String) :
    Holds after r x ↔ Holds bindings r x ∧ ¬ (r = role ∧ x = member) := by
  -- Both forms of a revocation leave the pairs of the binding that the erasure leaves in it.
  suffices hsplit : ∃ before b rest, bindings = before ++ b :: rest ∧ b.grants role = true ∧
      (Holds after r x ↔ Holds (before ++ rest) r x ∨
        (b.grants r = true ∧ x ∈ b.members.erase member)) by
    obtain ⟨before, b, rest, rfl, same, hafter⟩ := hsplit
    have hb := Binding.grants_iff.mp same
    have hrole : b.grants r = true ↔ r = role := by
      rw [Binding.grants_iff, hb.1, hb.2]
      exact ⟨fun h => h.1.symm, fun h => ⟨h.symm, rfl⟩⟩
    have hothers : Holds (before ++ rest) r x → r ≠ role := by
      rintro ⟨a, ha, hgrants, _⟩ rfl
      rw [h.alone same a ha] at hgrants
      cases hgrants
    have hnodup : b.members.Nodup := h.distinct b (by simp) hb.2
    rw [hafter, hnodup.mem_erase_iff, hrole]
    simp only [holds_append, holds_cons, hrole] at hothers ⊢
    tauto
  cases hrevoked with
  | @dropped before rest b same _ empty =>
    exact ⟨before, b, rest, rfl, same, by simp [empty]⟩
  | @reduced before rest b same _ _ =>
    refine ⟨before, b, rest, rfl, same, ?_⟩
    have hgrants : ({ b with members := b.members.erase member } : Binding).grants r =
        b.grants r := rfl
    simp only [holds_append, holds_cons, hgrants]
    tauto

/-- A role that has been taken from a member is not held by it any more. -/
theorem not_holds_removeBinding {p : Policy} (h : Unrepeated p.bindings) (role member : String) :
    ¬ Holds (p.removeBinding role member).1.bindings role member := by
  rw [Policy.removeBinding]
  cases hrevoke : revoke? role member p.bindings with
  | none => exact revoke?_eq_none_iff.mp hrevoke
  | some after =>
    intro hholds
    exact ((h.holds_revoked_iff (revoked_of_revoke? hrevoke) role member).mp hholds).2 ⟨rfl, rfl⟩

end Unrepeated

/-! ## Normal bindings -/

/-- At most one unconditional binding for each role, no member twice in one, and none empty. -/
structure Normal (bindings : List Binding) : Prop where
  oneEach : bindings.Pairwise fun a b => a.condition = none → b.condition = none → a.role ≠ b.role
  distinct : ∀ b ∈ bindings, b.condition = none → b.members.Nodup
  inhabited : ∀ b ∈ bindings, b.condition = none → b.members ≠ []

namespace Normal

variable {role member : String} {before after bindings : List Binding} {b : Binding}

theorem unrepeated (h : Normal bindings) : Unrepeated bindings := ⟨h.oneEach, h.distinct⟩

theorem sublist (h : Normal bindings) (hsub : after.Sublist bindings) : Normal after where
  oneEach := h.oneEach.sublist hsub
  distinct a ha := h.distinct a (hsub.subset ha)
  inhabited a ha := h.inhabited a (hsub.subset ha)

/-- One binding may be given other members, as long as they are some and distinct. -/
theorem withMembers {members : List String} (h : Normal (before ++ b :: after))
    (hnodup : members.Nodup) (hne : members ≠ []) :
    Normal (before ++ { b with members := members } :: after) where
  oneEach := by
    have hpair := h.oneEach
    simp only [List.pairwise_append, List.pairwise_cons, List.forall_mem_cons] at hpair ⊢
    exact hpair
  distinct a ha hcond := by
    rcases List.mem_append.mp ha with ha | ha
    · exact h.distinct a (List.mem_append_left _ ha) hcond
    · rcases List.mem_cons.mp ha with rfl | ha
      · exact hnodup
      · exact h.distinct a (List.mem_append_right _ (List.mem_cons_of_mem _ ha)) hcond
  inhabited a ha hcond := by
    rcases List.mem_append.mp ha with ha | ha
    · exact h.inhabited a (List.mem_append_left _ ha) hcond
    · rcases List.mem_cons.mp ha with rfl | ha
      · exact hne
      · exact h.inhabited a (List.mem_append_right _ (List.mem_cons_of_mem _ ha)) hcond

theorem granted (h : Normal bindings) (hgranted : Granted role member bindings after) :
    Normal after := by
  cases hgranted with
  | @joined before rest b _ same new =>
    have hnodup := h.distinct b (by simp) (Binding.grants_iff.mp same).2
    refine h.withMembers ?_ (by simp)
    rw [List.nodup_append]
    exact ⟨hnodup, List.nodup_singleton member, by
      intro x hx y hy hxy
      obtain rfl := List.mem_singleton.mp hy
      exact new (hxy ▸ hx)⟩
  | opened first =>
    refine ⟨?_, ?_, ?_⟩
    · rw [List.pairwise_append]
      refine ⟨h.oneEach, List.pairwise_singleton _ _, ?_⟩
      intro a ha b hb hacond _ hrole
      obtain rfl := List.mem_singleton.mp hb
      have hgrants := Binding.grants_iff.mpr ⟨hrole, hacond⟩
      rw [first a ha] at hgrants
      cases hgrants
    · intro a ha hcond
      rcases List.mem_append.mp ha with ha | ha
      · exact h.distinct a ha hcond
      · obtain rfl := List.mem_singleton.mp ha
        exact List.nodup_singleton member
    · intro a ha hcond
      rcases List.mem_append.mp ha with ha | ha
      · exact h.inhabited a ha hcond
      · obtain rfl := List.mem_singleton.mp ha
        exact List.cons_ne_nil _ _

theorem revoked (h : Normal bindings) (hrevoked : Revoked role member bindings after) :
    Normal after := by
  cases hrevoked with
  | dropped _ _ _ => exact h.sublist (List.Sublist.append_left (List.sublist_cons_self ..) _)
  | @reduced before rest b same _ others =>
    have hnodup := h.distinct b (by simp) (Binding.grants_iff.mp same).2
    exact h.withMembers (hnodup.erase member) others

/-- In normal bindings a pair is settled as soon as it holds. -/
theorem settled_of_holds (h : Normal bindings) (hholds : Holds bindings role member) :
    Settled bindings role member := by
  obtain ⟨b, hb, same, hmem⟩ := hholds
  obtain ⟨before, rest, rfl⟩ := List.append_of_mem hb
  have first : ∀ a ∈ before, a.grants role = false := fun a ha =>
    h.unrepeated.alone same a (List.mem_append_left _ ha)
  exact ⟨b, find?_first first same rest, hmem⟩

end Normal

/-! ## Edits -/

/-- A change that can be asked of a policy. -/
inductive Edit where
  | add (role member : String)
  | remove (role member : String)
  | merge (document : PolicyDocument) (member : String)

namespace Policy

def edit (p : Policy) : Edit → Change
  | .add role member => p.addBinding role member
  | .remove role member => p.removeBinding role member
  | .merge document member => p.mergeDocument document member

/-- The policy after edits made one after another. -/
def edited (p : Policy) (edits : List Edit) : Policy := edits.foldl (fun q e => (q.edit e).1) p

/-- The pairs of a role and a member that the unconditional bindings grant. -/
def grants (p : Policy) : Set (String × String) := {g | Holds p.bindings g.1 g.2}

end Policy

/-- What an edit does to a set of pairs of a role and a member. -/
def Edit.onGrants : Edit → Set (String × String) → Set (String × String)
  | .add role member, grants => insert (role, member) grants
  | .remove role member, grants => grants \ {(role, member)}
  | .merge document member, grants =>
    grants ∪ {g | g.2 = member ∧ ∃ s ∈ document.statements, s.effect = .allow ∧ g.1 ∈ s.actions}

namespace Policy

theorem addBinding_eq_addAll (p : Policy) (role member : String) :
    p.addBinding role member = p.addAll [(role, member)] := by
  simp [addAll]

/-- Grants that report no change make none. -/
theorem addAll_eq_of_unchanged {p : Policy} {pairs : List (String × String)}
    (h : (p.addAll pairs).2 = false) : (p.addAll pairs).1 = p := by
  induction pairs with
  | nil => rfl
  | cons pair rest ih =>
    obtain ⟨role, member⟩ := pair
    rcases p.addBinding_cases role member with ⟨_, hadd⟩ | ⟨after, _, hadd⟩
    · simp only [addAll, hadd, Bool.or_false] at h ⊢
      exact ih h
    · simp [addAll, hadd] at h

theorem addAll_normal {p : Policy} (h : Normal p.bindings) (pairs : List (String × String)) :
    Normal (p.addAll pairs).1.bindings :=
  addAll_induction (P := fun q => Normal q.bindings)
    (fun _ _ _ _ _ hgranted hq => hq.granted hgranted) p h

/-- Grants to a normal policy that report a change add a pair. -/
theorem exists_new_of_changed {p : Policy} {pairs : List (String × String)}
    (h : Normal p.bindings) (hchanged : (p.addAll pairs).2 = true) :
    ∃ pair ∈ pairs, ¬ Holds p.bindings pair.1 pair.2 := by
  induction pairs generalizing p with
  | nil => simp at hchanged
  | cons pair rest ih =>
    obtain ⟨role, member⟩ := pair
    by_cases hheld : Holds p.bindings role member
    · have hnone : p.addBinding role member = (p, false) := by
        rw [addBinding, grant?_eq_none_iff.mpr (h.settled_of_holds hheld)]
        rfl
      simp only [addAll, hnone, Bool.or_false] at hchanged
      obtain ⟨new, hmem, hnew⟩ := ih h hchanged
      exact ⟨new, List.mem_cons_of_mem _ hmem, hnew⟩
    · exact ⟨(role, member), List.mem_cons_self, hheld⟩

/-- A change to a policy that keeps it normal, turns its grants into others, and is reported just
when it makes some difference to them. -/
structure Realises (p : Policy) (change : Change) (grants : Set (String × String)) : Prop where
  normal : Normal change.1.bindings
  grants_eq : change.1.grants = grants
  changed_iff : change.2 = true ↔ change.1.grants ≠ p.grants
  unchanged : change.2 = false → change.1 = p

theorem addAll_realises {p : Policy} (h : Normal p.bindings) (pairs : List (String × String)) :
    p.Realises (p.addAll pairs) (p.grants ∪ {g | g ∈ pairs}) where
  normal := addAll_normal h pairs
  grants_eq := by
    ext ⟨role, member⟩
    exact addAll_holds_iff p pairs role member
  changed_iff := by
    constructor
    · intro hchanged hsame
      obtain ⟨new, hmem, hnew⟩ := exists_new_of_changed h hchanged
      have hafter : new ∈ (p.addAll pairs).1.grants :=
        (addAll_holds_iff p pairs new.1 new.2).mpr (Or.inr hmem)
      rw [hsame] at hafter
      exact hnew hafter
    · intro hother
      by_contra hflag
      apply hother
      rw [addAll_eq_of_unchanged (Bool.eq_false_iff.mpr hflag)]
  unchanged := addAll_eq_of_unchanged

theorem removeBinding_realises {p : Policy} (h : Normal p.bindings) (role member : String) :
    p.Realises (p.removeBinding role member) (p.grants \ {(role, member)}) := by
  cases hrevoke : revoke? role member p.bindings with
  | none =>
    have hnone : p.removeBinding role member = (p, false) := by
      rw [removeBinding, hrevoke]
      rfl
    have hnot : (role, member) ∉ p.grants := revoke?_eq_none_iff.mp hrevoke
    rw [hnone, Set.sdiff_singleton_eq_self hnot]
    exact ⟨h, rfl, by simp, fun _ => rfl⟩
  | some after =>
    have hsome : p.removeBinding role member = ({ p with bindings := after }, true) := by
      rw [removeBinding, hrevoke]
      rfl
    have hrevoked := revoked_of_revoke? hrevoke
    have hheld : (role, member) ∈ p.grants := by
      by_contra hnot
      rw [revoke?_eq_none_iff.mpr hnot] at hrevoke
      cases hrevoke
    have hgrants : ({ p with bindings := after } : Policy).grants =
        p.grants \ {(role, member)} := by
      ext ⟨r, x⟩
      simpa [grants] using h.unrepeated.holds_revoked_iff hrevoked r x
    rw [hsome]
    refine ⟨h.revoked hrevoked, hgrants, ⟨fun _ hsame => ?_, fun _ => rfl⟩, by simp⟩
    rw [← hsame, hgrants] at hheld
    exact hheld.2 rfl

/-- One edit of a normal policy. -/
theorem edit_realises {p : Policy} (h : Normal p.bindings) (e : Edit) :
    p.Realises (p.edit e) (e.onGrants p.grants) := by
  cases e with
  | add role member =>
    have hgrants : (Edit.add role member).onGrants p.grants =
        p.grants ∪ {g | g ∈ [(role, member)]} := by
      ext g
      simp [Edit.onGrants, or_comm]
    rw [hgrants, edit, addBinding_eq_addAll]
    exact addAll_realises h [(role, member)]
  | remove role member => exact removeBinding_realises h role member
  | merge document member =>
    have hgrants : (Edit.merge document member).onGrants p.grants =
        p.grants ∪ {g | g ∈ document.allowedActions.map fun role => (role, member)} := by
      ext ⟨role, x⟩
      exact or_congr_right mem_mergePairs.symm
    rw [hgrants, edit, mergeDocument_eq_addAll]
    exact addAll_realises h _

theorem edited_normal {p : Policy} (h : Normal p.bindings) (edits : List Edit) :
    Normal (p.edited edits).bindings := by
  induction edits generalizing p with
  | nil => exact h
  | cons e rest ih => exact ih (edit_realises h e).normal

theorem edited_grants {p : Policy} (h : Normal p.bindings) (edits : List Edit) :
    (p.edited edits).grants = edits.foldl (fun grants e => e.onGrants grants) p.grants := by
  induction edits generalizing p with
  | nil => rfl
  | cons e rest ih =>
    have hstep := edit_realises h e
    rw [List.foldl_cons, ← hstep.grants_eq]
    exact ih hstep.normal

/-- Along every run of edits from a normal policy, the policy stays normal and stands for the set of
pairs that the edits make of the pairs it granted first; and the next edit, whichever it is, changes
that set as it says, reports a change just when the set changes, and leaves the whole policy alone
where it reports none. -/
theorem edited_refines_grants (p : Policy) (h : Normal p.bindings) (edits : List Edit) :
    Normal (p.edited edits).bindings ∧
    (p.edited edits).grants = edits.foldl (fun grants e => e.onGrants grants) p.grants ∧
    ∀ e, (p.edited edits).Realises ((p.edited edits).edit e)
      (e.onGrants (p.edited edits).grants) :=
  have hnormal := edited_normal h edits
  ⟨hnormal, edited_grants h edits, fun e => edit_realises hnormal e⟩

/-- A role bound once under a condition and once under none; edits reach the second binding only,
and the last member that leaves it takes it along. -/
theorem edited_refines_grants_beside_condition :
    let p : Policy :=
      { etag := "v1"
        bindings := [{ role := "viewer", members := ["ann", "ann"], condition := some {} },
          { role := "viewer", members := ["ann"] }] }
    let edits : List Edit := [.add "viewer" "bob", .remove "viewer" "ann", .remove "viewer" "bob"]
    Normal p.bindings ∧
    (p.edited edits).bindings =
      [{ role := "viewer", members := ["ann", "ann"], condition := some {} }] ∧
    Normal (p.edited edits).bindings ∧
    (p.edited edits).grants = edits.foldl (fun grants e => e.onGrants grants) p.grants ∧
    ∀ e, (p.edited edits).Realises ((p.edited edits).edit e)
      (e.onGrants (p.edited edits).grants) := by
  intro p edits
  have hnormal : Normal p.bindings := ⟨by simp [p], by simp [p], by simp [p]⟩
  exact ⟨hnormal, by decide, edited_refines_grants p hnormal edits⟩

end Policy

/-! ## What edits keep -/

namespace Policy

theorem edit_etag (p : Policy) (e : Edit) : (p.edit e).1.etag = p.etag := by
  cases e with
  | add role member => rw [edit, addBinding_eq_addAll, addAll_etag]
  | remove role member =>
    rw [edit, removeBinding]
    cases revoke? role member p.bindings <;> rfl
  | merge document member => rw [edit, mergeDocument_eq_addAll, addAll_etag]

/-- No edit touches a binding under a condition. -/
theorem edit_conditional_eq (p : Policy) (e : Edit) :
    (p.edit e).1.bindings.filter Binding.conditional = p.bindings.filter Binding.conditional := by
  cases e with
  | add role member =>
    rw [edit, addBinding_eq_addAll]
    exact addAll_conditional_eq p _
  | remove role member =>
    rw [edit, removeBinding]
    cases hrevoke : revoke? role member p.bindings with
    | none => rfl
    | some after => exact (revoked_of_revoke? hrevoke).conditional_eq
  | merge document member =>
    rw [edit, mergeDocument_eq_addAll]
    exact addAll_conditional_eq p _

theorem addAll_bindings_congr {p q : Policy} (h : p.bindings = q.bindings)
    (pairs : List (String × String)) :
    (p.addAll pairs).1.bindings = (q.addAll pairs).1.bindings := by
  induction pairs generalizing p q with
  | nil => exact h
  | cons pair rest ih =>
    obtain ⟨role, member⟩ := pair
    refine ih (p := (p.addBinding role member).1) (q := (q.addBinding role member).1) ?_
    rw [addBinding, addBinding, h]
    cases grant? role member q.bindings with
    | none => exact h
    | some after => rfl

theorem edit_bindings_congr {p q : Policy} (h : p.bindings = q.bindings) (e : Edit) :
    (p.edit e).1.bindings = (q.edit e).1.bindings := by
  cases e with
  | add role member =>
    rw [edit, edit, addBinding_eq_addAll, addBinding_eq_addAll]
    exact addAll_bindings_congr h _
  | remove role member =>
    rw [edit, edit, removeBinding, removeBinding, h]
    cases revoke? role member q.bindings with
    | none => exact h
    | some after => rfl
  | merge document member =>
    rw [edit, edit, mergeDocument_eq_addAll, mergeDocument_eq_addAll]
    exact addAll_bindings_congr h _

theorem edit_eq_of_unchanged {p : Policy} {e : Edit} (h : (p.edit e).2 = false) :
    (p.edit e).1 = p := by
  cases e with
  | add role member =>
    rw [edit, addBinding_eq_addAll] at h ⊢
    exact addAll_eq_of_unchanged h
  | remove role member =>
    rw [edit, removeBinding] at h ⊢
    cases hrevoke : revoke? role member p.bindings with
    | none => rfl
    | some after => simp [hrevoke, changeTo] at h
  | merge document member =>
    rw [edit, mergeDocument_eq_addAll] at h ⊢
    exact addAll_eq_of_unchanged h

theorem edited_snoc (p : Policy) (edits : List Edit) (e : Edit) :
    p.edited (edits ++ [e]) = ((p.edited edits).edit e).1 := by
  simp [edited]

end Policy

end CloudIdentity.Gcp

import CloudIdentity.Proofs.Gcp.Edits

/-!
Revocations undo grants. What was granted to a member that did not hold the role before can be
revoked again, and the bindings are then the same ones, in the same order and with the same members.
A revocation commutes with the grants of other roles, so grants of many roles are undone in any
order. Bindings may repeat roles and members, and may be under conditions; only an unconditional
binding that was empty before would not come back, since it is dropped once it is empty again.
-/

namespace CloudIdentity.Gcp

variable {role other member : String} {bindings : List Binding} {roles order : List String}

/-! ## One grant and one revocation -/

/-- The bindings after a grant, which may have nothing to do. -/
def granted (role member : String) (bindings : List Binding) : List Binding :=
  (grant? role member bindings).getD bindings

/-- No unconditional binding is empty. -/
def Occupied (bindings : List Binding) : Prop :=
  ∀ b ∈ bindings, b.condition = none → b.members ≠ []

instance (bindings : List Binding) : Decidable (Occupied bindings) :=
  inferInstanceAs (Decidable (∀ b ∈ bindings, b.condition = none → b.members ≠ []))

theorem granted_nil (role member : String) :
    granted role member [] = [{ role := role, members := [member] }] := rfl

theorem granted_cons_of_new {b : Binding} (same : b.grants role = true)
    (new : member ∉ b.members) (rest : List Binding) :
    granted role member (b :: rest) = { b with members := b.members ++ [member] } :: rest := by
  simp [granted, grant?, same, new]

/-- A grant goes to the first binding of its role, and no further. -/
theorem granted_cons_of_grants {b : Binding} (same : b.grants role = true) (member : String) :
    ∃ b' : Binding, (∀ r, b'.grants r = b.grants r) ∧
      ∀ rest, granted role member (b :: rest) = b' :: rest := by
  by_cases hmem : member ∈ b.members
  · exact ⟨b, fun _ => rfl, fun rest => by simp [granted, grant?, same, hmem]⟩
  · exact ⟨{ b with members := b.members ++ [member] }, fun _ => rfl,
      granted_cons_of_new same hmem⟩

theorem granted_append_of_other {front : List Binding}
    (hother : ∀ a ∈ front, a.grants role = false) (rest : List Binding) :
    granted role member (front ++ rest) = front ++ granted role member rest := by
  induction front with
  | nil => rfl
  | cons b front ih =>
    obtain ⟨hb, hfront⟩ := List.forall_mem_cons.mp hother
    have hcons (rest : List Binding) :
        granted role member (b :: rest) = b :: granted role member rest := by
      rw [granted, granted, grant?, hb, if_neg Bool.false_ne_true]
      cases grant? role member rest <;> rfl
    rw [List.cons_append, hcons, ih hfront, List.cons_append]

theorem granted_cons_of_other {b : Binding} (hother : b.grants role = false)
    (rest : List Binding) :
    granted role member (b :: rest) = b :: granted role member rest :=
  granted_append_of_other (List.forall_mem_singleton.mpr hother) rest

theorem granted_of_settled (h : Settled bindings role member) :
    granted role member bindings = bindings := by
  rw [granted, grant?_eq_none_iff.mpr h, Option.getD_none]

/-- A grant does what it does, or there was nothing for it to do. -/
theorem granted_cases (role member : String) (bindings : List Binding) :
    Settled bindings role member ∧ granted role member bindings = bindings ∨
      Granted role member bindings (granted role member bindings) := by
  cases h : grant? role member bindings with
  | none =>
    have hsettled := grant?_eq_none_iff.mp h
    exact Or.inl ⟨hsettled, granted_of_settled hsettled⟩
  | some after =>
    rw [granted, h, Option.getD_some]
    exact Or.inr (granted_of_grant? h)

theorem granted_settled (role member : String) (bindings : List Binding) :
    Settled (granted role member bindings) role member := by
  rcases granted_cases role member bindings with ⟨hsettled, heq⟩ | hgranted
  · rw [heq]
    exact hsettled
  · exact hgranted.settled

/-- A grant of one role gives a member no other. -/
theorem holds_granted_of_ne (hne : role ≠ other) :
    Holds (granted other member bindings) role member ↔ Holds bindings role member := by
  rcases granted_cases other member bindings with ⟨_, heq⟩ | hgranted
  · rw [heq]
  · rw [hgranted.holds_iff]
    simp [hne]

theorem Occupied.granted (h : Occupied bindings) (role member : String) :
    Occupied (granted role member bindings) := by
  rcases granted_cases role member bindings with ⟨_, heq⟩ | hgranted
  · rw [heq]
    exact h
  · generalize Gcp.granted role member bindings = after at hgranted
    cases hgranted with
    | @joined before rest b _ _ _ =>
      intro a ha hcond
      rcases List.mem_append.mp ha with ha | ha
      · exact h a (List.mem_append_left _ ha) hcond
      · rcases List.mem_cons.mp ha with rfl | ha
        · simp
        · exact h a (List.mem_append_right _ (List.mem_cons_of_mem _ ha)) hcond
    | opened _ =>
      intro a ha hcond
      rcases List.mem_append.mp ha with ha | ha
      · exact h a ha hcond
      · obtain rfl := List.mem_singleton.mp ha
        exact List.cons_ne_nil _ _

theorem revoke?_cons_of_other {b : Binding} (hother : ¬ (b.grants role = true ∧ member ∈ b.members))
    (rest : List Binding) :
    revoke? role member (b :: rest) = (revoke? role member rest).map (b :: ·) := by
  have hcond : ¬ (b.grants role && b.members.contains member) = true := by simpa using hother
  rw [revoke?, if_neg hcond]

/-- A revocation goes to the first binding that gives the member the role, and no further. -/
theorem revoke?_cons_of_held {b : Binding} (same : b.grants role = true)
    (held : member ∈ b.members) :
    ∃ front, (∀ a ∈ front, a.role = role) ∧
      ∀ rest, revoke? role member (b :: rest) = some (front ++ rest) := by
  have hrole := (Binding.grants_iff.mp same).1
  cases hleft : b.members.erase member with
  | nil => exact ⟨[], by simp, fun rest => by simp [revoke?, same, held, hleft]⟩
  | cons x left =>
    exact ⟨[{ b with members := x :: left }], by simpa using hrole,
      fun rest => by simp [revoke?, same, held, hleft]⟩

/-- What was granted can be revoked, and is then as it never was. -/
theorem revoke?_granted (h : Occupied bindings) (hnew : ¬ Holds bindings role member) :
    revoke? role member (granted role member bindings) = some bindings := by
  induction bindings with
  | nil => simp [granted_nil, revoke?, Binding.grants]
  | cons b rest ih =>
    obtain ⟨hb, hrest⟩ := List.forall_mem_cons.mp h
    rw [holds_cons, not_or, not_and] at hnew
    cases same : b.grants role with
    | true =>
      have hmem := hnew.1 same
      have herase : (b.members ++ [member]).erase member = b.members := by
        rw [List.erase_append_right _ hmem, List.erase_cons_head, List.append_nil]
      have hsame : ({ b with members := b.members ++ [member] } : Binding).grants role = true :=
        same
      rw [granted_cons_of_new same hmem, revoke?, if_pos (by simp [hsame]), herase]
      split
      · next hempty => exact absurd hempty (hb (Binding.grants_iff.mp same).2)
      · rfl
    | false =>
      rw [granted_cons_of_other same, revoke?_cons_of_other (by simp [same]), ih hrest hnew.2]
      rfl

/-- A revocation of one role commutes with a grant of another. -/
theorem revoke?_granted_comm (hne : role ≠ other) (bindings : List Binding) :
    revoke? role member (granted other member bindings) =
      (revoke? role member bindings).map (granted other member) := by
  have apart {b : Binding} (hrole : b.role = role) : b.grants other = false := by
    simp [Binding.grants, hrole, hne]
  induction bindings with
  | nil => simp [granted_nil, revoke?, Binding.grants, hne.symm]
  | cons b rest ih =>
    by_cases held : b.grants role = true ∧ member ∈ b.members
    · obtain ⟨front, hfront, hrevoke⟩ := revoke?_cons_of_held held.1 held.2
      have hb := apart (Binding.grants_iff.mp held.1).1
      rw [granted_cons_of_other hb, hrevoke, hrevoke, Option.map_some,
        granted_append_of_other fun a ha => apart (hfront a ha)]
    · rw [revoke?_cons_of_other held, Option.map_map]
      cases same : b.grants other with
      | true =>
        -- The grant ends here, and what it makes of the binding is of the same role.
        obtain ⟨b', hgrants, hgranted⟩ := granted_cons_of_grants same member
        have hb' : ¬ b'.grants role = true := by
          rw [hgrants]
          intro hrole
          rw [apart (Binding.grants_iff.mp hrole).1] at same
          cases same
        rw [hgranted, revoke?_cons_of_other fun h => hb' h.1]
        congr 1
        funext after
        exact (hgranted after).symm
      | false =>
        rw [granted_cons_of_other same, revoke?_cons_of_other held, ih, Option.map_map]
        congr 1
        funext after
        exact (granted_cons_of_other same after).symm

/-! ## Many grants and many revocations -/

/-- The bindings after grants of roles to a member, one after another. -/
def grantedAll (roles : List String) (member : String) (bindings : List Binding) : List Binding :=
  roles.foldl (fun bindings role => granted role member bindings) bindings

theorem grantedAll_cons (role : String) (roles : List String) (member : String)
    (bindings : List Binding) :
    grantedAll (role :: roles) member bindings =
      grantedAll roles member (granted role member bindings) := rfl

/-- The bindings after a revocation, which may have nothing to do. -/
def revoked (role member : String) (bindings : List Binding) : List Binding :=
  (revoke? role member bindings).getD bindings

/-- The bindings after revocations of roles from a member, one after another. -/
def revokedAll (roles : List String) (member : String) (bindings : List Binding) : List Binding :=
  roles.foldl (fun bindings role => revoked role member bindings) bindings

/-- The roles but for one. -/
def without (role : String) (roles : List String) : List String := roles.filter (· ≠ role)

theorem without_cons_self (role : String) (roles : List String) :
    without role (role :: roles) = without role roles := by
  simp [without]

theorem without_cons_of_ne (hne : other ≠ role) (roles : List String) :
    without role (other :: roles) = other :: without role roles := by
  simp [without, hne]

theorem mem_without_iff : other ∈ without role roles ↔ other ∈ roles ∧ other ≠ role := by
  simp [without]

/-- A role that is granted already can be left out. -/
theorem grantedAll_of_settled (h : Settled bindings role member) :
    grantedAll roles member bindings = grantedAll (without role roles) member bindings := by
  induction roles generalizing bindings with
  | nil => rfl
  | cons r rest ih =>
    by_cases hr : r = role
    · subst hr
      rw [without_cons_self, grantedAll_cons, granted_of_settled h]
      exact ih h
    · rw [without_cons_of_ne hr, grantedAll_cons, grantedAll_cons]
      refine ih ?_
      rcases granted_cases r member bindings with ⟨_, heq⟩ | hgranted
      · rwa [heq]
      · exact (hgranted.extends (List.mem_singleton_self r)).settled h

/-- A revocation commutes with grants of other roles. -/
theorem revoke?_grantedAll_comm (hrole : role ∉ roles) (bindings : List Binding) :
    revoke? role member (grantedAll roles member bindings) =
      (revoke? role member bindings).map (grantedAll roles member) := by
  induction roles generalizing bindings with
  | nil => exact (congrFun Option.map_id _).symm
  | cons r rest ih =>
    rw [List.mem_cons, not_or] at hrole
    rw [grantedAll_cons, ih hrole.2, revoke?_granted_comm hrole.1, Option.map_map]
    rfl

/-- A role among those granted can be revoked, and then it is as if only the others had been
granted. -/
theorem revoke?_grantedAll (h : Occupied bindings) (hnew : ¬ Holds bindings role member)
    (hrole : role ∈ roles) :
    revoke? role member (grantedAll roles member bindings) =
      some (grantedAll (without role roles) member bindings) := by
  induction roles generalizing bindings with
  | nil => cases hrole
  | cons r rest ih =>
    by_cases hr : r = role
    · -- Later grants of the same role do nothing; the revocation passes all others and undoes the first.
      subst hr
      have hrest : r ∉ without r rest := fun hmem => (mem_without_iff.mp hmem).2 rfl
      rw [without_cons_self, grantedAll_cons,
        grantedAll_of_settled (granted_settled r member bindings), revoke?_grantedAll_comm hrest,
        revoke?_granted h hnew]
      rfl
    · rw [without_cons_of_ne hr, grantedAll_cons, grantedAll_cons]
      refine ih (h.granted r member) ?_ (List.mem_of_ne_of_mem (Ne.symm hr) hrole)
      rwa [holds_granted_of_ne (Ne.symm hr)]

/-- Revocations of the roles that were granted, each once and in any order, undo the grants. -/
theorem revokedAll_grantedAll (h : Occupied bindings)
    (hnew : ∀ role ∈ roles, ¬ Holds bindings role member) (hnodup : order.Nodup)
    (horder : ∀ role, role ∈ order ↔ role ∈ roles) :
    revokedAll order member (grantedAll roles member bindings) = bindings := by
  induction order generalizing roles with
  | nil =>
    have hnone : roles = [] := List.eq_nil_iff_forall_not_mem.mpr fun role hrole => by
      cases (horder role).mpr hrole
    rw [hnone]
    rfl
  | cons role rest ih =>
    obtain ⟨hout, hrest⟩ := List.nodup_cons.mp hnodup
    have hrole := (horder role).mp List.mem_cons_self
    have hfirst : revoked role member (grantedAll roles member bindings) =
        grantedAll (without role roles) member bindings := by
      rw [revoked, revoke?_grantedAll h (hnew role hrole) hrole, Option.getD_some]
    rw [revokedAll, List.foldl_cons, hfirst]
    refine ih (fun r hr => hnew r (mem_without_iff.mp hr).1) hrest ?_
    intro r
    rw [mem_without_iff, ← horder, List.mem_cons]
    constructor
    · intro hr
      exact ⟨Or.inr hr, fun heq => hout (heq ▸ hr)⟩
    · rintro ⟨rfl | hr, hne⟩
      · exact absurd rfl hne
      · exact hr

namespace Policy

theorem addBinding_bindings (p : Policy) (role member : String) :
    (p.addBinding role member).1.bindings = granted role member p.bindings := by
  rw [addBinding, granted]
  cases grant? role member p.bindings <;> rfl

theorem removeBinding_bindings (p : Policy) (role member : String) :
    (p.removeBinding role member).1.bindings = revoked role member p.bindings := by
  rw [removeBinding, revoked]
  cases revoke? role member p.bindings <;> rfl

theorem mergeDocument_bindings (p : Policy) (d : PolicyDocument) (member : String) :
    (p.mergeDocument d member).1.bindings = grantedAll d.allowedActions member p.bindings := by
  rw [mergeDocument_eq_addAll]
  generalize d.allowedActions = roles
  induction roles generalizing p with
  | nil => rfl
  | cons role rest ih => rw [grantedAll_cons, ← addBinding_bindings, ← ih, List.map_cons, addAll]

end Policy

end CloudIdentity.Gcp

import CloudIdentity.InMemory.Gcp
import CloudIdentity.Proofs.Client.Admission
import CloudIdentity.Proofs.Client.Outcome
import CloudIdentity.Proofs.Gcp.ProjectPolicy
import CloudIdentity.Proofs.Gcp.Revocation

/-!
A service that keeps the policy of a project, and what the client's operations on that policy come
to there. Attaching a document, listing and removing roles find the same member for an identity, so
removing the roles of a document that was attached puts the policy back as it was. A removal takes a
role from the unconditional bindings alone, while a listing tells of all bindings: what is listed
after a removal is what is bound under a condition.
-/

namespace CloudIdentity.ClientCall

open Document

/-! ## Calls for the account of an identity -/

/-- Attaches a document to an identity of a tenant. -/
def attachment (identity tenant : String) (document : PolicyDocument)
    (region resource : Option String) : ClientCall :=
  .attachInlinePolicy <| some
    { identityName := identity, policyDocument := document, tenantId := tenant, region := region,
      resource := resource }

/-- Lists the roles of an identity of a tenant. -/
def listing (identity tenant : String) (roleName region : Option String) : ClientCall :=
  .getAttachedPolicies <| some
    { identityName := identity, roleName := roleName, tenantId := tenant, region := region }

/-- Removes a role from an identity of a tenant. -/
def removal (identity role tenant : String) (region : Argument) : ClientCall :=
  .removePolicy (.plain (.str identity)) (.plain (.str role)) (.plain (.str tenant)) region

theorem attachment_admitted {identity : String} (hidentity : Text.blank identity = false)
    (tenant : String) (document : PolicyDocument) (region resource : Option String) :
    ClientCall.admit (attachment identity tenant document region resource) =
      .ok (.attachInlinePolicy ⟨identity, document, tenant, region, resource⟩) :=
  Gate.map_eq_ok_iff.mpr
    ⟨_, Gate.attachInlinePolicy_eq_ok (Text.filled?_of_not_blank hidentity) rfl, rfl⟩

theorem removal_admit_iff {identity role tenant : String} {region : Argument} {a : AdapterCall} :
    ClientCall.admit (removal identity role tenant region) = .ok a ↔
      ∃ text, region = .plain (.ofText text) ∧ Text.blank identity = false ∧
        Text.blank role = false ∧ Text.blank tenant = false ∧
        a = .removePolicy ⟨identity, role, tenant, text⟩ := by
  simp only [removal, ClientCall.admit, Gate.map_eq_ok_iff, Gate.removePolicy_eq_ok_iff,
    Argument.plain.injEq, Value.str.injEq]
  constructor
  · rintro ⟨⟨i, p, t, text⟩, ⟨⟨rfl, hi⟩, ⟨rfl, hp⟩, ⟨rfl, ht⟩, hregion⟩, rfl⟩
    exact ⟨text, hregion, hi, hp, ht, rfl⟩
  · rintro ⟨text, hregion, hi, hp, ht, rfl⟩
    exact ⟨_, ⟨⟨rfl, hi⟩, ⟨rfl, hp⟩, ⟨rfl, ht⟩, hregion⟩, rfl⟩

end CloudIdentity.ClientCall

namespace CloudIdentity.Gcp

open Document

variable {σ : Type} {service : Service interface σ} {project : String} {h : Handle}

/-! ## What a listing tells -/

/-- Some binding of the role, under a condition, has the member. -/
def HoldsConditionally (bindings : List Binding) (role member : String) : Prop :=
  ∃ b ∈ bindings.filter Binding.conditional, b.role = role ∧ member ∈ b.members

instance (bindings : List Binding) (role member : String) :
    Decidable (HoldsConditionally bindings role member) :=
  inferInstanceAs (Decidable
    (∃ b ∈ bindings.filter Binding.conditional, b.role = role ∧ member ∈ b.members))

namespace Policy

variable {p q : Policy} {role member : String}

theorem mem_rolesOf_iff :
    role ∈ p.rolesOf member ↔
      Holds p.bindings role member ∨ HoldsConditionally p.bindings role member := by
  simp only [rolesOf, List.mem_map, List.mem_filter, List.contains_iff_mem, Holds,
    HoldsConditionally, Binding.grants_iff, Binding.conditional, ← exists_or]
  refine exists_congr fun b => ?_
  cases b.condition with
  | none => simp; tauto
  | some c => simp; tauto

theorem rolesOf_congr (h : p.bindings = q.bindings) (member : String) :
    p.rolesOf member = q.rolesOf member := by
  rw [rolesOf, rolesOf, h]

/-- A merge for a member adds the roles of the document to those of the member. -/
theorem mem_rolesOf_merge_iff {d : PolicyDocument} :
    role ∈ (p.edit (.merge d member)).1.rolesOf member ↔
      role ∈ p.rolesOf member ∨ role ∈ d.allowedActions := by
  have hholds : Holds (p.edit (.merge d member)).1.bindings role member ↔
      Holds p.bindings role member ∨ role ∈ d.allowedActions := by
    rw [edit, mergeDocument_eq_addAll, addAll_holds_iff]
    simp
  rw [mem_rolesOf_iff, mem_rolesOf_iff, hholds, HoldsConditionally, edit_conditional_eq]
  exact or_right_comm

/-- A role taken from a member stays among the roles of the member just where it is bound under a
condition. -/
theorem mem_rolesOf_remove_iff (h : Unrepeated p.bindings) :
    role ∈ (p.edit (.remove role member)).1.rolesOf member ↔
      HoldsConditionally p.bindings role member := by
  rw [mem_rolesOf_iff, HoldsConditionally, edit_conditional_eq]
  exact or_iff_right (h.not_holds_removeBinding role member)

end Policy

/-! ## A service with a policy for a project -/

/-- A service that keeps the policy of a project, if there is one. A read gives the stored policy. A
write with the etag that was read stores a policy with the bindings that were sent. -/
structure PolicyStore {σ : Type} (service : Service interface σ) (project : String) where
  stored : σ → Option Policy
  read : ∀ state, ∃ state',
    service.answer (.getPolicy .projects (projectName project) (some requestedPolicyVersion)) state
      = (.ok (stored state), state') ∧
    stored state' = stored state
  write : ∀ state sent, sent.etag = ((stored state).getD {}).etag → ∃ state' written,
    service.answer (.setPolicy .projects (projectName project) sent) state = (.ok (), state') ∧
    stored state' = some written ∧ written.bindings = sent.bindings

namespace PolicyStore

theorem lookup_putPolicy (resource : String) (policy : Policy)
    (policies : List (String × Option Policy)) :
    (InMemory.Gcp.putPolicy resource policy policies).lookup resource = some (some policy) := by
  induction policies with
  | nil => simp [InMemory.Gcp.putPolicy]
  | cons entry rest ih =>
    obtain ⟨name, old⟩ := entry
    rw [InMemory.Gcp.putPolicy]
    split
    · next same => simp [same]
    · next other =>
      have hname : (resource == name) = false := by simpa using Ne.symm other
      rw [List.lookup_cons, hname]
      exact ih

/-- The service in memory. -/
def inMemory (project : String) : PolicyStore InMemory.Gcp.service project where
  stored state := state.policyOf (projectName project)
  read state := ⟨state, rfl, rfl⟩
  write state sent _ := by
    refine ⟨_, sent, rfl, ?_, rfl⟩
    rw [InMemory.Gcp.State.policyOf, lookup_putPolicy]

/-- The stored policy; a missing one counts as empty. -/
def policy (store : PolicyStore service project) (state : σ) : Policy :=
  (store.stored state).getD {}

def bindings (store : PolicyStore service project) (state : σ) : List Binding :=
  (store.policy state).bindings

/-- A read hands the stored policy on and leaves it where it is. -/
theorem readThen_run (store : PolicyStore service project) (state : σ) :
    ∃ state', store.policy state' = store.policy state ∧ ∀ next,
      ((readThen project next).run service state).result =
        ((next (store.policy state)).run service state').result ∧
      ((readThen project next).run service state).state =
        ((next (store.policy state)).run service state').state := by
  obtain ⟨state', hanswer, hstored⟩ := store.read state
  refine ⟨state', by rw [policy, policy, hstored], fun next => ?_⟩
  simp only [readThen, Program.run, hanswer]
  exact ⟨rfl, rfl⟩

theorem writeBack_run (store : PolicyStore service project) {sent : Policy} {state : σ}
    (hetag : sent.etag = (store.policy state).etag) :
    ((writeBack project sent).run service state).result = .ok .null ∧
      store.bindings ((writeBack project sent).run service state).state = sent.bindings := by
  obtain ⟨state', written, hanswer, hstored, hbindings⟩ := store.write state sent hetag
  simp only [writeBack, Program.run, hanswer, true_and]
  rw [bindings, policy, hstored, Option.getD_some, hbindings]

/-! ## Operations of the adapter -/

theorem attach_run {r : Request.AttachInlinePolicy} {tenant member : String}
    {document : PolicyDocument} (store : PolicyStore service (projectId tenant))
    (hopen : h.projects = true) (htenant : Text.filled? r.tenantId = some tenant)
    (hmember : (ProjectOperation.attach r).member? (projectId tenant) = some member)
    (hdocument : r.policyDocument = some document) (state : σ) :
    let run := (attachInlinePolicy h r).run.run service state
    run.result = .ok .null ∧ store.bindings run.state =
      ((store.policy state).edit (.merge document member)).1.bindings := by
  rw [ProjectOperation.attachInlinePolicy_run hopen htenant hmember]
  obtain ⟨state', hpolicy, hrun⟩ := store.readThen_run state
  simp only [hrun, hdocument]
  exact store.writeBack_run (by rw [Policy.edit_etag, hpolicy])

theorem remove_run {r : Request.RemovePolicy} (store : PolicyStore service (projectId r.tenantId))
    (hopen : h.projects = true) (state : σ) :
    let run := (removePolicy h r).run.run service state
    let member := accountMember r.identityName (projectId r.tenantId)
    run.result = .ok .null ∧ store.bindings run.state =
      ((store.policy state).edit (.remove r.policyName member)).1.bindings := by
  intro run member
  simp only [run]
  rw [ProjectOperation.removePolicy_run hopen]
  obtain ⟨state', hpolicy, hrun⟩ := store.readThen_run state
  simp only [hrun]
  split
  · exact store.writeBack_run (by rw [Policy.edit_etag, hpolicy])
  · next hsame =>
    rw [Policy.edit_eq_of_unchanged (Bool.eq_false_iff.mpr hsame), ← hpolicy]
    exact ⟨rfl, rfl⟩

theorem list_run {r : Request.GetAttachedPolicies} {tenant identity : String}
    (store : PolicyStore service (projectId tenant)) (hopen : h.projects = true)
    (htenant : Text.filled? r.tenantId = some tenant)
    (hidentity : Text.filled? r.identityName = some identity) (state : σ) :
    let run := (getAttachedPolicies h r).run.run service state
    run.result =
        .ok (.ofTexts ((store.policy state).rolesOf (accountMember identity (projectId tenant)))) ∧
      store.policy run.state = store.policy state := by
  rw [ProjectOperation.getAttachedPolicies_run hopen htenant hidentity]
  obtain ⟨state', hpolicy, hrun⟩ := store.readThen_run state
  simp only [hrun]
  exact ⟨rfl, hpolicy⟩

/-! ## Operations of the client -/

variable {identity tenant : String}

section Operations

variable (store : PolicyStore service (projectId tenant)) (hopen : h.projects = true)
  (hidentity : Text.blank identity = false) (htenant : Text.blank tenant = false)

include hopen hidentity htenant

theorem attachment_outcome {resource : Option String} (hresource : Text.filled? resource = none)
    (document : PolicyDocument) (region : Option String) (state : σ) :
    let run := (Opened.mk adapter h).outcome service
      (.attachment identity tenant document region resource) state
    run.result = .ok .null ∧
      store.bindings run.state = ((store.policy state).edit
        (.merge document (accountMember identity (projectId tenant)))).1.bindings := by
  have hadmitted := ClientCall.attachment_admitted hidentity tenant document region resource
  have hmember : (ProjectOperation.attach ⟨identity, document, tenant, region, resource⟩).member?
      (projectId tenant) = some (accountMember identity (projectId tenant)) := by
    simp only [ProjectOperation.member?, hresource, Text.filled?_of_not_blank hidentity]
    rfl
  obtain ⟨hresult, hbindings⟩ :=
    store.attach_run hopen (Text.filled?_of_not_blank htenant) hmember rfl state
  refine ⟨Opened.outcome_answered hadmitted hresult, ?_⟩
  rw [Opened.outcome_state hadmitted]
  exact hbindings

theorem listing_outcome (roleName region : Option String) (state : σ) :
    let run := (Opened.mk adapter h).outcome service
      (.listing identity tenant roleName region) state
    run.result =
        .ok (.ofTexts ((store.policy state).rolesOf (accountMember identity (projectId tenant)))) ∧
      store.policy run.state = store.policy state := by
  have hadmitted : ClientCall.admit (.listing identity tenant roleName region) =
      .ok (.getAttachedPolicies ⟨identity, roleName, tenant, region⟩) := rfl
  obtain ⟨hresult, hpolicy⟩ := store.list_run (r := ⟨identity, roleName, tenant, region⟩) hopen
    (Text.filled?_of_not_blank htenant) (Text.filled?_of_not_blank hidentity) state
  refine ⟨Opened.outcome_answered hadmitted hresult, ?_⟩
  rw [Opened.outcome_state hadmitted]
  exact hpolicy

theorem removal_outcome {role : String} (hrole : Text.blank role = false)
    (region : Option String) (state : σ) :
    let run := (Opened.mk adapter h).outcome service
      (.removal identity role tenant (.plain (.ofText region))) state
    run.result = .ok .null ∧
      store.bindings run.state = ((store.policy state).edit
        (.remove role (accountMember identity (projectId tenant)))).1.bindings := by
  have hadmitted := ClientCall.removal_admit_iff.mpr ⟨region, rfl, hidentity, hrole, htenant, rfl⟩
  obtain ⟨hresult, hbindings⟩ :=
    store.remove_run (r := ⟨identity, role, tenant, region⟩) hopen state
  refine ⟨Opened.outcome_answered hadmitted hresult, ?_⟩
  rw [Opened.outcome_state hadmitted]
  exact hbindings

/-- Removals made in turn all return, and take their roles from the bindings one after another. -/
theorem removal_outcomes {order : List String} (horder : ∀ role ∈ order, Text.blank role = false)
    (region : Option String) (state : σ) :
    let run := (Opened.mk adapter h).outcomes service
      (order.map fun role => .removal identity role tenant (.plain (.ofText region))) state
    (∀ result ∈ run.1, result = .ok .null) ∧
      store.bindings run.2 =
        revokedAll order (accountMember identity (projectId tenant)) (store.bindings state) := by
  induction order generalizing state with
  | nil => exact ⟨by simp [Opened.outcomes], rfl⟩
  | cons role rest ih =>
    obtain ⟨hrole, hrest⟩ := List.forall_mem_cons.mp horder
    obtain ⟨hresult, hbindings⟩ :=
      removal_outcome store hopen hidentity htenant hrole region state
    obtain ⟨hresults, hlast⟩ := ih hrest ((Opened.mk adapter h).outcome service
      (.removal identity role tenant (.plain (.ofText region))) state).state
    rw [hbindings, Policy.edit, Policy.removeBinding_bindings] at hlast
    exact ⟨List.forall_mem_cons.mpr ⟨hresult, hresults⟩, hlast⟩

end Operations

/-! ## Attaching, listing and removing -/

/-- Attaching, listing and removing are inverse to each other, for every identity and tenant that
the gate accepts. If the account holds none of the roles of a document unconditionally, and no
unconditional binding is empty, then attaching the document without a resource returns, and the
account is listed with just the roles of the document besides those that were listed before. If each
of these roles is removed once, in any order and at any time when the bindings are still those that
the attachment left, then every removal returns, and the bindings are again the ones that were there
before the attachment, in the same order and with the same members. -/
theorem removals_undo_attachment (store : PolicyStore service (projectId tenant)) (h : Handle)
    (hopen : h.projects = true) (hidentity : Text.blank identity = false)
    (htenant : Text.blank tenant = false) (document : PolicyDocument)
    (hnames : ∀ role ∈ document.allowedActions, Text.blank role = false)
    (resource roleName region : Option String) (hresource : Text.filled? resource = none)
    (state : σ) (hoccupied : Occupied (store.bindings state))
    (hnew : ∀ role ∈ document.allowedActions,
      ¬ Holds (store.bindings state) role (accountMember identity (projectId tenant))) :
    let o : Opened interface Handle := ⟨adapter, h⟩
    let listing := ClientCall.listing identity tenant roleName region
    let listed := o.outcome service listing state
    let attached := o.outcome service
      (.attachment identity tenant document region resource) listed.state
    let relisted := o.outcome service listing attached.state
    (∃ before after, listed.result = .ok (.ofTexts before) ∧ attached.result = .ok .null ∧
      relisted.result = .ok (.ofTexts after) ∧
      ∀ role, role ∈ after ↔ role ∈ before ∨ role ∈ document.allowedActions) ∧
    store.bindings relisted.state = store.bindings attached.state ∧
    ∀ later, store.bindings later = store.bindings attached.state →
      ∀ order : List String, order.Nodup → (∀ role, role ∈ order ↔ role ∈ document.allowedActions) →
        let removed := o.outcomes service
          (order.map fun role => .removal identity role tenant (.plain (.ofText region))) later
        (∀ result ∈ removed.1, result = .ok .null) ∧
        store.bindings removed.2 = store.bindings state := by
  intro o listing listed attached relisted
  let member := accountMember identity (projectId tenant)
  obtain ⟨hlisted, hpolicy⟩ : listed.result = .ok (.ofTexts ((store.policy state).rolesOf member)) ∧
      store.policy listed.state = store.policy state :=
    listing_outcome store hopen hidentity htenant roleName region state
  obtain ⟨hattached, hbindings⟩ : attached.result = .ok .null ∧ store.bindings attached.state =
      ((store.policy listed.state).edit (.merge document member)).1.bindings :=
    attachment_outcome store hopen hidentity htenant hresource document region listed.state
  obtain ⟨hrelisted, hsame⟩ : relisted.result =
        .ok (.ofTexts ((store.policy attached.state).rolesOf member)) ∧
      store.policy relisted.state = store.policy attached.state :=
    listing_outcome store hopen hidentity htenant roleName region attached.state
  rw [hpolicy] at hbindings
  refine ⟨⟨_, _, hlisted, hattached, hrelisted, ?_⟩, by rw [bindings, bindings, hsame], ?_⟩
  · intro role
    rw [Policy.rolesOf_congr hbindings, Policy.mem_rolesOf_merge_iff]
  · intro later hlater order hnodup horder
    obtain ⟨hresults, hlast⟩ := removal_outcomes store hopen hidentity htenant
      (fun role hrole => hnames role ((horder role).mp hrole)) region later
    refine ⟨hresults, hlast.trans ?_⟩
    rw [hlater, hbindings, Policy.edit, Policy.mergeDocument_bindings]
    exact revokedAll_grantedAll hoccupied hnew hnodup horder

/-- The account holds one of the roles under a condition, and another member holds it under none;
the document grants it twice, and denies a third role. -/
theorem removals_undo_attachment_beside_condition :
    let store := inMemory (projectId "projects/p")
    let state : InMemory.Gcp.State :=
      { policies := [("projects/p", some
          { bindings := [
              { role := "viewer", members := ["serviceAccount:ci@p.iam.gserviceaccount.com"],
                condition := some {} },
              { role := "viewer", members := ["user:ann"] }] })] }
    let document : PolicyDocument :=
      { statements := [{ effect := .allow, actions := ["viewer", "editor", "viewer"] },
          { effect := .deny, actions := ["owner"] }] }
    let o : Opened interface Handle := ⟨adapter, ⟨true, true, none⟩⟩
    let listed := o.outcome InMemory.Gcp.service (.listing "ci" "projects/p" none none) state
    let attached := o.outcome InMemory.Gcp.service
      (.attachment "ci" "projects/p" document none none) listed.state
    let removed := o.outcomes InMemory.Gcp.service
      (["viewer", "editor"].map fun role =>
        .removal "ci" role "projects/p" (.plain (.ofText none))) attached.state
    Occupied (store.bindings state) ∧
    (∀ role ∈ document.allowedActions, ¬ Holds (store.bindings state) role
      (accountMember "ci" (projectId "projects/p"))) ∧
    attached.result = .ok .null ∧ store.bindings attached.state ≠ store.bindings state ∧
    (∀ result ∈ removed.1, result = .ok .null) ∧
    store.bindings removed.2 = store.bindings state := by
  intro store state document o listed attached removed
  have hoccupied : Occupied (store.bindings state) := by decide +kernel
  have hnew : ∀ role ∈ document.allowedActions, ¬ Holds (store.bindings state) role
      (accountMember "ci" (projectId "projects/p")) := by decide +kernel
  obtain ⟨⟨_, _, _, hattached, _⟩, _, hremovals⟩ :=
    store.removals_undo_attachment ⟨true, true, none⟩ rfl rfl rfl document (by decide) none none
      none rfl state hoccupied hnew
  refine ⟨hoccupied, hnew, hattached, by decide +kernel, ?_⟩
  refine hremovals attached.state rfl ["viewer", "editor"] (by decide) ?_
  intro role
  simp [document, PolicyDocument.allowedActions]
  tauto

/-- What is listed once a removal has returned: the role that was removed is among the roles just if
it was bound to the account under a condition. -/
theorem listed_after_removal_iff {role : String} (store : PolicyStore service (projectId tenant))
    (h : Handle) (region : Argument) (state : σ) (hunrepeated : Unrepeated (store.bindings state))
    (roleName listedRegion : Option String) :
    let o : Opened interface Handle := ⟨adapter, h⟩
    let removed := o.outcome service (.removal identity role tenant region) state
    ∀ v, removed.result = .ok v →
      ∃ roles, (o.outcome service (.listing identity tenant roleName listedRegion)
          removed.state).result = .ok (.ofTexts roles) ∧
        (role ∈ roles ↔ HoldsConditionally (store.bindings state) role
          (accountMember identity (projectId tenant))) := by
  intro o removed v hreturned
  obtain ⟨a, answer, hadmitted, hperformed⟩ := Opened.exists_of_outcome_ok hreturned
  obtain ⟨text, rfl, hidentity, hrole, htenant, rfl⟩ := ClientCall.removal_admit_iff.mp hadmitted
  -- A removal on a closed client fails, so the listing after it finds the client open.
  have hopen : h.projects = true := by
    by_contra hclosed
    have hfails := ProjectOperation.removePolicy_closed (Bool.eq_false_iff.mpr hclosed)
      ⟨identity, role, tenant, text⟩
    have hrun : (removePolicy h ⟨identity, role, tenant, text⟩).run.run service state = _ :=
      congrArg (fun p : Program _ _ => p.run service state) hfails
    have hresult := (congrArg Run.result hrun).symm.trans hperformed
    cases hresult
  let member := accountMember identity (projectId tenant)
  obtain ⟨_, hbindings⟩ : removed.result = .ok .null ∧ store.bindings removed.state =
      ((store.policy state).edit (.remove role member)).1.bindings :=
    removal_outcome store hopen hidentity htenant hrole text state
  obtain ⟨hlisted, _⟩ := listing_outcome store hopen hidentity htenant roleName
    listedRegion removed.state
  refine ⟨_, hlisted, ?_⟩
  rw [Policy.rolesOf_congr hbindings]
  exact Policy.mem_rolesOf_remove_iff hunrepeated

/-- A role that the account held under no condition is not listed any more. -/
theorem listed_after_removal_iff_unconditional :
    let store := inMemory (projectId "projects/p")
    let state : InMemory.Gcp.State :=
      { policies := [("projects/p", some
          { bindings := [
              { role := "viewer",
                members := ["user:ann", "serviceAccount:ci@p.iam.gserviceaccount.com"] },
              { role := "editor", members := ["serviceAccount:ci@p.iam.gserviceaccount.com"],
                condition := some {} }] })] }
    let o : Opened interface Handle := ⟨adapter, ⟨true, true, none⟩⟩
    let removed := o.outcome InMemory.Gcp.service
      (.removal "ci" "viewer" "projects/p" (.plain .null)) state
    Unrepeated (store.bindings state) ∧ removed.result = .ok .null ∧
    ∃ roles, (o.outcome InMemory.Gcp.service (.listing "ci" "projects/p" none none)
        removed.state).result = .ok (.ofTexts roles) ∧ "viewer" ∉ roles := by
  intro store state o removed
  have hunrepeated : Unrepeated (store.bindings state) := by decide +kernel
  have hremoved : removed.result = .ok .null :=
    (removal_outcome store rfl rfl rfl rfl none state).1
  obtain ⟨roles, hlisted, hiff⟩ := store.listed_after_removal_iff ⟨true, true, none⟩ (.plain .null)
    state hunrepeated none none .null hremoved
  have hnot : ¬ HoldsConditionally (store.bindings state) "viewer"
    (accountMember "ci" (projectId "projects/p")) := by decide +kernel
  exact ⟨hunrepeated, hremoved, roles, hlisted, mt hiff.mp hnot⟩

/-- A role that the account holds under a condition is still listed after it was removed, though no
binding has a member twice and none is unconditional. -/
theorem conditional_role_listed_after_removal :
    let store := inMemory (projectId "projects/p")
    let state : InMemory.Gcp.State :=
      { policies := [("projects/p", some
          { bindings := [
              { role := "viewer", members := ["serviceAccount:ci@p.iam.gserviceaccount.com"],
                condition := some {} }] })] }
    let o : Opened interface Handle := ⟨adapter, ⟨true, true, none⟩⟩
    let removed := o.outcome InMemory.Gcp.service
      (.removal "ci" "viewer" "projects/p" (.plain .null)) state
    Unrepeated (store.bindings state) ∧ (∀ b ∈ store.bindings state, b.members.Nodup) ∧
    removed.result = .ok .null ∧
    ∃ roles, (o.outcome InMemory.Gcp.service (.listing "ci" "projects/p" none none)
        removed.state).result = .ok (.ofTexts roles) ∧ "viewer" ∈ roles := by
  intro store state o removed
  have hunrepeated : Unrepeated (store.bindings state) := by decide +kernel
  have hremoved : removed.result = .ok .null :=
    (removal_outcome store rfl rfl rfl rfl none state).1
  refine ⟨hunrepeated, by decide +kernel, hremoved, _,
    (listing_outcome store rfl rfl rfl none none removed.state).1, ?_⟩
  decide +kernel

end PolicyStore

end CloudIdentity.Gcp

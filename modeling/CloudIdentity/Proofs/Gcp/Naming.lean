import CloudIdentity.InMemory.Gcp
import CloudIdentity.Proofs.Client.Observation
import CloudIdentity.Proofs.Gcp.AccountStore

/-!
Names on Google Cloud mean one thing each. A project is the same with and without `projects/` in
front, and an account by its id and by its address, so every operation does the same to the service
and tells its caller the same, whichever spelling it is given.
-/

namespace CloudIdentity.Gcp

open Document

/-! ## Spellings -/

/-- The spellings of a project. -/
inductive NamesProject (project : String) : String → Prop where
  | bare : NamesProject project project
  | full : NamesProject project ("projects/" ++ project)

/-- The spellings of the account that has an id in a project. -/
inductive NamesAccount (id project : String) : String → Prop where
  | bare : NamesAccount id project id
  | address : NamesAccount id project (accountAddress id project)

/-- The targets with which a policy is attached to the account itself: none that counts, or its
address. -/
inductive TargetsAccount (id project : String) : Option String → Prop where
  | blank {target : Option String} (h : Text.filled? target = none) :
    TargetsAccount id project target
  | address : TargetsAccount id project (some (accountAddress id project))

/-- A spelling of the account that has an id in a project, and of the project. -/
structure Spells (id project identity tenant : String) : Prop where
  account : NamesAccount id project identity
  tenant : NamesProject project tenant

variable {id project tenant identity : String}

theorem NamesProject.projectId_eq (h : NamesProject project tenant)
    (hplain : Text.begins "projects/" project = false) : projectId tenant = project := by
  cases h with
  | bare => exact Text.without_of_not_begins hplain
  | full => exact Text.without_append "projects/" project

theorem NamesProject.filled (h : NamesProject project tenant)
    (hfilled : Text.blank project = false) :
    Text.blank tenant = false := by
  cases h with
  | bare => exact hfilled
  | full => rw [Text.blank_append, hfilled, Bool.and_false]

theorem NamesAccount.filled (h : NamesAccount id project identity)
    (hfilled : Text.blank id = false) : Text.blank identity = false := by
  cases h with
  | bare => exact hfilled
  | address =>
    rw [accountAddress, Text.blank_append, Text.blank_append, Text.blank_append, hfilled,
      Bool.false_and, Bool.false_and, Bool.false_and]

theorem NamesAccount.email_eq (h : NamesAccount id project identity)
    (hbare : Text.contains '@' id = false) :
    serviceAccountEmail identity project = accountAddress id project := by
  cases h with
  | bare => exact serviceAccountEmail_of_bare hbare project
  | address => exact serviceAccountEmail_address id project

end CloudIdentity.Gcp

namespace CloudIdentity

open Document Validation

/-! ## What the gate makes of another spelling -/

theorem Gate.name_of_filled (field : String) {s : String} (h : Text.blank s = false) :
    Gate.name field (.plain (.str s)) = .ok s := by
  rw [Gate.name, h, if_neg Bool.false_ne_true]

namespace ClientCall

variable {identity identity' tenant tenant' : String}

section

variable (hi : Text.blank identity = false) (hi' : Text.blank identity' = false)
  (ht : Text.blank tenant = false) (ht' : Text.blank tenant' = false)

include hi hi' ht ht'

theorem admit_getIdentity_respelled (region : Argument) :
    ClientCall.admit (getIdentity (.plain (.str identity')) (.plain (.str tenant')) region) =
      (fun r => .getIdentity { r with identityName := identity', tenantId := tenant' }) <$>
        Gate.getIdentity (.plain (.str identity)) (.plain (.str tenant)) region := by
  have hread (i t : String) : Request.GetIdentity.readMembers
      [("identity_name", .str i), ("tenant_id", .str t), ("region", region.toValue)] =
        .accepted (Request.GetIdentity.mk i t) <*>
          Members.optional [("region", region.toValue)] "region" Reader.text := rfl
  simp only [Gate.getIdentity, ClientCall.admit, Gate.name_of_filled _ hi,
    Gate.name_of_filled _ hi', Gate.name_of_filled _ ht, Gate.name_of_filled _ ht', bind,
    Except.bind, hread]
  cases Members.optional [("region", region.toValue)] "region" Reader.text <;> rfl

theorem admit_deleteIdentity_respelled (region : Argument) :
    ClientCall.admit (deleteIdentity (.plain (.str identity')) (.plain (.str tenant')) region) =
      (fun r => .deleteIdentity { r with identityName := identity', tenantId := tenant' }) <$>
        Gate.deleteIdentity (.plain (.str identity)) (.plain (.str tenant)) region := by
  have hread (i t : String) : Request.DeleteIdentity.readMembers
      [("identity_name", .str i), ("tenant_id", .str t), ("region", region.toValue)] =
        .accepted (Request.DeleteIdentity.mk i t) <*>
          Members.optional [("region", region.toValue)] "region" Reader.text := rfl
  simp only [Gate.deleteIdentity, ClientCall.admit, Gate.name_of_filled _ hi,
    Gate.name_of_filled _ hi', Gate.name_of_filled _ ht, Gate.name_of_filled _ ht', bind,
    Except.bind, hread]
  cases Members.optional [("region", region.toValue)] "region" Reader.text <;> rfl

theorem admit_removePolicy_respelled (policyName region : Argument) :
    ClientCall.admit
        (removePolicy (.plain (.str identity')) policyName (.plain (.str tenant')) region) =
      (fun r => .removePolicy { r with identityName := identity', tenantId := tenant' }) <$>
        Gate.removePolicy (.plain (.str identity)) policyName (.plain (.str tenant)) region := by
  have hread (i p t : String) : Request.RemovePolicy.readMembers
      [("identity_name", .str i), ("policy_name", .str p), ("tenant_id", .str t),
        ("region", region.toValue)] =
        .accepted (Request.RemovePolicy.mk i p t) <*>
          Members.optional [("region", region.toValue)] "region" Reader.text := rfl
  simp only [Gate.removePolicy, ClientCall.admit, Gate.name_of_filled _ hi,
    Gate.name_of_filled _ hi', Gate.name_of_filled _ ht, Gate.name_of_filled _ ht', bind,
    Except.bind, hread]
  cases Gate.name "policy_name" policyName with
  | error f => rfl
  | ok policy => cases Members.optional [("region", region.toValue)] "region" Reader.text <;> rfl

end

/-- Whether a policy may be attached does not depend on where. -/
theorem admit_attachInlinePolicy_respelled (hi : Text.blank identity = false)
    (hi' : Text.blank identity' = false) (r : Request.AttachInlinePolicy)
    (tenant resource : Option String) :
    ClientCall.admit (attachInlinePolicy (some { r with
        identityName := identity', tenantId := tenant, resource := resource })) =
      (fun r => .attachInlinePolicy { r with
        identityName := identity', tenantId := tenant, resource := resource }) <$>
        Gate.attachInlinePolicy (some { r with identityName := identity }) := by
  simp only [Gate.attachInlinePolicy, ClientCall.admit, Gate.request, bind, Except.bind,
    Text.filled?_of_not_blank hi, Text.filled?_of_not_blank hi']
  cases r.policyDocument <;> rfl

theorem admit_createIdentity_respelled (ht : Text.blank tenant = false)
    (ht' : Text.blank tenant' = false) (c : Gate.Creation) :
    ClientCall.admit (createIdentity { c with tenantId := .plain (.str tenant') }) =
      (fun r => .createIdentity { r with tenantId := tenant' }) <$>
        Gate.createIdentity { c with tenantId := .plain (.str tenant) } := by
  simp only [Gate.createIdentity, ClientCall.admit, Gate.name_of_filled _ ht,
    Gate.name_of_filled _ ht']
  cases Gate.name "identity_name" c.identityName with
  | error f => rfl
  | ok identity =>
  cases Gate.wrapped "trust_config" c.trustConfig with
  | error f => rfl
  | ok trust =>
  cases Gate.wrapped "options" c.options with
  | error f => rfl
  | ok options =>
    have hread (t : String) : Request.CreateIdentity.readMembers
        [("identity_name", .str identity), ("description", c.description.toValue),
          ("tenant_id", .str t), ("region", c.region.toValue), ("trust_config", trust),
          ("options", options)] =
        .accepted (Request.CreateIdentity.mk identity)
          <*> Members.optional [("description", c.description.toValue)] "description" Reader.text
          <*> .accepted t
          <*> Members.optional [("region", c.region.toValue)] "region" Reader.text
          <*> Members.optional [("trust_config", trust)] "trust_config" TrustConfiguration.read
          <*> Members.optional [("options", options)] "options" CreateOptions.read := rfl
    simp only [bind, Except.bind, hread]
    cases Members.optional [("description", c.description.toValue)] "description" Reader.text <;>
      cases Members.optional [("region", c.region.toValue)] "region" Reader.text <;>
      cases Members.optional [("trust_config", trust)] "trust_config" TrustConfiguration.read <;>
      cases Members.optional [("options", options)] "options" CreateOptions.read <;> rfl

end ClientCall

end CloudIdentity

namespace CloudIdentity.Gcp

open Document

/-! ## What the adapter makes of another spelling -/

/-- Two spellings of one account: of its project, and of the account in it. -/
structure SameAccount (tenant identity tenant' identity' : String) : Prop where
  project : projectId tenant = projectId tenant'
  email : serviceAccountEmail identity (projectId tenant') =
    serviceAccountEmail identity' (projectId tenant')

namespace SameAccount

variable {id project tenant identity tenant' identity' : String}

theorem of_spells (hbare : Text.contains '@' id = false)
    (hplain : Text.begins "projects/" project = false)
    (s : Spells id project identity tenant) (s' : Spells id project identity' tenant') :
    SameAccount tenant identity tenant' identity' where
  project := (s.tenant.projectId_eq hplain).trans (s'.tenant.projectId_eq hplain).symm
  email := by
    rw [s'.tenant.projectId_eq hplain, s.account.email_eq hbare, s'.account.email_eq hbare]

theorem accountName_eq (same : SameAccount tenant identity tenant' identity') :
    accountName identity (projectId tenant') = accountName identity' (projectId tenant') := by
  rw [accountName, accountName, same.email]

theorem getIdentity_eq (same : SameAccount tenant identity tenant' identity') (h : Handle)
    (r : Request.GetIdentity) :
    getIdentity h { r with identityName := identity, tenantId := tenant } =
      getIdentity h { r with identityName := identity', tenantId := tenant' } := by
  simp only [getIdentity]
  rw [same.project, same.accountName_eq]

theorem deleteIdentity_eq (same : SameAccount tenant identity tenant' identity') (h : Handle)
    (r : Request.DeleteIdentity) :
    deleteIdentity h { r with identityName := identity, tenantId := tenant } =
      deleteIdentity h { r with identityName := identity', tenantId := tenant' } := by
  simp only [deleteIdentity]
  rw [same.project, same.accountName_eq]

theorem removePolicy_eq (same : SameAccount tenant identity tenant' identity') (h : Handle)
    (r : Request.RemovePolicy) :
    removePolicy h { r with identityName := identity, tenantId := tenant } =
      removePolicy h { r with identityName := identity', tenantId := tenant' } := by
  simp only [removePolicy, same.project, same.email]

theorem getAttachedPolicies_eq (same : SameAccount tenant identity tenant' identity')
    (hi : Text.blank identity = false) (hi' : Text.blank identity' = false)
    (ht : Text.blank tenant = false) (ht' : Text.blank tenant' = false) (h : Handle)
    (r : Request.GetAttachedPolicies) :
    getAttachedPolicies h { r with identityName := some identity, tenantId := some tenant } =
      getAttachedPolicies h
        { r with identityName := some identity', tenantId := some tenant' } := by
  simp only [getAttachedPolicies, required, Text.filled?_of_not_blank hi,
    Text.filled?_of_not_blank hi', Text.filled?_of_not_blank ht, Text.filled?_of_not_blank ht',
    pure_bind, same.project, same.email]

end SameAccount

/-- A policy is attached to the account itself where the request has no other target. -/
theorem attachedMember_account {r : Request.AttachInlinePolicy} {id project identity : String}
    (hnamed : NamesAccount id project identity) (hid : Text.blank id = false)
    (hbare : Text.contains '@' id = false) (hidentity : r.identityName = some identity)
    (htarget : TargetsAccount id project r.resource) :
    attachedMember r project = pure (serviceAccountMember (accountAddress id project)) := by
  obtain ⟨_, document, tenant, region, resource⟩ := r
  obtain rfl : _ = some identity := hidentity
  cases htarget with
  | @blank _ h =>
    obtain rfl | ⟨target, rfl⟩ : resource = none ∨ ∃ target, resource = some target := by
      cases resource <;> simp
    all_goals
      simp only [attachedMember, h, required, Text.filled?_of_not_blank (hnamed.filled hid),
        pure_bind, hnamed.email_eq hbare]
  | address =>
    have haddress : NamesAccount id project (accountAddress id project) := .address
    have hfilled := haddress.filled hid
    simp only [attachedMember, Text.filled?_of_not_blank hfilled]

/-- Attachments to the account itself are the same, however it and its project are spelled. -/
theorem attachInlinePolicy_eq {id project tenant identity tenant' identity' : String}
    {resource resource' : Option String} (hid : Text.blank id = false)
    (hbare : Text.contains '@' id = false) (hproject : Text.blank project = false)
    (hplain : Text.begins "projects/" project = false) (s : Spells id project identity tenant)
    (s' : Spells id project identity' tenant') (target : TargetsAccount id project resource)
    (target' : TargetsAccount id project resource') (h : Handle)
    (r : Request.AttachInlinePolicy) :
    attachInlinePolicy h { r with
        identityName := identity, tenantId := tenant, resource := resource } =
      attachInlinePolicy h { r with
        identityName := identity', tenantId := tenant', resource := resource' } := by
  simp only [attachInlinePolicy, required, pure_bind,
    Text.filled?_of_not_blank (s.tenant.filled hproject), s.tenant.projectId_eq hplain,
    Text.filled?_of_not_blank (s'.tenant.filled hproject), s'.tenant.projectId_eq hplain]
  rw [attachedMember_account s.account hid hbare rfl target,
    attachedMember_account s'.account hid hbare rfl target']

/-- A creation does the same whichever spelling of the project it is given, but for its log. -/
theorem createIdentity_unlogged {tenant tenant' : String} (h : Handle) (r : Request.CreateIdentity)
    (hproject : projectId tenant = projectId tenant') :
    (createIdentity h { r with tenantId := tenant }).unlogged =
      (createIdentity h { r with tenantId := tenant' }).unlogged := by
  simp only [createIdentity, hproject]
  refine Action.unlogged_bind_congr ?_ fun email => rfl
  refine Action.unlogged_bind_congr rfl fun answer => ?_
  cases answer with
  | ok email => rfl
  | error f =>
    simp only
    split <;> rfl

/-! ## What the caller makes of another spelling -/

/-- Calls that are about one account, or are to create an account in one project, and differ in
nothing but how they spell its name and its project's. -/
inductive Respelled (id project : String) : ClientCall → ClientCall → Prop where
  | getIdentity {identity identity' tenant tenant' : String} {region : Argument}
      (spelling : Spells id project identity tenant)
      (spelling' : Spells id project identity' tenant') :
      Respelled id project
        (.getIdentity (.plain (.str identity)) (.plain (.str tenant)) region)
        (.getIdentity (.plain (.str identity')) (.plain (.str tenant')) region)
  | deleteIdentity {identity identity' tenant tenant' : String} {region : Argument}
      (spelling : Spells id project identity tenant)
      (spelling' : Spells id project identity' tenant') :
      Respelled id project
        (.deleteIdentity (.plain (.str identity)) (.plain (.str tenant)) region)
        (.deleteIdentity (.plain (.str identity')) (.plain (.str tenant')) region)
  | removePolicy {identity identity' tenant tenant' : String} {policyName region : Argument}
      (spelling : Spells id project identity tenant)
      (spelling' : Spells id project identity' tenant') :
      Respelled id project
        (.removePolicy (.plain (.str identity)) policyName (.plain (.str tenant)) region)
        (.removePolicy (.plain (.str identity')) policyName (.plain (.str tenant')) region)
  | getAttachedPolicies {identity identity' tenant tenant' : String}
      {r : Request.GetAttachedPolicies}
      (spelling : Spells id project identity tenant)
      (spelling' : Spells id project identity' tenant') :
      Respelled id project
        (.getAttachedPolicies (some { r with identityName := identity, tenantId := tenant }))
        (.getAttachedPolicies (some { r with identityName := identity', tenantId := tenant' }))
  | attachInlinePolicy {identity identity' tenant tenant' : String}
      {resource resource' : Option String} {r : Request.AttachInlinePolicy}
      (spelling : Spells id project identity tenant)
      (spelling' : Spells id project identity' tenant')
      (target : TargetsAccount id project resource)
      (target' : TargetsAccount id project resource') :
      Respelled id project
        (.attachInlinePolicy (some { r with
          identityName := identity, tenantId := tenant, resource := resource }))
        (.attachInlinePolicy (some { r with
          identityName := identity', tenantId := tenant', resource := resource' }))
  | createIdentity {tenant tenant' : String} {creation : Gate.Creation}
      (spelling : NamesProject project tenant) (spelling' : NamesProject project tenant') :
      Respelled id project
        (.createIdentity { creation with tenantId := .plain (.str tenant) })
        (.createIdentity { creation with tenantId := .plain (.str tenant') })

/-- Every name has one meaning: calls that differ in the spelling of a name cannot be told apart,
neither by the service, whatever it answers, nor by what the caller is told. -/
theorem names_have_one_meaning {id project : String}
    (hid : ∃ c ∈ id.toList, Text.isBlank c = false) (hbare : '@' ∉ id.toList)
    (hproject : ∃ c ∈ project.toList, Text.isBlank c = false)
    (hplain : ¬ "projects/".toList <+: project.toList) {c c' : ClientCall}
    (hcalls : Respelled id project c c') (h : Handle) {σ : Type} (service : Service interface σ)
    (state : σ) :
    let o : Opened interface Handle := ⟨adapter, h⟩
    (o.outcome service c state).Alike (o.outcome service c' state) := by
  intro o
  have hid := Text.not_blank_iff.mpr hid
  have hproject := Text.not_blank_iff.mpr hproject
  have hbare : Text.contains '@' id = false := by
    rwa [Text.contains, List.contains_eq_mem, decide_eq_false_iff_not]
  have hplain : Text.begins "projects/" project = false := by
    rwa [Text.begins, ← Bool.not_eq_true, List.isPrefixOf_iff_prefix]
  cases hcalls with
  | @getIdentity identity identity' tenant tenant' region spelling spelling' =>
    have same := SameAccount.of_spells hbare hplain spelling spelling'
    have hadmitted {i t : String} (s : Spells id project i t) :=
      ClientCall.admit_getIdentity_respelled hid (s.account.filled hid) hproject
        (s.tenant.filled hproject) region
    exact Opened.outcome_alike (hadmitted spelling) (hadmitted spelling') (fun _ => rfl)
      fun r => congrArg Action.unlogged (same.getIdentity_eq h r)
  | @deleteIdentity identity identity' tenant tenant' region spelling spelling' =>
    have same := SameAccount.of_spells hbare hplain spelling spelling'
    have hadmitted {i t : String} (s : Spells id project i t) :=
      ClientCall.admit_deleteIdentity_respelled hid (s.account.filled hid) hproject
        (s.tenant.filled hproject) region
    exact Opened.outcome_alike (hadmitted spelling) (hadmitted spelling') (fun _ => rfl)
      fun r => congrArg Action.unlogged (same.deleteIdentity_eq h r)
  | @removePolicy identity identity' tenant tenant' policyName region spelling spelling' =>
    have same := SameAccount.of_spells hbare hplain spelling spelling'
    have hadmitted {i t : String} (s : Spells id project i t) :=
      ClientCall.admit_removePolicy_respelled hid (s.account.filled hid) hproject
        (s.tenant.filled hproject) policyName region
    exact Opened.outcome_alike (hadmitted spelling) (hadmitted spelling') (fun _ => rfl)
      fun r => congrArg Action.unlogged (same.removePolicy_eq h r)
  | @getAttachedPolicies identity identity' tenant tenant' r spelling spelling' =>
    have same := SameAccount.of_spells hbare hplain spelling spelling'
    exact Opened.outcome_alike_of_admitted rfl rfl rfl <| congrArg Action.unlogged <|
      same.getAttachedPolicies_eq (spelling.account.filled hid) (spelling'.account.filled hid)
        (spelling.tenant.filled hproject) (spelling'.tenant.filled hproject) h r
  | @attachInlinePolicy identity identity' tenant tenant' resource resource' r spelling spelling'
      target target' =>
    have hadmitted {i : String} (hi : NamesAccount id project i) :=
      ClientCall.admit_attachInlinePolicy_respelled hid (hi.filled hid) r
    exact Opened.outcome_alike (hadmitted spelling.account _ _) (hadmitted spelling'.account _ _)
      (fun _ => rfl) fun r => congrArg Action.unlogged <|
        attachInlinePolicy_eq hid hbare hproject hplain spelling spelling' target target' h r
  | @createIdentity tenant tenant' creation spelling spelling' =>
    have hadmitted {t : String} (ht : NamesProject project t) :=
      ClientCall.admit_createIdentity_respelled hproject (ht.filled hproject) creation
    refine Opened.outcome_alike (hadmitted spelling) (hadmitted spelling') (fun _ => rfl)
      fun r => ?_
    exact createIdentity_unlogged h r
      ((spelling.projectId_eq hplain).trans (spelling'.projectId_eq hplain).symm)

/-- A role that was granted by one pair of names is taken away by the other. -/
theorem names_have_one_meaning_removal :
    let o : Opened interface Handle := ⟨adapter, true, true, none⟩
    let removal (identity tenant : String) : ClientCall :=
      .removePolicy (.plain (.str identity)) (.plain (.str "roles/viewer")) (.plain (.str tenant))
        (.plain .null)
    let short := removal "ci" "p"
    let full := removal "ci@p.iam.gserviceaccount.com" "projects/p"
    let viewer : Binding := ⟨"roles/viewer", ["serviceAccount:ci@p.iam.gserviceaccount.com"], none⟩
    let s : InMemory.Gcp.State := { policies := [("projects/p", some { bindings := [viewer] })] }
    (o.outcome InMemory.Gcp.service short s).Alike (o.outcome InMemory.Gcp.service full s) ∧
      (o.outcome InMemory.Gcp.service full s).state.policies = [("projects/p", some {})] := by
  intro o removal short full viewer s
  have short_full : Respelled "ci" "p" short full := .removePolicy ⟨.bare, .bare⟩ ⟨.address, .full⟩
  exact ⟨names_have_one_meaning ⟨'c', by decide, by decide⟩ (by decide) ⟨'p', by decide, by decide⟩
    (by decide) short_full ⟨true, true, none⟩ InMemory.Gcp.service s, rfl⟩

end CloudIdentity.Gcp

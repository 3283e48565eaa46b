import CloudIdentity.Proofs.Client.Existing
import CloudIdentity.Proofs.Gcp.Naming

/-!
Which project an operation addresses. Every call that an operation makes names the project of its
tenant, and so does every address that it derives for an account. A tenant that is missing or blank
is refused before any call is made; but the tenant is looked at as it was given, and a project that
is blank behind `projects/` passes.
-/

namespace CloudIdentity

open Document InMemory

variable {σ : Type}

/-! ## Tenants -/

/-- The text that an argument is, if it is one. -/
def Argument.text? : Argument → Option String
  | .plain (.str s) => some s
  | _ => none

theorem Argument.Names.text?_eq {argument : Argument} {s : String} (h : argument.Names s) :
    argument.text? = some s := by
  rw [h.1, Argument.text?]

namespace ClientCall

/-- The tenant that a call is given, if it is given a text for one. -/
def tenant? : ClientCall → Option String
  | createIdentity creation => creation.tenantId.text?
  | getIdentity _ tenantId _ => tenantId.text?
  | deleteIdentity _ tenantId _ => tenantId.text?
  | removePolicy _ _ tenantId _ => tenantId.text?
  | attachInlinePolicy request => request.bind Request.AttachInlinePolicy.tenantId
  | getInlinePolicyDetails request => request.bind Request.GetInlinePolicyDetails.tenantId
  | getAttachedPolicies request => request.bind Request.GetAttachedPolicies.tenantId

/-- Whether a call is of no use on Google Cloud without a tenant. -/
def needsTenant : ClientCall → Bool
  | getInlinePolicyDetails _ => false
  | _ => true

theorem Asks.tenant_eq {c : ClientCall} {a : AdapterCall} (h : c.Asks a) :
    a.tenant = c.tenant? := by
  cases h with
  | createIdentity _ tenant => exact tenant.text?_eq.symm
  | getIdentity _ tenant => exact tenant.text?_eq.symm
  | deleteIdentity _ tenant => exact tenant.text?_eq.symm
  | removePolicy _ _ tenant => exact tenant.text?_eq.symm
  | attachInlinePolicy | getInlinePolicyDetails | getAttachedPolicies => rfl

end ClientCall

namespace Gcp

/-- The tenants that stand for a project: its name behind `projects/`, and its name alone unless
that begins so itself. -/
inductive TenantOf (project : String) : String → Prop where
  | full : TenantOf project ("projects/" ++ project)
  | bare (h : Text.begins "projects/" project = false) : TenantOf project project

/-- Every tenant stands for one project, the one that the adapter addresses. -/
theorem tenantOf_iff {project tenant : String} :
    TenantOf project tenant ↔ projectId tenant = project := by
  constructor
  · intro h
    cases h with
    | full => exact Text.without_append "projects/" project
    | bare h => exact Text.without_of_not_begins h
  · rintro rfl
    cases h : Text.begins "projects/" tenant with
    | false =>
      rw [projectId, Text.without_of_not_begins h]
      exact .bare h
    | true =>
      obtain ⟨rest, hrest⟩ := List.isPrefixOf_iff_prefix.mp h
      obtain rfl : "projects/" ++ String.ofList rest = tenant := by
        refine String.toList_injective (String.toList_append.trans ?_)
        exact (congrArg _ String.toList_ofList).trans hrest
      rw [projectId, Text.without_append]
      exact .full

/-- A tenant that is not blank stands for a blank project only with `projects/` in front. -/
theorem TenantOf.filled_or_prefixed {project tenant : String} (h : TenantOf project tenant)
    (hfilled : Text.blank tenant = false) :
    Text.blank project = false ∨ tenant = "projects/" ++ project := by
  cases h with
  | full => exact Or.inr rfl
  | bare => exact Or.inl hfilled

/-! ## Addressed calls -/

/-- The address of the account that an identity is in a project. An identity with an `@` is an
address already; for any other one is derived. -/
inductive AddressOf (project : String) : String → String → Prop where
  | given {identity : String} (h : Text.contains '@' identity = true) :
    AddressOf project identity identity
  | derived {identity : String} (h : Text.contains '@' identity = false) :
    AddressOf project identity (identity ++ "@" ++ project ++ ".iam.gserviceaccount.com")

theorem addressOf_serviceAccountEmail (identity project : String) :
    AddressOf project identity (serviceAccountEmail identity project) := by
  unfold serviceAccountEmail
  split
  · next h => exact .given h
  · next h => exact .derived (Bool.eq_false_of_not_eq_true h)

/-- The service has told an address: that of a new account, or of one that it was asked for. -/
inductive Told (email : String) (past : List (Event interface)) : Prop where
  | made {project id display description : String}
    (h : .called (.createAccount project id display description) (.ok email) ∈ past)
  | found {name : String} (h : .called (.getAccount name) (.ok email) ∈ past)

/-- An edit that an operation makes of the policy of a project. The member is the account that the
caller has named as the resource, or else that of the identity. -/
inductive EditOf (project : String) : AdapterCall → Edit → Prop where
  | resource {r : Request.AttachInlinePolicy} {resource : String} (document : PolicyDocument)
    (h : r.resource = some resource) :
    EditOf project (.attachInlinePolicy r) (.merge document ("serviceAccount:" ++ resource))
  | attach {r : Request.AttachInlinePolicy} {id address : String} (document : PolicyDocument)
    (hid : r.identityName = some id) (haddress : AddressOf project id address) :
    EditOf project (.attachInlinePolicy r) (.merge document ("serviceAccount:" ++ address))
  | remove {r : Request.RemovePolicy} {address : String}
    (haddress : AddressOf project r.identityName address) :
    EditOf project (.removePolicy r) (.remove r.policyName ("serviceAccount:" ++ address))

/-- The calls that an operation may make in a project, after certain events. Accounts go by their
full names; their addresses are those of the identity, or have been told by the service. -/
inductive Within (project : String) (a : AdapterCall) (past : List (Event interface)) :
    Call → Prop where
  | create {id : String} (display description : String) (hid : a.identity = some id) :
    Within project a past (.createAccount project id display description)
  | find {id address : String} (hid : a.identity = some id)
    (haddress : AddressOf project id address) :
    Within project a past (.getAccount ("projects/" ++ project ++ "/serviceAccounts/" ++ address))
  | delete {id address : String} (hid : a.identity = some id)
    (haddress : AddressOf project id address) :
    Within project a past
      (.deleteAccount ("projects/" ++ project ++ "/serviceAccounts/" ++ address))
  | readAccount {email address : String} (version : Option Nat) (htold : Told email past)
    (haddress : AddressOf project email address) :
    Within project a past
      (.getPolicy .accounts ("projects/" ++ project ++ "/serviceAccounts/" ++ address) version)
  | writeAccount {email address : String} (policy : Policy) (htold : Told email past)
    (haddress : AddressOf project email address) :
    Within project a past
      (.setPolicy .accounts ("projects/" ++ project ++ "/serviceAccounts/" ++ address) policy)
  | readProject (version : Option Nat) :
    Within project a past (.getPolicy .projects ("projects/" ++ project) version)
  | writeProject {version : Option Nat} {read : Option Policy} {e : Edit}
    (hread : .called (.getPolicy .projects ("projects/" ++ project) version) (.ok read) ∈ past)
    (hedit : EditOf project a e) :
    Within project a past
      (.setPolicy .projects ("projects/" ++ project) ((read.getD {}).edit e).1)

variable {project : String} {a : AdapterCall} {past past' : List (Event interface)} {h : Handle}
  {c : ClientCall}

theorem Told.mono {email : String} (h : Told email past) (hsub : past ⊆ past') :
    Told email past' := by
  cases h with
  | made h => exact .made (hsub h)
  | found h => exact .found (hsub h)

theorem Within.mono {c : Call} (h : Within project a past c) (hsub : past ⊆ past') :
    Within project a past' c := by
  cases h with
  | create display description hid => exact .create display description hid
  | find hid haddress => exact .find hid haddress
  | delete hid haddress => exact .delete hid haddress
  | readAccount version htold haddress => exact .readAccount version (htold.mono hsub) haddress
  | writeAccount policy htold haddress => exact .writeAccount policy (htold.mono hsub) haddress
  | readProject version => exact .readProject version
  | writeProject hread hedit => exact .writeProject (hsub hread) hedit

/-! ## Operations -/

theorem follows_request {R : List (Event interface) → Call → Prop} (h : Handle) (client : Client)
    {c : Call} (hc : R past c) : (h.request client c).run.Follows R past := by
  rcases request_cases h client c with heq | heq
  · rw [heq]
    exact ⟨hc, fun _ => trivial⟩
  · rw [heq]
    trivial

theorem grantTrusted_within (h : Handle) {email : String} (trust : Option TrustConfiguration)
    (htold : Told email past) :
    (grantTrusted h email project trust).run.Follows (Within project a) past := by
  have haddress := addressOf_serviceAccountEmail email project
  unfold grantTrusted
  dsimp only
  split
  · trivial
  · refine Action.follows_bind (follows_request h .accounts (.readAccount none htold haddress))
      fun policy past' hsub => ?_
    split
    · exact Action.follows_bind
        (follows_request h .accounts (.writeAccount _ (htold.mono hsub) haddress))
        fun _ _ _ => trivial
    · trivial

theorem createIdentity_within (h : Handle) (r : Request.CreateIdentity) :
    (createIdentity h r).run.Follows (Within (projectId r.tenantId) (.createIdentity r)) [] := by
  have hgranting {email : String} {past : List (Event interface)} (htold : Told email past) :
      (granting h r email).run.Follows (Within (projectId r.tenantId) (.createIdentity r)) past :=
    Action.follows_bind (grantTrusted_within h r.trustConfig htold) fun _ _ _ => trivial
  cases hopen : h.accounts with
  | false =>
    simp only [createIdentity, createAccount, Handle.request, hopen]
    trivial
  | true =>
    rw [createIdentity_creating hopen, Program.creating]
    refine ⟨.create _ _ rfl, fun answer => ?_⟩
    cases answer with
    | ok email => exact hgranting (.made (List.mem_singleton_self _))
    | error f =>
      dsimp only
      split
      · simp only [Handle.request, hopen, if_true]
        refine Action.follows_request_bind (.find rfl (addressOf_serviceAccountEmail _ _))
          fun email => hgranting
            (.found (List.mem_append_right _ (List.mem_singleton_self _)))
      · trivial

namespace ProjectOperation

/-- An operation as an adapter takes it. -/
def call : ProjectOperation → AdapterCall
  | attach r => .attachInlinePolicy r
  | remove r => .removePolicy r

theorem editOf_of_edit? {op : ProjectOperation} {e : Edit} (h : op.edit? project = some e) :
    EditOf project op.call e := by
  cases op with
  | remove r =>
    obtain rfl := Option.some.inj h
    exact .remove (addressOf_serviceAccountEmail r.identityName project)
  | attach r =>
    obtain ⟨member, hmember, hrest⟩ := Option.bind_eq_some_iff.mp h
    obtain ⟨document, _, he⟩ := Option.bind_eq_some_iff.mp hrest
    obtain rfl := Option.some.inj he
    rw [member?] at hmember
    split at hmember
    · next resource hresource =>
      obtain rfl := Option.some.inj hmember
      exact .resource document (Text.filled?_eq_some_iff.mp hresource).1
    · obtain ⟨id, hid, rfl⟩ := Option.map_eq_some_iff.mp hmember
      exact .attach document (Text.filled?_eq_some_iff.mp hid).1
        (addressOf_serviceAccountEmail id project)

theorem program_within (h : Handle) (op : ProjectOperation) {tenant : String}
    (htenant : op.call.tenant = some tenant) :
    (op.program h).Follows (Within (projectId tenant) op.call) [] := by
  rcases op.program_cases h with ⟨f, heq⟩ | ⟨project, next, hproject, heq, hnext⟩
  · rw [heq]
    trivial
  · obtain rfl : projectId tenant = project := by
      cases op with
      | remove r =>
        have hgiven : some r.tenantId = some tenant := htenant
        exact Option.some.inj hgiven ▸ Option.some.inj hproject
      | attach r =>
        obtain ⟨tenant', hfilled, rfl⟩ := Option.map_eq_some_iff.mp hproject
        have hgiven := (Text.filled?_eq_some_iff.mp hfilled).1
        rw [Option.some.inj (htenant.symm.trans hgiven)]
    rw [heq, readThen]
    refine ⟨.readProject _, fun answer => ?_⟩
    cases answer with
    | error f => trivial
    | ok read =>
      have hcontinues := hnext (read.getD {})
      simp only
      generalize next (read.getD {}) = rest at hcontinues
      cases hcontinues with
      | refused f => trivial
      | unchanged _ _ => trivial
      | writes hedit =>
        refine ⟨.writeProject (List.mem_singleton_self _) (editOf_of_edit? hedit), fun answer => ?_⟩
        cases answer <;> trivial

end ProjectOperation

theorem follows_required {R : List (Event interface) → Call → Prop} (name : String)
    (text : Option String) : (required name text).run.Follows R past := by
  unfold required
  split <;> trivial

/-- Whatever the service answers, every call that an operation makes is one in the project of its
tenant. -/
theorem perform_within (h : Handle) {a : AdapterCall} {tenant : String}
    (htenant : a.tenant = some tenant) :
    (a.perform adapter h).run.Follows (Within (projectId tenant) a) [] := by
  cases a with
  | createIdentity r =>
    obtain rfl := Option.some.inj htenant
    exact createIdentity_within h r
  | getIdentity r =>
    obtain rfl := Option.some.inj htenant
    exact Action.follows_bind
      (follows_request h .accounts (.find rfl (addressOf_serviceAccountEmail _ _)))
      fun _ _ _ => trivial
  | deleteIdentity r =>
    obtain rfl := Option.some.inj htenant
    exact Action.follows_bind
      (follows_request h .accounts (.delete rfl (addressOf_serviceAccountEmail _ _)))
      fun _ _ _ => trivial
  | removePolicy r => exact ProjectOperation.program_within h (.remove r) htenant
  | attachInlinePolicy r => exact ProjectOperation.program_within h (.attach r) htenant
  | getInlinePolicyDetails r => trivial
  | getAttachedPolicies r =>
    cases hfilled : Text.filled? r.tenantId with
    | none =>
      simp only [AdapterCall.perform, adapter, getAttachedPolicies, required, hfilled]
      trivial
    | some tenant' =>
      obtain rfl : tenant' = tenant :=
        Option.some.inj ((Text.filled?_eq_some_iff.mp hfilled).1.symm.trans htenant)
      simp only [AdapterCall.perform, adapter, getAttachedPolicies, required, hfilled, pure_bind]
      refine Action.follows_bind (follows_required _ _) fun identity past _ => ?_
      exact Action.follows_bind
        (Action.follows_bind (follows_request h .projects (.readProject _)) fun _ _ _ => trivial)
        fun _ _ _ => trivial

/-- What a listing returns are the roles of the identity's account in the project. -/
theorem getAttachedPolicies_yields {r : Request.GetAttachedPolicies} {tenant : String}
    (htenant : r.tenantId = some tenant) :
    (getAttachedPolicies h r).run.Yields fun trace result => ∀ v, result = .ok v →
      ∃ id address version read, r.identityName = some id ∧
        AddressOf (projectId tenant) id address ∧
        .called (.getPolicy .projects ("projects/" ++ projectId tenant) version) (.ok read) ∈
          trace ∧
        v = .ofTexts ((read.getD {}).rolesOf ("serviceAccount:" ++ address)) := by
  cases hfilled : Text.filled? r.tenantId with
  | none =>
    simp only [getAttachedPolicies, required, hfilled]
    intro v hv
    cases hv
  | some tenant' =>
  obtain rfl : tenant' = tenant :=
    Option.some.inj ((Text.filled?_eq_some_iff.mp hfilled).1.symm.trans htenant)
  cases hidentity : Text.filled? r.identityName with
  | none =>
    simp only [getAttachedPolicies, required, hfilled, hidentity, pure_bind]
    intro v hv
    cases hv
  | some id =>
  cases hopen : h.projects with
  | false =>
    simp only [getAttachedPolicies, required, hfilled, hidentity, pure_bind,
      projectPolicy_closed hopen]
    intro v hv
    cases hv
  | true =>
    rw [ProjectOperation.getAttachedPolicies_run hopen hfilled hidentity, readThen]
    intro answer
    cases answer with
    | error f =>
      intro v hv
      cases hv
    | ok read =>
      intro v hv
      exact ⟨id, _, _, read, (Text.filled?_eq_some_iff.mp hidentity).1,
        addressOf_serviceAccountEmail id _, List.mem_singleton_self _, (Except.ok.inj hv).symm⟩

/-- An operation on an identity of a project makes a call if the clients are open. -/
theorem perform_calls (hprojects : h.projects = true) (haccounts : h.accounts = true)
    {id tenant : String} (htenant : a.tenant = some tenant)
    (htenantFilled : Text.blank tenant = false) (hid : a.identity = some id)
    (hidFilled : Text.blank id = false)
    (hneeds : a.operation ≠ .getInlinePolicyDetails) :
    ∃ c next, (a.perform adapter h).run = .call c next := by
  have hfilled {text : Option String} {s : String} (htext : text = some s)
      (hs : Text.blank s = false) : Text.filled? text = some s :=
    Text.filled?_eq_some_iff.mpr ⟨htext, hs⟩
  cases a with
  | createIdentity r =>
    simp only [AdapterCall.perform, adapter, createIdentity_creating haccounts, Program.creating]
    exact ⟨_, _, rfl⟩
  | getIdentity r =>
    simp only [AdapterCall.perform, adapter, getIdentity, Handle.request, haccounts, if_true]
    exact ⟨_, _, rfl⟩
  | deleteIdentity r =>
    simp only [AdapterCall.perform, adapter, deleteIdentity, Handle.request, haccounts, if_true]
    exact ⟨_, _, rfl⟩
  | removePolicy r =>
    simp only [AdapterCall.perform, adapter, ProjectOperation.removePolicy_run hprojects, readThen]
    exact ⟨_, _, rfl⟩
  | attachInlinePolicy r =>
    have hidentity := hfilled hid hidFilled
    obtain ⟨member, hmember⟩ : ∃ member,
        (ProjectOperation.attach r).member? (projectId tenant) = some member := by
      rw [ProjectOperation.member?]
      split
      · exact ⟨_, rfl⟩
      · exact ⟨_, congrArg (Option.map _) hidentity⟩
    simp only [AdapterCall.perform, adapter,
      ProjectOperation.attachInlinePolicy_run hprojects (hfilled htenant htenantFilled) hmember,
      readThen]
    exact ⟨_, _, rfl⟩
  | getInlinePolicyDetails r => exact absurd rfl hneeds
  | getAttachedPolicies r =>
    simp only [AdapterCall.perform, adapter, ProjectOperation.getAttachedPolicies_run hprojects
      (hfilled htenant htenantFilled) (hfilled hid hidFilled), readThen]
    exact ⟨_, _, rfl⟩

/-! ## Operations of the client -/

theorem filled?_of_names {argument : Argument} {s : String} (h : argument.Names s) :
    Text.filled? argument.text? = some s := by
  rw [h.text?_eq]
  exact Text.filled?_of_not_blank (Text.not_blank_iff.mpr h.2)

/-- Without a tenant that is filled, an operation that the gate has let pass fails by itself. -/
theorem perform_unfilled (h : Handle) (ha : c.Asks a) (htenant : Text.filled? c.tenant? = none) :
    ∃ f : Failure, (a.perform adapter h).run = .done (.error f) ∧
      (c.needsTenant = true → f.IsOfKind .invalidArgument) := by
  cases ha with
  | createIdentity _ tenant => cases (filled?_of_names tenant).symm.trans htenant
  | getIdentity _ tenant => cases (filled?_of_names tenant).symm.trans htenant
  | deleteIdentity _ tenant => cases (filled?_of_names tenant).symm.trans htenant
  | removePolicy _ _ tenant => cases (filled?_of_names tenant).symm.trans htenant
  | @attachInlinePolicy r =>
    have hunfilled : Text.filled? r.tenantId = none := htenant
    simp only [AdapterCall.perform, adapter, attachInlinePolicy, required, hunfilled]
    exact ⟨_, rfl, fun _ => Failure.isOfKind_ofKind _ _⟩
  | getInlinePolicyDetails => exact ⟨_, rfl, fun hneeds => absurd hneeds Bool.false_ne_true⟩
  | getAttachedPolicies r =>
    have hunfilled : Text.filled? r.tenantId = none := htenant
    simp only [AdapterCall.perform, adapter, getAttachedPolicies, required, hunfilled]
    exact ⟨_, rfl, fun _ => Failure.isOfKind_ofKind _ _⟩

/-- Without a tenant that is filled, an operation makes no call, and one that needs a tenant is an
invalid argument. -/
theorem outcome_unfilled (h : Handle) (service : Service interface σ) (state : σ)
    (htenant : Text.filled? c.tenant? = none) :
    let run := (Opened.mk adapter h).outcome service c state
    Report.calls run.trace = [] ∧ (c.needsTenant = true →
      ∃ f : Failure, f.IsOfKind .invalidArgument ∧ run.result = .error f) := by
  by_cases hasks : ∃ a, c.Asks a
  · obtain ⟨a, ha⟩ := hasks
    obtain ⟨f, hrun, hkind⟩ := perform_unfilled h ha htenant
    have hperformed : (Opened.mk adapter h).performed service a state = ⟨.error f, state, []⟩ := by
      rw [Opened.performed, hrun]
      rfl
    have hadmitted := ClientCall.admit_eq_ok_iff.mpr ha
    refine ⟨?_, fun hneeds => ⟨f, hkind hneeds, ?_⟩⟩
    · rw [Opened.outcome_admitted hadmitted, Opened.calls_carryOut, hperformed]
      rfl
    · rw [Opened.outcome_result hadmitted, hperformed, AdapterCall.told,
        Failure.toCanonical_of_isCanonical (hkind hneeds).isCanonical]
  · obtain ⟨f, hkind, hrefused⟩ := ClientCall.refused_of_not_asks fun a ha => hasks ⟨a, ha⟩
    rw [Opened.outcome_refused hrefused]
    exact ⟨rfl, fun _ => ⟨f, hkind, rfl⟩⟩

/-- A call that is made has been asked for, and is one in the project of the tenant. -/
theorem outcome_within (h : Handle) (service : Service interface σ) (state : σ) {tenant : String}
    (htenant : c.tenant? = some tenant) :
    let run := (Opened.mk adapter h).outcome service c state
    ∀ call answer, .called call answer ∈ run.trace →
      ∃ a, c.Asks a ∧ Within (projectId tenant) a run.trace call := by
  intro run call answer hcalled
  have hasks : ∃ a, c.Asks a := by
    by_contra hnone
    obtain ⟨f, _, hrefused⟩ := ClientCall.refused_of_not_asks fun a ha => hnone ⟨a, ha⟩
    simp only [run, Opened.outcome_refused hrefused] at hcalled
    cases hcalled
  obtain ⟨a, ha⟩ := hasks
  have hadmitted := ClientCall.admit_eq_ok_iff.mpr ha
  have hperformed := (Opened.called_mem_outcome_iff hadmitted).mp hcalled
  obtain ⟨before, after, htrace⟩ := List.append_of_mem hperformed
  have hwithin := (perform_within h (ha.tenant_eq.trans htenant)).of_run htrace
  refine ⟨a, ha, hwithin.mono fun event hevent => ?_⟩
  simp only [run, Opened.outcome_admitted hadmitted, Opened.carryOut_run]
  refine List.mem_cons_of_mem _ (List.mem_append_left _ ?_)
  rw [htrace]
  exact List.mem_append_left _ hevent

/-- What a listing returns are the roles of the identity's account in the project of the tenant. -/
theorem outcome_listed {service : Service interface σ} {state : σ} {tenant : String}
    {r : Request.GetAttachedPolicies} {v : Value} (ha : c.Asks (.getAttachedPolicies r))
    (htenant : c.tenant? = some tenant) :
    let run := (Opened.mk adapter h).outcome service c state
    run.result = .ok v → ∃ id address version read, r.identityName = some id ∧
      AddressOf (projectId tenant) id address ∧
      .called (.getPolicy .projects ("projects/" ++ projectId tenant) version) (.ok read) ∈
        run.trace ∧
      v = .ofTexts ((read.getD {}).rolesOf ("serviceAccount:" ++ address)) := by
  intro run hresult
  have hadmitted := ClientCall.admit_eq_ok_iff.mpr ha
  have hyields :=
    (getAttachedPolicies_yields (h := h) (ha.tenant_eq.trans htenant)).run service state
  simp only [run, Opened.outcome_result hadmitted] at hresult
  simp only [run, Opened.called_mem_outcome_iff hadmitted]
  cases hperformed :
      ((Opened.mk adapter h).performed service (.getAttachedPolicies r) state).result with
  | ok answer =>
    rw [hperformed] at hresult
    obtain rfl : answer = v := Except.ok.inj hresult
    exact hyields answer hperformed
  | error f =>
    rw [hperformed, AdapterCall.told] at hresult
    split at hresult <;> cases hresult

/-- Without a tenant that is filled, no call is made, and an operation that needs one is an invalid
argument. With one, every call that an operation makes is one in the project that the tenant stands
for, and a listing returns the roles of the identity's account there; and that project is not blank,
unless the tenant is a blank project with `projects/` in front. For such a tenant as for any other
that is not blank, a call is made if the other arguments are in order and the clients are open. -/
theorem project_filled_unless_prefixed (h : Handle) (service : Service interface σ) (c : ClientCall)
    (state : σ) :
    let run := (Opened.mk adapter h).outcome service c state
    (Text.filled? c.tenant? = none → Report.calls run.trace = [] ∧ (c.needsTenant = true →
      ∃ f : Failure, f.IsOfKind .invalidArgument ∧ run.result = .error f)) ∧
    (∀ tenant project, c.tenant? = some tenant → TenantOf project tenant →
      (∀ call answer, .called call answer ∈ run.trace →
        (∃ a, c.Asks a ∧ Within project a run.trace call) ∧
        ((∃ ch ∈ project.toList, Text.isBlank ch = false) ∨ tenant = "projects/" ++ project)) ∧
      ∀ r v, c.Asks (.getAttachedPolicies r) → run.result = .ok v →
        ∃ id address version read, r.identityName = some id ∧ AddressOf project id address ∧
          .called (.getPolicy .projects ("projects/" ++ project) version) (.ok read) ∈ run.trace ∧
          v = .ofTexts ((read.getD {}).rolesOf ("serviceAccount:" ++ address))) ∧
    ∀ a id tenant, c.Asks a → a.operation ≠ .getInlinePolicyDetails → a.identity = some id →
      Text.blank id = false → c.tenant? = some tenant → Text.blank tenant = false →
      h.projects = true → h.accounts = true → Report.calls run.trace ≠ [] := by
  intro run
  refine ⟨outcome_unfilled h service state, fun tenant project htenant hproject => ?_, ?_⟩
  · obtain rfl := tenantOf_iff.mp hproject
    refine ⟨fun call answer hcalled => ⟨?_, ?_⟩, fun r v ha => outcome_listed ha htenant⟩
    · exact outcome_within h service state htenant call answer hcalled
    · rw [← Text.not_blank_iff]
      refine hproject.filled_or_prefixed (Bool.eq_false_iff.mpr fun hblank => ?_)
      have hunfilled : Text.filled? c.tenant? = none := by
        rw [htenant, Text.filled?, if_pos hblank]
      have hcall := Program.called_mem_calls hcalled
      rw [(outcome_unfilled h service state hunfilled).1] at hcall
      cases hcall
  · intro a id tenant ha hoperation hid hidFilled htenant htenantFilled hprojects haccounts
    have hadmitted := ClientCall.admit_eq_ok_iff.mpr ha
    obtain ⟨call, next, hrun⟩ := perform_calls hprojects haccounts (ha.tenant_eq.trans htenant)
      htenantFilled hid hidFilled hoperation
    simp only [run, Opened.outcome_admitted hadmitted, Opened.calls_carryOut, Opened.performed,
      hrun, Program.run]
    exact List.cons_ne_nil _ _

/-- A tenant with `projects/` in front: the policy of the project is read and written, for the
account that the identity is in that project. -/
theorem project_filled_unless_prefixed_attached :
    let service : Service interface Unit :=
      { answer := fun c state =>
          match c with
          | .getPolicy .. => (.ok none, state)
          | .setPolicy .. => (.ok (), state)
          | _ => (.error (Failure.googleApi .notFound "no" none), state) }
    let r : Request.AttachInlinePolicy :=
      { identityName := some "ci", tenantId := some "projects/p"
        policyDocument := some
          { statements := [{ effect := .allow, actions := ["roles/viewer"] }] } }
    let c : ClientCall := .attachInlinePolicy (some r)
    let written : Policy :=
      { bindings := [⟨"roles/viewer", ["serviceAccount:ci@p.iam.gserviceaccount.com"], none⟩] }
    let run := (Opened.mk adapter ⟨true, true, none⟩).outcome service c ()
    c.Asks (.attachInlinePolicy r) ∧ TenantOf "p" "projects/p" ∧
    .called (.setPolicy .projects "projects/p" written) (.ok ()) ∈ run.trace ∧
    Within "p" (.attachInlinePolicy r) run.trace (.setPolicy .projects "projects/p" written) ∧
    Report.calls run.trace ≠ [] := by
  intro service r c written run
  have hasks : c.Asks (.attachInlinePolicy r) := .attachInlinePolicy rfl ⟨'c', by decide, rfl⟩ rfl
  have hcalled : .called (.setPolicy .projects "projects/p" written) (.ok ()) ∈ run.trace :=
    List.mem_cons_of_mem _ (List.mem_cons_of_mem _ List.mem_cons_self)
  obtain ⟨_, hwithin, hcalls⟩ := project_filled_unless_prefixed ⟨true, true, none⟩ service c ()
  obtain ⟨⟨a, ha, hcall⟩, _⟩ := (hwithin "projects/p" "p" rfl .full).1 _ _ hcalled
  rw [ha.unique hasks] at hcall
  exact ⟨hasks, .full, hcalled, hcall,
    hcalls _ "ci" "projects/p" hasks nofun rfl (by decide) rfl (by decide) rfl rfl⟩

/-- An account of the project without a name is asked for, by an address that is derived with it. -/
theorem blank_project_called :
    let service : Service interface Unit :=
      { answer := fun c state =>
          match c with
          | .getAccount _ => (.ok "ci@elsewhere", state)
          | _ => (.error (Failure.googleApi .notFound "no" none), state) }
    let c : ClientCall :=
      .getIdentity (.plain (.str "ci")) (.plain (.str "projects/")) (.plain .null)
    let run := (Opened.mk adapter ⟨true, true, none⟩).outcome service c ()
    c.tenant? = some "projects/" ∧ TenantOf "" "projects/" ∧ Text.blank "" = true ∧
    Report.calls run.trace =
      [.getAccount "projects//serviceAccounts/ci@.iam.gserviceaccount.com"] ∧
    run.result = .ok (.str "ci@elsewhere") := by
  exact ⟨rfl, .full, rfl, rfl, rfl⟩

end Gcp
end CloudIdentity

import CloudIdentity.Failure.Reported
import CloudIdentity.Proofs.Client.Admission
import CloudIdentity.Proofs.Client.Outcome
import CloudIdentity.Proofs.Gcp.ProjectPolicy
import CloudIdentity.Proofs.Service.Calls
import Mathlib.Logic.Function.Basic

/-!
Bindings under a condition, at a service that shows them only to a reader who asks for the version
of policies that has them. The operations on the policy of a project ask for that version, so
whatever they write, every binding under a condition is kept. The grant to trusted principals asks
for no version: where it writes the policy of an account, it writes what it was shown, and no
binding under a condition is left.
-/

namespace CloudIdentity.Gcp

open Document

variable {σ : Type} {service : Service interface σ} {h : Handle}

/-! ## A service with versions of policies -/

/-- What a reader is shown who asks for a version: all bindings, or those under no condition. -/
def shown (version : Option Nat) (bindings : List Binding) : List Binding :=
  if version = some 3 then bindings else bindings.filter fun b => !b.conditional

theorem filter_shown (bindings : List Binding) :
    (shown none bindings).filter Binding.conditional = [] := by
  rw [shown, if_neg nofun, List.filter_filter]
  simp

/-- A grant finds the same to do, whether or not it is shown the bindings under a condition. -/
theorem settled_shown_iff {bindings : List Binding} {role member : String} :
    Settled (shown none bindings) role member ↔ Settled bindings role member := by
  have hfind : (shown none bindings).find? (fun a => a.grants role) =
      bindings.find? (fun a => a.grants role) := by
    rw [shown, if_neg nofun, List.find?_filter]
    congr 1
    funext b
    rw [Bool.eq_iff_iff]
    cases hb : b.condition <;> simp [Binding.conditional, Binding.grants, hb]
  rw [Settled, Settled, hfind]

/-- The calls that neither replace a policy nor delete what has one. -/
def Call.Sparing : Call → Prop
  | .setPolicy .. | .deleteAccount _ => False
  | _ => True

/-- A service that keeps bindings for every resource of its two clients. A read tells what is
stored, but for the bindings under a condition unless version 3 is asked for; a write replaces all
that is stored for its resource, or it fails and changes nothing. Any call may fail. -/
structure VersionedPolicies {σ : Type} (service : Service interface σ) where
  bindings : σ → Client × String → List Binding
  read : ∀ state client resource version policy,
    (service.answer (.getPolicy client resource version) state).1 = .ok policy →
      (policy.getD {}).bindings = shown version (bindings state (client, resource))
  write : ∀ state client resource sent,
    (service.answer (.setPolicy client resource sent) state).1 = .ok () →
      bindings (service.answer (.setPolicy client resource sent) state).2 =
        Function.update (bindings state) (client, resource) sent.bindings
  refuse : ∀ state client resource sent f,
    (service.answer (.setPolicy client resource sent) state).1 = .error f →
      bindings (service.answer (.setPolicy client resource sent) state).2 = bindings state
  keep : ∀ c, c.Sparing → ∀ state, bindings (service.answer c state).2 = bindings state

namespace VersionedPolicies

variable {store : VersionedPolicies service} {state state' : σ}

/-- The bindings under a condition that are stored for a resource. -/
def conditional (store : VersionedPolicies service) (state : σ) (resource : Client × String) :
    List Binding :=
  (store.bindings state resource).filter Binding.conditional

/-- No binding under a condition differs between two states. -/
def Spared (store : VersionedPolicies service) (state state' : σ) : Prop :=
  ∀ resource, store.conditional state' resource = store.conditional state resource

theorem spared_of_same (h : store.bindings state' = store.bindings state) :
    store.Spared state state' := by
  intro resource
  rw [conditional, conditional, h]

theorem Spared.trans {state'' : σ} (h : store.Spared state state')
    (h' : store.Spared state' state'') : store.Spared state state'' :=
  fun resource => (h' resource).trans (h resource)

/-! ## Operations on the policy of a project -/

/-- To write a policy back spares the bindings under a condition, if they are the stored ones. -/
theorem writeBack_spares {project : String} {sent : Policy}
    (hsent : sent.bindings.filter Binding.conditional =
      store.conditional state (.projects, projectName project)) :
    store.Spared state ((writeBack project sent).run service state).state := by
  have hwrite := store.write state .projects (projectName project) sent
  have hrefuse := store.refuse state .projects (projectName project) sent
  simp only [writeBack, Program.run]
  cases hanswer : (service.answer (.setPolicy .projects (projectName project) sent) state).1 with
  | error f => exact spared_of_same (hrefuse f hanswer)
  | ok done =>
    intro resource
    simp only [Program.run, conditional, hwrite hanswer]
    by_cases hresource : resource = (.projects, projectName project)
    · subst hresource
      rw [Function.update_self, hsent, conditional]
    · rw [Function.update_of_ne hresource]

theorem program_spares (store : VersionedPolicies service) (h : Handle) (op : ProjectOperation)
    (state : σ) : store.Spared state ((op.program h).run service state).state := by
  rcases op.program_cases h with ⟨f, heq⟩ | ⟨project, next, _, heq, hcontinues⟩
  · rw [heq]
    exact spared_of_same rfl
  rw [heq]
  let call : Call := .getPolicy .projects (projectName project) (some requestedPolicyVersion)
  have hread := store.read state .projects (projectName project) (some requestedPolicyVersion)
  have hkeep : store.bindings (service.answer call state).2 = store.bindings state :=
    store.keep call trivial state
  simp only [readThen, Program.run]
  cases hanswer : (service.answer call state).1 with
  | error f => exact spared_of_same hkeep
  | ok policy =>
    refine (spared_of_same hkeep).trans ?_
    have hnext := hcontinues (policy.getD {})
    simp only
    generalize next (policy.getD {}) = rest at hnext
    cases hnext with
    | refused f => exact spared_of_same rfl
    | unchanged _ _ => exact spared_of_same rfl
    | @writes e _ =>
      -- The read has asked for version 3, so the edited policy is all that is stored.
      apply writeBack_spares
      rw [Policy.edit_conditional_eq, hread policy hanswer, conditional, hkeep]
      rfl

/-! ## The grant to trusted principals -/

theorem calls_request (h : Handle) (client : Client) {c : Call} (hc : c.Sparing) :
    (h.request client c).run.Calls Call.Sparing := by
  rcases request_cases h client c with heq | heq
  · rw [heq]
    exact ⟨hc, fun _ => trivial⟩
  · rw [heq]
    trivial

/-- Whether an account is made or found, no policy is written. -/
theorem calls_createAccount (h : Handle) (r : Request.CreateIdentity) (project : String) :
    (createAccount h r project).run.Calls Call.Sparing := by
  refine Action.calls_bind (Action.calls_attempt (calls_request h _ trivial)) fun result => ?_
  cases result with
  | ok email => trivial
  | error f =>
    simp only
    split
    · exact Action.calls_bind trivial fun _ => calls_request h _ trivial
    · trivial

/-- What a grant to trusted principals has done that wrote a policy: one of them was not granted
the role of an account, and now the account has no binding under a condition. All other resources
are as they were. -/
structure Stripped (store : VersionedPolicies service) (account : String)
    (trust : Option TrustConfiguration) (state state' : σ) : Prop where
  granted : ∃ config, trust = some config ∧ ∃ member ∈ trustedMembers config,
    ¬ Settled (store.bindings state (.accounts, account)) serviceAccountUserRole member
  none_left : store.conditional state' (.accounts, account) = []
  others : ∀ resource, resource ≠ (.accounts, account) →
    store.bindings state' resource = store.bindings state resource

/-- A request is answered by the service, or it fails and leaves the service alone. -/
theorem request_run_cases (h : Handle) (client : Client) (c : Call) (service : Service interface σ)
    (state : σ) :
    let run := (h.request client c).run.run service state
    (run.result = (service.answer c state).1 ∧ run.state = (service.answer c state).2) ∨
      ∃ f, run.result = .error f ∧ run.state = state := by
  rcases request_cases h client c with heq | heq
  · rw [heq]
    exact Or.inl ⟨rfl, rfl⟩
  · rw [heq]
    exact Or.inr ⟨_, rfl, rfl⟩

theorem request_getPolicy_run (store : VersionedPolicies service) (h : Handle) (client : Client)
    (resource : String) (version : Option Nat) (state : σ) :
    let run := (h.request client (.getPolicy client resource version)).run.run service state
    store.bindings run.state = store.bindings state ∧ ∀ policy, run.result = .ok policy →
      (policy.getD {}).bindings = shown version (store.bindings state (client, resource)) := by
  intro run
  rcases request_run_cases h client (.getPolicy client resource version) service state with
    ⟨hresult, hstate⟩ | ⟨f, hresult, hstate⟩
  · refine ⟨?_, fun policy hpolicy => store.read _ _ _ _ _ (hresult.symm.trans hpolicy)⟩
    rw [hstate, store.keep (.getPolicy client resource version) trivial]
  · refine ⟨by rw [hstate], fun policy hpolicy => ?_⟩
    cases hresult.symm.trans hpolicy

theorem request_setPolicy_run (store : VersionedPolicies service) (h : Handle) (client : Client)
    (resource : String) (sent : Policy) (state : σ) :
    let run := (h.request client (.setPolicy client resource sent)).run.run service state
    (∀ done, run.result = .ok done → store.bindings run.state =
      Function.update (store.bindings state) (client, resource) sent.bindings) ∧
    ∀ f, run.result = .error f → store.bindings run.state = store.bindings state := by
  intro run
  rcases request_run_cases h client (.setPolicy client resource sent) service state with
    ⟨hresult, hstate⟩ | ⟨f, hresult, hstate⟩
  · refine ⟨fun done hdone => ?_, fun f hf => ?_⟩
    · rw [hstate, store.write _ _ _ _ (hresult.symm.trans hdone)]
    · rw [hstate, store.refuse _ _ _ _ f (hresult.symm.trans hf)]
  · refine ⟨fun done hdone => ?_, fun _ _ => by rw [hstate]⟩
    cases hresult.symm.trans hdone

/-- The policy that a grant to trusted principals writes, made from what it was shown. -/
theorem stripped_of_update {account : String} {config : TrustConfiguration} {policy : Policy}
    (hshown : policy.bindings = shown none (store.bindings state (.accounts, account)))
    (hchanged : (policy.addMembers serviceAccountUserRole (trustedMembers config)).2 = true)
    (hupdate : store.bindings state' = Function.update (store.bindings state) (.accounts, account)
      (policy.addMembers serviceAccountUserRole (trustedMembers config)).1.bindings) :
    store.Stripped account (some config) state state' where
  granted := by
    refine ⟨config, rfl, ?_⟩
    by_contra hnone
    push Not at hnone
    have hsettled : ∀ pair ∈ (trustedMembers config).map fun m => (serviceAccountUserRole, m),
        Settled policy.bindings pair.1 pair.2 := by
      intro pair hpair
      obtain ⟨member, hmember, rfl⟩ := List.mem_map.mp hpair
      rw [hshown, settled_shown_iff]
      exact hnone member hmember
    rw [Policy.addMembers_eq_addAll, Policy.addAll_of_settled hsettled] at hchanged
    cases hchanged
  none_left := by
    rw [conditional, hupdate, Function.update_self, Policy.addMembers_eq_addAll,
      Policy.addAll_conditional_eq, hshown, filter_shown]
  others resource hresource := by rw [hupdate, Function.update_of_ne hresource]

theorem Stripped.of_same {account : String} {trust : Option TrustConfiguration} {after : σ}
    (h : store.Stripped account trust state' after)
    (hsame : store.bindings state' = store.bindings state) :
    store.Stripped account trust state after where
  granted := hsame ▸ h.granted
  none_left := h.none_left
  others resource hresource := (h.others resource hresource).trans (congrFun hsame resource)

/-- How a grant to members goes on once the policy has been read. -/
def writeGranted (h : Handle) (account : String) (members : List String) (policy : Option Policy) :
    Action interface Unit := do
  let change := (policy.getD {}).addMembers serviceAccountUserRole members
  if change.2 then
    let _ : Unit ← h.request .accounts (.setPolicy .accounts account change.1)

theorem grantTrusted_eq (h : Handle) (email project : String) (config : TrustConfiguration) :
    grantTrusted h email project (some config) =
      if (trustedMembers config).isEmpty then pure ()
      else h.request .accounts (.getPolicy .accounts (accountName email project) none) >>=
        writeGranted h (accountName email project) (trustedMembers config) := rfl

theorem writeGranted_effect {account : String} {config : TrustConfiguration}
    {policy : Option Policy}
    (hshown : (policy.getD {}).bindings = shown none (store.bindings state (.accounts, account)))
    (h : Handle) :
    let run := (writeGranted h account (trustedMembers config) policy).run.run service state
    store.bindings run.state = store.bindings state ∨
      run.result = .ok () ∧ store.Stripped account (some config) state run.state := by
  intro run
  let sent := (policy.getD {}).addMembers serviceAccountUserRole (trustedMembers config)
  let write := h.request .accounts (.setPolicy .accounts account sent.1)
  have heq : writeGranted h account (trustedMembers config) policy =
      if sent.2 then write >>= fun _ => pure () else pure () := rfl
  simp only [run, heq]
  split
  · next hchanged =>
    obtain ⟨hwritten, hrefused⟩ := store.request_setPolicy_run h .accounts account sent.1 state
    rcases Action.run_bind_cases write (fun _ => pure ()) service state with
      ⟨e, hfirst, _, hstate⟩ | ⟨done, hfirst, hresult, hstate⟩
    · exact Or.inl (by rw [hstate, hrefused e hfirst])
    · refine Or.inr ⟨hresult, stripped_of_update hshown hchanged ?_⟩
      rw [hstate]
      exact hwritten done hfirst
  · exact Or.inl rfl

/-- A grant to trusted principals leaves every policy as it is, or it returns and has stripped that
of the account. -/
theorem grantTrusted_effect (store : VersionedPolicies service) (h : Handle)
    (email project : String) (trust : Option TrustConfiguration) (state : σ) :
    let run := (grantTrusted h email project trust).run.run service state
    store.bindings run.state = store.bindings state ∨
      run.result = .ok () ∧ store.Stripped (accountName email project) trust state run.state := by
  cases trust with
  | none => exact Or.inl rfl
  | some config =>
    simp only [grantTrusted_eq]
    split
    · exact Or.inl rfl
    let account := accountName email project
    let read := h.request .accounts (.getPolicy .accounts account none)
    obtain ⟨hkept, hshown⟩ := store.request_getPolicy_run h .accounts account none state
    rcases Action.run_bind_cases read (writeGranted h account (trustedMembers config)) service state
      with ⟨e, _, _, hstate⟩ | ⟨policy, hpolicy, hresult, hstate⟩
    · exact Or.inl (by rw [hstate, hkept])
    have hread := hshown policy hpolicy
    rw [← hkept] at hread
    rw [hresult, hstate]
    rcases writeGranted_effect hread h with hsame | ⟨hreturned, hstripped⟩
    · exact Or.inl (hsame.trans hkept)
    · exact Or.inr ⟨hreturned, hstripped.of_same hkept⟩

theorem createIdentity_effect (store : VersionedPolicies service) (h : Handle)
    (r : Request.CreateIdentity) (state : σ) :
    let run := (createIdentity h r).run.run service state
    store.bindings run.state = store.bindings state ∨ ∃ email, run.result = .ok (.str email) ∧
      store.Stripped (accountName email (projectId r.tenantId)) r.trustConfig state run.state := by
  let project := projectId r.tenantId
  let grant (email : String) : Action interface Value :=
    grantTrusted h email project r.trustConfig >>= fun _ => pure (.str email)
  have heq : createIdentity h r = createAccount h r project >>= grant := rfl
  have hkept : store.bindings ((createAccount h r project).run.run service state).state =
      store.bindings state :=
    (calls_createAccount h r project).run_keeps
      (I := fun state' => store.bindings state' = store.bindings state)
      (fun c hc before hbefore => (store.keep c hc before).trans hbefore) rfl
  simp only [heq]
  rcases Action.run_bind_cases (createAccount h r project) grant service state with
    ⟨e, _, _, hstate⟩ | ⟨email, _, hresult, hstate⟩
  · exact Or.inl (by rw [hstate, hkept])
  generalize ((createAccount h r project).run.run service state).state = before at *
  rw [hresult, hstate]
  have heffect := grantTrusted_effect store h email project r.trustConfig before
  rcases Action.run_bind_cases (grantTrusted h email project r.trustConfig)
    (fun _ => pure (Value.str email)) service before with
    ⟨e, hfirst, _, hlast⟩ | ⟨_, _, hreturned, hlast⟩
  · rcases heffect with hsame | ⟨hok, _⟩
    · exact Or.inl (by rw [hlast, hsame, hkept])
    · cases hfirst.symm.trans hok
  · rcases heffect with hsame | ⟨_, hstripped⟩
    · exact Or.inl ((congrArg store.bindings hlast).trans (hsame.trans hkept))
    · refine Or.inr ⟨email, hreturned, ?_⟩
      rw [hlast]
      exact hstripped.of_same hkept

/-! ## Operations of the client -/

/-- An operation spares what its request spares once the gate has made one. -/
theorem outcome_spares {α : Type} {gate : Except Failure α} {make : α → AdapterCall}
    {c : ClientCall} (hgate : c.admit = make <$> gate)
    (hmade : ∀ r, store.Spared state
      ((Opened.mk adapter h).performed service (make r) state).state) :
    store.Spared state ((Opened.mk adapter h).outcome service c state).state := by
  rcases Opened.admit_cases hgate with ⟨f, hrefused⟩ | ⟨r, _, hadmitted⟩
  · rw [Opened.outcome_refused hrefused]
    exact spared_of_same rfl
  · rw [Opened.outcome_state hadmitted]
    exact hmade r

/-- Bindings under a condition survive every operation that attaches or removes a policy, and every
creation but one that grants an account to trusted principals: where some of them lack the role, the
account loses all its bindings under a condition, whatever they are, and it is the only resource
whose policy is another than before. -/
theorem conditions_survive_but_for_trust (store : VersionedPolicies service) (h : Handle)
    (state : σ) :
    let o : Opened interface Handle := ⟨adapter, h⟩
    (∀ request, store.Spared state (o.outcome service (.attachInlinePolicy request) state).state) ∧
    (∀ identityName policyName tenantId region, store.Spared state
      (o.outcome service (.removePolicy identityName policyName tenantId region) state).state) ∧
    ∀ creation,
      let run := o.outcome service (.createIdentity creation) state
      store.bindings run.state = store.bindings state ∨
        ∃ r email, Gate.createIdentity creation = .ok r ∧ run.result = .ok (.str email) ∧
          store.Stripped (accountName email (projectId r.tenantId)) r.trustConfig state
            run.state := by
  intro o
  refine ⟨fun request => ?_, fun identityName policyName tenantId region => ?_, fun creation => ?_⟩
  · exact outcome_spares (c := .attachInlinePolicy request) rfl
      fun r => program_spares store h (.attach r) state
  · exact outcome_spares (c := .removePolicy identityName policyName tenantId region) rfl
      fun r => program_spares store h (.remove r) state
  · rcases Opened.admit_cases (c := .createIdentity creation) rfl with
      ⟨f, hrefused⟩ | ⟨r, hgate, hadmitted⟩
    · rw [Opened.outcome_refused hrefused]
      exact Or.inl rfl
    · simp only [Opened.outcome_state hadmitted]
      rcases createIdentity_effect store h r state with hsame | ⟨email, hreturned, hstripped⟩
      · exact Or.inl hsame
      · exact Or.inr
          ⟨r, email, hgate, Opened.outcome_answered hadmitted hreturned, hstripped⟩

/-! ## A service with one account -/

/-- A service that is nothing but its bindings and one account, which no one can create again. -/
def oneAccount (email : String) : Service interface (Client × String → List Binding) where
  answer
    | .getPolicy client resource version, state =>
      (.ok (some { bindings := shown version (state (client, resource)) }), state)
    | .setPolicy client resource sent, state =>
      (.ok (), Function.update state (client, resource) sent.bindings)
    | .createAccount .., state => (.error (Failure.googleApi .alreadyExists email none), state)
    | .getAccount _, state => (.ok email, state)
    | .deleteAccount _, state => (.ok (), state)
    | .defaultCredentials _, state => (.ok .ambient, state)
    | .loadKeyFile _, state => (.ok none, state)
    | .connect .., state => (.ok (), state)
    | .close _, state => (.ok (), state)

def ofOneAccount (email : String) : VersionedPolicies (oneAccount email) where
  bindings state := state
  read state client resource version policy h := by
    obtain rfl := Except.ok.inj h
    rfl
  write _ _ _ _ _ := rfl
  refuse _ _ _ _ _ h := by cases h
  keep c hc state := by
    cases c with
    | setPolicy _ _ _ => exact hc.elim
    | _ => rfl

/-- To create an account that is there already, and to trust one more principal with it, makes the
account lose a binding under a condition. -/
theorem condition_lost_by_createIdentity :
    let email := "ci@p.iam.gserviceaccount.com"
    let account := accountName email "p"
    let store := ofOneAccount email
    let guarded : Binding :=
      { role := "viewer", members := ["user:ann"], condition := some { title := "by day" } }
    let state := Function.update (fun _ => []) (Client.accounts, account) [guarded]
    let creation : Gate.Creation :=
      { identityName := .plain (.str "ci"), description := .plain .null,
        tenantId := .plain (.str "p"), region := .plain .null,
        trustConfig := .present (.object [("trusted_principals", .ofTexts ["bob@example.org"])]),
        options := .present .null }
    let o : Opened interface Handle := ⟨adapter, ⟨true, true, none⟩⟩
    let run := o.outcome (oneAccount email) (.createIdentity creation) state
    guarded.conditional = true ∧ guarded ∈ store.bindings state (.accounts, account) ∧
      run.result.toOption.map Value.text = some email ∧
      guarded ∉ store.bindings run.state (.accounts, account) := by
  intro email account store guarded state creation o run
  exact ⟨rfl, by decide +kernel, by decide +kernel, by decide +kernel⟩

end VersionedPolicies

end CloudIdentity.Gcp

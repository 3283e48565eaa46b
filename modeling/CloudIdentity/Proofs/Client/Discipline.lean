import CloudIdentity.Proofs.Aws.Convergence
import CloudIdentity.Proofs.Client.Outcome
import CloudIdentity.Proofs.Gcp.Conditions
import CloudIdentity.Proofs.Service.Discipline

/-!
The calls that the operations of both adapters make. Every operation makes its calls from a fixed
list of methods, each at most once, and ends with the first failure of a call, but for the one that
tells a creation that what it is to create is there. On Google Cloud no policy is written unless the
same operation has read it, and it is written with the etag that was read.
-/

namespace CloudIdentity

open Document InMemory

/-! ## Methods -/

/-- The operations that are to change nothing. -/
def Operation.reads : Operation → Bool
  | getIdentity | getInlinePolicyDetails | getAttachedPolicies => true
  | createIdentity | deleteIdentity | attachInlinePolicy | removePolicy => false

namespace Aws

/-- The methods that an operation may call, each of them once. -/
def methods : Operation → List String
  | .createIdentity => ["create_role", "get_role", "update_role", "update_assume_role_policy"]
  | .getIdentity => ["get_role"]
  | .deleteIdentity => ["delete_role"]
  | .attachInlinePolicy => ["put_role_policy"]
  | .getInlinePolicyDetails => ["get_role_policy"]
  | .getAttachedPolicies => ["get_paginator", "paginate"]
  | .removePolicy => ["delete_role_policy"]

/-- Whether a call changes roles or policies. -/
def Call.mutates : Call → Bool
  | .createRole _ | .updateRole .. | .updateTrustPolicy .. | .deleteRole _ | .putRolePolicy ..
  | .deleteRolePolicy .. => true
  | _ => false

/-- How a call fails: it is answered with a failure, or it is a listing and a page that is reached
could not be fetched. -/
inductive Fails : (c : Call) → Except Failure c.Reply → Failure → Prop where
  | refused (c : Call) (f : Failure) : Fails c (.error f) f
  | page (roleName : String) {before after : List (Except Failure Value)} {names : List Value}
      (reached : pagedNames before = .ok names) (f : Failure) :
      Fails (.listPolicies roleName) (.ok (before ++ .error f :: after)) f

/-- The failure that is not passed on: that a role to be created is already there. -/
def absorbs : Call → Failure → Bool
  | .createRole _, f => alreadyExists f
  | _, _ => false

def rules : Rules interface where
  method := Call.method
  Ends c answer f := Fails c answer f ∧ absorbs c f = false

end Aws

namespace Gcp

/-- The methods that an operation may call, each of them once. -/
def methods : Operation → List String
  | .createIdentity =>
    ["create_service_account", "get_service_account", "get_iam_policy", "set_iam_policy"]
  | .getIdentity => ["get_service_account"]
  | .deleteIdentity => ["delete_service_account"]
  | .attachInlinePolicy | .removePolicy => ["get_iam_policy", "set_iam_policy"]
  | .getInlinePolicyDetails => []
  | .getAttachedPolicies => ["get_iam_policy"]

/-- Whether a call changes accounts or policies. -/
def Call.mutates : Call → Bool
  | .setPolicy .. | .createAccount .. | .deleteAccount _ => true
  | _ => false

/-- The failure that is not passed on: that an account to be created is already there. -/
def absorbs : Call → Failure → Bool
  | .createAccount .., f => alreadyExists f
  | _, _ => false

def rules : Rules interface where
  method := Call.method
  Ends c answer f := answer = .error f ∧ absorbs c f = false

end Gcp

/-! ## AWS -/

namespace Aws

theorem obeys_request (h : Handle) {c : Call} (hlist : ∀ roleName, c ≠ .listPolicies roleName) :
    (h.request c).run.Obeys rules [c.method] := by
  cases hopen : h.connected with
  | false =>
    rw [request_closed hopen]
    trivial
  | true =>
    rw [request_run hopen]
    refine Action.obeys_request rules fun answer f hends => ?_
    cases hends.1 with
    | refused => rfl
    | page => exact absurd rfl (hlist _)

theorem updateRole_obeys (h : Handle) (existing : Value) (description trustPolicy : String)
    (duration : Option Int) :
    (updateRole h existing description trustPolicy duration).run.Obeys rules
      ["update_role", "update_assume_role_policy"] := by
  refine Action.obeys_ofExcept_bind fun name => Action.obeys_ofExcept_bind fun storedDescription =>
    Action.obeys_ofExcept_bind fun storedDuration => ?_
  refine Action.obeys_bind_if _
    (obeys_request h (c := .updateRole name description duration) nofun) ?_
  refine Action.obeys_ofExcept_bind fun storedTrust => Action.obeys_ofExcept_bind fun differs => ?_
  exact Action.obeys_bind_if _
    (obeys_request h (c := .updateTrustPolicy name trustPolicy) nofun) (Action.obeys_pure _)

theorem converge_obeys (h : Handle) (r : Request.CreateIdentity) (c : RoleCreation) :
    (converge h r c).run.Obeys rules ["get_role", "update_role", "update_assume_role_policy"] := by
  refine Action.obeys_bind (Action.obeys_log _) fun _ => ?_
  refine Action.obeys_bind (obeys_request h (c := .getRole r.identityName) nofun) fun response => ?_
  refine Action.obeys_ofExcept_bind fun existing => ?_
  exact Action.obeys_bind (updateRole_obeys h existing _ _ _) fun _ => Action.obeys_ofExcept _

theorem createIdentity_obeys (h : Handle) (r : Request.CreateIdentity) :
    (createIdentity h r).run.Obeys rules (methods .createIdentity) := by
  refine Action.obeys_ofExcept_bind fun text => ?_
  cases hopen : h.connected with
  | false =>
    simp only [Handle.request, hopen]
    trivial
  | true =>
    simp only [Handle.request, hopen, if_true]
    refine Action.obeys_attempt_bind rules (c := .createRole (creation r text))
      (fun answer => ?_) fun answer f hends => ?_
    · cases answer with
      | ok response => exact (Action.obeys_ofExcept (roleArn response)).mono (List.nil_sublist _)
      | error f =>
        simp only
        split
        · exact converge_obeys h r _
        · trivial
    · obtain ⟨hfails, habsorbs⟩ := hends
      cases hfails with
      | refused =>
        have hfatal : alreadyExists f = false := habsorbs
        simp only [hfatal, Bool.false_eq_true, if_false]

theorem required_obeys (name : String) (text : Option String) :
    (required name text).run.Obeys rules [] := by
  unfold required
  split <;> trivial

/-- A page that could not be fetched is found where the pages before it have been taken in. -/
theorem pagedNames_error {before after : List (Except Failure Value)} {names : List Value}
    (hbefore : pagedNames before = .ok names) (f : Failure) :
    pagedNames (before ++ .error f :: after) = .error f := by
  induction before generalizing names with
  | nil => rfl
  | cons page before ih =>
    simp only [pagedNames, Gate.bind_eq_ok_iff] at hbefore
    obtain ⟨page', hpage, names', hnames, elements, helements, more, hmore, _⟩ := hbefore
    rw [List.cons_append, pagedNames, hpage]
    simp only [bind, Except.bind, hnames, helements]
    have hrest := ih hmore
    simp only [hrest]

theorem getAttachedPolicies_obeys (h : Handle) (r : Request.GetAttachedPolicies) :
    (getAttachedPolicies h r).run.Obeys rules (methods .getAttachedPolicies) := by
  refine Action.obeys_bind (required_obeys _ _) fun roleName => ?_
  refine Action.obeys_bind (obeys_request h (c := .openListing) nofun) fun _ => ?_
  cases hopen : h.connected with
  | false =>
    rw [ExceptT.run_bind, request_closed hopen]
    trivial
  | true =>
    rw [ExceptT.run_bind, request_run hopen]
    refine ⟨List.mem_singleton_self _, fun answer => ⟨?_, fun f hends => ?_⟩⟩
    · cases answer with
      | ok pages => exact Action.obeys_bind_pure (Action.obeys_ofExcept (pagedNames pages)) _
      | error f => trivial
    · cases hends.1 with
      | refused => rfl
      | page _ reached f =>
        change (Action.ofExcept (pagedNames _) >>= fun names => pure (Value.array names)).run = _
        rw [pagedNames_error reached]
        rfl

theorem perform_obeys (h : Handle) (a : AdapterCall) :
    (a.perform adapter h).run.Obeys rules (methods a.operation) := by
  cases a with
  | createIdentity r => exact createIdentity_obeys h r
  | getIdentity r =>
    exact Action.obeys_bind (obeys_request h (c := .getRole r.identityName) nofun) fun _ =>
      Action.obeys_ofExcept _
  | deleteIdentity r =>
    exact Action.obeys_bind_pure (obeys_request h (c := .deleteRole r.identityName) nofun) _
  | removePolicy r =>
    exact Action.obeys_bind_pure
      (obeys_request h (c := .deleteRolePolicy r.identityName r.policyName) nofun) _
  | attachInlinePolicy r =>
    refine Action.obeys_bind (required_obeys _ _) fun name => ?_
    split
    · refine Action.obeys_ofExcept_bind fun text => ?_
      exact Action.obeys_bind_pure
        (obeys_request h (c := .putRolePolicy r.identityName name text) nofun) _
    · trivial
  | getInlinePolicyDetails r =>
    refine Action.obeys_bind (required_obeys _ _) fun roleName =>
      Action.obeys_bind (required_obeys _ _) fun policyName => ?_
    refine Action.obeys_bind (obeys_request h (c := .getRolePolicy roleName policyName) nofun)
      fun response => ?_
    exact Action.obeys_ofExcept_bind fun document => Action.obeys_ofExcept_bind fun document =>
      Action.obeys_bind_pure (Action.obeys_ofExcept _) _
  | getAttachedPolicies r => exact getAttachedPolicies_obeys h r

theorem mutates_eq_false {c : Call} {operation : Operation} (hmethod : c.method ∈ methods operation)
    (hreads : operation.reads = true) : c.mutates = false := by
  cases operation with
  | getIdentity | getInlinePolicyDetails | getAttachedPolicies =>
    cases c <;> first | rfl | simp [methods, Call.method] at hmethod
  | createIdentity | deleteIdentity | attachInlinePolicy | removePolicy => cases hreads

theorem nodup_methods (operation : Operation) : (methods operation).Nodup := by
  cases operation <;> decide

end Aws

/-! ## Google Cloud -/

namespace Gcp

/-- A policy is written only where the policy of the same resource has been read, and with the etag
that the read returned: that of an empty policy if it returned none. -/
def Reread (past : List (Event interface)) (c : Call) : Prop :=
  ∀ client resource policy, c = .setPolicy client resource policy → ∃ version read,
    .called (.getPolicy client resource version) (.ok read) ∈ past ∧
      policy.etag = (read.getD {}).etag

theorem obeys_request (h : Handle) (client : Client) (c : Call) :
    (h.request client c).run.Obeys rules [c.method] := by
  rcases request_cases h client c with heq | heq
  · rw [heq]
    exact Action.obeys_request rules fun answer f hends => hends.1
  · rw [heq]
    trivial

theorem obeys_required (name : String) (text : Option String) :
    (required name text).run.Obeys rules [] := by
  unfold required
  split <;> trivial

theorem createAccount_obeys (h : Handle) (r : Request.CreateIdentity) (project : String) :
    (createAccount h r project).run.Obeys rules
      ["create_service_account", "get_service_account"] := by
  unfold createAccount
  cases hopen : h.accounts with
  | false =>
    simp only [Handle.request, hopen]
    trivial
  | true =>
    simp only [Handle.request, hopen, if_true]
    refine Action.obeys_attempt_bind rules
      (c := .createAccount project r.identityName r.identityName (r.description.getD ""))
      (fun answer => ?_) fun answer f hends => ?_
    · cases answer with
      | ok email => trivial
      | error f =>
        simp only
        split
        · refine Action.obeys_bind (Action.obeys_log _) fun _ => ?_
          exact Action.obeys_request rules fun answer f hends => hends.1
        · trivial
    · obtain ⟨rfl, habsorbs⟩ := hends
      have hfatal : alreadyExists f = false := habsorbs
      simp only [hfatal, Bool.false_eq_true, if_false]

theorem grantTrusted_obeys (h : Handle) (email project : String)
    (trust : Option TrustConfiguration) :
    (grantTrusted h email project trust).run.Obeys rules ["get_iam_policy", "set_iam_policy"] := by
  unfold grantTrusted
  dsimp only
  split
  · trivial
  · refine Action.obeys_bind (obeys_request h .accounts (.getPolicy .accounts _ none))
      fun policy => ?_
    exact Action.obeys_bind_if _ (obeys_request h .accounts (.setPolicy .accounts _ _))
      (Action.obeys_pure _)

theorem projectPolicy_obeys (h : Handle) (project : String) :
    (projectPolicy h project).run.Obeys rules ["get_iam_policy"] :=
  Action.obeys_bind_pure
    (obeys_request h .projects (.getPolicy .projects (projectName project) _)) _

theorem attachedMember_obeys (r : Request.AttachInlinePolicy) (project : String) :
    (attachedMember r project).run.Obeys rules [] := by
  unfold attachedMember
  split
  · trivial
  · exact Action.obeys_bind_pure (obeys_required "resource" r.identityName) _

theorem perform_obeys (h : Handle) (a : AdapterCall) :
    (a.perform adapter h).run.Obeys rules (methods a.operation) := by
  cases a with
  | createIdentity r =>
    refine Action.obeys_bind (createAccount_obeys h r _) fun email => ?_
    exact Action.obeys_bind_pure (grantTrusted_obeys h email _ _) _
  | getIdentity r =>
    exact Action.obeys_bind_pure (obeys_request h .accounts (.getAccount _)) _
  | deleteIdentity r =>
    exact Action.obeys_bind_pure (obeys_request h .accounts (.deleteAccount _)) _
  | removePolicy r =>
    refine Action.obeys_bind (projectPolicy_obeys h _) fun policy => ?_
    exact Action.obeys_bind_if _ (obeys_request h .projects (.setPolicy .projects _ _))
      (Action.obeys_pure _)
  | attachInlinePolicy r =>
    refine Action.obeys_bind (obeys_required _ _) fun tenant =>
      Action.obeys_bind (attachedMember_obeys _ _) fun member =>
        Action.obeys_bind (projectPolicy_obeys h _) fun policy => ?_
    split
    · exact Action.obeys_bind_pure (obeys_request h .projects (.setPolicy .projects _ _)) _
    · trivial
  | getInlinePolicyDetails r => trivial
  | getAttachedPolicies r =>
    refine Action.obeys_bind (obeys_required _ _) fun tenant =>
      Action.obeys_bind (obeys_required _ _) fun identity => ?_
    exact Action.obeys_bind_pure (projectPolicy_obeys h _) _

theorem mutates_eq_false {c : Call} {operation : Operation} (hmethod : c.method ∈ methods operation)
    (hreads : operation.reads = true) : c.mutates = false := by
  cases operation with
  | getIdentity | getInlinePolicyDetails | getAttachedPolicies =>
    cases c <;> first | rfl | simp [methods, Call.method] at hmethod
  | createIdentity | deleteIdentity | attachInlinePolicy | removePolicy => cases hreads

theorem nodup_methods (operation : Operation) : (methods operation).Nodup := by
  cases operation <;> decide

/-! ### Policies that are written -/

theorem reread_getPolicy (past : List (Event interface)) (client : Client) (resource : String)
    (version : Option Nat) : Reread past (.getPolicy client resource version) := by
  intro _ _ _ heq
  cases heq

open VersionedPolicies in
theorem createAccount_follows (h : Handle) (r : Request.CreateIdentity) (project : String)
    (past : List (Event interface)) :
    (createAccount h r project).run.Follows Reread past :=
  (calls_createAccount h r project).follows fun c hsparing past client resource policy heq => by
    subst heq
    cases hsparing

theorem program_follows (h : Handle) (op : ProjectOperation) :
    (op.program h).Follows Reread [] := by
  rcases op.program_cases h with ⟨f, heq⟩ | ⟨project, next, _, heq, hnext⟩
  · rw [heq]
    trivial
  · rw [heq, readThen]
    refine ⟨reread_getPolicy _ _ _ _, fun answer => ?_⟩
    cases answer with
    | error f => trivial
    | ok read =>
      have hcontinues := hnext (read.getD {})
      simp only
      generalize next (read.getD {}) = rest at hcontinues
      cases hcontinues with
      | refused f => trivial
      | unchanged _ _ => trivial
      | @writes e _ =>
        refine ⟨fun client resource policy heq => ?_, fun answer => ?_⟩
        · cases heq
          exact ⟨_, read, List.mem_append_right _ (List.mem_singleton_self _), Policy.edit_etag _ e⟩
        · cases answer <;> trivial

open VersionedPolicies in
theorem grantTrusted_follows (h : Handle) (email project : String)
    (trust : Option TrustConfiguration) (past : List (Event interface)) :
    (grantTrusted h email project trust).run.Follows Reread past := by
  cases trust with
  | none => trivial
  | some config =>
    rw [grantTrusted_eq]
    split
    · trivial
    cases hopen : h.accounts with
    | false =>
      simp only [Handle.request, hopen]
      trivial
    | true =>
      simp only [Handle.request, hopen, if_true]
      refine Action.follows_request_bind (reread_getPolicy _ _ _ _) fun read => ?_
      unfold writeGranted
      simp only [Handle.request, hopen, if_true]
      split
      · refine Action.follows_request_bind (fun client resource policy heq => ?_) fun _ => trivial
        cases heq
        refine ⟨none, read, List.mem_append_right _ (List.mem_singleton_self _), ?_⟩
        rw [Policy.addMembers_eq_addAll, Policy.addAll_etag]
      · trivial

/-- An operation that has no method to write a policy by writes none. -/
theorem follows_of_methods {h : Handle} {a : AdapterCall}
    (hmethods : "set_iam_policy" ∉ methods a.operation) :
    (a.perform adapter h).run.Follows Reread [] :=
  (perform_obeys h a).calls.follows fun c hc past client resource policy heq => by
    subst heq
    exact absurd hc hmethods

theorem perform_follows (h : Handle) (a : AdapterCall) :
    (a.perform adapter h).run.Follows Reread [] := by
  cases a with
  | createIdentity r =>
    refine Action.follows_bind (createAccount_follows h r _ []) fun email past _ => ?_
    exact Action.follows_bind (grantTrusted_follows h email _ _ past) fun _ _ _ => trivial
  | removePolicy r => exact program_follows h (.remove r)
  | attachInlinePolicy r => exact program_follows h (.attach r)
  | getIdentity r | deleteIdentity r | getInlinePolicyDetails r | getAttachedPolicies r =>
    exact follows_of_methods (by simp [methods, AdapterCall.operation])

end Gcp

/-! ## Both adapters -/

/-- Whatever the service answers, no operation makes a call twice, none goes on after a failure but
a creation that finds what it is to create, and none that only reads makes a call that changes
anything. On Google Cloud a policy is written only after a read of the same resource in the same
operation, and with the etag that the read returned. -/
theorem calls_disciplined (a : AdapterCall) :
    (∀ {σ : Type} (service : Service Aws.interface σ) (h : Aws.Handle) (state : σ),
      let run := (Opened.mk Aws.adapter h).performed service a state
      Aws.rules.Kept run ∧
      (a.operation.reads = true → ∀ c ∈ Report.calls run.trace, c.mutates = false)) ∧
    ∀ {σ : Type} (service : Service Gcp.interface σ) (h : Gcp.Handle) (state : σ),
      let run := (Opened.mk Gcp.adapter h).performed service a state
      Gcp.rules.Kept run ∧
      (a.operation.reads = true → ∀ c ∈ Report.calls run.trace, c.mutates = false) ∧
      ∀ before client resource policy answer after,
        run.trace = before ++ .called (.setPolicy client resource policy) answer :: after →
        ∃ version read, .called (.getPolicy client resource version) (.ok read) ∈ before ∧
          policy.etag = (read.getD {}).etag := by
  constructor
  · intro σ service h state run
    have hobeys := Aws.perform_obeys h a
    refine ⟨hobeys.kept (Aws.nodup_methods a.operation) service state, fun hreads c hc => ?_⟩
    exact Aws.mutates_eq_false (hobeys.calls.of_mem_run hc) hreads
  · intro σ service h state run
    have hobeys := Gcp.perform_obeys h a
    refine ⟨hobeys.kept (Gcp.nodup_methods a.operation) service state, fun hreads c hc => ?_, ?_⟩
    · exact Gcp.mutates_eq_false (hobeys.calls.of_mem_run hc) hreads
    · intro before client resource policy answer after htrace
      exact (Gcp.perform_follows h a).of_run htrace client resource policy rfl

/-- A role is there that is to be created: the creation goes on, up to an update that fails. An
account whose policy has the etag `"7"` is granted to a principal with that etag. -/
theorem calls_disciplined_half_way :
    let present : Failure := Failure.awsService "EntityAlreadyExists" "present" "CreateRole"
    let slow : Failure := Failure.awsService "Throttling" "slow" "UpdateRole"
    let roles : Service Aws.interface Unit :=
      { answer := fun c state =>
          match c with
          | .getRole name => (.ok (.object [("Role", .object [("RoleName", .str name)])]), state)
          | .createRole _ => (.error present, state)
          | _ => (.error slow, state) }
    let accounts : Service Gcp.interface Unit :=
      { answer := fun c state =>
          match c with
          | .createAccount .. => (.ok "ci@p", state)
          | .getPolicy .. => (.ok (some { etag := "7" }), state)
          | .setPolicy .. => (.ok (), state)
          | _ => (.error slow, state) }
    let a : AdapterCall := .createIdentity
      { identityName := "ci", tenantId := "p", description := some "x"
        trustConfig := some { trustedPrincipals := ["ann"] } }
    let b : AdapterCall := .getIdentity { identityName := "ci", tenantId := "p" }
    let onAws := (Opened.mk Aws.adapter ⟨true, none⟩).performed roles a ()
    let onGcp := (Opened.mk Gcp.adapter ⟨true, true, none⟩).performed accounts a ()
    let reading := (Opened.mk Aws.adapter ⟨true, none⟩).performed roles b ()
    (Report.calls onAws.trace).map Aws.Call.method = ["create_role", "get_role", "update_role"] ∧
    onAws.result = .error slow ∧
    (∀ c ∈ Report.calls reading.trace, c.mutates = false) ∧
    ∃ before client resource policy answer after,
      onGcp.trace = before ++ .called (.setPolicy client resource policy) answer :: after ∧
      policy.etag = "7" := by
  intro present slow roles accounts a b onAws onGcp reading
  obtain ⟨hkept, _⟩ := (calls_disciplined a).1 roles ⟨true, none⟩ ()
  have htrace : ∃ before c after, onAws.trace = before ++ .called c (.error slow) :: after ∧
      Aws.absorbs c slow = false := ⟨[_, _, _], .updateRole _ _ _, _, rfl, rfl⟩
  obtain ⟨before, c, after, htrace, hpassed⟩ := htrace
  refine ⟨rfl, (hkept.last _ _ _ _ _ htrace ⟨.refused _ _, hpassed⟩).2, ?_, ?_⟩
  · exact ((calls_disciplined b).1 roles ⟨true, none⟩ ()).2 rfl
  · have hwritten := ((calls_disciplined a).2 accounts ⟨true, true, none⟩ ()).2.2
      [_, _] .accounts _ _ (.ok ()) [] rfl
    obtain ⟨version, read, hread, hetag⟩ := hwritten
    refine ⟨[_, _], .accounts, _, _, .ok (), [], rfl, hetag.trans ?_⟩
    rcases List.mem_cons.mp hread with heq | hrest
    · cases heq
    · cases List.mem_singleton.mp hrest
      rfl

end CloudIdentity

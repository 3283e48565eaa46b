import CloudIdentity.Gcp.Accounts
import CloudIdentity.Proofs.Gcp.Edits

/-!
The operations on the policy of a project, as programs. Each reads the policy of its project first,
and one that changes it writes the policy back with its last call. An attachment merges its document
for one member, a removal takes one role from one member, and a listing gives the roles of one
member.
-/

namespace CloudIdentity.Gcp

open Document

/-! ## Operations as programs -/

/-- The last call of an operation: the policy is written back. -/
def writeBack (project : String) (policy : Policy) : Program interface (Except Failure Value) :=
  .call (.setPolicy .projects (projectName project) policy) fun
    | .ok () => .done (.ok .null)
    | .error f => .done (.error f)

/-- The first call of an operation: the policy is read. -/
def readThen (project : String) (next : Policy → Program interface (Except Failure Value)) :
    Program interface (Except Failure Value) :=
  .call (.getPolicy .projects (projectName project) (some requestedPolicyVersion)) fun
    | .ok policy => next (policy.getD {})
    | .error f => .done (.error f)

variable {h : Handle}

theorem request_projects_run (hopen : h.projects = true) (c : Call) :
    (h.request .projects c).run = .call c .done := by
  simp only [Handle.request, hopen, if_true]
  rfl

theorem request_projects_closed (hclosed : h.projects = false) (c : Call) :
    (h.request .projects c).run = .done (.error (closedClient c.method)) := by
  simp only [Handle.request, hclosed, Bool.false_eq_true, if_false]
  rfl

/-- A request is one call, or it fails without one. -/
theorem request_cases (h : Handle) (client : Client) (c : Call) :
    (h.request client c).run = .call c .done ∨
      (h.request client c).run = .done (.error (closedClient c.method)) := by
  cases client with
  | projects =>
    cases hopen : h.projects with
    | true => exact Or.inl (request_projects_run hopen c)
    | false => exact Or.inr (request_projects_closed hopen c)
  | accounts =>
    cases hopen : h.accounts <;> simp only [Handle.request, hopen]
    · exact Or.inr rfl
    · exact Or.inl rfl

theorem setProjectPolicy_run (hopen : h.projects = true) (project : String) (policy : Policy) :
    (setProjectPolicy h project policy >>= fun _ => pure Value.null).run =
      writeBack project policy := by
  rw [ExceptT.run_bind, setProjectPolicy, request_projects_run hopen, Program.call_bind, writeBack]
  congr 1
  funext answer
  cases answer <;> rfl

theorem projectPolicy_run (hopen : h.projects = true) (project : String)
    (next : Policy → Action interface Value) :
    (projectPolicy h project >>= next).run =
      readThen project fun policy => (next policy).run := by
  rw [ExceptT.run_bind, projectPolicy, ExceptT.run_bind, request_projects_run hopen, readThen]
  simp only [Program.call_bind]
  congr 1
  funext answer
  cases answer <;> rfl

theorem projectPolicy_closed (hclosed : h.projects = false) (project : String)
    (next : Policy → Action interface Value) :
    (projectPolicy h project >>= next).run = .done (.error (closedClient "get_iam_policy")) := by
  rw [ExceptT.run_bind, projectPolicy, ExceptT.run_bind, request_projects_closed hclosed]
  rfl

/-- The member that an identity of a project is. -/
def accountMember (identity project : String) : String :=
  serviceAccountMember (serviceAccountEmail identity project)

/-- An operation that changes the policy of a project. -/
inductive ProjectOperation where
  | attach (r : Request.AttachInlinePolicy)
  | remove (r : Request.RemovePolicy)

namespace ProjectOperation

def program (h : Handle) : ProjectOperation → Program interface (Except Failure Value)
  | attach r => (attachInlinePolicy h r).run
  | remove r => (removePolicy h r).run

/-- The project whose policy is to be changed. -/
def project? : ProjectOperation → Option String
  | attach r => (Text.filled? r.tenantId).map projectId
  | remove r => some (projectId r.tenantId)

/-- The member that is to gain or lose roles on a project. -/
def member? (project : String) : ProjectOperation → Option String
  | attach r =>
    match Text.filled? r.resource with
    | some resource => some (serviceAccountMember resource)
    | none => (Text.filled? r.identityName).map fun identity =>
        serviceAccountMember (serviceAccountEmail identity project)
  | remove r => some (serviceAccountMember (serviceAccountEmail r.identityName project))

/-- What is asked of the policy; nothing, where an attachment lacks a member or a document. -/
def edit? (project : String) : ProjectOperation → Option Edit
  | attach r => do
    let member ← member? project (attach r)
    let document ← r.policyDocument
    pure (.merge document member)
  | remove r => do
    let member ← member? project (remove r)
    pure (.remove r.policyName member)

/-- How an operation goes on once it has read a policy: it fails, it writes its edit of the policy
back, or it returns since its edit changes nothing. -/
inductive Continues (project : String) (op : ProjectOperation) (policy : Policy) :
    Program interface (Except Failure Value) → Prop where
  | refused (f : Failure) : Continues project op policy (.done (.error f))
  | writes {e : Edit} (edit : op.edit? project = some e) :
      Continues project op policy (writeBack project (policy.edit e).1)
  | unchanged {e : Edit} (edit : op.edit? project = some e) (same : (policy.edit e).2 = false) :
      Continues project op policy (.done (.ok .null))

theorem attachedMember_eq {r : Request.AttachInlinePolicy} {project member : String}
    (hmember : (attach r).member? project = some member) :
    attachedMember r project = pure member := by
  rw [member?] at hmember
  rw [attachedMember]
  cases hresource : Text.filled? r.resource with
  | some resource =>
    rw [hresource] at hmember
    rw [← Option.some.inj hmember]
  | none =>
    simp only [hresource] at hmember
    obtain ⟨identity, hidentity, rfl⟩ := Option.map_eq_some_iff.mp hmember
    simp only [required, hidentity]
    rfl

theorem attachedMember_fails {r : Request.AttachInlinePolicy} {project : String}
    (hmember : (attach r).member? project = none) :
    ∃ f, attachedMember r project = Action.fail f := by
  rw [member?] at hmember
  rw [attachedMember]
  cases hresource : Text.filled? r.resource with
  | some resource => simp [hresource] at hmember
  | none =>
    simp only [hresource, Option.map_eq_none_iff] at hmember
    simp only [required, hmember]
    exact ⟨_, rfl⟩

/-- An attachment for a member merges its document into the policy, and fails without one. -/
theorem attachInlinePolicy_run (hopen : h.projects = true) {r : Request.AttachInlinePolicy}
    {tenant member : String} (htenant : Text.filled? r.tenantId = some tenant)
    (hmember : (attach r).member? (projectId tenant) = some member) :
    (attachInlinePolicy h r).run = readThen (projectId tenant) fun policy =>
      match r.policyDocument with
      | some document => writeBack (projectId tenant) (policy.edit (.merge document member)).1
      | none => .done (.error (closedClient "statements")) := by
  simp only [attachInlinePolicy, required, htenant, pure_bind, attachedMember_eq hmember,
    projectPolicy_run hopen]
  congr 1
  funext policy
  cases r.policyDocument with
  | some document => exact setProjectPolicy_run hopen _ _
  | none => rfl

/-- A removal takes its role from the account, and writes the policy back if it is then another. -/
theorem removePolicy_run (hopen : h.projects = true) (r : Request.RemovePolicy) :
    (removePolicy h r).run = readThen (projectId r.tenantId) fun policy =>
      let change := policy.edit
        (.remove r.policyName (accountMember r.identityName (projectId r.tenantId)))
      if change.2 then writeBack (projectId r.tenantId) change.1 else .done (.ok .null) := by
  rw [removePolicy, projectPolicy_run hopen]
  congr 1
  funext policy
  generalize hedit : policy.edit
    (.remove r.policyName (accountMember r.identityName (projectId r.tenantId))) = change
  have hremove : policy.removeBinding r.policyName
      (serviceAccountMember (serviceAccountEmail r.identityName (projectId r.tenantId))) = change :=
    hedit
  rw [hremove]
  obtain ⟨after, changed⟩ := change
  cases changed with
  | true => exact setProjectPolicy_run hopen _ _
  | false => rfl

theorem removePolicy_closed (hclosed : h.projects = false) (r : Request.RemovePolicy) :
    (removePolicy h r).run = .done (.error (closedClient "get_iam_policy")) :=
  projectPolicy_closed hclosed _ _

/-- A listing gives the roles of the account. -/
theorem getAttachedPolicies_run (hopen : h.projects = true) {r : Request.GetAttachedPolicies}
    {tenant identity : String} (htenant : Text.filled? r.tenantId = some tenant)
    (hidentity : Text.filled? r.identityName = some identity) :
    (getAttachedPolicies h r).run = readThen (projectId tenant) fun policy =>
      .done (.ok (.ofTexts (policy.rolesOf (accountMember identity (projectId tenant))))) := by
  simp only [getAttachedPolicies, required, htenant, hidentity, pure_bind,
    projectPolicy_run hopen]
  rfl

/-- An operation fails without a call, or it reads the policy of its project first. -/
theorem program_cases (h : Handle) (op : ProjectOperation) :
    (∃ f, op.program h = .done (.error f)) ∨
      ∃ project next, op.project? = some project ∧ op.program h = readThen project next ∧
        ∀ policy, Continues project op policy (next policy) := by
  cases op with
  | attach r =>
    rw [program, project?]
    cases htenant : Text.filled? r.tenantId with
    | none =>
      rw [attachInlinePolicy, required, htenant]
      exact Or.inl ⟨_, rfl⟩
    | some tenant =>
      cases hmember : (attach r).member? (projectId tenant) with
      | none =>
        obtain ⟨f, heq⟩ := attachedMember_fails hmember
        simp only [attachInlinePolicy, required, htenant, pure_bind, heq]
        exact Or.inl ⟨f, rfl⟩
      | some member =>
        cases hopen : h.projects with
        | false =>
          simp only [attachInlinePolicy, required, htenant, pure_bind, attachedMember_eq hmember]
          exact Or.inl ⟨_, projectPolicy_closed hopen _ _⟩
        | true =>
          refine Or.inr ⟨projectId tenant, _, rfl, attachInlinePolicy_run hopen htenant hmember, ?_⟩
          intro policy
          cases hdocument : r.policyDocument with
          | none => exact .refused _
          | some document =>
            refine .writes ?_
            rw [edit?, hmember, hdocument]
            rfl
  | remove r =>
    rw [program]
    cases hopen : h.projects with
    | false => exact Or.inl ⟨_, removePolicy_closed hopen r⟩
    | true =>
      refine Or.inr ⟨projectId r.tenantId, _, rfl, removePolicy_run hopen r, ?_⟩
      intro policy
      simp only
      split
      · exact .writes rfl
      · next hsame => exact .unchanged rfl (Bool.eq_false_iff.mpr hsame)

end ProjectOperation

end CloudIdentity.Gcp

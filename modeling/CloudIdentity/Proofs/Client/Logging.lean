import CloudIdentity.Proofs.Aws.Blame
import CloudIdentity.Proofs.Client.Recounting

/-!
What the operations of a client for AWS or Google Cloud log of themselves. But for a creation, no
adapter logs anything: the entries that begin and end an operation are the client's. On AWS there is
one failure that is not told of: one whose error code cannot be looked up keeps it from being
classified, and what is raised then is not logged.
-/

namespace CloudIdentity

open Document InMemory

variable {σ : Type}

/-! ## AWS -/

namespace Aws

/-- An untagged failure with an error code that nothing can be looked up by. -/
def Unkeyed (f : Failure) : Prop :=
  f.kind? = none ∧ ∃ code, f.origin = .awsService code ∧
    ((∃ items, code = .array items) ∨ ∃ members, code = .object members)

def marks : Marks interface where
  found := "Role already exists, converging"
  Absorbs c f d := ∃ new, c = .createRole new ∧
    f.origin = .awsService (.str "EntityAlreadyExists") ∧ d = .getRole new.roleName
  Defies c answer := ∃ f, Fails c answer f ∧ Unkeyed f

theorem lookupKey_eq_error {code : Value} {g : Failure} (h : code.lookupKey = .error g) :
    ((∃ items, code = .array items) ∨ ∃ members, code = .object members) ∧
      g.origin = .general .type ∧ g.kind? = none := by
  cases code with
  | array items =>
    cases h
    exact ⟨Or.inl ⟨items, rfl⟩, rfl, rfl⟩
  | object members =>
    cases h
    exact ⟨Or.inr ⟨members, rfl⟩, rfl, rfl⟩
  | _ => cases h

/-- The classifier fails for what nothing can be looked up by, and for nothing else. -/
theorem classify_eq_error {f g : Failure} (h : classify f = .error g) :
    Unkeyed f ∧ g.origin = .general .type ∧ g.kind? = none := by
  unfold classify at h
  split at h
  · cases h
  · next hkind =>
    split at h
    · next code horigin =>
      rcases bind_eq_error_iff.mp h with hkey | ⟨key, _, hnone⟩
      · obtain ⟨hcode, hg⟩ := lookupKey_eq_error hkey
        exact ⟨⟨hkind, code, horigin, hcode⟩, hg⟩
      · split at hnone <;> cases hnone
    · cases h
    · cases h

theorem exists_classify_error {f : Failure} (h : Unkeyed f) : ∃ g, classify f = .error g := by
  obtain ⟨hkind, code, horigin, ⟨items, rfl⟩ | ⟨members, rfl⟩⟩ := h
  all_goals
    rw [classify, hkind, horigin]
    exact ⟨_, rfl⟩

theorem Unkeyed.absorbs_eq_false {f : Failure} (h : Unkeyed f) (c : Call) :
    absorbs c f = false := by
  have hexists : alreadyExists f = false := by
    obtain ⟨_, code, horigin, ⟨_, rfl⟩ | ⟨_, rfl⟩⟩ := h <;> rw [alreadyExists, horigin]
  cases c with
  | createRole new => exact hexists
  | _ => rfl

/-- A failure that cannot be classified is that of a call, which has ended the operation. -/
theorem defied_iff (service : Service interface σ) (h : Handle) (a : AdapterCall) (state : σ) :
    let run := (Opened.mk adapter h).performed service a state
    marks.Defied run.trace ↔ ∃ f g, run.result = .error f ∧ classify f = .error g := by
  intro run
  constructor
  · rintro ⟨c, answer, hmem, f, hfails, hunkeyed⟩
    obtain ⟨before, after, htrace⟩ := List.append_of_mem hmem
    have hkept : rules.Kept run :=
      (perform_obeys h a).kept (nodup_methods a.operation) service state
    obtain ⟨g, hg⟩ := exists_classify_error hunkeyed
    exact ⟨f, g, (hkept.last _ _ _ _ _ htrace ⟨hfails, hunkeyed.absorbs_eq_false c⟩).2, hg⟩
  · rintro ⟨f, g, hresult, hg⟩
    obtain ⟨hunkeyed, _⟩ := classify_eq_error hg
    obtain ⟨code, horigin, _⟩ := hunkeyed.2
    rcases (perform_blamed h a).run service state f hresult with
      huncoded | ⟨c, answer, hmem, hfails⟩
    · exact absurd horigin (huncoded code)
    · exact ⟨c, answer, hmem, f, hfails, hunkeyed⟩

/-! ### Operations that log nothing -/

theorem quiet_request (h : Handle) (c : Call) : (h.request c).run.Quiet := by
  unfold Handle.request
  split
  · exact Action.quiet_request _
  · trivial

theorem quiet_required (name : String) (text : Option String) : (required name text).run.Quiet := by
  unfold required
  split <;> trivial

theorem updateRole_quiet (h : Handle) (existing : Value) (description trustPolicy : String)
    (duration : Option Int) :
    (updateRole h existing description trustPolicy duration).run.Quiet := by
  refine Action.quiet_bind (Action.quiet_ofExcept _) fun name =>
    Action.quiet_bind (Action.quiet_ofExcept _) fun storedDescription =>
    Action.quiet_bind (Action.quiet_ofExcept _) fun storedDuration => ?_
  refine Action.quiet_bind_if _ (quiet_request h (.updateRole name description duration)) ?_
  refine Action.quiet_bind (Action.quiet_ofExcept _) fun stored =>
    Action.quiet_bind (Action.quiet_ofExcept _) fun differs => ?_
  exact Action.quiet_bind_if _ (quiet_request h (.updateTrustPolicy name trustPolicy)) trivial

theorem convergeWith_quiet (h : Handle) (c : RoleCreation) (response : Value) :
    (convergeWith h c response).run.Quiet :=
  Action.quiet_bind (Action.quiet_ofExcept _) fun existing =>
    Action.quiet_bind (updateRole_quiet h existing _ _ _) fun _ => Action.quiet_ofExcept _

theorem perform_quiet (h : Handle) (a : AdapterCall) (hother : a.operation ≠ .createIdentity) :
    (a.perform adapter h).run.Quiet := by
  cases a with
  | createIdentity r => exact absurd rfl hother
  | getIdentity r =>
    exact Action.quiet_bind (quiet_request h (.getRole r.identityName)) fun _ =>
      Action.quiet_ofExcept _
  | deleteIdentity r =>
    exact Action.quiet_bind (quiet_request h (.deleteRole r.identityName)) fun _ => trivial
  | removePolicy r =>
    exact Action.quiet_bind (quiet_request h (.deleteRolePolicy r.identityName r.policyName))
      fun _ => trivial
  | attachInlinePolicy r =>
    refine Action.quiet_bind (quiet_required _ _) fun name => ?_
    split
    · refine Action.quiet_bind (Action.quiet_ofExcept _) fun text => ?_
      exact Action.quiet_bind (quiet_request h (.putRolePolicy r.identityName name text))
        fun _ => trivial
    · trivial
  | getInlinePolicyDetails r =>
    refine Action.quiet_bind (quiet_required _ _) fun roleName =>
      Action.quiet_bind (quiet_required _ _) fun policyName =>
      Action.quiet_bind (quiet_request h (.getRolePolicy roleName policyName)) fun response => ?_
    exact Action.quiet_bind (Action.quiet_ofExcept _) fun document =>
      Action.quiet_bind (Action.quiet_ofExcept _) fun stored =>
      Action.quiet_bind (Action.quiet_ofExcept _) fun _ => trivial
  | getAttachedPolicies r =>
    refine Action.quiet_bind (quiet_required _ _) fun roleName =>
      Action.quiet_bind (quiet_request h .openListing) fun _ =>
      Action.quiet_bind (quiet_request h (.listPolicies roleName)) fun pages => ?_
    exact Action.quiet_bind (Action.quiet_ofExcept _) fun _ => trivial

theorem alreadyExists_iff {f : Failure} :
    alreadyExists f = true ↔ f.origin = .awsService (.str "EntityAlreadyExists") := by
  rw [alreadyExists]
  split
  · next code horigin => simp [horigin]
  · next hother => exact iff_of_false Bool.false_ne_true fun horigin => hother _ horigin

/-- A creation fails at once, or makes its call and goes on if the role is there. -/
theorem createIdentity_cases (h : Handle) (r : Request.CreateIdentity) :
    (∃ f, (createIdentity h r).run = .done (.error f)) ∨
      ∃ new, new.roleName = r.identityName ∧ h.connected = true ∧
        (createIdentity h r).run = Program.creating (S := interface) (.createRole new)
          alreadyExists (converge h r new).run fun response => .done (roleArn response) := by
  cases hopen : h.connected with
  | false =>
    obtain ⟨f, hrun, _⟩ := perform_fails hopen (.createIdentity r)
    exact Or.inl ⟨f, hrun⟩
  | true =>
    cases htext : trustPolicyText r.tenantId r.trustConfig with
    | error f =>
      refine Or.inl ⟨f, ?_⟩
      rw [createIdentity, htext]
      rfl
    | ok text => exact Or.inr ⟨creation r text, rfl, rfl, createIdentity_creating hopen htext⟩

/-- A creation says that it converges the role just if it does. -/
theorem createIdentity_notes (h : Handle) (r : Request.CreateIdentity) :
    (createIdentity h r).run.Yields fun trace _ => marks.Notes (convergingEntry r) trace := by
  rcases createIdentity_cases h r with ⟨f, hrun⟩ | ⟨new, hname, hopen, hrun⟩
  · rw [hrun]
    refine Or.inr ⟨rfl, ?_⟩
    rintro ⟨_, _, _, _, hmem, _⟩
    cases hmem
  · rw [hrun]
    refine Marks.creating_notes (fun f hexists => ?_) (fun f d hother => ?_) (fun _ => trivial)
      fun _ => trivial
    · have habsorbs : marks.Absorbs (.createRole new) f (.getRole r.identityName) :=
        ⟨new, rfl, alreadyExists_iff.mp hexists, congrArg _ hname.symm⟩
      rw [converge_run hopen]
      intro answer
      cases answer with
      | ok response =>
        refine (convergeWith_quiet h new response).yields.mono fun trace _ hentries => ?_
        exact ⟨congrArg _ hentries, _, _, List.mem_cons_of_mem _ List.mem_cons_self, habsorbs⟩
      | error f =>
        exact ⟨rfl, _, _, List.mem_cons_of_mem _ List.mem_cons_self, habsorbs⟩
    · rintro ⟨_, _, horigin, _⟩
      rw [alreadyExists_iff.mpr horigin] at hother
      cases hother

theorem lawful_marks : marks.Lawful adapter where
  creates := createIdentity_notes
  quiet := perform_quiet
  defied_iff := defied_iff
  raises _ _ h := ⟨(classify_eq_error h).1.1, (classify_eq_error h).2⟩

end Aws

/-! ## Google Cloud -/

namespace Gcp

def marks : Marks interface where
  found := "Service account already exists, reusing it"
  Absorbs c f d := ∃ project id display description,
    c = .createAccount project id display description ∧ f.origin = .googleApi .alreadyExists ∧
      d = .getAccount (accountName id project)
  Defies _ _ := False

theorem defied_iff (service : Service interface σ) (h : Handle) (a : AdapterCall) (state : σ) :
    let run := (Opened.mk adapter h).performed service a state
    marks.Defied run.trace ↔ ∃ f g, run.result = .error f ∧ classify f = .error g := by
  intro run
  constructor
  · rintro ⟨_, _, _, hnever⟩
    exact hnever.elim
  · rintro ⟨f, g, _, hclassify⟩
    exact absurd hclassify (classify_ne_error f g)

/-! ### Operations that log nothing -/

theorem quiet_request (h : Handle) (client : Client) (c : Call) :
    (h.request client c).run.Quiet := by
  rcases request_cases h client c with heq | heq
  · rw [heq]
    exact fun _ => trivial
  · rw [heq]
    trivial

theorem quiet_required (name : String) (text : Option String) : (required name text).run.Quiet := by
  unfold required
  split <;> trivial

theorem grantTrusted_quiet (h : Handle) (email project : String)
    (trust : Option TrustConfiguration) : (grantTrusted h email project trust).run.Quiet := by
  unfold grantTrusted
  dsimp only
  split
  · trivial
  · refine Action.quiet_bind (quiet_request h .accounts (.getPolicy .accounts _ none))
      fun policy => ?_
    exact Action.quiet_bind_if _ (quiet_request h .accounts (.setPolicy .accounts _ _)) trivial

theorem projectPolicy_quiet (h : Handle) (project : String) :
    (projectPolicy h project).run.Quiet :=
  Action.quiet_bind (quiet_request h .projects (.getPolicy .projects (projectName project) _))
    fun _ => trivial

theorem attachedMember_quiet (r : Request.AttachInlinePolicy) (project : String) :
    (attachedMember r project).run.Quiet := by
  unfold attachedMember
  split
  · trivial
  · exact Action.quiet_bind (quiet_required "resource" r.identityName) fun _ => trivial

theorem perform_quiet (h : Handle) (a : AdapterCall) (hother : a.operation ≠ .createIdentity) :
    (a.perform adapter h).run.Quiet := by
  cases a with
  | createIdentity r => exact absurd rfl hother
  | getIdentity r =>
    exact Action.quiet_bind (quiet_request h .accounts (.getAccount _)) fun _ => trivial
  | deleteIdentity r =>
    exact Action.quiet_bind (quiet_request h .accounts (.deleteAccount _)) fun _ => trivial
  | removePolicy r =>
    refine Action.quiet_bind (projectPolicy_quiet h _) fun policy => ?_
    exact Action.quiet_bind_if _ (quiet_request h .projects (.setPolicy .projects _ _)) trivial
  | attachInlinePolicy r =>
    refine Action.quiet_bind (quiet_required _ _) fun tenant =>
      Action.quiet_bind (attachedMember_quiet _ _) fun member =>
      Action.quiet_bind (projectPolicy_quiet h _) fun policy => ?_
    split
    · exact Action.quiet_bind (quiet_request h .projects (.setPolicy .projects _ _))
        fun _ => trivial
    · trivial
  | getInlinePolicyDetails r => trivial
  | getAttachedPolicies r =>
    refine Action.quiet_bind (quiet_required _ _) fun tenant =>
      Action.quiet_bind (quiet_required _ _) fun identity => ?_
    exact Action.quiet_bind (projectPolicy_quiet h _) fun _ => trivial

theorem granting_quiet (h : Handle) (r : Request.CreateIdentity) (email : String) :
    (granting h r email).run.Quiet :=
  Action.quiet_bind (grantTrusted_quiet h email _ r.trustConfig) fun _ => trivial

theorem alreadyExists_iff {f : Failure} :
    alreadyExists f = true ↔ f.origin = .googleApi .alreadyExists := by
  rw [alreadyExists]
  split
  · next status horigin =>
    rw [horigin, Failure.Origin.googleApi.injEq]
    cases status <;> decide
  · next hother => exact iff_of_false Bool.false_ne_true fun horigin => hother _ horigin

/-- A creation fails at once, or makes its call and goes on if the account is there. -/
theorem createIdentity_cases (h : Handle) (r : Request.CreateIdentity) :
    let project := projectId r.tenantId
    (∃ f, (createIdentity h r).run = .done (.error f)) ∨
      (h.accounts = true ∧ (createIdentity h r).run = Program.creating (S := interface)
        (creationCall r project) alreadyExists
        (.log (reusingEntry r) (h.request .accounts
          (.getAccount (accountName r.identityName project)) >>= granting h r).run)
        fun email => (granting h r email).run) := by
  intro project
  cases hopen : h.accounts with
  | false =>
    refine Or.inl ⟨closedClient "create_service_account", ?_⟩
    simp only [createIdentity, createAccount, Handle.request, hopen]
    rfl
  | true => exact Or.inr ⟨rfl, createIdentity_creating hopen⟩

/-- A creation says that it reuses the account just if it does. -/
theorem createIdentity_notes (h : Handle) (r : Request.CreateIdentity) :
    (createIdentity h r).run.Yields fun trace _ => marks.Notes (reusingEntry r) trace := by
  rcases createIdentity_cases h r with ⟨f, hrun⟩ | ⟨hopen, hrun⟩
  · rw [hrun]
    refine Or.inr ⟨rfl, ?_⟩
    rintro ⟨_, _, _, _, hmem, _⟩
    cases hmem
  · rw [hrun]
    refine Marks.creating_notes (fun f hexists => ?_) (fun f d hother => ?_) (granting_quiet h r)
      fun email => ?_
    · have habsorbs : marks.Absorbs (creationCall r (projectId r.tenantId)) f
          (.getAccount (accountName r.identityName (projectId r.tenantId))) :=
        ⟨_, _, _, _, rfl, alreadyExists_iff.mp hexists, rfl⟩
      rw [Handle.request, if_pos hopen]
      intro answer
      cases answer with
      | ok email =>
        refine (granting_quiet h r email).yields.mono fun trace _ hentries => ?_
        exact ⟨congrArg _ hentries, _, _, List.mem_cons_of_mem _ List.mem_cons_self, habsorbs⟩
      | error f => exact ⟨rfl, _, _, List.mem_cons_of_mem _ List.mem_cons_self, habsorbs⟩
    · rintro ⟨_, _, _, _, _, horigin, _⟩
      rw [alreadyExists_iff.mpr horigin] at hother
      cases hother
    · refine (granting_calls h r email).mono fun d hd f e => ?_
      rintro ⟨_, _, _, _, rfl, _⟩
      exact hd rfl

theorem lawful_marks : marks.Lawful adapter where
  creates := createIdentity_notes
  quiet := perform_quiet
  defied_iff := defied_iff
  raises f g h := absurd h (classify_ne_error f g)

end Gcp

/-! ## Both adapters -/

/-- The log tells the truth about every run. However a client for AWS or Google is used and whatever
the service answers: a call that the gate refuses leaves no entry. Any other leaves an entry at
DEBUG first; one at INFO after it, just if it is a creation whose call has failed since the identity
is there, and which has gone on from there; and one at ERROR in the end, with the kind and the text
of what the caller is given, just if it raises. Each names the provider, the operation, and
whichever of the identity and the tenant the call has. The exception is a failure with an error code
that nothing can be looked up by, which only AWS could answer with: what is raised then is a type
error without a kind, and there is no entry for it. -/
theorem log_tells_truth (name : String) (ids : Nat → String) (steps : List Step) :
    (∀ {σ : Type} (service : Service Aws.interface σ) (h : Aws.Handle) (state : σ),
      ∀ t ∈ Opened.turns ⟨Aws.adapter, h⟩ service steps state, ∀ c, t.step = .client c →
        Aws.marks.LogsTruly "aws" c t (t.records (Journal.Logger.debugging name) ids)) ∧
    ∀ {σ : Type} (service : Service Gcp.interface σ) (h : Gcp.Handle) (state : σ),
      ∀ t ∈ Opened.turns ⟨Gcp.adapter, h⟩ service steps state, ∀ c, t.step = .client c →
        Gcp.marks.LogsTruly "gcp" c t (t.records (Journal.Logger.debugging name) ids) :=
  ⟨fun service h state => Aws.lawful_marks.logsTruly name ids Aws.custody h service steps state,
    fun service h state => Gcp.lawful_marks.logsTruly name ids Gcp.custody h service steps state⟩

/-- A role is there, but it cannot be fetched; a call with a blank tenant follows. The creation says
what it has found and what it raises in the end, and nothing is said of the other call. -/
theorem log_tells_truth_role_there :
    let present := Failure.awsService "EntityAlreadyExists" "ci" "CreateRole"
    let roles : Service Aws.interface Unit := ⟨fun _ state => (.error present, state)⟩
    let lookup : ClientCall :=
      .getIdentity (.plain (.str "ci")) (.plain (.str " ")) (.plain .null)
    let turns := Opened.turns ⟨Aws.adapter, ⟨true, none⟩⟩ roles
      [.client (plainCreation "ci" "p"), .client lookup] ()
    let records (t : Turn Aws.interface) :=
      t.records (Journal.Logger.debugging "crossiam") fun _ => "id"
    ∃ creation refused f, turns = [creation, refused] ∧ creation.result = .error f ∧
      records refused = [] ∧ ∃ started noted failed, records creation = [started, noted, failed] ∧
        noted.message = "Role already exists, converging" ∧
        failed.message = "create_identity failed: " ++ f.message := by
  intro present roles lookup turns records
  obtain ⟨creation, refused, f, hturns, hcreates, hlooks, hresult, hkind, habsorbed⟩ :
      ∃ creation refused f, turns = [creation, refused] ∧
        creation.step = .client (plainCreation "ci" "p") ∧ refused.step = .client lookup ∧
        creation.result = .error f ∧ f.kind? = some .resourceAlreadyExists ∧
        Aws.marks.Absorbed creation.trace :=
    ⟨_, _, _, rfl, rfl, rfl, rfl, rfl, _, _, _, _,
      List.mem_cons_of_mem _ List.mem_cons_self,
      List.mem_cons_of_mem _ (List.mem_cons_of_mem _ (List.mem_cons_of_mem _ List.mem_cons_self)),
      _, rfl, rfl, rfl⟩
  have htruth := (log_tells_truth "crossiam" (fun _ => "id")
    [.client (plainCreation "ci" "p"), .client lookup]).1 roles ⟨true, none⟩ ()
  have hcreation : creation ∈ turns := by simp [hturns]
  have hrefused : refused ∈ turns := by simp [hturns]
  have hasks : (plainCreation "ci" "p").Asks
      (.createIdentity { identityName := "ci", tenantId := "p" }) :=
    asks_plainCreation ⟨'c', by decide, by decide⟩ ⟨'p', by decide, by decide⟩
  have hnone : ∀ a, ¬ lookup.Asks a := fun a h => nomatch ClientCall.admit_eq_ok_iff.mpr h
  obtain ⟨started, noted, failed, hrecords, hrecounted⟩ :=
    (htruth creation hcreation _ hcreates).2 _ hasks
  have hnotDefied : ¬ Aws.marks.Defied creation.trace := by
    intro hdefied
    obtain ⟨_, g, hg, _, huntagged⟩ := hrecounted.defied hdefied
    obtain rfl : f = g := Except.error.inj (hresult.symm.trans hg)
    cases hkind.symm.trans huntagged
  obtain ⟨last, kind, rfl, _, hlast⟩ := hrecounted.raised f hresult hnotDefied
  obtain ⟨note, rfl⟩ : ∃ note, noted = [note] := by
    have hnonempty := hrecounted.notes_iff.mpr ⟨rfl, habsorbed⟩
    have hpositive := List.length_pos_of_ne_nil hnonempty
    exact List.length_eq_one_iff.mp (Nat.le_antisymm hrecounted.once hpositive)
  refine ⟨creation, refused, f, hturns, hresult, ?_, started, note, last, hrecords, ?_,
    hlast.message⟩
  · exact (htruth refused hrefused _ hlooks).1 hnone
  · exact (hrecounted.notes note (List.mem_singleton_self note)).message

/-- A code that is a list cannot be looked up: what the caller is given then has no kind, and no
entry tells of it. -/
theorem unkeyed_failure_not_logged :
    let f := Failure.serviceFailure "GetRole" ""
      [("Code", .array [.str "x"]), ("Message", .str "m")]
    let roles : Service Aws.interface Unit := ⟨fun _ state => (.error f, state)⟩
    let lookup : ClientCall :=
      .getIdentity (.plain (.str "ci")) (.plain (.str "123456789012")) (.plain .null)
    ∃ t g, Opened.turns ⟨Aws.adapter, ⟨true, none⟩⟩ roles [.client lookup] () = [t] ∧
      t.result = .error g ∧ g.kind? = none ∧
      (t.records (Journal.Logger.debugging "crossiam") fun _ => "id").map Journal.Record.level =
        [.str "DEBUG"] := by
  intro f roles lookup
  exact ⟨_, _, rfl, rfl, rfl, rfl⟩

end CloudIdentity

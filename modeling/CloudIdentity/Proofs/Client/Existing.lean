import CloudIdentity.Proofs.Client.Failures
import CloudIdentity.Proofs.Client.Invocation
import CloudIdentity.Proofs.Client.Release
import CloudIdentity.Proofs.Gcp.Convergence

/-!
Creations that find what they are to create. Both adapters look at the failure of their own call and
fetch the identity if the failure says that it is there; both have a table that assigns a kind to
every failure. On AWS the two agree. On Google Cloud the table takes a conflict that is not refined
to mean that the resource is there, and the creation does not.
-/

namespace CloudIdentity

open Document InMemory

variable {S : Interface} {σ α β : Type}

/-! ## A call that may find its work done -/

namespace Program

/-- A call, and what is done with its reply. A failure that is `absorbed` is followed by something
else; any other is the result. -/
def creating (c : S.Call) (absorbed : Failure → Bool) (found : Program S (Except Failure α))
    (made : S.Reply c → Program S (Except Failure α)) : Program S (Except Failure α) :=
  .call c fun
    | .ok reply => made reply
    | .error f => if absorbed f then found else .done (.error f)

variable {c : S.Call} {absorbed : Failure → Bool} {found : Program S (Except Failure α)}
  {made : S.Reply c → Program S (Except Failure α)} {service : Service S σ} {state : σ}

theorem creating_bind (next : α → Action S β) :
    (ExceptT.mk (creating c absorbed found made) >>= next).run =
      creating c absorbed (ExceptT.mk found >>= next).run
        fun reply => (ExceptT.mk (made reply) >>= next).run := by
  rw [creating, creating, ExceptT.run_bind, ExceptT.run_mk, call_bind]
  congr 1
  funext answer
  cases answer with
  | ok reply => rfl
  | error f =>
    cases habsorbed : absorbed f with
    | true =>
      simp only [habsorbed, if_true]
      rfl
    | false =>
      simp only [habsorbed, Bool.false_eq_true, if_false]
      rfl

theorem called_mem_calls {trace : List (Event S)} {d : S.Call}
    {answer : Except Failure (S.Reply d)} (h : Event.called d answer ∈ trace) :
    d ∈ Report.calls trace :=
  List.mem_filterMap.mpr ⟨_, h, rfl⟩

/-- If nothing that follows makes such a call again, its failure in a trace is where the run
forks. -/
theorem creating_failed {P : S.Call → Prop} (hfound : found.Calls fun d => ¬ P d)
    (hmade : ∀ reply, (made reply).Calls fun d => ¬ P d) {d : S.Call} {f : Failure} (hd : P d)
    (hmem : .called d (.error f) ∈ ((creating c absorbed found made).run service state).trace) :
    let run := (creating c absorbed found made).run service state
    (absorbed f = true ∧ ∃ after,
      run.trace = .called d (.error f) :: (found.run service after).trace) ∨
    (absorbed f = false ∧ run.trace = [.called d (.error f)] ∧ run.result = .error f) := by
  intro run
  have hrun : run = (creating c absorbed found made).run service state := rfl
  rw [creating, Program.run] at hmem hrun
  rw [hrun]
  clear hrun
  generalize service.answer c state = answered at hmem ⊢
  obtain ⟨e | reply, after⟩ := answered
  · cases habsorbed : absorbed e with
    | true =>
      simp only [habsorbed, if_true] at hmem ⊢
      rcases List.mem_cons.mp hmem with heq | hrest
      · cases heq
        exact Or.inl ⟨habsorbed, after, rfl⟩
      · exact absurd hd (hfound.of_mem_run (called_mem_calls hrest))
    | false =>
      simp only [habsorbed, Bool.false_eq_true, if_false, Program.run] at hmem ⊢
      cases List.mem_singleton.mp hmem
      exact Or.inr ⟨habsorbed, rfl, rfl⟩
  · rcases List.mem_cons.mp hmem with heq | hrest
    · cases heq
    · exact absurd hd ((hmade reply).of_mem_run (called_mem_calls hrest))

end Program

/-! ## What the caller is told of an untagged failure -/

/-- The caller is told a failure of the kind that the classifier assigns. -/
theorem AdapterCall.told_untagged (a : AdapterCall) {classify : Failure.Classifier} {f : Failure}
    (huntagged : f.kind? = none) (hunknown : ∀ g, classify f = .error g → g.kind? = none) :
    ∃ g, a.told classify (.error f) = .error g ∧
      ∀ kind, g.kind? = some kind ↔ classify f = .ok kind := by
  have hcanonical : f.isCanonical = false := by simp [Failure.isCanonical, huntagged]
  rw [AdapterCall.told]
  cases hkind : classify f with
  | ok kind =>
    rw [Failure.toCanonical_of_classified hcanonical hkind]
    have hg := (Failure.isOfKind_translated kind (a.operation.name ++ " failed") f).kind?_eq
    exact ⟨_, rfl, fun kind' => by rw [hg, Option.some.injEq, Except.ok.injEq]⟩
  | error e =>
    rw [Failure.toCanonical, if_neg (by simp [hcanonical]), hkind]
    exact ⟨e, rfl, fun kind => by simp [hunknown e hkind]⟩

/-! ## AWS -/

namespace Aws

variable {h : Handle} {service : Service interface σ} {state : σ} {r : Request.CreateIdentity}
  {f : Failure}

theorem codeKind_eq_alreadyExists_iff {code : Value} :
    codeKind code = .ok .resourceAlreadyExists ↔ code = .str "EntityAlreadyExists" := by
  cases code with
  | str s =>
    have hcode : codeKind (.str s) = .ok ((codeKinds.lookup s).getD .unknown) := rfl
    rw [hcode, Value.str.injEq, Except.ok.injEq]
    constructor
    · intro hkind
      cases hlookup : codeKinds.lookup s with
      | none =>
        rw [hlookup] at hkind
        cases hkind
      | some kind =>
        rw [hlookup, Option.getD_some] at hkind
        obtain ⟨before, after, hrows, _⟩ := List.lookup_eq_some_iff.mp hlookup
        have hrow : (s, kind) ∈ codeKinds := by simp [hrows]
        rw [hkind] at hrow
        simpa [codeKinds] using hrow
    · rintro rfl
      rfl
  | _ => simp [codeKind, Value.lookupKey, bind, Except.bind, pure, Except.pure]

/-- The creation and the table agree on which failures mean that the role is there. -/
theorem classify_alreadyExists_iff (huntagged : f.kind? = none) :
    classify f = .ok .resourceAlreadyExists ↔ alreadyExists f = true := by
  rw [classify, huntagged, alreadyExists]
  cases horigin : f.origin with
  | awsService code =>
    simp only [codeKind_eq_alreadyExists_iff]
    cases code <;> simp
  | awsLocal fault => cases fault <;> simp [classifyLocal]
  | _ => simp only [Except.ok.injEq]; split <;> simp

/-- A code that nothing can be looked up by is told of by a failure without a kind. -/
theorem kind?_of_classify_error {g : Failure} (hclassify : classify f = .error g) :
    g.kind? = none := by
  rw [classify] at hclassify
  split at hclassify
  · cases hclassify
  · split at hclassify
    · next code _ =>
      cases code with
      | array | object =>
        obtain rfl := Except.error.inj hclassify
        rfl
      | _ => cases hclassify
    · cases hclassify
    · cases hclassify

theorem createIdentity_creating (hopen : h.connected = true) {text : String}
    (htext : trustPolicyText r.tenantId r.trustConfig = .ok text) :
    (createIdentity h r).run = Program.creating (S := interface) (.createRole (creation r text))
      alreadyExists (converge h r (creation r text)).run
      fun response => .done (roleArn response) := by
  rw [createIdentity_run hopen r htext, Program.creating]
  congr 1
  funext answer
  cases answer <;> rfl

/-- A creation whose own call fails fetches the role if the failure says that it is there, and comes
to nothing but the failure otherwise. -/
theorem createIdentity_failed {new : RoleCreation} :
    let run := (createIdentity h r).run.run service state
    .called (.createRole new) (.error f) ∈ run.trace →
      (alreadyExists f = true ∧ ∃ answer, .called (.getRole r.identityName) answer ∈ run.trace) ∨
      (alreadyExists f = false ∧ run.trace = [.called (.createRole new) (.error f)] ∧
        run.result = .error f) := by
  intro run hmem
  have hopen : h.connected = true := by
    by_contra hclosed
    obtain ⟨e, hrun, _⟩ := perform_fails (Bool.eq_false_of_not_eq_true hclosed) (.createIdentity r)
    change (createIdentity h r).run = _ at hrun
    simp only [run, hrun] at hmem
    cases hmem
  cases htext : trustPolicyText r.tenantId r.trustConfig with
  | error e =>
    have hrun : (createIdentity h r).run = .done (.error e) := by
      rw [createIdentity, htext]
      rfl
    simp only [run, hrun] at hmem
    cases hmem
  | ok text =>
    have hrun := createIdentity_creating hopen htext
    simp only [run, hrun] at hmem ⊢
    have hfound : (converge h r (creation r text)).run.Calls
        fun d : Call => ¬ d.method = "create_role" := by
      refine (converge_obeys h r _).calls.mono fun d hd hmethod => ?_
      change Call.method d ∈ _ at hd
      rw [hmethod] at hd
      simp at hd
    have hmade (response : Value) : (Program.done (S := interface) (roleArn response)).Calls
        fun d : Call => ¬ d.method = "create_role" := trivial
    rcases Program.creating_failed hfound hmade (d := .createRole new) rfl hmem with
      ⟨habsorbed, after, htrace⟩ | hfatal
    · refine Or.inl ⟨habsorbed, ?_⟩
      rw [htrace, converge_run hopen]
      exact ⟨_, List.mem_cons_of_mem _ (List.mem_cons_of_mem _ List.mem_cons_self)⟩
    · exact Or.inr hfatal

/-- A role that is there is fetched just if the table takes the failure of the creation to mean
that; a failure of another kind is told as one of another kind. -/
theorem existing_role {c : ClientCall} {new : RoleCreation} (hasks : c.Asks (.createIdentity r))
    (huntagged : f.kind? = none) :
    let run := (Opened.mk adapter h).outcome service c state
    .called (.createRole new) (.error f) ∈ run.trace →
      ((∃ answer, .called (.getRole r.identityName) answer ∈ run.trace) ↔
        classify f = .ok .resourceAlreadyExists) ∧
      (classify f ≠ .ok .resourceAlreadyExists →
        ∃ g, run.result = .error g ∧ g.kind? ≠ some .resourceAlreadyExists) := by
  intro run hmem
  have hadmitted := ClientCall.admit_eq_ok_iff.mpr hasks
  simp only [run, Opened.called_mem_outcome_iff hadmitted] at hmem ⊢
  rw [classify_alreadyExists_iff huntagged, Opened.outcome_result hadmitted]
  rcases createIdentity_failed hmem with ⟨hexists, hfetched⟩ | ⟨hother, htrace, hresult⟩
  · refine ⟨iff_of_true hfetched hexists, fun hnot => absurd ?_ hnot⟩
    exact (classify_alreadyExists_iff huntagged).mpr hexists
  · have hunfetched : ¬ ∃ answer, .called (.getRole r.identityName) answer ∈
        ((createIdentity h r).run.run service state).trace := by
      rintro ⟨answer, hfetched⟩
      rw [htrace] at hfetched
      cases List.mem_singleton.mp hfetched
    have hnot : ¬ alreadyExists f = true := by simp [hother]
    refine ⟨iff_of_false hunfetched hnot, fun _ => ?_⟩
    have hperformed : ((Opened.mk adapter h).performed service (.createIdentity r) state).result =
      .error f := hresult
    obtain ⟨g, htold, hkind⟩ := AdapterCall.told_untagged (.createIdentity r)
      huntagged fun _ => kind?_of_classify_error
    refine ⟨g, by rw [hperformed]; exact htold, fun hsame => hnot ?_⟩
    exact (classify_alreadyExists_iff huntagged).mp ((hkind _).mp hsame)

end Aws

/-! ## Google Cloud -/

namespace Gcp

variable {h : Handle} {service : Service interface σ} {state : σ} {r : Request.CreateIdentity}
  {f : Failure}

theorem statusKind_eq_alreadyExists_iff {status : ApiStatus} :
    statusKind status = .resourceAlreadyExists ↔
      status.isA .alreadyExists = true ∨ status = .conflict := by
  cases status <;> decide

/-- The table goes further than the creation: to it, a plain conflict means that the resource is
there, too. -/
theorem classify_alreadyExists_iff (huntagged : f.kind? = none) :
    classify f = .ok .resourceAlreadyExists ↔
      alreadyExists f = true ∨ f.origin = .googleApi .conflict := by
  rw [classify, huntagged, alreadyExists]
  cases horigin : f.origin with
  | googleApi status => simp [statusKind_eq_alreadyExists_iff]
  | googleAuth fault =>
    cases fault <;> simp [authKind, AuthFault.isDefaultCredentials, AuthFault.isRefresh]
  | _ => simp

theorem not_conflict_of_alreadyExists (hexists : alreadyExists f = true) :
    f.origin ≠ .googleApi .conflict := by
  intro horigin
  rw [alreadyExists, horigin] at hexists
  cases hexists

/-- What a creation does once it has the address of the account. -/
def granting (h : Handle) (r : Request.CreateIdentity) (email : String) :
    Action interface Value := do
  grantTrusted h email (projectId r.tenantId) r.trustConfig
  pure (.str email)

theorem createIdentity_creating (hopen : h.accounts = true) :
    let project := projectId r.tenantId
    (createIdentity h r).run = Program.creating (S := interface) (creationCall r project)
      alreadyExists
      (.log (reusingEntry r) (h.request .accounts (.getAccount (accountName r.identityName project))
        >>= granting h r).run)
      fun email => (granting h r email).run := by
  intro project
  have hcreate : createAccount h r project = ExceptT.mk (Program.creating (S := interface)
      (creationCall r project) alreadyExists
      (.log (reusingEntry r)
        (h.request .accounts (.getAccount (accountName r.identityName project))).run)
      fun email => .done (.ok email)) := by
    rw [← ExceptT.mk_run (createAccount h r project), createAccount_run hopen, Program.creating]
    congr 2
    funext answer
    cases answer <;> rfl
  change (createAccount h r project >>= granting h r).run = _
  rw [hcreate, Program.creating_bind]
  rfl

theorem granting_calls (h : Handle) (r : Request.CreateIdentity) (email : String) :
    (granting h r email).run.Calls fun d : Call => ¬ d.method = "create_service_account" := by
  have hobeys := Action.obeys_bind_pure (grantTrusted_obeys h email (projectId r.tenantId)
    r.trustConfig) fun _ => Value.str email
  refine hobeys.calls.mono fun d hd hmethod => ?_
  change Call.method d ∈ _ at hd
  rw [hmethod] at hd
  simp at hd

/-- A creation whose own call fails fetches the account if the failure says that it is there, and
comes to nothing but the failure otherwise. -/
theorem createIdentity_failed {project id display description : String} :
    let run := (createIdentity h r).run.run service state
    .called (.createAccount project id display description) (.error f) ∈ run.trace →
      (alreadyExists f = true ∧ ∃ answer, .called
        (.getAccount (accountName r.identityName (projectId r.tenantId))) answer ∈ run.trace) ∨
      (alreadyExists f = false ∧
        run.trace = [.called (.createAccount project id display description) (.error f)] ∧
        run.result = .error f) := by
  intro run hmem
  have hopen : h.accounts = true := by
    by_contra hclosed
    have hrequest : ∃ e, (createAccount h r (projectId r.tenantId)).run = .done (.error e) := by
      rw [createAccount, Handle.request, if_neg hclosed]
      exact ⟨_, rfl⟩
    obtain ⟨e, hrun⟩ := hrequest
    have hrun : (createIdentity h r).run = .done (.error e) := by
      change (createAccount h r _ >>= granting h r).run = _
      rw [ExceptT.run_bind, hrun]
      rfl
    simp only [run, hrun] at hmem
    cases hmem
  have hrun := createIdentity_creating (r := r) hopen
  simp only [run, hrun] at hmem ⊢
  have hfetch : (h.request .accounts
      (.getAccount (accountName r.identityName (projectId r.tenantId)))).run.Calls
        fun d : Call => ¬ d.method = "create_service_account" := by
    refine (obeys_request h .accounts (.getAccount _)).calls.mono fun d hd hmethod => ?_
    change Call.method d ∈ _ at hd
    rw [hmethod] at hd
    simp [Call.method] at hd
  have hfound : (Program.log (reusingEntry r) _).Calls _ :=
    Action.calls_bind hfetch fun email => granting_calls h r email
  rcases Program.creating_failed hfound (granting_calls h r)
    (d := .createAccount project id display description) rfl hmem with
    ⟨habsorbed, after, htrace⟩ | hfatal
  · refine Or.inl ⟨habsorbed, ?_⟩
    rw [htrace, Handle.request, if_pos hopen]
    exact ⟨_, List.mem_cons_of_mem _ (List.mem_cons_of_mem _ List.mem_cons_self)⟩
  · exact Or.inr hfatal

/-- An account that is there is fetched just if the table takes the failure of the creation to mean
that and it is no plain conflict. A failure after which nothing is fetched is told as an existing
resource just if it is one. -/
theorem existing_account {c : ClientCall} {project id display description : String}
    (hasks : c.Asks (.createIdentity r)) (huntagged : f.kind? = none) :
    let run := (Opened.mk adapter h).outcome service c state
    let fetched := ∃ answer, .called
      (.getAccount (accountName r.identityName (projectId r.tenantId))) answer ∈ run.trace
    .called (.createAccount project id display description) (.error f) ∈ run.trace →
      (fetched ↔ classify f = .ok .resourceAlreadyExists ∧ f.origin ≠ .googleApi .conflict) ∧
      (¬ fetched → ∃ g, run.result = .error g ∧
        (g.kind? = some .resourceAlreadyExists ↔ f.origin = .googleApi .conflict)) := by
  intro run fetched hmem
  have hadmitted := ClientCall.admit_eq_ok_iff.mpr hasks
  simp only [run, fetched, Opened.called_mem_outcome_iff hadmitted] at hmem ⊢
  rw [classify_alreadyExists_iff huntagged, Opened.outcome_result hadmitted]
  rcases createIdentity_failed hmem with ⟨hexists, hfetched⟩ | ⟨hother, htrace, hresult⟩
  · have hplain := not_conflict_of_alreadyExists hexists
    exact ⟨iff_of_true hfetched ⟨.inl hexists, hplain⟩, fun hnot => absurd hfetched hnot⟩
  · have hunfetched : ¬ ∃ answer, .called
        (.getAccount (accountName r.identityName (projectId r.tenantId))) answer ∈
          ((createIdentity h r).run.run service state).trace := by
      rintro ⟨answer, hfetched⟩
      rw [htrace] at hfetched
      cases List.mem_singleton.mp hfetched
    have hnot : ¬ alreadyExists f = true := by simp [hother]
    refine ⟨iff_of_false hunfetched fun h => (h.1.resolve_left hnot |> h.2), fun _ => ?_⟩
    have hperformed : ((Opened.mk adapter h).performed service (.createIdentity r) state).result =
      .error f := hresult
    obtain ⟨g, htold, hkind⟩ := AdapterCall.told_untagged (.createIdentity r)
      huntagged fun e he => absurd he (classify_ne_error f e)
    refine ⟨g, by rw [hperformed]; exact htold, ?_⟩
    rw [hkind, classify_alreadyExists_iff huntagged]
    exact ⟨fun h => h.resolve_left hnot, .inr⟩

end Gcp

/-! ## Both adapters -/

/-- What it means that an identity is there is decided twice, by the creation and by the table of
kinds. Whatever the service answers to the call that creates, if it is an untagged failure: on AWS
the role is fetched just if the table takes the failure to mean that it is there, and otherwise the
caller is told of a failure of another kind. On Google Cloud the same holds but for a plain
conflict, after which nothing is fetched and the caller is told that the resource exists. -/
theorem existing_identity_fetched {c : ClientCall} {r : Request.CreateIdentity} {f : Failure}
    (hasks : c.Asks (.createIdentity r)) (huntagged : f.kind? = none) :
    (∀ (σ : Type) (service : Service Aws.interface σ) (h : Aws.Handle) (state : σ)
      (new : Aws.RoleCreation),
      let run := (Opened.mk Aws.adapter h).outcome service c state
      .called (.createRole new) (.error f) ∈ run.trace →
        ((∃ answer, .called (.getRole r.identityName) answer ∈ run.trace) ↔
          Aws.classify f = .ok .resourceAlreadyExists) ∧
        (Aws.classify f ≠ .ok .resourceAlreadyExists →
          ∃ g, run.result = .error g ∧ g.kind? ≠ some .resourceAlreadyExists)) ∧
    ∀ (σ : Type) (service : Service Gcp.interface σ) (h : Gcp.Handle) (state : σ)
      (project id display description : String),
      let run := (Opened.mk Gcp.adapter h).outcome service c state
      let account := Gcp.accountName r.identityName (Gcp.projectId r.tenantId)
      let fetched := ∃ answer, .called (.getAccount account) answer ∈ run.trace
      .called (.createAccount project id display description) (.error f) ∈ run.trace →
        (fetched ↔
          Gcp.classify f = .ok .resourceAlreadyExists ∧ f.origin ≠ .googleApi .conflict) ∧
        (¬ fetched → ∃ g, run.result = .error g ∧
          (g.kind? = some .resourceAlreadyExists ↔ f.origin = .googleApi .conflict)) := by
  constructor
  · intro σ service h state new
    exact Aws.existing_role hasks huntagged
  · intro σ service h state project id display description
    exact Gcp.existing_account hasks huntagged

/-- The creation of an identity by name and tenant, without trust and options. -/
def plainCreation (identityName tenantId : String) : ClientCall :=
  .createIdentity
    { identityName := .plain (.str identityName), description := .plain .null
      tenantId := .plain (.str tenantId), region := .plain .null
      trustConfig := .present .null, options := .present .null }

theorem asks_plainCreation {identityName tenantId : String}
    (hidentity : ∃ c ∈ identityName.toList, Text.isBlank c = false)
    (htenant : ∃ c ∈ tenantId.toList, Text.isBlank c = false) :
    (plainCreation identityName tenantId).Asks
      (.createIdentity { identityName := identityName, tenantId := tenantId }) :=
  .createIdentity ⟨rfl, hidentity⟩ ⟨rfl, htenant⟩ rfl rfl .absent .absent rfl rfl

/-- Accounts that are all there, while their creation fails in one way. -/
def Gcp.refusing (status : ApiStatus) : Service Gcp.interface Unit where
  answer
    | .createAccount .., state => (.error (Failure.googleApi status "ci" none), state)
    | .getAccount name, state => (.ok name, state)
    | c, state => (.error (Failure.googleApi .notFound c.method none), state)

/-- A role of which the service says that it is there is fetched; so is an account. An account whose
creation was aborted, which is a conflict of its own, is not. -/
theorem existing_identity_fetched_refined :
    let create := plainCreation "ci" "p"
    let account := Gcp.accountName "ci" (Gcp.projectId "p")
    let present := Failure.awsService "EntityAlreadyExists" "ci" "CreateRole"
    let roles : Service Aws.interface Unit := ⟨fun _ state => (.error present, state)⟩
    let onAws := (Opened.mk Aws.adapter ⟨true, none⟩).outcome roles create ()
    let onGcp (status : ApiStatus) :=
      (Opened.mk Gcp.adapter ⟨true, true, none⟩).outcome (Gcp.refusing status) create ()
    (∃ answer, .called (.getRole "ci") answer ∈ onAws.trace) ∧
    (∃ answer, .called (.getAccount account) answer ∈ (onGcp .alreadyExists).trace) ∧
    ∃ g, (onGcp .aborted).result = .error g ∧ g.kind? ≠ some .resourceAlreadyExists := by
  intro create account present roles onAws onGcp
  have hasks : create.Asks (.createIdentity { identityName := "ci", tenantId := "p" }) :=
    asks_plainCreation ⟨'c', by decide, by decide⟩ ⟨'p', by decide, by decide⟩
  obtain ⟨hroles, _⟩ := existing_identity_fetched (f := present) hasks rfl
  have haccounts (status : ApiStatus) :=
    (existing_identity_fetched (f := Failure.googleApi status "ci" none) hasks rfl).2
  have hcreated (status : ApiStatus) : ∃ project id display description, .called
      (.createAccount project id display description)
        (.error (Failure.googleApi status "ci" none)) ∈ (onGcp status).trace :=
    ⟨_, _, _, _, List.mem_cons_of_mem _ List.mem_cons_self⟩
  refine ⟨?_, ?_, ?_⟩
  · have hrole : ∃ new, .called (.createRole new) (.error present) ∈ onAws.trace :=
      ⟨_, List.mem_cons_of_mem _ List.mem_cons_self⟩
    obtain ⟨new, hmem⟩ := hrole
    exact (hroles Unit roles _ () new hmem).1.mpr rfl
  · obtain ⟨_, _, _, _, hmem⟩ := hcreated .alreadyExists
    exact (haccounts .alreadyExists Unit _ _ () _ _ _ _ hmem).1.mpr ⟨rfl, nofun⟩
  · obtain ⟨_, _, _, _, hmem⟩ := hcreated .aborted
    obtain ⟨hfetched, htold⟩ := haccounts .aborted Unit _ _ () _ _ _ _ hmem
    have hunfetched : ¬ ∃ answer, .called (.getAccount account) answer ∈ (onGcp .aborted).trace :=
      fun h => nomatch (hfetched.mp h).1
    obtain ⟨g, hg, hkind⟩ := htold hunfetched
    exact ⟨g, hg, fun h => nomatch hkind.mp h⟩

/-- The table takes a plain conflict to mean that the account is there, and it is. The creation does
not fetch it: the caller is told that the resource exists. -/
theorem plain_conflict_not_fetched :
    let run := (Opened.mk Gcp.adapter ⟨true, true, none⟩).outcome (Gcp.refusing .conflict)
      (plainCreation "ci" "p") ()
    let account := Gcp.accountName "ci" (Gcp.projectId "p")
    let conflict := Failure.googleApi .conflict "ci" none
    (∃ project id display description,
      .called (.createAccount project id display description) (.error conflict) ∈ run.trace) ∧
    Gcp.classify conflict = .ok .resourceAlreadyExists ∧
    (¬ ∃ answer, .called (.getAccount account) answer ∈ run.trace) ∧
    ∃ g, run.result = .error g ∧ g.kind? = some .resourceAlreadyExists := by
  intro run account conflict
  refine ⟨⟨_, _, _, _, List.mem_cons_of_mem _ List.mem_cons_self⟩, rfl, ?_, _, rfl, rfl⟩
  rintro ⟨answer, hmem⟩
  have hcalls : Report.calls run.trace = [.createAccount "p" "ci" "ci" ""] := rfl
  have hcalled := Program.called_mem_calls hmem
  rw [hcalls] at hcalled
  cases List.mem_singleton.mp hcalled

end CloudIdentity

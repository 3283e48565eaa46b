import CloudIdentity.Proofs.Client.Discipline
import CloudIdentity.Proofs.Client.Lifetime

/-!
Both adapters have custody of their clients. The AWS adapter constructs one for roles, and before
that, where a role has to be assumed, one for tokens which it closes again; the adapter for Google
Cloud constructs two and closes the first if the second cannot be constructed.
-/

namespace CloudIdentity

open Document InMemory

variable {S : Interface} {α β : Type}

/-! ## Actions that fail at once -/

theorem Failure.IsOfKind.coded {f : Failure} {kind : Kind} (h : f.IsOfKind kind) : f.Coded := by
  intro code horigin
  rw [h.origin] at horigin
  cases horigin

theorem Document.serialize_error_coded {what : String} {v : Value} {f : Failure}
    (h : serialize what v = .error f) : f.Coded :=
  (serialize_error h).1.coded

/-- The action fails without a call, and tells of no error code. -/
def Action.FailsAtOnce (action : Action S α) : Prop :=
  ∃ f : Failure, action.run = .done (.error f) ∧ f.Coded

namespace Action.FailsAtOnce

theorem bind {x : Action S α} (h : x.FailsAtOnce) (f : α → Action S β) :
    (x >>= f).FailsAtOnce := by
  obtain ⟨e, hx, hcoded⟩ := h
  exact ⟨e, by rw [ExceptT.run_bind, hx]; rfl, hcoded⟩

theorem of_kind {f : Failure} {kind : Kind} (h : f.IsOfKind kind) :
    (Action.fail f : Action S α).FailsAtOnce :=
  ⟨f, rfl, h.coded⟩

theorem closedClient (method : String) :
    (Action.fail (CloudIdentity.closedClient method) : Action S α).FailsAtOnce :=
  ⟨_, rfl, nofun⟩

theorem ofExcept_bind {result : Except Failure α} {f : α → Action S β}
    (hresult : ∀ e, result = .error e → e.Coded) (h : ∀ a, (f a).FailsAtOnce) :
    (Action.ofExcept result >>= f).FailsAtOnce := by
  cases result with
  | ok a => exact h a
  | error e => exact bind ⟨e, rfl, hresult e rfl⟩ f

/-- A failure that is looked at fails if what is made of it does. -/
theorem attempt_bind {x : Action S α} {e : Failure} (hx : x.run = .done (.error e))
    {f : Except Failure α → Action S β} (h : (f (.error e)).FailsAtOnce) :
    (x.attempt >>= f).FailsAtOnce := by
  obtain ⟨e', hrun, hcoded⟩ := h
  refine ⟨e', ?_, hcoded⟩
  rw [ExceptT.run_bind, Action.run_attempt, hx]
  exact hrun

end Action.FailsAtOnce

/-! ## AWS -/

namespace Aws

/-- The clients for AWS: one for roles, and one to assume a role with. -/
inductive Client where
  | roles
  | tokens
  deriving DecidableEq

def clients : Clients interface Client where
  made
    | .connectTokens .. => some .tokens
    | .connect .. => some .roles
    | _ => none
  closed
    | .closeTokens => some .tokens
    | .close => some .roles
    | _ => none

/-- The client for tokens is closed before the adapter is there. -/
def Handle.holds (h : Handle) : Client → Bool
  | .roles => h.connected
  | .tokens => false

theorem neutral_of_method {c : Call} {operation : Operation}
    (h : c.method ∈ methods operation) : clients.Neutral c := by
  cases operation <;> cases c <;> first | exact ⟨rfl, rfl⟩ | simp [methods, Call.method] at h

theorem request_fails {h : Handle} (hclosed : h.connected = false) (c : Call) :
    (h.request c).FailsAtOnce := by
  rw [Handle.request, hclosed, if_neg Bool.false_ne_true]
  exact .closedClient _

theorem required_bind_fails {name : String} {text : Option String} {f : String → Action interface β}
    (h : ∀ s, (f s).FailsAtOnce) : (required name text >>= f).FailsAtOnce := by
  unfold required
  split
  · exact h _
  · exact .bind (.of_kind (Failure.isOfKind_ofKind .invalidArgument _)) f

theorem perform_fails {h : Handle} (hclosed : h.connected = false) (a : AdapterCall) :
    (a.perform adapter h).FailsAtOnce := by
  cases a with
  | createIdentity r =>
    exact .ofExcept_bind (fun _ => serialize_error_coded) fun text =>
      .attempt_bind (request_closed hclosed _) (.closedClient _)
  | getIdentity r => exact (request_fails hclosed _).bind _
  | deleteIdentity r => exact (request_fails hclosed _).bind _
  | removePolicy r => exact (request_fails hclosed _).bind _
  | attachInlinePolicy r =>
    refine required_bind_fails fun name => ?_
    simp only [hclosed, Bool.false_eq_true, if_false]
    exact .closedClient _
  | getInlinePolicyDetails r =>
    exact required_bind_fails fun role => required_bind_fails fun policy =>
      (request_fails hclosed _).bind _
  | getAttachedPolicies r =>
    exact required_bind_fails fun role => (request_fails hclosed _).bind _

theorem disconnect_yields (h : Handle) :
    (disconnect h).Yields (clients.Closed Handle.holds h) := by
  unfold disconnect
  split
  next hopen =>
    intro answer
    have hleft : Handle.holds { h with connected := false } =
        Function.update h.holds .roles false := by
      funext k
      cases k <;> rfl
    refine ⟨?_, fun k => by cases answer <;> rfl, fun _ k => by cases k <;> rfl⟩
    rw [hleft]
    exact clients.balanced_closing .roles .close rfl rfl answer hopen
  next hopen =>
    refine ⟨Clients.balanced_nil _, fun k => rfl, fun _ k => ?_⟩
    cases k
    · exact Bool.eq_false_iff.mpr hopen
    · rfl

def custody : Custody adapter clients where
  holds := Handle.holds
  lawful := lawful_classify
  performs h a := (perform_obeys h a).calls.mono fun _ => neutral_of_method
  closes := disconnect_yields
  performs_nothing h hnothing a := perform_fails (hnothing .roles) a
  closes_nothing h hnothing := by
    have hclosed : h.connected = false := hnothing .roles
    simp only [adapter, disconnect, hclosed, Bool.false_eq_true, if_false]
    rfl

/-- What resolving the keys leaves: at most a client for tokens was constructed, and nothing is
held. -/
structure Resolved (trace : List (Event interface)) : Prop where
  roles : clients.constructions .roles trace = 0
  tokens : clients.constructions .tokens trace ≤ 1
  balanced : clients.Balanced (fun _ => false) trace fun _ => false

theorem resolved_nil : Resolved [] := ⟨rfl, Nat.zero_le 1, Clients.balanced_nil _⟩

theorem assumeRole_yields (c : Configuration) (o : CredentialsOverride) :
    (assumeRole c o).run.Yields fun trace _ => Resolved trace := by
  have hfailed (e : Failure) : Resolved
      [.called (.connectTokens (configuredKeys c) c.regionName) (.error e)] :=
    ⟨rfl, Nat.zero_le 1, fun k => by cases k <;> rfl⟩
  have hclosed (assumed : Except Failure Value) (closed : Except Failure Unit) : Resolved
      [.called (.connectTokens (configuredKeys c) c.regionName) (.ok ()),
        .called (.assumeRole o.role o.sessionName o.durationSeconds) assumed,
        .called .closeTokens closed] := by
    cases assumed <;> cases closed <;>
      exact ⟨rfl, Nat.le_refl 1, fun k => by cases k <;> rfl⟩
  refine Action.yields_request_bind hfailed fun _ => Action.yields_attempt_bind fun assumed =>
    Action.yields_request_bind (fun e => hclosed assumed (.error e)) fun _ => ?_
  have hok := hclosed assumed (.ok ())
  exact Action.yields_ofExcept_bind (fun _ => hok) fun response =>
    Action.yields_ofExcept_bind (fun _ => hok) fun credentials =>
      Action.yields_ofExcept fun _ => hok

theorem resolveKeys_yields (c : Configuration) :
    (resolveKeys c).run.Yields fun trace _ => Resolved trace := by
  unfold resolveKeys
  split
  · exact resolved_nil
  · split
    · exact resolved_nil
    · exact assumeRole_yields c _

theorem Resolved.once {trace : List (Event interface)} (h : Resolved trace) (k : Client) :
    clients.constructions k trace ≤ 1 := by
  cases k with
  | roles => exact h.roles ▸ Nat.zero_le 1
  | tokens => exact h.tokens

/-- With the keys the client for roles is constructed, which the handle holds. -/
theorem Resolved.connected {trace : List (Event interface)} (h : Resolved trace) (keys : Keys)
    (c : Configuration) (answer : Except Failure Unit) :
    custody.Acquired (trace ++ [.called (.connect keys c.regionName c.endpointUrl) answer])
      ((fun _ => ⟨true, c.regionName⟩) <$> answer) := by
  refine ⟨fun k => ?_, h.balanced.trans fun k => ?_⟩
  · rw [Clients.constructions_append]
    cases k with
    | roles =>
      rw [h.roles, Nat.zero_add]
      exact List.countP_le_length
    | tokens => cases answer <;> exact h.tokens
  · cases answer <;> cases k <;> rfl

theorem connect_yields (c : Configuration) : (connect c).run.Yields custody.Acquired := by
  refine Action.yields_bind (resolveKeys_yields c) ?_ ?_
  · exact fun trace e h => ⟨h.once, h.balanced⟩
  · exact fun trace keys h => Action.yields_request_bind (fun e => h.connected keys c (.error e))
      fun _ => h.connected keys c (.ok ())

theorem openClient_opens (env : Environment) (members : Members) :
    custody.Opens (openClient env members) := by
  refine custody.opens ?_ connect_yields
  rw [Action.run_ofExcept]
  trivial

end Aws

/-! ## Google Cloud -/

namespace Gcp

def clients : Clients interface Client where
  made
    | .connect client _ _ => some client
    | _ => none
  closed
    | .close client => some client
    | _ => none

def Handle.holds (h : Handle) : Client → Bool
  | .projects => h.projects
  | .accounts => h.accounts

theorem neutral_of_method {c : Call} {operation : Operation}
    (h : c.method ∈ methods operation) : clients.Neutral c := by
  cases operation <;> cases c <;> first | exact ⟨rfl, rfl⟩ | simp [methods, Call.method] at h

theorem request_closed {h : Handle} {client : Client} (hclosed : h.holds client = false)
    (c : Call) :
    (h.request client c).run = .done (.error (closedClient c.method)) := by
  cases client <;> simp only [Handle.holds] at hclosed <;>
    simp only [Handle.request, hclosed, Bool.false_eq_true, if_false] <;> rfl

theorem request_fails {h : Handle} {client : Client} (hclosed : h.holds client = false) (c : Call) :
    (h.request client c).FailsAtOnce :=
  ⟨_, request_closed hclosed c, nofun⟩

theorem required_bind_fails {name : String} {text : Option String} {f : String → Action interface β}
    (h : ∀ s, (f s).FailsAtOnce) : (required name text >>= f).FailsAtOnce := by
  unfold required
  split
  · exact h _
  · exact .bind (.of_kind (Failure.isOfKind_ofKind .invalidArgument _)) f

theorem attachedMember_bind_fails {r : Request.AttachInlinePolicy} {project : String}
    {f : String → Action interface β} (h : ∀ member, (f member).FailsAtOnce) :
    (attachedMember r project >>= f).FailsAtOnce := by
  unfold attachedMember
  split
  · exact h _
  · rw [bind_assoc]
    exact required_bind_fails fun _ => h _

theorem perform_fails {h : Handle} (hclosed : ∀ client, h.holds client = false) (a : AdapterCall) :
    (a.perform adapter h).FailsAtOnce := by
  have hpolicy (project : String) : (projectPolicy h project).FailsAtOnce :=
    (request_fails (hclosed .projects) _).bind _
  cases a with
  | createIdentity r =>
    have hcreate : (createAccount h r (projectId r.tenantId)).FailsAtOnce :=
      .attempt_bind (request_closed (hclosed .accounts) _) (.closedClient _)
    exact hcreate.bind _
  | getIdentity r => exact (request_fails (hclosed .accounts) _).bind _
  | deleteIdentity r => exact (request_fails (hclosed .accounts) _).bind _
  | removePolicy r => exact (hpolicy _).bind _
  | attachInlinePolicy r =>
    exact required_bind_fails fun tenant => attachedMember_bind_fails fun member =>
      (hpolicy _).bind _
  | getInlinePolicyDetails r => exact .of_kind (Failure.isOfKind_ofKind .unsupportedOperation _)
  | getAttachedPolicies r =>
    exact required_bind_fails fun tenant => required_bind_fails fun identity => (hpolicy _).bind _

/-- The client for accounts is the last one to be closed. -/
theorem closeAccounts_yields {h : Handle} (hprojects : h.projects = false) :
    h.closeAccounts.Yields (clients.Closed Handle.holds h) := by
  unfold Handle.closeAccounts
  split
  next haccounts =>
    intro answer
    have hleft : Handle.holds { h with accounts := false } =
        Function.update h.holds .accounts false := by
      funext k
      cases k <;> rfl
    refine ⟨?_, fun k => by cases answer <;> rfl, fun _ k => by cases k <;> trivial⟩
    rw [hleft]
    exact clients.balanced_closing .accounts (.close .accounts) rfl rfl answer haccounts
  next haccounts =>
    refine ⟨Clients.balanced_nil _, fun k => rfl, fun _ k => ?_⟩
    cases k
    · exact hprojects
    · exact Bool.eq_false_iff.mpr haccounts

theorem close_yields (h : Handle) : h.close.Yields (clients.Closed Handle.holds h) := by
  unfold Handle.close
  split
  next hprojects =>
    have hclosed (answer : Except Failure Unit) : clients.Balanced h.holds
        [.called (.close .projects) answer] (Handle.holds { h with projects := false }) := by
      have hleft : Handle.holds { h with projects := false } =
          Function.update h.holds .projects false := by
        funext k
        cases k <;> rfl
      rw [hleft]
      exact clients.balanced_closing .projects (.close .projects) rfl rfl answer hprojects
    intro answer
    cases answer with
    | error e => exact ⟨hclosed (.error e), fun k => rfl, nofun⟩
    | ok _ =>
      refine (closeAccounts_yields (h := { h with projects := false }) rfl).mono
        fun trace result hrest =>
          ⟨(hclosed (.ok ())).trans hrest.balanced, fun k => ?_, hrest.nothing⟩
      exact hrest.constructions k
  next hprojects => exact closeAccounts_yields (Bool.eq_false_iff.mpr hprojects)

def custody : Custody adapter clients where
  holds := Handle.holds
  lawful := lawful_classify
  performs h a := (perform_obeys h a).calls.mono fun _ => neutral_of_method
  closes := close_yields
  performs_nothing h hnothing a := perform_fails hnothing a
  closes_nothing h hnothing := by
    have hprojects : h.projects = false := hnothing .projects
    have haccounts : h.accounts = false := hnothing .accounts
    simp only [adapter, Handle.close, Handle.closeAccounts, hprojects, haccounts,
      Bool.false_eq_true, if_false]
    rfl

theorem calls_resolveCredentials (c : Configuration) :
    (resolveCredentials c).run.Calls clients.Neutral := by
  unfold resolveCredentials
  split
  · trivial
  · split
    · trivial
    · rw [map_eq_pure_bind]
      refine Action.calls_bind ?_ fun _ => trivial
      unfold impersonate
      split
      · trivial
      · exact Action.calls_bind ⟨⟨rfl, rfl⟩, fun _ => trivial⟩ fun _ => trivial

theorem calls_validate (env : Environment) (members : Members) :
    (Configuration.validate env members).run.Calls clients.Neutral := by
  unfold Configuration.validate
  split
  · unfold Configuration.load
    split
    · trivial
    · dsimp only
      split
      · refine ⟨⟨rfl, rfl⟩, fun answer => ?_⟩
        cases answer <;> trivial
      · trivial
  · trivial

/-- If the second client cannot be constructed, the first one is closed again. -/
theorem connect_yields (c : Configuration) : (connect c).run.Yields custody.Acquired := by
  refine Action.yields_bind (calls_resolveCredentials c).yields
    (fun trace e hneutral => custody.acquired_nothing hneutral e)
    fun trace credentials hneutral => ?_
  refine Program.Yields.mono (Q := custody.Acquired) ?_ fun rest result h => h.after hneutral
  refine Action.yields_request_bind (fun e => ?_) fun _ =>
    Action.yields_attempt_bind fun answer => ?_
  · exact ⟨fun k => by cases k <;> exact Nat.zero_le 1, fun k => by cases k <;> rfl⟩
  · cases answer with
    | ok _ => exact ⟨fun k => by cases k <;> exact Nat.le_refl 1, fun k => by cases k <;> rfl⟩
    | error e =>
      intro closed
      cases closed <;>
        exact ⟨fun k => by cases k <;> first | exact Nat.le_refl 1 | exact Nat.zero_le 1,
          fun k => by cases k <;> rfl⟩

theorem openClient_opens (env : Environment) (members : Members) :
    custody.Opens (openClient env members) :=
  custody.opens (calls_validate env members) connect_yields

end Gcp

/-! ## Both adapters -/

/-- Every client of a provider's library is released exactly once. Whatever the configuration and
whatever the service answers, clients to assume a role with included: an opening that fails has
closed what it has constructed; whatever steps an opened client is taken through, none of its
clients is closed twice; and once closing has returned, each has been closed, later closings do
nothing, and later operations fail as the client's without a call. -/
theorem clients_released_once (env : Environment) (members : Members) :
    (∀ {σ : Type} (service : Service Aws.interface σ) (state : σ),
      Aws.clients.ReleasedOnce service ((Aws.openClient env members).run.run service state)) ∧
    ∀ {σ : Type} (service : Service Gcp.interface σ) (state : σ),
      Gcp.clients.ReleasedOnce service ((Gcp.openClient env members).run.run service state) :=
  ⟨Aws.custody.releasedOnce (Aws.openClient_opens env members),
    Gcp.custody.releasedOnce (Gcp.openClient_opens env members)⟩

/-- The first of two clients fails to close. Closing again closes the second one, and then the books
are settled: each was constructed once and closed once, and a later operation makes no call. -/
theorem clients_released_once_failing_close :
    let broken : Failure := Failure.googleApi .apiError "broken pipe" none
    let service : Service Gcp.interface Unit :=
      { answer := fun c state =>
          match c with
          | .connect .. | .close .accounts => (.ok (), state)
          | _ => (.error broken, state) }
    let env : Environment := { value := fun _ => none, fileExists := fun _ => false }
    let opening := (Gcp.openClient env []).run.run service ()
    let lookup : Step :=
      .client (.getIdentity (.plain (.str "ci")) (.plain (.str "p")) (.plain .null))
    ∃ o first second third, opening.result = .ok o ∧
      o.turns service [.close, .close, lookup] opening.state = [first, second, third] ∧
      first.result = .error broken ∧ second.result = .ok .null ∧ third.Idle ∧
      ∀ k, Gcp.clients.constructions k (opening.trace ++ Turn.traces [first, second]) = 1 ∧
        Gcp.clients.closings k (opening.trace ++ Turn.traces [first, second]) = 1 := by
  intro broken service env opening lookup
  let o : Opened Gcp.interface Gcp.Handle := ⟨Gcp.adapter, true, true, none⟩
  have hopened : opening.result = .ok o := rfl
  obtain ⟨first, second, third, hturns, hfirst, hsecond, hclose, hmade⟩ :
      ∃ first second third, o.turns service [.close, .close, lookup] () = [first, second, third] ∧
        first.result = .error broken ∧ second.result = .ok .null ∧ second.step = .close ∧
        ∀ k, Gcp.clients.constructions k (opening.trace ++ Turn.traces [first, second]) = 1 :=
    ⟨_, _, _, rfl, rfl, rfl, rfl, fun k => by cases k <;> rfl⟩
  obtain ⟨hsettled, hidle⟩ := ((clients_released_once env []).2 service ()).closed o
    [.close, .close, lookup] [first] second [third] .null hopened hturns hclose hsecond
  refine ⟨o, first, second, third, hopened, hturns, hfirst, hsecond,
    hidle third (List.mem_singleton_self third), fun k => ⟨hmade k, ?_⟩⟩
  exact (hsettled k).trans (hmade k)

end CloudIdentity

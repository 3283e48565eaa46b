import CloudIdentity.Proofs.Gcp.AccountStore
import CloudIdentity.Proofs.Gcp.Conditions
import CloudIdentity.Proofs.Service.Attempts

/-!
Creating an identity on Google Cloud can be repeated until it succeeds. A call may fail between the
creation of the account and the grant of its use, and leave the account ungranted; the next attempt
finds the account and goes on from there. Once an attempt has returned, no later one writes a
policy.
-/

namespace CloudIdentity.Gcp

open Document

/-! ## Traces -/

/-- No policy is written. -/
def Quiet (trace : List (Event interface)) : Prop :=
  ∀ c answer, Event.called c answer ∈ trace → c.Sparing

/-- No call fails, unless it is to create an account that exists. -/
def Unfailing (trace : List (Event interface)) : Prop :=
  ∀ c f, Event.called c (.error f) ∈ trace → alreadyExists f = true ∧
    ∃ project id displayName description, c = .createAccount project id displayName description

theorem quiet_nil : Quiet [] := by
  intro c answer hmem
  cases hmem

theorem Quiet.append {trace more : List (Event interface)} (h : Quiet trace) (h' : Quiet more) :
    Quiet (trace ++ more) := fun c answer hmem =>
  (List.mem_append.mp hmem).elim (h c answer) (h' c answer)

theorem Quiet.called {c : Call} (hquiet : c.Sparing)
    (answer : Except Failure (interface.Reply c)) : Quiet [.called c answer] := by
  intro c' answer' hmem
  cases List.mem_singleton.mp hmem
  exact hquiet

theorem Quiet.logged (entry : Journal.Entry) : Quiet [.logged entry] := by
  intro c answer hmem
  cases List.mem_singleton.mp hmem

theorem Unfailing.of_append {trace more : List (Event interface)} (h : Unfailing (trace ++ more)) :
    Unfailing trace ∧ Unfailing more :=
  ⟨fun c f hmem => h c f (List.mem_append_left more hmem),
    fun c f hmem => h c f (List.mem_append_right trace hmem)⟩

theorem Unfailing.tail {e : Event interface} {trace : List (Event interface)}
    (h : Unfailing (e :: trace)) : Unfailing trace := fun c f hmem =>
  h c f (List.mem_cons_of_mem e hmem)

/-- The calls that read an account or its policy. -/
def Call.Reading : Call → Prop
  | .getAccount _ | .getPolicy .. => True
  | _ => False

theorem Call.Reading.sparing {c : Call} (h : c.Reading) : c.Sparing := by
  cases c with
  | setPolicy _ _ _ => exact h.elim
  | _ => trivial

/-! ## Parts of an attempt -/

variable {σ α β : Type} {service : Service interface σ} {id project : String}

/-- What a part of a creation may come to, from a state with such accounts: they have only grown by
what is asked for, they are left alone if the account has been granted to the members before, the
part returns with what it is to bring about, and if the client is open it returns unless a call
fails. -/
structure Attempt (store : AccountStore service id project) (members : List String) (isOpen : Bool)
    (before : Accounts) (brings : α → Accounts → Prop)
    (run : Run interface σ (Except Failure α)) : Prop where
  grown : before.Grown (accountAddress id project) members (store.accounts run.state)
  returned : ∀ a, run.result = .ok a → brings a (store.accounts run.state)
  settled : before.Granted (accountAddress id project) members →
    Quiet run.trace ∧ store.accounts run.state = before
  live : isOpen = true → Unfailing run.trace → ∃ a, run.result = .ok a

namespace Attempt

variable {store : AccountStore service id project} {members : List String} {isOpen : Bool}
  {before : Accounts} {brings : α → Accounts → Prop} {brings' : β → Accounts → Prop} {state : σ}

theorem closed {f : Failure} :
    Attempt store members false (store.accounts state) brings ⟨.error f, state, []⟩ where
  grown := .refl _
  returned _ ha := by cases ha
  settled _ := ⟨quiet_nil, rfl⟩
  live hopen _ := by cases hopen

theorem pure {a : α} (hbrings : brings a (store.accounts state)) :
    Attempt store members isOpen (store.accounts state) brings
      ((Pure.pure a : Action interface α).run.run service state) where
  grown := .refl _
  returned _ ha := Except.ok.inj ha ▸ hbrings
  settled _ := ⟨quiet_nil, rfl⟩
  live _ _ := ⟨a, rfl⟩

/-- One part after another. -/
theorem bind {x : Action interface α} {f : α → Action interface β}
    (h : Attempt store members isOpen before brings (x.run.run service state))
    (hf : ∀ a state', brings a (store.accounts state') →
      Attempt store members isOpen (store.accounts state') brings' ((f a).run.run service state')) :
    Attempt store members isOpen before brings' ((x >>= f).run.run service state) := by
  rw [ExceptT.run_bind, Program.run_bind]
  obtain ⟨grown, returned, settled, live⟩ := h
  generalize x.run.run service state = first at *
  obtain ⟨e | a, after, trace⟩ := first
  · refine ⟨grown, fun b hb => ?_, fun hgranted => ?_, fun hopen hunfailing => ?_⟩
    · cases hb
    · obtain ⟨hquiet, hsame⟩ := settled hgranted
      exact ⟨hquiet.append quiet_nil, hsame⟩
    · obtain ⟨a, ha⟩ := live hopen hunfailing.of_append.1
      cases ha
  · have hrest := hf a after (returned a rfl)
    refine ⟨grown.trans hrest.grown, hrest.returned, fun hgranted => ?_, fun hopen hunfailing => ?_⟩
    · obtain ⟨hquiet, hsame⟩ := settled hgranted
      obtain ⟨hquiet', hsame'⟩ := hrest.settled (hsame ▸ hgranted)
      exact ⟨hquiet.append hquiet', hsame'.trans hsame⟩
    · exact hrest.live hopen hunfailing.of_append.2

/-- A call that fails changes nothing. -/
theorem failing {c : Call} {f : Failure}
    (hsparing : (store.accounts state).Granted (accountAddress id project) members → c.Sparing)
    (hanswer : (service.answer c state).1 = .error f)
    (hfatal : ∀ project id displayName description,
      c = .createAccount project id displayName description → alreadyExists f = false) :
    Attempt store members isOpen (store.accounts state) brings
      ⟨.error f, (service.answer c state).2, [.called c (.error f)]⟩ where
  grown := by
    rw [store.failed c state f hanswer]
    exact .refl _
  returned _ ha := by cases ha
  settled hgranted := ⟨.called (hsparing hgranted) _, store.failed c state f hanswer⟩
  live _ hunfailing := by
    obtain ⟨hexists, project, id, displayName, description, rfl⟩ :=
      hunfailing c f (List.mem_singleton_self _)
    rw [hfatal _ _ _ _ rfl] at hexists
    cases hexists

/-- An event that is no write comes first. -/
theorem preceded {run : Run interface σ (Except Failure α)}
    (h : Attempt store members isOpen before brings run) {e : Event interface}
    (hquiet : Quiet [e]) :
    Attempt store members isOpen before brings { run with trace := e :: run.trace } where
  grown := h.grown
  returned := h.returned
  settled hgranted := by
    obtain ⟨hrest, hsame⟩ := h.settled hgranted
    exact ⟨hquiet.append hrest, hsame⟩
  live hopen hunfailing := h.live hopen hunfailing.tail

/-- A call that reads. -/
theorem reading {h : Handle} {c : Call} {brings : c.Reply → Accounts → Prop} (hreads : c.Reading)
    (hread : ∀ reply, (service.answer c state).1 = .ok reply →
      brings reply (store.accounts state) ∧
        store.accounts (service.answer c state).2 = store.accounts state) :
    Attempt store members h.accounts (store.accounts state) brings
      ((h.request .accounts c).run.run service state) := by
  cases hopen : h.accounts with
  | false =>
    simp only [Handle.request, hopen]
    exact closed
  | true =>
    simp only [Handle.request, hopen, if_true]
    change Attempt store members true _ brings ⟨(service.answer c state).1,
      (service.answer c state).2, [.called c (service.answer c state).1]⟩
    cases hanswer : (service.answer c state).1 with
    | error f =>
      refine failing (fun _ => hreads.sparing) hanswer fun _ _ _ _ heq => ?_
      subst heq
      exact hreads.elim
    | ok reply =>
      obtain ⟨hbrings, hsame⟩ := hread reply hanswer
      refine ⟨?_, fun a ha => ?_, fun _ => ⟨.called hreads.sparing _, hsame⟩,
        fun _ _ => ⟨reply, rfl⟩⟩
      · rw [hsame]
        exact .refl _
      · rw [hsame]
        exact Except.ok.inj ha ▸ hbrings

end Attempt

section Parts

variable {r : Request.CreateIdentity} {project : String} {state : σ}

/-- The call that creates the account. -/
abbrev creationCall (r : Request.CreateIdentity) (project : String) : Call :=
  .createAccount project r.identityName r.identityName (r.description.getD "")

theorem createAccount_run {h : Handle} (hopen : h.accounts = true) :
    (createAccount h r project).run = .call (creationCall r project) fun
      | .ok email => .done (.ok email)
      | .error f =>
        if alreadyExists f then
          .log (reusingEntry r)
            (h.request .accounts (.getAccount (accountName r.identityName project))).run
        else .done (.error f) := by
  have hrequest : h.request .accounts (creationCall r project) = ask (creationCall r project) := by
    simp only [Handle.request, hopen, if_true]
  rw [createAccount, hrequest, ExceptT.run_bind]
  rfl

/-- An address is that of the account, which is there. -/
def Located (id project email : String) (accounts : Accounts) : Prop :=
  email = accountAddress id project ∧ accounts.present (accountAddress id project) = true

theorem attempt_getAccount (hbare : Text.contains '@' id = false)
    (store : AccountStore service id project) (members : List String) (h : Handle) (state : σ) :
    Attempt store members h.accounts (store.accounts state) (Located id project)
      ((h.request .accounts (.getAccount (accountName id project))).run.run service state) := by
  have hget := store.get state
  rw [← accountName_of_bare hbare project] at hget
  refine .reading (c := .getAccount _) trivial fun reply hreply => ?_
  obtain ⟨hemail, hpresent, hsame⟩ := hget reply hreply
  exact ⟨⟨hemail, hpresent⟩, hsame⟩

/-- The account is there afterwards, made or found, and its address is the result. -/
theorem attempt_createAccount (hbare : Text.contains '@' r.identityName = false)
    (store : AccountStore service r.identityName project) (members : List String) (h : Handle)
    (state : σ) :
    Attempt store members h.accounts (store.accounts state) (Located r.identityName project)
      ((createAccount h r project).run.run service state) := by
  cases hopen : h.accounts with
  | false =>
    simp only [createAccount, Handle.request, hopen]
    exact .closed
  | true =>
    have hcreate := store.create r.identityName (r.description.getD "") state
    have hfailed := store.failed (creationCall r project) state
    have hgrown := (store.accounts state).grown_created (accountAddress r.identityName project)
      members
    have hfailing (f : Failure) (hanswer : (service.answer (creationCall r project) state).1 =
        .error f) (hfatal : alreadyExists f = false) : Attempt store members true
          (store.accounts state) (Located r.identityName project)
          ⟨.error f, (service.answer (creationCall r project) state).2,
            [.called (creationCall r project) (.error f)]⟩ :=
      .failing (fun _ => trivial) hanswer fun _ _ _ _ _ => hfatal
    rw [createAccount_run hopen, Program.run]
    generalize service.answer (creationCall r project) state = answered at *
    obtain ⟨f | email, after⟩ := answered
    · cases hexists : alreadyExists f with
      | false =>
        simp only [hexists, Bool.false_eq_true, if_false, Program.run]
        exact hfailing f rfl hexists
      | true =>
        have hread := attempt_getAccount hbare store members h after
        rw [hopen, hfailed f rfl] at hread
        simp only [hexists, if_true, Program.run]
        exact (hread.preceded (.logged (reusingEntry r))).preceded
          (.called (c := creationCall r project) trivial (.error f))
    · obtain ⟨rfl, habsent, hcreated⟩ := hcreate email rfl
      have hpresent : (store.accounts after).present (accountAddress r.identityName project) =
          true := by
        rw [hcreated]
        exact Function.update_self ..
      refine ⟨hcreated ▸ hgrown, fun email hemail => ?_, fun hgranted => ?_, fun _ _ => ⟨_, rfl⟩⟩
      · obtain rfl := Except.ok.inj hemail
        exact ⟨rfl, hpresent⟩
      · rw [hgranted.present] at habsent
        cases habsent

/-- The members are granted the use of an account, where that is news. -/
theorem attempt_write (store : AccountStore service id project) (h : Handle)
    {members : List String} {policy : Policy}
    (hnew : ¬(store.accounts state).Granted (accountAddress id project) members)
    (hpresent : (store.accounts state).present (accountAddress id project) = true)
    (hpolicy : policy.bindings = (store.accounts state).bindings (accountAddress id project)) :
    Attempt store members h.accounts (store.accounts state)
      (fun _ accounts => accounts.Granted (accountAddress id project) members)
      ((h.request .accounts (.setPolicy .accounts (accountResource id project)
        (policy.addMembers serviceAccountUserRole members).1)).run.run service state) := by
  have hgrown := Accounts.grown_written members hpolicy
  have hgranted := Accounts.granted_written hpresent members policy
  cases hopen : h.accounts with
  | false =>
    simp only [Handle.request, hopen]
    exact .closed
  | true =>
    simp only [Handle.request, hopen, if_true]
    have hwrite := store.write state (policy.addMembers serviceAccountUserRole members).1
    generalize hcall : Call.setPolicy .accounts (accountResource id project)
      (policy.addMembers serviceAccountUserRole members).1 = c at *
    change Attempt store members true _ _ ⟨(service.answer c state).1,
      (service.answer c state).2, [.called c (service.answer c state).1]⟩
    cases hanswer : (service.answer c state).1 with
    | error f =>
      refine .failing (fun hgranted => absurd hgranted hnew) hanswer fun _ _ _ _ hcreation => ?_
      cases hcall.trans hcreation
    | ok done =>
      have hwritten := hwrite done hanswer
      exact ⟨hwritten ▸ hgrown, fun _ _ => hwritten ▸ hgranted, fun h => absurd h hnew,
        fun _ _ => ⟨_, rfl⟩⟩

/-- Nothing is written if the members all have been granted the use before. -/
theorem attempt_writeGranted (store : AccountStore service id project) (h : Handle)
    {members : List String} {policy : Option Policy}
    (hpresent : (store.accounts state).present (accountAddress id project) = true)
    (hpolicy : (policy.getD {}).bindings =
      (store.accounts state).bindings (accountAddress id project)) :
    Attempt store members h.accounts (store.accounts state)
      (fun _ accounts => accounts.Granted (accountAddress id project) members)
      ((VersionedPolicies.writeGranted h (accountResource id project) members policy).run.run
        service state) := by
  have hunchanged := Accounts.unchanged_iff members hpolicy hpresent
  unfold VersionedPolicies.writeGranted
  dsimp only
  split
  · next hchanged =>
    have hnew : ¬ (store.accounts state).Granted (accountAddress id project) members := by
      rw [← hunchanged, hchanged]
      exact Bool.noConfusion
    exact (attempt_write store h hnew hpresent hpolicy).bind fun _ _ hgranted => .pure hgranted
  · next hsame => exact .pure (hunchanged.mp (Bool.eq_false_iff.mpr hsame))

theorem attempt_grantTrusted (store : AccountStore service r.identityName project) (h : Handle)
    (hpresent : (store.accounts state).present (accountAddress r.identityName project) = true) :
    Attempt store (requestedMembers r) h.accounts (store.accounts state)
      (fun _ accounts => accounts.Granted (accountAddress r.identityName project)
        (requestedMembers r))
      ((grantTrusted h (accountAddress r.identityName project) project r.trustConfig).run.run
        service state) := by
  have hmembers : requestedMembers r = (r.trustConfig.map trustedMembers).getD [] := rfl
  cases htrust : r.trustConfig with
  | none =>
    rw [htrust] at hmembers
    refine .pure ⟨hpresent, fun member hmember => ?_⟩
    rw [hmembers] at hmember
    cases hmember
  | some config =>
    rw [htrust] at hmembers
    have hlist : requestedMembers r = trustedMembers config := hmembers
    rw [VersionedPolicies.grantTrusted_eq, accountName_address, ← hlist]
    split
    · next hempty =>
      refine .pure ⟨hpresent, fun member hmember => ?_⟩
      rw [List.isEmpty_iff.mp hempty] at hmember
      cases hmember
    · have hread : Attempt store (requestedMembers r) h.accounts (store.accounts state)
          (fun policy accounts => (policy.getD {}).bindings =
              accounts.bindings (accountAddress r.identityName project) ∧
            accounts.present (accountAddress r.identityName project) = true)
          ((h.request .accounts (.getPolicy .accounts (accountResource r.identityName project)
            none)).run.run service state) :=
        .reading (c := .getPolicy .accounts _ none) trivial fun reply hreply => by
          obtain ⟨hbindings, hsame⟩ := store.read state reply hreply
          exact ⟨⟨hbindings, hpresent⟩, hsame⟩
      exact hread.bind fun policy state' hpolicy =>
        attempt_writeGranted store h hpolicy.2 hpolicy.1

theorem attempt_createIdentity (hbare : Text.contains '@' r.identityName = false)
    (store : AccountStore service r.identityName (projectId r.tenantId)) (h : Handle) (state : σ) :
    let email := accountAddress r.identityName (projectId r.tenantId)
    Attempt store (requestedMembers r) h.accounts (store.accounts state)
      (fun v accounts => v = .str email ∧ accounts.Granted email (requestedMembers r))
      ((createIdentity h r).run.run service state) := by
  intro email
  refine (attempt_createAccount hbare store (requestedMembers r) h state).bind ?_
  rintro _ state' ⟨rfl, hpresent⟩
  refine (attempt_grantTrusted store h hpresent).bind fun _ state'' hgranted => ?_
  exact .pure ⟨rfl, hgranted⟩

end Parts

/-! ## Many attempts -/

/-- What a creation brings about for good: the account is there, each principal that the request
trusts may use it, and no other grant, no binding under a condition and no other account is
touched. -/
structure Provided (r : Request.CreateIdentity) (email : String) (initial after : Accounts) :
    Prop where
  present : after.present email = true
  holds_iff : ∀ role x, Holds (after.bindings email) role x ↔
    Holds (initial.bindings email) role x ∨ (role = serviceAccountUserRole ∧ Trusts r x)
  conditional : (after.bindings email).filter Binding.conditional =
    (initial.bindings email).filter Binding.conditional
  others : ∀ other, other ≠ email →
    after.present other = initial.present other ∧ after.bindings other = initial.bindings other

theorem Provided.of_granted {r : Request.CreateIdentity} {email : String} {a b : Accounts}
    (hgrown : a.Grown email (requestedMembers r) b)
    (hgranted : b.Granted email (requestedMembers r)) : Provided r email a b where
  present := hgranted.present
  holds_iff role x := by
    constructor
    · intro hx
      exact (hgrown.granted role x hx).imp_right (And.imp_right mem_requestedMembers.mp)
    · rintro (hx | ⟨rfl, htrusts⟩)
      · exact hgrown.held role x hx
      · exact (hgranted.settled x (mem_requestedMembers.mpr htrusts)).holds
  conditional := hgrown.conditional
  others := hgrown.others

/-- Creating an identity under a bare account id converges and can be repeated. Take any number of
attempts with one request on a service that keeps the account, which may be there at first or not
and have any policy or none, and with any of their calls failing. Whatever attempts fail, nothing
but the account and the grants asked for is added. An attempt that returns gives the address of the
account, and leaves it provided as requested. No attempt after it writes a policy. With an open
client every attempt returns in which no call fails, except that the account may be found to
exist. -/
theorem AccountStore.creation_converges {σ : Type} {service : Service interface σ}
    {r : Request.CreateIdentity}
    (store : AccountStore service r.identityName (projectId r.tenantId))
    (hbare : Text.contains '@' r.identityName = false) (h : Handle) (n : Nat) (state : σ) :
    let email := accountAddress r.identityName (projectId r.tenantId)
    let attempts := (createIdentity h r).run.attempts service n state
    (∀ run ∈ attempts,
      (store.accounts state).Grown email (requestedMembers r) (store.accounts run.state)) ∧
    (∀ run ∈ attempts, ∀ v, run.result = .ok v →
      v = .str email ∧ Provided r email (store.accounts state) (store.accounts run.state)) ∧
    attempts.Pairwise (fun run later => ∀ v, run.result = .ok v →
      Quiet later.trace ∧ store.accounts later.state = store.accounts run.state) ∧
    (h.accounts = true → ∀ run ∈ attempts, Unfailing run.trace → ∃ v, run.result = .ok v) := by
  intro email attempts
  have hattempt := attempt_createIdentity hbare store h
  have hgrown : ∀ run ∈ attempts, ∃ before,
      (store.accounts state).Grown email (requestedMembers r) (store.accounts before) ∧
        run = (createIdentity h r).run.run service before := fun run hrun =>
    Program.mem_attempts_of_invariant (fun before hbefore => hbefore.trans (hattempt before).grown)
      (.refl _) hrun
  refine ⟨?_, ?_, ?_, ?_⟩
  · intro run hrun
    obtain ⟨before, hbefore, rfl⟩ := hgrown run hrun
    exact hbefore.trans (hattempt before).grown
  · intro run hrun v hv
    obtain ⟨before, hbefore, rfl⟩ := hgrown run hrun
    obtain ⟨haddress, hgranted⟩ := (hattempt before).returned v hv
    exact ⟨haddress, .of_granted (hbefore.trans (hattempt before).grown) hgranted⟩
  · refine Program.pairwise_attempts ?_ n state
    intro before k later hlater v hv
    obtain ⟨_, hgranted⟩ := (hattempt before).returned v hv
    -- From then on the accounts stay as this attempt has left them.
    obtain ⟨between, hbetween, rfl⟩ := Program.mem_attempts_of_invariant
      (Q := fun s => store.accounts s =
        store.accounts ((createIdentity h r).run.run service before).state)
      (fun s hs => ((hattempt s).settled (hs ▸ hgranted)).2.trans hs) rfl hlater
    obtain ⟨hquiet, hkept⟩ := (hattempt between).settled (hbetween ▸ hgranted)
    exact ⟨hquiet, hkept.trans hbetween⟩
  · intro hopen run hrun
    obtain ⟨before, _, rfl⟩ := hgrown run hrun
    exact (hattempt before).live hopen

/-! ## A service that loses calls -/

/-- A service that the next calls get through to or not; one that does not fails. -/
def lossy {σ : Type} (service : Service interface σ) (lost : Failure) :
    Service interface (σ × List Bool) where
  answer c state :=
    match state.2 with
    | false :: rest => (.error lost, state.1, rest)
    | delivered =>
      let (answer, after) := service.answer c state.1
      (answer, after, delivered.tail)

theorem lossy_cases {σ : Type} (service : Service interface σ) (lost : Failure) (c : Call)
    (state : σ × List Bool) :
    (∃ rest, (lossy service lost).answer c state = (.error lost, state.1, rest)) ∨
    ∃ rest, (lossy service lost).answer c state =
      ((service.answer c state.1).1, (service.answer c state.1).2, rest) := by
  obtain ⟨s, delivered⟩ := state
  match delivered with
  | [] => exact Or.inr ⟨[], rfl⟩
  | true :: rest => exact Or.inr ⟨rest, rfl⟩
  | false :: rest => exact Or.inl ⟨rest, rfl⟩

/-- What a service keeps, it keeps when calls are lost. -/
def AccountStore.lossy {σ : Type} {service : Service interface σ} {id project : String}
    (store : AccountStore service id project) (lost : Failure) :
    AccountStore (Gcp.lossy service lost) id project where
  accounts state := store.accounts state.1
  failed c state f h := by
    rcases lossy_cases service lost c state with ⟨_, heq⟩ | ⟨_, heq⟩ <;> rw [heq] at h ⊢
    exact store.failed c state.1 f h
  create displayName description state reply h := by
    rcases lossy_cases service lost (.createAccount project id displayName description) state with
      ⟨_, heq⟩ | ⟨_, heq⟩ <;> rw [heq] at h ⊢
    · cases h
    · exact store.create displayName description state.1 reply h
  get state reply h := by
    rcases lossy_cases service lost (.getAccount (accountResource id project)) state with
      ⟨_, heq⟩ | ⟨_, heq⟩ <;> rw [heq] at h ⊢
    · cases h
    · exact store.get state.1 reply h
  read state policy h := by
    rcases lossy_cases service lost
      (.getPolicy .accounts (accountResource id project) none) state with
      ⟨_, heq⟩ | ⟨_, heq⟩ <;> rw [heq] at h ⊢
    · cases h
    · exact store.read state.1 policy h
  write state sent done h := by
    rcases lossy_cases service lost
      (.setPolicy .accounts (accountResource id project) sent) state with
      ⟨_, heq⟩ | ⟨_, heq⟩ <;> rw [heq] at h ⊢
    · cases h
    · exact store.write state.1 sent done h

/-- A service that is asked about one account only. -/
def keepingOne (email : String) : Service interface Accounts where
  answer
    | .createAccount .., a =>
      if a.present email then (.error (Failure.googleApi .alreadyExists email none), a)
      else (.ok email, a.created email)
    | .getAccount name, a =>
      if a.present email then (.ok email, a)
      else (.error (Failure.googleApi .notFound name none), a)
    | .getPolicy _ _ _, a =>
      (.ok (if (a.bindings email).isEmpty then none else some { bindings := a.bindings email }), a)
    | .setPolicy _ _ sent, a => (.ok (), a.written email sent.bindings)
    | .deleteAccount _, a => (.ok (), a)
    | .defaultCredentials _, a => (.ok .ambient, a)
    | .loadKeyFile _, a => (.ok none, a)
    | .connect .., a => (.ok (), a)
    | .close _, a => (.ok (), a)

def keptOne (id project : String) :
    AccountStore (keepingOne (accountAddress id project)) id project where
  accounts a := a
  failed c a f h := by
    cases c with
    | createAccount _ _ _ _ | getAccount _ =>
      simp only [keepingOne] at h ⊢
      split at h <;> simp_all
    | _ => cases h
  create displayName description a reply h := by
    simp only [keepingOne] at h ⊢
    split at h
    · cases h
    · next habsent =>
      rw [if_neg habsent]
      exact ⟨(Except.ok.inj h).symm, Bool.eq_false_iff.mpr habsent, rfl⟩
  get a reply h := by
    simp only [keepingOne] at h ⊢
    split at h
    · next hpresent =>
      rw [if_pos hpresent]
      exact ⟨(Except.ok.inj h).symm, hpresent, rfl⟩
    · cases h
  read a policy h := by
    obtain rfl := Except.ok.inj h
    refine ⟨?_, rfl⟩
    split
    · next hempty => exact (List.isEmpty_iff.mp hempty).symm
    · rfl
  write _ _ _ _ := rfl

/-- An account that is not there, whose address has a grant and a binding under a condition. The
first attempt creates the account, and the write of its policy is lost; the second one finds it and
grants its use once to the one principal named; the third has nothing to write. -/
theorem creation_converges_half_way :
    let r : Request.CreateIdentity :=
      { identityName := "ci", tenantId := "projects/p",
        trustConfig := some { trustedPrincipals := ["ann@example.org", " ", " ann@example.org "] } }
    let email := accountAddress r.identityName (projectId r.tenantId)
    let bindings : List Binding :=
      [{ role := serviceAccountUserRole, members := ["user:bob"], condition := some {} },
        { role := "viewer", members := ["user:bob"] }]
    let granted : Binding :=
      { role := serviceAccountUserRole, members := ["user:ann@example.org"] }
    let lost := Failure.googleApi .aborted "The call is lost." none
    let h : Handle := ⟨true, true, none⟩
    let initial : Accounts := { present _ := false, bindings _ := bindings }
    let attempts := (createIdentity h r).run.attempts (lossy (keepingOne email) lost) 3
      (initial, [true, true, false])
    Text.contains '@' r.identityName = false ∧
    attempts.map (fun run => run.result.toOption.map Value.text) =
      [none, some "ci@p.iam.gserviceaccount.com", some "ci@p.iam.gserviceaccount.com"] ∧
    attempts.map (fun run => run.state.1.bindings email) =
      [bindings, bindings ++ [granted], bindings ++ [granted]] ∧
    (∀ run ∈ attempts, initial.Grown email (requestedMembers r) run.state.1) ∧
    (∀ run ∈ attempts, ∀ v, run.result = .ok v →
      v = .str email ∧ Provided r email initial run.state.1) ∧
    attempts.Pairwise (fun run later => ∀ v, run.result = .ok v →
      Quiet later.trace ∧ later.state.1 = run.state.1) ∧
    (h.accounts = true → ∀ run ∈ attempts, Unfailing run.trace → ∃ v, run.result = .ok v) := by
  intro r email bindings granted lost h initial attempts
  refine ⟨by decide, by decide +kernel, by decide +kernel, ?_⟩
  exact ((keptOne r.identityName (projectId r.tenantId)).lossy lost).creation_converges (r := r)
    (by decide) h 3 (initial, [true, true, false])

end CloudIdentity.Gcp

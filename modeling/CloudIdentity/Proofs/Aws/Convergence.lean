import CloudIdentity.Failure.Reported
import CloudIdentity.Proofs.Aws.RoleStore
import CloudIdentity.Proofs.Service.Attempts

/-!
Creating an identity on AWS can be repeated until it succeeds. Between the two updates of a role that
exists, and before and after them, a call may fail and leave the role half way; whatever was left,
the next attempt goes on from there. Once an attempt has returned the role is as requested, and no
later one updates it.
-/

namespace CloudIdentity.Aws

open Document

/-! ## The program of a creation -/

section Programs

variable {α β : Type} {h : Handle}

/-- A call that is made where it is needed. If it fails the program ends. -/
def callIf (needed : Bool) (c : Call) (next : Program interface (Except Failure α)) :
    Program interface (Except Failure α) :=
  if needed then
    .call c fun
      | .ok _ => next
      | .error f => .done (.error f)
  else next

theorem request_run (hopen : h.connected = true) (c : Call) :
    (h.request c).run = .call c .done := by
  simp only [Handle.request, hopen, if_true]
  rfl

theorem request_closed (hclosed : h.connected = false) (c : Call) :
    (h.request c).run = .done (.error (closedClient c.method)) := by
  simp only [Handle.request, hclosed, Bool.false_eq_true, if_false]
  rfl

theorem callIf_run (hopen : h.connected = true) (needed : Bool) (c : Call)
    (next : Action interface α) :
    (if needed = true then h.request c >>= fun _ => next else next).run =
      callIf needed c next.run := by
  cases needed with
  | false => rfl
  | true =>
    rw [callIf, if_pos rfl, if_pos rfl, ExceptT.run_bind, request_run hopen, Program.call_bind]
    congr 1
    funext answer
    cases answer <;> rfl

theorem callIf_bind (needed : Bool) (c : Call) (next : Program interface (Except Failure α))
    (f : α → Action interface β) :
    (ExceptT.mk (callIf needed c next) >>= f).run =
      callIf needed c (ExceptT.mk next >>= f).run := by
  cases needed with
  | false => rfl
  | true =>
    rw [callIf, callIf, if_pos rfl, if_pos rfl, ExceptT.run_bind]
    simp only [ExceptT.run_mk, Program.call_bind]
    congr 1
    funext answer
    cases answer <;> rfl

theorem RoleRecord.Shown.member_name {record : RoleRecord} {name : String} {role : Members}
    (hshown : record.Shown name role) :
    (Value.object role).member "RoleName" = .ok (.str name) := by
  simp [Value.member, hshown.name]

theorem RoleRecord.Shown.member_arn {record : RoleRecord} {name : String} {role : Members}
    (hshown : record.Shown name role) :
    (Value.object role).member "Arn" = .ok (.str record.arn) := by
  simp [Value.member, hshown.arn]

variable {record : RoleRecord} {name text : String} {requested : Reading} {response : Value}

/-- Where a response shows a role, the role is updated and its identifier is the result. -/
theorem updateRole_run (hopen : h.connected = true) {role : Members}
    (hshown : record.Shown name role) (hrequested : Reading.ofText? text = some requested)
    (description : String) (duration : Option Int) :
    (updateRole h (.object role) description text duration).run =
      callIf (descriptionDiffers ((record.description.map Value.str).getD .null) description ||
          durationDiffers ((record.sessionDuration.map Value.int).getD .null) duration)
        (.updateRole (.str name) description duration)
        (callIf (!record.trusted.equal requested) (.updateTrustPolicy (.str name) text)
          (.done (.ok ()))) := by
  obtain ⟨document, hdocument, hpresents⟩ := hshown.trust
  have hdiffers := hpresents.differs hrequested
  rw [updateRole, hshown.member_name]
  simp only [Value.memberOr, Action.ofExcept, pure_bind, hshown.description,
    hshown.sessionDuration, hdocument, Option.getD_some, hdiffers]
  rw [callIf_run hopen, callIf_run hopen]
  rfl

/-- How a creation goes on when the role exists and has been shown. -/
def convergeWith (h : Handle) (c : RoleCreation) (response : Value) : Action interface Value := do
  let existing ← Action.ofExcept (response.member "Role")
  updateRole h existing c.description c.trustPolicy c.maxSessionDuration
  Action.ofExcept (existing.member "Arn")

theorem converge_run (hopen : h.connected = true) (r : Request.CreateIdentity)
    (c : RoleCreation) :
    (converge h r c).run =
      .log (convergingEntry r) (.call (.getRole r.identityName) fun
        | .ok response => (convergeWith h c response).run
        | .error f => .done (.error f)) := by
  rw [converge, ExceptT.run_bind, Action.run_log, Program.log_bind, Program.done_bind]
  simp only [ExceptT.run_bind, request_run hopen, Program.call_bind]
  congr 2
  funext answer
  cases answer <;> rfl

theorem convergeWith_run (hopen : h.connected = true) (c : RoleCreation)
    (hanswered : record.Answered name response)
    (hrequested : Reading.ofText? c.trustPolicy = some requested) :
    (convergeWith h c response).run =
      callIf (descriptionDiffers ((record.description.map Value.str).getD .null) c.description ||
          durationDiffers ((record.sessionDuration.map Value.int).getD .null) c.maxSessionDuration)
        (.updateRole (.str name) c.description c.maxSessionDuration)
        (callIf (!record.trusted.equal requested) (.updateTrustPolicy (.str name) c.trustPolicy)
          (.done (.ok (.str record.arn)))) := by
  obtain ⟨role, hrole, hshown⟩ := hanswered
  have hupdate := updateRole_run hopen hshown hrequested c.description c.maxSessionDuration
  rw [convergeWith, hrole]
  simp only [Action.ofExcept, pure_bind]
  rw [← ExceptT.mk_run (updateRole _ _ _ _ _), hupdate, callIf_bind, callIf_bind, hshown.member_arn]
  rfl

theorem createIdentity_run (hopen : h.connected = true) (r : Request.CreateIdentity)
    (htext : trustPolicyText r.tenantId r.trustConfig = .ok text) :
    (createIdentity h r).run =
      .call (.createRole (creation r text)) fun
        | .ok response => .done (roleArn response)
        | .error f =>
          if alreadyExists f then (converge h r (creation r text)).run else .done (.error f) := by
  rw [createIdentity, htext]
  simp only [Action.ofExcept, pure_bind]
  rw [ExceptT.run_bind, Action.run_attempt, request_run hopen, map_eq_pure_bind]
  simp only [Program.call_bind]
  congr 1
  funext answer
  obtain f | response := answer
  · simp only [Program.done_bind, Program.pure_eq_done]
    cases alreadyExists f <;> rfl
  · exact Action.run_ofExcept (roleArn response)

end Programs

/-! ## One attempt -/

/-- The role is as a request wants it. -/
structure RoleRecord.Meets (record : RoleRecord) (r : Request.CreateIdentity) : Prop where
  current : record.Current (r.description.getD "") (r.options.bind CreateOptions.maxSessionDuration)
  trust : ∃ text, trustPolicyText r.tenantId r.trustConfig = .ok text ∧ record.Trusts text

def Call.updates : Call → Bool
  | .updateRole .. | .updateTrustPolicy .. => true
  | _ => false

/-- No role is updated. -/
def Quiet (trace : List (Event interface)) : Prop :=
  ∀ c answer, Event.called c answer ∈ trace → c.updates = false

/-- No call fails, unless it is to create a role that exists. -/
def Unfailing (trace : List (Event interface)) : Prop :=
  ∀ c f, Event.called c (.error f) ∈ trace → alreadyExists f = true ∧ ∃ new, c = .createRole new

theorem quiet_nil : Quiet [] := by
  intro c answer hmem
  cases hmem

theorem Quiet.called {c : Call} {trace : List (Event interface)} (h : Quiet trace)
    (hquiet : c.updates = false) (answer : Except Failure (interface.Reply c)) :
    Quiet (.called c answer :: trace) := by
  intro c' answer' hmem
  rcases List.mem_cons.mp hmem with heq | hrest
  · cases heq
    exact hquiet
  · exact h c' answer' hrest

theorem Quiet.logged {trace : List (Event interface)} (h : Quiet trace) (entry : Journal.Entry) :
    Quiet (.logged entry :: trace) := by
  intro c answer hmem
  rcases List.mem_cons.mp hmem with heq | hrest
  · cases heq
  · exact h c answer hrest

theorem Unfailing.tail {e : Event interface} {trace : List (Event interface)}
    (h : Unfailing (e :: trace)) : Unfailing trace :=
  fun c f hmem => h c f (List.mem_cons_of_mem e hmem)

/-- The connection is open, and the requested conditions have a text. -/
structure Ready (h : Handle) (r : Request.CreateIdentity) : Prop where
  connected : h.connected = true
  conditions : Encodable r.trustConfig

/-- What a creation may come to, from a state with such a record: if it returns the role is as
requested, a role that was so from the start is left alone, and if it is `ready` it returns unless a
call fails. -/
structure Attempt {σ : Type} {service : Service interface σ} {name : String}
    (store : RoleStore service name) (r : Request.CreateIdentity) (ready : Prop)
    (before : Option RoleRecord) (run : Run interface σ (Except Failure Value)) : Prop where
  returned : ∀ v, run.result = .ok v →
    ∃ record, store.record run.state = some record ∧ record.Meets r ∧ v = .str record.arn
  settled : ∀ record, before = some record → record.Meets r →
    Quiet run.trace ∧ store.record run.state = some record
  live : ready → Unfailing run.trace → ∃ v, run.result = .ok v

namespace Attempt

variable {σ : Type} {service : Service interface σ} {name : String}
  {store : RoleStore service name} {r : Request.CreateIdentity} {ready : Prop}
  {before : Option RoleRecord} {state : σ} {f : Failure}

/-- A failure without a call. -/
theorem refused (hready : ¬ready) : Attempt store r ready (store.record state)
    ⟨.error f, state, []⟩ where
  returned v hv := by cases hv
  settled _ hbefore _ := ⟨quiet_nil, hbefore⟩
  live hr := absurd hr hready

/-- The failure of a call is the last thing that happens. -/
theorem failed {c : Call} (hquiet : c.updates = false) (hstate : store.record state = before)
    (hfailure : ¬(alreadyExists f = true ∧ ∃ new, c = .createRole new)) :
    Attempt store r ready before ⟨.error f, state, [.called c (.error f)]⟩ where
  returned v hv := by cases hv
  settled _ hbefore _ := ⟨quiet_nil.called hquiet _, hstate.trans hbefore⟩
  live _ hunfailing := absurd (hunfailing c f List.mem_cons_self) hfailure

/-- A call that updates nothing comes first. -/
theorem called {c : Call} {run : Run interface σ (Except Failure Value)}
    (h : Attempt store r ready before run) (hquiet : c.updates = false)
    (answer : Except Failure (interface.Reply c)) :
    Attempt store r ready before { run with trace := .called c answer :: run.trace } where
  returned := h.returned
  settled record hbefore hmeets := by
    obtain ⟨hrest, hrecord⟩ := h.settled record hbefore hmeets
    exact ⟨hrest.called hquiet answer, hrecord⟩
  live hready hunfailing := h.live hready hunfailing.tail

theorem logged {run : Run interface σ (Except Failure Value)}
    (h : Attempt store r ready before run) (entry : Journal.Entry) :
    Attempt store r ready before { run with trace := .logged entry :: run.trace } where
  returned := h.returned
  settled record hbefore hmeets := by
    obtain ⟨hrest, hrecord⟩ := h.settled record hbefore hmeets
    exact ⟨hrest.logged entry, hrecord⟩
  live hready hunfailing := h.live hready hunfailing.tail

/-- An update comes first, of a role that is not as requested. -/
theorem called_update {e : Event interface} {run : Run interface σ (Except Failure Value)}
    {old : RoleRecord} {after : Option RoleRecord} (hold : ¬old.Meets r)
    (h : Attempt store r ready after run) :
    Attempt store r ready (some old) { run with trace := e :: run.trace } where
  returned := h.returned
  settled record hbefore hmeets := by
    obtain rfl := Option.some.inj hbefore
    exact absurd hmeets hold
  live hready hunfailing := h.live hready hunfailing.tail

/-- The failure of an update is the last thing that happens. -/
theorem failed_update {c : Call} {old : RoleRecord} (hold : ¬old.Meets r)
    (hupdate : c.updates = true) :
    Attempt store r ready (some old) ⟨.error f, state, [.called c (.error f)]⟩ where
  returned v hv := by cases hv
  settled record hbefore hmeets := by
    obtain rfl := Option.some.inj hbefore
    exact absurd hmeets hold
  live _ hunfailing := by
    obtain ⟨_, new, rfl⟩ := hunfailing c f List.mem_cons_self
    cases hupdate

/-- The role is as requested, and its identifier is the result. -/
theorem done {record : RoleRecord} (hstate : store.record state = some record)
    (hmeets : record.Meets r) :
    Attempt store r ready (some record) ⟨.ok (.str record.arn), state, []⟩ where
  returned _ hv := ⟨record, hstate, hmeets, (Except.ok.inj hv).symm⟩
  settled _ hbefore _ := ⟨quiet_nil, hstate.trans hbefore⟩
  live _ _ := ⟨_, rfl⟩

/-- The role was not there, and has been created as requested. -/
theorem created {record : RoleRecord} {trace : List (Event interface)} (hnone : before = none)
    (hstate : store.record state = some record) (hmeets : record.Meets r) :
    Attempt store r ready before ⟨.ok (.str record.arn), state, trace⟩ where
  returned _ hv := ⟨record, hstate, hmeets, (Except.ok.inj hv).symm⟩
  settled _ hbefore _ := by
    rw [hnone] at hbefore
    cases hbefore
  live _ _ := ⟨_, rfl⟩

end Attempt

section Runs

variable {σ : Type} {service : Service interface σ} {r : Request.CreateIdentity} {state : σ}
  {text : String} {requested : Reading} {record : RoleRecord}

theorem RoleRecord.Meets.trusted_equal (h : record.Meets r)
    (htext : trustPolicyText r.tenantId r.trustConfig = .ok text)
    (hrequested : Reading.ofText? text = some requested) : record.trusted.equal requested = true := by
  obtain ⟨text', htext', requested', hrequested', hequal⟩ := h.trust
  obtain rfl := Except.ok.inj (htext.symm.trans htext')
  obtain rfl := Option.some.inj (hrequested.symm.trans hrequested')
  exact hequal

/-- The second update, made where the trust policy is not as requested. -/
theorem attempt_trust (store : RoleStore service r.identityName) (ready : Prop)
    (htext : trustPolicyText r.tenantId r.trustConfig = .ok text)
    (hrequested : Reading.ofText? text = some requested) (hstate : store.record state = some record)
    (hcurrent : record.Current (r.description.getD "")
      (r.options.bind CreateOptions.maxSessionDuration)) :
    Attempt store r ready (some record)
      ((callIf (!record.trusted.equal requested) (.updateTrustPolicy (.str r.identityName) text)
        (.done (.ok (.str record.arn)))).run service state) := by
  cases hequal : record.trusted.equal requested with
  | true => exact Attempt.done hstate ⟨hcurrent, text, htext, requested, hrequested, hequal⟩
  | false =>
    have hold : ¬record.Meets r := by
      intro hmeets
      rw [hmeets.trusted_equal htext hrequested] at hequal
      cases hequal
    have hanswer := store.updateTrustPolicy text state
    rw [Bool.not_false, callIf, if_pos rfl, Program.run]
    generalize service.answer (.updateTrustPolicy (.str r.identityName) text) state = answered
      at hanswer
    obtain ⟨f | response, after⟩ := answered
    · exact Attempt.failed_update hold rfl
    · obtain ⟨old, new, hbefore, hafter, harn, hdescription, hduration, htrust⟩ := hanswer
      obtain rfl := Option.some.inj (hstate.symm.trans hbefore)
      have hmeets : new.Meets r := by
        refine ⟨⟨?_, ?_⟩, text, htext, RoleRecord.trusts_of_trust_eq htext htrust⟩
        · rw [hdescription, hcurrent.description]
        · rw [hduration]
          exact hcurrent.sessionDuration
      have hdone : Attempt store r ready (some new) ⟨.ok (.str new.arn), after, []⟩ :=
        Attempt.done hafter hmeets
      rw [harn] at hdone
      exact hdone.called_update hold

/-- Both updates, each made where it is needed. -/
theorem attempt_updates (store : RoleStore service r.identityName) (ready : Prop)
    (htext : trustPolicyText r.tenantId r.trustConfig = .ok text)
    (hrequested : Reading.ofText? text = some requested)
    (hstate : store.record state = some record) :
    let c := creation r text
    Attempt store r ready (some record)
      ((callIf (descriptionDiffers ((record.description.map Value.str).getD .null) c.description ||
          durationDiffers ((record.sessionDuration.map Value.int).getD .null) c.maxSessionDuration)
        (.updateRole (.str r.identityName) c.description c.maxSessionDuration)
        (callIf (!record.trusted.equal requested) (.updateTrustPolicy (.str r.identityName) text)
          (.done (.ok (.str record.arn))))).run service state) := by
  intro c
  cases hdiffers : descriptionDiffers ((record.description.map Value.str).getD .null) c.description
      || durationDiffers ((record.sessionDuration.map Value.int).getD .null) c.maxSessionDuration with
  | false =>
    exact attempt_trust store ready htext hrequested hstate (RoleRecord.differs_iff _ _ |>.mp hdiffers)
  | true =>
    have hold : ¬record.Meets r := by
      intro hmeets
      have hcurrent := (RoleRecord.differs_iff _ _).mpr hmeets.current
      rw [show c.description = r.description.getD "" from rfl, show c.maxSessionDuration =
        r.options.bind CreateOptions.maxSessionDuration from rfl, hcurrent] at hdiffers
      cases hdiffers
    have hanswer := store.updateRole c.description c.maxSessionDuration state
    rw [callIf, if_pos rfl, Program.run]
    generalize service.answer (.updateRole (.str r.identityName) c.description
      c.maxSessionDuration) state = answered at hanswer
    obtain ⟨f | response, after⟩ := answered
    · exact Attempt.failed_update hold rfl
    · obtain ⟨old, new, hbefore, hafter, harn, hdescription, hduration, htrust⟩ := hanswer
      obtain rfl := Option.some.inj (hstate.symm.trans hbefore)
      have hcurrent : new.Current c.description c.maxSessionDuration := by
        refine ⟨hdescription, fun seconds hseconds => ?_⟩
        rw [hduration, hseconds]
        rfl
      have htrusted : new.trusted = record.trusted := by
        apply RoleRecord.trusted_eq
        rw [htrust, record.reads]
      have hrest := attempt_trust store ready htext hrequested hafter hcurrent
      rw [harn, htrusted] at hrest
      exact hrest.called_update hold

/-- An existing role is read, and updated from what was read. -/
theorem attempt_converge {h : Handle} (hopen : h.connected = true)
    (store : RoleStore service r.identityName) (ready : Prop)
    (htext : trustPolicyText r.tenantId r.trustConfig = .ok text)
    (hrequested : Reading.ofText? text = some requested) (state : σ) :
    Attempt store r ready (store.record state)
      ((converge h r (creation r text)).run.run service state) := by
  have hanswer := store.getRole state
  rw [converge_run hopen, Program.run, Program.run]
  generalize service.answer (.getRole r.identityName) state = answered at hanswer
  obtain ⟨f | response, after⟩ := answered
  · have hfailed : Attempt store r ready (store.record state)
        ⟨.error f, after, [.called (.getRole r.identityName) (.error f)]⟩ := by
      apply Attempt.failed rfl hanswer
      rintro ⟨_, new, hcall⟩
      cases hcall
    exact hfailed.logged (convergingEntry r)
  · obtain ⟨hsame, record, hrecord, hanswered⟩ := hanswer
    have hupdates := attempt_updates store ready htext hrequested (hsame.trans hrecord)
    simp only [convergeWith_run hopen (creation r text) hanswered hrequested]
    rw [hrecord]
    have hread := hupdates.called (c := .getRole r.identityName) rfl (.ok response)
    exact hread.logged (convergingEntry r)

theorem attempt_createIdentity (store : RoleStore service r.identityName) (h : Handle)
    (state : σ) :
    Attempt store r (Ready h r) (store.record state)
      ((createIdentity h r).run.run service state) := by
  cases htext : trustPolicyText r.tenantId r.trustConfig with
  | error f =>
    rw [createIdentity, htext]
    apply Attempt.refused
    rintro ⟨_, hencodable⟩
    obtain ⟨text, hready⟩ := hencodable.trustPolicyText r.tenantId
    cases htext.symm.trans hready
  | ok text =>
  cases hopen : h.connected with
  | false =>
    rw [createIdentity, htext]
    simp only [Action.ofExcept, pure_bind]
    rw [ExceptT.run_bind, Action.run_attempt, request_closed hopen]
    apply Attempt.refused
    rintro ⟨hready, _⟩
    cases hopen.symm.trans hready
  | true =>
    obtain ⟨requested, hrequested, _⟩ := trustPolicyText_reads htext
    have hanswer := store.createRole (creation r text) state rfl
    rw [createIdentity_run hopen r htext, Program.run]
    generalize service.answer (.createRole (creation r text)) state = answered at hanswer
    obtain ⟨f | response, after⟩ := answered
    · cases hexists : alreadyExists f with
      | false =>
        simp only [hexists, Bool.false_eq_true, if_false, Program.run]
        apply Attempt.failed rfl hanswer
        rintro ⟨hfound, _⟩
        rw [hexists] at hfound
        cases hfound
      | true =>
        simp only [hexists, if_true]
        have hrest := attempt_converge hopen store (Ready h r) htext hrequested after
        rw [hanswer] at hrest
        exact hrest.called rfl (.error f)
    · obtain ⟨hnone, new, hafter, hanswered, hdescription, hduration, htrust⟩ := hanswer
      obtain ⟨role, hrole, hshown⟩ := hanswered
      have harn : roleArn response = .ok (.str new.arn) := by
        rw [roleArn, hrole]
        exact hshown.member_arn
      have hmeets : new.Meets r :=
        ⟨⟨hdescription, hduration⟩, text, htext, RoleRecord.trusts_of_trust_eq htext htrust⟩
      simp only [Program.run, harn]
      exact Attempt.created hnone hafter hmeets

end Runs

/-! ## Many attempts -/

/-- Creating an identity converges and can be repeated. Take any number of attempts with one request
on a service that keeps the role, with or without the role at first, and with any of their calls
failing. An attempt that returns gives the identifier of the stored role, and leaves the role with
the requested description, the requested session duration if there is one, and a trust policy equal
to the requested one. No attempt after it updates the role. On an open connection, and if the
requested conditions have a text, every attempt returns in which no call fails, except that the role
may be found to exist. -/
theorem RoleStore.createIdentity_converges {σ : Type} {service : Service interface σ}
    {r : Request.CreateIdentity} (store : RoleStore service r.identityName) (h : Handle) (n : Nat)
    (state : σ) :
    let attempts := (createIdentity h r).run.attempts service n state
    (∀ run ∈ attempts, ∀ v, run.result = .ok v →
      ∃ record, store.record run.state = some record ∧ record.Meets r ∧ v = .str record.arn) ∧
    attempts.Pairwise (fun run later => ∀ v, run.result = .ok v →
      Quiet later.trace ∧ store.record later.state = store.record run.state) ∧
    (Ready h r → ∀ run ∈ attempts, Unfailing run.trace → ∃ v, run.result = .ok v) := by
  intro attempts
  have hattempt := fun before => attempt_createIdentity store h before
  refine ⟨?_, ?_, ?_⟩
  · intro run hrun
    obtain ⟨before, rfl⟩ := Program.mem_attempts hrun
    exact (hattempt before).returned
  · refine Program.pairwise_attempts ?_ n state
    intro before k later hlater v hv
    obtain ⟨record, hrecord, hmeets, _⟩ := (hattempt before).returned v hv
    obtain ⟨between, hbetween, rfl⟩ := Program.mem_attempts_of_invariant
      (Q := fun s => store.record s = some record)
      (fun s hs => ((hattempt s).settled record hs hmeets).2) hrecord hlater
    obtain ⟨hquiet, hkept⟩ := (hattempt between).settled record hbetween hmeets
    exact ⟨hquiet, hkept.trans hrecord.symm⟩
  · intro hready run hrun
    obtain ⟨before, rfl⟩ := Program.mem_attempts hrun
    exact (hattempt before).live hready

/-! ## A service that loses calls -/

/-- A role, and which of the next calls get through. -/
structure Lossy where
  role : Option RoleRecord
  delivered : List Bool

namespace Lossy

def failure (code : String) : Failure := Failure.awsService code "The call failed." "Role"

/-- A text with its percent signs encoded. -/
def encode (s : String) : String :=
  String.ofList (s.toList.flatMap fun c => if c = '%' then ['%', '2', '5'] else [c])

theorem encodes_encode (s : String) : Text.Percent.Encodes s.toList (encode s).toList := by
  rw [encode, String.toList_ofList]
  induction s.toList with
  | nil => exact .nil
  | cons c cs ih =>
    rw [List.flatMap_cons]
    split
    · next hpercent =>
      subst hpercent
      exact .escaped (.cons (Or.inl rfl) (Or.inl rfl) .nil) ih
    · next hother => exact .literal hother ih

def roleMembers (name : String) (record : RoleRecord) : Members :=
  [("RoleName", .str name), ("Arn", .str record.arn)]
    ++ Call.whenPresent "Description" .str record.description
    ++ Call.whenPresent "MaxSessionDuration" .int record.sessionDuration
    ++ [("AssumeRolePolicyDocument", .str (encode record.trust))]

theorem shown_roleMembers (name : String) (record : RoleRecord) :
    record.Shown name (roleMembers name record) := by
  refine ⟨rfl, rfl, ?_, ?_, .str (encode record.trust), ?_, .text (encodes_encode record.trust)⟩
  · cases hdescription : record.description <;> cases hduration : record.sessionDuration <;>
      simp [roleMembers, Call.whenPresent, hdescription, hduration, List.lookup_cons]
  · cases hdescription : record.description <;> cases hduration : record.sessionDuration <;>
      simp [roleMembers, Call.whenPresent, hdescription, hduration, List.lookup_cons]
  · cases hdescription : record.description <;> cases hduration : record.sessionDuration <;>
      simp [roleMembers, Call.whenPresent, hdescription, hduration, List.lookup_cons]

def response (name : String) (record : RoleRecord) : Value :=
  .object [("Role", .object (roleMembers name record))]

theorem answered_response (name : String) (record : RoleRecord) :
    record.Answered name (response name record) :=
  ⟨_, rfl, shown_roleMembers name record⟩

/-- Hands over a record with a trust policy, unless that cannot be read. -/
def storing (text : String) (make : (v : Reading) → Reading.ofText? text = some v → RoleRecord)
    (reply : RoleRecord → Value) (old : Option RoleRecord) :
    Except Failure Value × Option RoleRecord :=
  match h : Reading.ofText? text with
  | some v => (.ok (reply (make v h)), some (make v h))
  | none => (.error (failure "MalformedPolicyDocument"), old)

def answer (name : String) : (c : Call) → Option RoleRecord →
    Except Failure c.Reply × Option RoleRecord
  | .createRole c, none =>
    storing c.trustPolicy
      (fun v h => ⟨"arn:aws:iam::123456789012:role/" ++ name, some c.description,
        c.maxSessionDuration, c.trustPolicy, v, h⟩) (response name) none
  | .createRole _, some old => (.error (failure "EntityAlreadyExists"), some old)
  | .getRole _, some old => (.ok (response name old), some old)
  | .updateRole _ description duration, some old =>
    (.ok (.object []), some { old with description := some description,
                                       sessionDuration := duration.or old.sessionDuration })
  | .updateTrustPolicy _ document, some old =>
    storing document (fun v h => { old with trust := document, trusted := v, reads := h })
      (fun _ => .object []) (some old)
  | _, old => (.error (failure "NoSuchEntity"), old)

def service (name : String) : Service interface Lossy where
  answer c state :=
    match state.delivered with
    | false :: rest => (.error (failure "Throttling"), { state with delivered := rest })
    | delivered =>
      let (reply, role) := answer name c state.role
      (reply, ⟨role, delivered.tail⟩)

/-- A call that is lost fails without an effect, so only those that are delivered matter. -/
theorem effect_answer {name : String} {c : Call} {state : Lossy}
    {change : c.Reply → Option RoleRecord → Prop}
    (delivered : Effect id state.role change (answer name c state.role)) :
    Effect role state change ((service name).answer c state) := by
  unfold service
  dsimp only
  split
  · rfl
  · generalize answer name c state.role = answered at delivered
    obtain ⟨f | response, after⟩ := answered <;> exact delivered

theorem effect_storing {text : String} {change : Value → Option RoleRecord → Prop}
    {make : (v : Reading) → Reading.ofText? text = some v → RoleRecord} {reply : RoleRecord → Value}
    {old : Option RoleRecord} (stored : ∀ v h, change (reply (make v h)) (some (make v h))) :
    Effect id old change (storing text make reply old) := by
  unfold storing
  split
  · next v h => exact stored v h
  · rfl

/-- The service keeps the role of one name. -/
def roleStore (name : String) : RoleStore (service name) name where
  record := role
  createRole c state hname := by
    apply effect_answer (c := .createRole c)
    cases state.role with
    | some old => rfl
    | none =>
      refine effect_storing fun v h => ⟨rfl, _, rfl, answered_response name _, rfl, ?_, rfl⟩
      exact fun seconds hseconds => hseconds
  getRole state := by
    apply effect_answer (c := .getRole name)
    cases state.role with
    | some old => exact ⟨rfl, old, rfl, answered_response name old⟩
    | none => rfl
  updateRole description duration state := by
    apply effect_answer (c := .updateRole (.str name) description duration)
    cases state.role with
    | some old => exact ⟨old, _, rfl, rfl, rfl, rfl, rfl, rfl⟩
    | none => rfl
  updateTrustPolicy document state := by
    apply effect_answer (c := .updateTrustPolicy (.str name) document)
    cases state.role with
    | some old =>
      rw [answer]
      exact effect_storing fun v h => ⟨old, _, rfl, rfl, rfl, rfl, rfl, rfl⟩
    | none => rfl

end Lossy

/-- A role that exists with another description, session duration and trust policy. In the first
attempt the last call is lost, which leaves the role with the requested description and the old trust
policy; the second attempt replaces that. -/
theorem createIdentity_converges_half_way :
    let r : Request.CreateIdentity :=
      { identityName := "ci", tenantId := "1", description := some "x",
        options := some { maxSessionDuration := some 7200 },
        trustConfig := some { trustedPrincipals := ["*"], conditions := some [("a", .str "%")] } }
    let old : RoleRecord := ⟨"arn", none, some 3600, "{}", .object [], rfl⟩
    let h : Handle := ⟨true, none⟩
    let attempts := (createIdentity h r).run.attempts (Lossy.service "ci") 2
      ⟨some old, [true, true, true, false]⟩
    attempts.map (fun run => run.result.toOption.isSome) = [false, true] ∧ Ready h r ∧
    (∀ run ∈ attempts, ∀ v, run.result = .ok v →
      ∃ record, run.state.role = some record ∧ record.Meets r ∧ v = .str record.arn) ∧
    attempts.Pairwise (fun run later => ∀ v, run.result = .ok v →
      Quiet later.trace ∧ later.state.role = run.state.role) ∧
    (Ready h r → ∀ run ∈ attempts, Unfailing run.trace → ∃ v, run.result = .ok v) := by
  intro r old h attempts
  refine ⟨?_, ⟨rfl, ?_⟩, ?_⟩
  · decide +kernel
  · intro conditions hconditions
    obtain rfl := Option.some.inj hconditions
    exact ⟨_, rfl⟩
  · exact (Lossy.roleStore "ci").createIdentity_converges (r := r) h 2
      ⟨some old, [true, true, true, false]⟩

end CloudIdentity.Aws

import CloudIdentity.Proofs.Client.Failures
import CloudIdentity.Proofs.Client.Invocation
import CloudIdentity.Proofs.Service.Custody

/-!
The life of an opened client: it is opened, and taken through steps in any order until no more
follow. An adapter has custody of what its handle holds: operations neither construct a client nor
close one, closing closes what it lets go of, and a handle that holds nothing makes no call. From
these laws it follows that whatever was constructed is closed, and once.
-/

namespace CloudIdentity

open Document InMemory

variable {S : Interface} {Handle K σ : Type} [DecidableEq K]

/-! ## Laws -/

/-- What closing leaves of what a handle holds: the books balance, and nothing is held any longer
once it has returned. -/
structure Clients.Closed (clients : Clients S K) (holds : Handle → K → Bool) (h : Handle)
    (trace : List (Event S)) (result : Except Failure Unit × Handle) : Prop where
  balanced : clients.Balanced (holds h) trace (holds result.2)
  constructions : ∀ k, clients.constructions k trace = 0
  nothing : result.1 = .ok () → ∀ k, holds result.2 k = false

/-- What an adapter's handle holds, with the laws that the adapter obeys. -/
structure Custody (adapter : Adapter S Handle) (clients : Clients S K) where
  holds : Handle → K → Bool
  lawful : adapter.classify.Lawful
  performs : ∀ h a, (AdapterCall.perform adapter h a).run.Calls clients.Neutral
  closes : ∀ h, (adapter.close h).Yields (clients.Closed holds h)
  performs_nothing : ∀ h, (∀ k, holds h k = false) → ∀ a, ∃ f : Failure,
    (AdapterCall.perform adapter h a).run = .done (.error f) ∧ f.Coded
  closes_nothing : ∀ h, (∀ k, holds h k = false) → adapter.close h = .done (.ok (), h)

namespace Custody

variable {adapter : Adapter S Handle} {clients : Clients S K} (custody : Custody adapter clients)

/-- What is held once connecting has come to a result. -/
def heldBy : Except Failure Handle → K → Bool
  | .ok h => custody.holds h
  | .error _ => fun _ => false

/-- Connecting has constructed no client twice, and left none but those that the handle holds. -/
structure Acquired (trace : List (Event S)) (result : Except Failure Handle) : Prop where
  once : ∀ k, clients.constructions k trace ≤ 1
  balanced : clients.Balanced (fun _ => false) trace (custody.heldBy result)

/-- What comes before without constructing or closing a client makes no difference. -/
theorem Acquired.after {custody : Custody adapter clients} {before trace : List (Event S)}
    {result : Except Failure Handle} (h : custody.Acquired trace result)
    (hneutral : ∀ c answer, .called c answer ∈ before → clients.Neutral c) :
    custody.Acquired (before ++ trace) result := by
  refine ⟨fun k => ?_, (Clients.balanced_of_neutral hneutral _).trans h.balanced⟩
  rw [Clients.constructions_append, Clients.constructions_of_neutral hneutral, Nat.zero_add]
  exact h.once k

theorem acquired_nothing {trace : List (Event S)}
    (hneutral : ∀ c answer, .called c answer ∈ trace → clients.Neutral c) (e : Failure) :
    custody.Acquired trace (.error e) where
  once k := by
    rw [Clients.constructions_of_neutral hneutral]
    exact Nat.zero_le 1
  balanced := Clients.balanced_of_neutral hneutral _

/-- An opening comes to a client of the adapter with what was acquired, or it fails. -/
def Opens (opening : Action S (Opened S Handle)) : Prop :=
  opening.run.Yields fun trace result =>
    ∃ handle, custody.Acquired trace handle ∧ result = Opened.mk adapter <$> handle

end Custody

/-! ## Lives -/

/-- What one step of an opened client has come to. -/
structure Turn (S : Interface) where
  step : Step
  result : Except Failure Value
  trace : List (Event S)

/-- Nothing more happens: no call is made, closing succeeds, and operations fail as the client's
do. -/
structure Turn.Idle (t : Turn S) : Prop where
  calls : Report.calls t.trace = []
  close : t.step = .close → t.result = .ok .null
  operation : ∀ c, t.step = .client c → ∃ f : Failure, t.result = .error f ∧ f.isCanonical = true

theorem Turn.idle_of_other {step : Step} (hclose : step ≠ .close) (hclient : ∀ c, step ≠ .client c)
    (result : Except Failure Value) : (Turn.mk step result ([] : List (Event S))).Idle where
  calls := rfl
  close h := absurd h hclose
  operation c h := absurd h (hclient c)

/-- All that happens in turns. -/
def Turn.traces (turns : List (Turn S)) : List (Event S) := turns.flatMap Turn.trace

namespace Opened

/-- An opened client taken through steps. -/
def turns (o : Opened S Handle) (service : Service S σ) : List Step → σ → List (Turn S)
  | [], _ => []
  | step :: rest, state =>
    let run := (step.perform o).run service state
    ⟨step, run.result.1, run.trace⟩ :: turns run.result.2 service rest run.state

end Opened

/-- Every client that an opening constructs is closed once. If the opening fails, that has happened
by then; if it succeeds, no client is closed twice however the opened client is used, each has been
closed once closing has returned, and nothing more happens after that. -/
structure Clients.ReleasedOnce (clients : Clients S K) (service : Service S σ)
    (opening : Run S σ (Except Failure (Opened S Handle))) : Prop where
  failed : ∀ f, opening.result = .error f → ∀ k,
    clients.closings k opening.trace = clients.constructions k opening.trace ∧
      clients.constructions k opening.trace ≤ 1
  used : ∀ o steps, opening.result = .ok o → ∀ k,
    let trace := opening.trace ++ Turn.traces (o.turns service steps opening.state)
    clients.closings k trace ≤ clients.constructions k trace ∧ clients.constructions k trace ≤ 1
  closed : ∀ o steps before t after v, opening.result = .ok o →
    o.turns service steps opening.state = before ++ t :: after → t.step = .close →
    t.result = .ok v →
      (∀ k, let trace := opening.trace ++ Turn.traces (before ++ [t])
        clients.closings k trace = clients.constructions k trace) ∧
      ∀ u ∈ after, u.Idle

namespace Custody

variable {adapter : Adapter S Handle} {clients : Clients S K} (custody : Custody adapter clients)

/-! ## Steps -/

/-- A client's operation calls what the adapter's operation calls. -/
theorem calls_call {o : Opened S Handle} {P : S.Call → Prop}
    (h : ∀ a, (AdapterCall.perform o.adapter o.handle a).run.Calls P) (c : ClientCall) :
    (o.call c).run.Calls P := by
  have hdone {α : Type} (result : Except Failure α) :
      (Action.ofExcept result : Action S α).run.Calls P := by
    rw [Action.run_ofExcept]
    trivial
  refine Action.calls_bind (hdone _) fun a => Action.calls_bind trivial fun _ =>
    Action.calls_bind (Action.calls_attempt (h a)) fun answer => ?_
  cases answer with
  | ok v => trivial
  | error f =>
    exact Action.calls_bind (hdone _) fun g => Action.calls_bind trivial fun _ => trivial

/-- What a step leaves: the same adapter and books that balance, with nothing constructed. Once
closing has returned nothing is held. -/
structure Kept (h : Handle) (step : Step) (trace : List (Event S))
    (result : Except Failure Value × Opened S Handle) : Prop where
  adapter : result.2.adapter = adapter
  constructions : ∀ k, clients.constructions k trace = 0
  balanced : clients.Balanced (custody.holds h) trace (custody.holds result.2.handle)
  closed : step = .close → ∀ v, result.1 = .ok v → ∀ k, custody.holds result.2.handle k = false

/-- A step that neither constructs nor closes, and leaves the client as it is. -/
theorem kept_of_neutral (h : Handle) {step : Step} (hstep : step ≠ .close)
    (result : Except Failure Value) {trace : List (Event S)}
    (hneutral : ∀ c answer, .called c answer ∈ trace → clients.Neutral c) :
    custody.Kept h step trace (result, ⟨adapter, h⟩) where
  adapter := rfl
  constructions := Clients.constructions_of_neutral hneutral
  balanced := Clients.balanced_of_neutral hneutral _
  closed heq := absurd heq hstep

theorem close_kept (h : Handle) :
    (Opened.close ⟨adapter, h⟩).Yields fun trace result =>
      custody.Kept h .close trace ((fun _ => .null) <$> result.1, result.2) := by
  refine .map <| (custody.closes h).mono fun trace result hclosed => ?_
  refine ⟨rfl, hclosed.constructions, hclosed.balanced, fun _ v hv => hclosed.nothing ?_⟩
  cases hresult : result.1 with
  | ok _ => rfl
  | error f =>
    simp only [hresult] at hv
    cases hv

theorem step_kept (h : Handle) (step : Step) :
    (step.perform ⟨adapter, h⟩).Yields (custody.Kept h step) := by
  have hnone {step : Step} (hstep : step ≠ .close) (result : Except Failure Value) :
      custody.Kept h step [] (result, ⟨adapter, h⟩) :=
    custody.kept_of_neutral h hstep result fun _ _ hmem => absurd hmem List.not_mem_nil
  cases step with
  | client c =>
    exact .map <| (calls_call (o := ⟨adapter, h⟩) (custody.performs h) c).yields.mono
      fun trace result => custody.kept_of_neutral h (by simp) result
  | adapter a =>
    exact .map <| (custody.performs h a).yields.mono
      fun trace result => custody.kept_of_neutral h (by simp) result
  | refused f => exact hnone (by simp) _
  | provider => exact hnone (by simp) _
  | region => exact hnone (by simp) _
  | close => exact .map (custody.close_kept h)
  | block failure =>
    refine .bind (custody.close_kept h) fun trace result hkept => ?_
    have hblock (told : Except Failure Value) :
        custody.Kept h (.block failure) (trace ++ []) (told, result.2) := by
      rw [List.append_nil]
      exact ⟨hkept.adapter, hkept.constructions, hkept.balanced, by simp⟩
    obtain ⟨_ | _, o⟩ := result
    · exact hblock _
    · exact hblock _

/-- An operation of a client that holds nothing makes no call and fails as the client's do. -/
theorem outcome_released {h : Handle} (hnothing : ∀ k, custody.holds h k = false) (c : ClientCall)
    (service : Service S σ) (state : σ) :
    let run := Opened.outcome ⟨adapter, h⟩ service c state
    Report.calls run.trace = [] ∧
      ∃ f : Failure, run.result = .error f ∧ f.isCanonical = true := by
  intro run
  cases hadmitted : c.admit with
  | error f =>
    simp only [run, Opened.outcome_refused hadmitted]
    exact ⟨rfl, f, rfl, (Gate.refuses_call c f hadmitted).isCanonical⟩
  | ok a =>
    obtain ⟨f, hperform, hcoded⟩ := custody.performs_nothing h hnothing a
    have hperformed : Opened.performed ⟨adapter, h⟩ service a state = ⟨.error f, state, []⟩ := by
      rw [Opened.performed, hperform, Program.run]
    obtain ⟨g, kind, hcanonical, htold⟩ :=
      Failure.toCanonical_toldAs custody.lawful hcoded (a.operation.name ++ " failed")
    have hcalls : Report.calls run.trace = [] := by
      simp only [run, Opened.outcome_admitted hadmitted, Opened.calls_carryOut, hperformed]
      rfl
    have hresult : run.result = .error g := by
      simp only [run, Opened.outcome_result hadmitted, hperformed, AdapterCall.told, hcanonical]
    exact ⟨hcalls, g, hresult, Failure.isCanonical_of_toCanonical hcanonical⟩

/-- A step of a client that holds nothing is idle, and leaves it as it is. -/
theorem step_released {h : Handle} (hnothing : ∀ k, custody.holds h k = false) (step : Step)
    (service : Service S σ) (state : σ) :
    let run := (step.perform ⟨adapter, h⟩).run service state
    run.result.2 = ⟨adapter, h⟩ ∧ (Turn.mk step run.result.1 run.trace).Idle := by
  intro run
  have hclose := custody.closes_nothing h hnothing
  cases step with
  | client c =>
    have hrun : run.result = ((Opened.outcome ⟨adapter, h⟩ service c state).result, ⟨adapter, h⟩) ∧
        run.trace = (Opened.outcome ⟨adapter, h⟩ service c state).trace := by
      simp only [run, Step.perform, Program.run_bind, Opened.outcome, Program.pure_eq_done,
        Program.run, List.append_nil, and_self]
    obtain ⟨hcalls, hfails⟩ := custody.outcome_released hnothing c service state
    rw [hrun.1, hrun.2]
    exact ⟨rfl, hcalls, by simp, fun _ _ => hfails⟩
  | adapter a =>
    obtain ⟨f, hperform, _⟩ := custody.performs_nothing h hnothing a
    have hrun : run = ⟨(.error f, ⟨adapter, h⟩), state, []⟩ := by
      simp only [run, Step.perform, hperform]
      rfl
    rw [hrun]
    exact ⟨rfl, Turn.idle_of_other (by simp) (by simp) _⟩
  | refused f | provider | region => exact ⟨rfl, Turn.idle_of_other (by simp) (by simp) _⟩
  | close =>
    have hrun : run = ⟨(.ok .null, ⟨adapter, h⟩), state, []⟩ := by
      simp only [run, Step.perform, Opened.close, hclose]
      rfl
    rw [hrun]
    exact ⟨rfl, rfl, fun _ => rfl, by simp⟩
  | block failure =>
    have hrun : ∃ result, run = ⟨(result, ⟨adapter, h⟩), state, []⟩ := by
      simp only [run, Step.perform, Opened.leave, Opened.close, hclose]
      exact ⟨_, rfl⟩
    obtain ⟨result, hrun⟩ := hrun
    rw [hrun]
    exact ⟨rfl, Turn.idle_of_other (by simp) (by simp) _⟩

/-! ## Turns -/

theorem step_cases (h : Handle) (step : Step) (service : Service S σ) (state : σ) :
    ∃ result h' state' trace,
      (step.perform ⟨adapter, h⟩).run service state = ⟨(result, ⟨adapter, h'⟩), state', trace⟩ ∧
        custody.Kept h step trace (result, ⟨adapter, h'⟩) := by
  have hkept := (custody.step_kept h step).run service state
  generalize (step.perform ⟨adapter, h⟩).run service state = run at hkept ⊢
  obtain ⟨⟨result, ⟨_, h'⟩⟩, state', trace⟩ := run
  obtain rfl := hkept.adapter
  exact ⟨result, h', state', trace, rfl, hkept⟩

theorem turns_released {h : Handle} (hnothing : ∀ k, custody.holds h k = false)
    (service : Service S σ) (steps : List Step) (state : σ) :
    ∀ t ∈ Opened.turns ⟨adapter, h⟩ service steps state, t.Idle := by
  induction steps generalizing state with
  | nil => exact fun t ht => absurd ht List.not_mem_nil
  | cons step steps ih =>
    obtain ⟨hleft, hidle⟩ := custody.step_released hnothing step service state
    rw [Opened.turns]
    refine List.forall_mem_cons.mpr ⟨hidle, ?_⟩
    rw [hleft]
    exact ih _

/-- However the client is used, nothing is constructed, and the books balance. -/
theorem turns_balanced (h : Handle) (service : Service S σ) (steps : List Step) (state : σ) :
    (∀ k, clients.constructions k (Turn.traces (Opened.turns ⟨adapter, h⟩ service steps state)) =
        0) ∧
      ∃ held, clients.Balanced (custody.holds h)
        (Turn.traces (Opened.turns ⟨adapter, h⟩ service steps state)) held := by
  induction steps generalizing h state with
  | nil => exact ⟨fun k => rfl, _, Clients.balanced_nil _⟩
  | cons step steps ih =>
    obtain ⟨result, h', state', trace, hrun, hkept⟩ := custody.step_cases h step service state
    obtain ⟨hconstructions, held, hbalanced⟩ := ih h' state'
    rw [Opened.turns, hrun, Turn.traces, List.flatMap_cons]
    refine ⟨fun k => ?_, held, hkept.balanced.trans hbalanced⟩
    rw [Clients.constructions_append, hkept.constructions]
    exact (Nat.zero_add _).trans (hconstructions k)

/-- Once closing has returned the books are settled, and the client is idle. -/
theorem turns_closed {h : Handle} {service : Service S σ} {steps : List Step} {state : σ}
    {before after : List (Turn S)} {t : Turn S} {v : Value}
    (hturns : Opened.turns ⟨adapter, h⟩ service steps state = before ++ t :: after)
    (hclose : t.step = .close) (hresult : t.result = .ok v) :
    clients.Balanced (custody.holds h) (Turn.traces (before ++ [t])) (fun _ => false) ∧
      ∀ u ∈ after, u.Idle := by
  induction steps generalizing h state before with
  | nil => simp [Opened.turns] at hturns
  | cons step steps ih =>
    obtain ⟨result, h', state', trace, hrun, hkept⟩ := custody.step_cases h step service state
    rw [Opened.turns, hrun] at hturns
    cases before with
    | nil =>
      obtain ⟨rfl, rfl⟩ := List.cons.inj hturns
      have hnothing := hkept.closed hclose v hresult
      refine ⟨?_, custody.turns_released hnothing service steps state'⟩
      have hbalanced := hkept.balanced
      rw [funext hnothing] at hbalanced
      simpa [Turn.traces] using hbalanced
    | cons first before =>
      obtain ⟨rfl, hrest⟩ := List.cons.inj hturns
      obtain ⟨hbalanced, hidle⟩ := ih hrest
      exact ⟨hkept.balanced.trans hbalanced, hidle⟩

/-! ## Whole lives -/

/-- A client is opened by a validation that neither constructs a client nor closes one, and by
connecting. -/
theorem opens {Configuration : Type} {validate : Action S Configuration}
    {connect : Configuration → Action S Handle} (hvalidate : validate.run.Calls clients.Neutral)
    (hconnect : ∀ c, (connect c).run.Yields custody.Acquired) :
    custody.Opens (do
      let configuration ← validate
      let handle ← connect configuration
      pure ⟨adapter, handle⟩) := by
  refine Action.yields_bind hvalidate.yields ?_ fun trace c hneutral => ?_
  · exact fun trace e hneutral => ⟨.error e, custody.acquired_nothing hneutral e, rfl⟩
  · refine Action.yields_bind (hconnect c) ?_ ?_
    · exact fun rest e h => ⟨.error e, h.after hneutral, rfl⟩
    · intro rest handle h
      refine ⟨.ok handle, ?_, rfl⟩
      rw [List.append_nil]
      exact h.after hneutral

/-- Whatever has custody of its clients releases each of them once. -/
theorem releasedOnce {opening : Action S (Opened S Handle)} (hopens : custody.Opens opening)
    (service : Service S σ) (state : σ) :
    clients.ReleasedOnce service (opening.run.run service state) := by
  obtain ⟨handle, hacquired, hresult⟩ := Program.Yields.run hopens service state
  generalize opening.run.run service state = opened at hacquired hresult
  obtain ⟨_, after, trace⟩ := opened
  simp only at hacquired hresult
  subst hresult
  cases handle with
  | error f =>
    refine ⟨fun _ _ k => ⟨hacquired.balanced.settled k, hacquired.once k⟩, ?_, ?_⟩
    · intro o steps hok
      cases hok
    · intro o steps before t rest v hok
      cases hok
  | ok h =>
    refine ⟨?_, ?_, ?_⟩
    · intro f herror
      cases herror
    · intro o steps hok k
      obtain rfl := Except.ok.inj hok
      obtain ⟨hconstructions, held, hturns⟩ := custody.turns_balanced h service steps after
      refine ⟨(hacquired.balanced.trans hturns).closings_le k, ?_⟩
      rw [Clients.constructions_append, hconstructions k]
      exact hacquired.once k
    · intro o steps before t rest v hok hturns hclose hreturned
      obtain rfl := Except.ok.inj hok
      obtain ⟨hclosed, hidle⟩ := custody.turns_closed hturns hclose hreturned
      exact ⟨(hacquired.balanced.trans hclosed).settled, hidle⟩

end Custody

end CloudIdentity

import CloudIdentity.Proofs.Client.Existing
import CloudIdentity.Proofs.Journal.Line

/-!
Logs that tell the truth. An operation makes entries of itself, and a logger emits a record of each;
whether they tell what has happened is measured by what the service was asked and how it answered.
An operation that the gate refuses has nothing to tell. Any other tells that it has started, a
creation tells if it goes on after its own call has failed, and an operation that raises tells so in
the end.
-/

namespace CloudIdentity

open Document InMemory

variable {S : Interface} {σ α β : Type}

/-! ## Programs that log nothing -/

namespace Program

/-- No log entry is made, whatever the calls are answered. -/
def Quiet : Program S α → Prop
  | done _ => True
  | call _ next => ∀ answer, (next answer).Quiet
  | log _ _ => False

theorem Quiet.bind {p : Program S α} {f : α → Program S β} (h : p.Quiet) (hf : ∀ a, (f a).Quiet) :
    (p >>= f).Quiet := by
  induction p with
  | done a => exact hf a
  | call c next ih => exact fun answer => ih answer (h answer)
  | log entry next => exact h.elim

theorem Quiet.yields {p : Program S α} (h : p.Quiet) :
    p.Yields fun trace _ => Report.entries trace = [] := by
  induction p with
  | done a => exact rfl
  | call c next ih => exact fun answer => ih answer (h answer)
  | log entry next => exact h.elim

theorem Yields.and {Q R : List (Event S) → α → Prop} {p : Program S α} (h : p.Yields Q)
    (h' : p.Yields R) : p.Yields fun trace a => Q trace a ∧ R trace a := by
  induction p generalizing Q R with
  | done a => exact ⟨h, h'⟩
  | call c next ih => exact fun answer => ih answer (h answer) (h' answer)
  | log entry next ih => exact ih h h'

end Program

namespace Action

theorem quiet_bind {x : Action S α} {f : α → Action S β} (h : x.run.Quiet)
    (hf : ∀ a, (f a).run.Quiet) : (x >>= f).run.Quiet := by
  rw [ExceptT.run_bind]
  refine h.bind fun result => ?_
  cases result with
  | ok a => exact hf a
  | error f => trivial

theorem quiet_ofExcept (result : Except Failure α) :
    (ofExcept result : Action S α).run.Quiet := by
  rw [run_ofExcept]
  trivial

/-- A step that is taken where it is needed. -/
theorem quiet_bind_if (needed : Prop) [Decidable needed] {x : Action S α} {next : Action S β}
    (h : x.run.Quiet) (hnext : next.run.Quiet) :
    (if needed then x >>= fun _ => next else next).run.Quiet := by
  split
  · exact quiet_bind h fun _ => hnext
  · exact hnext

theorem quiet_request (c : S.Call) : (request c).run.Quiet := fun _ => trivial

end Action

/-! ## Entries -/

/-- An entry that an operation makes of itself. -/
def operationEntry (provider : String) (a : AdapterCall) (level : Journal.Level) (message : String)
    (kind : Option Kind) : Journal.Entry where
  level := level
  message := message
  context := { callContext provider a with errorKind := .ofText (kind.map Kind.name) }

/-- The logger of that name once it is made ready and lets everything from DEBUG on pass. -/
def Journal.Logger.debugging (name : String) : Journal.Logger :=
  (({ name := name } : Journal.Logger).setUp).setLevel Journal.Level.debug

/-- A record says what is to be said of an operation: beside the message and an id, the provider,
the operation, and whichever of the identity, the tenant and a kind of failure there is. -/
structure Journal.Record.Tells (r : Journal.Record) (provider : String) (a : AdapterCall)
    (level message : String) (kind : Option Kind) : Prop where
  level : r.level = .str level
  message : r.message = message
  context : ∃ id, r.context.present = ("request_id", .str id) ::
    [("provider", some provider), ("operation", some a.operation.name), ("identity", a.identity),
      ("tenant", a.tenant), ("error_kind", kind.map Kind.name)].filterMap
        fun (name, text) => text.map fun s => (name, .str s)
  exception : r.exception = none

theorem Document.Value.not_unencodable_ofText (text : Option String) :
    ¬ (Value.ofText text).Unencodable := by
  cases text <;> exact nofun

namespace Journal.Logger

/-- The records that a logger emits of entries, each with the id that is fresh then. -/
def emitAll (l : Logger) (ids : Nat → String) : Nat → List Entry → List Record
  | _, [] => []
  | n, e :: rest => l.emit (ids n) e ++ emitAll l ids (n + 1) rest

theorem emitAll_append (l : Logger) (ids : Nat → String) (n : Nat) (entries rest : List Entry) :
    l.emitAll ids n (entries ++ rest) =
      l.emitAll ids n entries ++ l.emitAll ids (n + entries.length) rest := by
  induction entries generalizing n with
  | nil => rfl
  | cons e entries ih =>
    rw [List.cons_append, emitAll, emitAll, ih, List.append_assoc, List.length_cons,
      Nat.add_right_comm, Nat.add_assoc]

end Journal.Logger

/-- The records that a logger emits of a turn. -/
def Turn.records (l : Journal.Logger) (ids : Nat → String) (t : Turn S) : List Journal.Record :=
  l.emitAll ids 0 (Report.entries t.trace)

/-- An entry of an operation is emitted once, and tells what it is to tell. -/
theorem exists_record (name provider : String) (ids : Nat → String) (n : Nat) (a : AdapterCall)
    (level : Journal.Level) (hlevel : Journal.Level.debug ≤ level) (message : String)
    (kind : Option Kind) :
    ∃ r, (Journal.Logger.debugging name).emitAll ids n
        [operationEntry provider a level message kind] = [r] ∧
      r.Tells provider a level.name message kind := by
  have henabled : (Journal.Logger.debugging name).enabled level = true := by
    have hpositive : 0 < level := lt_of_lt_of_le (by decide) hlevel
    exact decide_eq_true ⟨hpositive, hlevel⟩
  have hcontext : ∀ m ∈ (operationEntry provider a level message kind).context.members,
      ¬ m.2.Unencodable := by
    simp only [operationEntry, callContext, Journal.Context.members, List.forall_mem_cons]
    exact ⟨nofun, nofun, nofun, Value.not_unencodable_ofText _, Value.not_unencodable_ofText _,
      Value.not_unencodable_ofText _, nofun⟩
  have hlabel : ¬ (operationEntry provider a level message kind).label.Unencodable := nofun
  rw [Journal.Logger.emitAll, Journal.Logger.emitAll, List.append_nil,
    Journal.Logger.emit_of_encodable henabled hlabel hcontext]
  refine ⟨_, rfl, rfl, rfl, ⟨ids n, ?_⟩, rfl⟩
  change Journal.Context.present ⟨.str (ids n), .str provider, .str a.operation.name,
    .ofText a.identity, .ofText a.tenant, .ofText (kind.map Kind.name)⟩ = _
  cases a.identity <;> cases a.tenant <;> cases kind <;> rfl

/-! ## Failures that cannot be classified -/

namespace Failure

variable {f g : Failure} {classify : Classifier} {context : String}

theorem classify_of_toCanonical_error (h : f.toCanonical classify context = .error g) :
    classify f = .error g := by
  rw [toCanonical] at h
  split at h
  · cases h
  · split at h
    · cases h
    · next hclassify =>
      obtain rfl := Except.error.inj h
      exact hclassify

theorem toCanonical_of_classify_error (huntagged : f.kind? = none)
    (h : classify f = .error g) : f.toCanonical classify context = .error g := by
  rw [toCanonical, if_neg (by simp [isCanonical, huntagged]), h]

end Failure

/-! ## What a log is measured by -/

/-- What tells whether the log of a provider's operations is right: what a creation is to say once
it has found what it is to create; which failure of which call is absorbed, if which other call is
made; and which answers nobody can classify. -/
structure Marks (S : Interface) where
  found : String
  Absorbs : S.Call → Failure → S.Call → Prop
  Defies : (c : S.Call) → Except Failure (S.Reply c) → Prop

namespace Marks

variable {Handle : Type} (marks : Marks S)

/-- A call has failed in a way that is absorbed, and the operation has gone on. -/
def Absorbed (trace : List (Event S)) : Prop :=
  ∃ c f d answer, .called c (.error f) ∈ trace ∧ .called d answer ∈ trace ∧ marks.Absorbs c f d

/-- A call was answered as nobody can classify. -/
def Defied (trace : List (Event S)) : Prop :=
  ∃ c answer, .called c answer ∈ trace ∧ marks.Defies c answer

/-- The log of an operation tells of it what has happened. It begins with an entry at DEBUG. One at
INFO follows for a creation whose own call has failed and was absorbed, and for nothing else. In the
end there is an entry at ERROR for an operation that raises, with the kind and the text of what it
raises; there is none for one that returns, or where a failure could not be classified. -/
structure Recounted (provider : String) (a : AdapterCall) (t : Turn S) (started : Journal.Record)
    (noted failed : List Journal.Record) : Prop where
  begins : started.Tells provider a "DEBUG" (a.operation.name ++ " started") none
  notes : ∀ r ∈ noted, r.Tells provider a "INFO" marks.found none
  once : noted.length ≤ 1
  notes_iff : noted ≠ [] ↔ a.operation = .createIdentity ∧ marks.Absorbed t.trace
  returned : ∀ v, t.result = .ok v → failed = []
  raised : ∀ f, t.result = .error f → ¬ marks.Defied t.trace → ∃ r kind, failed = [r] ∧
    f.kind? = some kind ∧
    r.Tells provider a "ERROR" (a.operation.name ++ " failed: " ++ f.message) (some kind)
  defied : marks.Defied t.trace →
    failed = [] ∧ ∃ f, t.result = .error f ∧ f.origin = .general .type ∧ f.kind? = none

/-- A call that the gate refuses leaves nothing in the log, and any other leaves what is to be told
of it. -/
def LogsTruly (provider : String) (c : ClientCall) (t : Turn S) (records : List Journal.Record) :
    Prop :=
  ((∀ a, ¬ c.Asks a) → records = []) ∧
  ∀ a, c.Asks a → ∃ started noted failed,
    records = started :: (noted ++ failed) ∧ marks.Recounted provider a t started noted failed

/-- A creation has made one entry or none, as it has absorbed the failure of its call or not. -/
def Notes (note : Journal.Entry) (trace : List (Event S)) : Prop :=
  (Report.entries trace = [note] ∧ marks.Absorbed trace) ∨
    (Report.entries trace = [] ∧ ¬ marks.Absorbed trace)

/-- What an adapter has to see to for its log to be right. -/
structure Lawful (adapter : Adapter S Handle) : Prop where
  creates : ∀ h r, (adapter.createIdentity h r).run.Yields fun trace _ =>
    marks.Notes (operationEntry adapter.provider (.createIdentity r) Journal.Level.info marks.found
      none) trace
  quiet : ∀ h a, a.operation ≠ .createIdentity → (AdapterCall.perform adapter h a).run.Quiet
  defied_iff : ∀ {σ : Type} (service : Service S σ) h a state,
    let run := (Opened.mk adapter h).performed service a state
    marks.Defied run.trace ↔ ∃ f g, run.result = .error f ∧ adapter.classify f = .error g
  raises : ∀ f g, adapter.classify f = .error g →
    f.kind? = none ∧ g.origin = .general .type ∧ g.kind? = none

variable {marks} {adapter : Adapter S Handle}

theorem absorbed_congr {trace trace' : List (Event S)}
    (h : ∀ c answer, .called c answer ∈ trace ↔ .called c answer ∈ trace') :
    marks.Absorbed trace ↔ marks.Absorbed trace' := by
  simp only [Absorbed, h]

theorem defied_congr {trace trace' : List (Event S)}
    (h : ∀ c answer, .called c answer ∈ trace ↔ .called c answer ∈ trace') :
    marks.Defied trace ↔ marks.Defied trace' := by
  simp only [Defied, h]

theorem Lawful.notes (hlawful : marks.Lawful adapter) (h : Handle) (a : AdapterCall)
    (service : Service S σ) (state : σ) :
    let trace := ((Opened.mk adapter h).performed service a state).trace
    let note := operationEntry adapter.provider a Journal.Level.info marks.found none
    (Report.entries trace = [note] ∧ a.operation = .createIdentity ∧ marks.Absorbed trace) ∨
      (Report.entries trace = [] ∧ ¬ (a.operation = .createIdentity ∧ marks.Absorbed trace)) := by
  intro trace note
  by_cases hcreates : a.operation = .createIdentity
  · cases a with
    | createIdentity r =>
      refine ((hlawful.creates h r).run service state).imp ?_ ?_
      · exact fun hnoted => ⟨hnoted.1, rfl, hnoted.2⟩
      · exact fun hsilent => ⟨hsilent.1, fun habsorbed => hsilent.2 habsorbed.2⟩
    | _ => cases hcreates
  · exact Or.inr ⟨(hlawful.quiet h a hcreates).yields.run service state,
      fun habsorbed => hcreates habsorbed.1⟩

end Marks

namespace Opened

variable {Handle : Type}

theorem entries_logged (entries : List Journal.Entry) :
    Report.entries (entries.map (Event.logged : Journal.Entry → Event S)) = entries := by
  induction entries with
  | nil => rfl
  | cons entry rest ih => exact congrArg (entry :: ·) ih

/-- The entries of an admitted call: that it has started, those of the adapter, and those that a
failure leads to. -/
theorem entries_carryOut (o : Opened S Handle) (service : Service S σ) (a : AdapterCall)
    (state : σ) :
    Report.entries ((o.carryOut a).run.run service state).trace =
      startedEntry o.adapter.provider a ::
        (Report.entries (o.performed service a state).trace ++
          a.closingEntries o.adapter.provider o.adapter.classify
            (o.performed service a state).result) := by
  rw [carryOut_run]
  refine congrArg (startedEntry o.adapter.provider a :: ·) ?_
  exact List.filterMap_append.trans (congrArg (_ ++ ·) (entries_logged _))

end Opened

namespace Marks

variable {Handle K : Type} {marks : Marks S} {adapter : Adapter S Handle}

/-- How an operation ends: it returns, it raises what it has logged, or it raises that a failure
could not be classified. -/
theorem Lawful.ends (hlawful : marks.Lawful adapter) (h : Handle) (a : AdapterCall)
    (service : Service S σ) (state : σ) :
    let run := (Opened.mk adapter h).performed service a state
    let result := a.told adapter.classify run.result
    let entries := a.closingEntries adapter.provider adapter.classify run.result
    (∃ v, result = .ok v ∧ entries = [] ∧ ¬ marks.Defied run.trace) ∨
    (∃ f kind, result = .error f ∧ f.kind? = some kind ∧
      entries = [operationEntry adapter.provider a Journal.Level.error
        (a.operation.name ++ " failed: " ++ f.message) (some kind)] ∧ ¬ marks.Defied run.trace) ∨
    ∃ f, result = .error f ∧ entries = [] ∧ marks.Defied run.trace ∧
      f.origin = .general .type ∧ f.kind? = none := by
  intro run result entries
  have hdefied : marks.Defied run.trace ↔
      ∃ f g, run.result = .error f ∧ adapter.classify f = .error g :=
    hlawful.defied_iff service h a state
  simp only [result, entries]
  cases hperformed : run.result with
  | ok answer =>
    refine Or.inl ⟨_, rfl, rfl, fun h => ?_⟩
    obtain ⟨f, _, hf, _⟩ := hdefied.mp h
    cases hperformed.symm.trans hf
  | error e =>
    rw [AdapterCall.told, AdapterCall.closingEntries]
    cases hcanonical : e.toCanonical adapter.classify (a.operation.name ++ " failed") with
    | ok g =>
      have hg : g.isCanonical = true := Failure.isCanonical_of_toCanonical hcanonical
      obtain ⟨_, kind, hkind⟩ := Failure.isCanonical_iff.mp hg
      refine Or.inr (Or.inl ⟨g, kind, rfl, hkind, ?_, fun h => ?_⟩)
      · rw [← hkind]
        rfl
      · obtain ⟨f, _, hf, herror⟩ := hdefied.mp h
        obtain rfl : e = f := Except.error.inj (hperformed.symm.trans hf)
        have huntagged : e.kind? = none := (hlawful.raises e _ herror).1
        cases hcanonical.symm.trans (Failure.toCanonical_of_classify_error huntagged herror)
    | error g =>
      have hclassify := Failure.classify_of_toCanonical_error hcanonical
      obtain ⟨_, horigin, hkind⟩ := hlawful.raises e g hclassify
      exact Or.inr (Or.inr ⟨g, rfl, rfl, hdefied.mpr ⟨e, g, hperformed, hclassify⟩, horigin,
        hkind⟩)

variable (name : String) (ids : Nat → String) (n : Nat)

/-- The records of what the adapter has logged. -/
theorem Lawful.noted (hlawful : marks.Lawful adapter) (h : Handle) (a : AdapterCall)
    (service : Service S σ) (state : σ) :
    let trace := ((Opened.mk adapter h).performed service a state).trace
    let noted := (Journal.Logger.debugging name).emitAll ids n (Report.entries trace)
    (∀ r ∈ noted, r.Tells adapter.provider a "INFO" marks.found none) ∧ noted.length ≤ 1 ∧
      (noted ≠ [] ↔ a.operation = .createIdentity ∧ marks.Absorbed trace) := by
  intro trace noted
  rcases hlawful.notes h a service state with ⟨hentries, habsorbed⟩ | ⟨hentries, hnot⟩
  · obtain ⟨r, hr, htells⟩ := exists_record name adapter.provider ids n a Journal.Level.info
      (by decide) marks.found none
    have hnoted : noted = [r] := (congrArg _ hentries).trans hr
    rw [hnoted]
    refine ⟨fun r' hr' => ?_, Nat.le_refl 1, iff_of_true (List.cons_ne_nil r []) habsorbed⟩
    obtain rfl := List.mem_singleton.mp hr'
    exact htells
  · have hnoted : noted = [] := congrArg _ hentries
    rw [hnoted]
    exact ⟨fun r hr => absurd hr List.not_mem_nil, Nat.zero_le 1, iff_of_false (by simp) hnot⟩

/-- The records of how the operation has ended. -/
theorem Lawful.failed (hlawful : marks.Lawful adapter) (h : Handle) (a : AdapterCall)
    (service : Service S σ) (state : σ) :
    let run := (Opened.mk adapter h).performed service a state
    let result := a.told adapter.classify run.result
    let failed := (Journal.Logger.debugging name).emitAll ids n
      (a.closingEntries adapter.provider adapter.classify run.result)
    (∀ v, result = .ok v → failed = []) ∧
    (∀ f, result = .error f → ¬ marks.Defied run.trace → ∃ r kind, failed = [r] ∧
      f.kind? = some kind ∧ r.Tells adapter.provider a "ERROR"
        (a.operation.name ++ " failed: " ++ f.message) (some kind)) ∧
    (marks.Defied run.trace →
      failed = [] ∧ ∃ f, result = .error f ∧ f.origin = .general .type ∧ f.kind? = none) := by
  intro run result failed
  rcases hlawful.ends h a service state with
    ⟨v, hresult, hentries, hnot⟩ | ⟨f, kind, hresult, hkind, hentries, hnot⟩ |
    ⟨f, hresult, hentries, hdefied, horigin, hkind⟩
  · refine ⟨fun _ _ => congrArg _ hentries, fun f hf => ?_, fun hdefied => absurd hdefied hnot⟩
    cases hresult.symm.trans hf
  · refine ⟨fun v hv => ?_, fun f' hf' _ => ?_, fun hdefied => absurd hdefied hnot⟩
    · cases hresult.symm.trans hv
    · obtain rfl : f = f' := Except.error.inj (hresult.symm.trans hf')
      obtain ⟨r, hr, htells⟩ := exists_record name adapter.provider ids n a
        Journal.Level.error (by decide) (a.operation.name ++ " failed: " ++ f.message) (some kind)
      exact ⟨r, kind, (congrArg _ hentries).trans hr, hkind, htells⟩
  · refine ⟨fun v hv => ?_, fun _ _ hnot => absurd hdefied hnot, fun _ => ?_⟩
    · cases hresult.symm.trans hv
    · exact ⟨congrArg _ hentries, f, hresult, horigin, hkind⟩

/-- The log of an admitted call tells of it what has happened. -/
theorem Lawful.recounted (hlawful : marks.Lawful adapter) (h : Handle) {c : ClientCall}
    {a : AdapterCall} (hasks : c.Asks a) (service : Service S σ) (state : σ) :
    let run := (Opened.mk adapter h).outcome service c state
    let t : Turn S := ⟨.client c, run.result, run.trace⟩
    ∃ started noted failed,
      t.records (Journal.Logger.debugging name) ids = started :: (noted ++ failed) ∧
      marks.Recounted adapter.provider a t started noted failed := by
  intro run t
  let performed := (Opened.mk adapter h).performed service a state
  let logger := Journal.Logger.debugging name
  let notes := Report.entries performed.trace
  let closing := a.closingEntries adapter.provider adapter.classify performed.result
  have hadmitted := ClientCall.admit_eq_ok_iff.mpr hasks
  have hentries : Report.entries run.trace =
      startedEntry adapter.provider a :: (notes ++ closing) := by
    simp only [run, Opened.outcome_admitted hadmitted, Opened.entries_carryOut]
    rfl
  have habsorbed : marks.Absorbed run.trace ↔ marks.Absorbed performed.trace :=
    absorbed_congr fun _ _ => Opened.called_mem_outcome_iff hadmitted
  have hdefied : marks.Defied run.trace ↔ marks.Defied performed.trace :=
    defied_congr fun _ _ => Opened.called_mem_outcome_iff hadmitted
  have hresult : t.result = a.told adapter.classify performed.result :=
    Opened.outcome_result hadmitted
  obtain ⟨started, hstarted, hbegins⟩ := exists_record name adapter.provider ids 0 a
    Journal.Level.debug (by decide) (a.operation.name ++ " started") none
  obtain ⟨hnotes, honce, hnoted⟩ := hlawful.noted name ids 1 h a service state
  obtain ⟨hreturned, hraised, hdefies⟩ := hlawful.failed name ids (1 + notes.length) h a
    service state
  refine ⟨started, logger.emitAll ids 1 notes, logger.emitAll ids (1 + notes.length) closing, ?_,
    hbegins, hnotes, honce, ?_, ?_, ?_, ?_⟩
  · rw [Turn.records, hentries, ← List.singleton_append, Journal.Logger.emitAll_append,
      Journal.Logger.emitAll_append]
    exact congrArg (· ++ _) hstarted
  · rw [habsorbed]
    exact hnoted
  · intro v hv
    exact hreturned v (hresult.symm.trans hv)
  · intro f hf hnot
    exact hraised f (hresult.symm.trans hf) fun h => hnot (hdefied.mpr h)
  · intro h
    rw [hresult]
    exact hdefies (hdefied.mp h)

/-- A turn in which an operation is called is a run of the operation. -/
theorem exists_outcome [DecidableEq K] {clients : Clients S K} (custody : Custody adapter clients)
    {h : Handle} {service : Service S σ} {steps : List Step} {state : σ} {t : Turn S}
    {c : ClientCall} (ht : t ∈ Opened.turns ⟨adapter, h⟩ service steps state)
    (hc : t.step = .client c) :
    ∃ h' state', let run := (Opened.mk adapter h').outcome service c state'
      t = ⟨.client c, run.result, run.trace⟩ := by
  induction steps generalizing h state with
  | nil => cases ht
  | cons step steps ih =>
    rcases List.mem_cons.mp ht with rfl | hrest
    · obtain rfl : step = .client c := hc
      refine ⟨h, state, ?_⟩
      simp only [Step.perform, Program.run_bind, Opened.outcome, Program.pure_eq_done, Program.run,
        List.append_nil]
    · obtain ⟨result, h', state', trace, hrun, _⟩ := custody.step_cases h step service state
      rw [hrun] at hrest
      exact ih hrest

/-- Whatever an opened client is used for, its operations log truly. -/
theorem Lawful.logsTruly [DecidableEq K] (hlawful : marks.Lawful adapter) {clients : Clients S K}
    (custody : Custody adapter clients) (h : Handle) (service : Service S σ) (steps : List Step)
    (state : σ) :
    ∀ t ∈ Opened.turns ⟨adapter, h⟩ service steps state, ∀ c, t.step = .client c →
      marks.LogsTruly adapter.provider c t (t.records (Journal.Logger.debugging name) ids) := by
  intro t ht c hc
  obtain ⟨h', state', rfl⟩ := exists_outcome custody ht hc
  refine ⟨fun hnone => ?_, fun a hasks => hlawful.recounted name ids h' hasks service state'⟩
  obtain ⟨f, _, hrefused⟩ := ClientCall.refused_of_not_asks hnone
  rw [Opened.outcome_refused hrefused]
  rfl

/-! ### Creations -/

/-- A creation that notes what it has found before it goes on, and only then, has noted it just if
it has absorbed the failure of its call. -/
theorem creating_notes {c : S.Call} {absorbed : Failure → Bool}
    {found : Program S (Except Failure α)} {made : S.Reply c → Program S (Except Failure α)}
    {note : Journal.Entry}
    (hfound : ∀ f, absorbed f = true → found.Yields fun trace _ =>
      Report.entries trace = [note] ∧ ∃ d answer, .called d answer ∈ trace ∧ marks.Absorbs c f d)
    (hother : ∀ f d, absorbed f = false → ¬ marks.Absorbs c f d)
    (hquiet : ∀ reply, (made reply).Quiet)
    (hmade : ∀ reply, (made reply).Calls fun d => ∀ f e, ¬ marks.Absorbs d f e) :
    (Program.creating c absorbed found made).Yields fun trace _ => marks.Notes note trace := by
  intro answer
  cases answer with
  | ok reply =>
    have hsilent := (hquiet reply).yields.and (hmade reply).yields
    refine hsilent.mono fun trace _ ⟨hentries, hcalls⟩ => Or.inr ⟨hentries, ?_⟩
    rintro ⟨c', f, d, _, hmem, _, habsorbs⟩
    rcases List.mem_cons.mp hmem with heq | hrest
    · cases heq
    · exact hcalls c' _ hrest f d habsorbs
  | error f =>
    cases habsorbed : absorbed f with
    | true =>
      simp only [habsorbed, if_true]
      refine (hfound f habsorbed).mono fun trace _ ⟨hentries, d, answer, hmem, habsorbs⟩ => ?_
      refine Or.inl ⟨hentries, c, f, d, answer, List.mem_cons_self, ?_, habsorbs⟩
      exact List.mem_cons_of_mem _ hmem
    | false =>
      simp only [habsorbed, Bool.false_eq_true, if_false]
      refine Or.inr ⟨rfl, ?_⟩
      rintro ⟨c', f', d, _, hmem, _, habsorbs⟩
      cases List.mem_singleton.mp hmem
      exact hother f d habsorbed habsorbs

end Marks

end CloudIdentity

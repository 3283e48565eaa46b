import CloudIdentity.Failure.Reported
import CloudIdentity.Proofs.Gcp.ProjectPolicy
import CloudIdentity.Proofs.Service.Interleaving

/-!
Operations on the policy of one project that run side by side. Each reads the policy, edits its copy
and writes the copy back with the etag that it was read with. If the service takes a write only with
the etag of the stored policy and gives the stored policy a new etag each time, then no update is
lost and none is made up: at any point of any interleaving the stored bindings are what the edits of
the operations that have returned so far make of the first ones, in the order in which they
returned.
-/

namespace CloudIdentity.Gcp

open Document

/-! ## A service with conditional writes -/

/-- The service has refused a write that another one has overtaken. -/
def Aborted (f : Failure) : Prop := f.origin = .googleApi .aborted

/-- A service that keeps the policy of a project under an etag. A read gives the stored policy. A
write with the etag of the stored policy replaces the bindings and gives the policy an etag that it
never had before; a write with any other etag is aborted and changes nothing. Of writes without an
etag nothing is said. -/
structure ConditionalWrites {σ : Type} (service : Service interface σ) (project : String) where
  policy : σ → Policy
  /-- The etags that the stored policy has had so far. -/
  used : σ → Set String
  etag_ne_empty : ∀ state, (policy state).etag ≠ ""
  etag_mem_used : ∀ state, (policy state).etag ∈ used state
  read : ∀ state, ∃ state',
    service.answer (.getPolicy .projects (projectName project) (some requestedPolicyVersion)) state
      = (.ok (some (policy state)), state') ∧
    policy state' = policy state ∧ used state' = used state
  write : ∀ state sent, sent.etag = (policy state).etag → ∃ state',
    service.answer (.setPolicy .projects (projectName project) sent) state = (.ok (), state') ∧
    (policy state').bindings = sent.bindings ∧ (policy state').etag ∉ used state ∧
    used state ⊆ used state'
  refuse : ∀ state sent, sent.etag ≠ "" → sent.etag ≠ (policy state).etag → ∃ f state',
    service.answer (.setPolicy .projects (projectName project) sent) state = (.error f, state') ∧
    Aborted f ∧ policy state' = policy state ∧ used state' = used state

namespace ConditionalWrites

variable {σ : Type} {service : Service interface σ} {project : String}

/-- How far an operation has come: it has yet to read, or it holds an edited copy of a policy, or it
has ended. A copy whose etag is that of the stored policy is a copy of the stored policy. -/
inductive Phase (store : ConditionalWrites service project) (state : σ) (op : ProjectOperation) :
    Program interface (Except Failure Value) → Prop where
  | unread {next : Policy → Program interface (Except Failure Value)}
      (continues : ∀ policy, op.Continues project policy (next policy)) :
      Phase store state op (readThen project next)
  | copied {copy : Policy} {e : Edit} (edit : op.edit? project = some e) (tagged : copy.etag ≠ "")
      (old : copy.etag ∈ store.used state)
      (current : copy.etag = (store.policy state).etag → copy = store.policy state) :
      Phase store state op (writeBack project (copy.edit e).1)
  | ended (r : Except Failure Value) : Phase store state op (.done r)

variable {store : ConditionalWrites service project} {state state' : σ} {op : ProjectOperation}
  {p : Program interface (Except Failure Value)}

theorem Phase.of_same (hpolicy : store.policy state' = store.policy state)
    (hused : store.used state' = store.used state) (hphase : store.Phase state op p) :
    store.Phase state' op p := by
  cases hphase with
  | unread continues => exact .unread continues
  | copied edit tagged old current =>
    exact .copied edit tagged (hused ▸ old) (hpolicy ▸ current)
  | ended r => exact .ended r

/-- Every copy is out of date once a write has given the policy a new etag. -/
theorem Phase.of_write (hfresh : (store.policy state').etag ∉ store.used state)
    (hused : store.used state ⊆ store.used state') (hphase : store.Phase state op p) :
    store.Phase state' op p := by
  cases hphase with
  | unread continues => exact .unread continues
  | copied edit tagged old current =>
    refine .copied edit tagged (hused old) ?_
    intro hsame
    exact absurd (hsame ▸ old) hfresh
  | ended r => exact .ended r

/-- What one move of an operation can do to the stored bindings: nothing, unless it returns with
that move, and then they become what its edit makes of them. -/
theorem phase_move (hphase : store.Phase state op p) (hrunning : p.result? = none) :
    let moved := p.move service state
    (∀ op' p', store.Phase state op' p' → store.Phase moved.2 op' p') ∧
    store.Phase moved.2 op moved.1 ∧
    (((store.policy moved.2).bindings = (store.policy state).bindings ∧
        ∀ v, moved.1 ≠ .done (.ok v)) ∨
      ∃ e v, op.edit? project = some e ∧ moved.1 = .done (.ok v) ∧
        (store.policy moved.2).bindings = ((store.policy state).edit e).1.bindings) := by
  cases hphase with
  | ended r => simp at hrunning
  | @unread next continues =>
    obtain ⟨state', hanswer, hpolicy, hused⟩ := store.read state
    have hmove : (readThen project next).move service state = (next (store.policy state), state') := by
      rw [readThen, Program.move_call, hanswer]
      rfl
    simp only [hmove]
    have hstay {op' p'} (hp' : store.Phase state op' p') : store.Phase state' op' p' :=
      hp'.of_same hpolicy hused
    refine ⟨fun _ _ => hstay, ?_⟩
    have hnext := continues (store.policy state)
    generalize next (store.policy state) = q at hnext
    cases hnext with
    | refused f => exact ⟨.ended _, Or.inl ⟨by rw [hpolicy], by simp⟩⟩
    | writes edit =>
      have hcopied := Phase.copied edit (store.etag_ne_empty state) (store.etag_mem_used state)
        fun _ => rfl
      exact ⟨hstay hcopied, Or.inl ⟨by rw [hpolicy], by simp [writeBack]⟩⟩
    | unchanged edit same =>
      exact ⟨.ended _, Or.inr ⟨_, _, edit, rfl, by rw [hpolicy, Policy.edit_eq_of_unchanged same]⟩⟩
  | @copied copy e edit tagged old current =>
    have hetag : (copy.edit e).1.etag = copy.etag := copy.edit_etag e
    by_cases hcurrent : copy.etag = (store.policy state).etag
    · obtain ⟨state', hanswer, hbindings, hfresh, hused⟩ :=
        store.write state (copy.edit e).1 (hetag.trans hcurrent)
      have hmove : (writeBack project (copy.edit e).1).move service state =
          (.done (.ok .null), state') := by
        rw [writeBack, Program.move_call, hanswer]
      simp only [hmove]
      refine ⟨fun _ _ hp' => hp'.of_write hfresh hused, .ended _, Or.inr ⟨e, _, edit, rfl, ?_⟩⟩
      rw [hbindings, current hcurrent]
    · obtain ⟨f, state', hanswer, _, hpolicy, hused⟩ :=
        store.refuse state (copy.edit e).1 (by rwa [hetag]) (by rwa [hetag])
      have hmove : (writeBack project (copy.edit e).1).move service state =
          (.done (.error f), state') := by
        rw [writeBack, Program.move_call, hanswer]
      simp only [hmove]
      refine ⟨fun _ _ hp' => hp'.of_same hpolicy hused, .ended _, Or.inl ⟨by rw [hpolicy], ?_⟩⟩
      simp

end ConditionalWrites

/-! ## Interleavings -/

/-- The position of an operation that returned. -/
def returnedAt? : Nat × Except Failure Value → Option Nat
  | (i, .ok _) => some i
  | (_, .error _) => none

/-- The positions of the operations that returned, of those that have ended. -/
def returned (ended : List (Nat × Except Failure Value)) : List Nat := ended.filterMap returnedAt?

@[simp] theorem returned_snoc_ok (ended : List (Nat × Except Failure Value)) (i : Nat) (v : Value) :
    returned (ended ++ [(i, .ok v)]) = returned ended ++ [i] := by
  simp [returned, returnedAt?]

@[simp] theorem returned_snoc_error (ended : List (Nat × Except Failure Value)) (i : Nat)
    (f : Failure) : returned (ended ++ [(i, .error f)]) = returned ended := by
  have hnone : returnedAt? (i, .error f) = none := rfl
  rw [returned, List.filterMap_append, List.filterMap_cons, hnone]
  exact List.append_nil _

theorem mem_returned_iff {ended : List (Nat × Except Failure Value)} {i : Nat} :
    i ∈ returned ended ↔ ∃ v, (i, .ok v) ∈ ended := by
  rw [returned, List.mem_filterMap]
  constructor
  · rintro ⟨⟨j, _ | v⟩, hmem, hat⟩
    · cases hat
    · obtain rfl := Option.some.inj hat
      exact ⟨v, hmem⟩
  · rintro ⟨v, hmem⟩
    exact ⟨(i, .ok v), hmem, rfl⟩

theorem nodup_returned {ended : List (Nat × Except Failure Value)}
    (h : (ended.map Prod.fst).Nodup) : (returned ended).Nodup := by
  apply List.Nodup.sublist _ h
  clear h
  induction ended with
  | nil => exact .slnil
  | cons entry rest ih =>
    obtain ⟨i, _ | v⟩ := entry
    · exact ih.cons _
    · exact ih.cons_cons _

namespace ConditionalWrites

variable {σ : Type} {service : Service interface σ} {project : String}

/-- The edits of the operations that have returned, one for each, have been made to the policy that
was there first, and every operation is in one of its phases. -/
structure Serialised (store : ConditionalWrites service project) (ops : List ProjectOperation)
    (first : Policy) (pool : Pool interface σ (Except Failure Value)) : Prop where
  length_eq : pool.programs.length = ops.length
  phase : ∀ (i : Nat) op p, ops[i]? = some op → pool.programs[i]? = some p → store.Phase pool.state op p
  edits : ∃ edits,
    List.Forall₂ (fun (i : Nat) e => ∃ op, ops[i]? = some op ∧ op.edit? project = some e)
      (returned pool.finished) edits ∧
    (store.policy pool.state).bindings = (first.edited edits).bindings

variable {store : ConditionalWrites service project} {ops : List ProjectOperation}
  {first : Policy}

theorem serialised_step {pool : Pool interface σ (Except Failure Value)}
    (h : store.Serialised ops first pool) (i : Nat) :
    store.Serialised ops first (pool.step service i) := by
  rcases pool.step_cases service i with heq | ⟨p, hp, hrunning, heq⟩
  · rw [heq]
    exact h
  rw [heq]
  have hi : i < pool.programs.length := (List.getElem?_eq_some_iff.mp hp).1
  obtain ⟨op, hop⟩ : ∃ op, ops[i]? = some op := by
    rw [h.length_eq] at hi
    exact ⟨ops[i], List.getElem?_eq_getElem hi⟩
  obtain ⟨hothers, hmoved, heffect⟩ := phase_move (h.phase i op p hop hp) hrunning
  generalize p.move service pool.state = moved at hothers hmoved heffect
  obtain ⟨edits, hedits, hbindings⟩ := h.edits
  refine ⟨by simpa using h.length_eq, ?_, ?_⟩
  · intro j op' p' hop' hp'
    by_cases hij : i = j
    · subst hij
      rw [List.getElem?_set_self hi] at hp'
      obtain rfl := Option.some.inj hp'
      obtain rfl := Option.some.inj (hop.symm.trans hop')
      exact hmoved
    · rw [List.getElem?_set_ne hij] at hp'
      exact hothers op' p' (h.phase j op' p' hop' hp')
  · rcases heffect with ⟨hsame, hnot⟩ | ⟨e, v, hedit, hdone, hnew⟩
    · refine ⟨edits, ?_, hsame.trans hbindings⟩
      cases hresult : moved.1.result? with
      | none => simpa using hedits
      | some r =>
        obtain f | v := r
        · simpa using hedits
        · exact absurd (Program.result?_eq_some_iff.mp hresult) (hnot v)
    · refine ⟨edits ++ [e], ?_, ?_⟩
      · simp only [hdone, Program.result?_done, Option.map_some, Option.toList_some,
          returned_snoc_ok]
        exact List.rel_append hedits (.cons ⟨op, hop, hedit⟩ .nil)
      · rw [hnew, Policy.edited_snoc]
        exact Policy.edit_bindings_congr hbindings e

theorem serialised_start (store : ConditionalWrites service project) (h : Handle)
    (hproject : ∀ op ∈ ops, ∀ other, op.project? = some other → other = project) (state : σ) :
    store.Serialised ops (store.policy state)
      (Pool.start (ops.map fun op => op.program h) state) where
  length_eq := List.length_map ..
  phase i op p hop hp := by
    have hp' : op.program h = p := by
      rw [Pool.start, List.getElem?_map, hop] at hp
      exact Option.some.inj hp
    rw [← hp']
    rcases op.program_cases h with ⟨f, heq⟩ | ⟨other, next, hother, heq, hcontinues⟩
    · rw [heq]
      exact .ended _
    · obtain rfl := hproject op (List.mem_of_getElem? hop) other hother
      rw [heq]
      exact .unread hcontinues
  edits := ⟨[], .nil, rfl⟩

/-- No update of a project's policy is lost, and none is made up, however the reads and writes of
any number of operations on the project are interleaved. The operations that have returned have each
an edit, and the stored bindings are what these edits, made one after another in the order in which
the operations returned, make of the bindings that were stored first; an operation that failed has
no part in them. An operation returns with its last call: its write, or its read where it is a
removal that has nothing to write. -/
theorem bindings_serialisable (store : ConditionalWrites service project) (h : Handle)
    (ops : List ProjectOperation)
    (hproject : ∀ op ∈ ops, ∀ other, op.project? = some other → other = project)
    (schedule : List Nat) (state : σ) :
    let pool := (Pool.start (ops.map fun op => op.program h) state).run service schedule
    (returned pool.finished).Nodup ∧
    (∀ i, i ∈ returned pool.finished ↔ ∃ v, pool.programs[i]? = some (.done (.ok v))) ∧
    ∃ edits,
      List.Forall₂ (fun (i : Nat) e => ∃ op, ops[i]? = some op ∧ op.edit? project = some e)
        (returned pool.finished) edits ∧
      (store.policy pool.state).bindings = ((store.policy state).edited edits).bindings := by
  intro pool
  have hrecorded : Pool.Recorded (ops.map fun op => op.program h) pool :=
    Pool.recorded_run _ state schedule
  have hserialised : store.Serialised ops (store.policy state) pool :=
    Pool.run_induction (P := store.Serialised ops (store.policy state))
      (fun _ i hpool => serialised_step hpool i) schedule (serialised_start store h hproject state)
  refine ⟨nodup_returned hrecorded.nodup, ?_, hserialised.edits⟩
  intro i
  rw [mem_returned_iff]
  constructor
  · rintro ⟨v, hmem⟩
    exact ⟨v, hrecorded.done_of_mem i _ hmem⟩
  · rintro ⟨v, hdone⟩
    refine ⟨v, (hrecorded.mem_of_done i _ hdone).resolve_right ?_⟩
    -- No operation returns without a call.
    intro hstart
    obtain ⟨op, _, hprogram⟩ := Option.map_eq_some_iff.mp (List.getElem?_map ▸ hstart)
    rcases op.program_cases h with ⟨f, heq⟩ | ⟨_, _, _, heq, _⟩
    · rw [heq] at hprogram
      cases hprogram
    · rw [heq] at hprogram
      cases hprogram

end ConditionalWrites

/-! ## A service that counts its writes -/

/-- The bindings of a project, and how often they have been written. -/
structure Counted where
  bindings : List Binding
  writes : Nat

namespace Counted

/-- The etag after so many writes. -/
def etag (writes : Nat) : String := String.ofList (List.replicate (writes + 1) 'v')

theorem etag_inj {m n : Nat} (h : etag m = etag n) : m = n := by
  have hlength := congrArg (fun s => s.toList.length) h
  simpa [etag] using hlength

def policy (state : Counted) : Policy := { etag := etag state.writes, bindings := state.bindings }

def service : Service interface Counted where
  answer
    | .getPolicy .., state => (.ok (some state.policy), state)
    | .setPolicy _ _ sent, state =>
      if sent.etag = etag state.writes then (.ok (), ⟨sent.bindings, state.writes + 1⟩)
      else (.error (Failure.googleApi .aborted "The policy was changed meanwhile." none), state)
    | _, state => (.error (Failure.googleApi .methodNotImplemented "Only policies." none), state)

/-- The service keeps the policy of any project under an etag. -/
def conditionalWrites (project : String) : ConditionalWrites service project where
  policy := policy
  used state := {tag | ∃ n ≤ state.writes, tag = etag n}
  etag_ne_empty state := by
    intro hempty
    have hlength := congrArg (fun s => s.toList.length) hempty
    simp [policy, etag] at hlength
  etag_mem_used state := ⟨state.writes, Nat.le_refl _, rfl⟩
  read state := ⟨state, rfl, rfl, rfl⟩
  write state sent hsame := by
    refine ⟨⟨sent.bindings, state.writes + 1⟩, if_pos hsame, rfl, ?_, ?_⟩
    · rintro ⟨n, hn, htag⟩
      have hwrites : state.writes + 1 = n := etag_inj htag
      omega
    · rintro tag ⟨n, hn, rfl⟩
      exact ⟨n, Nat.le_succ_of_le hn, rfl⟩
  refuse state sent _ hother := ⟨_, state, if_neg hother, rfl, rfl, rfl⟩

end Counted

/-- Two attachments and a removal on one project, which two of them name in full. The second
attachment reads before the first one has written, and is aborted; the removal comes last. -/
theorem bindings_serialisable_aborted :
    let viewer : PolicyDocument := { statements := [{ effect := .allow, actions := ["viewer"] }] }
    let editor : PolicyDocument := { statements := [{ effect := .allow, actions := ["editor"] }] }
    let ops : List ProjectOperation :=
      [.attach { identityName := some "ci", tenantId := some "p", policyDocument := some viewer },
        .attach { resource := some "ci@p", tenantId := some "projects/p",
                  policyDocument := some editor },
        .remove { identityName := "ci", policyName := "viewer", tenantId := "projects/p" }]
    let store := Counted.conditionalWrites "p"
    let pool := (Pool.start (ops.map fun op => op.program ⟨true, true, none⟩) ⟨[], 0⟩).run
      Counted.service [0, 1, 0, 1, 2, 2]
    (∀ op ∈ ops, ∀ other, op.project? = some other → other = "p") ∧
    returned pool.finished = [0, 2] ∧
    (returned pool.finished).Nodup ∧
    (∀ i, i ∈ returned pool.finished ↔ ∃ v, pool.programs[i]? = some (.done (.ok v))) ∧
    ∃ edits,
      List.Forall₂ (fun (i : Nat) e => ∃ op, ops[i]? = some op ∧ op.edit? "p" = some e)
        (returned pool.finished) edits ∧
      (store.policy pool.state).bindings = ((store.policy ⟨[], 0⟩).edited edits).bindings := by
  intro viewer editor ops store pool
  have hproject : ∀ op ∈ ops, ∀ other, op.project? = some other → other = "p" := by
    have hnames : ops.map ProjectOperation.project? = [some "p", some "p", some "p"] := by decide
    intro op hop other hother
    have hmem := List.mem_map_of_mem (f := ProjectOperation.project?) hop
    rw [hnames, hother] at hmem
    simpa using hmem
  refine ⟨hproject, ?_, ?_⟩
  · decide +kernel
  · exact store.bindings_serialisable ⟨true, true, none⟩ ops hproject [0, 1, 0, 1, 2, 2] ⟨[], 0⟩

end CloudIdentity.Gcp

import CloudIdentity.InMemory.Session
import CloudIdentity.Proofs.Service.Calls

/-!
The order in which a program makes its calls. A program obeys the rules of its service if it makes
each call from a budget that it never overdraws, and ends with the first answer that the rules say
it has to end with. A program follows a relation if each of its calls is one that the events before
it allow. Both are said of the tree of calls, whatever the answers are, and both compose; what they
come to in a run is read off the trace.
-/

namespace CloudIdentity

open InMemory

variable {S : Interface} {σ α β : Type}

/-- What a program has to mind: under which method each call is made, and with which failure an
answer ends whatever has made the call. -/
structure Rules (S : Interface) where
  method : S.Call → String
  Ends : (c : S.Call) → Except Failure (S.Reply c) → Failure → Prop

/-- A run has kept the rules if it makes no call twice, and comes to nothing but the failure once an
answer ends it. -/
structure Rules.Kept (rules : Rules S) (run : Run S σ (Except Failure α)) : Prop where
  once : ((Report.calls run.trace).map rules.method).Nodup
  last : ∀ before c answer after f, run.trace = before ++ .called c answer :: after →
    rules.Ends c answer f → after = [] ∧ run.result = .error f

namespace Program

/-- The calls of a run are calls that the program can make. -/
theorem Calls.of_mem_run {P : S.Call → Prop} {p : Program S α} (h : p.Calls P)
    {service : Service S σ} {state : σ} {c : S.Call}
    (hc : c ∈ Report.calls (p.run service state).trace) : P c := by
  induction p generalizing state with
  | done a => cases hc
  | call d next ih =>
    rcases List.mem_cons.mp hc with rfl | hrest
    · exact h.1
    · exact ih _ (h.2 _) hrest
  | log entry next ih => exact ih h hc

/-! ## Budgets -/

/-- Every call is made from what is left of a budget of methods, and an answer that ends the program
ends it at once. -/
def Obeys (rules : Rules S) : List String → Program S (Except Failure α) → Prop
  | _, done _ => True
  | budget, call c next =>
    rules.method c ∈ budget ∧ ∀ answer,
      (next answer).Obeys rules (budget.erase (rules.method c)) ∧
      ∀ f, rules.Ends c answer f → next answer = done (.error f)
  | budget, log _ next => next.Obeys rules budget

variable {rules : Rules S} {budget : List String}

/-- A larger budget does no harm. -/
theorem Obeys.mono {p : Program S (Except Failure α)} {larger : List String}
    (h : p.Obeys rules budget) (hsub : budget.Sublist larger) : p.Obeys rules larger := by
  induction p generalizing budget larger with
  | done a => trivial
  | call c next ih =>
    refine ⟨hsub.subset h.1, fun answer => ⟨?_, (h.2 answer).2⟩⟩
    exact ih answer (h.2 answer).1 (hsub.erase _)
  | log entry next ih => exact ih h hsub

theorem Obeys.calls {p : Program S (Except Failure α)} (h : p.Obeys rules budget) :
    p.Calls fun c => rules.method c ∈ budget := by
  induction p generalizing budget with
  | done a => trivial
  | call c next ih =>
    refine ⟨h.1, fun answer => (ih answer (h.2 answer).1).mono fun d hd => ?_⟩
    exact List.mem_of_mem_erase hd
  | log entry next ih => exact ih h

/-- A run makes no call more often than the budget has it. -/
theorem Obeys.nodup_run {p : Program S (Except Failure α)} (h : p.Obeys rules budget)
    (hbudget : budget.Nodup) (service : Service S σ) (state : σ) :
    ((Report.calls (p.run service state).trace).map rules.method).Nodup := by
  induction p generalizing budget state with
  | done a => exact List.nodup_nil
  | call c next ih =>
    have hnext := (h.2 (service.answer c state).1).1
    refine List.nodup_cons.mpr ⟨fun hmem => ?_, ih _ hnext (hbudget.erase _) _⟩
    obtain ⟨d, hd, hmethod⟩ := List.mem_map.mp hmem
    have hleft := hnext.calls.of_mem_run hd
    rw [hmethod] at hleft
    exact hbudget.not_mem_erase hleft
  | log entry next ih => exact ih h hbudget state

/-- Nothing comes after an answer that ends the program. -/
theorem Obeys.ends_run {p : Program S (Except Failure α)} (h : p.Obeys rules budget)
    {service : Service S σ} {state : σ} {before after : List (Event S)} {c : S.Call}
    {answer : Except Failure (S.Reply c)} {f : Failure}
    (htrace : (p.run service state).trace = before ++ .called c answer :: after)
    (hends : rules.Ends c answer f) :
    after = [] ∧ (p.run service state).result = .error f := by
  induction p generalizing budget state before with
  | done a => simp [run] at htrace
  | call d next ih =>
    obtain ⟨hnext, hend⟩ := h.2 (service.answer d state).1
    cases before with
    | nil =>
      obtain ⟨heq, rfl⟩ := List.cons.inj htrace
      cases heq
      have hdone := hend f hends
      simp only [run, hdone, and_self]
    | cons e before => exact ih _ hnext (List.cons.inj htrace).2
  | log entry next ih =>
    cases before with
    | nil => cases (List.cons.inj htrace).1
    | cons e before => exact ih h (List.cons.inj htrace).2

/-- A program that obeys the rules within a budget that names no method twice keeps them in every
run. -/
theorem Obeys.kept {p : Program S (Except Failure α)} (h : p.Obeys rules budget)
    (hbudget : budget.Nodup) (service : Service S σ) (state : σ) :
    rules.Kept (p.run service state) where
  once := h.nodup_run hbudget service state
  last _ _ _ _ _ htrace hends := h.ends_run htrace hends

/-! ## Calls that follow on others -/

/-- Every call is one that the relation allows after all that has happened before it. -/
def Follows (R : List (Event S) → S.Call → Prop) : List (Event S) → Program S α → Prop
  | _, done _ => True
  | past, call c next => R past c ∧ ∀ answer, (next answer).Follows R (past ++ [.called c answer])
  | past, log entry next => next.Follows R (past ++ [.logged entry])

variable {R : List (Event S) → S.Call → Prop} {past : List (Event S)}

theorem Follows.of_run {p : Program S α} (h : p.Follows R past) {service : Service S σ} {state : σ}
    {before after : List (Event S)} {c : S.Call} {answer : Except Failure (S.Reply c)}
    (htrace : (p.run service state).trace = before ++ .called c answer :: after) :
    R (past ++ before) c := by
  induction p generalizing past state before with
  | done a => simp [run] at htrace
  | call d next ih =>
    cases before with
    | nil =>
      cases (List.cons.inj htrace).1
      rw [List.append_nil]
      exact h.1
    | cons e before =>
      obtain ⟨rfl, hrest⟩ := List.cons.inj htrace
      rw [← List.singleton_append, ← List.append_assoc]
      exact ih _ (h.2 _) hrest
  | log entry next ih =>
    cases before with
    | nil => cases (List.cons.inj htrace).1
    | cons e before =>
      obtain ⟨rfl, hrest⟩ := List.cons.inj htrace
      rw [← List.singleton_append, ← List.append_assoc]
      exact ih h hrest

/-- What is allowed at any time is allowed here. -/
theorem Calls.follows {P : S.Call → Prop} {p : Program S α} (h : p.Calls P)
    (hallowed : ∀ c, P c → ∀ past, R past c) : p.Follows R past := by
  induction p generalizing past with
  | done a => trivial
  | call c next ih => exact ⟨hallowed c h.1 past, fun answer => ih answer (h.2 answer)⟩
  | log entry next ih => exact ih h

end Program

namespace Action

variable {rules : Rules S} {budget budget' : List String}

theorem obeys_pure (a : α) : (pure a : Action S α).run.Obeys rules [] := trivial

theorem obeys_log (entry : Journal.Entry) : (log entry : Action S Unit).run.Obeys rules [] :=
  trivial

theorem obeys_ofExcept (result : Except Failure α) :
    (ofExcept result : Action S α).run.Obeys rules [] := by
  rw [run_ofExcept]
  trivial

/-- One action after another needs the budgets of both. -/
theorem obeys_bind {x : Action S α} {f : α → Action S β} (h : x.run.Obeys rules budget)
    (hf : ∀ a, (f a).run.Obeys rules budget') : (x >>= f).run.Obeys rules (budget ++ budget') := by
  rw [ExceptT.run_bind]
  generalize x.run = p at h
  induction p generalizing budget with
  | done result =>
    cases result with
    | ok a => exact (hf a).mono (List.sublist_append_right budget budget')
    | error e => trivial
  | call c next ih =>
    obtain ⟨hmem, hanswer⟩ := h
    refine ⟨List.mem_append_left budget' hmem, fun answer => ⟨?_, fun e hends => ?_⟩⟩
    · rw [List.erase_append_left budget' hmem]
      exact ih answer (hanswer answer).1
    · simp only [(hanswer answer).2 e hends]
      rfl
  | log entry next ih => exact ih h

/-- An action after a step that makes no call needs its own budget. -/
theorem obeys_ofExcept_bind {result : Except Failure α} {f : α → Action S β}
    (hf : ∀ a, (f a).run.Obeys rules budget) : (ofExcept result >>= f).run.Obeys rules budget :=
  obeys_bind (obeys_ofExcept result) hf

theorem obeys_request (rules : Rules S) {c : S.Call}
    (hends : ∀ answer f, rules.Ends c answer f → answer = .error f) :
    (request c).run.Obeys rules [rules.method c] := by
  refine ⟨List.mem_singleton_self _, fun answer => ⟨trivial, fun f h => ?_⟩⟩
  rw [hends answer f h]

theorem obeys_bind_pure {x : Action S α} (h : x.run.Obeys rules budget) (g : α → β) :
    (x >>= fun a => pure (g a)).run.Obeys rules budget :=
  List.append_nil budget ▸ obeys_bind h fun a => obeys_pure (g a)

/-- A step that is taken where it is needed. -/
theorem obeys_bind_if (needed : Prop) [Decidable needed] {x : Action S α} {next : Action S β}
    (h : x.run.Obeys rules budget) (hnext : next.run.Obeys rules budget') :
    (if needed then x >>= fun _ => next else next).run.Obeys rules (budget ++ budget') := by
  split
  · exact obeys_bind h fun _ => hnext
  · exact hnext.mono (List.sublist_append_right budget budget')

/-- A call whose failure is looked at: what ends the program has to be passed on. -/
theorem obeys_attempt_bind (rules : Rules S) {c : S.Call}
    {next : Except Failure (S.Reply c) → Action S α}
    (hnext : ∀ answer, (next answer).run.Obeys rules budget)
    (hends : ∀ answer f, rules.Ends c answer f → next answer = fail f) :
    ((request c).attempt >>= next).run.Obeys rules (rules.method c :: budget) := by
  refine ⟨List.mem_cons_self, fun answer => ⟨?_, fun f h => ?_⟩⟩
  · rw [List.erase_cons_head]
    exact hnext answer
  · exact congrArg ExceptT.run (hends answer f h)

variable {R : List (Event S) → S.Call → Prop} {past : List (Event S)}

/-- One action after another: the second has to follow the relation whatever the first has added to
the events. -/
theorem follows_bind {x : Action S α} {f : α → Action S β} (h : x.run.Follows R past)
    (hf : ∀ a past', past ⊆ past' → (f a).run.Follows R past') : (x >>= f).run.Follows R past := by
  rw [ExceptT.run_bind]
  generalize x.run = p at h
  induction p generalizing past with
  | done result =>
    cases result with
    | ok a => exact hf a past (List.Subset.refl past)
    | error e => trivial
  | call c next ih =>
    refine ⟨h.1, fun answer => ih answer (fun a past' hsub => hf a past' ?_) (h.2 answer)⟩
    exact List.Subset.trans (List.subset_append_left past _) hsub
  | log entry next ih =>
    refine ih (fun a past' hsub => hf a past' ?_) h
    exact List.Subset.trans (List.subset_append_left past _) hsub

/-- What comes after a call comes after its reply. -/
theorem follows_request_bind {c : S.Call} {f : S.Reply c → Action S α} (h : R past c)
    (hf : ∀ reply, (f reply).run.Follows R (past ++ [.called c (.ok reply)])) :
    (request c >>= f).run.Follows R past := by
  refine ⟨h, fun answer => ?_⟩
  cases answer with
  | ok reply => exact hf reply
  | error e => trivial

end Action

end CloudIdentity

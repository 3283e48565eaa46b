import CloudIdentity.Journal.Entry

/-!
Programs over a remote service. A program is a tree of calls: at each call it branches on the
answer, a reply or a failure, so what it does can be said for every behaviour of the service. A
service gives the answers; running a program against one yields the result, the state the service is
left in, and the trace of all calls and log entries in order.
-/

namespace CloudIdentity

/-- What can be asked of a service, and what it replies with. -/
structure Interface where
  Call : Type
  Reply : Call → Type

inductive Program (S : Interface) (α : Type) where
  | done (a : α)
  | call (c : S.Call) (next : Except Failure (S.Reply c) → Program S α)
  | log (entry : Journal.Entry) (next : Program S α)

namespace Program

variable {S : Interface} {α β : Type}

def bind : Program S α → (α → Program S β) → Program S β
  | done a, f => f a
  | call c next, f => call c fun answer => bind (next answer) f
  | log entry next, f => log entry (bind next f)

instance : Monad (Program S) where
  pure := done
  bind := bind

@[simp] theorem pure_eq_done (a : α) : (pure a : Program S α) = done a := rfl

@[simp] theorem done_bind (a : α) (f : α → Program S β) : done a >>= f = f a := rfl

@[simp] theorem call_bind (c : S.Call) (next : Except Failure (S.Reply c) → Program S α)
    (f : α → Program S β) : call c next >>= f = call c fun answer => next answer >>= f := rfl

@[simp] theorem log_bind (entry : Journal.Entry) (next : Program S α) (f : α → Program S β) :
    log entry next >>= f = log entry (next >>= f) := rfl

theorem bind_done (p : Program S α) : p >>= done = p := by
  induction p with
  | done a => rfl
  | call c next ih => simp only [call_bind, ih]
  | log entry next ih => simp only [log_bind, ih]

theorem bind_assoc {γ : Type} (p : Program S α) (f : α → Program S β) (g : β → Program S γ) :
    p >>= f >>= g = p >>= fun a => f a >>= g := by
  induction p with
  | done a => rfl
  | call c next ih => simp only [call_bind, ih]
  | log entry next ih => simp only [log_bind, ih]

instance : LawfulMonad (Program S) :=
  LawfulMonad.mk' (Program S)
    (fun p => bind_done p)
    (fun a f => done_bind a f)
    (fun p f g => bind_assoc p f g)

end Program

/-- A program that ends in a result or a failure. -/
abbrev Action (S : Interface) := ExceptT Failure (Program S)

namespace Action

variable {S : Interface} {α : Type}

/-- Makes a call; its failure is the action's. -/
def request (c : S.Call) : Action S (S.Reply c) := ExceptT.mk (.call c .done)

def log (entry : Journal.Entry) : Action S Unit := ExceptT.mk (.log entry (.done (.ok ())))

def fail (f : Failure) : Action S α := throw f

def ofExcept : Except Failure α → Action S α
  | .ok a => pure a
  | .error f => fail f

/-- The action with its failure made into a result. -/
def attempt (x : Action S α) : Action S (Except Failure α) := ExceptT.mk (Except.ok <$> x.run)

@[simp] theorem run_request (c : S.Call) : (request c).run = .call c .done := rfl

@[simp] theorem run_log (entry : Journal.Entry) :
    (log entry : Action S Unit).run = .log entry (.done (.ok ())) := rfl

@[simp] theorem run_fail (f : Failure) : (fail f : Action S α).run = .done (.error f) := rfl

@[simp] theorem run_ofExcept (result : Except Failure α) :
    (ofExcept result : Action S α).run = .done result := by
  cases result <;> rfl

@[simp] theorem run_attempt (x : Action S α) : x.attempt.run = Except.ok <$> x.run := rfl

end Action

/-! ## Running -/

/-- A service: how it answers a call in each of its states. -/
structure Service (S : Interface) (σ : Type) where
  answer : (c : S.Call) → σ → Except Failure (S.Reply c) × σ

inductive Event (S : Interface) where
  | called (c : S.Call) (answer : Except Failure (S.Reply c))
  | logged (entry : Journal.Entry)

/-- What a run leads to. -/
structure Run (S : Interface) (σ α : Type) where
  result : α
  state : σ
  trace : List (Event S)

namespace Program

variable {S : Interface} {σ α β : Type}

def run (service : Service S σ) : Program S α → σ → Run S σ α
  | done a, state => ⟨a, state, []⟩
  | call c next, state =>
    let (answer, state) := service.answer c state
    let rest := run service (next answer) state
    { rest with trace := .called c answer :: rest.trace }
  | log entry next, state =>
    let rest := run service next state
    { rest with trace := .logged entry :: rest.trace }

/-- A run of two programs in turn is the run of the first, then the run of the second. -/
theorem run_bind (service : Service S σ) (p : Program S α) (f : α → Program S β) (state : σ) :
    (p >>= f).run service state =
      let first := p.run service state
      let second := (f first.result).run service first.state
      { second with trace := first.trace ++ second.trace } := by
  induction p generalizing state with
  | done a => rfl
  | call c next ih => simp only [call_bind, run, ih, List.cons_append]
  | log entry next ih => simp only [log_bind, run, ih, List.cons_append]

end Program

end CloudIdentity

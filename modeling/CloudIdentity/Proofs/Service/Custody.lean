import CloudIdentity.Proofs.Service.Calls
import Mathlib.Logic.Function.Basic

/-!
Clients that programs construct and close. A client is constructed once a service has answered the
call for it, and it is closed by any call to close it, whatever that is answered. The books balance:
what was held and what was constructed has been closed or is held still.
-/

namespace CloudIdentity

variable {S : Interface} {K σ α β : Type}

namespace Program

/-! ## What a program comes to -/

/-- Whatever the calls are answered, the events and the result are such. -/
def Yields (Q : List (Event S) → α → Prop) : Program S α → Prop
  | done a => Q [] a
  | call c next => ∀ answer, (next answer).Yields fun trace a => Q (.called c answer :: trace) a
  | log entry next => next.Yields fun trace a => Q (.logged entry :: trace) a

variable {Q : List (Event S) → α → Prop}

theorem Yields.run {p : Program S α} (h : p.Yields Q) (service : Service S σ) (state : σ) :
    Q (p.run service state).trace (p.run service state).result := by
  induction p generalizing Q state with
  | done a => exact h
  | call c next ih => exact ih _ (h _) _
  | log entry next ih => exact ih h _

theorem Yields.mono {R : List (Event S) → α → Prop} {p : Program S α} (h : p.Yields Q)
    (hQR : ∀ trace a, Q trace a → R trace a) : p.Yields R := by
  induction p generalizing Q R with
  | done a => exact hQR _ _ h
  | call c next ih => exact fun answer => ih answer (h answer) fun _ _ => hQR _ _
  | log entry next ih => exact ih h fun _ _ => hQR _ _

theorem Yields.bind {p : Program S α} {f : α → Program S β} {R : List (Event S) → β → Prop}
    (h : p.Yields Q) (hf : ∀ trace a, Q trace a → (f a).Yields fun rest b => R (trace ++ rest) b) :
    (p >>= f).Yields R := by
  induction p generalizing Q R with
  | done a => exact hf [] a h
  | call c next ih => exact fun answer => ih answer (h answer) fun trace a => hf _ a
  | log entry next ih => exact ih h fun trace a => hf _ a

theorem Yields.map {p : Program S α} {g : α → β} {R : List (Event S) → β → Prop}
    (h : p.Yields fun trace a => R trace (g a)) : (p >>= fun a => pure (g a)).Yields R :=
  h.bind fun trace a ha => by simpa only [pure_eq_done, Yields, List.append_nil] using ha

theorem Calls.yields {P : S.Call → Prop} {p : Program S α} (h : p.Calls P) :
    p.Yields fun trace _ => ∀ c answer, .called c answer ∈ trace → P c := by
  induction p with
  | done a => exact fun _ _ hmem => absurd hmem List.not_mem_nil
  | call c next ih =>
    refine fun answer => (ih answer (h.2 answer)).mono fun trace _ hrest d reply hd => ?_
    rcases List.mem_cons.mp hd with heq | hmem
    · cases heq
      exact h.1
    · exact hrest d reply hmem
  | log entry next ih =>
    refine (ih h).mono fun trace _ hrest d reply hd => ?_
    rcases List.mem_cons.mp hd with heq | hmem
    · cases heq
    · exact hrest d reply hmem

end Program

namespace Action

variable {Q : List (Event S) → Except Failure β → Prop}

/-- An action that goes on after another comes to what the first fails with, or to what the second
comes to. -/
theorem yields_bind {x : Action S α} {f : α → Action S β}
    {R : List (Event S) → Except Failure α → Prop} (h : x.run.Yields R)
    (herror : ∀ trace e, R trace (.error e) → Q trace (.error e))
    (hok : ∀ trace a, R trace (.ok a) → (f a).run.Yields fun rest b => Q (trace ++ rest) b) :
    (x >>= f).run.Yields Q := by
  rw [ExceptT.run_bind]
  refine h.bind fun trace result hresult => ?_
  cases result with
  | ok a => exact hok trace a hresult
  | error e =>
    simp only [Program.pure_eq_done, Program.Yields, List.append_nil]
    exact herror trace e hresult

theorem yields_request_bind {c : S.Call} {f : S.Reply c → Action S β}
    (herror : ∀ e, Q [.called c (.error e)] (.error e))
    (hok : ∀ reply, (f reply).run.Yields fun rest b => Q (.called c (.ok reply) :: rest) b) :
    (request c >>= f).run.Yields Q := by
  intro answer
  cases answer with
  | ok reply => exact hok reply
  | error e => exact herror e

theorem yields_attempt_bind {c : S.Call} {f : Except Failure (S.Reply c) → Action S β}
    (h : ∀ answer, (f answer).run.Yields fun rest b => Q (.called c answer :: rest) b) :
    ((request c).attempt >>= f).run.Yields Q :=
  h

theorem yields_ofExcept_bind {result : Except Failure α} {f : α → Action S β}
    (herror : ∀ e, Q [] (.error e)) (hok : ∀ a, (f a).run.Yields Q) :
    (ofExcept result >>= f).run.Yields Q := by
  cases result with
  | ok a => exact hok a
  | error e => exact herror e

theorem yields_ofExcept {result : Except Failure β} (h : ∀ result, Q [] result) :
    (ofExcept result).run.Yields Q := by
  rw [run_ofExcept]
  exact h result

end Action

/-! ## Books -/

/-- Which client a call is to construct, and which one it closes. -/
structure Clients (S : Interface) (K : Type) where
  made : S.Call → Option K
  closed : S.Call → Option K

namespace Clients

variable [DecidableEq K] (clients : Clients S K)

/-- How often a client was constructed. -/
def constructions (k : K) (trace : List (Event S)) : Nat :=
  trace.countP fun
    | .called c (.ok _) => clients.made c = some k
    | _ => false

/-- How often a client was closed, or at least told to close. -/
def closings (k : K) (trace : List (Event S)) : Nat :=
  trace.countP fun
    | .called c _ => clients.closed c = some k
    | .logged _ => false

/-- What was held before and what was constructed has been closed or is held after. -/
def Balanced (held : K → Bool) (trace : List (Event S)) (held' : K → Bool) : Prop :=
  ∀ k, (held k).toNat + clients.constructions k trace =
    clients.closings k trace + (held' k).toNat

variable {clients} {held held' held'' : K → Bool} {trace trace' : List (Event S)}

theorem constructions_append (k : K) (trace trace' : List (Event S)) :
    clients.constructions k (trace ++ trace') =
      clients.constructions k trace + clients.constructions k trace' :=
  List.countP_append

theorem closings_append (k : K) (trace trace' : List (Event S)) :
    clients.closings k (trace ++ trace') = clients.closings k trace + clients.closings k trace' :=
  List.countP_append

theorem Balanced.trans (h : clients.Balanced held trace held')
    (h' : clients.Balanced held' trace' held'') :
    clients.Balanced held (trace ++ trace') held'' := by
  intro k
  have hfirst := h k
  have hsecond := h' k
  rw [constructions_append, closings_append]
  omega

/-- Where nothing was held before, no more is closed than was constructed. -/
theorem Balanced.closings_le (h : clients.Balanced (fun _ => false) trace held) (k : K) :
    clients.closings k trace ≤ clients.constructions k trace := by
  have hbooks := h k
  rw [Bool.toNat_false] at hbooks
  omega

/-- Where nothing is held before and after, what was constructed has been closed. -/
theorem Balanced.settled (h : clients.Balanced (fun _ => false) trace fun _ => false) (k : K) :
    clients.closings k trace = clients.constructions k trace := by
  simpa using (h k).symm

/-- To close a client is to hold it no longer, whatever that is answered. -/
theorem balanced_closing (clients : Clients S K) (client : K) (c : S.Call)
    (hmade : clients.made c = none) (hclosed : clients.closed c = some client)
    (answer : Except Failure (S.Reply c)) (hheld : held client = true) :
    clients.Balanced held [.called c answer] (Function.update held client false) := by
  intro k
  have hconstructions : clients.constructions k [.called c answer] = 0 := by
    cases answer <;> simp [constructions, hmade]
  have hclosings : clients.closings k [.called c answer] = if k = client then 1 else 0 := by
    simp [closings, hclosed, List.countP_cons, eq_comm]
  rw [hconstructions, hclosings]
  split
  next heq => rw [heq, hheld, Function.update_self]; rfl
  next hne => rw [Function.update_of_ne hne, Nat.add_zero, Nat.zero_add]

/-- A call that has nothing to do with constructing and closing. -/
def Neutral (clients : Clients S K) (c : S.Call) : Prop :=
  clients.made c = none ∧ clients.closed c = none

theorem constructions_of_neutral (h : ∀ c answer, .called c answer ∈ trace → clients.Neutral c)
    (k : K) : clients.constructions k trace = 0 := by
  rw [constructions, List.countP_eq_zero]
  intro event hevent
  cases event with
  | logged entry => simp
  | called c answer => cases answer <;> simp [(h c _ hevent).1]

theorem balanced_of_neutral (h : ∀ c answer, .called c answer ∈ trace → clients.Neutral c)
    (held : K → Bool) : clients.Balanced held trace held := by
  intro k
  have hclosings : clients.closings k trace = 0 := by
    rw [closings, List.countP_eq_zero]
    intro event hevent
    cases event with
    | logged entry => simp
    | called c answer => simp [(h c answer hevent).2]
  rw [constructions_of_neutral h, hclosings, Nat.add_zero, Nat.zero_add]

theorem balanced_nil (held : K → Bool) : clients.Balanced held [] held :=
  balanced_of_neutral (fun _ _ h => absurd h List.not_mem_nil) held

end Clients

end CloudIdentity

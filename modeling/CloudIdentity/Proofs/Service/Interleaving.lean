import CloudIdentity.Service.Program
import Mathlib.Data.List.Nodup

/-!
Programs that run side by side against one service. A schedule says which of them moves next; a move
is a call with the answer to it, or a log entry, so between two calls of one program the others may
make any number of theirs. Each program finishes at most once, and the pool keeps the order in which
they do.
-/

namespace CloudIdentity

variable {S : Interface} {σ α : Type}

namespace Program

/-- What a program has come to, if there is nothing left for it to do. -/
def result? : Program S α → Option α
  | done a => some a
  | _ => none

@[simp] theorem result?_done (a : α) : (done a : Program S α).result? = some a := rfl

theorem result?_eq_some_iff {p : Program S α} {a : α} : p.result? = some a ↔ p = done a := by
  cases p <;> simp [result?]

def move (service : Service S σ) : Program S α → σ → Program S α × σ
  | done a, state => (done a, state)
  | call c next, state => (next (service.answer c state).1, (service.answer c state).2)
  | log _ next, state => (next, state)

@[simp] theorem move_call (service : Service S σ) (c : S.Call)
    (next : Except Failure (S.Reply c) → Program S α) (state : σ) :
    (call c next).move service state =
      (next (service.answer c state).1, (service.answer c state).2) := rfl

/-- A run is its first move and the run of what is left. -/
theorem run_move (service : Service S σ) (p : Program S α) (state : σ) :
    let rest := (p.move service state).1.run service (p.move service state).2
    (p.run service state).result = rest.result ∧ (p.run service state).state = rest.state := by
  cases p <;> exact ⟨rfl, rfl⟩

end Program

/-- Programs side by side: how far each has come, the state of the service, and the programs that
have finished meanwhile, by position and with their results, in the order in which they did. -/
structure Pool (S : Interface) (σ α : Type) where
  programs : List (Program S α)
  state : σ
  finished : List (Nat × α)

namespace Pool

def start (programs : List (Program S α)) (state : σ) : Pool S σ α := ⟨programs, state, []⟩

/-- One move of the program at a position; none if it has finished or if there is no such program. -/
def step (service : Service S σ) (pool : Pool S σ α) (i : Nat) : Pool S σ α :=
  match pool.programs[i]? with
  | none => pool
  | some (.done _) => pool
  | some p =>
    let moved := p.move service pool.state
    { programs := pool.programs.set i moved.1
      state := moved.2
      finished := pool.finished ++ (moved.1.result?.map fun a => (i, a)).toList }

def run (service : Service S σ) (pool : Pool S σ α) (schedule : List Nat) : Pool S σ α :=
  schedule.foldl (step service) pool

variable {service : Service S σ} {pool : Pool S σ α}

theorem step_cases (service : Service S σ) (pool : Pool S σ α) (i : Nat) :
    pool.step service i = pool ∨
      ∃ p, pool.programs[i]? = some p ∧ p.result? = none ∧
        pool.step service i =
          { programs := pool.programs.set i (p.move service pool.state).1
            state := (p.move service pool.state).2
            finished := pool.finished ++
              ((p.move service pool.state).1.result?.map fun a => (i, a)).toList } := by
  rw [step]
  split
  · exact Or.inl rfl
  · exact Or.inl rfl
  · next p hrunning hp =>
    refine Or.inr ⟨p, hp, ?_, rfl⟩
    cases p with
    | done a => exact absurd rfl (hrunning a)
    | call c next => rfl
    | log entry next => rfl

/-- What every step keeps, every run keeps. -/
theorem run_induction {P : Pool S σ α → Prop}
    (step : ∀ pool i, P pool → P (pool.step service i)) (schedule : List Nat) (h : P pool) :
    P (pool.run service schedule) := by
  induction schedule generalizing pool with
  | nil => exact h
  | cons i rest ih => exact ih (step pool i h)

/-- The list of finished programs is in step with the programs: it names each that has come to a
result since the start once, with that result. -/
structure Recorded (initial : List (Program S α)) (pool : Pool S σ α) : Prop where
  nodup : (pool.finished.map Prod.fst).Nodup
  done_of_mem : ∀ i a, (i, a) ∈ pool.finished → pool.programs[i]? = some (.done a)
  mem_of_done : ∀ i a, pool.programs[i]? = some (.done a) →
    (i, a) ∈ pool.finished ∨ initial[i]? = some (.done a)

theorem recorded_start (programs : List (Program S α)) (state : σ) :
    Recorded programs (start programs state) where
  nodup := List.nodup_nil
  done_of_mem _ _ h := absurd h List.not_mem_nil
  mem_of_done _ _ h := Or.inr h

theorem recorded_step {initial : List (Program S α)} (h : Recorded initial pool) (i : Nat) :
    Recorded initial (pool.step service i) := by
  rcases step_cases service pool i with heq | ⟨p, hp, hrunning, heq⟩
  · rw [heq]
    exact h
  rw [heq]
  generalize p.move service pool.state = moved
  have hi : i < pool.programs.length := (List.getElem?_eq_some_iff.mp hp).1
  have hfresh : ∀ a, (i, a) ∉ pool.finished := by
    intro a hmem
    obtain rfl := Option.some.inj (hp.symm.trans (h.done_of_mem i a hmem))
    simp at hrunning
  have hmem (j : Nat) (a : α) :
      (j, a) ∈ pool.finished ++ (moved.1.result?.map fun a => (i, a)).toList ↔
        (j, a) ∈ pool.finished ∨ (i = j ∧ moved.1 = .done a) := by
    simp [← Program.result?_eq_some_iff, and_comm]
  have hset (j : Nat) (a : α) :
      (pool.programs.set i moved.1)[j]? = some (.done a) ↔
        (i = j ∧ moved.1 = .done a) ∨ (i ≠ j ∧ pool.programs[j]? = some (.done a)) := by
    by_cases hij : i = j
    · subst hij
      simp [hi]
    · simp [hij]
  refine ⟨?_, ?_, ?_⟩
  · rw [List.map_append, List.nodup_append]
    refine ⟨h.nodup, by cases moved.1.result? <;> simp, ?_⟩
    intro j hj k hk
    obtain ⟨⟨_, a⟩, hold, rfl⟩ := List.mem_map.mp hj
    have hk : k = i := by
      cases hresult : moved.1.result? <;> simp_all
    rintro rfl
    exact hfresh a (hk ▸ hold)
  · intro j a hfinished
    rw [hset]
    rcases (hmem j a).mp hfinished with hold | hnew
    · refine Or.inr ⟨?_, h.done_of_mem j a hold⟩
      rintro rfl
      exact hfresh a hold
    · exact Or.inl hnew
  · intro j a hdone
    rw [hmem]
    rcases (hset j a).mp hdone with hnew | ⟨_, hold⟩
    · exact Or.inl (Or.inr hnew)
    · exact (h.mem_of_done j a hold).imp_left Or.inl

theorem recorded_run (programs : List (Program S α)) (state : σ) (schedule : List Nat) :
    Recorded programs ((start programs state).run service schedule) :=
  run_induction (P := Recorded programs) (fun _ i h => recorded_step h i) schedule
    (recorded_start programs state)

end Pool

end CloudIdentity

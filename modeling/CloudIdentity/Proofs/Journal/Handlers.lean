import CloudIdentity.Proofs.Journal.Line

/-!
A logger over time. It is set up by everyone who wants to log, its level is changed, and messages
are logged, in any order. The first set-up gives it its one handler and a level; no later one
touches either. So whether a message is told depends on the level that was set last, and however
often the logger was set up, it is told once or not at all. A logger is taken by itself here: what
the loggers above it in a hierarchy of names make of its entries is their own.
-/

namespace CloudIdentity

/-- Where every member can be encoded, so can be whatever is found under a name. -/
theorem Document.Members.not_unencodable_get {members : Members}
    (h : ∀ m ∈ members, ¬ m.2.Unencodable) (name : String) :
    ¬ (members.get name).Unencodable := by
  rw [Members.get]
  cases hlookup : members.lookup name with
  | none =>
    intro hnull
    cases hnull
  | some v => exact h _ (mem_of_lookup hlookup)

namespace Journal

open Document

/-! ## Calls -/

/-- A call for a message to be logged. The chosen level counts for the method that leaves it open;
`fresh` is the request id that is made up if none is given. -/
structure LogCall where
  method : Method
  chosen : Value := .null
  message : String
  given : Members := []
  handling : Option Failure := none
  fresh : String

namespace Method

variable {m : Method} {name : String}

/-- No particular that is known is given by position too. -/
theorem misfit?_of_known (h : name ∈ particulars) : m.misfit? name = none := by
  have hpositional : ∀ name ∈ particulars, m.positional.contains name = false := by
    cases m <;> decide
  rw [misfit?, hpositional name h, if_neg Bool.false_ne_true, if_neg]
  rintro ⟨_, hunknown⟩
  simp [h] at hunknown

theorem firstMisfit?_of_known {given : Members} (h : ∀ p ∈ given, p.1 ∈ particulars) :
    m.firstMisfit? given = none := by
  rw [firstMisfit?, Option.or_eq_none_iff, List.findSome?_eq_none_iff, List.findSome?_eq_none_iff]
  constructor
  · exact fun p hp => misfit?_of_known (h p hp)
  · exact fun p hp => misfit?_of_known (h p hp)

end Method

/-- Every level that is a number has something that it is shown as. -/
theorem Level.exists_label {v : Value} {level : Level} (h : ofNumber v = .ok level) :
    ∃ shown, label v = .ok shown := by
  have hkey : v.lookupKey = .ok v := by
    cases v with
    | int n => rfl
    | bool b => rfl
    | _ => cases h
  rw [label, hkey]
  dsimp only [bind, Except.bind]
  split
  · exact ⟨_, rfl⟩
  · split
    · exact ⟨_, rfl⟩
    · exact ⟨_, rfl⟩

namespace LogCall

variable {c : LogCall} {level : Level}

/-- The entry that a call leads to, unless it is refused. -/
def entry (c : LogCall) : Except Failure Entry :=
  Entry.ofCall c.method c.chosen (.str c.message) c.given c.handling

/-- A call at that level as a logger asks for it: the level is a number, only known particulars are
given, and what they say of the context can be written. -/
structure LogsAt (c : LogCall) (level : Level) : Prop where
  level : Level.ofNumber (c.method.level c.chosen) = .ok level
  known : ∀ p ∈ c.given, p.1 ∈ Method.particulars
  context : ∀ name ∈ Context.names, ¬ (c.given.get name).Unencodable

/-- Such a call is not refused. -/
theorem LogsAt.exists_entry (h : c.LogsAt level) :
    ∃ e, c.entry = .ok e ∧ e.level = level := by
  obtain ⟨shown, hshown⟩ := Level.exists_label h.level
  rw [entry, Entry.ofCall, Method.firstMisfit?_of_known h.known]
  simp only [h.level, hshown]
  exact ⟨_, rfl, rfl⟩

theorem LogsAt.context_members (h : c.LogsAt level) {e : Entry} (he : c.entry = .ok e) :
    ∀ m ∈ e.context.members, ¬ m.2.Unencodable := by
  obtain ⟨_, hgiven, _⟩ := Entry.of_ofCall he
  rw [hgiven, Context.members_ofMembers]
  exact List.forall_mem_map.mpr h.context

/-- What such a call leads to is one line. -/
theorem LogsAt.exists_line (h : c.LogsAt level) (l : Logger) {e : Entry} (he : c.entry = .ok e)
    (timestamp : String) :
    ∃ line, (Record.ofEntry l.name (Logger.identified c.fresh e)).line? timestamp = some line ∧
      '\n' ∉ line.toList := by
  obtain ⟨_, _, hlabel⟩ := Entry.of_ofCall he
  have hencodable := Logger.encodable_identified l c.fresh hlabel (h.context_members he)
  obtain ⟨line, hline, hprintable, _⟩ := hencodable.exists_line timestamp
  refine ⟨line, hline, ?_⟩
  intro hbreak
  have hlow : 0x20 ≤ '\n'.toNat := (hprintable _ hbreak).1
  exact absurd hlow (by decide)

end LogCall

/-! ## What happens to a logger -/

inductive Step where
  | setUp
  | setLevel (given : Value)
  | call (c : LogCall)

namespace Step

/-- The level that a step sets. What is no level sets none. -/
def level? : Step → Option Level
  | setLevel given => (Level.ofValue given).toOption
  | _ => none

def isSetUp : Step → Bool
  | setUp => true
  | _ => false

theorem eq_setUp_of_isSetUp {s : Step} (h : s.isSetUp = true) : s = .setUp := by
  cases s with
  | setUp => rfl
  | _ => cases h

theorem isSetUp_eq_false_of_not_mem {steps : List Step} (h : Step.setUp ∉ steps) :
    ∀ s ∈ steps, s.isSetUp = false := by
  intro s hs
  rw [Bool.eq_false_iff]
  intro hsetUp
  exact h (eq_setUp_of_isSetUp hsetUp ▸ hs)

end Step

namespace Logger

variable {l : Logger} {s : Step} {steps : List Step} {level : Level}

/-- The logger after a step. -/
def next (l : Logger) (s : Step) : Logger :=
  match s with
  | .setUp => l.setUp
  | .setLevel given =>
    match Level.ofValue given with
    | .ok level => l.setLevel level
    | .error _ => l
  | .call _ => l

/-- The records that a step has a logger emit, or the failure by which it is refused. -/
def answer (l : Logger) (s : Step) : Except Failure (List Record) :=
  match s with
  | .setUp => .ok []
  | .setLevel given => (Level.ofValue given).map fun _ => []
  | .call c => c.entry.map (l.emit c.fresh)

def after (l : Logger) (steps : List Step) : Logger := steps.foldl next l

/-- All that a logger emits over time. -/
def emitted (l : Logger) : List Step → List Record
  | [] => []
  | s :: rest =>
    (match l.answer s with
      | .ok records => records
      | .error _ => []) ++ (l.next s).emitted rest

@[simp] theorem after_nil (l : Logger) : l.after [] = l := rfl

@[simp] theorem after_cons (l : Logger) (s : Step) (rest : List Step) :
    l.after (s :: rest) = (l.next s).after rest := rfl

theorem after_append (l : Logger) (steps rest : List Step) :
    l.after (steps ++ rest) = (l.after steps).after rest :=
  List.foldl_append

/-- A step other than a set-up sets the level or leaves the logger alone. -/
theorem next_of_not_isSetUp (h : s.isSetUp = false) :
    l.next s = l.setLevel (s.level?.getD l.level) := by
  cases s with
  | setUp => cases h
  | setLevel given =>
    cases hlevel : Level.ofValue given with
    | ok level => simp [next, Step.level?, hlevel, Except.toOption]
    | error f => simp [next, Step.level?, hlevel, Except.toOption, Logger.setLevel]
  | call c => rfl

/-- Without a set-up a logger keeps the handlers it has. -/
theorem handlers_after (h : ∀ s ∈ steps, s.isSetUp = false) :
    (l.after steps).name = l.name ∧ (l.after steps).handlers = l.handlers := by
  induction steps generalizing l with
  | nil => exact ⟨rfl, rfl⟩
  | cons s rest ih =>
    obtain ⟨hs, hrest⟩ := List.forall_mem_cons.mp h
    rw [after_cons, next_of_not_isSetUp hs]
    exact ih hrest

/-- The first set-up gives a logger a handler and the level INFO, whatever level was set before. -/
theorem after_first_setUp (name : String) (level : Level)
    (h : ∀ s ∈ steps, s.isSetUp = false) :
    ({ name := name, level := level } : Logger).after (steps ++ [.setUp])
      = { name := name, handlers := 1, level := Level.info } := by
  obtain ⟨hname, hhandlers⟩ := handlers_after (l := ⟨name, 0, level⟩) h
  rw [after_append, after_cons, after_nil, next, setUp, if_pos hhandlers, hname]

/-! ## Loggers that are ready -/

/-- A logger with its one handler and a level of its own. -/
structure Ready (l : Logger) : Prop where
  handlers : l.handlers = 1
  level : 0 < l.level

/-- A further set-up does nothing at all. -/
theorem Ready.setUp (h : l.Ready) : l.setUp = l := by
  have hhandlers : l.handlers ≠ 0 := by
    rw [h.handlers]
    decide
  exact if_neg hhandlers

theorem Ready.next_eq (h : l.Ready) (s : Step) : l.next s = l.setLevel (s.level?.getD l.level) := by
  cases hs : s.isSetUp with
  | false => exact next_of_not_isSetUp hs
  | true =>
    obtain rfl := Step.eq_setUp_of_isSetUp hs
    exact h.setUp

theorem Ready.next (h : l.Ready) (hs : ∀ n ∈ s.level?, 0 < n) : (l.next s).Ready := by
  rw [h.next_eq]
  refine ⟨h.handlers, ?_⟩
  cases hlevel : s.level? with
  | none => exact h.level
  | some level => exact hs level hlevel

theorem Ready.after (h : l.Ready) (hsteps : ∀ s ∈ steps, ∀ n ∈ s.level?, 0 < n) :
    (l.after steps).Ready := by
  induction steps generalizing l with
  | nil => exact h
  | cons s rest ih =>
    obtain ⟨hs, hrest⟩ := List.forall_mem_cons.mp hsteps
    exact ih (h.next hs) hrest

/-- Nothing but the level of a logger that is ready changes, and that is the one set last. -/
theorem Ready.after_eq (h : l.Ready) (hsteps : ∀ s ∈ steps, ∀ n ∈ s.level?, 0 < n) :
    l.after steps = l.setLevel ((steps.filterMap Step.level?).getLast?.getD l.level) := by
  induction steps generalizing l with
  | nil => rfl
  | cons s rest ih =>
    obtain ⟨hs, hrest⟩ := List.forall_mem_cons.mp hsteps
    rw [after_cons, ih (h.next hs) hrest, h.next_eq]
    cases hlevel : s.level? with
    | none => simp [hlevel, Logger.setLevel]
    | some level => simp [hlevel, Logger.setLevel, List.getLast?_cons]

theorem Ready.enabled_iff (h : l.Ready) : l.enabled level = true ↔ l.level ≤ level := by
  have hthreshold : l.threshold = l.level := if_neg (Int.ne_of_gt h.level)
  rw [enabled, decide_eq_true_iff, hthreshold]
  exact and_iff_right_of_imp (Int.lt_of_lt_of_le h.level)

/-- A message is told once if its level is at or above that of the logger, and else not at all. -/
theorem Ready.answer_call (h : l.Ready) {c : LogCall} (hc : c.LogsAt level) {e : Entry}
    (he : c.entry = .ok e) (hlevel : e.level = level) :
    l.answer (.call c) = .ok (if l.level ≤ level then
      [Record.ofEntry l.name (identified c.fresh e)] else []) := by
  rw [answer, he]
  refine congrArg Except.ok ?_
  by_cases hle : l.level ≤ level
  · have henabled : l.enabled e.level = true := h.enabled_iff.mpr (hlevel ▸ hle)
    obtain ⟨_, _, hlabel⟩ := Entry.of_ofCall he
    rw [if_pos hle, emit_of_encodable henabled hlabel (hc.context_members he), h.handlers,
      List.replicate_one]
  · have hdisabled : l.enabled e.level = false :=
      Bool.eq_false_iff.mpr fun henabled => hle (hlevel ▸ h.enabled_iff.mp henabled)
    rw [if_neg hle, emit, hdisabled]
    rfl

theorem length_emit_le (l : Logger) (fresh : String) (e : Entry) :
    (l.emit fresh e).length ≤ l.handlers := by
  rw [emit]
  split
  · exact Nat.le_of_eq List.length_replicate
  · exact Nat.zero_le _

/-- No call at all is told twice. -/
theorem Ready.length_answer_call_le (h : l.Ready) {c : LogCall} {records : List Record}
    (hanswer : l.answer (.call c) = .ok records) : records.length ≤ 1 := by
  obtain ⟨e, _, rfl⟩ := Gate.map_eq_ok_iff.mp hanswer
  exact h.handlers ▸ length_emit_le l c.fresh e

/-- What a logger that is ready emits is the same with the further set-ups left out. -/
theorem Ready.emitted_filter (h : l.Ready)
    (hsteps : ∀ s ∈ steps, ∀ n ∈ s.level?, 0 < n) :
    l.emitted (steps.filter fun s => !s.isSetUp) = l.emitted steps := by
  induction steps generalizing l with
  | nil => rfl
  | cons s rest ih =>
    obtain ⟨hs, hrest⟩ := List.forall_mem_cons.mp hsteps
    have hemitted := ih (h.next hs) hrest
    cases hsetUp : s.isSetUp with
    | false =>
      rw [List.filter_cons_of_pos (by simp [hsetUp]), emitted, emitted, hemitted]
    | true =>
      obtain rfl := Step.eq_setUp_of_isSetUp hsetUp
      have hnext : l.next .setUp = l := h.setUp
      rw [hnext] at hemitted
      rw [List.filter_cons_of_neg (by simp [Step.isSetUp]), hemitted, emitted, hnext]
      rfl

end Logger

/-! ## One handler, one line -/

/-- From its first set-up on, a logger has just one handler, whatever is done to it: further set-ups
change nothing, and its level is the one that was set last. A call leads to one record, which is one
line, if its level is at or above that of the logger, and to none otherwise; no call at all leads to
two. What is emitted over time is the same as if there had been no further set-up. -/
theorem one_handler_one_line (name : String) (level : Level) (before since : List Step)
    (timestamp : String) (hbefore : Step.setUp ∉ before)
    (hpositive : ∀ s ∈ since, ∀ n ∈ s.level?, 0 < n) :
    let ready := ({ name := name, level := level } : Logger).after (before ++ [.setUp])
    let l := ready.after since
    l.handlers = 1 ∧
    l.level = (since.filterMap Step.level?).getLast?.getD Level.info ∧
    l.next .setUp = l ∧
    (∀ (c : LogCall) (n : Level), c.LogsAt n → ∃ e line, c.entry = .ok e ∧ e.message = c.message ∧
      (Record.ofEntry name (Logger.identified c.fresh e)).line? timestamp = some line ∧
      '\n' ∉ line.toList ∧
      l.answer (.call c) = .ok (if l.level ≤ n then
        [Record.ofEntry name (Logger.identified c.fresh e)] else [])) ∧
    (∀ c records, l.answer (.call c) = .ok records → records.length ≤ 1) ∧
    ready.emitted since = ready.emitted (since.filter fun s => !s.isSetUp) := by
  intro ready l
  have hready : ready = { name := name, handlers := 1, level := Level.info } :=
    Logger.after_first_setUp name level (Step.isSetUp_eq_false_of_not_mem hbefore)
  have hinfo : 0 < Level.info := by decide
  have hstart : ready.Ready := hready ▸ ⟨rfl, hinfo⟩
  have hl : l.Ready := hstart.after hpositive
  have hafter : l = ready.setLevel ((since.filterMap Step.level?).getLast?.getD ready.level) :=
    hstart.after_eq hpositive
  have hlevel : l.level = (since.filterMap Step.level?).getLast?.getD Level.info := by
    rw [hafter, hready]
    rfl
  have hname : l.name = name := by
    rw [hafter, hready]
    rfl
  refine ⟨hl.handlers, hlevel, hl.setUp, ?_, fun _ _ => hl.length_answer_call_le,
    (hstart.emitted_filter hpositive).symm⟩
  intro c n hc
  obtain ⟨e, he, hn⟩ := hc.exists_entry
  obtain ⟨line, hline, hunbroken⟩ := hc.exists_line l he timestamp
  obtain ⟨hmessage, _⟩ := Entry.of_ofCall he
  exact ⟨e, line, he, hmessage, hname ▸ hline, hunbroken, hname ▸ hl.answer_call hc he hn⟩

/-- Set up four times, with a call that is refused and a level that is none in between: an error is
told once, and nothing is told of what is less grave. -/
theorem one_handler_one_line_set_up_again :
    let told : LogCall :=
      { method := .error, message := "late\n", given := [("tenant", .str "p")], fresh := "id" }
    let refused : LogCall :=
      { method := .error, message := "m", given := [("pace", .null)], fresh := "id" }
    let since : List Step := [.setUp, .call refused, .setLevel (.str "ERROR"), .setUp, .call told,
      .setLevel (.str "loud"), .setUp]
    let ready := ({ name := "crossiam", level := 0 } : Logger).after
      ([.setLevel (.str "NOTSET")] ++ [.setUp])
    let l := ready.after since
    l.handlers = 1 ∧ l.level = Level.error ∧
      (∃ record, l.answer (.call told) = .ok [record] ∧ record.message = "late\n") ∧
      l.answer (.call { told with method := .info }) = .ok [] ∧
      ready.emitted since = ready.emitted
        [.call refused, .setLevel (.str "ERROR"), .call told, .setLevel (.str "loud")] := by
  intro told refused since ready l
  have hpositive : ∀ s ∈ since, ∀ n ∈ s.level?, 0 < n := by decide
  obtain ⟨hhandlers, hlevel, _, hcalls, _, hemitted⟩ :=
    one_handler_one_line "crossiam" 0 [.setLevel (.str "NOTSET")] since "now" (by simp) hpositive
  have hlevel : l.level = Level.error := hlevel
  have hknown : ∀ p ∈ told.given, p.1 ∈ Method.particulars := by decide
  have htext : ¬ (Value.str "p").Unencodable := nofun
  have hcontext : ∀ name ∈ Context.names, ¬ (told.given.get name).Unencodable :=
    fun name _ => Members.not_unencodable_get (List.forall_mem_singleton.mpr htext) name
  obtain ⟨e, _, _, hmessage, _, _, htold⟩ := hcalls told Level.error ⟨rfl, hknown, hcontext⟩
  obtain ⟨_, _, _, _, _, _, hsilent⟩ :=
    hcalls { told with method := .info } Level.info ⟨rfl, hknown, hcontext⟩
  rw [hlevel] at htold hsilent
  refine ⟨hhandlers, hlevel, ⟨_, htold, ?_⟩, hsilent, hemitted⟩
  exact (Logger.message_identified "id" e).trans hmessage

end Journal

end CloudIdentity

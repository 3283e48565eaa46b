import CloudIdentity.Journal.Logger
import CloudIdentity.Proofs.Client.Admission
import CloudIdentity.Proofs.Document.Comparison
import CloudIdentity.Proofs.Document.Serialization

/-!
Lines of the log, read back. The names in a line are distinct, whatever parts its context has, so
the one object that a line holds has just the members that were written, each with its value. What
a message says cannot end the line, since every character of a line is printable, nor pass for
another member, since the whole of it is read back as the message.
-/

namespace CloudIdentity.Journal

open Document

/-! ## Names -/

namespace Context

/-- The names that the parts of a context go by. -/
def names : List String :=
  ["request_id", "provider", "operation", "identity", "tenant", "error_kind"]

variable {extras : Members}

theorem names_members (c : Context) : c.members.map Prod.fst = names := rfl

theorem names_present_sublist (c : Context) : (c.present.map Prod.fst).Sublist names :=
  c.names_members ▸ List.filter_sublist.map Prod.fst

theorem members_ofMembers (extras : Members) :
    (ofMembers extras).members = names.map fun name => (name, extras.get name) := rfl

/-- The parts of a context that are there go by the names under which something other than null was
given. -/
theorem present_ofMembers (extras : Members) :
    (ofMembers extras).present
      = (names.filter fun name => !(extras.get name).isNull).map fun name =>
          (name, extras.get name) := by
  rw [present, members_ofMembers, List.filter_map]
  rfl

end Context

namespace Record

variable {r : Record}

/-- The members of the line of a record. -/
def lineMembers (r : Record) (timestamp : String) : Members :=
  ("timestamp", .str timestamp) :: r.members

theorem names_lineMembers (r : Record) (timestamp : String) :
    (r.lineMembers timestamp).map Prod.fst
      = ["timestamp", "level", "logger", "message"] ++ r.context.present.map Prod.fst
        ++ (if r.exception.isSome then ["exception"] else []) := by
  cases h : r.exception with
  | none => simp [lineMembers, members, h]
  | some text => simp [lineMembers, members, h]

/-- Whatever a record holds, no name stands in its line twice. -/
theorem nodup_lineMembers (r : Record) (timestamp : String) :
    ((r.lineMembers timestamp).map Prod.fst).Nodup := by
  have hall : (["timestamp", "level", "logger", "message"] ++ Context.names
      ++ ["exception"]).Nodup := by decide
  rw [names_lineMembers]
  refine hall.sublist (((List.Sublist.refl _).append r.context.names_present_sublist).append ?_)
  split
  · exact List.Sublist.refl _
  · exact List.nil_sublist _

/-! ## Lines -/

/-- A record without anything in it that cannot be encoded, at any depth. -/
structure Encodable (r : Record) : Prop where
  level : ¬ r.level.Unencodable
  logger : ¬ r.logger.Unencodable
  context : ∀ m ∈ r.context.members, ¬ m.2.Unencodable

theorem Encodable.lineMembers (h : r.Encodable) {timestamp : String} {m : String × Value}
    (hm : m ∈ r.lineMembers timestamp) : ¬ m.2.Unencodable := by
  simp only [Record.lineMembers, members, List.cons_append, List.mem_cons, List.mem_append] at hm
  rcases hm with rfl | rfl | rfl | rfl | hm | hm
  · exact nofun
  · exact h.level
  · exact h.logger
  · exact nofun
  · exact h.context m (List.mem_of_mem_filter hm)
  · cases hexception : r.exception with
    | none => simp [hexception] at hm
    | some text =>
      obtain rfl : m = ("exception", .str text) := by simpa [hexception] using hm
      exact nofun

/-- The line of a record is printable, and what is read of it are the members of the line. -/
theorem Encodable.exists_line (h : r.Encodable) (timestamp : String) :
    ∃ line, r.line? timestamp = some line ∧ Printable line.toList ∧
      Value.ofText? line = some (.object (Value.rereadMembers (r.lineMembers timestamp))) := by
  obtain ⟨text, htext⟩ : (Value.object (r.lineMembers timestamp)).Writable spaced :=
    Value.writable_object fun m hm => Value.writable_of_not_unencodable m.2 (h.lineMembers hm)
  have hline : r.line? timestamp = some (String.ofList text) := congrArg (Option.map _) htext
  refine ⟨_, hline, ?_, ?_⟩
  · rw [String.toList_ofList]
    exact Printable.of_write? (by decide) (by decide) _ text htext
  · rw [Value.ofText?_of_text? Reader.passes_spaced hline]
    exact congrArg some (Value.reread_object (r.nodup_lineMembers timestamp))

theorem Encodable.writable (h : r.Encodable) : r.writable = true := by
  obtain ⟨line, hline, _⟩ := h.exists_line ""
  rw [Record.writable, hline]
  rfl

/-- Without doubles in it, a value stands in the line as it was given. -/
theorem lookup_rereadMembers_lineMembers {timestamp name : String} {v : Value}
    (hmem : (name, v) ∈ r.lineMembers timestamp) (hv : v.Discrete) :
    (Value.rereadMembers (r.lineMembers timestamp)).lookup name = some v := by
  rw [Value.lookup_rereadMembers, Members.lookup_of_mem (r.nodup_lineMembers timestamp) hmem,
    Option.map_some, hv.faithful.reread]

theorem level_mem_lineMembers (r : Record) (timestamp : String) :
    ("level", r.level) ∈ r.lineMembers timestamp := by
  simp [lineMembers, members]

theorem logger_mem_lineMembers (r : Record) (timestamp : String) :
    ("logger", r.logger) ∈ r.lineMembers timestamp := by
  simp [lineMembers, members]

theorem message_mem_lineMembers (r : Record) (timestamp : String) :
    ("message", .str r.message) ∈ r.lineMembers timestamp := by
  simp [lineMembers, members]

theorem present_mem_lineMembers {m : String × Value} (h : m ∈ r.context.present)
    (timestamp : String) : m ∈ r.lineMembers timestamp := by
  simp [lineMembers, members, h]

theorem exception_mem_lineMembers {text : String} (h : r.exception = some text)
    (timestamp : String) : ("exception", .str text) ∈ r.lineMembers timestamp := by
  simp [lineMembers, members, h]

end Record

/-! ## Messages -/

/-- What an entry shows as its level is a text, or the number of a level with a name. -/
theorem Level.label_not_unencodable {v label : Value} (h : Level.label v = .ok label) :
    ¬ label.Unencodable := by
  obtain ⟨key, _, hlabel⟩ := Gate.bind_eq_ok_iff.mp h
  split at hlabel
  · cases hlabel
    exact nofun
  · split at hlabel
    · next level hname =>
      cases hlabel
      have hfew : ∀ p ∈ names, Text.FewDigits p.2 := by decide
      have hmem : (key.text, level) ∈ names := by
        obtain ⟨before, after, heq, _⟩ := List.lookup_eq_some_iff.mp hname
        exact heq ▸ List.mem_append_right before List.mem_cons_self
      intro h
      cases h with
      | int many => exact many (hfew _ hmem)
    · cases hlabel
      exact nofun

/-- An entry made by a call has the message as it was given: it is not taken for a format. -/
theorem Entry.of_ofCall {method : Method} {chosen : Value} {message : String} {given : Members}
    {handling : Option Failure} {e : Entry}
    (h : Entry.ofCall method chosen (.str message) given handling = .ok e) :
    e.message = message ∧ e.context = .ofMembers given ∧ ¬ e.label.Unencodable := by
  rw [Entry.ofCall] at h
  split at h
  · cases h
  · obtain ⟨level, _, hrest⟩ := Gate.bind_eq_ok_iff.mp h
    obtain ⟨label, hlabel, he⟩ := Gate.bind_eq_ok_iff.mp hrest
    obtain rfl := Except.ok.inj he
    exact ⟨rfl, rfl, Level.label_not_unencodable hlabel⟩

namespace Logger

variable {l : Logger} {e : Entry} {fresh : String}

/-- A request id is put in for one that is missing, and nothing else is touched. -/
theorem encodable_identified (l : Logger) (fresh : String) (hlabel : ¬ e.label.Unencodable)
    (hcontext : ∀ m ∈ e.context.members, ¬ m.2.Unencodable) :
    (Record.ofEntry l.name (identified fresh e)).Encodable := by
  unfold identified
  split
  · exact ⟨hlabel, nofun, hcontext⟩
  · refine ⟨hlabel, nofun, List.forall_mem_cons.mpr ⟨nofun, ?_⟩⟩
    exact (List.forall_mem_cons.mp hcontext).2

theorem message_identified (fresh : String) (e : Entry) :
    (identified fresh e).message = e.message := by
  unfold identified
  split <;> rfl

/-- An enabled entry that can be written is emitted by each handler. -/
theorem emit_of_encodable (henabled : l.enabled e.level = true) (hlabel : ¬ e.label.Unencodable)
    (hcontext : ∀ m ∈ e.context.members, ¬ m.2.Unencodable) :
    l.emit fresh e = List.replicate l.handlers (Record.ofEntry l.name (identified fresh e)) := by
  have hwritable := (encodable_identified l fresh hlabel hcontext).writable
  rw [emit, henabled, hwritable]
  rfl

end Logger

/-! ## What a line tells -/

/-- A line is one object in printable characters. Its members are the time, the level, the logger
and the message, those parts of the context that were given as something other than null, and the
text of an exception if there is one, all as they were given. A message that a logger is called
with is told word for word. -/
theorem line_tells_what_was_given (level logger : Value) (message : String) (extras : Members)
    (exception : Option String) (timestamp : String) (hlevel : ¬ level.Unencodable)
    (hlogger : ¬ logger.Unencodable)
    (hextras : ∀ name ∈ Context.names, ¬ (extras.get name).Unencodable) :
    (∃ line parsed,
      Record.line? ⟨level, logger, message, .ofMembers extras, exception⟩ timestamp = some line ∧
      (∀ c ∈ line.toList, 0x20 ≤ c.toNat ∧ c.toNat < 0x7F) ∧
      Value.ofText? line = some (.object parsed) ∧
      parsed.map Prod.fst
        = ["timestamp", "level", "logger", "message"]
          ++ Context.names.filter (fun name => !(extras.get name).isNull)
          ++ (if exception.isSome then ["exception"] else []) ∧
      (level.Discrete → parsed.lookup "level" = some level) ∧
      (logger.Discrete → parsed.lookup "logger" = some logger) ∧
      parsed.lookup "message" = some (.str message) ∧
      (∀ name ∈ Context.names, (extras.get name).isNull = false → (extras.get name).Discrete →
        parsed.lookup name = some (extras.get name)) ∧
      ∀ text ∈ exception, parsed.lookup "exception" = some (.str text)) ∧
    ∀ (l : Logger) (fresh : String) (method : Method) (chosen : Value) (handling : Option Failure)
      (e : Entry), Entry.ofCall method chosen (.str message) extras handling = .ok e →
      l.enabled e.level = true →
      ∃ record, l.emit fresh e = List.replicate l.handlers record ∧
        ∃ line parsed, record.line? timestamp = some line ∧
          Value.ofText? line = some (.object parsed) ∧
          parsed.lookup "message" = some (.str message) := by
  have hcontext : ∀ m ∈ (Context.ofMembers extras).members, ¬ m.2.Unencodable := by
    rw [Context.members_ofMembers]
    exact List.forall_mem_map.mpr hextras
  constructor
  · let r : Record := ⟨level, logger, message, .ofMembers extras, exception⟩
    have hr : r.Encodable := ⟨hlevel, hlogger, hcontext⟩
    obtain ⟨line, hline, hprintable, hparsed⟩ := hr.exists_line timestamp
    refine ⟨line, _, hline, hprintable, hparsed, ?_, fun h => ?_, fun h => ?_, ?_, ?_, ?_⟩
    · rw [Value.names_rereadMembers, Record.names_lineMembers]
      simp only [r, Context.present_ofMembers, List.map_map, Function.comp_def, List.map_id']
    · exact Record.lookup_rereadMembers_lineMembers (r.level_mem_lineMembers timestamp) h
    · exact Record.lookup_rereadMembers_lineMembers (r.logger_mem_lineMembers timestamp) h
    · exact Record.lookup_rereadMembers_lineMembers (r.message_mem_lineMembers timestamp) (.str _)
    · intro name hname hthere hv
      refine Record.lookup_rereadMembers_lineMembers ?_ hv
      refine Record.present_mem_lineMembers ?_ timestamp
      rw [Context.present_ofMembers]
      exact List.mem_map_of_mem (List.mem_filter.mpr ⟨hname, by simp [hthere]⟩)
    · intro text htext
      exact Record.lookup_rereadMembers_lineMembers
        (Record.exception_mem_lineMembers htext timestamp) (.str _)
  · intro l fresh method chosen handling e he henabled
    obtain ⟨hmessage, hgiven, hlabel⟩ := Entry.of_ofCall he
    have hmembers : ∀ m ∈ e.context.members, ¬ m.2.Unencodable := hgiven ▸ hcontext
    refine ⟨_, Logger.emit_of_encodable henabled hlabel hmembers, ?_⟩
    have hr := Logger.encodable_identified l fresh hlabel hmembers
    obtain ⟨line, hline, _, hparsed⟩ := hr.exists_line timestamp
    refine ⟨line, _, hline, hparsed, ?_⟩
    have htold : (Record.ofEntry l.name (Logger.identified fresh e)).message = message :=
      (Logger.message_identified fresh e).trans hmessage
    rw [← htold]
    exact Record.lookup_rereadMembers_lineMembers (Record.message_mem_lineMembers _ timestamp)
      (.str _)

/-- A message with quotes, a line break, a percent directive and a character beyond the first plane;
an empty text, a zero and an object among the parts of the context; and one that is null. -/
theorem line_tells_unruly_message :
    let extras : Members :=
      [("identity", .str ""), ("tenant", .int 0), ("provider", .null),
        ("operation", .object [("k\n", .array [.bool true, .null])]), ("exc_info", .bool true)]
    let message := "\"level\": \"DEBUG\"\x7d\r\n\x7b%s %d \\ 😀"
    let record : Record :=
      ⟨.str "ERROR", .str "crossiam", message, .ofMembers extras, some "boom\n"⟩
    ∃ line parsed, record.line? "now" = some line ∧ Value.ofText? line = some (.object parsed) ∧
      parsed.map Prod.fst = ["timestamp", "level", "logger", "message", "operation", "identity",
        "tenant", "exception"] ∧
      parsed.lookup "message" = some (.str message) ∧
      parsed.lookup "tenant" = some (.int 0) ∧
      (({ name := "crossiam", handlers := 1, level := Level.error } : Logger).emit "id"
        { level := Level.error, message := message, context := .ofMembers extras }).length = 1 := by
  intro extras message record
  have hextras : ∀ name ∈ Context.names, ¬ (extras.get name).Unencodable := by
    intro name hname
    have hwritten : ∀ name ∈ Context.names, ((extras.get name).write? compact).isSome = true := by
      decide
    obtain ⟨text, htext⟩ := Option.isSome_iff_exists.mp (hwritten name hname)
    exact Value.writable_iff.mp ⟨text, htext⟩
  obtain ⟨⟨line, parsed, hline, _, hparsed, hnames, _, _, hmessage, hparts, _⟩, hcalls⟩ :=
    line_tells_what_was_given (.str "ERROR") (.str "crossiam") message extras (some "boom\n") "now"
      nofun nofun hextras
  have hcall : Entry.ofCall .error .null (.str message) extras none = .ok
      { level := Level.error, message := message, context := .ofMembers extras } := rfl
  obtain ⟨record, hemit, _⟩ :=
    hcalls ⟨"crossiam", 1, Level.error⟩ "id" .error .null none _ hcall rfl
  refine ⟨line, parsed, hline, hparsed, hnames, hmessage, ?_, ?_⟩
  · exact hparts "tenant" (by decide) rfl (.int (by decide))
  · rw [hemit]
    rfl

end CloudIdentity.Journal

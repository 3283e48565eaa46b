import CloudIdentity.Document.Access
import CloudIdentity.Document.Equality

/-!
The gravity of log entries. Six levels have names, two of them a second one; any other is named by
its number.
-/

namespace CloudIdentity.Journal

open Document

/-- The gravity of an entry; the higher, the graver. -/
abbrev Level := Int

namespace Level

def debug : Level := 10
def info : Level := 20
def warning : Level := 30
def error : Level := 40
def critical : Level := 50

/-- The levels that have a name. -/
def named : List (Level × String) :=
  [(0, "NOTSET"), (debug, "DEBUG"), (info, "INFO"), (warning, "WARNING"), (error, "ERROR"),
    (critical, "CRITICAL")]

/-- The names that a level may be given by. -/
def names : List (String × Level) :=
  [("NOTSET", 0), ("DEBUG", debug), ("INFO", info), ("WARN", warning), ("WARNING", warning),
    ("ERROR", error), ("CRITICAL", critical), ("FATAL", critical)]

def ofName? (s : String) : Option Level := names.lookup s

def numbered (digits : String) : String := "Level " ++ digits

def name (level : Level) : String :=
  (named.lookup level).getD (numbered (String.ofList (Text.integer level)))

/-- What an entry shows as its level: for a number the name, for a name the number. -/
def label (v : Value) : Except Failure Value := do
  let key ← v.lookupKey
  match named.find? fun (level, _) => key.equal (.int level) with
  | some (_, name) => pure (.str name)
  | none =>
    match ofName? key.text with
    | some level => pure (.int level)
    | none => pure (.str (numbered key.display))

/-- A level given as a number. -/
def ofNumber : Value → Except Failure Level
  | .int n => .ok n
  | .bool b => .ok b.toInt
  | _ => .error (Value.wrongType "level must be an integer")

/-- A level given as a number or by a name. -/
def ofValue : Value → Except Failure Level
  | .int n => .ok n
  | .bool b => .ok b.toInt
  | .str s =>
    match ofName? s with
    | some level => .ok level
    | none => .error (Failure.general .value ("Unknown level: " ++ Text.quoted s))
  | v => .error (Value.wrongType ("Level not an integer or a valid string: " ++ v.shown))

/-- Each name that an entry shows is one a level may be given by. -/
theorem ofName?_of_mem_named : ∀ p ∈ named, ofName? p.2 = some p.1 := by
  decide

end Level

end CloudIdentity.Journal

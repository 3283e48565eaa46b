import CloudIdentity.Service.Program

/-!
Services with scripted answers. A script holds, for each method, the answers to give in turn; once
they are used up, or where there were none, the call goes on to the service behind it.
-/

namespace CloudIdentity.InMemory

open Document

inductive ScriptedAnswer where
  | reply (v : Value)
  | failure (f : Failure)

/-- The answers that are left, by method. -/
abbrev Script := List (String × List ScriptedAnswer)

/-- The next answer for a method, and the script without it. -/
def Script.take? (method : String) : Script → Option (ScriptedAnswer × Script)
  | [] => none
  | (name, answers) :: rest =>
    if name = method then
      match answers with
      | answer :: more => some (answer, (name, more) :: rest)
      | [] => none
    else (take? method rest).map fun (answer, rest) => (answer, (name, answers) :: rest)

/-- A service that answers from a script first. `reply` makes a reply of a scripted value, or fails
where the value is none. -/
def scripted {S : Interface} {σ : Type} (method : S.Call → String)
    (reply : (c : S.Call) → Value → Except Failure (S.Reply c)) (service : Service S σ) :
    Service S (Script × σ) where
  answer c := fun (script, state) =>
    match script.take? (method c) with
    | some (.reply v, script) => (reply c v, (script, state))
    | some (.failure f, script) => (.error f, (script, state))
    | none =>
      let (answer, state) := service.answer c state
      (answer, (script, state))

end CloudIdentity.InMemory

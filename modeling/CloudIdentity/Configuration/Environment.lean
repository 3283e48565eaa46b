import CloudIdentity.Document.Value

/-!
What a configuration is completed from: environment variables, and the files that exist.
-/

namespace CloudIdentity

open Document

structure Environment where
  value : String → Option String
  fileExists : String → Bool

/-- The parts of a path, without those that lead nowhere. -/
def pathParts (cs : List Char) : List (List Char) :=
  (cs.splitOn '/').filter fun part => part ≠ [] ∧ part ≠ ['.']

/-- The slashes a path begins with: none, one, or two where there are exactly two. -/
def pathRoot : List Char → List Char
  | '/' :: '/' :: '/' :: _ => ['/']
  | '/' :: '/' :: _ => ['/', '/']
  | '/' :: _ => ['/']
  | _ => []

/-- The path that leads to the same file, without needless slashes and dots. -/
def normalisedPath (path : String) : String :=
  let cs := path.toList
  let parts := pathParts cs
  match pathRoot cs, parts with
  | [], [] => "."
  | root, parts => String.ofList (root ++ ['/'].intercalate parts)

namespace Document.Members

/-- Gives a member the value of an environment variable, null where it is unset, unless the member
already has a value that counts. -/
def fallBack (env : Environment) (name source : String) (members : Members) : Members :=
  if (members.get name).truthy then members
  else members.put name (.ofText (env.value source))

end Document.Members

end CloudIdentity

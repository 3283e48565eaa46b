import CloudIdentity.Text.Affix
import CloudIdentity.Text.Blank

/-!
Trusted principals of AWS. Each entry that is not blank is sorted by the first rule that fits it: an
ARN is kept, a twelve-digit account number becomes the ARN of its root, a name under
`.amazonaws.com` is a service, and anything else is kept as an AWS principal.
-/

namespace CloudIdentity.Aws

/-- The principals of a statement, by the list they go into. -/
structure Principals where
  aws : List String := []
  service : List String := []
  deriving DecidableEq, Repr

/-- One principal in its list. -/
inductive Principal where
  | aws (name : String)
  | service (name : String)
  deriving DecidableEq, Repr

def accountRootArn (accountId : String) : String := "arn:aws:iam::" ++ accountId ++ ":root"

/-- Exactly twelve ASCII digits. -/
def isAccountId (s : String) : Bool := s.toList.length == 12 && s.toList.all Char.isDigit

namespace Principal

def ofEntry (entry : String) : Principal :=
  if Text.begins "arn:" entry then aws entry
  else if isAccountId entry then aws (accountRootArn entry)
  else if Text.ends ".amazonaws.com" entry then service entry
  else aws entry

def aws? : Principal → Option String
  | aws name => some name
  | service _ => none

def service? : Principal → Option String
  | aws _ => none
  | service name => some name

end Principal

namespace Principals

/-- The entries that are not blank, each in its list, in order. -/
def ofEntries (entries : List String) : Principals :=
  let principals := (entries.filter fun e => !Text.blank e).map Principal.ofEntry
  ⟨principals.filterMap Principal.aws?, principals.filterMap Principal.service?⟩

def isEmpty (p : Principals) : Bool := p.aws.isEmpty && p.service.isEmpty

end Principals

end CloudIdentity.Aws

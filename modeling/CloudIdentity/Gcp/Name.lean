import CloudIdentity.Text.Affix

/-!
Names on Google Cloud. A project may be given with or without `projects/` in front, and a service
account by its id or by its full address.
-/

namespace CloudIdentity.Gcp

/-- The project that a tenant id names. -/
def projectId (tenantId : String) : String := Text.without "projects/" tenantId

/-- The address of a service account; a name with an `@` is an address already. -/
def serviceAccountEmail (identity project : String) : String :=
  if Text.contains '@' identity then identity
  else identity ++ "@" ++ project ++ ".iam.gserviceaccount.com"

def projectName (project : String) : String := "projects/" ++ project

/-- The full name of a service account. -/
def accountName (identity project : String) : String :=
  projectName project ++ "/serviceAccounts/" ++ serviceAccountEmail identity project

def serviceAccountMember (email : String) : String := "serviceAccount:" ++ email

/-- A principal as a member of a binding. What has a colon says its type itself. -/
def principalMember (principal : String) : String :=
  if Text.contains ':' principal then principal
  else if Text.ends ".gserviceaccount.com" principal then serviceAccountMember principal
  else "user:" ++ principal

end CloudIdentity.Gcp

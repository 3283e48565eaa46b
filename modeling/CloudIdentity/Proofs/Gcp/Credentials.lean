import CloudIdentity.Client.Opening
import CloudIdentity.InMemory.Gcp
import CloudIdentity.Proofs.Configuration.Reading
import CloudIdentity.Proofs.Service.Calls

/-!
Where the credentials of the Google Cloud clients come from. A credentials object in the
configuration makes a key file irrelevant, since the file is not even looked for. A session's token
goes before both, but only when the clients are made: by then a key file that is configured has been
looked for and loaded, and the opening has failed if it could not be.
-/

namespace CloudIdentity.Gcp

open Document Validation

variable {env env' : Environment} {members members' : Members} {c : Configuration}
  {credentials : Option Credentials} {path path' : Option String}

/-! ## Connecting -/

/-- A client for Google Cloud with a configuration. -/
def openConfigured (c : Configuration) : Action interface (Opened interface Handle) := do
  let handle ← connect c
  pure ⟨adapter, handle⟩

/-- Of a configuration the clients are made with the credentials that it leads to and the endpoint,
and the region is kept. -/
theorem openConfigured_congr {c' : Configuration}
    (hcredentials : resolveCredentials c = resolveCredentials c')
    (hendpoint : endpoint? c = endpoint? c') (hregion : c.region = c'.region) :
    openConfigured c = openConfigured c' := by
  rw [openConfigured, openConfigured, connect, connect, hcredentials]
  generalize resolveCredentials c' = resolved
  -- The type of the second client's answer names the endpoint, which rules out rewriting.
  generalize endpoint? c = endpoint at hendpoint ⊢
  generalize c.region = region at hregion ⊢
  subst hendpoint hregion
  congr 2
  funext credentials
  congr 2
  funext _
  congr 1
  funext answer
  cases answer <;> rfl

/-- Opens a client with credentials that are there, whichever ones the configuration has. -/
def connecting (credentials : Option Credentials) (c : Configuration) :
    Action interface (Opened interface Handle) :=
  openConfigured { region := c.region, endpoint := c.endpoint, credentials := credentials }

/-- If the credentials can be had without a call, they are what the clients are made with. -/
theorem openConfigured_eq_connecting (h : resolveCredentials c = pure credentials) :
    openConfigured c = connecting credentials c :=
  openConfigured_congr h rfl rfl

/-- A client is made with these credentials, if the call makes one. -/
def MadeWith (credentials : Option Credentials) : Call → Prop
  | .connect _ given _ => given = credentials
  | _ => True

/-- Both clients are made with the credentials. -/
theorem calls_connecting : (connecting credentials c).run.Calls (MadeWith credentials) := by
  have hgiven :
      resolveCredentials { region := c.region, endpoint := c.endpoint, credentials := credentials } =
        pure credentials :=
    rfl
  rw [connecting, openConfigured, connect, hgiven, pure_bind]
  have hask (client : Client) (endpoint : Option String) :
      (ask (.connect client credentials endpoint)).run.Calls (MadeWith credentials) :=
    ⟨rfl, fun _ => trivial⟩
  refine Action.calls_bind ?_ fun _ => trivial
  refine Action.calls_bind (hask .projects _) fun _ => ?_
  refine Action.calls_bind (Action.calls_attempt (hask .accounts _)) fun answer => ?_
  cases answer with
  | ok _ => trivial
  | error f =>
    -- Only the first client is there to be closed.
    constructor
    · trivial
    · intro closed
      cases closed <;> trivial

/-! ## Key files -/

/-- Looks for a key file and loads it, where there is a path, without a use for what it holds. -/
def loadUnused (env : Environment) (path : Option String) : Action interface Unit := do
  let _ ← Configuration.load env { credentialsPath := path }
  pure ()

namespace Configuration

theorem load_given {given : Credentials} (h : c.credentials = some given) :
    load env c = pure c := by
  rw [load, keyPath?, h]

/-- To load a key file changes nothing but the credentials, and depends on nothing but its path. -/
theorem load_eq_map (h : c.credentials = none) :
    load env c = (fun loaded => { c with credentials := loaded.credentials }) <$>
      load env { credentialsPath := c.credentialsPath } := by
  obtain ⟨region, endpoint, _, path, override⟩ := c
  subst h
  have hpath : keyPath? ⟨region, endpoint, none, path, override⟩ =
      keyPath? { credentialsPath := path } := rfl
  unfold load
  rw [hpath]
  cases keyPath? { credentialsPath := path } with
  | none => rw [map_pure]
  | some file =>
    dsimp only
    split
    · rw [map_bind]
      congr 1
      funext answer
      cases answer <;> rfl
    · rfl

theorem load_bind_congr {β : Type} (next next' : Configuration → Action interface β)
    (h : ∀ credentials, next { c with credentials } = next' { c with credentials }) :
    load env c >>= next = load env c >>= next' := by
  cases hcredentials : c.credentials with
  | some given =>
    rw [load_given hcredentials, pure_bind, pure_bind]
    exact h c.credentials
  | none => simp only [load_eq_map hcredentials, bind_map_left, h]

/-- What does not depend on the credentials happens after the key file is loaded. -/
theorem load_bind_eq {β : Type} (next : Configuration → Action interface β)
    (hcredentials : c.credentials = none)
    (h : ∀ credentials, next { c with credentials } = next c) :
    load env c >>= next = loadUnused env c.credentialsPath >>= fun _ => next c := by
  simp only [load_eq_map hcredentials, bind_map_left, h, loadUnused, bind_assoc, pure_bind]

/-! ## Reading -/

/-- The path of the key file: the variable's, where the configuration has none that counts. -/
def pathInEffect (env : Environment) (path : Option String) : Option String :=
  if given path then path else env.value "GOOGLE_APPLICATION_CREDENTIALS"

theorem complete_eq :
    complete env members = members.ensure "credentials_path"
      (.ofText (env.value "GOOGLE_APPLICATION_CREDENTIALS")) := rfl

theorem get_complete_path (h : members.get "credentials_path" = .ofText path) :
    (complete env members).get "credentials_path" = .ofText (pathInEffect env path) := by
  rw [complete_eq, Members.get_ensure_self, h, pathInEffect]
  cases path with
  | none => rfl
  | some s => by_cases hs : s = "" <;> simp [Value.ofText, Value.truthy, given, hs]

/-- The path of the key file has no influence on how the rest of a configuration is read. -/
theorem readMembers_complete (h : members.get "credentials_path" = .ofText path) :
    readMembers (complete env members) =
      (fun c => { c with credentialsPath := pathInEffect env path }) <$>
        readMembers (members.erase "credentials_path") := by
  have hread {α : Type} {name : String} (hname : name ≠ "credentials_path")
      (read : Validation.Reader α) : (complete env members).optional name read =
        (members.erase "credentials_path").optional name read := by
    apply Members.optional_congr
    rw [complete_eq, Members.get_ensure_of_ne hname, Members.get_erase_of_ne hname]
  have hpath : (complete env members).optional "credentials_path" Reader.text =
      .accepted (pathInEffect env path) :=
    Members.optional_text_eq_accepted_iff.mpr (get_complete_path h)
  have hnone : (members.erase "credentials_path").optional "credentials_path" Reader.text =
      .accepted none :=
    Members.optional_text_eq_accepted_iff.mpr Members.get_erase_self
  have hstrangers : Members.strangers fieldNames (complete env members) =
      Members.strangers fieldNames (members.erase "credentials_path") := by
    rw [complete_eq, Members.strangers_ensure (by decide), Members.strangers_erase (by decide)]
  rw [readMembers, readMembers, Members.map_closed, hpath, hnone, hread (by decide),
    hread (by decide), hread (by decide), hread (by decide)]
  apply Members.closed_congr hstrangers
  generalize (members.erase "credentials_path").optional "region" Reader.text = region
  generalize (members.erase "credentials_path").optional "endpoint" Reader.text = endpoint
  generalize (members.erase "credentials_path").optional "credentials" readCredentials = credentials
  generalize (members.erase "credentials_path").optional "credentials_overrider"
    CredentialsOverride.read = override
  cases region <;> cases endpoint <;> cases credentials <;> cases override <;> rfl

/-- A configuration has the credentials object, if any, and the override that its members give. -/
structure ReadFrom (c : Configuration) (members : Members) : Prop where
  given : members.get "credentials" ≠ .null →
    c.credentials = some (.given (members.get "credentials"))
  absent : members.get "credentials" = .null → c.credentials = none
  override : members.optional "credentials_overrider" CredentialsOverride.read =
    .accepted c.credentialsOverride

theorem readFrom_of_readMembers (h : readMembers members = .accepted c) : c.ReadFrom members := by
  rw [readMembers, Members.closed_eq_accepted_iff] at h
  simp only [Checked.seq_eq_accepted_iff, Checked.map_eq_accepted_iff] at h
  obtain ⟨_, _, _, ⟨_, _, ⟨_, credentials, ⟨_, _, ⟨_, _, rfl⟩, _, rfl⟩, hcredentials, rfl⟩, _, rfl⟩,
    hoverride, rfl⟩ := h
  rw [Members.optional_eq_accepted_iff] at hcredentials
  refine ⟨fun hgiven => ?_, fun hnull => ?_, hoverride⟩
  · cases hvalue : members.get "credentials" with
    | null => exact absurd hvalue hgiven
    | _ =>
      rw [hvalue] at hcredentials
      exact (Checked.accepted.inj hcredentials).symm
  · rw [hnull] at hcredentials
    exact (Checked.accepted.inj hcredentials).symm

/-- The path of the key file is another member. -/
theorem readFrom_of_erase (h : readMembers (members.erase "credentials_path") = .accepted c) :
    c.ReadFrom members := by
  have hget {name : String} (hname : name ≠ "credentials_path") :
      (members.erase "credentials_path").get name = members.get name :=
    Members.get_erase_of_ne hname
  obtain ⟨hgiven, habsent, hoverride⟩ := readFrom_of_readMembers h
  rw [hget (by decide)] at hgiven habsent
  rw [Members.optional_congr _ (hget (by decide))] at hoverride
  exact ⟨hgiven, habsent, hoverride⟩

end Configuration

/-! ## Opening -/

/-- By then the path of the key file does not matter. -/
theorem openConfigured_path :
    openConfigured { c with credentialsPath := path } = openConfigured c :=
  openConfigured_congr rfl rfl rfl

/-- A session's token is what the clients are made with, whatever else there is. -/
theorem openConfigured_of_session {o : CredentialsOverride} (h : c.credentialsOverride = some o)
    (hkind : o.kind = .session) :
    openConfigured c = connecting (some (.token o.sessionToken)) c := by
  apply openConfigured_eq_connecting
  rw [resolveCredentials, h]
  simp only [hkind]

/-- With a credentials object no key file is looked for. -/
theorem load_given_bind {given : Credentials} (h : c.credentials = some given) :
    Configuration.load env { c with credentialsPath := path } >>= openConfigured =
      openConfigured c := by
  have hload : Configuration.load env { c with credentialsPath := path } =
      pure { c with credentialsPath := path } :=
    Configuration.load_given h
  rw [hload, pure_bind, openConfigured_path]

/-- With a session's token and no credentials object the key file is loaded first. -/
theorem load_session_bind {o : CredentialsOverride} (hnone : c.credentials = none)
    (hoverride : c.credentialsOverride = some o) (hkind : o.kind = .session) :
    Configuration.load env { c with credentialsPath := path } >>= openConfigured =
      loadUnused env path >>= fun _ => connecting (some (.token o.sessionToken)) c := by
  let c' : Configuration := { c with credentialsPath := path }
  have hsession (credentials : Option Credentials) :
      openConfigured { c' with credentials } = connecting (some (.token o.sessionToken)) c :=
    openConfigured_of_session hoverride hkind
  have hload : Configuration.load env c' >>= openConfigured =
      loadUnused env c'.credentialsPath >>= fun _ => openConfigured c' := by
    have hnone' : c'.credentials = none := hnone
    apply Configuration.load_bind_eq openConfigured hnone'
    intro credentials
    rw [hsession credentials, ← hsession c'.credentials]
  rw [hload, ← hsession c'.credentials]

theorem openClient_eq :
    openClient env members = Configuration.validate env members >>= openConfigured := rfl

/-- The key file is loaded for what was read from the other members, if that was accepted. -/
theorem openClient_of_accepted (hpath : members.get "credentials_path" = .ofText path)
    (h : Configuration.readMembers (members.erase "credentials_path") = .accepted c) :
    openClient env members =
      Configuration.load env { c with credentialsPath := Configuration.pathInEffect env path } >>=
        openConfigured := by
  rw [openClient_eq, Configuration.validate, Configuration.readMembers_complete hpath, h]
  rfl

theorem openClient_of_refused {complaints : List Complaint}
    (hpath : members.get "credentials_path" = .ofText path)
    (h : Configuration.readMembers (members.erase "credentials_path") = .refused complaints) :
    openClient env members = Action.fail (Failure.refused Configuration.title complaints) := by
  rw [openClient_eq, Configuration.validate, Configuration.readMembers_complete hpath, h]
  rfl

/-! ## Sources that do not count -/

/-- Members that agree on everything but the path of the key file, which is a text or absent. -/
structure DifferInPath (members members' : Members) (path path' : Option String) : Prop where
  first : members.get "credentials_path" = .ofText path
  second : members'.get "credentials_path" = .ofText path'
  rest : members.erase "credentials_path" = members'.erase "credentials_path"

/-- Both openings are refused alike, or both go on with one configuration, each with a path of its
own in it. -/
theorem DifferInPath.openClient_cases (differ : DifferInPath members members' path path')
    (env env' : Environment) :
    (∃ f, openClient env members = Action.fail f ∧ openClient env' members' = Action.fail f) ∨
      ∃ c : Configuration, c.ReadFrom members ∧
        openClient env members = Configuration.load env
          { c with credentialsPath := Configuration.pathInEffect env path } >>= openConfigured ∧
        openClient env' members' = Configuration.load env'
          { c with credentialsPath := Configuration.pathInEffect env' path' } >>=
            openConfigured := by
  cases hread : Configuration.readMembers (members.erase "credentials_path") with
  | accepted c =>
    have hread' := differ.rest ▸ hread
    right
    exact ⟨c, Configuration.readFrom_of_erase hread, openClient_of_accepted differ.first hread,
      openClient_of_accepted differ.second hread'⟩
  | refused complaints =>
    have hread' := differ.rest ▸ hread
    left
    exact ⟨_, openClient_of_refused differ.first hread, openClient_of_refused differ.second hread'⟩

/-- Without an override, a credentials object is what the clients are made with. -/
theorem openConfigured_of_given (h : c.ReadFrom members)
    (hgiven : members.get "credentials" ≠ .null)
    (hoverride : members.get "credentials_overrider" = .null) :
    openConfigured c = connecting (some (.given (members.get "credentials"))) c := by
  have hread := Members.optional_eq_accepted_iff.mp h.override
  rw [hoverride] at hread
  have hnone : c.credentialsOverride = none := (Checked.accepted.inj hread).symm
  apply openConfigured_eq_connecting
  rw [resolveCredentials, hnone, ← h.given hgiven]

/-- What a higher source of credentials leaves to the lower ones. With a credentials object, neither
the path of the key file nor the environment has any influence, and without an override the object
is what both clients are made with. With a session and no such object, both openings fail alike, or
both make the clients with the session's token and go on alike; but before that, each has looked for
a key file of its own and loaded it, and has failed if it could not. -/
theorem lower_sources_only_loaded {members members' : Members} {path path' : Option String}
    (differ : DifferInPath members members' path path') (env env' : Environment) :
    (members.get "credentials" ≠ .null →
      openClient env members = openClient env' members' ∧
      (members.get "credentials_overrider" = .null →
        (∃ f, openClient env members = Action.fail f) ∨
          ∃ c, openClient env members =
            connecting (some (.given (members.get "credentials"))) c)) ∧
    (∀ session : Members, members.get "credentials" = .null →
      members.get "credentials_overrider" = .object session → session.get "type" = .str "session" →
      (∃ f, openClient env members = Action.fail f ∧ openClient env' members' = Action.fail f) ∨
        ∃ token c, session.get "session_token" = .ofText token ∧
          openClient env members =
            (loadUnused env (Configuration.pathInEffect env path) >>= fun _ =>
              connecting (some (.token token)) c) ∧
          openClient env' members' =
            (loadUnused env' (Configuration.pathInEffect env' path') >>= fun _ =>
              connecting (some (.token token)) c)) ∧
    ∀ credentials c, (connecting credentials c).run.Calls (MadeWith credentials) := by
  obtain ⟨f, hfirst, hsecond⟩ | ⟨c, hread, hfirst, hsecond⟩ := differ.openClient_cases env env'
  · refine ⟨fun _ => ⟨?_, fun _ => ?_⟩, fun _ _ _ _ => ?_, fun _ _ => calls_connecting⟩
    · rw [hfirst, hsecond]
    · exact Or.inl ⟨f, hfirst⟩
    · exact Or.inl ⟨f, hfirst, hsecond⟩
  · refine ⟨fun hgiven => ⟨?_, fun hoverride => ?_⟩, fun session hnull hoverride hsession => ?_,
      fun _ _ => calls_connecting⟩
    · rw [hfirst, hsecond, load_given_bind (hread.given hgiven),
        load_given_bind (hread.given hgiven)]
    · right
      apply Exists.intro c
      rw [hfirst, load_given_bind (hread.given hgiven),
        openConfigured_of_given hread hgiven hoverride]
    · obtain ⟨o, ho, hfrom⟩ := CredentialsOverride.readFrom_of_optional hread.override hoverride
      have hkind := hfrom.kind_eq_session hsession
      rw [load_session_bind (hread.absent hnull) ho hkind] at hfirst hsecond
      exact Or.inr ⟨o.sessionToken, c, hfrom.sessionToken, hfirst, hsecond⟩

/-- A credentials object is used although the path next to it leads nowhere. A session's token is
used, with the path of a key file as well as without one, but the file is loaded first. -/
theorem lower_sources_only_loaded_next_to_path :
    let env : Environment :=
      { value := fun _ => none, fileExists := fun file => file == "key.json" }
    let object : Members := [("credentials", .foreign "creds")]
    let session : Members := [("type", .str "session"), ("session_token", .str "tok")]
    let overridden : Members := [("credentials_overrider", .object session)]
    let located (path : String) (members : Members) : Members :=
      ("credentials_path", .str path) :: members
    openClient env object = openClient env (located "missing.json" object) ∧
      ∃ c, openClient env overridden = connecting (some (.token (some "tok"))) c ∧
        openClient env (located "key.json" overridden) =
          (loadUnused env (some "key.json") >>= fun _ =>
            connecting (some (.token (some "tok"))) c) := by
  intro env object session overridden located
  have hobject : DifferInPath object (located "missing.json" object) none (some "missing.json") :=
    ⟨rfl, rfl, rfl⟩
  have hsession : DifferInPath overridden (located "key.json" overridden) none (some "key.json") :=
    ⟨rfl, rfl, rfl⟩
  obtain ⟨hsame, _⟩ := (lower_sources_only_loaded hobject env env).1 nofun
  obtain ⟨f, hfailed, _⟩ | ⟨token, c, htoken, hfirst, hsecond⟩ :=
    (lower_sources_only_loaded hsession env env).2.1 session rfl rfl rfl
  · have hopened : ((openClient env overridden).run.run InMemory.Gcp.service {}).result =
        .ok ⟨adapter, true, true, none⟩ := rfl
    rw [hfailed] at hopened
    cases hopened
  · obtain rfl : some "tok" = token := Value.ofText_inj.mp htoken
    exact ⟨hsame, c, hfirst, hsecond⟩

/-- A session's token opens a client, and an environment in which a key file is missing keeps the
same configuration from being opened. -/
theorem session_fails_without_key_file :
    let members : Members := [("credentials_overrider",
      .object [("type", .str "session"), ("session_token", .str "tok")])]
    let bare : Environment := { value := fun _ => none, fileExists := fun _ => false }
    let stale : Environment :=
      { bare with
        value := fun name =>
          if name = "GOOGLE_APPLICATION_CREDENTIALS" then some "missing.json" else none }
    ((openClient bare members).run.run InMemory.Gcp.service {}).result =
        .ok ⟨adapter, true, true, none⟩ ∧
      (∃ c, openClient bare members = connecting (some (.token (some "tok"))) c) ∧
      openClient stale members = Action.fail
        (Configuration.broken "Credentials file not found: missing.json") := by
  intro members bare stale
  let o : CredentialsOverride := { kind := .session, sessionToken := some "tok" }
  let c : Configuration := { credentialsOverride := some o }
  have hread : Configuration.readMembers (members.erase "credentials_path") = .accepted c := rfl
  have hpath : members.get "credentials_path" = .ofText none := rfl
  have hload (env : Environment) : openClient env members =
      loadUnused env (Configuration.pathInEffect env none) >>= fun _ =>
        connecting (some (.token (some "tok"))) c := by
    rw [openClient_of_accepted hpath hread, load_session_bind rfl rfl rfl]
  refine ⟨rfl, ⟨c, ?_⟩, ?_⟩
  · rw [hload]
    rfl
  · rw [hload]
    rfl

end CloudIdentity.Gcp

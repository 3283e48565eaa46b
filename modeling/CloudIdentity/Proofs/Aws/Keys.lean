import CloudIdentity.Client.Opening
import CloudIdentity.Proofs.Configuration.Reading

/-!
Where the keys of a connection to AWS come from. There are two sources, the configuration and the
environment, and each part of the keys is taken by itself from the first one that has it. So keys
stem from a single source only where the environment has nothing to add, or nothing different; and
of the environment nothing matters but the variables of the parts that the configuration leaves out.
-/

namespace CloudIdentity.Aws

open Document Validation

/-! ## Parts and sources -/

/-- The parts of which keys are made up. -/
inductive KeyPart where
  | accessKeyId
  | secretAccessKey
  | sessionToken

namespace KeyPart

/-- The member that gives a part in a configuration. -/
def member : KeyPart → String
  | accessKeyId => "aws_access_key_id"
  | secretAccessKey => "aws_secret_access_key"
  | sessionToken => "aws_session_token"

/-- The variable that gives a part in the environment. -/
def variableName : KeyPart → String
  | accessKeyId => "AWS_ACCESS_KEY_ID"
  | secretAccessKey => "AWS_SECRET_ACCESS_KEY"
  | sessionToken => "AWS_SESSION_TOKEN"

end KeyPart

def Keys.part (keys : Keys) : KeyPart → Value
  | .accessKeyId => keys.accessKeyId
  | .secretAccessKey => keys.secretAccessKey
  | .sessionToken => keys.sessionToken

theorem Keys.eq_iff_part {keys keys' : Keys} :
    keys = keys' ↔ ∀ part, keys.part part = keys'.part part := by
  constructor
  · rintro rfl part
    rfl
  · intro h
    obtain ⟨accessKeyId, secretAccessKey, sessionToken⟩ := keys
    have haccess := h .accessKeyId
    have hsecret := h .secretAccessKey
    have htoken := h .sessionToken
    simp only [part] at haccess hsecret htoken
    rw [haccess, hsecret, htoken]

/-- A configuration gives a part of the keys. An empty one is not given. -/
def Gives (members : Members) (part : KeyPart) : Prop := (members.get part.member).truthy = true

instance (members : Members) (part : KeyPart) : Decidable (Gives members part) :=
  inferInstanceAs (Decidable (_ = true))

/-- What keys can be taken from. -/
inductive KeySource where
  | configuration
  | environment

variable {env env' : Environment} {members : Members} {part : KeyPart}

/-- What a source has for a part: null where it has nothing. -/
def KeySource.value (env : Environment) (members : Members) : KeySource → KeyPart → Value
  | configuration, part => if Gives members part then members.get part.member else .null
  | environment, part => .ofText (env.value part.variableName)

/-- The source that a part is taken from: the first one that has it, as long as there is one. -/
def preferred (members : Members) (part : KeyPart) : KeySource :=
  if Gives members part then .configuration else .environment

theorem value_preferred :
    (preferred members part).value env members part =
      if Gives members part then members.get part.member
      else .ofText (env.value part.variableName) := by
  unfold preferred
  split
  · next h => rw [KeySource.value, if_pos h]
  · rfl

/-- The keys, each part taken from the source that is preferred for it. -/
def resolvedKeys (env : Environment) (members : Members) : Keys :=
  let value part := (preferred members part).value env members part
  ⟨value .accessKeyId, value .secretAccessKey, value .sessionToken⟩

theorem part_resolvedKeys :
    (resolvedKeys env members).part part = (preferred members part).value env members part := by
  cases part <;> rfl

/-- Every part of the keys is what one source has for it. -/
def Keys.StemFrom (keys : Keys) (env : Environment) (members : Members) (source : KeySource) :
    Prop :=
  ∀ part, keys.part part = source.value env members part

theorem stemFrom_configuration_iff :
    (resolvedKeys env members).StemFrom env members .configuration ↔
      ∀ part, ¬ Gives members part → env.value part.variableName = none := by
  apply forall_congr'
  intro part
  rw [part_resolvedKeys, value_preferred, KeySource.value]
  by_cases h : Gives members part
  · simp [h]
  · cases env.value part.variableName <;> simp [h, Value.ofText]

theorem stemFrom_environment_iff :
    (resolvedKeys env members).StemFrom env members .environment ↔
      ∀ part, Gives members part →
        members.get part.member = .ofText (env.value part.variableName) := by
  apply forall_congr'
  intro part
  rw [part_resolvedKeys, value_preferred, KeySource.value]
  by_cases h : Gives members part <;> simp [h]

/-- Keys stem from a single source just where the environment has nothing for what the configuration
leaves out, or the same as the configuration for what that gives. -/
theorem exists_stemFrom_iff :
    (∃ source, (resolvedKeys env members).StemFrom env members source) ↔
      (∀ part, ¬ Gives members part → env.value part.variableName = none) ∨
        ∀ part, Gives members part →
          members.get part.member = .ofText (env.value part.variableName) := by
  rw [← stemFrom_configuration_iff, ← stemFrom_environment_iff]
  constructor
  · rintro ⟨source, h⟩
    cases source with
    | configuration => exact Or.inl h
    | environment => exact Or.inr h
  · rintro (h | h)
    · exact ⟨.configuration, h⟩
    · exact ⟨.environment, h⟩

/-- The environment matters just for what the configuration leaves out. -/
theorem resolvedKeys_eq_iff :
    resolvedKeys env' members = resolvedKeys env members ↔
      ∀ part, ¬ Gives members part →
        env'.value part.variableName = env.value part.variableName := by
  rw [Keys.eq_iff_part]
  apply forall_congr'
  intro part
  rw [part_resolvedKeys, part_resolvedKeys, value_preferred, value_preferred]
  by_cases h : Gives members part
  · simp [h]
  · rw [if_neg h, if_neg h, Value.ofText_inj]
    simp [h]

/-! ## Completed members -/

namespace Configuration

variable {other : String}

theorem complete_eq :
    complete env members =
      (members.ensure "aws_access_key_id" (.ofText (env.value "AWS_ACCESS_KEY_ID"))
        |>.ensure "aws_secret_access_key" (.ofText (env.value "AWS_SECRET_ACCESS_KEY"))
        |>.ensure "aws_session_token" (.ofText (env.value "AWS_SESSION_TOKEN"))
        |>.ensure "region_name" (.ofText (env.value "AWS_DEFAULT_REGION"))
        |>.ensure "region_name" (.str defaultRegion)) := rfl

/-- To complete members adds none that are not known. -/
theorem strangers_complete :
    Members.strangers fieldNames (complete env members) = Members.strangers fieldNames members := by
  simp (disch := decide) only [complete_eq, Members.strangers_ensure]

theorem get_complete_member (env : Environment) (members : Members) (part : KeyPart) :
    (complete env members).get part.member = (preferred members part).value env members part := by
  rw [value_preferred, complete_eq]
  cases part <;>
    simp (disch := decide) only [KeyPart.member, Members.get_ensure_of_ne,
      Members.get_ensure_self] <;>
    rfl

/-- The region where the configuration names none. -/
def ambientRegion (env : Environment) : String :=
  ((env.value "AWS_DEFAULT_REGION").filter (· != "")).getD defaultRegion

theorem get_complete_region :
    (complete env members).get "region_name" =
      if (members.get "region_name").truthy then members.get "region_name"
      else .str (ambientRegion env) := by
  simp (disch := decide) only [complete_eq, Members.get_ensure_of_ne, Members.get_ensure_self]
  by_cases h : (members.get "region_name").truthy
  · simp only [h, if_true]
  · simp only [h]
    unfold ambientRegion
    cases env.value "AWS_DEFAULT_REGION" with
    | none => rfl
    | some s => by_cases hs : s = "" <;> simp [Value.ofText, Value.truthy, Option.filter, hs]

/-- Where one environment leaves a region that can be read, every other one does. -/
theorem exists_region {region : Option String}
    (h : (complete env members).get "region_name" = .ofText region) (env' : Environment) :
    ∃ region', (complete env' members).get "region_name" = .ofText region' := by
  rw [get_complete_region] at h ⊢
  split
  · next hgiven =>
    rw [if_pos hgiven] at h
    exact ⟨region, h⟩
  · exact ⟨some (ambientRegion env'), rfl⟩

theorem get_complete_of_ne (h : other ∉ ["aws_access_key_id", "aws_secret_access_key",
    "aws_session_token", "region_name"]) :
    (complete env members).get other = members.get other := by
  simp only [List.mem_cons, List.not_mem_nil, or_false, not_or] at h
  obtain ⟨haccess, hsecret, htoken, hregion⟩ := h
  rw [complete_eq, Members.get_ensure_of_ne hregion, Members.get_ensure_of_ne hregion,
    Members.get_ensure_of_ne htoken, Members.get_ensure_of_ne hsecret,
    Members.get_ensure_of_ne haccess]

/-! ## Accepted configurations -/

/-- A configuration is what its members give in an environment. -/
structure ReadFrom (c : Configuration) (env : Environment) (members : Members) : Prop where
  known : ∀ m ∈ members, m.1 ∈ fieldNames
  keys : configuredKeys c = resolvedKeys env members
  region : (complete env members).get "region_name" = .ofText c.regionName
  endpoint : members.get "endpoint_url" = .ofText c.endpointUrl
  override : members.optional "credentials_overrider" CredentialsOverride.read =
    .accepted c.credentialsOverride

/-- The keys of a configuration are the resolved ones if each part was read from its member. -/
theorem configuredKeys_eq_resolvedKeys_iff {c : Configuration} :
    configuredKeys c = resolvedKeys env members ↔
      (complete env members).get "aws_access_key_id" = .ofText c.accessKeyId ∧
        (complete env members).get "aws_secret_access_key" = .ofText c.secretAccessKey ∧
        (complete env members).get "aws_session_token" = .ofText c.sessionToken := by
  have haccess := get_complete_member env members .accessKeyId
  have hsecret := get_complete_member env members .secretAccessKey
  have htoken := get_complete_member env members .sessionToken
  simp only [KeyPart.member] at haccess hsecret htoken
  rw [haccess, hsecret, htoken, eq_comm, configuredKeys, resolvedKeys, Keys.mk.injEq]

theorem validate_eq_ok_iff {c : Configuration} :
    validate env members = .ok c ↔ c.ReadFrom env members := by
  have hread : validate env members = .ok c ↔ readMembers (complete env members) = .accepted c := by
    unfold validate
    cases readMembers (complete env members) <;> simp
  have hendpoint : (complete env members).get "endpoint_url" = members.get "endpoint_url" :=
    get_complete_of_ne (by decide)
  have hoverride :
      (complete env members).optional "credentials_overrider" CredentialsOverride.read =
        members.optional "credentials_overrider" CredentialsOverride.read :=
    Members.optional_congr _ (get_complete_of_ne (by decide))
  rw [hread, readMembers, Members.closed_eq_accepted_iff, ← Members.strangers_eq_nil_iff,
    strangers_complete, Members.strangers_eq_nil_iff]
  simp only [Checked.seq_eq_accepted_iff, Checked.map_eq_accepted_iff,
    Members.optional_text_eq_accepted_iff, hendpoint, hoverride]
  constructor
  · rintro ⟨hknown, _, override, ⟨_, endpoint, ⟨_, region, ⟨_, token, ⟨_, secret, ⟨key, hkey, rfl⟩,
      hsecret, rfl⟩, htoken, rfl⟩, hregion, rfl⟩, hendpoint, rfl⟩, hoverride, rfl⟩
    refine ⟨hknown, ?_, hregion, hendpoint, hoverride⟩
    exact configuredKeys_eq_resolvedKeys_iff.mpr ⟨hkey, hsecret, htoken⟩
  · rintro ⟨hknown, hkeys, hregion, hendpoint, hoverride⟩
    obtain ⟨hkey, hsecret, htoken⟩ := configuredKeys_eq_resolvedKeys_iff.mp hkeys
    exact ⟨hknown, _, _, ⟨_, _, ⟨_, _, ⟨_, _, ⟨_, _, ⟨_, hkey, rfl⟩, hsecret, rfl⟩, htoken, rfl⟩,
      hregion, rfl⟩, hendpoint, rfl⟩, hoverride, rfl⟩

end Configuration

/-! ## Connecting -/

/-- Opens a client with keys that are there. -/
def connecting (keys : Keys) (region endpoint : Option String) :
    Action interface (Opened interface Handle) := do
  let _ : Unit ← ask (.connect keys region endpoint)
  pure ⟨adapter, true, region⟩

/-- If the keys can be had without a call, they are what the client is opened with. -/
theorem openClient_eq_connecting {c : Configuration} {keys : Keys}
    (h : Configuration.validate env members = .ok c) (hkeys : resolveKeys c = pure keys) :
    openClient env members = connecting keys c.regionName c.endpointUrl := by
  rw [openClient, h, Action.ofExcept, pure_bind, connect, hkeys, pure_bind, bind_assoc]
  rfl

theorem openClient_without_override {c : Configuration} (h : c.ReadFrom env members)
    (hoverride : c.credentialsOverride = none) :
    openClient env members =
      connecting (resolvedKeys env members) c.regionName c.endpointUrl := by
  apply openClient_eq_connecting (Configuration.validate_eq_ok_iff.mpr h)
  rw [resolveKeys, hoverride, h.keys]

theorem exists_text_of_configuredKeys (c : Configuration) (part : KeyPart) :
    ∃ text, (configuredKeys c).part part = .ofText text := by
  cases part with
  | accessKeyId => exact ⟨c.accessKeyId, rfl⟩
  | secretAccessKey => exact ⟨c.secretAccessKey, rfl⟩
  | sessionToken => exact ⟨c.sessionToken, rfl⟩

/-- Members that are accepted in one environment are accepted in every other one, since all that an
environment adds is texts. -/
theorem Configuration.ReadFrom.exists_elsewhere {c : Configuration} (h : c.ReadFrom env members)
    (env' : Environment) :
    ∃ c' : Configuration, c'.ReadFrom env' members ∧ c'.endpointUrl = c.endpointUrl ∧
      c'.credentialsOverride = c.credentialsOverride := by
  have htext (part : KeyPart) : ∃ text, (resolvedKeys env' members).part part = .ofText text := by
    rw [part_resolvedKeys, value_preferred]
    split
    · next hgives =>
      obtain ⟨text, hpart⟩ := exists_text_of_configuredKeys c part
      rw [h.keys, part_resolvedKeys, value_preferred, if_pos hgives] at hpart
      exact ⟨text, hpart⟩
    · exact ⟨_, rfl⟩
  obtain ⟨key, hkey⟩ := htext .accessKeyId
  obtain ⟨secret, hsecret⟩ := htext .secretAccessKey
  obtain ⟨token, htoken⟩ := htext .sessionToken
  obtain ⟨region, hregion⟩ := exists_region h.region env'
  let c' : Configuration := ⟨key, secret, token, region, c.endpointUrl, c.credentialsOverride⟩
  have hkeys : configuredKeys c' = resolvedKeys env' members := by
    rw [Keys.eq_iff_part]
    intro part
    cases part with
    | accessKeyId => exact hkey.symm
    | secretAccessKey => exact hsecret.symm
    | sessionToken => exact htoken.symm
  exact ⟨c', ⟨h.known, hkeys, hregion, h.endpoint, h.override⟩, rfl, rfl⟩

/-- Without an override, keys are taken part by part: from the configuration what it gives, and the
rest from the environment. They stem from a single source just where the environment has nothing
for what the configuration leaves out, or the same for what it gives. In another environment the
client is opened as well; it may be made with another region, and it is made with the same keys just
if the variables of the parts left out are the same. -/
theorem keys_resolved_by_part {env : Environment} {members : Members} {c : Configuration}
    (h : Configuration.validate env members = .ok c) (hoverride : c.credentialsOverride = none) :
    openClient env members =
        connecting (resolvedKeys env members) c.regionName c.endpointUrl ∧
      ((∃ source, (resolvedKeys env members).StemFrom env members source) ↔
        (∀ part, ¬ Gives members part → env.value part.variableName = none) ∨
          ∀ part, Gives members part →
            members.get part.member = .ofText (env.value part.variableName)) ∧
      ∀ env' : Environment,
        (∃ region, openClient env' members =
          connecting (resolvedKeys env' members) region c.endpointUrl) ∧
        (resolvedKeys env' members = resolvedKeys env members ↔
          ∀ part, ¬ Gives members part →
            env'.value part.variableName = env.value part.variableName) := by
  have hread := Configuration.validate_eq_ok_iff.mp h
  have hopened := openClient_without_override hread hoverride
  refine ⟨hopened, exists_stemFrom_iff, ?_⟩
  intro env'
  obtain ⟨c', hread', hendpoint, hsame⟩ := hread.exists_elsewhere env'
  have hopened' := openClient_without_override hread' (hsame.trans hoverride)
  rw [hendpoint] at hopened'
  exact ⟨⟨c'.regionName, hopened'⟩, resolvedKeys_eq_iff⟩

/-- All three parts are in the configuration. Two environments with other ones, and one of them with
a region, make no difference to the keys. -/
theorem keys_resolved_by_part_all_given :
    let members : Members :=
      [("aws_access_key_id", .str "A"), ("aws_secret_access_key", .str "S"),
        ("aws_session_token", .str "T")]
    let setting (values : List (String × String)) : Environment :=
      { value := fun name => values.lookup name, fileExists := fun _ => false }
    let env := setting [("AWS_SESSION_TOKEN", "other")]
    let env' := setting [("AWS_ACCESS_KEY_ID", "others"), ("AWS_DEFAULT_REGION", "eu-west-1")]
    let keys : Keys := ⟨.str "A", .str "S", .str "T"⟩
    openClient env members = connecting keys (some "us-east-1") none ∧
      (∃ source, keys.StemFrom env members source) ∧
      ∃ region, openClient env' members = connecting keys region none := by
  intro members setting env env' keys
  let c : Configuration :=
    { accessKeyId := some "A", secretAccessKey := some "S", sessionToken := some "T"
      regionName := some "us-east-1" }
  have hvalid : Configuration.validate env members = .ok c := rfl
  have hgives (part : KeyPart) : Gives members part := by
    cases part <;> decide
  obtain ⟨hopened, hstem, helsewhere⟩ := keys_resolved_by_part hvalid rfl
  have hnone : ∀ part, ¬ Gives members part → env.value part.variableName = none :=
    fun part h => absurd (hgives part) h
  exact ⟨hopened, hstem.mpr (Or.inl hnone), (helsewhere env').1⟩

/-- Both keys are in the configuration, and a token in the environment goes with them. -/
theorem keys_from_two_sources :
    let members : Members := [("aws_access_key_id", .str "A"), ("aws_secret_access_key", .str "S")]
    let bare : Environment := { value := fun _ => none, fileExists := fun _ => false }
    let env : Environment :=
      { bare with value := fun name => if name = "AWS_SESSION_TOKEN" then some "T" else none }
    let keys : Keys := ⟨.str "A", .str "S", .str "T"⟩
    openClient env members = connecting keys (some "us-east-1") none ∧
      (¬ ∃ source, keys.StemFrom env members source) ∧
      openClient bare members = connecting ⟨.str "A", .str "S", .null⟩ (some "us-east-1") none := by
  intro members bare env keys
  let c : Configuration :=
    { accessKeyId := some "A", secretAccessKey := some "S", regionName := some "us-east-1" }
  have hbare : Configuration.validate bare members = .ok c := rfl
  have hmixed : Configuration.validate env members = .ok { c with sessionToken := some "T" } := rfl
  refine ⟨openClient_eq_connecting hmixed rfl, ?_, openClient_eq_connecting hbare rfl⟩
  rintro ⟨source, h⟩
  cases source with
  | configuration => cases h .sessionToken
  | environment => cases h .accessKeyId

end CloudIdentity.Aws

import CloudIdentity.Proofs.Aws.Keys
import CloudIdentity.Proofs.Client.Release
import CloudIdentity.Proofs.Gcp.Credentials

/-!
What becomes of a session that overrides the credentials of a configuration. To be accepted it has
to hold both keys or a token, for whichever provider it is meant. Either provider is then handed
what it has a use for just as the session holds it: AWS the keys and the token, Google Cloud the
token. So the credentials are those of the session, unless it holds only what the other provider
uses; then none at all are handed on.
-/

namespace CloudIdentity

open Document

/-- A session holds both keys, or a token; none of them is empty. -/
def HoldsSession (session : Members) : Prop :=
  (∃ key secret, session.get "access_key_id" = .str key ∧ key ≠ "" ∧
    session.get "secret_access_key" = .str secret ∧ secret ≠ "") ∨
    ∃ token, session.get "session_token" = .str token ∧ token ≠ ""

variable {env : Environment} {members session : Members} {o : CredentialsOverride}

theorem CredentialsOverride.ReadFrom.holdsSession (h : o.ReadFrom session)
    (hkind : o.kind = .session) : HoldsSession session := by
  have hsufficient := h.sufficient
  simp only [Sufficient, hkind, given_iff] at hsufficient
  obtain ⟨⟨key, hkey, hkeyed⟩, secret, hsecret, hsecreted⟩ | ⟨token, htoken, htokened⟩ :=
    hsufficient
  · left
    refine ⟨key, secret, ?_, hkeyed, ?_, hsecreted⟩
    · rw [h.accessKeyId, hkey, Value.ofText]
    · rw [h.secretAccessKey, hsecret, Value.ofText]
  · right
    refine ⟨token, ?_, htokened⟩
    rw [h.sessionToken, htoken, Value.ofText]

namespace Aws

/-- The keys and the token of a session are what the client is made with. -/
theorem openClient_of_session {c : Configuration}
    (h : Configuration.validate env members = .ok c) (ho : c.credentialsOverride = some o)
    (hkind : o.kind = .session) (hread : o.ReadFrom session) :
    openClient env members = connecting
      ⟨session.get "access_key_id", session.get "secret_access_key", session.get "session_token"⟩
      c.regionName c.endpointUrl := by
  apply openClient_eq_connecting h
  rw [resolveKeys, ho, hread.accessKeyId, hread.secretAccessKey, hread.sessionToken]
  simp only [hkind]
  rfl

end Aws

namespace Gcp

/-- The token of a session is what the clients are made with, whatever a key file holds that is
loaded before that. -/
theorem openClient_eq_validate_bind {c : Configuration}
    (h : Configuration.readMembers (Configuration.complete env members) = .accepted c)
    (ho : c.credentialsOverride = some o) (hkind : o.kind = .session) :
    openClient env members =
      Configuration.validate env members >>= connecting (some (.token o.sessionToken)) := by
  have hvalidate : Configuration.validate env members = Configuration.load env c := by
    rw [Configuration.validate, h]
  rw [openClient_eq, hvalidate]
  apply Configuration.load_bind_congr
  intro credentials
  exact openConfigured_of_session ho hkind

theorem madeWith_of_neutral {credentials : Option Credentials} {c : Call} (h : clients.Neutral c) :
    MadeWith credentials c := by
  cases c with
  | connect => cases h.1
  | _ => trivial

theorem calls_validate_bind {credentials : Option Credentials} :
    (Configuration.validate env members >>= connecting credentials).run.Calls
      (MadeWith credentials) :=
  Action.calls_bind ((calls_validate env members).mono fun _ => madeWith_of_neutral) fun _ =>
    calls_connecting

end Gcp

/-- An accepted session holds both keys or a token, and each provider is handed its own part of
that, in every environment. On AWS these are the keys and the token that the session holds, and null
for what it does not hold; on Google Cloud both clients are made with the token that it holds, or
with none. -/
theorem session_handed_on {members session : Members}
    (hoverride : members.get "credentials_overrider" = .object session)
    (hsession : session.get "type" = .str "session") (env : Environment) :
    (∀ c, Aws.Configuration.validate env members = .ok c →
      HoldsSession session ∧
      Aws.openClient env members = Aws.connecting
        ⟨session.get "access_key_id", session.get "secret_access_key",
          session.get "session_token"⟩ c.regionName c.endpointUrl) ∧
    ∀ {σ : Type} (service : Service Gcp.interface σ) (state : σ) c,
      ((Gcp.Configuration.validate env members).run.run service state).result = .ok c →
      HoldsSession session ∧
      ∃ token, session.get "session_token" = .ofText token ∧
        Gcp.openClient env members =
          Gcp.Configuration.validate env members >>= Gcp.connecting (some (.token token)) ∧
        (Gcp.openClient env members).run.Calls (Gcp.MadeWith (some (.token token))) := by
  constructor
  · intro c hvalid
    have hread := (Aws.Configuration.validate_eq_ok_iff.mp hvalid).override
    obtain ⟨o, ho, hfrom⟩ := CredentialsOverride.readFrom_of_optional hread hoverride
    have hkind := hfrom.kind_eq_session hsession
    exact ⟨hfrom.holdsSession hkind, Aws.openClient_of_session hvalid ho hkind hfrom⟩
  · intro σ service state c hvalid
    cases hread : Gcp.Configuration.readMembers (Gcp.Configuration.complete env members) with
    | accepted c =>
      have hget : (Gcp.Configuration.complete env members).get "credentials_overrider" =
          .object session := by
        rw [Gcp.Configuration.complete_eq, Members.get_ensure_of_ne (by decide), hoverride]
      have hover := (Gcp.Configuration.readFrom_of_readMembers hread).override
      obtain ⟨o, ho, hfrom⟩ := CredentialsOverride.readFrom_of_optional hover hget
      have hkind := hfrom.kind_eq_session hsession
      have hopened := Gcp.openClient_eq_validate_bind hread ho hkind
      have hcalls := hopened ▸ Gcp.calls_validate_bind
      exact ⟨hfrom.holdsSession hkind, o.sessionToken, hfrom.sessionToken, hopened, hcalls⟩
    | refused complaints =>
      rw [Gcp.Configuration.validate, hread] at hvalid
      cases hvalid

/-- A session with both keys and a token, in an environment with keys of its own. Both providers are
handed what the session holds. -/
theorem session_handed_on_complete :
    let session : Members :=
      [("type", .str "session"), ("access_key_id", .str "A"), ("secret_access_key", .str "S"),
        ("session_token", .str "T")]
    let members : Members := [("credentials_overrider", .object session)]
    let env : Environment := { value := fun _ => some "ambient", fileExists := fun _ => true }
    Aws.openClient env members =
        Aws.connecting ⟨.str "A", .str "S", .str "T"⟩ (some "ambient") none ∧
      (Gcp.openClient env members).run.Calls (Gcp.MadeWith (some (.token (some "T")))) := by
  intro session members env
  have hoverride : members.get "credentials_overrider" = .object session := rfl
  have hsession : session.get "type" = .str "session" := rfl
  obtain ⟨haws, hgcp⟩ := session_handed_on hoverride hsession env
  let o : CredentialsOverride :=
    { kind := .session, accessKeyId := some "A", secretAccessKey := some "S"
      sessionToken := some "T" }
  let ambient : Option String := some "ambient"
  let forAws : Aws.Configuration := ⟨ambient, ambient, ambient, ambient, none, some o⟩
  let forGcp : Gcp.Configuration :=
    { credentials := some (.keyFile "ambient"), credentialsPath := ambient
      credentialsOverride := some o }
  have hvalid : Aws.Configuration.validate env members = .ok forAws := rfl
  have hloaded : ((Gcp.Configuration.validate env members).run.run InMemory.Gcp.service {}).result =
      .ok forGcp := rfl
  obtain ⟨_, token, htoken, _, hcalls⟩ := hgcp InMemory.Gcp.service {} forGcp hloaded
  obtain rfl : some "T" = token := Value.ofText_inj.mp htoken
  exact ⟨(haws forAws hvalid).2, hcalls⟩

/-- A session with nothing but a token opens a client for AWS without keys, and one with nothing but
keys opens a client for Google Cloud without a token. -/
theorem session_accepted_without_use :
    let env : Environment := { value := fun _ => none, fileExists := fun _ => false }
    let overridden (session : Members) : Members :=
      [("credentials_overrider", .object (("type", .str "session") :: session))]
    let withToken := overridden [("session_token", .str "T")]
    let withKeys := overridden [("access_key_id", .str "A"), ("secret_access_key", .str "S")]
    (∃ c, Aws.Configuration.validate env withToken = .ok c) ∧
      Aws.openClient env withToken =
        Aws.connecting ⟨.null, .null, .str "T"⟩ (some "us-east-1") none ∧
      ((Gcp.openClient env withKeys).run.run InMemory.Gcp.service {}).result =
        .ok ⟨Gcp.adapter, true, true, none⟩ ∧
      (Gcp.openClient env withKeys).run.Calls (Gcp.MadeWith (some (.token none))) := by
  intro env overridden withToken withKeys
  let o : CredentialsOverride := { kind := .session, sessionToken := some "T" }
  let o' : CredentialsOverride :=
    { kind := .session, accessKeyId := some "A", secretAccessKey := some "S" }
  have hvalid : Aws.Configuration.validate env withToken =
      .ok { regionName := some "us-east-1", credentialsOverride := some o } := rfl
  have hread : Gcp.Configuration.readMembers (Gcp.Configuration.complete env withKeys) =
      .accepted { credentialsOverride := some o' } := rfl
  refine ⟨⟨_, hvalid⟩, Aws.openClient_eq_connecting hvalid rfl, rfl, ?_⟩
  rw [Gcp.openClient_eq_validate_bind hread rfl rfl]
  exact Gcp.calls_validate_bind

end CloudIdentity

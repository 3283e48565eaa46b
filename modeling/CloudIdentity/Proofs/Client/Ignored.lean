import CloudIdentity.Client.Opening
import CloudIdentity.InMemory.Aws
import CloudIdentity.InMemory.Gcp
import CloudIdentity.Proofs.Client.Observation

/-!
What a provider has no use for. A request may say where it is to take effect, what a new identity is
limited to, or under which conditions it is trusted, and a provider without the concept does the
same whatever it says. Requests that agree on the rest cannot be told apart, neither by the service,
however it behaves, nor by what the caller is told. On Google Cloud a document acts through the
actions that it allows, one after another, and through nothing else.
-/

namespace CloudIdentity

open Document InMemory

/-! ## Google Cloud -/

namespace Gcp

/-- Creations that agree on what Google Cloud has a use for. The region, the options, and the
conditions of the trust may be any. -/
structure SameCreation (r r' : Request.CreateIdentity) : Prop where
  identityName : r.identityName = r'.identityName
  description : r.description = r'.description
  tenantId : r.tenantId = r'.tenantId
  trusted : r.trustConfig.map TrustConfiguration.trustedPrincipals =
    r'.trustConfig.map TrustConfiguration.trustedPrincipals

/-- Attachments that agree on what Google Cloud has a use for: of the document, the actions that it
allows, in order and with repetitions. The region may be any. -/
structure SameAttachment (r r' : Request.AttachInlinePolicy) : Prop where
  identityName : r.identityName = r'.identityName
  tenantId : r.tenantId = r'.tenantId
  resource : r.resource = r'.resource
  allowed : r.policyDocument.map PolicyDocument.allowedActions =
    r'.policyDocument.map PolicyDocument.allowedActions

/-- The members to trust are made of the principals, without a look at the conditions. -/
theorem trustedMembers_congr {trust trust' : Option TrustConfiguration}
    (h : trust.map TrustConfiguration.trustedPrincipals =
      trust'.map TrustConfiguration.trustedPrincipals) :
    trust.map trustedMembers = trust'.map trustedMembers := by
  have hfactor (t : Option TrustConfiguration) : t.map trustedMembers =
      (t.map TrustConfiguration.trustedPrincipals).map fun principals =>
        (principals.filter fun p => !Text.blank p).map fun p => principalMember (Text.strip p) := by
    rw [Option.map_map]
    rfl
  rw [hfactor, hfactor, h]

theorem SameCreation.createIdentity_eq {r r' : Request.CreateIdentity} (same : SameCreation r r')
    (h : Handle) : createIdentity h r = createIdentity h r' := by
  obtain ⟨identityName, description, tenantId, _, trust, _⟩ := r
  obtain ⟨_, _, _, _, trust', _⟩ := r'
  obtain ⟨rfl, rfl, rfl, htrusted⟩ := same
  have hgrant (email project : String) :
      grantTrusted h email project trust = grantTrusted h email project trust' := by
    rw [grantTrusted, grantTrusted, trustedMembers_congr htrusted]
  simp only [createIdentity, createAccount, hgrant]
  congr 2
  funext answer
  cases answer with
  | ok email => rfl
  | error f => rfl

/-- A document is merged into a policy by the actions that it allows. -/
theorem mergeDocument_congr {document document' : PolicyDocument}
    (h : document.allowedActions = document'.allowedActions) (p : Policy) (member : String) :
    p.mergeDocument document member = p.mergeDocument document' member := by
  rw [Policy.mergeDocument, Policy.mergeDocument, h]

theorem SameAttachment.attachInlinePolicy_eq {r r' : Request.AttachInlinePolicy}
    (same : SameAttachment r r') (h : Handle) :
    attachInlinePolicy h r = attachInlinePolicy h r' := by
  obtain ⟨identityName, document, tenantId, _, resource⟩ := r
  obtain ⟨_, document', _, _, _⟩ := r'
  obtain ⟨rfl, rfl, rfl, hallowed⟩ := same
  cases document with
  | none =>
    obtain rfl := Option.map_eq_none_iff.mp hallowed.symm
    rfl
  | some d =>
    obtain ⟨d', rfl, hd⟩ := Option.map_eq_some_iff.mp hallowed.symm
    have hmerge := mergeDocument_congr hd
    simp only [attachInlinePolicy, hmerge]
    rfl

/-- Calls of one operation that differ in nothing but what Google Cloud ignores. -/
inductive Agree : AdapterCall → AdapterCall → Prop where
  | createIdentity {r r' : Request.CreateIdentity} (same : SameCreation r r') :
      Agree (.createIdentity r) (.createIdentity r')
  | attachInlinePolicy {r r' : Request.AttachInlinePolicy} (same : SameAttachment r r') :
      Agree (.attachInlinePolicy r) (.attachInlinePolicy r')

theorem Agree.operation_eq {a a' : AdapterCall} (agree : Agree a a') :
    a.operation = a'.operation := by
  cases agree <;> rfl

theorem Agree.perform_eq {a a' : AdapterCall} (agree : Agree a a') (h : Handle) :
    a.perform adapter h = a'.perform adapter h := by
  cases agree with
  | createIdentity same => exact same.createIdentity_eq h
  | attachInlinePolicy same => exact same.attachInlinePolicy_eq h

end Gcp

/-! ## AWS -/

namespace Aws

/-- Creations that agree on all but the region. -/
structure SameCreation (r r' : Request.CreateIdentity) : Prop where
  identityName : r.identityName = r'.identityName
  description : r.description = r'.description
  tenantId : r.tenantId = r'.tenantId
  trustConfig : r.trustConfig = r'.trustConfig
  options : r.options = r'.options

/-- Attachments of one document to one role. The resource, the tenant and the region may be any. -/
structure SameAttachment (r r' : Request.AttachInlinePolicy) : Prop where
  identityName : r.identityName = r'.identityName
  policyDocument : r.policyDocument = r'.policyDocument

theorem SameCreation.createIdentity_eq {r r' : Request.CreateIdentity} (same : SameCreation r r')
    (h : Handle) : createIdentity h r = createIdentity h r' := by
  obtain ⟨identityName, description, tenantId, _, trust, options⟩ := r
  obtain ⟨_, _, _, _, _, _⟩ := r'
  obtain ⟨rfl, rfl, rfl, rfl, rfl⟩ := same
  rfl

theorem SameAttachment.attachInlinePolicy_eq {r r' : Request.AttachInlinePolicy}
    (same : SameAttachment r r') (h : Handle) :
    attachInlinePolicy h r = attachInlinePolicy h r' := by
  rw [attachInlinePolicy, attachInlinePolicy, same.identityName, same.policyDocument]

/-- Calls of one operation that differ in nothing but what AWS ignores. -/
inductive Agree : AdapterCall → AdapterCall → Prop where
  | createIdentity {r r' : Request.CreateIdentity} (same : SameCreation r r') :
      Agree (.createIdentity r) (.createIdentity r')
  | attachInlinePolicy {r r' : Request.AttachInlinePolicy} (same : SameAttachment r r') :
      Agree (.attachInlinePolicy r) (.attachInlinePolicy r')

theorem Agree.operation_eq {a a' : AdapterCall} (agree : Agree a a') :
    a.operation = a'.operation := by
  cases agree <;> rfl

theorem Agree.perform_eq {a a' : AdapterCall} (agree : Agree a a') (h : Handle) :
    a.perform adapter h = a'.perform adapter h := by
  cases agree with
  | createIdentity same => exact same.createIdentity_eq h
  | attachInlinePolicy same => exact same.attachInlinePolicy_eq h

end Aws

/-! ## Both providers -/

/-- Calls that ask for requests of one operation, for which the adapter does the same, cannot be
told apart. -/
theorem Opened.outcome_alike_of_asks {S : Interface} {Handle σ : Type} {o : Opened S Handle}
    {c c' : ClientCall} {a a' : AdapterCall} (hc : c.Asks a) (hc' : c'.Asks a')
    (hoperation : a.operation = a'.operation)
    (hperform : a.perform o.adapter o.handle = a'.perform o.adapter o.handle)
    (service : Service S σ) (state : σ) :
    (o.outcome service c state).Alike (o.outcome service c' state) := by
  have hadmitted := ClientCall.admit_eq_ok_iff.mpr hc
  have hadmitted' := ClientCall.admit_eq_ok_iff.mpr hc'
  apply outcome_alike_of_admitted hadmitted hadmitted' hoperation
  rw [hperform]

/-- What a provider ignores has no influence on the cloud. Two calls of an operation that the gate
lets pass, with requests that agree on what the provider has a use for, make the same calls with the
same arguments, leave the service in the same state, and come to the same answer or failure,
whatever the service does and whether the client is open or closed. -/
theorem ignored_fields_without_influence {c c' : ClientCall} {a a' : AdapterCall} (hc : c.Asks a)
    (hc' : c'.Asks a') :
    (Gcp.Agree a a' → ∀ (h : Gcp.Handle) {σ : Type} (service : Service Gcp.interface σ) (state : σ),
      ((Opened.mk Gcp.adapter h).outcome service c state).Alike
        ((Opened.mk Gcp.adapter h).outcome service c' state)) ∧
    (Aws.Agree a a' → ∀ (h : Aws.Handle) {σ : Type} (service : Service Aws.interface σ) (state : σ),
      ((Opened.mk Aws.adapter h).outcome service c state).Alike
        ((Opened.mk Aws.adapter h).outcome service c' state)) := by
  constructor
  · intro agree h σ service state
    exact Opened.outcome_alike_of_asks hc hc' agree.operation_eq (agree.perform_eq h) service state
  · intro agree h σ service state
    exact Opened.outcome_alike_of_asks hc hc' agree.operation_eq (agree.perform_eq h) service state

/-- One document allows two roles in one statement. The other has a name, denies a third role, and
allows the two in statements of their own, one of them under a condition. Both are attached to the
same project. The first is also put on a role, for two tenants in two regions. -/
theorem ignored_fields_without_influence_regrouped :
    let plain : PolicyDocument :=
      { name := some "p"
        statements := [{ effect := .allow, actions := ["roles/viewer", "roles/editor"] }] }
    let regrouped : PolicyDocument :=
      { version := some "1"
        statements :=
          [{ effect := .allow, actions := ["roles/viewer"], conditions := some [("day", .int 1)] },
            { effect := .deny, actions := ["roles/owner"] },
            { sid := some "s", effect := .allow, actions := ["roles/editor"]
              resources := some ["x"] }] }
    let attach (r : Request.AttachInlinePolicy) : ClientCall := .attachInlinePolicy (some r)
    let r : Request.AttachInlinePolicy :=
      { identityName := some "ci", tenantId := some "p", policyDocument := some plain }
    let onGcp (r : Request.AttachInlinePolicy) :=
      (Opened.mk Gcp.adapter ⟨true, true, none⟩).outcome InMemory.Gcp.service (attach r) {}
    let onAws (r : Request.AttachInlinePolicy) :=
      (Opened.mk Aws.adapter ⟨true, none⟩).outcome InMemory.Aws.service (attach r)
        { roles := [("ci", .object [])] }
    let elsewhere : Request.AttachInlinePolicy :=
      { r with policyDocument := some regrouped, region := some "eu" }
    let forAnother : Request.AttachInlinePolicy :=
      { r with tenantId := some "q", region := some "eu", resource := some "x" }
    let member := "serviceAccount:ci@p.iam.gserviceaccount.com"
    (onGcp r).Alike (onGcp elsewhere) ∧
      (onGcp elsewhere).state.policies = [("projects/p", some
        { bindings := [⟨"roles/viewer", [member], none⟩, ⟨"roles/editor", [member], none⟩] })] ∧
      (onAws r).Alike (onAws forAnother) ∧ (onAws forAnother).result = .ok .null := by
  intro plain regrouped attach r onGcp onAws elsewhere forAnother member
  have hasks {r : Request.AttachInlinePolicy} {document : PolicyDocument}
      (hidentity : r.identityName = some "ci") (hdocument : r.policyDocument = some document) :
      (attach r).Asks (.attachInlinePolicy r) :=
    .attachInlinePolicy hidentity ⟨'c', by decide, by decide⟩ hdocument
  have hr : (attach r).Asks (.attachInlinePolicy r) := hasks rfl rfl
  have helsewhere : (attach elsewhere).Asks (.attachInlinePolicy elsewhere) := hasks rfl rfl
  have hanother : (attach forAnother).Asks (.attachInlinePolicy forAnother) := hasks rfl rfl
  have hgcp : Gcp.SameAttachment r elsewhere := ⟨rfl, rfl, rfl, rfl⟩
  have haws : Aws.SameAttachment r forAnother := ⟨rfl, rfl⟩
  refine ⟨?_, rfl, ?_, rfl⟩
  · exact (ignored_fields_without_influence hr helsewhere).1 (.attachInlinePolicy hgcp) _ _ _
  · exact (ignored_fields_without_influence hr hanother).2 (.attachInlinePolicy haws) _ _ _

end CloudIdentity

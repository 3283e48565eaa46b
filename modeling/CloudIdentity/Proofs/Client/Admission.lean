import CloudIdentity.Client.Operations
import CloudIdentity.Proofs.Failure.Canonical
import CloudIdentity.Proofs.Validation.Acceptance

/-!
What the gate lets pass. Whatever it refuses, the failure is an invalid argument; what it admits
carries the caller's own texts.
-/

namespace CloudIdentity.Gate

open Document Validation

variable {α β : Type}

/-! ## Refusals -/

/-- All that can keep a value from being made is an invalid argument. -/
def Refuses (x : Except Failure α) : Prop := ∀ f, x = .error f → f.IsOfKind .invalidArgument

theorem refuses_ok (a : α) : Refuses (.ok a : Except Failure α) := by
  intro f h
  cases h

theorem refuses_invalidArgument (message : String) :
    Refuses (.error (Failure.invalidArgument message) : Except Failure α) := by
  intro f h
  cases h
  exact Failure.isOfKind_ofKind _ message

theorem Refuses.bind {x : Except Failure α} {next : α → Except Failure β} (h : Refuses x)
    (hnext : ∀ a, Refuses (next a)) : Refuses (x >>= next) := by
  intro f hf
  cases x with
  | error e => exact h f (congrArg Except.error (Except.error.inj hf))
  | ok a => exact hnext a f hf

theorem Refuses.map {x : Except Failure α} (h : Refuses x) (make : α → β) :
    Refuses (make <$> x) := by
  rw [map_eq_pure_bind]
  exact h.bind fun a => refuses_ok (make a)

theorem refuses_name (field : String) (argument : Argument) : Refuses (name field argument) := by
  unfold name
  split
  · split
    · exact refuses_invalidArgument _
    · exact refuses_ok _
  · exact refuses_invalidArgument _

theorem refuses_wrapped (field : String) (argument : Argument) :
    Refuses (wrapped field argument) := by
  unfold wrapped
  split
  · exact refuses_ok _
  · exact refuses_invalidArgument _
  · exact refuses_invalidArgument _
  · exact refuses_invalidArgument _

theorem refuses_build (title : String) (result : Checked α) : Refuses (build title result) := by
  intro f h
  cases result with
  | accepted r => cases h
  | refused complaints =>
    cases h
    exact (Failure.isOfKind_ofKind _ _).withCause _

theorem refuses_request (r : Option α) : Refuses (request r) := by
  cases r with
  | some r => exact refuses_ok r
  | none => exact refuses_invalidArgument _

theorem refuses_attachInlinePolicy (r : Option Request.AttachInlinePolicy) :
    Refuses (attachInlinePolicy r) := by
  refine (refuses_request r).bind fun r => ?_
  split
  · exact refuses_invalidArgument _
  · split
    · exact refuses_invalidArgument _
    · exact refuses_ok r

/-- A call that the gate refuses is an invalid argument. -/
theorem refuses_call (c : ClientCall) : Refuses c.admit := by
  cases c with
  | createIdentity creation =>
    refine Refuses.map ?_ _
    exact (refuses_name _ _).bind fun _ => (refuses_name _ _).bind fun _ =>
      (refuses_wrapped _ _).bind fun _ => (refuses_wrapped _ _).bind fun _ => refuses_build _ _
  | getIdentity identityName tenantId region =>
    refine Refuses.map ?_ _
    exact (refuses_name _ _).bind fun _ => (refuses_name _ _).bind fun _ => refuses_build _ _
  | deleteIdentity identityName tenantId region =>
    refine Refuses.map ?_ _
    exact (refuses_name _ _).bind fun _ => (refuses_name _ _).bind fun _ => refuses_build _ _
  | removePolicy identityName policyName tenantId region =>
    refine Refuses.map ?_ _
    exact (refuses_name _ _).bind fun _ => (refuses_name _ _).bind fun _ =>
      (refuses_name _ _).bind fun _ => refuses_build _ _
  | attachInlinePolicy request => exact (refuses_attachInlinePolicy request).map _
  | getInlinePolicyDetails request => exact (refuses_request request).map _
  | getAttachedPolicies request => exact (refuses_request request).map _

/-! ## Admitted calls -/

theorem name_eq_ok_iff {field s : String} {argument : Argument} :
    name field argument = .ok s ↔ argument = .plain (.str s) ∧ Text.blank s = false := by
  constructor
  · intro h
    unfold name at h
    split at h
    · next text =>
      split at h
      · cases h
      · next hblank =>
        obtain rfl := Except.ok.inj h
        exact ⟨rfl, by simpa using hblank⟩
    · cases h
  · rintro ⟨rfl, hblank⟩
    simp [name, hblank]

theorem wrapped_eq_ok_iff {field : String} {argument : Argument} {v : Value} :
    wrapped field argument = .ok v ↔ argument = .present v := by
  constructor
  · intro h
    unfold wrapped at h
    split at h
    · rw [Except.ok.inj h]
    · cases h
    · cases h
    · cases h
  · rintro rfl
    rfl

/-- No wrapper is null or a text. -/
theorem toValue_eq_ofText_iff {argument : Argument} {text : Option String} :
    argument.toValue = .ofText text ↔ argument = .plain (.ofText text) := by
  cases argument with
  | plain v => simp [Argument.toValue]
  | unset => cases text <;> simp [Argument.toValue, Value.ofText]
  | present v => cases text <;> simp [Argument.toValue, Value.ofText]

theorem build_eq_ok_iff {title : String} {result : Checked α} {r : α} :
    build title result = .ok r ↔ result = .accepted r := by
  cases result <;> simp [build]

theorem bind_eq_ok_iff {x : Except Failure α} {next : α → Except Failure β} {b : β} :
    (x >>= next) = .ok b ↔ ∃ a, x = .ok a ∧ next a = .ok b := by
  cases x with
  | error f =>
    constructor
    · intro h
      cases h
    · rintro ⟨_, h, _⟩
      cases h
  | ok a => exact ⟨fun h => ⟨a, rfl, h⟩, fun ⟨_, ha, h⟩ => Except.ok.inj ha ▸ h⟩

theorem map_eq_ok_iff {x : Except Failure α} {make : α → β} {b : β} :
    (make <$> x) = .ok b ↔ ∃ a, x = .ok a ∧ make a = b := by
  cases x with
  | error f =>
    constructor
    · intro h
      cases h
    · rintro ⟨_, h, _⟩
      cases h
  | ok a => exact ⟨fun h => ⟨a, rfl, Except.ok.inj h⟩, fun ⟨_, ha, h⟩ => h ▸ Except.ok.inj ha ▸ rfl⟩

theorem required_text_eq_accepted_iff {members : Members} {name s : String} :
    members.required name Reader.text = .accepted s ↔ members.lookup name = some (.str s) := by
  rw [Members.required_eq_accepted_iff]
  simp [Reader.text_eq_accepted_iff]

theorem readLookup_eq_accepted_iff {identityName tenantId : String} {region : Argument}
    {r : Request.GetIdentity} :
    Request.GetIdentity.readMembers
        [("identity_name", .str identityName), ("tenant_id", .str tenantId),
          ("region", region.toValue)] = .accepted r ↔
      ∃ text, region = .plain (.ofText text) ∧ r = ⟨identityName, tenantId, text⟩ := by
  rw [Request.GetIdentity.readMembers, Members.closed_eq_accepted_iff]
  simp [Checked.seq_eq_accepted_iff, Checked.map_eq_accepted_iff, required_text_eq_accepted_iff,
    Members.optional_text_eq_accepted_iff, Request.GetIdentity.fieldNames, List.lookup_cons,
    Members.get, toValue_eq_ofText_iff, @eq_comm _ _ r]

theorem readDeletion_eq_accepted_iff {identityName tenantId : String} {region : Argument}
    {r : Request.DeleteIdentity} :
    Request.DeleteIdentity.readMembers
        [("identity_name", .str identityName), ("tenant_id", .str tenantId),
          ("region", region.toValue)] = .accepted r ↔
      ∃ text, region = .plain (.ofText text) ∧ r = ⟨identityName, tenantId, text⟩ := by
  rw [Request.DeleteIdentity.readMembers, Members.closed_eq_accepted_iff]
  simp [Checked.seq_eq_accepted_iff, Checked.map_eq_accepted_iff, required_text_eq_accepted_iff,
    Members.optional_text_eq_accepted_iff, Request.DeleteIdentity.fieldNames, List.lookup_cons,
    Members.get, toValue_eq_ofText_iff, @eq_comm _ _ r]

theorem readRemoval_eq_accepted_iff {identityName policyName tenantId : String} {region : Argument}
    {r : Request.RemovePolicy} :
    Request.RemovePolicy.readMembers
        [("identity_name", .str identityName), ("policy_name", .str policyName),
          ("tenant_id", .str tenantId), ("region", region.toValue)] = .accepted r ↔
      ∃ text, region = .plain (.ofText text) ∧ r = ⟨identityName, policyName, tenantId, text⟩ := by
  rw [Request.RemovePolicy.readMembers, Members.closed_eq_accepted_iff]
  simp [Checked.seq_eq_accepted_iff, Checked.map_eq_accepted_iff, required_text_eq_accepted_iff,
    Members.optional_text_eq_accepted_iff, Request.RemovePolicy.fieldNames, List.lookup_cons,
    Members.get, toValue_eq_ofText_iff, @eq_comm _ _ r]

theorem readCreation_eq_accepted_iff {identityName tenantId : String}
    {description region : Argument} {trustConfig options : Value} {r : Request.CreateIdentity} :
    Request.CreateIdentity.readMembers
        [("identity_name", .str identityName), ("description", description.toValue),
          ("tenant_id", .str tenantId), ("region", region.toValue), ("trust_config", trustConfig),
          ("options", options)] = .accepted r ↔
      ∃ text place trust knobs, description = .plain (.ofText text) ∧
        region = .plain (.ofText place) ∧
        ReadOptionally TrustConfiguration.ReadFrom trust trustConfig ∧
        ReadOptionally CreateOptions.ReadFrom knobs options ∧
        r = ⟨identityName, text, tenantId, place, trust, knobs⟩ := by
  rw [Request.CreateIdentity.readMembers, Members.closed_eq_accepted_iff]
  simp only [Checked.seq_eq_accepted_iff, Checked.map_eq_accepted_iff,
    required_text_eq_accepted_iff, Members.optional_text_eq_accepted_iff,
    TrustConfiguration.optional_read_eq_accepted_iff, CreateOptions.optional_read_eq_accepted_iff]
  constructor
  · rintro ⟨_, _, knobs, ⟨_, trust, ⟨_, place, ⟨_, tenant, ⟨_, text, ⟨identity, hidentity, rfl⟩,
      htext, rfl⟩, htenant, rfl⟩, hplace, rfl⟩, htrust, rfl⟩, hknobs, rfl⟩
    obtain rfl : identityName = identity := Value.str.inj (Option.some.inj hidentity)
    obtain rfl : tenantId = tenant := Value.str.inj (Option.some.inj htenant)
    exact ⟨text, place, trust, knobs, toValue_eq_ofText_iff.mp htext,
      toValue_eq_ofText_iff.mp hplace, htrust, hknobs, rfl⟩
  · rintro ⟨text, place, trust, knobs, htext, hplace, htrust, hknobs, rfl⟩
    exact ⟨by simp [Request.CreateIdentity.fieldNames], _, knobs, ⟨_, trust, ⟨_, place,
      ⟨_, tenantId, ⟨_, text, ⟨identityName, rfl, rfl⟩, toValue_eq_ofText_iff.mpr htext, rfl⟩,
      rfl, rfl⟩, toValue_eq_ofText_iff.mpr hplace, rfl⟩, htrust, rfl⟩, hknobs, rfl⟩

/-- A creation is admitted just when it names an identity and a tenant, holds a trust configuration
and options or chooses to have none, and has texts for the rest. -/
theorem createIdentity_eq_ok_iff {c : Creation} {r : Request.CreateIdentity} :
    createIdentity c = .ok r ↔
      (c.identityName = .plain (.str r.identityName) ∧ Text.blank r.identityName = false) ∧
      (c.tenantId = .plain (.str r.tenantId) ∧ Text.blank r.tenantId = false) ∧
      (∃ v, c.trustConfig = .present v ∧
        ReadOptionally TrustConfiguration.ReadFrom r.trustConfig v) ∧
      (∃ v, c.options = .present v ∧ ReadOptionally CreateOptions.ReadFrom r.options v) ∧
      c.description = .plain (.ofText r.description) ∧ c.region = .plain (.ofText r.region) := by
  simp only [createIdentity, bind_eq_ok_iff, name_eq_ok_iff, wrapped_eq_ok_iff, build_eq_ok_iff,
    readCreation_eq_accepted_iff]
  constructor
  · rintro ⟨_, hidentity, _, htenant, v, hv, w, hw, _, _, _, _, htext, hplace, htrust, hknobs, rfl⟩
    exact ⟨hidentity, htenant, ⟨v, hv, htrust⟩, ⟨w, hw, hknobs⟩, htext, hplace⟩
  · rintro ⟨hidentity, htenant, ⟨v, hv, htrust⟩, ⟨w, hw, hknobs⟩, htext, hplace⟩
    exact ⟨_, hidentity, _, htenant, v, hv, w, hw, _, _, _, _, htext, hplace, htrust, hknobs, rfl⟩

theorem getIdentity_eq_ok_iff {identityName tenantId region : Argument} {r : Request.GetIdentity} :
    getIdentity identityName tenantId region = .ok r ↔
      (identityName = .plain (.str r.identityName) ∧ Text.blank r.identityName = false) ∧
      (tenantId = .plain (.str r.tenantId) ∧ Text.blank r.tenantId = false) ∧
      region = .plain (.ofText r.region) := by
  simp only [getIdentity, bind_eq_ok_iff, name_eq_ok_iff, build_eq_ok_iff,
    readLookup_eq_accepted_iff]
  constructor
  · rintro ⟨_, hidentity, _, htenant, _, hregion, rfl⟩
    exact ⟨hidentity, htenant, hregion⟩
  · rintro ⟨hidentity, htenant, hregion⟩
    exact ⟨_, hidentity, _, htenant, _, hregion, rfl⟩

theorem deleteIdentity_eq_ok_iff {identityName tenantId region : Argument}
    {r : Request.DeleteIdentity} :
    deleteIdentity identityName tenantId region = .ok r ↔
      (identityName = .plain (.str r.identityName) ∧ Text.blank r.identityName = false) ∧
      (tenantId = .plain (.str r.tenantId) ∧ Text.blank r.tenantId = false) ∧
      region = .plain (.ofText r.region) := by
  simp only [deleteIdentity, bind_eq_ok_iff, name_eq_ok_iff, build_eq_ok_iff,
    readDeletion_eq_accepted_iff]
  constructor
  · rintro ⟨_, hidentity, _, htenant, _, hregion, rfl⟩
    exact ⟨hidentity, htenant, hregion⟩
  · rintro ⟨hidentity, htenant, hregion⟩
    exact ⟨_, hidentity, _, htenant, _, hregion, rfl⟩

/-- A removal is admitted just when it names everything, and with the texts it was called with. -/
theorem removePolicy_eq_ok_iff {identityName policyName tenantId region : Argument}
    {r : Request.RemovePolicy} :
    removePolicy identityName policyName tenantId region = .ok r ↔
      (identityName = .plain (.str r.identityName) ∧ Text.blank r.identityName = false) ∧
      (policyName = .plain (.str r.policyName) ∧ Text.blank r.policyName = false) ∧
      (tenantId = .plain (.str r.tenantId) ∧ Text.blank r.tenantId = false) ∧
      region = .plain (.ofText r.region) := by
  simp only [removePolicy, bind_eq_ok_iff, name_eq_ok_iff, build_eq_ok_iff,
    readRemoval_eq_accepted_iff]
  constructor
  · rintro ⟨_, hidentity, _, hpolicy, _, htenant, _, hregion, rfl⟩
    exact ⟨hidentity, hpolicy, htenant, hregion⟩
  · rintro ⟨hidentity, hpolicy, htenant, hregion⟩
    exact ⟨_, hidentity, _, hpolicy, _, htenant, _, hregion, rfl⟩

theorem request_eq_ok_iff {given : Option α} {r : α} : request given = .ok r ↔ given = some r := by
  cases given <;> simp [request]

theorem attachInlinePolicy_eq_ok_iff {given : Option Request.AttachInlinePolicy}
    {r : Request.AttachInlinePolicy} :
    attachInlinePolicy given = .ok r ↔
      given = some r ∧ (∃ identity, Text.filled? r.identityName = some identity) ∧
        ∃ document, r.policyDocument = some document := by
  rw [attachInlinePolicy, bind_eq_ok_iff]
  simp only [request_eq_ok_iff]
  constructor
  · rintro ⟨r', rfl, h⟩
    split at h
    · cases h
    · next identity hidentity =>
      split at h
      · cases h
      · next document hdocument =>
        obtain rfl := Except.ok.inj h
        exact ⟨rfl, ⟨identity, hidentity⟩, document, hdocument⟩
  · rintro ⟨rfl, ⟨identity, hidentity⟩, document, hdocument⟩
    refine ⟨r, rfl, ?_⟩
    rw [hidentity, hdocument]

/-- An attachment is admitted if it names an identity and has a document. -/
theorem attachInlinePolicy_eq_ok {r : Request.AttachInlinePolicy} {identity : String}
    {document : PolicyDocument} (hidentity : Text.filled? r.identityName = some identity)
    (hdocument : r.policyDocument = some document) : attachInlinePolicy (some r) = .ok r :=
  attachInlinePolicy_eq_ok_iff.mpr ⟨rfl, ⟨identity, hidentity⟩, document, hdocument⟩

end CloudIdentity.Gate

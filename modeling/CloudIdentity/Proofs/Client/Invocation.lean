import CloudIdentity.InMemory.Recording
import CloudIdentity.InMemory.Session
import CloudIdentity.Proofs.Client.Admission
import CloudIdentity.Proofs.Client.Outcome

/-!
The gate is exact. `ClientCall.Asks` says, without a gate and in no order, which request the
arguments of a call make, if they make one. The adapter is invoked, once and with that request, for
the calls that ask for something; of every other call nothing is left but an invalid argument.
-/

namespace CloudIdentity

open Document InMemory

variable {S : Interface} {Handle σ : Type}

/-- An argument is a name if it is a text with a character that is not blank. -/
def Argument.Names (argument : Argument) (s : String) : Prop :=
  argument = .plain (.str s) ∧ ∃ c ∈ s.toList, Text.isBlank c = false

namespace ClientCall

/-- The adapter's call that the arguments of a client's call ask for. A request has the texts that
it was given as they are; what the wrappers hold is read as the records that it stands for. -/
inductive Asks : ClientCall → AdapterCall → Prop where
  | createIdentity {creation : Gate.Creation} {r : Request.CreateIdentity} {trust options : Value}
      (identity : creation.identityName.Names r.identityName)
      (tenant : creation.tenantId.Names r.tenantId)
      (trustGiven : creation.trustConfig = .present trust)
      (optionsGiven : creation.options = .present options)
      (trustRead : ReadOptionally TrustConfiguration.ReadFrom r.trustConfig trust)
      (optionsRead : ReadOptionally CreateOptions.ReadFrom r.options options)
      (description : creation.description = .plain (.ofText r.description))
      (region : creation.region = .plain (.ofText r.region)) :
      Asks (.createIdentity creation) (.createIdentity r)
  | getIdentity {identityName tenantId place : Argument} {r : Request.GetIdentity}
      (identity : identityName.Names r.identityName) (tenant : tenantId.Names r.tenantId)
      (region : place = .plain (.ofText r.region)) :
      Asks (.getIdentity identityName tenantId place) (.getIdentity r)
  | deleteIdentity {identityName tenantId place : Argument} {r : Request.DeleteIdentity}
      (identity : identityName.Names r.identityName) (tenant : tenantId.Names r.tenantId)
      (region : place = .plain (.ofText r.region)) :
      Asks (.deleteIdentity identityName tenantId place) (.deleteIdentity r)
  | removePolicy {identityName policyName tenantId place : Argument} {r : Request.RemovePolicy}
      (identity : identityName.Names r.identityName) (policy : policyName.Names r.policyName)
      (tenant : tenantId.Names r.tenantId) (region : place = .plain (.ofText r.region)) :
      Asks (.removePolicy identityName policyName tenantId place) (.removePolicy r)
  | attachInlinePolicy {r : Request.AttachInlinePolicy} {s : String} {document : PolicyDocument}
      (identity : r.identityName = some s) (filled : ∃ c ∈ s.toList, Text.isBlank c = false)
      (policy : r.policyDocument = some document) :
      Asks (.attachInlinePolicy (some r)) (.attachInlinePolicy r)
  | getInlinePolicyDetails (r : Request.GetInlinePolicyDetails) :
      Asks (.getInlinePolicyDetails (some r)) (.getInlinePolicyDetails r)
  | getAttachedPolicies (r : Request.GetAttachedPolicies) :
      Asks (.getAttachedPolicies (some r)) (.getAttachedPolicies r)

theorem names_iff {argument : Argument} {s : String} :
    argument = .plain (.str s) ∧ Text.blank s = false ↔ argument.Names s := by
  rw [Text.not_blank_iff, Argument.Names]

/-- The gate lets a call pass just if it asks for something, and makes of it what it asks for. -/
theorem admit_eq_ok_iff {c : ClientCall} {a : AdapterCall} : c.admit = .ok a ↔ c.Asks a := by
  cases c with
  | createIdentity creation =>
    simp only [Gate.map_eq_ok_iff, ClientCall.admit, Gate.createIdentity_eq_ok_iff, names_iff]
    constructor
    · rintro ⟨r, ⟨identity, tenant, ⟨_, ht, htrust⟩, ⟨_, ho, hoptions⟩, htext, hplace⟩, rfl⟩
      exact .createIdentity identity tenant ht ho htrust hoptions htext hplace
    · intro h
      cases h with
      | createIdentity identity tenant ht ho htrust hoptions htext hplace =>
        exact ⟨_, ⟨identity, tenant, ⟨_, ht, htrust⟩, ⟨_, ho, hoptions⟩, htext, hplace⟩, rfl⟩
  | getIdentity identityName tenantId region =>
    simp only [Gate.map_eq_ok_iff, ClientCall.admit, Gate.getIdentity_eq_ok_iff, names_iff]
    constructor
    · rintro ⟨r, ⟨identity, tenant, hregion⟩, rfl⟩
      exact .getIdentity identity tenant hregion
    · intro h
      cases h with
      | getIdentity identity tenant hregion => exact ⟨_, ⟨identity, tenant, hregion⟩, rfl⟩
  | deleteIdentity identityName tenantId region =>
    simp only [Gate.map_eq_ok_iff, ClientCall.admit, Gate.deleteIdentity_eq_ok_iff, names_iff]
    constructor
    · rintro ⟨r, ⟨identity, tenant, hregion⟩, rfl⟩
      exact .deleteIdentity identity tenant hregion
    · intro h
      cases h with
      | deleteIdentity identity tenant hregion => exact ⟨_, ⟨identity, tenant, hregion⟩, rfl⟩
  | removePolicy identityName policyName tenantId region =>
    simp only [Gate.map_eq_ok_iff, ClientCall.admit, Gate.removePolicy_eq_ok_iff, names_iff]
    constructor
    · rintro ⟨r, ⟨identity, policy, tenant, hregion⟩, rfl⟩
      exact .removePolicy identity policy tenant hregion
    · intro h
      cases h with
      | removePolicy identity policy tenant hregion =>
        exact ⟨_, ⟨identity, policy, tenant, hregion⟩, rfl⟩
  | attachInlinePolicy request =>
    simp only [Gate.map_eq_ok_iff, ClientCall.admit, Gate.attachInlinePolicy_eq_ok_iff,
      Text.filled?_eq_some_iff, Text.not_blank_iff]
    constructor
    · rintro ⟨r, ⟨rfl, ⟨s, hs, filled⟩, document, hdocument⟩, rfl⟩
      exact .attachInlinePolicy hs filled hdocument
    · intro h
      cases h with
      | attachInlinePolicy hs filled hdocument =>
        exact ⟨_, ⟨rfl, ⟨_, hs, filled⟩, _, hdocument⟩, rfl⟩
  | getInlinePolicyDetails request =>
    simp only [Gate.map_eq_ok_iff, ClientCall.admit, Gate.request_eq_ok_iff]
    constructor
    · rintro ⟨r, rfl, rfl⟩
      exact .getInlinePolicyDetails r
    · intro h
      cases h with
      | getInlinePolicyDetails r => exact ⟨r, rfl, rfl⟩
  | getAttachedPolicies request =>
    simp only [Gate.map_eq_ok_iff, ClientCall.admit, Gate.request_eq_ok_iff]
    constructor
    · rintro ⟨r, rfl, rfl⟩
      exact .getAttachedPolicies r
    · intro h
      cases h with
      | getAttachedPolicies r => exact ⟨r, rfl, rfl⟩

/-- Arguments ask for one request at most. -/
theorem Asks.unique {c : ClientCall} {a b : AdapterCall} (ha : c.Asks a) (hb : c.Asks b) :
    a = b := by
  have hadmitted := admit_eq_ok_iff.mpr ha
  rw [admit_eq_ok_iff.mpr hb] at hadmitted
  exact (Except.ok.inj hadmitted).symm

/-- A call that asks for nothing is refused as an invalid argument. -/
theorem refused_of_not_asks {c : ClientCall} (h : ∀ a, ¬ c.Asks a) :
    ∃ f : Failure, f.IsOfKind .invalidArgument ∧ c.admit = .error f := by
  cases hadmitted : c.admit with
  | error f => exact ⟨f, Gate.refuses_call c f hadmitted, rfl⟩
  | ok a => exact absurd (admit_eq_ok_iff.mp hadmitted) (h a)

end ClientCall

/-! ## Invocations -/

namespace AdapterCall

/-- What an adapter that only passes requests on makes of a call: the name of the operation, and all
that the request has. -/
def recorded : AdapterCall → Recording.Call
  | createIdentity r =>
    ⟨"do_create_identity", [("request", .str "CreateIdentityRequest"), ("fields", r.toValue)]⟩
  | getIdentity r =>
    ⟨"do_get_identity", [("request", .str "GetIdentityRequest"), ("fields", r.toValue)]⟩
  | deleteIdentity r =>
    ⟨"do_delete_identity", [("request", .str "DeleteIdentityRequest"), ("fields", r.toValue)]⟩
  | removePolicy r =>
    ⟨"do_remove_policy", [("request", .str "RemovePolicyRequest"), ("fields", r.toValue)]⟩
  | attachInlinePolicy r =>
    ⟨"do_attach_inline_policy",
      [("request", .str "AttachInlinePolicyRequest"), ("fields", r.toValue)]⟩
  | getInlinePolicyDetails r =>
    ⟨"do_get_inline_policy_details",
      [("request", .str "GetInlinePolicyDetailsRequest"), ("fields", r.toValue)]⟩
  | getAttachedPolicies r =>
    ⟨"do_get_attached_policies",
      [("request", .str "GetAttachedPoliciesRequest"), ("fields", r.toValue)]⟩

theorem perform_recording (classify : Failure.Classifier) (a : AdapterCall) :
    a.perform (Recording.adapter classify) () = Action.request (S := Recording.interface)
      a.recorded := by
  cases a <;> rfl

end AdapterCall

namespace Opened

theorem calls_logged (entries : List Journal.Entry) :
    Report.calls (entries.map (Event.logged : Journal.Entry → Event S)) = [] := by
  induction entries with
  | nil => rfl
  | cons entry rest ih => exact ih

/-- The log entries around what an adapter does are no calls. -/
theorem calls_carryOut (o : Opened S Handle) (service : Service S σ) (a : AdapterCall) (state : σ) :
    Report.calls ((o.carryOut a).run.run service state).trace =
      Report.calls (o.performed service a state).trace := by
  have hclosing := calls_logged (S := S) (a.closingEntries o.adapter.provider o.adapter.classify
    (o.performed service a state).result)
  rw [carryOut_run]
  rw [Report.calls] at hclosing ⊢
  rw [List.filterMap_cons_none rfl, List.filterMap_append, hclosing, List.append_nil]
  rfl

/-- The adapter that passes requests on is invoked once by a call that asks for something. -/
theorem calls_recorded {classify : Failure.Classifier} {service : Service Recording.interface σ}
    {c : ClientCall} {a : AdapterCall} (h : c.Asks a) (state : σ) :
    Report.calls ((⟨Recording.adapter classify, ()⟩ : Opened _ _).outcome service c state).trace =
      [a.recorded] := by
  rw [outcome_admitted (ClientCall.admit_eq_ok_iff.mpr h), calls_carryOut, performed,
    AdapterCall.perform_recording]
  rfl

/-- Whatever the adapter and the service: a call that asks for something is carried out by the
adapter, between the entries of its log, and the caller is told what that came to; of any other call
nothing is left but an invalid argument. Counted at an adapter that passes requests on: one
invocation with what was asked for, or none. -/
theorem invoked_exactly_as_asked (o : Opened S Handle) (service : Service S σ) (c : ClientCall)
    (state : σ) :
    (∃ a, c.Asks a ∧
      o.outcome service c state =
        { result := a.told o.adapter.classify (o.performed service a state).result
          state := (o.performed service a state).state
          trace := .logged (startedEntry o.adapter.provider a) ::
            ((o.performed service a state).trace ++
              (a.closingEntries o.adapter.provider o.adapter.classify
                (o.performed service a state).result).map .logged) } ∧
      ∀ (τ : Type) (classify : Failure.Classifier) (recorder : Service Recording.interface τ)
        (s : τ), Report.calls ((⟨Recording.adapter classify, ()⟩ : Opened _ _).outcome recorder c
          s).trace = [a.recorded]) ∨
    ((∀ a, ¬ c.Asks a) ∧ ∃ f : Failure, f.IsOfKind .invalidArgument ∧
      o.outcome service c state = ⟨.error f, state, []⟩ ∧
      ∀ (τ : Type) (classify : Failure.Classifier) (recorder : Service Recording.interface τ)
        (s : τ), (⟨Recording.adapter classify, ()⟩ : Opened _ _).outcome recorder c s =
          ⟨.error f, s, []⟩) := by
  by_cases hasks : ∃ a, c.Asks a
  · obtain ⟨a, ha⟩ := hasks
    have hadmitted := ClientCall.admit_eq_ok_iff.mpr ha
    refine Or.inl ⟨a, ha, ?_, fun τ classify recorder s => calls_recorded ha s⟩
    rw [outcome_admitted hadmitted, carryOut_run]
  · have hnone : ∀ a, ¬ c.Asks a := fun a ha => hasks ⟨a, ha⟩
    obtain ⟨f, hkind, hrefused⟩ := ClientCall.refused_of_not_asks hnone
    exact Or.inr ⟨hnone, f, hkind, outcome_refused hrefused,
      fun _ _ _ _ => outcome_refused hrefused⟩

/-- A creation may give its session duration as a text; the adapter is invoked with the integer.
With a blank tenant, and with options that are not wrapped, it is not invoked. -/
theorem invoked_exactly_as_asked_textual_duration :
    let o : Opened Recording.interface Unit := ⟨Recording.adapter fun _ => .ok .unknown, ()⟩
    let trust : Value := .object [("trusted_principals", .array [.str "ann"])]
    let options : Value := .object [("max_session_duration", .str " 3600"), ("path", .null)]
    let creation : Gate.Creation :=
      { identityName := .plain (.str "ci"), description := .plain (.str "")
        tenantId := .plain (.str "t"), region := .plain .null
        trustConfig := .present trust, options := .present options }
    let misgiven : Gate.Creation :=
      { creation with tenantId := .plain (.str " \t"), options := .plain options }
    let r : Request.CreateIdentity :=
      { identityName := "ci", description := some "", tenantId := "t"
        trustConfig := some { trustedPrincipals := ["ann"] }
        options := some { maxSessionDuration := some 3600 } }
    (∃ a, (ClientCall.createIdentity creation).Asks a ∧ a = .createIdentity r ∧
      Report.calls (o.outcome Recording.service (.createIdentity creation) ()).trace =
        [a.recorded]) ∧
    ∃ f : Failure, f.IsOfKind .invalidArgument ∧
      o.outcome Recording.service (.createIdentity misgiven) () = ⟨.error f, (), []⟩ := by
  intro o trust options creation misgiven r
  have htrust : TrustConfiguration.ReadFrom { trustedPrincipals := ["ann"] }
      [("trusted_principals", .array [.str "ann"])] := ⟨by decide, rfl, rfl⟩
  have hoptions : CreateOptions.ReadFrom { maxSessionDuration := some 3600 }
      [("max_session_duration", .str " 3600"), ("path", .null)] :=
    ⟨by decide, rfl, Or.inr ⟨3600, rfl, by decide, rfl⟩, rfl⟩
  have hasks : (ClientCall.createIdentity creation).Asks (.createIdentity r) :=
    .createIdentity ⟨rfl, 'c', by decide, by decide⟩ ⟨rfl, 't', by decide, by decide⟩ rfl rfl
      (.present htrust) (.present hoptions) rfl rfl
  have hnone : ∀ a, ¬ (ClientCall.createIdentity misgiven).Asks a := by
    intro a h
    cases h with
    | createIdentity _ _ _ optionsGiven => cases optionsGiven
  constructor
  · obtain ⟨a, ha, _, hcalls⟩ | ⟨h, _⟩ :=
      o.invoked_exactly_as_asked Recording.service (.createIdentity creation) ()
    · exact ⟨a, ha, ha.unique hasks, hcalls Unit _ Recording.service ()⟩
    · exact absurd hasks (h _)
  · obtain ⟨a, ha, _⟩ | ⟨_, f, hkind, hrefused, _⟩ :=
      o.invoked_exactly_as_asked Recording.service (.createIdentity misgiven) ()
    · exact absurd ha (hnone a)
    · exact ⟨f, hkind, hrefused⟩

end Opened

end CloudIdentity

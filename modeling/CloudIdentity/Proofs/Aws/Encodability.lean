import CloudIdentity.Proofs.Aws.InlineStore

/-!
Policies that cannot be written down. A policy has no text just if something that cannot be encoded
occurs in the conditions or the principals that it is made of, at whatever depth; parts that are left
out as empty hold nothing of the kind. Writing comes before every call, so such a policy is refused
as an invalid argument and nothing reaches the service.
-/

namespace CloudIdentity

open Document

/-- Something that cannot be encoded occurs in the conditions. -/
def TrustConfiguration.Unencodable (t : TrustConfiguration) : Prop :=
  ∃ ms, t.conditions = some ms ∧ (Value.object ms).Unencodable

/-- Something that cannot be encoded occurs in the conditions or the principals. -/
def Statement.Unencodable (s : Statement) : Prop :=
  ∃ ms, (s.conditions = some ms ∨ s.principals = some ms) ∧ (Value.object ms).Unencodable

namespace Aws

variable {σ : Type} {service : Service interface σ} {h : Handle} {state : σ}
  {trust : Option TrustConfiguration} {d : PolicyDocument} {s : Statement}

/-! ## Which policies cannot be encoded -/

/-- What is left out as empty can be encoded. -/
theorem mem_mapped_of_unencodable {ms : Members} (hpart : (Value.object ms).Unencodable)
    (name : String) : (name, Value.object ms) ∈ mapped name (some ms) := by
  cases ms with
  | nil =>
    cases hpart with
    | member hmem _ => cases hmem
  | cons m ms => exact List.mem_singleton.mpr rfl

theorem encodable_iff :
    Encodable trust ↔ ¬ ∃ t, trust = some t ∧ t.Unencodable := by
  simp only [Encodable, Value.writable_iff]
  constructor
  · rintro h ⟨t, rfl, ms, hms, hpart⟩
    exact h ms hms hpart
  · intro h ms hms hpart
    obtain ⟨t, rfl, ht⟩ := Option.bind_eq_some_iff.mp hms
    exact h ⟨t, rfl, ms, ht, hpart⟩

/-- A trust policy can be encoded just if its conditions can. -/
theorem trustPolicy_unencodable_iff (tenantId : String) :
    (trustPolicy tenantId trust).Unencodable ↔ ∃ t, trust = some t ∧ t.Unencodable := by
  constructor
  · intro hpart
    by_contra hnone
    have htext := (encodable_iff.mpr hnone).trustPolicyText tenantId
    exact (exists_serialize_iff _).mp htext hpart
  · rintro ⟨t, rfl, ms, hms, hpart⟩
    have hconditions : ("Condition", Value.object ms) ∈ mapped "Condition" t.conditions := by
      rw [hms]
      exact mem_mapped_of_unencodable hpart "Condition"
    refine .member (List.mem_cons_of_mem _ List.mem_cons_self) ?_
    refine .item List.mem_cons_self ?_
    exact .member (List.mem_append_right _ hconditions) hpart

theorem not_unencodable_ofTexts (texts : List String) : ¬ (Value.ofTexts texts).Unencodable :=
  have hwritable : Value.Writable compact (.ofTexts texts) := Value.writable_ofTexts texts
  Value.writable_iff.mp hwritable

/-- The members of a statement can be encoded just if its conditions and principals can. -/
theorem statementMembers_unencodable_iff :
    (Value.object (statementMembers s)).Unencodable ↔ s.Unencodable := by
  constructor
  · intro hpart
    by_contra hnone
    cases hpart with
    | member hmem hvalue =>
      refine forall_statement (P := fun v => ¬ v.Unencodable) (fun t ht => ?_)
        not_unencodable_ofTexts (fun ms hms hms' => hnone ⟨ms, .inl hms, hms'⟩)
        (fun ms hms hms' => hnone ⟨ms, .inr hms, hms'⟩) _ hmem hvalue
      cases ht
  · rintro ⟨ms, hms | hms, hpart⟩
    · have hconditions : ("Condition", Value.object ms) ∈ statementMembers s := by
        refine List.mem_append_left _ (List.mem_append_right _ ?_)
        rw [hms]
        exact mem_mapped_of_unencodable hpart "Condition"
      exact .member hconditions hpart
    · have hprincipals : ("Principal", Value.object ms) ∈ statementMembers s := by
        refine List.mem_append_right _ ?_
        rw [hms]
        exact mem_mapped_of_unencodable hpart "Principal"
      exact .member hprincipals hpart

/-- An inline policy can be encoded just if every statement can. -/
theorem inlinePolicy_unencodable_iff :
    (inlinePolicy d).Unencodable ↔ ∃ s ∈ d.statements, s.Unencodable := by
  constructor
  · intro hpart
    cases hpart with
    | member hmem hvalue =>
      rcases List.mem_cons.mp hmem with rfl | hrest
      · cases hvalue
      · obtain rfl := List.mem_singleton.mp hrest
        cases hvalue with
        | item hitem hstatement =>
          obtain ⟨s, hs, rfl⟩ := List.mem_map.mp hitem
          exact ⟨s, hs, statementMembers_unencodable_iff.mp hstatement⟩
  · rintro ⟨s, hs, hpart⟩
    refine .member (List.mem_cons_of_mem _ List.mem_cons_self) ?_
    refine .item (List.mem_map_of_mem hs) ?_
    exact statementMembers_unencodable_iff.mpr hpart

/-! ## What comes of them -/

/-- A call ends as an invalid argument, since `what` cannot be written down, and nothing was asked
of the service. -/
structure Unsent (what : String) (state : σ) (run : Run interface σ (Except Failure Value)) :
    Prop where
  refused : ∃ f : Failure, f.IsOfKind .invalidArgument ∧
    f.message = "Failed to serialize " ++ what ∧ run.result = .error f
  untouched : run.state = state
  uncalled : ∀ c answer, Event.called c answer ∉ run.trace

/-- A call asks something of the service. -/
def Sent (run : Run interface σ (Except Failure Value)) : Prop :=
  ∃ c answer, Event.called c answer ∈ run.trace

theorem Unsent.not_sent {what : String} {run : Run interface σ (Except Failure Value)}
    (hrun : Unsent what state run) : ¬ Sent run := by
  rintro ⟨c, answer, hmem⟩
  exact hrun.uncalled c answer hmem

theorem sent_call (call : Call) (next) :
    Sent ((Program.call call next : Program interface (Except Failure Value)).run service state) :=
  ⟨call, _, List.mem_cons_self⟩

variable {c : ClientCall} {a : AdapterCall}

/-- What the adapter refuses at once, the client does. -/
theorem unsent_of_performed {what : String} {v : Value} {f : Failure}
    (hasks : c.Asks a) (hf : serialize what v = .error f)
    (hperform : (a.perform adapter h).run = .done (.error f)) :
    Unsent what state ((Opened.mk adapter h).outcome service c state) := by
  obtain ⟨hkind, hmessage⟩ := serialize_error hf
  have hperformed : (Opened.mk adapter h).performed service a state = ⟨.error f, state, []⟩ := by
    rw [Opened.performed, hperform]
    rfl
  rw [Opened.outcome_admitted (ClientCall.admit_eq_ok_iff.mpr hasks), Opened.carryOut_run,
    hperformed]
  refine ⟨⟨f, hkind, hmessage, ?_⟩, rfl, fun c answer => by simp⟩
  rw [AdapterCall.told, Failure.toCanonical_of_isCanonical hkind.isCanonical]

/-- A call of the adapter is one of the client. -/
theorem sent_of_performed (hasks : c.Asks a)
    (hsent : Sent ((Opened.mk adapter h).performed service a state)) :
    Sent ((Opened.mk adapter h).outcome service c state) := by
  obtain ⟨call, answer, hmem⟩ := hsent
  have hadmitted := ClientCall.admit_eq_ok_iff.mpr hasks
  exact ⟨call, answer, (Opened.called_mem_outcome_iff hadmitted).mpr hmem⟩

/-- A creation writes the trust policy down before it calls the service. -/
theorem createIdentity_unsent_iff {r : Request.CreateIdentity} (hopen : h.connected = true)
    (hasks : c.Asks (.createIdentity r)) :
    Unsent "assume role policy document" state ((Opened.mk adapter h).outcome service c state) ↔
      ∃ t, r.trustConfig = some t ∧ t.Unencodable := by
  rw [← trustPolicy_unencodable_iff r.tenantId]
  constructor
  · intro hunsent
    by_contra hnone
    obtain ⟨text, htext⟩ := (exists_serialize_iff _).mpr hnone
    refine hunsent.not_sent (sent_of_performed hasks ?_)
    change Sent ((createIdentity h r).run.run service state)
    rw [createIdentity_run hopen r htext]
    exact sent_call _ _
  · intro hpart
    obtain ⟨f, _, hf⟩ := (serialize_refuses_iff _).mpr hpart
    refine unsent_of_performed hasks hf ?_
    change (createIdentity h r).run = _
    rw [createIdentity, trustPolicyText, hf]
    rfl

/-- An attachment writes the policy down before it calls the service. -/
theorem attachInlinePolicy_unsent_iff {r : Request.AttachInlinePolicy} {name : String}
    (hopen : h.connected = true) (hasks : c.Asks (.attachInlinePolicy r))
    (hdocument : r.policyDocument = some d) (hname : Text.filled? d.name = some name) :
    Unsent "inline policy document" state ((Opened.mk adapter h).outcome service c state) ↔
      ∃ s ∈ d.statements, s.Unencodable := by
  rw [← inlinePolicy_unencodable_iff]
  have heq := attachInlinePolicy_eq h hdocument hname
  rw [hopen, if_pos rfl] at heq
  constructor
  · intro hunsent
    by_contra hnone
    obtain ⟨text, htext⟩ := (exists_serialize_iff _).mpr hnone
    refine hunsent.not_sent (sent_of_performed hasks ?_)
    change Sent ((attachInlinePolicy h r).run.run service state)
    rw [heq, inlinePolicyText, htext]
    simp only [Action.ofExcept, pure_bind, ExceptT.run_bind, request_run hopen, Program.call_bind]
    exact sent_call _ _
  · intro hpart
    obtain ⟨f, _, hf⟩ := (serialize_refuses_iff _).mpr hpart
    refine unsent_of_performed hasks hf ?_
    change (attachInlinePolicy h r).run = _
    rw [heq, inlinePolicyText, hf]
    rfl

/-- A policy without a text never reaches the service. On an open connection, a creation whose trust
conditions hold something that cannot be encoded, at any depth, and an attachment of a document with
a name some statement of which does so in its conditions or principals, end as invalid arguments
before any call; and no others do. To have no text is to hold a foreign value or an integer with too
many digits. -/
theorem unencodable_never_sent (hopen : h.connected = true) (service : Service interface σ)
    (state : σ) :
    (∀ what v,
      ((∃ f : Failure, f.IsOfKind .invalidArgument ∧ serialize what v = .error f) ↔
        v.Unencodable) ∧
      ((∃ text, serialize what v = .ok text) ↔ ¬ v.Unencodable)) ∧
    (∀ c r, ClientCall.Asks c (.createIdentity r) →
      (Unsent "assume role policy document" state
          ((Opened.mk adapter h).outcome service c state) ↔
        ∃ t, r.trustConfig = some t ∧ t.Unencodable)) ∧
    ∀ c r d name, ClientCall.Asks c (.attachInlinePolicy r) → r.policyDocument = some d →
      d.name = some name → (∃ x ∈ name.toList, Text.isBlank x = false) →
      (Unsent "inline policy document" state ((Opened.mk adapter h).outcome service c state) ↔
        ∃ s ∈ d.statements, s.Unencodable) := by
  refine ⟨fun what v => ⟨serialize_refuses_iff what, exists_serialize_iff what⟩,
    fun c r hasks => createIdentity_unsent_iff hopen hasks,
    fun c r d name hasks hdocument hname hfilled => ?_⟩
  have hgiven : Text.filled? d.name = some name :=
    Text.filled?_eq_some_iff.mpr ⟨hname, Text.not_blank_iff.mpr hfilled⟩
  exact attachInlinePolicy_unsent_iff hopen hasks hdocument hgiven

/-- A foreign value in an object in an array, in conditions and in principals, and the least integer
with too many digits: none of the policies reaches the service. With empty conditions, and with
not-a-number and an infinity in its principals, a policy does. -/
theorem unencodable_never_sent_nested :
    let o : Opened interface Handle := ⟨adapter, ⟨true, none⟩⟩
    let nested : Members :=
      [("StringEquals", .object [("k", .array [.notANumber false, .object [("x", .foreign "d")]])])]
    let large : Members := [("AWS", .array [.int (10 ^ Text.maxDigits : Nat)])]
    let unusual : Members := [("AWS", .array [.notANumber false, .float (.infinite true)])]
    let trust : Value := .object [("trusted_principals", .array []), ("conditions", .object nested)]
    let create : ClientCall := .createIdentity
      { identityName := .plain (.str "ci"), description := .plain .null
        tenantId := .plain (.str "t"), region := .plain .null
        trustConfig := .present trust, options := .present .null }
    let attach (principals : Members) : ClientCall := .attachInlinePolicy (some
      { identityName := some "ci"
        policyDocument := some
          { name := some " p"
            statements := [{ effect := .allow, conditions := some [] },
              { effect := .deny, principals := some principals }] } })
    let state : String → String → Option String := fun _ _ => none
    Unsent "assume role policy document" state (o.outcome (keeper true) create state) ∧
    Unsent "inline policy document" state (o.outcome (keeper true) (attach nested) state) ∧
    Unsent "inline policy document" state (o.outcome (keeper true) (attach large) state) ∧
    ¬ Unsent "inline policy document" state (o.outcome (keeper true) (attach unusual) state) := by
  intro o nested large unusual trust create attach state
  have hnested : (Value.object nested).Unencodable := by
    refine .member List.mem_cons_self (.member List.mem_cons_self ?_)
    exact .item (List.mem_cons_of_mem _ List.mem_cons_self)
      (.member List.mem_cons_self (.foreign "d"))
  have hlarge : (Value.object large).Unencodable := by
    refine .member List.mem_cons_self (.item List.mem_cons_self ?_)
    exact Value.unencodable_int_iff.mpr (Int.natAbs_natCast _).ge
  have hunusual : ¬ (Value.object unusual).Unencodable :=
    Value.writable_iff.mp ⟨_, (rfl : Value.write? compact _ = some _)⟩
  have hcreate : create.Asks (.createIdentity
      { identityName := "ci", tenantId := "t"
        trustConfig := some { conditions := some nested } }) :=
    .createIdentity ⟨rfl, 'c', by decide, by decide⟩ ⟨rfl, 't', by decide, by decide⟩ rfl rfl
      (.present ⟨by decide, rfl, rfl⟩) .absent rfl rfl
  have hattach : ∀ principals, ∃ r, (attach principals).Asks (.attachInlinePolicy r) ∧
      r.policyDocument = some
        { name := some " p"
          statements := [{ effect := .allow, conditions := some [] },
            { effect := .deny, principals := some principals }] } :=
    fun principals => ⟨_, .attachInlinePolicy rfl ⟨'c', by decide, by decide⟩ rfl, rfl⟩
  obtain ⟨_, hcreated, hattached⟩ :=
    unencodable_never_sent (h := ⟨true, none⟩) rfl (keeper true) state
  have hfilled : ∃ x ∈ " p".toList, Text.isBlank x = false := ⟨'p', by decide, by decide⟩
  have hunsent (principals : Members) (hpart : (Value.object principals).Unencodable) :
      Unsent "inline policy document" state
        (o.outcome (keeper true) (attach principals) state) := by
    obtain ⟨r, hasks, hdocument⟩ := hattach principals
    apply (hattached _ r _ _ hasks hdocument rfl hfilled).mpr
    exact ⟨_, List.mem_cons_of_mem _ List.mem_cons_self, principals, .inr rfl, hpart⟩
  refine ⟨(hcreated _ _ hcreate).mpr ⟨_, rfl, nested, rfl, hnested⟩, hunsent nested hnested,
    hunsent large hlarge, ?_⟩
  · obtain ⟨r, hasks, hdocument⟩ := hattach unusual
    rw [hattached _ r _ _ hasks hdocument rfl hfilled]
    rintro ⟨s, hs, ms, hms, hpart⟩
    rcases List.mem_cons.mp hs with rfl | hrest
    · rcases hms with hms | hms
      · obtain rfl := Option.some.inj hms
        cases hpart with
        | member hmem _ => cases hmem
      · cases hms
    · obtain rfl := List.mem_singleton.mp hrest
      rcases hms with hms | hms
      · cases hms
      · obtain rfl := Option.some.inj hms
        exact hunusual hpart

end Aws

end CloudIdentity

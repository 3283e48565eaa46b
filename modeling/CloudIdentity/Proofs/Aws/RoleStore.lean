import CloudIdentity.Aws.Roles
import CloudIdentity.Proofs.Document.Difference

/-!
A service that keeps a role. Of each role it stores one record, creates it once, hands it back whole
and changes it as asked; any call may fail, and then changes nothing. The trust policy is handed
back parsed, or as percent-encoded text.
-/

namespace CloudIdentity.Aws

open Document

/-! ## Records -/

/-- A stored role. Its trust policy is a JSON text; what that says stands beside it. -/
structure RoleRecord where
  arn : String
  description : Option String
  sessionDuration : Option Int
  trust : String
  trusted : Reading
  reads : Reading.ofText? trust = some trusted

/-- The forms in which the trust policy of a record is handed back. -/
inductive RoleRecord.Presents (record : RoleRecord) : Value → Prop where
  | parsed {members : Members} (h : record.trusted = (Value.object members).spelled) :
      Presents record (.object members)
  | text {s : String} (h : Text.Percent.Encodes record.trust.toList s.toList) :
      Presents record (.str s)

/-- The members of a role in a response show a record. -/
structure RoleRecord.Shown (record : RoleRecord) (name : String) (role : Members) : Prop where
  name : role.lookup "RoleName" = some (.str name)
  arn : role.lookup "Arn" = some (.str record.arn)
  description : role.lookup "Description" = record.description.map .str
  sessionDuration : role.lookup "MaxSessionDuration" = record.sessionDuration.map .int
  trust : ∃ document, role.lookup "AssumeRolePolicyDocument" = some document ∧
    record.Presents document

/-- A response shows a record. -/
def RoleRecord.Answered (record : RoleRecord) (name : String) (response : Value) : Prop :=
  ∃ role, response.member "Role" = .ok (.object role) ∧ record.Shown name role

/-- What an answer tells of the stored role: after a failure it is as it was before, after a
response it has been changed as the response says. -/
def Effect {σ ρ : Type} (record : σ → Option RoleRecord) (state : σ)
    (change : ρ → Option RoleRecord → Prop) : Except Failure ρ × σ → Prop
  | (.error _, after) => record after = record state
  | (.ok response, after) => change response (record after)

/-- A service keeps the role of that name in its state. -/
structure RoleStore {σ : Type} (service : Service interface σ) (name : String) where
  record : σ → Option RoleRecord
  createRole : ∀ (c : RoleCreation) state, c.roleName = name →
    Effect record state (fun response after => record state = none ∧
      ∃ new, after = some new ∧ new.Answered name response ∧
        new.description.getD "" = c.description ∧
        (∀ seconds, c.maxSessionDuration = some seconds → new.sessionDuration = some seconds) ∧
        new.trust = c.trustPolicy) (service.answer (.createRole c) state)
  getRole : ∀ state,
    Effect record state (fun response after => after = record state ∧
      ∃ old, record state = some old ∧ old.Answered name response)
      (service.answer (.getRole name) state)
  updateRole : ∀ description duration state,
    Effect record state (fun _ after => ∃ old new, record state = some old ∧ after = some new ∧
      new.arn = old.arn ∧ new.description.getD "" = description ∧
      new.sessionDuration = duration.or old.sessionDuration ∧ new.trust = old.trust)
      (service.answer (.updateRole (.str name) description duration) state)
  updateTrustPolicy : ∀ document state,
    Effect record state (fun _ after => ∃ old new, record state = some old ∧ after = some new ∧
      new.arn = old.arn ∧ new.description = old.description ∧
      new.sessionDuration = old.sessionDuration ∧ new.trust = document)
      (service.answer (.updateTrustPolicy (.str name) document) state)

/-! ## What is out of date -/

namespace RoleRecord

variable {record : RoleRecord}

/-- The description is stored, an absent one counting as empty, and so is a duration that is asked
for. -/
structure Current (record : RoleRecord) (description : String) (duration : Option Int) : Prop where
  description : record.description.getD "" = description
  sessionDuration : ∀ seconds, duration = some seconds → record.sessionDuration = some seconds

/-- The stored trust policy and a text are equal in what they say, which is what they are compared by
in whatever form the policy is handed back. -/
def Trusts (record : RoleRecord) (text : String) : Prop :=
  ∃ requested, Reading.ofText? text = some requested ∧ record.trusted.equal requested = true

theorem descriptionDiffers_eq (stored : Option String) (requested : String) :
    descriptionDiffers ((stored.map Value.str).getD .null) requested =
      decide (stored.getD "" ≠ requested) := by
  have hequal (a b : String) : (Value.str a).equal (.str b) = decide (a = b) := by
    simp [Value.equal, Value.same, Value.sameScalar, Value.scalar?]
  have hstored : (if ((stored.map Value.str).getD .null).truthy then
      (stored.map Value.str).getD .null else Value.str "") = .str (stored.getD "") := by
    cases stored with
    | none => rfl
    | some s => by_cases h : s = "" <;> simp [Value.truthy, h]
  simp only [descriptionDiffers, hstored, hequal, decide_not]

theorem durationDiffers_eq (stored duration : Option Int) :
    durationDiffers ((stored.map Value.int).getD .null) duration =
      decide (∃ seconds, duration = some seconds ∧ stored ≠ some seconds) := by
  cases duration with
  | none => simp [durationDiffers]
  | some seconds =>
    cases stored with
    | none => simp [durationDiffers, Value.equal, Value.same, Value.sameScalar, Value.scalar?]
    | some n =>
      simp [durationDiffers, Value.equal, Value.same, Value.sameScalar, Value.scalar?, eq_comm]

/-- A role is updated unless its description and its session duration are current. -/
theorem differs_iff (description : String) (duration : Option Int) :
    (descriptionDiffers ((record.description.map Value.str).getD .null) description ||
      durationDiffers ((record.sessionDuration.map Value.int).getD .null) duration) = false ↔
      record.Current description duration := by
  rw [descriptionDiffers_eq, durationDiffers_eq, Bool.or_eq_false_iff, decide_eq_false_iff_not,
    decide_eq_false_iff_not, not_not]
  constructor
  · rintro ⟨hdescription, hduration⟩
    refine ⟨hdescription, fun seconds hseconds => ?_⟩
    by_contra hne
    exact hduration ⟨seconds, hseconds, hne⟩
  · rintro ⟨hdescription, hduration⟩
    refine ⟨hdescription, ?_⟩
    rintro ⟨seconds, hseconds, hne⟩
    exact hne (hduration seconds hseconds)

/-- In whatever form a trust policy is handed back, it differs from a new one unless the two are
equal in what they say. -/
theorem Presents.differs {document : Value} {requested : Reading} {text : String}
    (h : record.Presents document) (hrequested : Reading.ofText? text = some requested) :
    Response.differs document (some text) = .ok (!record.trusted.equal requested) := by
  cases h with
  | parsed h =>
    rw [h, ← Stored.differs_parsed hrequested]
    rfl
  | text h =>
    rw [← Stored.differs_text h record.reads hrequested]
    rfl

end RoleRecord

/-- A trust configuration whose conditions, if it has any, have a text. -/
def Encodable (trust : Option TrustConfiguration) : Prop :=
  ∀ conditions, trust.bind TrustConfiguration.conditions = some conditions →
    (Value.object conditions).Writable compact

theorem forall_listed {P : Value → Prop} {name : String} {texts : List String}
    (h : P (.ofTexts texts)) : ∀ m ∈ listed name texts, P m.2 := by
  intro m hm
  unfold listed at hm
  split at hm
  · cases hm
  · rwa [List.mem_singleton.mp hm]

theorem forall_mapped {P : Value → Prop} {name : String} {members : Option Members}
    (h : ∀ ms, members = some ms → P (.object ms)) : ∀ m ∈ mapped name members, P m.2 := by
  intro m hm
  unfold mapped at hm
  split at hm
  · rw [List.mem_singleton.mp hm]
    exact h _ rfl
  · cases hm

/-- Nothing but the conditions can keep a trust policy from having a text. -/
theorem Encodable.trustPolicyText {trust : Option TrustConfiguration} (h : Encodable trust)
    (tenantId : String) : ∃ text, trustPolicyText tenantId trust = .ok text := by
  have hprincipals :
      (Value.object (principalMembers (trustedPrincipals tenantId trust))).Writable compact := by
    have hlisted (name : String) (texts : List String) :
        ∀ m ∈ listed name texts, m.2.Writable compact :=
      forall_listed (Value.writable_ofTexts texts)
    apply Value.writable_object
    exact List.forall_mem_append.mpr ⟨hlisted _ _, hlisted _ _⟩
  have hpolicy : (trustPolicy tenantId trust).Writable compact := by
    apply Value.writable_object
    simp only [List.forall_mem_cons, List.not_mem_nil, false_implies, implies_true, and_true]
    refine ⟨Value.writable_str _, Value.writable_array ?_⟩
    simp only [List.forall_mem_cons, List.not_mem_nil, false_implies, implies_true, and_true]
    apply Value.writable_object
    simp only [List.cons_append, List.nil_append, List.forall_mem_cons]
    exact ⟨Value.writable_str _, Value.writable_str _, hprincipals, forall_mapped h⟩
  exact hpolicy.serialize _

/-- The text of a trust policy is read back as an object that is equal to itself. -/
theorem trustPolicyText_reads {tenantId : String} {trust : Option TrustConfiguration}
    {text : String} (h : trustPolicyText tenantId trust = .ok text) :
    ∃ requested, Reading.ofText? text = some requested ∧ requested.equal requested = true := by
  rw [trustPolicyText, serialize_eq_ok_iff] at h
  have hreads := Value.ofText?_eq_some_iff.mp (Value.ofText?_of_text? Reader.passes_compact h)
  refine ⟨_, hreads, ?_⟩
  have hsame := (Reading.sound_of_ofText? hreads).same
  rw [trustPolicy, Value.reread, Value.spelled] at hsame ⊢
  exact hsame

theorem RoleRecord.trusted_eq {record : RoleRecord} {v : Reading}
    (h : Reading.ofText? record.trust = some v) : record.trusted = v :=
  Option.some.inj (record.reads.symm.trans h)

theorem RoleRecord.trusts_of_trust_eq {record : RoleRecord} {tenantId : String}
    {trust : Option TrustConfiguration} {text : String}
    (htext : trustPolicyText tenantId trust = .ok text) (h : record.trust = text) :
    record.Trusts text := by
  obtain ⟨requested, hreads, hself⟩ := trustPolicyText_reads htext
  have hstored : record.trusted = requested := by
    apply RoleRecord.trusted_eq
    rw [h, hreads]
  exact ⟨requested, hreads, hstored ▸ hself⟩

end CloudIdentity.Aws

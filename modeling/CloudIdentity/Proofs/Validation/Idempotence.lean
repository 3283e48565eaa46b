import CloudIdentity.Identity.Request
import CloudIdentity.Proofs.Validation.Acceptance

/-!
Validation comes to rest after one pass. A record that was made of an object is made again of the
object that holds its fields: texts, effects and objects are written as they were read, and the
loose spelling of an integer has given way to the integer itself. Only a session duration is held
back by a rule, and the rule is about the integer that was read, not about its spelling.
-/

namespace CloudIdentity

open Document Validation

variable {α : Type}

/-! ## Values that are read back -/

namespace Validation.Reader

variable {read : Reader α} {toValue : α → Value}

/-- What may be absent is read back if it is where it is there. -/
theorem nullable_orNull (hnull : ∀ a, read .null ≠ .accepted a) {a : Option α}
    (h : ∀ b ∈ a, read (toValue b) = .accepted b) :
    read.nullable (orNull toValue a) = .accepted a := by
  rw [nullable_eq_accepted_iff hnull]
  cases a with
  | none => exact Or.inl ⟨rfl, rfl⟩
  | some b => exact Or.inr ⟨b, h b rfl, rfl⟩

theorem itemsFrom_map {items : List α} (h : ∀ a ∈ items, read (toValue a) = .accepted a)
    (position : Nat) : itemsFrom read position (items.map toValue) = .accepted items := by
  induction items generalizing position with
  | nil => rfl
  | cons a items ih =>
    obtain ⟨hhead, htail⟩ := List.forall_mem_cons.mp h
    rw [List.map_cons, itemsFrom, hhead, ih htail]
    rfl

/-- A list is read back if its items are. -/
theorem list_map {items : List α} (h : ∀ a ∈ items, read (toValue a) = .accepted a) :
    list read (.array (items.map toValue)) = .accepted items :=
  itemsFrom_map h 0

/-- A loose spelling of an integer gives way to the integer, which is read as itself. -/
theorem positive_int {n : Int} (h : 0 < n) : positive (.int n) = .accepted n :=
  positive_eq_accepted_iff.mpr ⟨rfl, h⟩

end Validation.Reader

namespace Document.Members

/-- A record that has just the known names is made if its fields are. -/
theorem closed_of_names {members : Members} {known : List String} {body : Checked α} {a : α}
    (hnames : members.map Prod.fst = known) (h : body = .accepted a) :
    members.closed known body = .accepted a := by
  refine closed_eq_accepted_iff.mpr ⟨?_, h⟩
  intro m hm
  rw [← hnames]
  exact List.mem_map_of_mem hm

theorem withDefault_of_lookup {members : Members} {name : String} {read : Reader α}
    {value a : α} {v : Value} (hlookup : members.lookup name = some v) (h : read v = .accepted a) :
    members.withDefault name read value = .accepted a := by
  rw [withDefault, field, hlookup]
  exact Checked.under_eq_accepted_iff.mpr h

end Document.Members

/-! ## Records that are read back -/

theorem Effect.read_name (e : Effect) : Effect.read (.str e.name) = .accepted e := by
  cases e <;> rfl

namespace Statement

theorem read_toValue (s : Statement) : read s.toValue = .accepted s := by
  have hresources : (Reader.list Reader.text).nullable (orNull .ofTexts s.resources)
      = .accepted s.resources :=
    Reader.nullable_orNull nofun fun _ _ => Reader.list_text_eq_accepted_iff.mpr rfl
  refine Reader.record_eq_accepted_iff.mpr ⟨_, rfl, Members.closed_of_names rfl ?_⟩
  simp only [Checked.seq_eq_accepted_iff, Checked.map_eq_accepted_iff,
    Members.required_eq_accepted_iff, Members.optional_text_eq_accepted_iff,
    Members.optional_mapping_eq_accepted_iff, Members.texts_eq_accepted_iff]
  exact ⟨_, _, ⟨_, _, ⟨_, _, ⟨_, _, ⟨_, _, ⟨_, rfl, rfl⟩, ⟨_, rfl, Effect.read_name s.effect⟩, rfl⟩,
    rfl, rfl⟩, Members.optional_eq_accepted_iff.mpr hresources, rfl⟩, rfl, rfl⟩, rfl, rfl⟩

end Statement

namespace PolicyDocument

theorem read_toValue (d : PolicyDocument) : read d.toValue = .accepted d := by
  refine Reader.record_eq_accepted_iff.mpr ⟨_, rfl, Members.closed_of_names rfl ?_⟩
  simp only [Checked.seq_eq_accepted_iff, Checked.map_eq_accepted_iff,
    Members.optional_text_eq_accepted_iff]
  exact ⟨_, _, ⟨_, _, ⟨_, rfl, rfl⟩, rfl, rfl⟩,
    Members.withDefault_of_lookup rfl (Reader.list_map fun s _ => s.read_toValue), rfl⟩

end PolicyDocument

namespace TrustConfiguration

theorem read_toValue (t : TrustConfiguration) : read t.toValue = .accepted t := by
  refine Reader.record_eq_accepted_iff.mpr ⟨_, rfl, Members.closed_of_names rfl ?_⟩
  simp only [Checked.seq_eq_accepted_iff, Checked.map_eq_accepted_iff,
    Members.texts_eq_accepted_iff, Members.optional_mapping_eq_accepted_iff]
  exact ⟨_, _, ⟨_, rfl, rfl⟩, rfl, rfl⟩

end TrustConfiguration

namespace CreateOptions

/-- Options with the rule that validation holds a session duration to. -/
def Timely (o : CreateOptions) : Prop := ∀ n ∈ o.maxSessionDuration, 0 < n

theorem Timely.read_toValue {o : CreateOptions} (h : o.Timely) : read o.toValue = .accepted o := by
  have hduration : Reader.positive.nullable (orNull .int o.maxSessionDuration)
      = .accepted o.maxSessionDuration :=
    Reader.nullable_orNull nofun fun n hn => Reader.positive_int (h n hn)
  refine Reader.record_eq_accepted_iff.mpr ⟨_, rfl, Members.closed_of_names rfl ?_⟩
  simp only [Checked.seq_eq_accepted_iff, Checked.map_eq_accepted_iff,
    Members.optional_text_eq_accepted_iff]
  exact ⟨_, _, ⟨_, _, ⟨_, rfl, rfl⟩, Members.optional_eq_accepted_iff.mpr hduration, rfl⟩, rfl, rfl⟩

/-- The rule is about the integer that a value stands for, so it holds of whatever is read. -/
theorem timely_of_read {v : Value} {o : CreateOptions} (h : read v = .accepted o) : o.Timely := by
  obtain ⟨members, rfl, hmembers⟩ := Reader.record_eq_accepted_iff.mp h
  intro n hn
  rcases ((readMembers_eq_accepted_iff members o).mp hmembers).maxSessionDuration with
    ⟨_, hnone⟩ | ⟨n', _, hpositive, hsome⟩
  · rw [hnone] at hn
    cases hn
  · rw [hsome] at hn
    cases hn
    exact hpositive

end CreateOptions

namespace Request

/-! ## Requests that are read back -/

namespace CreateIdentity

/-- A request whose options, if it has any, keep the rule for session durations. -/
def Timely (r : CreateIdentity) : Prop := ∀ o ∈ r.options, o.Timely

theorem Timely.read_toValue {r : CreateIdentity} (h : r.Timely) :
    Reader.record readMembers r.toValue = .accepted r := by
  have htrust : TrustConfiguration.read.nullable (orNull TrustConfiguration.toValue r.trustConfig)
      = .accepted r.trustConfig :=
    Reader.nullable_orNull nofun fun t _ => t.read_toValue
  have hoptions : CreateOptions.read.nullable (orNull CreateOptions.toValue r.options)
      = .accepted r.options :=
    Reader.nullable_orNull nofun fun o ho => (h o ho).read_toValue
  refine Reader.record_eq_accepted_iff.mpr ⟨_, rfl, Members.closed_of_names rfl ?_⟩
  simp only [Checked.seq_eq_accepted_iff, Checked.map_eq_accepted_iff,
    Members.required_eq_accepted_iff, Members.optional_text_eq_accepted_iff]
  exact ⟨_, _, ⟨_, _, ⟨_, _, ⟨_, _, ⟨_, _, ⟨_, ⟨_, rfl, rfl⟩, rfl⟩, rfl, rfl⟩, ⟨_, rfl, rfl⟩, rfl⟩,
    rfl, rfl⟩, Members.optional_eq_accepted_iff.mpr htrust, rfl⟩,
    Members.optional_eq_accepted_iff.mpr hoptions, rfl⟩

theorem timely_of_read {v : Value} {r : CreateIdentity}
    (h : Reader.record readMembers v = .accepted r) : r.Timely := by
  obtain ⟨members, rfl, hmembers⟩ := Reader.record_eq_accepted_iff.mp h
  obtain ⟨_, hbody⟩ := Members.closed_eq_accepted_iff.mp hmembers
  simp only [Checked.seq_eq_accepted_iff, Checked.map_eq_accepted_iff] at hbody
  obtain ⟨_, options, ⟨_, _, ⟨_, _, ⟨_, _, ⟨_, _, ⟨_, _, rfl⟩, _, rfl⟩, _, rfl⟩, _, rfl⟩, _, rfl⟩,
    hoptions, rfl⟩ := hbody
  intro o ho
  rcases (Reader.nullable_eq_accepted_iff nofun).mp (Members.optional_eq_accepted_iff.mp hoptions)
    with ⟨_, rfl⟩ | ⟨o', ho', rfl⟩
  · cases ho
  · cases ho
    exact CreateOptions.timely_of_read ho'

end CreateIdentity

theorem AttachInlinePolicy.read_toValue (r : AttachInlinePolicy) :
    Reader.record readMembers r.toValue = .accepted r := by
  have hdocument : PolicyDocument.read.nullable (orNull PolicyDocument.toValue r.policyDocument)
      = .accepted r.policyDocument :=
    Reader.nullable_orNull nofun fun d _ => d.read_toValue
  refine Reader.record_eq_accepted_iff.mpr ⟨_, rfl, Members.closed_of_names rfl ?_⟩
  simp only [Checked.seq_eq_accepted_iff, Checked.map_eq_accepted_iff,
    Members.optional_text_eq_accepted_iff]
  exact ⟨_, _, ⟨_, _, ⟨_, _, ⟨_, _, ⟨_, rfl, rfl⟩, Members.optional_eq_accepted_iff.mpr hdocument,
    rfl⟩, rfl, rfl⟩, rfl, rfl⟩, rfl, rfl⟩

theorem GetInlinePolicyDetails.read_toValue (r : GetInlinePolicyDetails) :
    Reader.record readMembers r.toValue = .accepted r := by
  refine Reader.record_eq_accepted_iff.mpr ⟨_, rfl, Members.closed_of_names rfl ?_⟩
  simp only [Checked.seq_eq_accepted_iff, Checked.map_eq_accepted_iff,
    Members.optional_text_eq_accepted_iff]
  exact ⟨_, _, ⟨_, _, ⟨_, _, ⟨_, _, ⟨_, rfl, rfl⟩, rfl, rfl⟩, rfl, rfl⟩, rfl, rfl⟩, rfl, rfl⟩

theorem GetAttachedPolicies.read_toValue (r : GetAttachedPolicies) :
    Reader.record readMembers r.toValue = .accepted r := by
  refine Reader.record_eq_accepted_iff.mpr ⟨_, rfl, Members.closed_of_names rfl ?_⟩
  simp only [Checked.seq_eq_accepted_iff, Checked.map_eq_accepted_iff,
    Members.optional_text_eq_accepted_iff]
  exact ⟨_, _, ⟨_, _, ⟨_, _, ⟨_, rfl, rfl⟩, rfl, rfl⟩, rfl, rfl⟩, rfl, rfl⟩

theorem RemovePolicy.read_toValue (r : RemovePolicy) :
    Reader.record readMembers r.toValue = .accepted r := by
  refine Reader.record_eq_accepted_iff.mpr ⟨_, rfl, Members.closed_of_names rfl ?_⟩
  simp only [Checked.seq_eq_accepted_iff, Checked.map_eq_accepted_iff,
    Members.required_eq_accepted_iff, Members.optional_text_eq_accepted_iff]
  exact ⟨_, _, ⟨_, _, ⟨_, _, ⟨_, ⟨_, rfl, rfl⟩, rfl⟩, ⟨_, rfl, rfl⟩, rfl⟩, ⟨_, rfl, rfl⟩, rfl⟩,
    rfl, rfl⟩

theorem DeleteIdentity.read_toValue (r : DeleteIdentity) :
    Reader.record readMembers r.toValue = .accepted r := by
  refine Reader.record_eq_accepted_iff.mpr ⟨_, rfl, Members.closed_of_names rfl ?_⟩
  simp only [Checked.seq_eq_accepted_iff, Checked.map_eq_accepted_iff,
    Members.required_eq_accepted_iff, Members.optional_text_eq_accepted_iff]
  exact ⟨_, _, ⟨_, _, ⟨_, ⟨_, rfl, rfl⟩, rfl⟩, ⟨_, rfl, rfl⟩, rfl⟩, rfl, rfl⟩

theorem GetIdentity.read_toValue (r : GetIdentity) :
    Reader.record readMembers r.toValue = .accepted r := by
  refine Reader.record_eq_accepted_iff.mpr ⟨_, rfl, Members.closed_of_names rfl ?_⟩
  simp only [Checked.seq_eq_accepted_iff, Checked.map_eq_accepted_iff,
    Members.required_eq_accepted_iff, Members.optional_text_eq_accepted_iff]
  exact ⟨_, _, ⟨_, _, ⟨_, ⟨_, rfl, rfl⟩, rfl⟩, ⟨_, rfl, rfl⟩, rfl⟩, rfl, rfl⟩

end Request

/-! ## Every model -/

/-- The models that validation makes records of. -/
inductive Model where
  | statement
  | policyDocument
  | trustConfiguration
  | createOptions
  | createIdentity
  | attachInlinePolicy
  | getInlinePolicyDetails
  | getAttachedPolicies
  | removePolicy
  | deleteIdentity
  | getIdentity

namespace Model

open Request

def Record : Model → Type
  | statement => Statement
  | policyDocument => PolicyDocument
  | trustConfiguration => TrustConfiguration
  | createOptions => CreateOptions
  | createIdentity => CreateIdentity
  | attachInlinePolicy => AttachInlinePolicy
  | getInlinePolicyDetails => GetInlinePolicyDetails
  | getAttachedPolicies => GetAttachedPolicies
  | removePolicy => RemovePolicy
  | deleteIdentity => DeleteIdentity
  | getIdentity => GetIdentity

def read : (m : Model) → Validation.Reader m.Record
  | statement => Statement.read
  | policyDocument => PolicyDocument.read
  | trustConfiguration => TrustConfiguration.read
  | createOptions => CreateOptions.read
  | createIdentity => Reader.record CreateIdentity.readMembers
  | attachInlinePolicy => Reader.record AttachInlinePolicy.readMembers
  | getInlinePolicyDetails => Reader.record GetInlinePolicyDetails.readMembers
  | getAttachedPolicies => Reader.record GetAttachedPolicies.readMembers
  | removePolicy => Reader.record RemovePolicy.readMembers
  | deleteIdentity => Reader.record DeleteIdentity.readMembers
  | getIdentity => Reader.record GetIdentity.readMembers

/-- The object that holds a record's fields, those left out included. -/
def toValue : (m : Model) → m.Record → Value
  | statement => Statement.toValue
  | policyDocument => PolicyDocument.toValue
  | trustConfiguration => TrustConfiguration.toValue
  | createOptions => CreateOptions.toValue
  | createIdentity => CreateIdentity.toValue
  | attachInlinePolicy => AttachInlinePolicy.toValue
  | getInlinePolicyDetails => GetInlinePolicyDetails.toValue
  | getAttachedPolicies => GetAttachedPolicies.toValue
  | removePolicy => RemovePolicy.toValue
  | deleteIdentity => DeleteIdentity.toValue
  | getIdentity => GetIdentity.toValue

/-- The session duration that a record holds, its own or that of its options. -/
def sessionDuration? : (m : Model) → m.Record → Option Int
  | createOptions => CreateOptions.maxSessionDuration
  | createIdentity => fun r => CreateIdentity.options r >>= CreateOptions.maxSessionDuration
  | _ => fun _ => none

variable {m : Model} {r : m.Record}

theorem positive_of_read {v : Value} (h : m.read v = .accepted r) :
    ∀ n ∈ m.sessionDuration? r, 0 < n := by
  cases m with
  | createOptions => exact CreateOptions.timely_of_read h
  | createIdentity =>
    intro n hn
    obtain ⟨o, ho, hduration⟩ := Option.bind_eq_some_iff.mp hn
    exact CreateIdentity.timely_of_read h o ho n hduration
  | _ => exact nofun

theorem read_toValue_of_positive (h : ∀ n ∈ m.sessionDuration? r, 0 < n) :
    m.read (m.toValue r) = .accepted r := by
  cases m with
  | statement => exact Statement.read_toValue r
  | policyDocument => exact PolicyDocument.read_toValue r
  | trustConfiguration => exact TrustConfiguration.read_toValue r
  | createOptions => exact CreateOptions.Timely.read_toValue h
  | createIdentity =>
    refine CreateIdentity.Timely.read_toValue fun o ho n hn => h n ?_
    exact Option.bind_eq_some_iff.mpr ⟨o, ho, hn⟩
  | attachInlinePolicy => exact AttachInlinePolicy.read_toValue r
  | getInlinePolicyDetails => exact GetInlinePolicyDetails.read_toValue r
  | getAttachedPolicies => exact GetAttachedPolicies.read_toValue r
  | removePolicy => exact RemovePolicy.read_toValue r
  | deleteIdentity => exact DeleteIdentity.read_toValue r
  | getIdentity => exact GetIdentity.read_toValue r

/-- The object that holds the fields of an accepted record is accepted and makes the same record,
and a session duration in it is an integer greater than zero. -/
theorem read_toValue_of_read {v : Value} (h : m.read v = .accepted r) :
    m.read (m.toValue r) = .accepted r ∧ ∀ n ∈ m.sessionDuration? r, 0 < n :=
  ⟨read_toValue_of_positive (positive_of_read h), positive_of_read h⟩

/-- A request whose session duration is a numeral with blanks, a sign, a leading zero, an underscore
and zeros behind the point. -/
def looseRequest : Value :=
  .object [("options", .object [("max_session_duration", .str " +03_600.00 ")]),
    ("tenant_id", .str ""), ("identity_name", .str "ci"),
    ("trust_config", .object [("conditions", .object [("Bool", .array [.bool true, .int 0])])])]

/-- The request that `looseRequest` is read as. -/
def strictRequest : CreateIdentity where
  identityName := "ci"
  tenantId := ""
  trustConfig := some { conditions := some [("Bool", .array [.bool true, .int 0])] }
  options := some { maxSessionDuration := some 3600 }

theorem read_toValue_looseRequest :
    createIdentity.read looseRequest = .accepted strictRequest ∧
      createIdentity.read (createIdentity.toValue strictRequest) = .accepted strictRequest ∧
      createIdentity.sessionDuration? strictRequest = some 3600 ∧ (0 : Int) < 3600 := by
  have htrust : ReadOptionally TrustConfiguration.ReadFrom strictRequest.trustConfig
      (.object [("conditions", .object [("Bool", .array [.bool true, .int 0])])]) :=
    .present ⟨by decide, rfl, rfl⟩
  have hnumeral : Text.Numeral.ofText " +03_600.00 " = .integer 3600 := by decide +kernel
  have hduration : Reader.integer (.str " +03_600.00 ") = .accepted 3600 := by
    rw [Reader.integer, hnumeral]
    rfl
  have hoptions : ReadOptionally CreateOptions.ReadFrom strictRequest.options
      (.object [("max_session_duration", .str " +03_600.00 ")]) :=
    .present ⟨by decide, rfl, Or.inr ⟨3600, hduration, by decide, rfl⟩, rfl⟩
  have hread : Reader.record CreateIdentity.readMembers looseRequest = .accepted strictRequest := by
    refine Reader.record_eq_accepted_iff.mpr ⟨_, rfl, Members.closed_eq_accepted_iff.mpr
      ⟨by decide, ?_⟩⟩
    simp only [Checked.seq_eq_accepted_iff, Checked.map_eq_accepted_iff,
      Members.required_eq_accepted_iff, Members.optional_text_eq_accepted_iff,
      TrustConfiguration.optional_read_eq_accepted_iff, CreateOptions.optional_read_eq_accepted_iff]
    exact ⟨_, _, ⟨_, _, ⟨_, _, ⟨_, _, ⟨_, _, ⟨_, ⟨_, rfl, rfl⟩, rfl⟩, rfl, rfl⟩,
      ⟨_, rfl, rfl⟩, rfl⟩, rfl, rfl⟩, htrust, rfl⟩, hoptions, rfl⟩
  obtain ⟨hagain, hpositive⟩ :=
    read_toValue_of_read (m := createIdentity) (r := strictRequest) (v := looseRequest) hread
  exact ⟨hread, hagain, rfl, hpositive 3600 rfl⟩

end Model
end CloudIdentity

import CloudIdentity.Identity.Trust

/-!
Which values a schema accepts, and what it makes of them. A reader of a record accepts an object if
it accepts each field by itself and knows every name; a field that may be left out counts as null
where it is. From the readers of the fields follows what the two records inside a request are read
from: texts and objects as they are, and a session duration as the positive integer that a value
stands for.
-/

namespace CloudIdentity.Validation

open Document

variable {α β : Type}

/-! ## Results -/

namespace Checked

theorem map_eq_accepted_iff {f : α → β} {x : Checked α} {b : β} :
    f <$> x = accepted b ↔ ∃ a, x = accepted a ∧ f a = b := by
  constructor
  · intro h
    cases x with
    | accepted a => exact ⟨a, rfl, by injection h⟩
    | refused cs => cases h
  · rintro ⟨a, rfl, rfl⟩
    rfl

theorem under_eq_accepted_iff {step : Step} {x : Checked α} {a : α} :
    x.under step = accepted a ↔ x = accepted a := by
  cases x <;> simp [under]

theorem andThen_eq_accepted_iff {x : Checked α} {next : α → Checked β} {b : β} :
    x.andThen next = accepted b ↔ ∃ a, x = accepted a ∧ next a = accepted b := by
  cases x <;> simp [andThen]

end Checked

/-! ## Readers -/

namespace Reader

theorem text_eq_accepted_iff {v : Value} {s : String} : text v = .accepted s ↔ v = .str s := by
  constructor
  · intro h
    cases v with
    | str s' => rw [Checked.accepted.inj h]
    | _ => cases h
  · rintro rfl
    rfl

theorem mapping_eq_accepted_iff {v : Value} {members : Members} :
    mapping v = .accepted members ↔ v = .object members := by
  constructor
  · intro h
    cases v with
    | object members' => rw [Checked.accepted.inj h]
    | _ => cases h
  · rintro rfl
    rfl

theorem record_eq_accepted_iff {read : Members → Checked α} {v : Value} {a : α} :
    record read v = .accepted a ↔ ∃ members, v = .object members ∧ read members = .accepted a := by
  constructor
  · intro h
    cases v with
    | object members => exact ⟨members, rfl, h⟩
    | _ => cases h
  · rintro ⟨members, rfl, h⟩
    exact h

/-- Where a reader does not take null itself, null is what stands for nothing. -/
theorem nullable_eq_accepted_iff {read : Reader α} (hnull : ∀ a, read .null ≠ .accepted a)
    {v : Value} {a : Option α} :
    nullable read v = .accepted a ↔
      (v = .null ∧ a = none) ∨ ∃ b, read v = .accepted b ∧ a = some b := by
  by_cases hv : v = .null
  · subst hv
    constructor
    · intro h
      exact Or.inl ⟨rfl, (Checked.accepted.inj h).symm⟩
    · rintro (⟨_, rfl⟩ | ⟨b, hb, _⟩)
      · rfl
      · exact absurd hb (hnull b)
  · have hread : nullable read v = some <$> read v := by
      cases v with
      | null => exact absurd rfl hv
      | _ => rfl
    rw [hread, Checked.map_eq_accepted_iff]
    simp [hv, eq_comm]

theorem itemsFrom_text_eq_accepted_iff {items : List Value} {texts : List String} {position : Nat} :
    itemsFrom text position items = .accepted texts ↔ items = texts.map .str := by
  induction items generalizing texts position with
  | nil =>
    rw [itemsFrom, List.nil_eq, List.map_eq_nil_iff]
    exact ⟨fun h => (Checked.accepted.inj h).symm, fun h => by rw [h]; rfl⟩
  | cons v items ih =>
    simp only [itemsFrom, Checked.seq_eq_accepted_iff, Checked.map_eq_accepted_iff,
      Checked.under_eq_accepted_iff, text_eq_accepted_iff, ih]
    constructor
    · rintro ⟨_, rest, ⟨s, rfl, rfl⟩, rfl, rfl⟩
      rfl
    · intro h
      cases texts with
      | nil => cases h
      | cons s rest =>
        obtain ⟨rfl, rfl⟩ := List.cons.inj h
        exact ⟨_, rest, ⟨s, rfl, rfl⟩, rfl, rfl⟩

theorem list_text_eq_accepted_iff {v : Value} {texts : List String} :
    list text v = .accepted texts ↔ v = .ofTexts texts := by
  constructor
  · intro h
    cases v with
    | array items => rw [itemsFrom_text_eq_accepted_iff.mp h, Value.ofTexts]
    | _ => cases h
  · rintro rfl
    exact itemsFrom_text_eq_accepted_iff.mpr rfl

theorem positive_eq_accepted_iff {v : Value} {n : Int} :
    positive v = .accepted n ↔ integer v = .accepted n ∧ 0 < n := by
  rw [positive, Checked.andThen_eq_accepted_iff]
  constructor
  · rintro ⟨m, hm, h⟩
    split at h
    · next hpositive =>
      obtain rfl := Checked.accepted.inj h
      exact ⟨hm, hpositive⟩
    · cases h
  · rintro ⟨hn, hpositive⟩
    exact ⟨n, hn, by rw [if_pos hpositive]; rfl⟩

end Reader

end CloudIdentity.Validation

/-! ## Fields -/

namespace CloudIdentity.Document.Members

open Validation

variable {α : Type} {members : Members} {name : String} {read : Reader α}

theorem required_eq_accepted_iff {a : α} :
    members.required name read = .accepted a ↔
      ∃ v, members.lookup name = some v ∧ read v = .accepted a := by
  rw [required, field]
  cases members.lookup name with
  | some v => simp [Checked.under_eq_accepted_iff]
  | none => simp

/-- A member that may be left out counts as null where it is. -/
theorem optional_eq_accepted_iff {a : Option α} :
    members.optional name read = .accepted a ↔ read.nullable (members.get name) = .accepted a := by
  rw [optional, withDefault, field, get]
  cases members.lookup name with
  | some v => exact Checked.under_eq_accepted_iff
  | none => exact Iff.rfl

theorem optional_text_eq_accepted_iff {text : Option String} :
    members.optional name Reader.text = .accepted text ↔ members.get name = .ofText text := by
  rw [optional_eq_accepted_iff, Reader.nullable_eq_accepted_iff nofun]
  cases text with
  | none => simp [Value.ofText]
  | some s => simp [Value.ofText, Reader.text_eq_accepted_iff]

theorem optional_mapping_eq_accepted_iff {inner : Option Members} :
    members.optional name Reader.mapping = .accepted inner ↔
      members.get name = orNull .object inner := by
  rw [optional_eq_accepted_iff, Reader.nullable_eq_accepted_iff nofun]
  cases inner with
  | none => simp [orNull]
  | some ms => simp [orNull, Reader.mapping_eq_accepted_iff]

theorem texts_eq_accepted_iff {texts : List String} :
    members.withDefault name (Reader.list Reader.text) [] = .accepted texts ↔
      (members.lookup name).getD (.array []) = .ofTexts texts := by
  rw [withDefault, field]
  cases members.lookup name with
  | some v => exact Checked.under_eq_accepted_iff.trans Reader.list_text_eq_accepted_iff
  | none => exact Reader.list_text_eq_accepted_iff (v := .array [])

/-- A record that has no members but the known ones is accepted if its fields are. -/
theorem closed_eq_accepted_iff {known : List String} {body : Checked α} {a : α} :
    members.closed known body = .accepted a ↔
      (∀ m ∈ members, m.1 ∈ known) ∧ body = .accepted a := by
  have hstrangers : strangers known members = [] ↔ ∀ m ∈ members, m.1 ∈ known := by
    simp [strangers]
  rw [closed, ← hstrangers]
  cases strangers known members with
  | nil => simp
  | cons complaint complaints =>
    constructor
    · intro h
      cases body <;> cases h
    · rintro ⟨h, _⟩
      cases h

end CloudIdentity.Document.Members

/-! ## The records inside a request -/

namespace CloudIdentity

open Document Validation

/-- A value that stands for a record that may be absent: null, or an object that the record is read
from. -/
inductive ReadOptionally {α : Type} (ReadFrom : α → Members → Prop) : Option α → Value → Prop where
  | absent : ReadOptionally ReadFrom none .null
  | present {a : α} {members : Members} (h : ReadFrom a members) :
      ReadOptionally ReadFrom (some a) (.object members)

theorem readOptionally_iff {α : Type} {read : Members → Checked α} {ReadFrom : α → Members → Prop}
    (hread : ∀ members a, read members = .accepted a ↔ ReadFrom a members) {v : Value}
    {a : Option α} :
    (Reader.record read).nullable v = .accepted a ↔ ReadOptionally ReadFrom a v := by
  rw [Reader.nullable_eq_accepted_iff nofun]
  constructor
  · rintro (⟨rfl, rfl⟩ | ⟨b, hb, rfl⟩)
    · exact .absent
    · obtain ⟨members, rfl, hmembers⟩ := Reader.record_eq_accepted_iff.mp hb
      exact .present ((hread members b).mp hmembers)
  · intro h
    cases h with
    | absent => exact Or.inl ⟨rfl, rfl⟩
    | @present b members h =>
      refine Or.inr ⟨b, ?_, rfl⟩
      exact Reader.record_eq_accepted_iff.mpr ⟨members, rfl, (hread members b).mpr h⟩

namespace TrustConfiguration

/-- A trust configuration has the principals, none if they are left out, and the conditions that the
members of an object give. -/
structure ReadFrom (t : TrustConfiguration) (members : Members) : Prop where
  known : ∀ m ∈ members, m.1 ∈ fieldNames
  trustedPrincipals :
    (members.lookup "trusted_principals").getD (.array []) = .ofTexts t.trustedPrincipals
  conditions : members.get "conditions" = orNull .object t.conditions

theorem readMembers_eq_accepted_iff (members : Members) (t : TrustConfiguration) :
    readMembers members = .accepted t ↔ t.ReadFrom members := by
  rw [readMembers, Members.closed_eq_accepted_iff]
  simp only [Checked.seq_eq_accepted_iff, Checked.map_eq_accepted_iff,
    Members.texts_eq_accepted_iff, Members.optional_mapping_eq_accepted_iff]
  constructor
  · rintro ⟨hknown, _, conditions, ⟨principals, hprincipals, rfl⟩, hconditions, rfl⟩
    exact ⟨hknown, hprincipals, hconditions⟩
  · rintro ⟨hknown, hprincipals, hconditions⟩
    exact ⟨hknown, _, _, ⟨_, hprincipals, rfl⟩, hconditions, rfl⟩

theorem optional_read_eq_accepted_iff {members : Members} {name : String}
    {t : Option TrustConfiguration} :
    members.optional name read = .accepted t ↔ ReadOptionally ReadFrom t (members.get name) :=
  Members.optional_eq_accepted_iff.trans (readOptionally_iff readMembers_eq_accepted_iff)

end TrustConfiguration

namespace CreateOptions

/-- Options have the texts that the members of an object give, and as a session duration the
integer, greater than zero, that the value given for it stands for. -/
structure ReadFrom (o : CreateOptions) (members : Members) : Prop where
  known : ∀ m ∈ members, m.1 ∈ fieldNames
  path : members.get "path" = .ofText o.path
  maxSessionDuration :
    (members.get "max_session_duration" = .null ∧ o.maxSessionDuration = none) ∨
      ∃ n, Reader.integer (members.get "max_session_duration") = .accepted n ∧ 0 < n ∧
        o.maxSessionDuration = some n
  permissionBoundary : members.get "permission_boundary" = .ofText o.permissionBoundary

theorem duration_eq_accepted_iff {members : Members} {name : String} {duration : Option Int} :
    members.optional name Reader.positive = .accepted duration ↔
      (members.get name = .null ∧ duration = none) ∨
        ∃ n, Reader.integer (members.get name) = .accepted n ∧ 0 < n ∧ duration = some n := by
  rw [Members.optional_eq_accepted_iff, Reader.nullable_eq_accepted_iff nofun]
  simp only [Reader.positive_eq_accepted_iff, and_assoc]

theorem readMembers_eq_accepted_iff (members : Members) (o : CreateOptions) :
    readMembers members = .accepted o ↔ o.ReadFrom members := by
  rw [readMembers, Members.closed_eq_accepted_iff]
  simp only [Checked.seq_eq_accepted_iff, Checked.map_eq_accepted_iff,
    Members.optional_text_eq_accepted_iff, duration_eq_accepted_iff]
  constructor
  · rintro ⟨hknown, _, boundary, ⟨_, duration, ⟨path, hpath, rfl⟩, hduration, rfl⟩, hboundary, rfl⟩
    exact ⟨hknown, hpath, hduration, hboundary⟩
  · rintro ⟨hknown, hpath, hduration, hboundary⟩
    exact ⟨hknown, _, _, ⟨_, _, ⟨_, hpath, rfl⟩, hduration, rfl⟩, hboundary, rfl⟩

theorem optional_read_eq_accepted_iff {members : Members} {name : String}
    {o : Option CreateOptions} :
    members.optional name read = .accepted o ↔ ReadOptionally ReadFrom o (members.get name) :=
  Members.optional_eq_accepted_iff.trans (readOptionally_iff readMembers_eq_accepted_iff)

end CreateOptions

end CloudIdentity

import CloudIdentity.Configuration.Environment
import CloudIdentity.Configuration.Override
import CloudIdentity.Proofs.Validation.Acceptance

/-!
How a configuration is completed and read. To put a member in place, or to let it fall back to a
variable, changes what is found under its name and nothing else; a schema that knows the name reads
the rest as before, and complains about the same strangers. An override is read from its members as
they are, and is accepted only if it holds what some provider can use.
-/

namespace CloudIdentity.Document

open Validation

theorem Value.ofText_inj {text text' : Option String} :
    Value.ofText text = .ofText text' ↔ text = text' := by
  cases text <;> cases text' <;> simp [ofText]

namespace Members

variable {α : Type} {members members' : Members} {name other : String} {value : Value}

/-! ## Putting and erasing -/

theorem lookup_put_self : (members.put name value).lookup name = some value := by
  induction members with
  | nil => simp [put]
  | cons head members ih =>
    obtain ⟨key, old⟩ := head
    unfold put
    split
    · rw [List.lookup_cons_self]
    · next hne =>
      rw [List.lookup_cons, beq_eq_false_iff_ne.mpr (Ne.symm hne)]
      exact ih

theorem lookup_put_of_ne (h : other ≠ name) :
    (members.put name value).lookup other = members.lookup other := by
  induction members with
  | nil => simp [put, h]
  | cons head members ih =>
    obtain ⟨key, old⟩ := head
    unfold put
    split
    · next heq => simp [List.lookup_cons, heq, beq_eq_false_iff_ne.mpr h]
    · simp only [List.lookup_cons, ih]

theorem get_put_self : (members.put name value).get name = value := by
  rw [get, lookup_put_self, Option.getD_some]

theorem get_put_of_ne (h : other ≠ name) :
    (members.put name value).get other = members.get other := by
  rw [get, get, lookup_put_of_ne h]

theorem erase_put : (members.put name value).erase name = members.erase name := by
  induction members with
  | nil => simp [put, erase]
  | cons head members ih =>
    obtain ⟨key, old⟩ := head
    unfold put
    split
    · next heq => simp [erase, heq]
    · simp only [erase, List.filter_cons] at ih ⊢
      rw [ih]

theorem lookup_erase_of_ne (h : other ≠ name) :
    (members.erase name).lookup other = members.lookup other := by
  induction members with
  | nil => rfl
  | cons head members ih =>
    obtain ⟨key, old⟩ := head
    rw [erase, List.filter_cons]
    by_cases hkey : key = name
    · have hother : (other == key) = false := beq_eq_false_iff_ne.mpr (hkey ▸ h)
      rw [if_neg (by simp [hkey]), List.lookup_cons, hother]
      exact ih
    · rw [if_pos (by simp [hkey]), List.lookup_cons, List.lookup_cons, ← ih, erase]

theorem get_erase_of_ne (h : other ≠ name) :
    (members.erase name).get other = members.get other := by
  rw [get, get, lookup_erase_of_ne h]

theorem get_erase_self : (members.erase name).get name = .null := by
  have hnone : (members.erase name).lookup name = none := by
    rw [List.lookup_eq_none_iff]
    intro m hm
    have hkept : m.1 ≠ name := by simpa using (List.mem_filter.mp hm).2
    exact bne_iff_ne.mpr hkept.symm
  rw [get, hnone, Option.getD_none]

/-- A name that is known is no stranger's, so nobody asks whether it is there. -/
theorem strangers_erase {known : List String} (h : name ∈ known) :
    strangers known (members.erase name) = strangers known members := by
  rw [strangers, strangers, erase, List.filter_filter]
  congr 2
  funext m
  by_cases hkey : m.1 = name
  · simp [hkey, h]
  · simp [hkey]

theorem strangers_put {known : List String} (h : name ∈ known) :
    strangers known (members.put name value) = strangers known members := by
  rw [← strangers_erase h, erase_put, strangers_erase h]

/-! ## Falling back -/

/-- Gives a member a value, unless it already has one that counts. -/
def ensure (name : String) (value : Value) (members : Members) : Members :=
  if (members.get name).truthy then members else members.put name value

theorem get_ensure_self :
    (members.ensure name value).get name =
      if (members.get name).truthy then members.get name else value := by
  unfold ensure
  split
  · rfl
  · exact get_put_self

theorem get_ensure_of_ne (h : other ≠ name) :
    (members.ensure name value).get other = members.get other := by
  unfold ensure
  split
  · rfl
  · exact get_put_of_ne h

theorem strangers_ensure {known : List String} (h : name ∈ known) :
    strangers known (members.ensure name value) = strangers known members := by
  unfold ensure
  split
  · rfl
  · exact strangers_put h

/-! ## Reading -/

/-- A member that may be absent is read by what is found under its name. -/
theorem optional_congr (read : Reader α) (h : members.get name = members'.get name) :
    members.optional name read = members'.optional name read := by
  have hread (ms : Members) :
      ms.optional name read = (read.nullable (ms.get name)).under (.field name) := by
    rw [optional, withDefault, field, get]
    cases ms.lookup name <;> rfl
  rw [hread, hread, h]

theorem strangers_eq_nil_iff {known : List String} :
    strangers known members = [] ↔ ∀ m ∈ members, m.1 ∈ known := by
  simp [strangers]

theorem closed_congr {known : List String} {body body' : Checked α}
    (hstrangers : strangers known members = strangers known members') (hbody : body = body') :
    members.closed known body = members'.closed known body' := by
  rw [closed, closed, hstrangers, hbody]

theorem map_closed {β : Type} {known : List String} {body : Checked α} (f : α → β) :
    f <$> members.closed known body = members.closed known (f <$> body) := by
  unfold closed
  split
  · rfl
  · cases body <;> rfl

end Members

end CloudIdentity.Document

/-! ## Overrides -/

namespace CloudIdentity

open Document Validation

theorem given_iff {text : Option String} : given text = true ↔ ∃ s, text = some s ∧ s ≠ "" := by
  cases text <;> simp [given]

namespace OverrideKind

theorem read_eq_accepted_iff {v : Value} {kind : OverrideKind} :
    read v = .accepted kind ↔ v = .str kind.name := by
  constructor
  · intro h
    unfold read at h
    split at h
    · obtain rfl := Checked.accepted.inj h
      rfl
    · obtain rfl := Checked.accepted.inj h
      rfl
    · cases h
  · rintro rfl
    cases kind <;> rfl

end OverrideKind

namespace CredentialsOverride

/-- What an override has to hold: a role that it names, or a session by both keys or by a token. -/
def Sufficient (o : CredentialsOverride) : Prop :=
  match o.kind with
  | .assumeRole => given o.role = true
  | .session =>
    (given o.accessKeyId = true ∧ given o.secretAccessKey = true) ∨ given o.sessionToken = true

theorem sufficient_of_check {o o' : CredentialsOverride} (h : o.check = .accepted o') :
    o' = o ∧ o.Sufficient := by
  unfold check at h
  unfold Sufficient
  cases hkind : o.kind with
  | assumeRole =>
    simp only [hkind] at h
    split at h
    · next hrole => exact ⟨(Checked.accepted.inj h).symm, hrole⟩
    · cases h
  | session =>
    simp only [hkind, Bool.or_eq_true, Bool.and_eq_true] at h
    split at h
    · next hheld => exact ⟨(Checked.accepted.inj h).symm, hheld⟩
    · cases h

/-- The override has the kind and the texts that the members give, and holds what it has to. -/
structure ReadFrom (o : CredentialsOverride) (members : Members) : Prop where
  kind : members.get "type" = .str o.kind.name
  accessKeyId : members.get "access_key_id" = .ofText o.accessKeyId
  secretAccessKey : members.get "secret_access_key" = .ofText o.secretAccessKey
  sessionToken : members.get "session_token" = .ofText o.sessionToken
  role : members.get "role" = .ofText o.role
  sufficient : o.Sufficient

theorem ReadFrom.kind_eq_session {o : CredentialsOverride} {members : Members}
    (h : o.ReadFrom members) (hsession : members.get "type" = .str "session") :
    o.kind = .session := by
  have hname : "session" = o.kind.name := Value.str.inj (hsession.symm.trans h.kind)
  cases hkind : o.kind with
  | session => rfl
  | assumeRole =>
    rw [hkind] at hname
    exact absurd hname (by decide)

theorem readFrom_of_readMembers {members : Members} {o : CredentialsOverride}
    (h : readMembers members = .accepted o) : o.ReadFrom members := by
  rw [readMembers, Checked.andThen_eq_accepted_iff] at h
  obtain ⟨o', hfields, hcheck⟩ := h
  obtain ⟨rfl, hsufficient⟩ := sufficient_of_check hcheck
  rw [Members.closed_eq_accepted_iff] at hfields
  simp only [Checked.seq_eq_accepted_iff, Checked.map_eq_accepted_iff,
    Members.optional_text_eq_accepted_iff, Members.required_eq_accepted_iff,
    OverrideKind.read_eq_accepted_iff] at hfields
  obtain ⟨_, _, _, ⟨_, _, ⟨_, role, ⟨_, token, ⟨_, secret, ⟨_, key, ⟨kind, ⟨_, hlookup, rfl⟩, rfl⟩,
    hkey, rfl⟩, hsecret, rfl⟩, htoken, rfl⟩, hrole, rfl⟩, _, rfl⟩, _, rfl⟩ := hfields
  have hkind : members.get "type" = .str kind.name := by rw [Members.get, hlookup, Option.getD_some]
  exact ⟨hkind, hkey, hsecret, htoken, hrole, hsufficient⟩

theorem readFrom_of_optional {members inner : Members} {name : String}
    {o : Option CredentialsOverride} (h : members.optional name read = .accepted o)
    (hinner : members.get name = .object inner) : ∃ o', o = some o' ∧ o'.ReadFrom inner := by
  rw [Members.optional_eq_accepted_iff, hinner, Reader.nullable_eq_accepted_iff nofun] at h
  obtain ⟨hnull, _⟩ | ⟨o', ho', rfl⟩ := h
  · cases hnull
  · exact ⟨o', rfl, readFrom_of_readMembers ho'⟩

end CredentialsOverride

end CloudIdentity

import CloudIdentity.Gcp.Accounts
import CloudIdentity.Proofs.Gcp.Edits
import Mathlib.Logic.Function.Basic

/-!
A service that keeps service accounts and their policies. It creates an account once, hands back the
policy of an account whole and replaces it when one is written; any call may fail, and then changes
nothing. What an account gains from being granted to trusted principals is one role for each.
-/

namespace CloudIdentity.Gcp

open Document

/-! ## Names -/

/-- The address of the account of an id. -/
def accountAddress (id project : String) : String :=
  id ++ "@" ++ project ++ ".iam.gserviceaccount.com"

/-- The full name of the account of an id. -/
def accountResource (id project : String) : String :=
  projectName project ++ "/serviceAccounts/" ++ accountAddress id project

theorem serviceAccountEmail_of_bare {id : String} (hbare : Text.contains '@' id = false)
    (project : String) : serviceAccountEmail id project = accountAddress id project := by
  rw [serviceAccountEmail, hbare, if_neg Bool.false_ne_true, accountAddress]

theorem serviceAccountEmail_address (id project : String) :
    serviceAccountEmail (accountAddress id project) project = accountAddress id project := by
  have hcontains : Text.contains '@' (accountAddress id project) = true := by
    simp [Text.contains, accountAddress]
  rw [serviceAccountEmail, hcontains, if_pos rfl]

theorem accountName_of_bare {id : String} (hbare : Text.contains '@' id = false)
    (project : String) : accountName id project = accountResource id project := by
  rw [accountName, serviceAccountEmail_of_bare hbare, accountResource]

/-- An address names its account in full. -/
theorem accountName_address (id project : String) :
    accountName (accountAddress id project) project = accountResource id project := by
  rw [accountName, serviceAccountEmail_address, accountResource]

/-! ## Trusted principals -/

/-- The members that a request grants an account to. -/
def requestedMembers (r : Request.CreateIdentity) : List String :=
  (r.trustConfig.map trustedMembers).getD []

/-- A member that a request grants an account to: what a principal stands for that is not blank,
without the blanks around it. -/
def Trusts (r : Request.CreateIdentity) (member : String) : Prop :=
  ∃ config, r.trustConfig = some config ∧ ∃ p ∈ config.trustedPrincipals,
    (∃ c ∈ p.toList, Text.isBlank c = false) ∧ member = principalMember (Text.strip p)

theorem mem_requestedMembers {r : Request.CreateIdentity} {member : String} :
    member ∈ requestedMembers r ↔ Trusts r member := by
  cases htrust : r.trustConfig with
  | none => simp [requestedMembers, Trusts, htrust]
  | some config =>
    simp only [requestedMembers, Trusts, htrust, Option.map_some, Option.getD_some, trustedMembers,
      List.mem_map, List.mem_filter, Bool.not_eq_true', Text.not_blank_iff, Option.some.injEq]
    constructor
    · rintro ⟨p, ⟨hp, hfilled⟩, hmember⟩
      exact ⟨config, rfl, p, hp, hfilled, hmember.symm⟩
    · rintro ⟨_, rfl, p, hp, hfilled, hmember⟩
      exact ⟨p, ⟨hp, hfilled⟩, hmember.symm⟩

/-! ## Accounts and their policies -/

/-- What a service has stored: which accounts are there, by their addresses, and the bindings of the
policy of each; an absent policy has none. -/
structure Accounts where
  present : String → Bool
  bindings : String → List Binding

namespace Accounts

/-- An account is there, and a grant of its use to the members would change nothing. -/
structure Granted (a : Accounts) (email : String) (members : List String) : Prop where
  present : a.present email = true
  settled : ∀ member ∈ members, Settled (a.bindings email) serviceAccountUserRole member

/-- All that can be new is an account and the grants of its use to the members. -/
structure Grown (email : String) (members : List String) (a b : Accounts) : Prop where
  present : a.present email = true → b.present email = true
  held : ∀ role x, Holds (a.bindings email) role x → Holds (b.bindings email) role x
  granted : ∀ role x, Holds (b.bindings email) role x →
    Holds (a.bindings email) role x ∨ (role = serviceAccountUserRole ∧ x ∈ members)
  conditional : (b.bindings email).filter Binding.conditional =
    (a.bindings email).filter Binding.conditional
  others : ∀ other, other ≠ email →
    b.present other = a.present other ∧ b.bindings other = a.bindings other

variable {email : String} {members : List String} {a b c : Accounts}

theorem Grown.refl (a : Accounts) : Grown email members a a where
  present := id
  held _ _ := id
  granted _ _ := Or.inl
  conditional := rfl
  others _ _ := ⟨rfl, rfl⟩

theorem Grown.trans (h : Grown email members a b) (h' : Grown email members b c) :
    Grown email members a c where
  present := h'.present ∘ h.present
  held role x := h'.held role x ∘ h.held role x
  granted role x hx := (h'.granted role x hx).elim (h.granted role x) Or.inr
  conditional := h'.conditional.trans h.conditional
  others other hother :=
    ⟨(h'.others other hother).1.trans (h.others other hother).1,
      (h'.others other hother).2.trans (h.others other hother).2⟩

/-- A new account, with the policies as they are. -/
def created (a : Accounts) (email : String) : Accounts where
  present := Function.update a.present email true
  bindings := a.bindings

/-- The policy of an account has other bindings. -/
def written (a : Accounts) (email : String) (bindings : List Binding) : Accounts where
  present := a.present
  bindings := Function.update a.bindings email bindings

theorem grown_created (a : Accounts) (email : String) (members : List String) :
    Grown email members a (a.created email) where
  present _ := by simp [created]
  held _ _ := id
  granted _ _ := Or.inl
  conditional := rfl
  others _ hother := ⟨by simp [created, hother], rfl⟩

/-- The bindings of a policy with the use of its account granted to the members. -/
def grantedBindings (policy : Policy) (members : List String) : List Binding :=
  (policy.addMembers serviceAccountUserRole members).1.bindings

variable {policy : Policy}

theorem grantedBindings_holds_iff {role x : String} :
    Holds (grantedBindings policy members) role x ↔
      Holds policy.bindings role x ∨ (role = serviceAccountUserRole ∧ x ∈ members) := by
  rw [grantedBindings, Policy.addMembers_eq_addAll, Policy.addAll_holds_iff]
  simp [eq_comm, and_comm]

theorem grown_written (members : List String) (hpolicy : policy.bindings = a.bindings email) :
    Grown email members a (a.written email (grantedBindings policy members)) := by
  have hself : (a.written email (grantedBindings policy members)).bindings email =
      grantedBindings policy members := Function.update_self email _ a.bindings
  refine ⟨id, fun role x hx => ?_, fun role x hx => ?_, ?_, fun other hother => ⟨rfl, ?_⟩⟩
  · rw [hself, grantedBindings_holds_iff, hpolicy]
    exact Or.inl hx
  · rwa [hself, grantedBindings_holds_iff, hpolicy] at hx
  · rw [hself, grantedBindings, Policy.addMembers_eq_addAll, Policy.addAll_conditional_eq, hpolicy]
  · exact Function.update_of_ne hother _ a.bindings

theorem granted_written (hpresent : a.present email = true) (members : List String)
    (policy : Policy) :
    (a.written email (grantedBindings policy members)).Granted email members where
  present := hpresent
  settled member hmember := by
    have hself : (a.written email (grantedBindings policy members)).bindings email =
        grantedBindings policy members := Function.update_self email _ a.bindings
    rw [hself, grantedBindings, Policy.addMembers_eq_addAll]
    exact Policy.addAll_settled policy _ (serviceAccountUserRole, member)
      (List.mem_map_of_mem hmember)

/-- A grant to the members changes a policy unless they all have been granted the use before. -/
theorem unchanged_iff (members : List String) (hpolicy : policy.bindings = a.bindings email)
    (hpresent : a.present email = true) :
    (policy.addMembers serviceAccountUserRole members).2 = false ↔ a.Granted email members := by
  rw [Policy.addMembers_eq_addAll]
  constructor
  · intro hsame
    refine ⟨hpresent, fun member hmember => ?_⟩
    have hsettled := Policy.addAll_settled policy _ (serviceAccountUserRole, member)
      (List.mem_map_of_mem hmember)
    rwa [Policy.addAll_eq_of_unchanged hsame, hpolicy] at hsettled
  · intro hgranted
    rw [Policy.addAll_of_settled]
    intro pair hpair
    obtain ⟨member, hmember, rfl⟩ := List.mem_map.mp hpair
    rw [hpolicy]
    exact hgranted.settled member hmember

end Accounts

/-! ## The service -/

/-- A service keeps the account of an id, and its policy, in its state. -/
structure AccountStore {σ : Type} (service : Service interface σ) (id project : String) where
  accounts : σ → Accounts
  failed : ∀ c state f, (service.answer c state).1 = .error f →
    accounts (service.answer c state).2 = accounts state
  create : ∀ displayName description state reply,
    let answered := service.answer (.createAccount project id displayName description) state
    answered.1 = .ok reply → reply = accountAddress id project ∧
      (accounts state).present (accountAddress id project) = false ∧
      accounts answered.2 = (accounts state).created (accountAddress id project)
  get : ∀ state reply,
    let answered := service.answer (.getAccount (accountResource id project)) state
    answered.1 = .ok reply → reply = accountAddress id project ∧
      (accounts state).present (accountAddress id project) = true ∧
      accounts answered.2 = accounts state
  read : ∀ state policy,
    let answered := service.answer (.getPolicy .accounts (accountResource id project) none) state
    answered.1 = .ok policy →
      (policy.getD {}).bindings = (accounts state).bindings (accountAddress id project) ∧
      accounts answered.2 = accounts state
  write : ∀ state sent done,
    let answered := service.answer (.setPolicy .accounts (accountResource id project) sent) state
    answered.1 = .ok done →
      accounts answered.2 = (accounts state).written (accountAddress id project) sent.bindings

end CloudIdentity.Gcp

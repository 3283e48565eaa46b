import CloudIdentity.Aws.PolicyText
import CloudIdentity.Proofs.Document.Comparison

/-!
Whom a trust policy trusts. Every entry that is not blank stands for one principal, by the first of
four rules that fits it, and the policy names the principals of the entries and no others; only
where there is no such entry does it name the root of the tenant's own account. The names in a
policy stand for themselves, so a role that trusts them trusts the same principals.
-/

namespace CloudIdentity.Aws

open Document

/-! ## What an entry stands for -/

/-- Exactly twelve digits of ASCII. -/
def IsAccountNumber (s : String) : Prop :=
  s.toList.length = 12 ∧ ∀ c ∈ s.toList, '0' ≤ c ∧ c ≤ '9'

instance (s : String) : Decidable (IsAccountNumber s) := inferInstanceAs (Decidable (_ ∧ _))

/-- An entry stands for a principal by the first rule that fits it: an ARN for itself, an account
number for the root of the account, a name under `.amazonaws.com` for a service, and anything else
for itself. -/
inductive StandsFor : String → Principal → Prop where
  | arn {s : String} (h : "arn:".toList <+: s.toList) : StandsFor s (.aws s)
  | account {s : String} (harn : ¬ "arn:".toList <+: s.toList) (h : IsAccountNumber s) :
      StandsFor s (.aws ("arn:aws:iam::" ++ s ++ ":root"))
  | service {s : String} (harn : ¬ "arn:".toList <+: s.toList) (haccount : ¬ IsAccountNumber s)
      (h : ".amazonaws.com".toList <:+ s.toList) : StandsFor s (.service s)
  | other {s : String} (harn : ¬ "arn:".toList <+: s.toList) (haccount : ¬ IsAccountNumber s)
      (hservice : ¬ ".amazonaws.com".toList <:+ s.toList) : StandsFor s (.aws s)

theorem isAccountId_iff {s : String} : isAccountId s = true ↔ IsAccountNumber s := by
  simp only [isAccountId, IsAccountNumber, Bool.and_eq_true, beq_iff_eq, List.all_eq_true,
    Char.isDigit, decide_eq_true_eq, ge_iff_le]
  rfl

namespace Principal

/-- The principal of an entry, with the rules as conditions on its characters. -/
theorem ofEntry_eq (s : String) :
    ofEntry s =
      if "arn:".toList <+: s.toList then aws s
      else if IsAccountNumber s then aws (accountRootArn s)
      else if ".amazonaws.com".toList <:+ s.toList then service s
      else aws s := by
  simp only [ofEntry, Text.begins, Text.ends, List.isPrefixOf_iff_prefix,
    List.isSuffixOf_iff_suffix, isAccountId_iff]

theorem standsFor_iff {s : String} {p : Principal} : StandsFor s p ↔ p = ofEntry s := by
  rw [ofEntry_eq]
  constructor
  · rintro (harn | ⟨harn, haccount⟩ | ⟨harn, haccount, hservice⟩ | ⟨harn, haccount, hservice⟩)
    · rw [if_pos harn]
    · rw [if_neg harn, if_pos haccount, accountRootArn]
    · rw [if_neg harn, if_neg haccount, if_pos hservice]
    · rw [if_neg harn, if_neg haccount, if_neg hservice]
  · rintro rfl
    split
    · next harn => exact .arn harn
    split
    · next harn haccount => exact .account harn haccount
    split
    · next harn haccount hservice => exact .service harn haccount hservice
    · next harn haccount hservice => exact .other harn haccount hservice

theorem existsUnique_standsFor (s : String) : ∃! p, StandsFor s p :=
  ⟨ofEntry s, standsFor_iff.mpr rfl, fun _ h => standsFor_iff.mp h⟩

theorem forall₂_standsFor (entries : List String) :
    List.Forall₂ StandsFor entries (entries.map ofEntry) := by
  rw [List.forall₂_map_right_iff, List.forall₂_same]
  exact fun s _ => standsFor_iff.mpr rfl

/-! ## Names that stand for themselves -/

def name : Principal → String
  | aws name | service name => name

theorem aws?_eq_some_iff {p : Principal} {n : String} : p.aws? = some n ↔ p = aws n := by
  cases p <;> simp [aws?]

theorem service?_eq_some_iff {p : Principal} {n : String} :
    p.service? = some n ↔ p = service n := by
  cases p <;> simp [service?]

/-- The name that a principal goes by is not blank, and stands for that principal. -/
def Settled (p : Principal) : Prop := Text.blank p.name = false ∧ ofEntry p.name = p

/-- The root of an account is an ARN, and so it is kept. -/
theorem settled_root (accountId : String) : Settled (aws (accountRootArn accountId)) := by
  have harn : "arn:".toList <+: (accountRootArn accountId).toList := by
    simp [accountRootArn]
  have hfilled : Text.blank (accountRootArn accountId) = false :=
    Text.not_blank_iff.mpr ⟨'a', by simp [accountRootArn], by decide⟩
  exact ⟨hfilled, (standsFor_iff.mp (.arn harn)).symm⟩

theorem settled_ofEntry {s : String} (h : Text.blank s = false) : Settled (ofEntry s) := by
  have hstands : StandsFor s (ofEntry s) := standsFor_iff.mpr rfl
  generalize ofEntry s = p at hstands
  have hself := standsFor_iff.mp hstands
  cases hstands with
  | arn | service | other => exact ⟨h, hself.symm⟩
  | account => exact settled_root s

end Principal

namespace Principals

/-- Every name in either list stands for a principal of that list. -/
structure Settled (p : Principals) : Prop where
  aws : ∀ name ∈ p.aws, Principal.Settled (.aws name)
  service : ∀ name ∈ p.service, Principal.Settled (.service name)

theorem settled_ofEntries (entries : List String) : Settled (ofEntries entries) := by
  have hentry : ∀ p ∈ (entries.filter fun e => !Text.blank e).map Principal.ofEntry, p.Settled := by
    intro p hp
    obtain ⟨e, he, rfl⟩ := List.mem_map.mp hp
    exact Principal.settled_ofEntry (by simpa using (List.mem_filter.mp he).2)
  constructor
  · intro name hname
    obtain ⟨p, hp, haws⟩ := List.mem_filterMap.mp hname
    exact Principal.aws?_eq_some_iff.mp haws ▸ hentry p hp
  · intro name hname
    obtain ⟨p, hp, hservice⟩ := List.mem_filterMap.mp hname
    exact Principal.service?_eq_some_iff.mp hservice ▸ hentry p hp

/-- Entries are sorted one by one. -/
theorem ofEntries_append (xs ys : List String) :
    ofEntries (xs ++ ys) =
      ⟨(ofEntries xs).aws ++ (ofEntries ys).aws,
        (ofEntries xs).service ++ (ofEntries ys).service⟩ := by
  simp only [ofEntries, List.filter_append, List.map_append, List.filterMap_append]

/-- Names that stand for principals of one kind are sorted as those principals. -/
theorem ofEntries_of_settled {names : List String} (make : String → Principal)
    (hname : ∀ n, (make n).name = n) (h : ∀ n ∈ names, (make n).Settled) :
    ofEntries names =
      ⟨(names.map make).filterMap Principal.aws?,
        (names.map make).filterMap Principal.service?⟩ := by
  have hfilled : (names.filter fun n => !Text.blank n) = names := by
    refine List.filter_eq_self.mpr fun n hn => ?_
    have hblank := (h n hn).1
    rw [hname] at hblank
    rw [hblank]
    rfl
  have hmade : names.map Principal.ofEntry = names.map make := by
    refine List.map_congr_left fun n hn => ?_
    have hstands := (h n hn).2
    rwa [hname] at hstands
  rw [ofEntries, hfilled, hmade]

/-- Principals whose names stand for themselves are what their names are sorted into. -/
theorem Settled.ofEntries_names {p : Principals} (h : p.Settled) :
    ofEntries (p.aws ++ p.service) = p := by
  have haws : ofEntries p.aws = ⟨p.aws, []⟩ := by
    rw [ofEntries_of_settled .aws (fun _ => rfl) h.aws]
    simp [List.filterMap_map, Function.comp_def, Principal.aws?, Principal.service?]
  have hservice : ofEntries p.service = ⟨[], p.service⟩ := by
    rw [ofEntries_of_settled .service (fun _ => rfl) h.service]
    simp [List.filterMap_map, Function.comp_def, Principal.aws?, Principal.service?]
  rw [ofEntries_append, haws, hservice, List.append_nil, List.nil_append]

/-- Every principal is in one of the two lists, so they are both empty only where every entry is
blank. -/
theorem isEmpty_ofEntries (entries : List String) :
    (ofEntries entries).isEmpty = (entries.filter fun e => !Text.blank e).isEmpty := by
  simp only [isEmpty, ofEntries]
  cases entries.filter fun e => !Text.blank e with
  | nil => rfl
  | cons e rest =>
    cases h : Principal.ofEntry e with
    | aws n => simp [h, Principal.aws?]
    | service n => simp [h, Principal.service?]

end Principals

/-! ## Principals of a trust policy -/

variable (tenantId : String) (trust : Option TrustConfiguration)

/-- The entries of a trust configuration that are not blank. -/
def filledEntries : List String :=
  ((trust.map TrustConfiguration.trustedPrincipals).getD []).filter fun e => !Text.blank e

/-- The principals of a policy are those of the entries, and the root of the account where there is
none. -/
theorem trustedPrincipals_eq :
    trustedPrincipals tenantId trust =
      { aws := ((filledEntries trust).map Principal.ofEntry).filterMap Principal.aws?
          ++ if filledEntries trust = [] then [accountRootArn tenantId] else []
        service :=
          ((filledEntries trust).map Principal.ofEntry).filterMap Principal.service? } := by
  have hnamed : Principals.ofEntries ((trust.map TrustConfiguration.trustedPrincipals).getD []) =
      ⟨((filledEntries trust).map Principal.ofEntry).filterMap Principal.aws?,
        ((filledEntries trust).map Principal.ofEntry).filterMap Principal.service?⟩ := rfl
  have hempty := Principals.isEmpty_ofEntries
    ((trust.map TrustConfiguration.trustedPrincipals).getD [])
  rw [trustedPrincipals, hempty, hnamed, ← filledEntries]
  cases filledEntries trust with
  | nil => rfl
  | cons e rest => simp

/-- The first rule that fits decides: an ARN is kept though it ends like a service. -/
example :
    trustedPrincipals "1" (some { trustedPrincipals :=
        ["ec2.amazonaws.com", " ", "123456789012", "arn:x.amazonaws.com"] }) =
      ⟨["arn:aws:iam::123456789012:root", "arn:x.amazonaws.com"], ["ec2.amazonaws.com"]⟩ := by
  decide

theorem settled_trustedPrincipals : (trustedPrincipals tenantId trust).Settled := by
  unfold trustedPrincipals
  dsimp only
  split
  · refine ⟨fun name hname => ?_, nofun⟩
    rw [List.mem_singleton.mp hname]
    exact Principal.settled_root tenantId
  · exact Principals.settled_ofEntries _

theorem isEmpty_trustedPrincipals : (trustedPrincipals tenantId trust).isEmpty = false := by
  unfold trustedPrincipals
  dsimp only
  split
  · rfl
  · next h => simpa using h

/-- A role that trusts the principals of a policy by their names trusts the same principals. -/
theorem trustedPrincipals_again (tenantId' : String) (conditions : Option Members) :
    let p := trustedPrincipals tenantId trust
    trustedPrincipals tenantId' (some ⟨p.aws ++ p.service, conditions⟩) = p := by
  intro p
  have hagain : Principals.ofEntries (p.aws ++ p.service) = p :=
    (settled_trustedPrincipals tenantId trust).ofEntries_names
  have hnonempty : p.isEmpty = false := isEmpty_trustedPrincipals tenantId trust
  simp only [trustedPrincipals, Option.map_some, Option.getD_some, hagain, hnonempty,
    Bool.false_eq_true, if_false]

/-! ## The policy -/

/-- The statement of a policy that has just one. -/
def soleStatement? (policy : Value) : Option Members :=
  match (policy.members.get "Statement").items with
  | [.object statement] => some statement
  | _ => none

/-- The lists of principals in the only statement of a policy. -/
def principalMap? (policy : Value) : Option Members :=
  (soleStatement? policy).bind fun statement =>
    match statement.get "Principal" with
    | .object map => some map
    | _ => none

theorem listed_ne_nil {name : String} {texts : List String} {m : String × Value}
    (h : m ∈ listed name texts) : m.1 = name ∧ texts ≠ [] ∧ m.2 = .ofTexts texts := by
  unfold listed at h
  split at h
  · cases h
  · next hne =>
    rw [List.mem_singleton.mp h]
    exact ⟨rfl, by simpa using hne, rfl⟩

theorem textsUnder_principalMembers (p : Principals) :
    (principalMembers p).textsUnder "AWS" = p.aws ∧
      (principalMembers p).textsUnder "Service" = p.service := by
  have hnull : Value.null.items = [] := rfl
  obtain ⟨aws, service⟩ := p
  cases aws <;> cases service <;>
    simp [Members.textsUnder, principalMembers, listed, Members.get, List.lookup_cons,
      Value.texts_ofTexts, hnull]

theorem nodup_principalMembers (p : Principals) : ((principalMembers p).map Prod.fst).Nodup := by
  obtain ⟨aws, service⟩ := p
  cases aws <;> cases service <;> simp [principalMembers, listed]

theorem principalMembers_ne_nil {p : Principals} (h : p.isEmpty = false) :
    principalMembers p ≠ [] := by
  obtain ⟨aws, service⟩ := p
  cases aws <;> cases service <;> simp_all [principalMembers, listed, Principals.isEmpty]

def trustStatement : Members :=
  [("Effect", .str "Allow"), ("Action", .str "sts:AssumeRole"),
      ("Principal", .object (principalMembers (trustedPrincipals tenantId trust)))]
    ++ mapped "Condition" (trust.bind TrustConfiguration.conditions)

theorem soleStatement?_trustPolicy :
    soleStatement? (trustPolicy tenantId trust) = some (trustStatement tenantId trust) := rfl

theorem principalMap?_trustPolicy :
    principalMap? (trustPolicy tenantId trust) =
      some (principalMembers (trustedPrincipals tenantId trust)) := rfl

theorem lookup_condition {v : Value} :
    (trustStatement tenantId trust).lookup "Condition" = some v ↔
      ∃ ms, trust.bind TrustConfiguration.conditions = some ms ∧ ms ≠ [] ∧ v = .object ms := by
  have hlookup : (trustStatement tenantId trust).lookup "Condition" =
      (mapped "Condition" (trust.bind TrustConfiguration.conditions)).lookup "Condition" := rfl
  rw [hlookup]
  cases trust.bind TrustConfiguration.conditions with
  | none => simp [mapped]
  | some ms => cases ms <;> simp [mapped, eq_comm]

/-- A trust policy trusts exactly whom it is asked to trust. Each entry stands for just one
principal. The only statement allows the role to be assumed, and lists in order the principals of
the entries that are not blank; the root of the tenant's account comes to them only where there is
no such entry. So some list is there and none is empty. A condition is there just where conditions
are given that are not empty. And the listed names, given as entries, are listed the same again. -/
theorem trustPolicy_trusts_exactly :
    (∀ s, ∃! p, StandsFor s p) ∧
    ∃ statement map : Members, ∃ principals : List Principal,
      soleStatement? (trustPolicy tenantId trust) = some statement ∧
      statement.get "Effect" = .str "Allow" ∧
      statement.get "Action" = .str "sts:AssumeRole" ∧
      statement.get "Principal" = .object map ∧
      List.Forall₂ StandsFor (filledEntries trust) principals ∧
      map.textsUnder "AWS" = principals.filterMap Principal.aws? ++
        (if filledEntries trust = [] then ["arn:aws:iam::" ++ tenantId ++ ":root"] else []) ∧
      map.textsUnder "Service" = principals.filterMap Principal.service? ∧
      map ≠ [] ∧ (map.map Prod.fst).Nodup ∧
      (∀ m ∈ map, (m.1 = "AWS" ∨ m.1 = "Service") ∧ ∃ names, names ≠ [] ∧ m.2 = .ofTexts names) ∧
      (∀ v, statement.lookup "Condition" = some v ↔
        ∃ ms, trust.bind TrustConfiguration.conditions = some ms ∧ ms ≠ [] ∧ v = .object ms) ∧
      ∀ tenantId' conditions, principalMap? (trustPolicy tenantId'
        (some ⟨map.textsUnder "AWS" ++ map.textsUnder "Service", conditions⟩)) = some map := by
  have hprincipals := trustedPrincipals_eq tenantId trust
  obtain ⟨haws, hservice⟩ := textsUnder_principalMembers (trustedPrincipals tenantId trust)
  refine ⟨Principal.existsUnique_standsFor, trustStatement tenantId trust,
    principalMembers (trustedPrincipals tenantId trust),
    (filledEntries trust).map Principal.ofEntry, soleStatement?_trustPolicy tenantId trust,
    rfl, rfl, rfl, Principal.forall₂_standsFor _, ?_, ?_, ?_, nodup_principalMembers _, ?_, ?_, ?_⟩
  · rw [haws, hprincipals]
    rfl
  · rw [hservice, hprincipals]
  · exact principalMembers_ne_nil (isEmpty_trustedPrincipals tenantId trust)
  · intro m hm
    rcases List.mem_append.mp hm with h | h
    · obtain ⟨hname, hne, hvalue⟩ := listed_ne_nil h
      exact ⟨Or.inl hname, _, hne, hvalue⟩
    · obtain ⟨hname, hne, hvalue⟩ := listed_ne_nil h
      exact ⟨Or.inr hname, _, hne, hvalue⟩
  · exact fun v => lookup_condition tenantId trust
  · intro tenantId' conditions
    rw [haws, hservice, principalMap?_trustPolicy]
    exact congrArg (some ∘ principalMembers)
      (trustedPrincipals_again tenantId trust tenantId' conditions)

end CloudIdentity.Aws

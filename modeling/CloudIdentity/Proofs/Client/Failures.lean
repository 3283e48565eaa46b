import CloudIdentity.Client.Opening
import CloudIdentity.Failure.Reported
import CloudIdentity.Proofs.Client.Admission
import CloudIdentity.Proofs.Client.Outcome

/-!
Only canonical failures leave an operation. What an adapter raises is handed on as it is if it is
canonical, and gives way to a canonical failure of the kind that its classifier assigns otherwise.
Both classifiers keep the kind that a failure is tagged with, and both know a kind for every failure
whose error code, if it tells of one, is a text or null.
-/

namespace CloudIdentity

open Document

/-! ## Classifiers -/

namespace Failure

/-- The error code of an AWS service, if the failure tells of one, is a text or null. -/
def Coded (f : Failure) : Prop :=
  ∀ code, f.origin = .awsService code → code = .null ∨ ∃ s, code = .str s

/-- A classifier that keeps the kind a failure is tagged with, and that knows a kind for every
failure with a proper error code. -/
structure Classifier.Lawful (classify : Classifier) : Prop where
  tagged : ∀ f kind, f.kind? = some kind → classify f = .ok kind
  total : ∀ f, f.Coded → ∃ kind, classify f = .ok kind

end Failure

namespace Aws

theorem codeKind_total {code : Value} (h : code = .null ∨ ∃ s, code = .str s) :
    ∃ kind, codeKind code = .ok kind := by
  rcases h with rfl | ⟨s, rfl⟩
  · exact ⟨.unknown, rfl⟩
  · exact ⟨(codeKinds.lookup s).getD .unknown, rfl⟩

theorem lawful_classify : Failure.Classifier.Lawful classify where
  tagged f kind h := by rw [classify, h]
  total f h := by
    unfold classify
    split
    · exact ⟨_, rfl⟩
    · split
      · next code horigin => exact codeKind_total (h code horigin)
      · exact ⟨_, rfl⟩
      · exact ⟨_, rfl⟩

end Aws

namespace Gcp

theorem lawful_classify : Failure.Classifier.Lawful classify where
  tagged f kind h := by rw [classify, h]
  total f _ := by
    unfold classify
    split
    · exact ⟨_, rfl⟩
    · split
      · exact ⟨_, rfl⟩
      · exact ⟨_, rfl⟩
      · exact ⟨_, rfl⟩

end Gcp

/-! ## What is told of a failure -/

namespace Failure

variable {f g : Failure} {classify : Classifier} {context : String}

/-- What a failure is told as: the failure itself, just when it is canonical, or else a new failure
of the class and tag of its kind with the failure as its cause. Either way it is a failure of this
library, of the kind that the classifier assigns. -/
structure ToldAs (classify : Classifier) (f g : Failure) (kind : Kind) : Prop where
  classified : classify f = .ok kind
  library : g.origin.isLibrary = true
  kind_eq : g.kind? = some kind
  same_iff : g = f ↔ f.isCanonical = true
  new : g ≠ f → g.IsOfKind kind ∧ g.cause = some f

theorem toldAs_self (hlawful : classify.Lawful) (h : f.isCanonical = true) :
    ∃ kind, ToldAs classify f f kind := by
  obtain ⟨hlibrary, kind, hkind⟩ := isCanonical_iff.mp h
  exact ⟨kind, hlawful.tagged f kind hkind, hlibrary, hkind, ⟨fun _ => h, fun _ => rfl⟩,
    fun hne => absurd rfl hne⟩

theorem toldAs_translated {kind : Kind} (h : f.isCanonical = false) (hkind : classify f = .ok kind)
    (context : String) : ToldAs classify f (translated kind context f) kind where
  classified := hkind
  library := by rw [(isOfKind_translated kind context f).origin, Origin.isLibrary]
  kind_eq := (isOfKind_translated kind context f).kind?_eq
  same_iff := by simp [ne_of_cause_eq (f := f) (g := translated kind context f) rfl, h]
  new _ := ⟨isOfKind_translated kind context f, rfl⟩

theorem toCanonical_toldAs (hlawful : classify.Lawful) (hcoded : f.Coded) (context : String) :
    ∃ g kind, f.toCanonical classify context = .ok g ∧ ToldAs classify f g kind := by
  cases h : f.isCanonical with
  | true =>
    obtain ⟨kind, htold⟩ := toldAs_self hlawful h
    exact ⟨f, kind, toCanonical_of_isCanonical h, htold⟩
  | false =>
    obtain ⟨kind, hkind⟩ := hlawful.total f hcoded
    exact ⟨_, kind, toCanonical_of_classified h hkind, toldAs_translated h hkind context⟩

end Failure

/-! ## Operations -/

namespace Opened

variable {S : Interface} {Handle σ : Type}

/-- Only canonical failures leave the operations of a client for AWS or Google. Whatever a service
answers and whatever failure the adapter then raises, the caller is told of it as `ToldAs` says; a
call that the gate refuses is told as an invalid argument; and to make a failure canonical once more
changes nothing, whichever classifier is asked. -/
theorem failures_canonical (o : Opened S Handle)
    (hclassify : o.adapter.classify = Aws.classify ∨ o.adapter.classify = Gcp.classify)
    (service : Service S σ) (state : σ) :
    (∀ c a f, ClientCall.admit c = .ok a → (o.performed service a state).result = .error f →
      f.Coded → ∃ g kind, (o.outcome service c state).result = .error g ∧
        f.ToldAs o.adapter.classify g kind) ∧
    (∀ c f, ClientCall.admit c = .error f →
      (o.outcome service c state).result = .error f ∧ f.IsOfKind .invalidArgument) ∧
    (∀ (f : Failure) classify context g, f.toCanonical classify context = .ok g →
      ∀ classify' context', g.toCanonical classify' context' = .ok g) := by
  have hlawful : o.adapter.classify.Lawful := by
    rcases hclassify with h | h
    · exact h ▸ Aws.lawful_classify
    · exact h ▸ Gcp.lawful_classify
  refine ⟨?_, ?_, ?_⟩
  · intro c a f hadmitted hraised hcoded
    obtain ⟨g, kind, hcanonical, htold⟩ :=
      Failure.toCanonical_toldAs hlawful hcoded (a.operation.name ++ " failed")
    refine ⟨g, kind, ?_, htold⟩
    rw [outcome_result hadmitted, hraised, AdapterCall.told, hcanonical]
  · intro c f hrefused
    exact ⟨by rw [outcome_refused hrefused], Gate.refuses_call c f hrefused⟩
  · intro f classify context g h classify' context'
    exact Failure.toCanonical_of_isCanonical (Failure.isCanonical_of_toCanonical h)

/-- An account that exists is looked up, and that fails with a failure of this library which is
tagged with a text, not with a kind. Its class counts for nothing: it is told as a new failure of an
unknown kind. -/
theorem failures_canonical_mistagged :
    let present : Failure := Failure.googleApi .alreadyExists "ci" none
    let f : Failure := (Failure.ofKind .unauthorized "expired").withTag (.other (.str "Unauthorized"))
    let service : Service Gcp.interface Unit :=
      { answer := fun c state =>
          match c with
          | .createAccount .. => (.error present, state)
          | _ => (.error f, state) }
    let o : Opened Gcp.interface Gcp.Handle := ⟨Gcp.adapter, ⟨true, true, none⟩⟩
    let a : AdapterCall := .createIdentity { identityName := "ci", tenantId := "p" }
    let c : ClientCall := .createIdentity
      { identityName := .plain (.str "ci"), description := .plain .null,
        tenantId := .plain (.str "p"), region := .plain .null, trustConfig := .present .null,
        options := .present .null }
    c.admit = .ok a ∧ (o.performed service a ()).result = .error f ∧ f.Coded ∧
    ∃ g, (o.outcome service c ()).result = .error g ∧ f.ToldAs Gcp.classify g .unknown ∧
      g ≠ f := by
  intro present f service o a c
  have hadmitted : c.admit = .ok a := rfl
  have hraised : (o.performed service a ()).result = .error f := rfl
  have hcoded : f.Coded := by
    intro code horigin
    cases horigin
  obtain ⟨g, kind, hresult, htold⟩ :=
    (o.failures_canonical (Or.inr rfl) service ()).1 c a f hadmitted hraised hcoded
  obtain rfl : Kind.unknown = kind := Except.ok.inj htold.classified
  refine ⟨hadmitted, hraised, hcoded, g, hresult, htold, ?_⟩
  rw [Ne, htold.same_iff]
  decide

end Opened

end CloudIdentity

import CloudIdentity.Failure.Basic

/-!
How a failure is made canonical. A canonical one stays as it is; any other gives way to one of the
class and tag of its kind, which has it as its cause and so is never the failure itself.
-/

namespace CloudIdentity.Failure

variable {f g : Failure} {kind : Kind} {classify : Classifier} {context : String}

/-- A failure of the class that this library has for a kind, tagged with that kind. -/
structure IsOfKind (kind : Kind) (f : Failure) : Prop where
  origin : f.origin = .library (some kind)
  tag : f.tag = .kind kind

theorem isOfKind_ofKind (kind : Kind) (message : String) : (ofKind kind message).IsOfKind kind :=
  ⟨rfl, rfl⟩

theorem IsOfKind.withCause (h : f.IsOfKind kind) (cause : Failure) :
    (f.withCause cause).IsOfKind kind :=
  ⟨h.origin, h.tag⟩

theorem IsOfKind.kind?_eq (h : f.IsOfKind kind) : f.kind? = some kind := by
  rw [kind?, h.tag]

theorem IsOfKind.isCanonical (h : f.IsOfKind kind) : f.isCanonical = true := by
  simp [Failure.isCanonical, h.origin, Origin.isLibrary, h.kind?_eq]

theorem isCanonical_iff :
    f.isCanonical = true ↔ f.origin.isLibrary = true ∧ ∃ kind, f.kind? = some kind := by
  rw [isCanonical, Bool.and_eq_true, Option.isSome_iff_exists]

/-- No failure is its own cause. -/
theorem ne_of_cause_eq (h : g.cause = some f) : g ≠ f := by
  rintro rfl
  obtain ⟨origin, message, tag, cause⟩ := g
  have hcause : cause = some (mk origin message tag cause) := h
  have hsize := congrArg sizeOf hcause
  simp at hsize
  omega

theorem toCanonical_of_isCanonical (h : f.isCanonical = true) :
    f.toCanonical classify context = .ok f := by
  rw [toCanonical, if_pos h]

/-- The canonical failure that takes the place of one that is not. -/
def translated (kind : Kind) (context : String) (f : Failure) : Failure :=
  (ofKind kind (context ++ ": " ++ f.message)).withCause f

theorem isOfKind_translated (kind : Kind) (context : String) (f : Failure) :
    (translated kind context f).IsOfKind kind :=
  (isOfKind_ofKind kind _).withCause f

theorem toCanonical_of_classified (h : f.isCanonical = false) (hkind : classify f = .ok kind) :
    f.toCanonical classify context = .ok (translated kind context f) := by
  rw [toCanonical, if_neg (by simp [h]), hkind]
  rfl

theorem isCanonical_of_toCanonical (h : f.toCanonical classify context = .ok g) :
    g.isCanonical = true := by
  cases hcanonical : f.isCanonical with
  | true =>
    rw [toCanonical_of_isCanonical hcanonical] at h
    exact Except.ok.inj h ▸ hcanonical
  | false =>
    cases hkind : classify f with
    | ok kind =>
      rw [toCanonical_of_classified hcanonical hkind] at h
      exact Except.ok.inj h ▸ (isOfKind_translated kind context f).isCanonical
    | error e =>
      rw [toCanonical, if_neg (by simp [hcanonical]), hkind] at h
      cases h

end CloudIdentity.Failure

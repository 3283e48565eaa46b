import CloudIdentity.Validation.Complaint

/-!
Results of validation. Unlike an exception, a refused part does not stop the reading of the parts
beside it: two results are joined by joining their complaints, in order. A rule that joins several
fields is looked at only once all of them are accepted.
-/

namespace CloudIdentity.Validation

/-- A value that was accepted, or every complaint about it. -/
inductive Checked (α : Type) where
  | accepted (value : α)
  | refused (complaints : List Complaint)
  deriving Repr

namespace Checked

variable {α β γ : Type}

def refuse (reason : Reason) : Checked α := .refused [.here reason]

def map (f : α → β) : Checked α → Checked β
  | accepted a => accepted (f a)
  | refused cs => refused cs

/-- Both results, or the complaints of the first followed by those of the second. -/
def join (f : Checked (α → β)) (x : Checked α) : Checked β :=
  match f, x with
  | accepted f, accepted a => accepted (f a)
  | accepted _, refused cs => refused cs
  | refused cs, accepted _ => refused cs
  | refused cs, refused ds => refused (cs ++ ds)

instance : Functor Checked where
  map := map

instance : Applicative Checked where
  pure := accepted
  seq f x := join f (x ())

/-- A further check on an accepted value. -/
def andThen (x : Checked α) (next : α → Checked β) : Checked β :=
  match x with
  | accepted a => next a
  | refused cs => refused cs

/-- The result for a part, with complaints that lead to it from the whole. -/
def under (step : Step) : Checked α → Checked α
  | accepted a => accepted a
  | refused cs => refused (cs.map (Complaint.under step))

@[simp] theorem map_accepted (f : α → β) (a : α) : f <$> accepted a = accepted (f a) := rfl

@[simp] theorem seq_accepted (f : α → β) (a : α) :
    (accepted f <*> accepted a : Checked β) = accepted (f a) := rfl

@[simp] theorem under_accepted (step : Step) (a : α) : (accepted a).under step = accepted a := rfl

/-- A joined result is accepted exactly if both parts are. -/
theorem seq_eq_accepted_iff {f : Checked (α → β)} {x : Checked α} {b : β} :
    f <*> x = accepted b ↔ ∃ g a, f = accepted g ∧ x = accepted a ∧ g a = b := by
  constructor
  · intro h
    cases f with
    | accepted g =>
      cases x with
      | accepted a => exact ⟨g, a, rfl, rfl, by injection h⟩
      | refused cs => cases h
    | refused cs => cases x <;> cases h
  · rintro ⟨g, a, rfl, rfl, rfl⟩
    rfl

end Checked

end CloudIdentity.Validation

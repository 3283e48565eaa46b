import CloudIdentity.Client.Operations

/-!
An adapter that only passes requests on: each operation is one call, with the name and the fields of
the request, and is answered with whatever the call is.
-/

namespace CloudIdentity.InMemory.Recording

open Document

structure Call where
  method : String
  arguments : Members

def interface : Interface := ⟨Call, fun _ => Value⟩

def pass (operation : Operation) (title : String) (fields : Value) : Action interface Value :=
  Action.request (S := interface)
    ⟨"do_" ++ operation.name, [("request", .str title), ("fields", fields)]⟩

def close : Program interface (Except Failure Unit × Unit) := do
  match ← (Action.request (S := interface) ⟨"close", []⟩).run with
  | .ok _ => pure (.ok (), ())
  | .error f => pure (.error f, ())

def provider : String := "stub"

def adapter (classify : Failure.Classifier) : Adapter interface Unit where
  provider := provider
  classify := classify
  region _ := none
  createIdentity _ r := pass .createIdentity Request.CreateIdentity.title r.toValue
  getIdentity _ r := pass .getIdentity Request.GetIdentity.title r.toValue
  deleteIdentity _ r := pass .deleteIdentity Request.DeleteIdentity.title r.toValue
  attachInlinePolicy _ r := pass .attachInlinePolicy Request.AttachInlinePolicy.title r.toValue
  getInlinePolicyDetails _ r :=
    pass .getInlinePolicyDetails Request.GetInlinePolicyDetails.title r.toValue
  getAttachedPolicies _ r := pass .getAttachedPolicies Request.GetAttachedPolicies.title r.toValue
  removePolicy _ r := pass .removePolicy Request.RemovePolicy.title r.toValue
  close _ := close

/-- A service that answers every call with null. -/
def service : Service interface Unit where
  answer _ s := (.ok .null, s)

end CloudIdentity.InMemory.Recording

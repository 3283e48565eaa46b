import CloudIdentity.Identity.Request
import CloudIdentity.Service.Program

/-!
Adapters. An adapter carries out the seven operations on identities and policies as actions over
one provider's service, with the handle that opening it has made; it also says which kind a failure
of that provider is.
-/

namespace CloudIdentity

open Document

/-- The seven operations, by the name under which they are logged. -/
inductive Operation where
  | createIdentity
  | getIdentity
  | deleteIdentity
  | attachInlinePolicy
  | getInlinePolicyDetails
  | getAttachedPolicies
  | removePolicy
  deriving DecidableEq, Repr

def Operation.name : Operation → String
  | createIdentity => "create_identity"
  | getIdentity => "get_identity"
  | deleteIdentity => "delete_identity"
  | attachInlinePolicy => "attach_inline_policy"
  | getInlinePolicyDetails => "get_inline_policy_details"
  | getAttachedPolicies => "get_attached_policies"
  | removePolicy => "remove_policy"

/-- What an adapter has to provide. Its answers are values, since they are handed on as the
provider gave them. Closing gives a new handle even where it fails. -/
structure Adapter (S : Interface) (Handle : Type) where
  provider : String
  classify : Failure.Classifier
  region : Handle → Option String
  createIdentity : Handle → Request.CreateIdentity → Action S Value
  getIdentity : Handle → Request.GetIdentity → Action S Value
  deleteIdentity : Handle → Request.DeleteIdentity → Action S Value
  attachInlinePolicy : Handle → Request.AttachInlinePolicy → Action S Value
  getInlinePolicyDetails : Handle → Request.GetInlinePolicyDetails → Action S Value
  getAttachedPolicies : Handle → Request.GetAttachedPolicies → Action S Value
  removePolicy : Handle → Request.RemovePolicy → Action S Value
  close : Handle → Program S (Except Failure Unit × Handle)

/-- A provider whose adapter is open. -/
structure Opened (S : Interface) (Handle : Type) where
  adapter : Adapter S Handle
  handle : Handle

/-- The failure of a call on a client that was closed. -/
def closedClient (method : String) : Failure :=
  Failure.general .noAttribute ("'NoneType' object has no attribute '" ++ method ++ "'")

end CloudIdentity

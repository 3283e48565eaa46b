import CloudIdentity.Client.Gate
import CloudIdentity.Service.Adapter

/-!
The client: seven operations that know nothing of providers. Each passes the gate, is logged as
started, and is carried out by the adapter; a failure of the adapter is made canonical, logged, and
raised. What the gate refuses leaves no trace. Where a failure cannot be classified, the failure to
do so is raised in its place and not logged.
-/

namespace CloudIdentity

open Document

variable {S : Interface} {Handle : Type}

/-- A call of one of the operations, with arguments as the caller gives them. -/
inductive ClientCall where
  | createIdentity (creation : Gate.Creation)
  | getIdentity (identityName tenantId region : Argument)
  | deleteIdentity (identityName tenantId region : Argument)
  | removePolicy (identityName policyName tenantId region : Argument)
  | attachInlinePolicy (request : Option Request.AttachInlinePolicy)
  | getInlinePolicyDetails (request : Option Request.GetInlinePolicyDetails)
  | getAttachedPolicies (request : Option Request.GetAttachedPolicies)

/-- A call of one of the operations, as an adapter takes it. -/
inductive AdapterCall where
  | createIdentity (request : Request.CreateIdentity)
  | getIdentity (request : Request.GetIdentity)
  | deleteIdentity (request : Request.DeleteIdentity)
  | removePolicy (request : Request.RemovePolicy)
  | attachInlinePolicy (request : Request.AttachInlinePolicy)
  | getInlinePolicyDetails (request : Request.GetInlinePolicyDetails)
  | getAttachedPolicies (request : Request.GetAttachedPolicies)

namespace AdapterCall

def operation : AdapterCall → Operation
  | createIdentity _ => .createIdentity
  | getIdentity _ => .getIdentity
  | deleteIdentity _ => .deleteIdentity
  | removePolicy _ => .removePolicy
  | attachInlinePolicy _ => .attachInlinePolicy
  | getInlinePolicyDetails _ => .getInlinePolicyDetails
  | getAttachedPolicies _ => .getAttachedPolicies

/-- The identity that the call is about. -/
def identity : AdapterCall → Option String
  | createIdentity r => some r.identityName
  | getIdentity r => some r.identityName
  | deleteIdentity r => some r.identityName
  | removePolicy r => some r.identityName
  | attachInlinePolicy r => r.identityName
  | getInlinePolicyDetails r => r.identityName
  | getAttachedPolicies r => r.identityName

/-- The tenant that the call is about. -/
def tenant : AdapterCall → Option String
  | createIdentity r => some r.tenantId
  | getIdentity r => some r.tenantId
  | deleteIdentity r => some r.tenantId
  | removePolicy r => some r.tenantId
  | attachInlinePolicy r => r.tenantId
  | getInlinePolicyDetails r => r.tenantId
  | getAttachedPolicies r => r.tenantId

/-- Whether the caller is told more than that the call succeeded. -/
def hasAnswer : AdapterCall → Bool
  | createIdentity _ | getIdentity _ | getInlinePolicyDetails _ | getAttachedPolicies _ => true
  | deleteIdentity _ | removePolicy _ | attachInlinePolicy _ => false

/-- The call carried out by an adapter. -/
def perform (adapter : Adapter S Handle) (h : Handle) : AdapterCall → Action S Value
  | createIdentity r => adapter.createIdentity h r
  | getIdentity r => adapter.getIdentity h r
  | deleteIdentity r => adapter.deleteIdentity h r
  | removePolicy r => adapter.removePolicy h r
  | attachInlinePolicy r => adapter.attachInlinePolicy h r
  | getInlinePolicyDetails r => adapter.getInlinePolicyDetails h r
  | getAttachedPolicies r => adapter.getAttachedPolicies h r

end AdapterCall

/-- The adapter's call that a client's call stands for, if the gate lets it pass. -/
def ClientCall.admit : ClientCall → Except Failure AdapterCall
  | createIdentity creation => .createIdentity <$> Gate.createIdentity creation
  | getIdentity identityName tenantId region =>
    .getIdentity <$> Gate.getIdentity identityName tenantId region
  | deleteIdentity identityName tenantId region =>
    .deleteIdentity <$> Gate.deleteIdentity identityName tenantId region
  | removePolicy identityName policyName tenantId region =>
    .removePolicy <$> Gate.removePolicy identityName policyName tenantId region
  | attachInlinePolicy request => .attachInlinePolicy <$> Gate.attachInlinePolicy request
  | getInlinePolicyDetails request => .getInlinePolicyDetails <$> Gate.request request
  | getAttachedPolicies request => .getAttachedPolicies <$> Gate.request request

/-! ## Logged calls -/

/-- What the log entries of a call carry. -/
def callContext (provider : String) (c : AdapterCall) : Journal.Context where
  provider := .str provider
  operation := .str c.operation.name
  identity := .ofText c.identity
  tenant := .ofText c.tenant

def startedEntry (provider : String) (c : AdapterCall) : Journal.Entry where
  level := Journal.Level.debug
  message := c.operation.name ++ " started"
  context := callContext provider c

def failedEntry (provider : String) (c : AdapterCall) (f : Failure) : Journal.Entry where
  level := Journal.Level.error
  message := c.operation.name ++ " failed: " ++ f.message
  context := { callContext provider c with
    errorKind := .ofText (f.kind?.map Kind.name) }

namespace Opened

/-- An admitted call, carried out and logged. -/
def carryOut (o : Opened S Handle) (c : AdapterCall) : Action S Value := do
  Action.log (startedEntry o.adapter.provider c)
  match ← Action.attempt (c.perform o.adapter o.handle) with
  | .ok answer => pure (if c.hasAnswer then answer else .null)
  | .error f =>
    let f ← Action.ofExcept (f.toCanonical o.adapter.classify (c.operation.name ++ " failed"))
    Action.log (failedEntry o.adapter.provider c f)
    Action.fail f

/-- A call of an operation. -/
def call (o : Opened S Handle) (c : ClientCall) : Action S Value := do
  let admitted ← Action.ofExcept c.admit
  o.carryOut admitted

/-- Closes the adapter; the opened provider that is left is closed, whatever came of it. -/
def close (o : Opened S Handle) : Program S (Except Failure Unit × Opened S Handle) := do
  let (result, handle) ← o.adapter.close o.handle
  pure (result, { o with handle := handle })

/-- The end of a block that the provider was opened for: it is closed, and the result is the block's
unless closing fails. -/
def leave {α : Type} (o : Opened S Handle) (result : Except Failure α) :
    Program S (Except Failure α × Opened S Handle) := do
  let (closed, o) ← o.close
  match closed with
  | .ok () => pure (result, o)
  | .error f => pure (.error f, o)

end Opened

end CloudIdentity

import CloudIdentity.Proofs.Client.Failures
import CloudIdentity.Proofs.Service.Custody

/-!
What becomes of calls that fail outside the operations, while a client is opened or closed. Nothing
makes such a failure canonical: the caller is given the failure of the last call that failed, as the
service answered it, except that a key file which holds something unfit is told of as an unfit
configuration. So the caller is given a canonical failure only if the service answered with one.
-/

namespace CloudIdentity

open Document Validation

variable {S : Interface} {α β : Type}

/-! ## The last call that failed -/

/-- The last call of a trace that failed, with its failure. -/
def lastFailed : List (Event S) → Option (S.Call × Failure)
  | [] => none
  | .called c (.error f) :: rest => (lastFailed rest).or (some (c, f))
  | .called _ (.ok _) :: rest => lastFailed rest
  | .logged _ :: rest => lastFailed rest

theorem lastFailed_append (trace rest : List (Event S)) :
    lastFailed (trace ++ rest) = (lastFailed rest).or (lastFailed trace) := by
  induction trace with
  | nil => rw [List.nil_append, lastFailed, Option.or_none]
  | cons event trace ih =>
    rw [List.cons_append]
    match event with
    | .called c (.error f) => rw [lastFailed, lastFailed, ih, Option.or_assoc]
    | .called c (.ok reply) => rw [lastFailed, lastFailed, ih]
    | .logged entry => rw [lastFailed, lastFailed, ih]

/-- If a call failed, the result is what the failure of the last such is told as. -/
def Surfaces (told : S.Call → Failure → Failure) (trace : List (Event S))
    (result : Except Failure α) : Prop :=
  ∀ c f, lastFailed trace = some (c, f) → result = .error (told c f)

namespace Surfaces

variable {told : S.Call → Failure → Failure} {trace rest : List (Event S)}

theorem of_none {result : Except Failure α} (h : lastFailed trace = none) :
    Surfaces told trace result := by
  intro c f hlast
  rw [h] at hlast
  cases hlast

theorem error {e : Failure} (h : Surfaces told trace (.error e : Except Failure α)) :
    Surfaces told trace (.error e : Except Failure β) := by
  intro c f hlast
  obtain rfl : e = told c f := Except.error.inj (h c f hlast)
  rfl

/-- Where a result is there, no call failed. -/
theorem lastFailed_eq_none {a : α} (h : Surfaces told trace (.ok a)) : lastFailed trace = none := by
  cases hlast : lastFailed trace with
  | none => rfl
  | some last => cases h last.1 last.2 hlast

theorem append {result : Except Failure β} (h : Surfaces told rest result)
    (htrace : lastFailed trace = none) : Surfaces told (trace ++ rest) result := by
  intro c f hlast
  rw [lastFailed_append, htrace, Option.or_none] at hlast
  exact h c f hlast

theorem after_reply {c : S.Call} (reply : S.Reply c) {result : Except Failure α}
    (h : Surfaces told rest result) : Surfaces told (.called c (.ok reply) :: rest) result := by
  rw [← List.singleton_append]
  exact h.append rfl

/-- The failure of a call is told of as it should be, if none comes after it. -/
theorem called {c : S.Call} {e : Failure} {result : Except Failure α}
    (hrest : lastFailed rest = none) (h : result = .error (told c e)) :
    Surfaces told (.called c (.error e) :: rest) result := by
  intro d f hlast
  rw [lastFailed, hrest, Option.none_or] at hlast
  obtain ⟨rfl, rfl⟩ := Prod.mk.inj (Option.some.inj hlast)
  exact h

/-- A failure takes the place of those before it. -/
theorem cons (event : Event S) {result : Except Failure α} {last : S.Call × Failure}
    (hlast : lastFailed rest = some last) (h : Surfaces told rest result) :
    Surfaces told (event :: rest) result := by
  intro c f hcons
  refine h c f ?_
  rw [← List.singleton_append, lastFailed_append, hlast, Option.some_or] at hcons
  rw [hlast, hcons]

end Surfaces

namespace Action

variable {told : S.Call → Failure → Failure}

theorem surfaces_bind {x : Action S α} {f : α → Action S β} (hx : x.run.Yields (Surfaces told))
    (hf : ∀ a, (f a).run.Yields (Surfaces told)) : (x >>= f).run.Yields (Surfaces told) := by
  refine yields_bind hx (fun trace e h => h.error) fun trace a h => ?_
  exact (hf a).mono fun rest b hrest => hrest.append h.lastFailed_eq_none

theorem surfaces_pure (a : α) : (pure a : Action S α).run.Yields (Surfaces told) :=
  Surfaces.of_none rfl

theorem surfaces_fail (f : Failure) : (fail f : Action S α).run.Yields (Surfaces told) :=
  Surfaces.of_none rfl

theorem surfaces_ofExcept (result : Except Failure α) :
    (ofExcept result : Action S α).run.Yields (Surfaces told) :=
  yields_ofExcept fun _ => .of_none rfl

theorem surfaces_request {c : S.Call} (h : ∀ f, told c f = f) :
    (request c).run.Yields (Surfaces told) := by
  intro answer
  cases answer with
  | ok reply => exact .of_none rfl
  | error e => exact .called rfl (by rw [h])

/-- A call is tried, something is closed behind it in any case, and then its failure is raised,
unless the failure to close has been raised before. -/
theorem surfaces_finally {c d : S.Call} (hc : ∀ f, told c f = f) (hd : ∀ f, told d f = f)
    {g : S.Reply c → Action S β} (hg : ∀ reply, (g reply).run.Yields (Surfaces told)) :
    ((request c).attempt >>= fun answer => request d >>= fun _ =>
      ofExcept answer >>= g).run.Yields (Surfaces told) := by
  refine yields_attempt_bind fun answer => yields_request_bind ?_ fun closed => ?_
  · intro e
    exact .cons _ rfl (.called rfl (by rw [hd]))
  · cases answer with
    | ok reply =>
      exact (hg reply).mono fun rest b hrest => (hrest.after_reply closed).after_reply reply
    | error e => exact .called rfl (by rw [hc])

end Action

/-! ## Whether a failure is made canonical -/

/-- The caller is given the failure of the last call that failed, as it is told. That is a failure
of this library, of the kind that the classifier assigns, only if it was canonical before. -/
def Untranslated (classify : Failure.Classifier) (told : S.Call → Failure → Failure)
    (trace : List (Event S)) (result : Except Failure α) : Prop :=
  ∀ c f, lastFailed trace = some (c, f) →
    result = .error (told c f) ∧
      ((∃ g kind, result = .error g ∧ f.ToldAs classify g kind) ↔ f.isCanonical = true)

theorem Surfaces.untranslated {classify : Failure.Classifier} {told : S.Call → Failure → Failure}
    {trace : List (Event S)} {result : Except Failure α} (h : Surfaces told trace result)
    (hlawful : classify.Lawful) (hkept : ∀ c f, f.isCanonical = true → told c f = f)
    (hother : ∀ c f, (told c f).isCanonical = true → f.isCanonical = true) :
    Untranslated classify told trace result := by
  intro c f hlast
  have hresult : result = .error (told c f) := h c f hlast
  refine ⟨hresult, ?_, fun hcanonical => ?_⟩
  · rintro ⟨g, kind, hg, htold⟩
    obtain rfl : g = told c f := Except.error.inj (hg.symm.trans hresult)
    exact hother c f (Failure.isCanonical_iff.mpr ⟨htold.library, kind, htold.kind_eq⟩)
  · obtain ⟨kind, htold⟩ := Failure.toldAs_self hlawful hcanonical
    rw [hkept c f hcanonical] at hresult
    exact ⟨f, kind, hresult, htold⟩

/-- Whatever a service answers while a client is opened or closed, by itself or at the end of a
block, no failure is made canonical. -/
structure HandsFailuresOn {Handle : Type} (adapter : Adapter S Handle)
    (opening : Action S (Opened S Handle)) (told : S.Call → Failure → Failure) : Prop where
  opens : ∀ {σ : Type} (service : Service S σ) state,
    let run := opening.run.run service state
    Untranslated adapter.classify told run.trace run.result
  closes : ∀ handle {σ : Type} (service : Service S σ) state,
    let run := (Opened.close ⟨adapter, handle⟩).run service state
    Untranslated adapter.classify told run.trace run.result.1
  leaves : ∀ handle {α σ : Type} (block : Except Failure α) (service : Service S σ) state,
    let run := (Opened.leave ⟨adapter, handle⟩ block).run service state
    Untranslated adapter.classify told run.trace run.result.1

/-- It is enough that failures surface where the adapter is opened and closed. -/
theorem HandsFailuresOn.of_surfaces {Handle : Type} {adapter : Adapter S Handle}
    {opening : Action S (Opened S Handle)} {told : S.Call → Failure → Failure}
    (hlawful : adapter.classify.Lawful)
    (hkept : ∀ c f, f.isCanonical = true → told c f = f)
    (hother : ∀ c f, (told c f).isCanonical = true → f.isCanonical = true)
    (hopens : opening.run.Yields (Surfaces told))
    (hcloses : ∀ handle, (adapter.close handle).Yields fun trace closed =>
      Surfaces told trace closed.1) : HandsFailuresOn adapter opening told := by
  have hclose (handle : Handle) : (Opened.close ⟨adapter, handle⟩).Yields fun trace closed =>
      Surfaces told trace closed.1 :=
    .map (hcloses handle)
  refine ⟨fun service state => ?_, fun handle _ service state => ?_,
    fun handle α _ block service state => ?_⟩
  · exact (hopens.run service state).untranslated hlawful hkept hother
  · exact ((hclose handle).run service state).untranslated hlawful hkept hother
  · have hleave : (Opened.leave ⟨adapter, handle⟩ block).Yields fun trace left =>
        Surfaces told trace left.1 := by
      refine (hclose handle).bind fun trace closed hclosed => ?_
      obtain ⟨_ | _, o⟩ := closed
      · simpa only [Program.pure_eq_done, Program.Yields, List.append_nil] using hclosed.error
      · exact (Surfaces.of_none rfl).append hclosed.lastFailed_eq_none
    exact (hleave.run service state).untranslated hlawful hkept hother

/-! ## AWS -/

namespace Aws

theorem ask_surfaces (c : Call) : (ask c).run.Yields (Surfaces fun _ f => f) :=
  Action.surfaces_request fun _ => rfl

/-- A failure to close the connection for tokens is the last one, and so takes the place of the
failure to assume the role. -/
theorem assumeRole_surfaces (c : Configuration) (o : CredentialsOverride) :
    (assumeRole c o).run.Yields (Surfaces fun _ f => f) := by
  have hkeys (response : Value) : Program.Yields (Surfaces fun _ f => f)
      (Action.ofExcept (response.member "Credentials") >>= fun credentials =>
        Action.ofExcept (assumedKeys credentials) : Action interface Keys).run :=
    Action.surfaces_bind (Action.surfaces_ofExcept _) fun _ => Action.surfaces_ofExcept _
  apply Action.surfaces_bind (ask_surfaces _)
  intro _
  exact Action.surfaces_finally (fun _ => rfl) (fun _ => rfl) hkeys

theorem resolveKeys_surfaces (c : Configuration) :
    (resolveKeys c).run.Yields (Surfaces fun _ f => f) := by
  unfold resolveKeys
  cases c.credentialsOverride with
  | none => exact Action.surfaces_pure _
  | some o =>
    dsimp only
    cases o.kind with
    | session => exact Action.surfaces_pure _
    | assumeRole => exact assumeRole_surfaces c o

theorem connect_surfaces (c : Configuration) : (connect c).run.Yields (Surfaces fun _ f => f) := by
  apply Action.surfaces_bind (resolveKeys_surfaces c)
  intro keys
  apply Action.surfaces_bind (ask_surfaces _)
  intro _
  exact Action.surfaces_pure _

theorem openClient_surfaces (env : Environment) (members : Members) :
    (openClient env members).run.Yields (Surfaces fun _ f => f) := by
  apply Action.surfaces_bind (Action.surfaces_ofExcept _)
  intro c
  apply Action.surfaces_bind (connect_surfaces c)
  intro handle
  exact Action.surfaces_pure _

theorem disconnect_surfaces (h : Handle) :
    (disconnect h).Yields fun trace closed => Surfaces (fun _ f => f) trace closed.1 := by
  unfold disconnect
  split
  · exact .map (ask_surfaces .close)
  · exact .of_none rfl

theorem handsFailuresOn (env : Environment) (members : Members) :
    HandsFailuresOn adapter (openClient env members) fun _ f => f :=
  .of_surfaces lawful_classify (fun _ _ _ => rfl) (fun _ _ h => h)
    (openClient_surfaces env members) disconnect_surfaces

end Aws

/-! ## Google Cloud -/

namespace Gcp

/-- What the failure of a call is told as. -/
def told : Call → Failure → Failure
  | .loadKeyFile _, f => Configuration.loadFailure f
  | _, f => f

theorem isValueFault_of_isLibrary {origin : Failure.Origin} (h : origin.isLibrary = true) :
    origin.isValueFault = false := by
  cases origin with
  | library kind => rfl
  | _ => cases h

theorem loadFailure_of_canonical {f : Failure} (h : f.isCanonical = true) :
    Configuration.loadFailure f = f := by
  have hlibrary : f.origin.isLibrary = true := (Failure.isCanonical_iff.mp h).1
  rw [Configuration.loadFailure, isValueFault_of_isLibrary hlibrary, if_neg Bool.false_ne_true]

theorem canonical_of_loadFailure {f : Failure}
    (h : (Configuration.loadFailure f).isCanonical = true) : f.isCanonical = true := by
  unfold Configuration.loadFailure at h
  split at h
  · cases h
  · exact h

theorem told_of_canonical (c : Call) {f : Failure} (h : f.isCanonical = true) : told c f = f := by
  cases c with
  | loadKeyFile path => exact loadFailure_of_canonical h
  | _ => rfl

theorem canonical_of_told {c : Call} {f : Failure} (h : (told c f).isCanonical = true) :
    f.isCanonical = true := by
  cases c with
  | loadKeyFile path => exact canonical_of_loadFailure h
  | _ => exact h

theorem load_surfaces (env : Environment) (c : Configuration) :
    (c.load env).run.Yields (Surfaces told) := by
  unfold Configuration.load
  cases c.keyPath? with
  | none => exact Action.surfaces_pure c
  | some path =>
    dsimp only
    split
    · apply Action.yields_attempt_bind
      intro answer
      cases answer with
      | ok credentials => exact .of_none rfl
      | error e => exact .called rfl rfl
    · exact Action.surfaces_fail _

theorem validate_surfaces (env : Environment) (members : Members) :
    (Configuration.validate env members).run.Yields (Surfaces told) := by
  unfold Configuration.validate
  cases Configuration.readMembers (Configuration.complete env members) with
  | accepted c => exact load_surfaces env c
  | refused complaints => exact Action.surfaces_fail _

theorem impersonate_surfaces (c : Configuration) (o : CredentialsOverride) :
    (impersonate c o).run.Yields (Surfaces told) := by
  unfold impersonate
  cases c.credentials with
  | some credentials => exact Action.surfaces_pure _
  | none =>
    apply Action.surfaces_bind (Action.surfaces_request fun _ => rfl)
    intro source
    exact Action.surfaces_pure _

theorem resolveCredentials_surfaces (c : Configuration) :
    (resolveCredentials c).run.Yields (Surfaces told) := by
  unfold resolveCredentials
  cases c.credentialsOverride with
  | none => exact Action.surfaces_pure _
  | some o =>
    dsimp only
    cases o.kind with
    | session => exact Action.surfaces_pure _
    | assumeRole =>
      dsimp only
      rw [map_eq_pure_bind]
      exact Action.surfaces_bind (impersonate_surfaces c o) fun _ => Action.surfaces_pure _

theorem closeAccounts_surfaces (h : Handle) :
    h.closeAccounts.Yields fun trace closed => Surfaces told trace closed.1 := by
  unfold Handle.closeAccounts
  split
  · exact .map (Action.surfaces_request fun _ => rfl)
  · exact .of_none rfl

theorem close_surfaces (h : Handle) :
    h.close.Yields fun trace closed => Surfaces told trace closed.1 := by
  unfold Handle.close
  split
  · intro answer
    cases answer with
    | ok reply =>
      exact (closeAccounts_surfaces _).mono fun trace closed hclosed => hclosed.after_reply reply
    | error e => exact .called rfl rfl
  · exact closeAccounts_surfaces h

/-- The client that was made first is closed again, and the failure to do so takes the place of the
failure to make the second. -/
theorem connect_surfaces (c : Configuration) : (connect c).run.Yields (Surfaces told) := by
  apply Action.surfaces_bind (resolveCredentials_surfaces c)
  intro credentials
  apply Action.surfaces_bind (Action.surfaces_request fun _ => rfl)
  intro _
  apply Action.yields_attempt_bind
  intro answer
  cases answer with
  | ok _ => exact .of_none rfl
  | error e =>
    intro closed
    cases closed with
    | ok _ => exact .called rfl rfl
    | error e' => exact .cons _ rfl (.called rfl rfl)

theorem openClient_surfaces (env : Environment) (members : Members) :
    (openClient env members).run.Yields (Surfaces told) := by
  apply Action.surfaces_bind (validate_surfaces env members)
  intro c
  apply Action.surfaces_bind (connect_surfaces c)
  intro handle
  exact Action.surfaces_pure _

theorem handsFailuresOn (env : Environment) (members : Members) :
    HandsFailuresOn adapter (openClient env members) told :=
  .of_surfaces lawful_classify (fun c _ => told_of_canonical c) (fun _ _ => canonical_of_told)
    (openClient_surfaces env members) close_surfaces

end Gcp

/-! ## Both providers -/

/-- A client for AWS or Google hands on what fails while it is opened or closed. Whatever the
configuration, the service and its answers, if a call fails the caller is given the failure of the
last such call: as it was answered, or as an unfit configuration if it is of loading a key file
that holds something unfit. Only if the failure was canonical before is the caller given one of this
library, of the kind that the classifier assigns. -/
theorem failed_calls_untranslated (env : Environment) (members : Members) :
    HandsFailuresOn Aws.adapter (Aws.openClient env members) (fun _ f => f) ∧
      HandsFailuresOn Gcp.adapter (Gcp.openClient env members) Gcp.told :=
  ⟨Aws.handsFailuresOn env members, Gcp.handsFailuresOn env members⟩

/-- A client for Google is opened where there are no default credentials, and so its first client
cannot be made. The classifier knows the failure as an unauthorized one, but the caller is given it
as it was answered, which is no failure of this library. -/
theorem missing_credentials_untranslated :
    let env : Environment := { value := fun _ => none, fileExists := fun _ => false }
    let f := Failure.googleAuth .defaultCredentials "Your default credentials were not found."
    let service : Service Gcp.interface Unit := { answer := fun _ state => (.error f, state) }
    let run := (Gcp.openClient env []).run.run service ()
    run.trace = [.called (.connect .projects none none) (.error f)] ∧ run.result = .error f ∧
      Gcp.classify f = .ok .unauthorized ∧ f.origin.isLibrary = false ∧
      ¬ ∃ g kind, run.result = .error g ∧ f.ToldAs Gcp.classify g kind := by
  intro env f service run
  have htrace : run.trace = [.called (.connect .projects none none) (.error f)] := rfl
  have hfailed : lastFailed run.trace = some (.connect .projects none none, f) := by
    rw [htrace, lastFailed]
    rfl
  obtain ⟨hresult, hcanonical⟩ := (Gcp.handsFailuresOn env []).opens service () _ f hfailed
  refine ⟨htrace, hresult, rfl, rfl, fun htold => ?_⟩
  have hlibrary : f.isCanonical = true := hcanonical.mp htold
  cases hlibrary

end CloudIdentity

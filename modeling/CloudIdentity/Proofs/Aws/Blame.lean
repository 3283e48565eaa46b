import CloudIdentity.Proofs.Client.Discipline
import CloudIdentity.Proofs.Service.Custody

/-!
Where the failures of the AWS adapter come from. What it finds wrong by itself tells of no error
code; so a failure that does is the failure of a call that the adapter has made, or of a page of a
listing that it has fetched, and it is raised as the service has given it.
-/

namespace CloudIdentity

open Document

variable {α β : Type}

/-! ## Failures that tell of no error code -/

/-- A failure that no AWS service has answered with. -/
def Failure.Uncoded (f : Failure) : Prop := ∀ code, f.origin ≠ .awsService code

theorem Failure.uncoded_raised (fault : GeneralFault) (argument : Value) :
    (raised fault argument).Uncoded := by
  intro code h
  cases h

theorem Failure.IsOfKind.uncoded {f : Failure} {kind : Kind} (h : f.IsOfKind kind) :
    f.Uncoded := by
  intro code horigin
  rw [h.origin] at horigin
  cases horigin

theorem uncoded_closedClient (method : String) : (closedClient method).Uncoded :=
  Failure.uncoded_raised _ _

/-- Whatever keeps a value from being made tells of no error code. -/
def Failure.AllUncoded (x : Except Failure α) : Prop := ∀ f, x = .error f → f.Uncoded

theorem bind_eq_error_iff {x : Except Failure α} {next : α → Except Failure β} {f : Failure} :
    (x >>= next) = .error f ↔ x = .error f ∨ ∃ a, x = .ok a ∧ next a = .error f := by
  cases x with
  | error e => simp [bind, Except.bind]
  | ok a => simp [bind, Except.bind]

namespace Failure.AllUncoded

theorem ok (a : α) : AllUncoded (.ok a : Except Failure α) := by
  intro f h
  cases h

theorem error {f : Failure} (h : f.Uncoded) : AllUncoded (.error f : Except Failure α) := by
  intro g hg
  cases hg
  exact h

theorem bind {x : Except Failure α} {next : α → Except Failure β} (h : AllUncoded x)
    (hnext : ∀ a, AllUncoded (next a)) : AllUncoded (x >>= next) := by
  intro f hf
  rcases bind_eq_error_iff.mp hf with hx | ⟨a, _, hrest⟩
  · exact h f hx
  · exact hnext a f hrest

theorem map {x : Except Failure α} (h : AllUncoded x) (g : α → β) : AllUncoded (g <$> x) := by
  cases x with
  | ok a => exact ok _
  | error f => exact error (h f rfl)

end Failure.AllUncoded

open Failure (AllUncoded)

namespace Document

theorem Value.uncoded_member (name : String) (v : Value) : AllUncoded (v.member name) := by
  cases v with
  | object members =>
    simp only [member]
    split
    · exact .ok _
    · exact .error (Failure.uncoded_raised _ _)
  | _ => exact .error (Failure.uncoded_raised _ _)

theorem Value.uncoded_memberOr (v : Value) (name : String) (absent : Value) :
    AllUncoded (v.memberOr name absent) := by
  cases v with
  | object members => exact .ok _
  | _ => exact .error (Failure.uncoded_raised _ _)

theorem Value.uncoded_elements (v : Value) : AllUncoded v.elements := by
  unfold elements
  split
  · exact .ok _
  · exact .error (Failure.uncoded_raised _ _)

theorem Value.uncoded_holds (text : String) (v : Value) : AllUncoded (v.holds text) := by
  cases v with
  | object | array | str => exact .ok _
  | _ => exact .error (Failure.uncoded_raised _ _)

theorem uncoded_serialize (what : String) (v : Value) : AllUncoded (serialize what v) := by
  unfold serialize
  split
  · exact .ok _
  · exact .error ((Failure.isOfKind_ofKind .invalidArgument _).withCause _).uncoded

theorem Stored.uncoded_decode (document : Stored) : AllUncoded document.decode := by
  cases document with
  | absent | text => exact .ok _
  | parsed members => exact (uncoded_serialize _ _).map _

end Document

namespace Aws

theorem uncoded_stored (v : Value) : AllUncoded (Response.stored v) := by
  cases v with
  | null | object | str => exact .ok _
  | _ =>
    refine (Value.uncoded_holds _ _).bind fun percent => ?_
    split <;> exact .error (Failure.uncoded_raised _ _)

theorem uncoded_differs (document : Value) (new : Option String) :
    AllUncoded (Response.differs document new) := by
  cases new with
  | none => exact .ok _
  | some text => exact (uncoded_stored document).map _

theorem uncoded_roleArn (response : Value) : AllUncoded (roleArn response) :=
  (response.uncoded_member _).bind fun role => role.uncoded_member _

/-! ## Blame -/

/-- A failure that tells of an error code is the failure of a call that was made. -/
def Blamed (trace : List (Event interface)) (result : Except Failure α) : Prop :=
  ∀ f, result = .error f →
    f.Uncoded ∨ ∃ call answer, .called call answer ∈ trace ∧ Fails call answer f

theorem Blamed.of_uncoded {result : Except Failure α} (h : AllUncoded result)
    (trace : List (Event interface)) : Blamed trace result :=
  fun f hf => Or.inl (h f hf)

theorem Blamed.of_called {trace : List (Event interface)} {call : Call}
    {answer : Except Failure call.Reply} {f : Failure} (hmem : .called call answer ∈ trace)
    (hfails : Fails call answer f) : Blamed trace (.error f : Except Failure α) := by
  rintro g hg
  cases hg
  exact Or.inr ⟨call, answer, hmem, hfails⟩

theorem Blamed.append (trace : List (Event interface)) {rest : List (Event interface)}
    {result : Except Failure α} (h : Blamed rest result) : Blamed (trace ++ rest) result := by
  intro f hf
  rcases h f hf with huncoded | ⟨call, answer, hmem, hfails⟩
  · exact Or.inl huncoded
  · exact Or.inr ⟨call, answer, List.mem_append_right _ hmem, hfails⟩

theorem blamed_bind {x : Action interface α} {f : α → Action interface β}
    (h : x.run.Yields Blamed) (hf : ∀ a, (f a).run.Yields Blamed) :
    (x >>= f).run.Yields Blamed := by
  refine Action.yields_bind h (fun trace e hblamed g hg => ?_) fun trace a _ =>
    (hf a).mono fun rest b => Blamed.append trace
  cases hg
  exact hblamed e rfl

/-- A step that is taken where it is needed. -/
theorem blamed_bind_if (needed : Prop) [Decidable needed] {x : Action interface α}
    {next : Action interface β} (h : x.run.Yields Blamed) (hnext : next.run.Yields Blamed) :
    (if needed then x >>= fun _ => next else next).run.Yields Blamed := by
  split
  · exact blamed_bind h fun _ => hnext
  · exact hnext

theorem blamed_pure (a : α) : (pure a : Action interface α).run.Yields Blamed :=
  .of_uncoded (.ok a) []

theorem blamed_fail {f : Failure} (h : f.Uncoded) :
    (Action.fail f : Action interface α).run.Yields Blamed :=
  .of_uncoded (.error h) []

theorem blamed_ofExcept {result : Except Failure α} (h : AllUncoded result) :
    (Action.ofExcept result : Action interface α).run.Yields Blamed := by
  rw [Action.run_ofExcept]
  exact .of_uncoded h []

theorem blamed_request (h : Handle) (c : Call) : (h.request c).run.Yields Blamed := by
  cases hopen : h.connected with
  | false =>
    rw [request_closed hopen]
    exact blamed_fail (uncoded_closedClient c.method)
  | true =>
    rw [request_run hopen]
    intro answer
    cases answer with
    | ok reply => exact .of_uncoded (.ok reply) _
    | error f => exact .of_called (List.mem_singleton_self _) (.refused c f)

theorem blamed_required (name : String) (text : Option String) :
    (required name text).run.Yields Blamed := by
  unfold required
  split
  · exact blamed_pure _
  · exact blamed_fail (Failure.isOfKind_ofKind .invalidArgument _).uncoded

/-- What is wrong with a listing is a page that could not be fetched, or no error code tells of
it. -/
theorem pagedNames_blame {pages : List (Except Failure Value)} {f : Failure}
    (h : pagedNames pages = .error f) :
    f.Uncoded ∨ ∃ before after names,
      pages = before ++ .error f :: after ∧ pagedNames before = .ok names := by
  induction pages with
  | nil => cases h
  | cons page pages ih =>
    cases page with
    | error e =>
      obtain rfl : e = f := Except.error.inj h
      exact Or.inr ⟨[], pages, [], rfl, rfl⟩
    | ok page =>
      change (page.memberOr "PolicyNames" (.array []) >>= fun names => names.elements >>=
        fun names => pagedNames pages >>= fun more => pure (names ++ more)) = .error f at h
      rcases bind_eq_error_iff.mp h with hnames | ⟨names, hnames, h⟩
      · exact Or.inl (page.uncoded_memberOr _ _ f hnames)
      rcases bind_eq_error_iff.mp h with helements | ⟨elements, helements, h⟩
      · exact Or.inl (names.uncoded_elements f helements)
      rcases bind_eq_error_iff.mp h with hrest | ⟨more, _, h⟩
      · refine (ih hrest).imp_right fun ⟨before, after, names', hpages, hbefore⟩ => ?_
        refine ⟨.ok page :: before, after, elements ++ names', by rw [hpages]; rfl, ?_⟩
        simp only [pagedNames, hnames, helements, hbefore, bind, Except.bind, pure, Except.pure]
      · cases h

theorem updateRole_blamed (h : Handle) (existing : Value) (description trustPolicy : String)
    (duration : Option Int) :
    (updateRole h existing description trustPolicy duration).run.Yields Blamed := by
  refine blamed_bind (blamed_ofExcept (existing.uncoded_member _)) fun name =>
    blamed_bind (blamed_ofExcept (existing.uncoded_memberOr _ _)) fun storedDescription =>
    blamed_bind (blamed_ofExcept (existing.uncoded_memberOr _ _)) fun storedDuration => ?_
  refine blamed_bind_if _ (blamed_request h (.updateRole name description duration)) ?_
  refine blamed_bind (blamed_ofExcept (existing.uncoded_memberOr _ _)) fun stored =>
    blamed_bind (blamed_ofExcept (uncoded_differs _ _)) fun differs => ?_
  exact blamed_bind_if _ (blamed_request h (.updateTrustPolicy name trustPolicy)) (blamed_pure _)

theorem converge_blamed (h : Handle) (r : Request.CreateIdentity) (c : RoleCreation) :
    (converge h r c).run.Yields Blamed :=
  blamed_bind (.of_uncoded (.ok ()) _) fun _ =>
    blamed_bind (blamed_request h (.getRole r.identityName)) fun response =>
    blamed_bind (blamed_ofExcept (Value.uncoded_member _ response)) fun existing =>
    blamed_bind (updateRole_blamed h existing _ _ _) fun _ =>
    blamed_ofExcept (existing.uncoded_member _)

theorem createIdentity_blamed (h : Handle) (r : Request.CreateIdentity) :
    (createIdentity h r).run.Yields Blamed := by
  refine blamed_bind (blamed_ofExcept (uncoded_serialize _ _)) fun text => ?_
  cases hopen : h.connected with
  | false =>
    simp only [Handle.request, hopen]
    exact blamed_fail (uncoded_closedClient "create_role")
  | true =>
    simp only [Handle.request, hopen, if_true]
    refine Action.yields_attempt_bind fun answer => ?_
    cases answer with
    | ok response =>
      exact (blamed_ofExcept (uncoded_roleArn response)).mono fun rest b hrest =>
        hrest.append [.called _ (.ok response)]
    | error f =>
      simp only
      split
      · exact (converge_blamed h r _).mono fun rest b hrest =>
          hrest.append [.called _ (.error f)]
      · exact .of_called (List.mem_singleton_self _) (.refused _ f)

theorem getAttachedPolicies_blamed (h : Handle) (r : Request.GetAttachedPolicies) :
    (getAttachedPolicies h r).run.Yields Blamed := by
  refine blamed_bind (blamed_required _ _) fun roleName =>
    blamed_bind (blamed_request h .openListing) fun _ => ?_
  cases hopen : h.connected with
  | false =>
    rw [ExceptT.run_bind, request_closed hopen]
    exact blamed_fail (uncoded_closedClient "paginate")
  | true =>
    simp only [Handle.request, hopen, if_true]
    refine Action.yields_request_bind (fun f => ?_) fun pages => ?_
    · exact .of_called (List.mem_singleton_self _) (.refused _ f)
    · cases hnames : pagedNames pages with
      | ok names => exact .of_uncoded (.ok (Value.array names)) _
      | error f =>
        rcases pagedNames_blame hnames with huncoded | ⟨before, after, names, rfl, hbefore⟩
        · exact .of_uncoded (.error huncoded) _
        · exact .of_called (List.mem_singleton_self _) (.page roleName hbefore f)

/-- Whatever the adapter raises that tells of an error code, a call has failed with it. -/
theorem perform_blamed (h : Handle) (a : AdapterCall) :
    (a.perform adapter h).run.Yields Blamed := by
  cases a with
  | createIdentity r => exact createIdentity_blamed h r
  | getIdentity r =>
    exact blamed_bind (blamed_request h (.getRole r.identityName)) fun response =>
      blamed_ofExcept (uncoded_roleArn response)
  | deleteIdentity r =>
    exact blamed_bind (blamed_request h (.deleteRole r.identityName)) fun _ => blamed_pure _
  | removePolicy r =>
    exact blamed_bind (blamed_request h (.deleteRolePolicy r.identityName r.policyName))
      fun _ => blamed_pure _
  | attachInlinePolicy r =>
    refine blamed_bind (blamed_required _ _) fun name => ?_
    split
    · refine blamed_bind (blamed_ofExcept (uncoded_serialize _ _)) fun text => ?_
      exact blamed_bind (blamed_request h (.putRolePolicy r.identityName name text))
        fun _ => blamed_pure _
    · exact blamed_fail (uncoded_closedClient "put_role_policy")
  | getInlinePolicyDetails r =>
    refine blamed_bind (blamed_required _ _) fun roleName =>
      blamed_bind (blamed_required _ _) fun policyName =>
      blamed_bind (blamed_request h (.getRolePolicy roleName policyName)) fun response => ?_
    exact blamed_bind (blamed_ofExcept (Value.uncoded_member _ response)) fun document =>
      blamed_bind (blamed_ofExcept (uncoded_stored document)) fun stored =>
      blamed_bind (blamed_ofExcept stored.uncoded_decode) fun _ => blamed_pure _
  | getAttachedPolicies r => exact getAttachedPolicies_blamed h r

end Aws
end CloudIdentity

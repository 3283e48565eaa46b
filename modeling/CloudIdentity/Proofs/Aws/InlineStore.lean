import CloudIdentity.Aws.Roles
import CloudIdentity.Proofs.Aws.Convergence
import CloudIdentity.Proofs.Client.Invocation
import CloudIdentity.Proofs.Document.Difference

/-!
A service that keeps the inline policies of roles. It stores the text that it is given under a role
and a name, and hands it back percent-encoded or parsed. Decoding undoes the first; the second is
written anew, which gives the same text again since a policy is faithful to its text: it has no name
twice in one object, and what a document puts into it comes back as it was.
-/

namespace CloudIdentity.Aws

open Document

/-! ## The text of an inline policy -/

theorem names_listed (name : String) (texts : List String) :
    ((listed name texts).map Prod.fst).Sublist [name] := by
  unfold listed
  split
  · exact List.nil_sublist _
  · exact List.Sublist.refl _

theorem names_mapped (name : String) (members : Option Members) :
    ((mapped name members).map Prod.fst).Sublist [name] := by
  unfold mapped
  split
  · exact List.Sublist.refl _
  · exact List.nil_sublist _

/-- The conditions and the principals of a statement come back from their text as they were. -/
structure Retold (s : Statement) : Prop where
  conditions : ∀ ms, s.conditions = some ms → (Value.object ms).Faithful
  principals : ∀ ms, s.principals = some ms → (Value.object ms).Faithful

theorem names_statement (s : Statement) :
    ((statementMembers s).map Prod.fst).Sublist
      ["Effect", "Action", "Sid", "Resource", "Condition", "Principal"] := by
  simp only [statementMembers, List.map_append]
  refine (((((List.Sublist.refl ["Effect"]).append (names_listed _ _)).append
    (?_ : List.Sublist _ ["Sid"])).append (names_listed _ _)).append (names_mapped _ _)).append
      (names_mapped _ _)
  cases Text.filled? s.sid with
  | some sid => exact List.Sublist.refl _
  | none => exact List.nil_sublist _

/-- What holds of texts, of lists of texts, and of the conditions and the principals, holds of every
member of a statement. -/
theorem forall_statement {P : Value → Prop} {s : Statement} (text : ∀ t, P (.str t))
    (texts : ∀ ts, P (.ofTexts ts)) (conditions : ∀ ms, s.conditions = some ms → P (.object ms))
    (principals : ∀ ms, s.principals = some ms → P (.object ms)) :
    ∀ m ∈ statementMembers s, P m.2 := by
  intro m hm
  simp only [statementMembers, List.mem_append] at hm
  rcases hm with ((((heffect | hactions) | hsid) | hresources) | hconditions) | hprincipals
  · rw [List.mem_singleton.mp heffect]
    exact text _
  · exact forall_listed (texts _) m hactions
  · cases hfilled : Text.filled? s.sid with
    | some sid =>
      rw [hfilled] at hsid
      rw [List.mem_singleton.mp hsid]
      exact text sid
    | none =>
      rw [hfilled] at hsid
      cases hsid
  · exact forall_listed (texts _) m hresources
  · exact forall_mapped conditions m hconditions
  · exact forall_mapped principals m hprincipals

theorem faithful_statement {s : Statement} (h : Retold s) :
    (Value.object (statementMembers s)).Faithful :=
  .object ((names_statement s).nodup (by decide))
    (forall_statement Value.Faithful.str Value.faithful_ofTexts h.conditions h.principals)

theorem faithful_inlinePolicy {d : PolicyDocument} (h : ∀ s ∈ d.statements, Retold s) :
    (inlinePolicy d).Faithful := by
  have hstatements :
      (Value.array (d.statements.map fun s => .object (statementMembers s))).Faithful := by
    refine .array fun v hv => ?_
    obtain ⟨s, hs, rfl⟩ := List.mem_map.mp hv
    exact faithful_statement (h s hs)
  refine .object (by simp) fun m hm => ?_
  rcases List.mem_cons.mp hm with rfl | hrest
  · exact .str _
  · rw [List.mem_singleton.mp hrest]
    exact hstatements

/-- The forms in which the text of a policy is handed back: parsed, with its members in order, or
with percent signs and other characters encoded. -/
inductive Presents (text : String) : Value → Prop where
  | parsed {members : Members} (h : Value.ofText? text = some (.object members)) :
      Presents text (.object members)
  | encoded {s : String} (h : Text.Percent.Encodes text.toList s.toList) : Presents text (.str s)

/-- In whatever form it is handed back, a policy is decoded to the text that was stored. -/
theorem Presents.decoded {d : PolicyDocument} {text : String} {document : Value}
    (hpresents : Presents text document) (hretold : ∀ s ∈ d.statements, Retold s)
    (htext : inlinePolicyText d = .ok text) :
    ∃ stored, Response.stored document = .ok stored ∧ stored.decode = .ok (some text) := by
  cases hpresents with
  | @parsed members h =>
    have hread := (faithful_inlinePolicy hretold).ofText?_of_serialize htext
    rw [h] at hread
    have hwritten : serialize "inline policy document" (.object members) = .ok text := by
      rw [Option.some.inj hread]
      exact htext
    exact ⟨.parsed members, rfl, Stored.decode_parsed hwritten⟩
  | @encoded s h => exact ⟨.text s, rfl, Stored.decode_text h⟩

/-! ## The service -/

/-- A service keeps the inline policies of roles in its state. -/
structure InlineStore {σ : Type} (service : Service interface σ) where
  policy : σ → String → String → Option String
  put : ∀ state role name text reply,
    (service.answer (.putRolePolicy (some role) name text) state).1 = .ok reply →
      policy (service.answer (.putRolePolicy (some role) name text) state).2 role name = some text
  get : ∀ state role name text, policy state role name = some text →
    ∃ response document, (service.answer (.getRolePolicy role name) state).1 = .ok response ∧
      response.member "PolicyDocument" = .ok document ∧ Presents text document

/-- An attachment of a document with a name writes the document down, on an open connection, and puts
the text. -/
theorem attachInlinePolicy_eq {r : Request.AttachInlinePolicy} {document : PolicyDocument}
    {name : String} (h : Handle) (hdocument : r.policyDocument = some document)
    (hname : Text.filled? document.name = some name) :
    attachInlinePolicy h r =
      if h.connected then
        Action.ofExcept (inlinePolicyText document) >>= fun text =>
          h.request (.putRolePolicy r.identityName name text) >>= fun _ => pure Value.null
      else Action.fail (closedClient "put_role_policy") := by
  simp only [attachInlinePolicy, hdocument, Option.getD_some, required, hname, pure_bind]

namespace InlineStore

variable {σ : Type} {service : Service interface σ} {h : Handle} {state : σ}

/-- An attachment that succeeds has stored the text of its document. -/
theorem attached (store : InlineStore service) {r : Request.AttachInlinePolicy}
    {document : PolicyDocument} {role name : String} {answer : Value}
    (hrole : r.identityName = some role) (hdocument : r.policyDocument = some document)
    (hname : Text.filled? document.name = some name)
    (hok : ((attachInlinePolicy h r).run.run service state).result = .ok answer) :
    h.connected = true ∧ ∃ text, inlinePolicyText document = .ok text ∧
      store.policy ((attachInlinePolicy h r).run.run service state).state role name =
        some text := by
  rw [attachInlinePolicy_eq h hdocument hname, hrole] at hok ⊢
  cases hopen : h.connected with
  | false =>
    rw [hopen] at hok
    cases hok
  | true =>
    rw [hopen, if_pos rfl] at hok
    rw [if_pos rfl]
    cases htext : inlinePolicyText document with
    | error f =>
      rw [htext] at hok
      cases hok
    | ok text =>
      refine ⟨rfl, text, rfl, ?_⟩
      rw [htext] at hok
      have hput := store.put state role name text
      simp only [Action.ofExcept, pure_bind, ExceptT.run_bind, request_run hopen,
        Program.call_bind, Program.run] at hok ⊢
      cases hanswer : (service.answer (.putRolePolicy (some role) name text) state).1 with
      | error f =>
        rw [hanswer] at hok
        cases hok
      | ok reply => exact hput reply hanswer

/-- A policy that is stored is got as its text. -/
theorem got (store : InlineStore service) (hopen : h.connected = true)
    {r : Request.GetInlinePolicyDetails} {d : PolicyDocument} {role name text : String}
    (hrole : Text.filled? r.roleName = some role) (hname : Text.filled? r.policyName = some name)
    (hretold : ∀ s ∈ d.statements, Retold s) (htext : inlinePolicyText d = .ok text)
    (hstored : store.policy state role name = some text) :
    ((getInlinePolicyDetails h r).run.run service state).result = .ok (.str text) := by
  obtain ⟨response, document, hanswer, hmember, hpresents⟩ := store.get state role name text hstored
  obtain ⟨stored, hform, hdecode⟩ := hpresents.decoded hretold htext
  simp only [getInlinePolicyDetails, required, hrole, hname, pure_bind, ExceptT.run_bind,
    request_run hopen, Program.call_bind, Program.run, hanswer, Program.done_bind,
    Action.run_ofExcept, hmember, hform, hdecode]
  rfl

/-- What is attached can be got. Once a document has been attached to a role under its name it has a
text, which is stored. As long as it is, that text is what a client gets for the role and the name,
in whatever form the service hands it back. -/
theorem attached_then_got (store : InlineStore service) (h : Handle)
    {r : Request.AttachInlinePolicy} {q : Request.GetInlinePolicyDetails} {role name : String}
    {document : PolicyDocument} {answer : Value} (hrole : r.identityName = some role)
    (hroleFilled : ∃ c ∈ role.toList, Text.isBlank c = false)
    (hdocument : r.policyDocument = some document) (hname : document.name = some name)
    (hnameFilled : ∃ c ∈ name.toList, Text.isBlank c = false)
    (hretold : ∀ s ∈ document.statements, Retold s)
    (hlooked : q.roleName = some role ∧ q.policyName = some name)
    (hok : ((Opened.mk adapter h).outcome service (.attachInlinePolicy (some r)) state).result =
      .ok answer) :
    let o := Opened.mk adapter h
    let after := (o.outcome service (.attachInlinePolicy (some r)) state).state
    ∃ text, inlinePolicyText document = .ok text ∧ store.policy after role name = some text ∧
      ∀ later, store.policy later role name = some text →
        (o.outcome service (.getInlinePolicyDetails (some q)) later).result = .ok (.str text) := by
  intro o after
  have hadmitted : ClientCall.admit (.attachInlinePolicy (some r)) = .ok (.attachInlinePolicy r) :=
    ClientCall.admit_eq_ok_iff.mpr (.attachInlinePolicy hrole hroleFilled hdocument)
  have hnamed : Text.filled? document.name = some name :=
    Text.filled?_eq_some_iff.mpr ⟨hname, Text.not_blank_iff.mpr hnameFilled⟩
  obtain ⟨a, attached, ha, hattached⟩ := Opened.exists_of_outcome_ok hok
  obtain rfl := Except.ok.inj (hadmitted.symm.trans ha)
  obtain ⟨hopen, text, htext, hstored⟩ := store.attached hrole hdocument hnamed hattached
  refine ⟨text, htext, ?_, fun later hlater => ?_⟩
  · have hafter : after = (o.performed service (.attachInlinePolicy r) state).state :=
      Opened.outcome_state hadmitted
    rw [hafter]
    exact hstored
  · have hgot := store.got hopen (r := q)
      (Text.filled?_eq_some_iff.mpr ⟨hlooked.1, Text.not_blank_iff.mpr hroleFilled⟩)
      (Text.filled?_eq_some_iff.mpr ⟨hlooked.2, Text.not_blank_iff.mpr hnameFilled⟩)
      hretold htext hlater
    exact Opened.outcome_answered (ClientCall.admit_eq_ok_iff.mpr (.getInlinePolicyDetails q)) hgot

end InlineStore

/-! ## A service that is nothing but its policies -/

/-- Hands policies back parsed, or encoded. -/
def keeper (parsed : Bool) : Service interface (String → String → Option String) where
  answer
    | .putRolePolicy (some role) name text, policies =>
      (.ok (.object []), fun r n => if r = role ∧ n = name then some text else policies r n)
    | .getRolePolicy role name, policies =>
      match policies role name with
      | none => (.error (Lossy.failure "NoSuchEntity"), policies)
      | some text =>
        let document := match parsed, Value.ofText? text with
          | true, some (.object members) => .object members
          | _, _ => .str (Lossy.encode text)
        (.ok (.object [("PolicyDocument", document)]), policies)
    | _, policies => (.error (Lossy.failure "NoSuchEntity"), policies)

def inlineStore (parsed : Bool) : InlineStore (keeper parsed) where
  policy policies := policies
  put policies role name text reply _ := by simp [keeper]
  get policies role name text hstored := by
    have hanswer : (keeper parsed).answer (.getRolePolicy role name) policies = (.ok (.object
        [("PolicyDocument", match parsed, Value.ofText? text with
          | true, some (.object members) => .object members
          | _, _ => .str (Lossy.encode text))]), policies) := by
      simp only [keeper, hstored]
    rw [hanswer]
    refine ⟨_, _, rfl, rfl, ?_⟩
    split
    · next h => exact .parsed h
    · exact .encoded (Lossy.encodes_encode text)

/-- A policy under a condition with a percent sign, a character that is escaped, a double and an
integer, handed back in both forms. -/
theorem attached_then_got_both_forms :
    let half : Decimal.Binary64 := .finite false (Nat.pow 2 52) (-53)
    let document : PolicyDocument :=
      { name := some "p%q"
        statements := [{ effect := .allow, actions := ["s3:Get*"]
                         conditions := some [("100%", .object [("\u00fc", .float half)]),
                           ("a", .array [.int 7, .null])] }] }
    let r : Request.AttachInlinePolicy :=
      { identityName := some "ci", policyDocument := some document }
    let q : Request.GetInlinePolicyDetails := { policyName := some "p%q", roleName := some "ci" }
    let o : Opened interface Handle := ⟨adapter, ⟨true, none⟩⟩
    let attach : ClientCall := .attachInlinePolicy (some r)
    let get : ClientCall := .getInlinePolicyDetails (some q)
    ∃ text, inlinePolicyText document = .ok text ∧
      (o.outcome (keeper true) get (o.outcome (keeper true) attach fun _ _ => none).state).result =
        .ok (.str text) ∧
      (o.outcome (keeper false) get (o.outcome (keeper false) attach fun _ _ => none).state).result =
        .ok (.str text) := by
  intro half document r q o attach get
  have hback : Reader.readBack half = half := by decide +kernel
  have hconditions : (Value.object [("100%", .object [("\u00fc", .float half)]),
      ("a", .array [.int 7, .null])]).Faithful := by
    refine .object (by decide) ?_
    simp only [List.forall_mem_cons]
    refine ⟨.object (by decide) (by simpa using .float hback), .array ?_, by simp⟩
    simpa only [List.forall_mem_cons] using ⟨.int (by decide), .null, by simp⟩
  have hretold : ∀ s ∈ document.statements, Retold s := by
    intro s hs
    obtain rfl := List.mem_singleton.mp hs
    refine ⟨fun ms hms => ?_, nofun⟩
    obtain rfl := Option.some.inj hms
    exact hconditions
  have hforms (parsed : Bool) : ∃ text, inlinePolicyText document = .ok text ∧
      (o.outcome (keeper parsed) get (o.outcome (keeper parsed) attach
        fun _ _ => none).state).result = .ok (.str text) := by
    have hok : (o.outcome (keeper parsed) attach fun _ _ => none).result = .ok .null := rfl
    obtain ⟨text, htext, hstored, hgot⟩ := (inlineStore parsed).attached_then_got (r := r) (q := q)
      ⟨true, none⟩ rfl ⟨'c', by decide, by decide⟩ rfl rfl ⟨'p', by decide, by decide⟩ hretold
      ⟨rfl, rfl⟩ hok
    exact ⟨text, htext, hgot _ hstored⟩
  obtain ⟨text, htext, hparsed⟩ := hforms true
  obtain ⟨text', htext', hencoded⟩ := hforms false
  obtain rfl := Except.ok.inj (htext.symm.trans htext')
  exact ⟨text, htext, hparsed, hencoded⟩

end CloudIdentity.Aws

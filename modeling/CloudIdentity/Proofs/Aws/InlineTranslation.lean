import CloudIdentity.Proofs.Aws.InlineStore
import CloudIdentity.Proofs.Document.Comparison

/-!
What the text of an inline policy tells of its document: all but the name, and what counts as
nothing. Documents are brought into a normal form without those; their texts are read as equal
values just if the normal forms are equal.
-/

namespace CloudIdentity

open Document

/-! ## Normal forms -/

/-- Members that are equal as the objects they make up. -/
def SameMembers (a b : Members) : Prop := Value.same (.object a) (.object b) = true

theorem Effect.name_inj {e f : Effect} : e.name = f.name ↔ e = f := by
  cases e <;> cases f <;> decide

namespace Statement

/-- A statement without a blank identifier and without empty parts. -/
def normal (s : Statement) : Statement :=
  { s with
    sid := Text.filled? s.sid
    resources := s.resources.filter (!·.isEmpty)
    principals := s.principals.filter (!·.isEmpty)
    conditions := s.conditions.filter (!·.isEmpty) }

/-- Statements that are equal field by field. -/
structure Equal (s t : Statement) : Prop where
  sid : s.sid = t.sid
  effect : s.effect = t.effect
  actions : s.actions = t.actions
  resources : s.resources = t.resources
  principals : Option.Rel SameMembers s.principals t.principals
  conditions : Option.Rel SameMembers s.conditions t.conditions

end Statement

namespace PolicyDocument

/-- A document without its name, in a version of its own or in the usual one. -/
def normal (d : PolicyDocument) : PolicyDocument where
  version := some ((Text.filled? d.version).getD "2012-10-17")
  statements := d.statements.map Statement.normal

/-- Documents that are equal field by field, their statements one after another. -/
structure Equal (d e : PolicyDocument) : Prop where
  name : d.name = e.name
  version : d.version = e.version
  statements : List.Forall₂ Statement.Equal d.statements e.statements

end PolicyDocument

namespace Aws

/-! ## The members of a statement -/

variable {s t : Statement}

theorem lookup_listed (key : String) (texts : List String) (name : String) :
    (listed key texts).lookup name =
      if name = key then (if texts = [] then none else some (.ofTexts texts)) else none := by
  cases texts with
  | nil => simp [listed]
  | cons text texts => simp [listed, Members.lookup_singleton]

theorem lookup_mapped (key : String) (members : Option Members) (name : String) :
    (mapped key members).lookup name =
      if name = key then (members.filter (!·.isEmpty)).map .object else none := by
  obtain _ | _ | _ := members <;> simp [mapped, Members.lookup_singleton, Option.filter_some]

/-- What a statement has under each name. -/
def memberOf? (s : Statement) : String → Option Value
  | "Effect" => some (.str s.effect.name)
  | "Action" => if s.actions = [] then none else some (.ofTexts s.actions)
  | "Sid" => s.normal.sid.map .str
  | "Resource" => s.normal.resources.map .ofTexts
  | "Condition" => s.normal.conditions.map .object
  | "Principal" => s.normal.principals.map .object
  | _ => none

theorem filled_resources (resources : Option (List String)) :
    (if resources.getD [] = [] then none else some (Value.ofTexts (resources.getD []))) =
      (resources.filter (!·.isEmpty)).map .ofTexts := by
  obtain _ | _ | _ := resources <;> simp [Option.filter_some]

theorem lookup_statement {name : String}
    (hname : name ∈ ["Effect", "Action", "Sid", "Resource", "Condition", "Principal"]) :
    (statementMembers s).lookup name = memberOf? s name := by
  simp only [List.mem_cons, List.not_mem_nil, or_false] at hname
  cases hsid : Text.filled? s.sid <;>
    simp only [statementMembers, hsid, List.lookup_append, List.lookup_nil, lookup_listed,
      lookup_mapped, Members.lookup_singleton, filled_resources] <;>
    rcases hname with rfl | rfl | rfl | rfl | rfl | rfl <;>
    simp [memberOf?, Statement.normal, hsid]

theorem rel_map_iff {α : Type} {r : Value → Value → Prop} {f : α → Value} {x y : Option α} :
    Option.Rel r (x.map f) (y.map f) ↔ Option.Rel (fun a b => r (f a) (f b)) x y := by
  cases x <;> cases y <;> simp

theorem rel_eq_iff {α : Type} {x y : Option α} : Option.Rel (fun a b => a = b) x y ↔ x = y := by
  cases x <;> cases y <;> simp

theorem rel_filled_iff {as bs : List String} :
    Option.Rel (fun x y => Value.same x y = true)
        (if as = [] then none else some (.ofTexts as))
        (if bs = [] then none else some (.ofTexts bs)) ↔ as = bs := by
  cases as <;> cases bs <;> simp [Value.same_ofTexts_iff]

/-- Statements are translated to equal values if their normal forms are equal. -/
theorem same_statement_iff :
    Value.same (.object (statementMembers s)) (.object (statementMembers t)) = true ↔
      s.normal.Equal t.normal := by
  rw [Value.same_object_iff_of_names (by decide) (names_statement s) (names_statement t)]
  have hmembers := forall₂_congr fun name (hname : name ∈
      ["Effect", "Action", "Sid", "Resource", "Condition", "Principal"]) =>
    Iff.of_eq (congrArg₂ (Option.Rel fun x y => Value.same x y = true)
      (lookup_statement (s := s) hname) (lookup_statement (s := t) hname))
  rw [hmembers]
  simp only [List.forall_mem_cons, memberOf?, Option.rel_some_some, rel_map_iff, rel_filled_iff,
    Value.same_str_iff, Value.same_ofTexts_iff, rel_eq_iff, Effect.name_inj]
  constructor
  · rintro ⟨effect, actions, sid, resources, conditions, principals, -⟩
    exact ⟨sid, effect, actions, resources, principals, conditions⟩
  · rintro ⟨sid, effect, actions, resources, principals, conditions⟩
    exact ⟨effect, actions, sid, resources, conditions, principals, List.forall_mem_nil _⟩

/-- Documents are translated to equal values if their normal forms are equal. -/
theorem equal_inlinePolicy_iff {d e : PolicyDocument} :
    (inlinePolicy d).equal (inlinePolicy e) = true ↔ d.normal.Equal e.normal := by
  have hnames (version statements : Value) :
      (([("Version", version), ("Statement", statements)] : Members).map Prod.fst).Sublist
        ["Version", "Statement"] := List.Sublist.refl _
  have hlookup (version statements : Value) :
      ([("Version", version), ("Statement", statements)] : Members).lookup "Statement" =
        some statements := rfl
  rw [inlinePolicy, inlinePolicy, Value.equal_object,
    Value.same_object_iff_of_names (by decide) (hnames _ _) (hnames _ _)]
  simp only [List.forall_mem_cons, hlookup, List.lookup_cons_self, Option.rel_some_some,
    Value.same_str_iff, Value.same_array_iff, List.forall₂_map_left_iff,
    List.forall₂_map_right_iff, same_statement_iff]
  constructor
  · rintro ⟨version, statements, -⟩
    refine ⟨rfl, congrArg some version, ?_⟩
    simpa only [PolicyDocument.normal, List.forall₂_map_left_iff, List.forall₂_map_right_iff]
      using statements
  · rintro ⟨-, version, statements⟩
    refine ⟨Option.some.inj version, ?_, List.forall_mem_nil _⟩
    simpa only [PolicyDocument.normal, List.forall₂_map_left_iff, List.forall₂_map_right_iff]
      using statements

/-! ## What can be read back -/

/-- The conditions and the principals of a statement have a text. -/
structure Expressible (s : Statement) : Prop where
  conditions : ∀ ms, s.conditions = some ms → Value.Writable compact (.object ms)
  principals : ∀ ms, s.principals = some ms → Value.Writable compact (.object ms)

theorem Retold.expressible (h : Retold s) : Expressible s where
  conditions ms hms := (h.conditions ms hms).writable compact
  principals ms hms := (h.principals ms hms).writable compact

/-- A document has a text if its conditions and principals have one. -/
theorem exists_inlinePolicyText {d : PolicyDocument} (h : ∀ s ∈ d.statements, Expressible s) :
    ∃ text, inlinePolicyText d = .ok text := by
  have hstatements : Value.Writable compact
      (.array (d.statements.map fun s => .object (statementMembers s))) := by
    refine Value.writable_array fun v hv => ?_
    obtain ⟨s, hs, rfl⟩ := List.mem_map.mp hv
    exact Value.writable_object (forall_statement Value.writable_str Value.writable_ofTexts
      (h s hs).conditions (h s hs).principals)
  have hpolicy : Value.Writable compact (inlinePolicy d) := by
    refine Value.writable_object ?_
    simpa only [List.forall_mem_cons] using ⟨Value.writable_str _, hstatements, nofun⟩
  exact hpolicy.serialize _

/-- What a statement does to which resources. -/
structure Outline where
  effect : CloudIdentity.Effect
  actions : List String
  resources : List String
  deriving DecidableEq

namespace Outline

def ofStatement (s : Statement) : Outline := ⟨s.effect, s.actions, s.resources.getD []⟩

/-- The outline of a statement that was read. -/
def ofValue (v : Value) : Outline where
  effect := if (v.members.get "Effect").text = CloudIdentity.Effect.deny.name then .deny else .allow
  actions := v.members.textsUnder "Action"
  resources := v.members.textsUnder "Resource"

/-- The outlines of the statements of a policy that was read, in order. -/
def ofPolicy (v : Value) : List Outline := (v.members.get "Statement").items.map ofValue

end Outline

/-- What is under a name once a statement has been read back. -/
theorem get_reread_statement {name : String}
    (hname : name ∈ ["Effect", "Action", "Sid", "Resource", "Condition", "Principal"]) :
    (Value.object (statementMembers s)).reread.members.get name =
      ((memberOf? s name).map Value.reread).getD .null := by
  rw [Value.reread_object ((names_statement s).nodup (by decide)), Value.members, Members.get,
    Value.lookup_rereadMembers, lookup_statement hname]

theorem outline_reread_statement (s : Statement) :
    Outline.ofValue (Value.object (statementMembers s)).reread = .ofStatement s := by
  have htexts (texts : List String) : (Value.ofTexts texts).reread = .ofTexts texts :=
    (Value.faithful_ofTexts texts).reread
  rw [Outline.ofValue, Members.textsUnder, Members.textsUnder, get_reread_statement (by decide),
    get_reread_statement (by decide), get_reread_statement (by decide), Outline.ofStatement]
  congr 1
  · simp only [memberOf?, Option.map_some, Option.getD_some, Value.reread, Value.text]
    cases s.effect <;> rfl
  · rw [memberOf?]
    split
    · next h => rw [h]; rfl
    · rw [Option.map_some, Option.getD_some, htexts, Value.texts_ofTexts]
  · simp only [memberOf?, Statement.normal]
    obtain _ | _ | ⟨r, rs⟩ := s.resources
    · rfl
    · rfl
    · exact (congrArg (·.items.map Value.text) (htexts (r :: rs))).trans (Value.texts_ofTexts _)

theorem outline_reread_inlinePolicy (d : PolicyDocument) :
    Outline.ofPolicy (inlinePolicy d).reread = d.statements.map .ofStatement := by
  have hget : (inlinePolicy d).reread.members.get "Statement" =
      .array ((d.statements.map fun s => .object (statementMembers s)).map Value.reread) := by
    rw [← Value.rereadItems_eq_map]
    rfl
  rw [Outline.ofPolicy, hget, Value.items, List.map_map, List.map_map]
  exact List.map_congr_left fun s _ => outline_reread_statement s

/-- The translation of documents to texts loses nothing but the name and what counts as nothing: two
texts are read as equal values just if the normal forms of the documents are equal. Of any document,
whatever comes back of its conditions and principals, the statements are read back in order, each
with its effect, its actions and its resources, unless something in it has no text. -/
theorem inline_translation_loses_nothing :
    (∀ d e : PolicyDocument, (∀ s ∈ d.statements, Retold s) → (∀ s ∈ e.statements, Retold s) →
      ∃ t u v w, inlinePolicyText d = .ok t ∧ inlinePolicyText e = .ok u ∧
        Value.ofText? t = some v ∧ Value.ofText? u = some w ∧
        (v.equal w = true ↔ d.normal.Equal e.normal)) ∧
    ∀ d : PolicyDocument,
      (∃ t v, inlinePolicyText d = .ok t ∧ Value.ofText? t = some v ∧
        Outline.ofPolicy v = d.statements.map .ofStatement) ∨
      (∃ f, inlinePolicyText d = .error f) ∧ ∃ s ∈ d.statements, ¬ Expressible s := by
  constructor
  · intro d e hd he
    have hread {d : PolicyDocument} (h : ∀ s ∈ d.statements, Retold s) :
        ∃ t, inlinePolicyText d = .ok t ∧ Value.ofText? t = some (inlinePolicy d) := by
      obtain ⟨t, ht⟩ := exists_inlinePolicyText fun s hs => (h s hs).expressible
      exact ⟨t, ht, (faithful_inlinePolicy h).ofText?_of_text? Reader.passes_compact
        (serialize_eq_ok_iff.mp ht)⟩
    obtain ⟨t, ht, hv⟩ := hread hd
    obtain ⟨u, hu, hw⟩ := hread he
    exact ⟨t, u, _, _, ht, hu, hv, hw, equal_inlinePolicy_iff⟩
  · intro d
    cases htext : inlinePolicyText d with
    | ok t =>
      refine Or.inl ⟨t, _, rfl, Value.ofText?_of_text? Reader.passes_compact
        (serialize_eq_ok_iff.mp htext), outline_reread_inlinePolicy d⟩
    | error f =>
      refine Or.inr ⟨⟨f, rfl⟩, ?_⟩
      by_contra hall
      obtain ⟨t, ht⟩ := exists_inlinePolicyText (d := d) fun s hs => by
        by_contra hnot
        exact hall ⟨s, hs, hnot⟩
      rw [htext] at ht
      cases ht

/-- Two documents that differ in name, in what counts as nothing, and in how a number is given, have
texts that are equal as values; one that denies what they allow does not. -/
theorem inline_translation_loses_nothing_blanks :
    let s : Statement := { effect := .allow, actions := ["s3:Get*", "s3:Put*"] }
    let d : PolicyDocument :=
      { name := some "p", version := some " "
        statements := [{ s with
          sid := some "\t", resources := some [], principals := some []
          conditions := some [("a", .int 1), ("b", .null)] }] }
    let e : PolicyDocument :=
      { version := some "2012-10-17"
        statements := [{ s with conditions := some [("b", .null), ("a", .bool true)] }] }
    let f : PolicyDocument := { statements := [{ s with effect := .deny }] }
    (∃ t u v w, inlinePolicyText d = .ok t ∧ inlinePolicyText e = .ok u ∧
      Value.ofText? t = some v ∧ Value.ofText? u = some w ∧ v.equal w = true) ∧
    (∃ t u v w, inlinePolicyText d = .ok t ∧ inlinePolicyText f = .ok u ∧
      Value.ofText? t = some v ∧ Value.ofText? u = some w ∧ v.equal w = false) := by
  intro s d e f
  have hd : ∀ s ∈ d.statements, Retold s := by
    simp only [d, List.forall_mem_singleton]
    refine ⟨fun ms hms => ?_, fun ms hms => ?_⟩ <;> obtain rfl := Option.some.inj hms
    · exact .object (by decide) (by simpa using ⟨.int (by decide), .null⟩)
    · exact .object (by decide) nofun
  have he : ∀ s ∈ e.statements, Retold s := by
    simp only [e, List.forall_mem_singleton]
    refine ⟨fun ms hms => ?_, nofun⟩
    obtain rfl := Option.some.inj hms
    exact .object (by decide) (by simpa using ⟨.null, .bool true⟩)
  have hf : ∀ s ∈ f.statements, Retold s := by
    simp only [f, List.forall_mem_singleton]
    exact ⟨nofun, nofun⟩
  constructor
  · obtain ⟨t, u, v, w, ht, hu, hv, hw, hequal⟩ := inline_translation_loses_nothing.1 d e hd he
    refine ⟨t, u, v, w, ht, hu, hv, hw, hequal.mpr ⟨rfl, rfl, .cons ?_ .nil⟩⟩
    exact ⟨rfl, rfl, rfl, rfl, .none, .some (by unfold SameMembers; decide +kernel)⟩
  · obtain ⟨t, u, v, w, ht, hu, hv, hw, hequal⟩ := inline_translation_loses_nothing.1 d f hd hf
    refine ⟨t, u, v, w, ht, hu, hv, hw, ?_⟩
    rw [← Bool.not_eq_true, hequal]
    rintro ⟨_, _, _ | ⟨hstatement, _⟩⟩
    cases hstatement.effect

end Aws

end CloudIdentity

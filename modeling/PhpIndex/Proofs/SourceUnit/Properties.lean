import PhpIndex.Proofs.SourceUnit.Members
import PhpIndex.Proofs.Walk.DocTypes
import PhpIndex.Proofs.Walk.Response

/-!
The properties that a group declares.

* `DocTyped`: the type that the doc comments of a group and of an element give a property;
* `Scope.Describes`: the property that an element describes in a scope;
* `Scope.Outcome`: what comes of an element, which is a property and perhaps a report, or a report
  alone; `Scope.outcome_outcomeOf`: this is what comes of each;
* `Scope.DeclaresGroup`: what comes of a group, where nothing but the properties of the class around
  it changes; `Scope.declaresGroup`: a group in a registered class is declared in this way;
* `propertiesDeclared`: **all groups of properties are declared in this way** that are visited in a
  class, with each element typed by its place and name.
-/

namespace PhpIndex

open DocBlock

/-! ### What an element describes -/

/-- The elements of a group of properties, each with its place among them. -/
def Node.propertyElements (group : Node) : List (Node × Nat) :=
  (group.childNodes.filter (·.kind = .propertyElem)).zipIdx

/-- A type that doc comments give the property of an element. -/
def DocTyped (group element : Node) (index : Nat) (name : String) (type : UnionType) : Prop :=
  ∃ tag, Chosen (.ofText? group.doc) (.ofText? element.doc) index name tag ∧ tag.type = type ∧
    ∃ n, n ∈ type.names

/-- A property that an element describes. With a type in a doc comment this is the one that counts,
together with `null` if the default value is exactly this. -/
structure Scope.Describes (s : Scope) (group element : Node) (index : Nat) (name : String)
    (p : Property) : Prop where
  name_eq : p.name = name
  inferred_eq : p.inferred = s.typeOf (elementValue element)
  declared_eq_none : (∀ type, ¬ DocTyped group element index name type) → p.declared = none
  declared_eq_some : ∀ type, DocTyped group element index name type →
    ∃ declared, p.declared = some declared ∧ p.effective = declared ∧
      ∀ n, n ∈ declared.names ↔
        n ∈ type.names ∨ n = "null" ∧ ∀ m, m ∈ p.inferred.names ↔ m = "null"
  modifiers_eq : p.modifiers = .ofWord group.flags
  location_eq : p.location = s.locate element.range

/-- What comes of an element of a group. -/
inductive Scope.Outcome (s : Scope) (options : Options) (group : Node) :
    Node × Nat → Option Property × Report → Prop
  | nameless {element : Node} {index : Nat} (hname : element.childName? 0 = none) :
      Outcome s options group (element, index)
        (none, [{ category := .fatal, message := "malformed PropElem node: missing property name",
                  file := s.file, line := elementLine element group }])
  | reported {element : Node} {index : Nat} {name : String} {p : Property} {type : UnionType}
      (hname : element.childName? 0 = some name) (hp : s.Describes group element index name p)
      (htype : DocTyped group element index name type)
      (hcontradicts : Contradicts options type p.inferred) :
      Outcome s options group (element, index)
        (some p, [{ category := .type,
                    message := "property $" ++ name ++ " is declared to be " ++ type.text
                      ++ " but was assigned " ++ p.inferred.text,
                    file := s.file, line := elementLine element group }])
  | quiet {element : Node} {index : Nat} {name : String} {p : Property}
      (hname : element.childName? 0 = some name) (hp : s.Describes group element index name p)
      (hagrees : ∀ type, DocTyped group element index name type →
        ¬ Contradicts options type p.inferred) :
      Outcome s options group (element, index) (some p, [])

/-! ### What comes of a group -/

/-- The declaration of a group of properties in a class that is registered. Of two properties of one
name the later one counts, and it takes the place of one that the class has already. -/
structure Scope.DeclaresGroup (s : Scope) (options : Options) (group : Node) (owner : Fqsen)
    (f f' : Findings) : Prop where
  outcomes : ∃ (outcomes : List (Option Property × Report)) (c c' : ClassLike),
    List.Forall₂ (s.Outcome options group) group.propertyElements outcomes ∧
      f'.report = f.report ++ outcomes.flatMap Prod.snd ∧
      f.registry.class? owner = some c ∧ f'.registry.class? owner = some c' ∧
      c' = { c with
        properties := (outcomes.filterMap Prod.fst).foldl
          (fun entries p => replaceOrAppend Property.name p entries) c.properties } ∧
      ∀ name, c'.property? name =
        (lastOf Property.name (outcomes.filterMap Prod.fst) name).or (c.property? name)
  other_classes : ∀ k, k ≠ owner → f'.registry.class? k = f.registry.class? k
  functions : ∀ k, f'.registry.function? k = f.registry.function? k
  tally_eq : f'.registry.tally = f.registry.tally
  registered_eq : f'.registered = f.registered

section

variable {s : Scope} {options : Options} {group element : Node} {index : Nat} {name : String}

/-! ### The outcome of an element -/

lemma docTyped_iff {type : UnionType} :
    DocTyped group element index name type ↔
      elementDocType? group element index name = some type :=
  docTypeOf?_eq_some_iff.symm

lemma describes_propertyFrom :
    s.Describes group element index name (s.propertyFrom group element index name) := by
  refine ⟨rfl, rfl, fun hnone => ?_, fun type htype => ?_, rfl, rfl⟩
  · have htype : elementDocType? group element index name = none :=
      Option.eq_none_iff_forall_ne_some.mpr fun type htype => hnone type (docTyped_iff.mpr htype)
    simp only [Scope.propertyFrom, htype]
    rfl
  · obtain ⟨declared, hdeclared, hnames⟩ :=
      declaredTypeOf?_some type (s.typeOf (elementValue element))
    have hp : (s.propertyFrom group element index name).declared = some declared := by
      simp only [Scope.propertyFrom, docTyped_iff.mp htype, hdeclared]
    exact ⟨declared, hp, by rw [Property.effective, hp, Option.getD_some], hnames⟩

/-- What comes of an element of a group. -/
def Scope.outcomeOf (s : Scope) (options : Options) (group : Node) (entry : Node × Nat) :
    Option Property × Report :=
  ((entry.1.childName? 0).map (s.propertyFrom group entry.1 entry.2),
    (s.propertyProblems options group entry).map Problem.diagnostic)

lemma Scope.outcome_outcomeOf (entry : Node × Nat) :
    s.Outcome options group entry (s.outcomeOf options group entry) := by
  obtain ⟨element, index⟩ := entry
  rw [outcomeOf, propertyProblems]
  cases hname : element.childName? 0 with
  | none => exact .nameless hname
  | some name =>
      have hp : s.Describes group element index name (s.propertyFrom group element index name) :=
        describes_propertyFrom
      dsimp only
      cases hissue : typeMismatch? options name (elementDocType? group element index name)
        (s.typeOf (elementValue element)) with
      | none =>
          refine .quiet hname hp fun type htype hcontradicts => ?_
          have hsome : typeMismatch? options name (elementDocType? group element index name)
              (s.typeOf (elementValue element)) = some _ :=
            typeMismatch?_eq_some_iff.mpr ⟨type, docTyped_iff.mp htype, hcontradicts, rfl⟩
          rw [hissue] at hsome
          cases hsome
      | some issue =>
          obtain ⟨type, htype, hcontradicts, rfl⟩ := typeMismatch?_eq_some_iff.mp hissue
          exact .reported hname hp (docTyped_iff.mpr htype) hcontradicts

/-! ### The outcome of a group -/

lemma foldl_apply_addProperty (ps : List Property) (c : ClassLike) :
    (ps.map ClassEdit.addProperty).foldl (fun c e => e.apply c) c =
      { c with
        properties := ps.foldl (fun entries p => replaceOrAppend Property.name p entries)
          c.properties } := by
  induction ps generalizing c with
  | nil => rfl
  | cons p ps ih => exact ih (c.addProperty p)

/-- In a class that is registered a group of properties is declared element by element. -/
theorem Scope.declaresGroup {f : Findings} {owner : Fqsen} (hclass : s.class? = some owner)
    (howner : f.registry.hasClass owner = true) :
    s.DeclaresGroup options group owner f (declareProperties options group s f) := by
  have hdeclare : declareProperties options group s f =
      declareElements options group s owner group.propertyElements f := by
    rw [declareProperties, hclass]
    rfl
  obtain ⟨hproblems, hregistered⟩ :=
    declareElements_reports options group s group.propertyElements howner
  have hregistry : (declareElements options group s owner group.propertyElements f).registry = _ :=
    (declareElements_spec group s options howner).1
  obtain ⟨c, hc⟩ := Registry.hasClass_iff.mp howner
  have hedits : propertyEdits group s group.propertyElements =
      ((group.propertyElements.map (s.outcomeOf options group)).filterMap Prod.fst).map
        .addProperty := by
    rw [Moment.propertyEdits_eq, List.filterMap_map]
    rfl
  rw [performAll_editClass, hedits] at hregistry
  simp only [foldl_apply_addProperty] at hregistry
  rw [hdeclare]
  refine ⟨⟨group.propertyElements.map (s.outcomeOf options group), c, _, ?_, ?_, hc, ?_, rfl, ?_⟩,
    ?_, ?_, ?_, hregistered⟩
  · rw [List.forall₂_map_right_iff, List.forall₂_same]
    exact fun entry _ => s.outcome_outcomeOf entry
  · rw [Findings.report, hproblems, List.map_append, List.map_flatMap, List.flatMap_map]
    rfl
  · rw [hregistry, Registry.class?_modifyClass, if_pos rfl, hc]
    rfl
  · intro name
    exact find?_foldl_replaceOrAppend Property.name _ c.properties name
  · intro k hk
    rw [hregistry, Registry.class?_modifyClass, if_neg (Ne.symm hk)]
  · intro k
    rw [hregistry]
    rfl
  · rw [hregistry]
    rfl

end

/-- Groups of properties, however they are visited in a class. -/
structure PropertiesDeclared (options : Options) (files : SourceFiles) : Prop where
  /-- In any scope of a registered class, whatever has been found before. -/
  declares : ∀ (group : Node) (s : Scope) (f : Findings) (owner : Fqsen),
    group.kind = .propertyGroup → s.class? = some owner → f.registry.hasClass owner = true →
      ∃ f', visit options files group s f = (.skip s, f') ∧
        s.DeclaresGroup options group owner f f'
  /-- At any place in a class of a unit, whatever is registered before. -/
  visited : ∀ (u : SourceUnit) (r : Registry), ∀ m ∈ u.moments options files r,
    m.node.kind = .propertyGroup → ∀ owner, m.scope.class? = some owner →
      m.scope.DeclaresGroup options m.node owner m.state (m.next (visit options files))

/-- **All groups of properties are declared element by element** that are visited in a class. -/
theorem propertiesDeclared (options : Options) (files : SourceFiles) :
    PropertiesDeclared options files := by
  have hvisit : ∀ (group : Node) (s : Scope) (f : Findings), group.kind = .propertyGroup →
      visit options files group s f = (.skip s, declareProperties options group s f) := by
    intro group s f hkind
    rw [visit, hkind]
  refine ⟨?_, ?_⟩
  · intro group s f owner hkind hclass howner
    exact ⟨_, hvisit group s f hkind, Scope.declaresGroup hclass howner⟩
  · intro u r m hm hkind owner hclass
    have hgrounded := u.grounded_of_mem_moments options files r m hm
    rw [Moment.next, hvisit _ _ _ hkind]
    exact Scope.declaresGroup hclass (hgrounded.class_registered owner hclass)

end PhpIndex

import PhpIndex.Proofs.Registry.Records
import PhpIndex.Proofs.SourceUnit.Ancestry

/-!
Classes and the nodes inside them.

* `Moment.method?`, `properties`, `constants`, `traits`: what a node declares for the class around
  it;
* `Moment.edits`, `Moment.filterMap_edit?_operations`: the changes at a node, all of which are for
  the class around it;
* `SourceUnit.inside`: the nodes of a unit that have some class as the nearest around them;
* `Course.hasClass_of_before`, `Course.hasFunction_of_before`: what is registered stays so, and
  therefore no node before a class is inside it, and no other class has its identity;
* `ClassLike.Describes`, `ClassLike.Gathers`: a record that is as a class node says, and one whose
  members are those that some nodes declare;
* `SourceUnit.gathers_index`: what is recorded of a class in the end is what the nodes inside it
  declare;
* `SourceUnit.membered`: **every member lands on exactly the class around it**: in the end the
  record of a class is as its node says and has the members that the nodes inside it declare.
-/

namespace PhpIndex

/-! ### What a node declares for a class -/

namespace Moment

variable (options : Options) (m : Moment Findings)

/-- The identity of the method that a node declares. -/
def method? : Option Fqsen :=
  if m.node.kind = .methodDecl then m.functionIdentity? options else none

/-- The properties that a group declares, which are those of its elements that have a name. -/
def properties : List Property :=
  if m.node.kind = .propertyGroup then
    (m.node.childNodes.filter (·.kind = .propertyElem)).zipIdx.filterMap fun (element, index) =>
      (element.childName? 0).map (m.scope.propertyFrom m.node element index)
  else []

/-- The constants that a group declares. -/
def constants : List ClassConstant :=
  if m.node.kind = .constantGroup then
    m.node.childNodes.filterMap fun element =>
      (constantName? element).map (m.scope.constantFrom m.node element)
  else []

/-- The traits that a node uses, which are those of its names that refer to a class. -/
def traits : List Fqsen :=
  if m.node.kind = .traitUse then
    ((m.node.childOfKind? 0 .nameList).map
      (·.childNodes.filterMap m.scope.resolveClass?)).getD []
  else []

/-- What a node tells about the constructor and the calls of the class around it. -/
def notes : List ClassEdit :=
  match m.node.kind with
  | .methodDecl =>
      ((m.scope.newMethod? options m.state.registry m.node).map (methodEdits ·.name)).getD []
  | .staticCall => if m.node.callsParentConstructor then [.noteParentCall] else []
  | _ => []

/-- The changes of the class around a node. A node makes those of one kind only. -/
def edits : List ClassEdit :=
  m.notes options ++ m.traits.map .addTrait ++ m.properties.map .addProperty ++
    m.constants.map .addConstant

end Moment

/-! ### What a node does to a class -/

/-- Changes of the class around a place are for no other class. -/
lemma Scope.filterMap_edit?_edit (s : Scope) (k : Fqsen) (edits : List ClassEdit) :
    (s.edit edits).filterMap (Operation.edit? k) = if s.class? = some k then edits else [] := by
  cases hclass : s.class? with
  | none => rw [edit_eq_nil hclass, if_neg nofun, List.filterMap_nil]
  | some owner =>
      rw [edit_eq hclass, List.filterMap_map]
      by_cases howner : owner = k
      · simp [howner, Operation.edit?]
      · simp [howner, Operation.edit?]

/-- Changes are no methods. -/
lemma Scope.filterMap_method?_edit (s : Scope) (k : Fqsen) (edits : List ClassEdit) :
    (s.edit edits).filterMap (Operation.method? k) = [] := by
  rw [edit]
  split
  · rfl
  · simp [List.filterMap_map, Function.comp_def, Operation.method?]

namespace Moment

variable {options : Options} {m : Moment Findings}

section

variable (options m)

lemma edits_of_methodDecl (h : m.node.kind = .methodDecl) : m.edits options = m.notes options := by
  simp [edits, traits, properties, constants, h]

lemma edits_of_staticCall (h : m.node.kind = .staticCall) : m.edits options = m.notes options := by
  simp [edits, traits, properties, constants, h]

lemma edits_of_traitUse (h : m.node.kind = .traitUse) :
    m.edits options = m.traits.map .addTrait := by
  simp [edits, notes, properties, constants, h]

lemma edits_of_propertyGroup (h : m.node.kind = .propertyGroup) :
    m.edits options = m.properties.map .addProperty := by
  simp [edits, notes, traits, constants, h]

lemma edits_of_constantGroup (h : m.node.kind = .constantGroup) :
    m.edits options = m.constants.map .addConstant := by
  simp [edits, notes, traits, properties, h]

end

/-- A node that is no method, member or call changes no class. -/
lemma edits_eq_nil
    (h : m.node.kind ∉ [.methodDecl, .staticCall, .traitUse, .propertyGroup, .constantGroup]) :
    m.edits options = [] := by
  simp only [List.mem_cons, List.not_mem_nil, or_false, not_or] at h
  obtain ⟨hmethod, hcall, htrait, hproperty, hconstant⟩ := h
  have hnotes : m.notes options = [] := by
    rw [notes]
    split
    · contradiction
    · contradiction
    · rfl
  rw [edits, hnotes, traits, if_neg htrait, properties, if_neg hproperty, constants,
    if_neg hconstant]
  rfl

lemma propertyEdits_eq (group : Node) (s : Scope) (elements : List (Node × Nat)) :
    propertyEdits group s elements =
      (elements.filterMap fun (element, index) =>
        (element.childName? 0).map (s.propertyFrom group element index)).map .addProperty := by
  rw [propertyEdits, List.map_filterMap]
  refine List.filterMap_congr fun entry _ => ?_
  exact Option.map_map .. |>.symm

lemma constantEdits_eq (group : Node) (s : Scope) (elements : List Node) :
    constantEdits group s elements =
      (elements.filterMap fun element =>
        (constantName? element).map (s.constantFrom group element)).map .addConstant := by
  rw [constantEdits, List.map_filterMap]
  refine List.filterMap_congr fun entry _ => ?_
  exact Option.map_map .. |>.symm

/-- A node changes the class around it and no other. -/
lemma filterMap_edit?_operations (k : Fqsen) :
    (m.operations options).filterMap (Operation.edit? k) =
      if m.scope.class? = some k then m.edits options else [] := by
  have hedit := m.scope.filterMap_edit?_edit k
  rw [operations, Scope.operations]
  split
  all_goals rename_i hkind
  case h_2 =>
    rw [m.edits_of_methodDecl options hkind, notes]
    simp only [hkind]
    cases m.scope.newMethod? options m.state.registry m.node with
    | none => exact (ite_self _).symm
    | some f =>
        dsimp only
        rw [List.filterMap_append, hedit]
        rfl
  case h_4 =>
    rw [m.edits_of_traitUse options hkind, traits, if_pos hkind]
    cases hclass : m.scope.class? with
    | none => rfl
    | some owner =>
        cases m.node.childOfKind? 0 .nameList with
        | none => exact (ite_self _).symm
        | some names =>
            dsimp only
            rw [List.filterMap_append, hedit, hclass]
            exact List.append_nil _
  case h_5 =>
    rw [m.edits_of_propertyGroup options hkind, properties, if_pos hkind, hedit, propertyEdits_eq]
  case h_6 =>
    rw [m.edits_of_constantGroup options hkind, constants, if_pos hkind, hedit, constantEdits_eq]
  case h_10 =>
    rw [m.edits_of_staticCall options hkind, notes]
    simp only [hkind]
    split
    · exact hedit _
    · exact (ite_self _).symm
  -- nodes of all other kinds change no class
  all_goals
    have hother : m.node.kind ∉
        [.methodDecl, .staticCall, .traitUse, .propertyGroup, .constantGroup] := by
      intro h
      simp only [List.mem_cons, List.not_mem_nil, or_false] at h
      rcases h with h | h | h | h | h <;> first | contradiction | (rw [hkind] at h; cases h)
    rw [edits_eq_nil hother, ite_self]
    try split
    all_goals simp [Operation.edit?, Function.comp_def]

variable (options) in
/-- So a method is one of the class around its node. -/
lemma filterMap_method?_operations (hs : m.scope.Grounded m.state.registry) (k : Fqsen) :
    (m.operations options).filterMap (Operation.method? k) =
      if m.scope.class? = some k then (m.method? options).toList else [] := by
  have hedit := m.scope.filterMap_method?_edit k
  rw [operations, method?, functionIdentity?, newFunction?]
  by_cases hkind : m.node.kind = .methodDecl
  · simp only [hkind, Scope.operations, if_true]
    cases hnew : m.scope.newMethod? options m.state.registry m.node with
    | none => simp
    | some f =>
        obtain ⟨-, owner, hclass, howner⟩ := Scope.newMethod?_spec hs hnew
        rw [List.filterMap_append, hedit, List.append_nil, hclass]
        by_cases hk : owner = k <;> simp [Operation.method?, howner, hk]
  · rw [if_neg hkind, Option.toList_none, ite_self, Scope.operations]
    split
    case h_2 => contradiction
    case h_3 =>
      split
      · rfl
      · rename_i f hnew
        simp [Operation.method?, (Scope.newFunction?_spec hnew).2]
    all_goals
      try split
      all_goals simp [hedit, Operation.method?, Function.comp_def]

variable (options m)

/-- What a node tells about the constructor and the calls of a class is no member. -/
lemma filterMap_notes {α : Type} (item? : ClassEdit → Option α)
    (h : ∀ e ∈ [ClassEdit.requireParentCall, .noteParentCall, .markCallable], item? e = none) :
    (m.notes options).filterMap item? = [] := by
  simp only [List.forall_mem_cons] at h
  obtain ⟨hrequire, hnote, hmark, -⟩ := h
  rw [notes]
  split
  · cases m.scope.newMethod? options m.state.registry m.node with
    | none => rfl
    | some f =>
        simp only [Option.map_some, Option.getD_some, methodEdits]
        split
        · simp [hrequire]
        · split <;> simp [hmark]
  · split <;> simp [hnote]
  · rfl

lemma filterMap_trait?_edits : (m.edits options).filterMap ClassEdit.trait? = m.traits := by
  have hnotes := m.filterMap_notes options ClassEdit.trait? (by simp [ClassEdit.trait?])
  simp [edits, hnotes, List.filterMap_map, Function.comp_def, ClassEdit.trait?]

lemma filterMap_property?_edits :
    (m.edits options).filterMap ClassEdit.property? = m.properties := by
  have hnotes := m.filterMap_notes options ClassEdit.property? (by simp [ClassEdit.property?])
  simp [edits, hnotes, List.filterMap_map, Function.comp_def, ClassEdit.property?]

lemma filterMap_constant?_edits :
    (m.edits options).filterMap ClassEdit.constant? = m.constants := by
  have hnotes := m.filterMap_notes options ClassEdit.constant? (by simp [ClassEdit.constant?])
  simp [edits, hnotes, List.filterMap_map, Function.comp_def, ClassEdit.constant?]

end Moment

/-! ### What is registered before a node -/

/-- If an entry of some kind rules out that there is one of the kind before it, there is only
one. -/
lemma eq_of_noneBefore {α : Type} {p : α → Prop} {l : List α}
    (h : ∀ before a after, l = before ++ a :: after → p a → ∀ b ∈ before, ¬ p b) {a b : α}
    (ha : a ∈ l) (hb : b ∈ l) (hpa : p a) (hpb : p b) : b = a := by
  obtain ⟨before, after, rfl⟩ := List.append_of_mem ha
  rcases List.mem_append.mp hb with hbefore | hafter
  · exact absurd hpb (h before a after rfl hpa b hbefore)
  · rcases List.mem_cons.mp hafter with rfl | hafter
    · rfl
    · obtain ⟨xs, ys, rfl⟩ := List.append_of_mem hafter
      exact absurd hpa (h (before ++ a :: xs) b ys (by simp) hpb a (by simp))

section

variable {options : Options} {files : SourceFiles}
variable {before after : List (Moment Findings)} {m : Moment Findings} {r r' : Registry}

/-- From one moment of a course to a later one there are only operations, those of the first
included. -/
lemma Course.performAll_of_before
    (h : Course (visit options files) Findings.registry r (before ++ m :: after) r')
    (hs : ∀ m' ∈ before ++ m :: after, m'.scope.Grounded m'.state.registry)
    {m' : Moment Findings} (hm' : m' ∈ before) :
    ∃ ms, AllSucceed ((m' :: ms).flatMap (·.operations options)) m'.state.registry ∧
      performAll ((m' :: ms).flatMap (·.operations options)) m'.state.registry =
        m.state.registry := by
  obtain ⟨xs, ys, rfl⟩ := List.append_of_mem hm'
  obtain ⟨v, hbefore, hv, -⟩ := h.exists_between
  obtain ⟨w, -, hw, hrest⟩ := hbefore.exists_between
  have hgrounded : ∀ n ∈ m' :: ys, n.scope.Grounded n.state.registry := fun n hn =>
    hs n (List.mem_append_left _ (List.mem_append_right _ hn))
  have hcourse : Course (visit options files) Findings.registry w (m' :: ys) v := ⟨hw, hrest⟩
  rw [hw, hv]
  exact ⟨ys, hcourse.performAll_operations hgrounded⟩

/-- In a course what is registered stays registered, and what is declared is so from then on. -/
lemma Course.hasClass_of_before
    (h : Course (visit options files) Findings.registry r (before ++ m :: after) r')
    (hs : ∀ m' ∈ before ++ m :: after, m'.scope.Grounded m'.state.registry)
    {m' : Moment Findings} (hm' : m' ∈ before) {k : Fqsen}
    (hk : m'.state.registry.hasClass k = true ∨ m'.classIdentity? options = some k) :
    m.state.registry.hasClass k = true := by
  obtain ⟨ms, hsucceed, hperform⟩ := h.performAll_of_before hs hm'
  rw [← hperform, hasClass_performAll hsucceed, map_fqsen_newClasses]
  refine hk.imp_right fun hidentity => ?_
  obtain ⟨c, hc, hkey⟩ := Option.map_eq_some_iff.mp hidentity
  exact mem_declaredClasses.mpr ⟨m', List.mem_cons_self, c, hc, hkey⟩

/-- The same for functions and methods. -/
lemma Course.hasFunction_of_before
    (h : Course (visit options files) Findings.registry r (before ++ m :: after) r')
    (hs : ∀ m' ∈ before ++ m :: after, m'.scope.Grounded m'.state.registry)
    {m' : Moment Findings} (hm' : m' ∈ before) {k : Fqsen}
    (hk : m'.state.registry.hasFunction k = true ∨ m'.functionIdentity? options = some k) :
    m.state.registry.hasFunction k = true := by
  obtain ⟨ms, hsucceed, hperform⟩ := h.performAll_of_before hs hm'
  rw [← hperform, hasFunction_performAll hsucceed, map_fqsen_newFunctions]
  refine hk.imp_right fun hidentity => ?_
  obtain ⟨f, hf, hkey⟩ := Option.map_eq_some_iff.mp hidentity
  exact mem_declaredFunctions.mpr ⟨m', List.mem_cons_self, f, hf, hkey⟩

end

/-! ### The record of a class -/

namespace ClassLike

/-- A record of a class that is as its node says. -/
structure Describes (d : ClassLike) (m : Moment Findings) : Prop where
  name_eq : declaredClassName? m.node = some d.name
  location_eq : d.location = m.scope.locate m.node.range
  flags_eq : d.flags = .ofWord m.node.flags
  doc_eq : d.doc = .ofText? m.node.doc
  parent_eq : d.parent? = (m.node.childNode? 1).bind m.scope.resolveClass?
  interfaces_eq : d.interfaces =
    ((m.node.childNode? 2).map (·.childNodes.filterMap m.scope.resolveClass?)).getD []

/-- A record of a class whose members are those that some nodes declare. Of the properties and
constants of one name the last is there, in the place of the first, and each trait is there
once. -/
structure Gathers (options : Options) (d : ClassLike) (ms : List (Moment Findings)) : Prop where
  methods_eq : d.methods = ms.filterMap (·.method? options)
  properties_eq : d.properties = lastOfEach Property.name (ms.flatMap Moment.properties)
  constants_eq : d.constants = lastOfEach ClassConstant.name (ms.flatMap Moment.constants)
  traits_eq : d.traits = (ms.flatMap Moment.traits).eraseDups

end ClassLike

section

variable {options : Options} {files : SourceFiles}

namespace Moment

variable {m : Moment Findings} {c : ClassLike}

/-- A class is as its node says when it is registered, and then whatever becomes of it beside its
outline. -/
lemma describes_of_outline_eq (h : m.newClass? options = some c) {d : ClassLike}
    (houtline : d.outline = c.outline) : d.Describes m := by
  rw [newClass?] at h
  split at h
  · obtain ⟨name, hname, rfl⟩ := Option.map_eq_some_iff.mp h
    refine ⟨?_, congrArg ClassLike.location houtline, congrArg ClassLike.flags houtline,
      congrArg ClassLike.doc houtline, congrArg ClassLike.parent? houtline,
      congrArg ClassLike.interfaces houtline⟩
    rw [hname]
    exact congrArg some (congrArg ClassLike.name houtline).symm
  · cases h

/-- It has no members. -/
lemma gathers_newClass? (h : m.newClass? options = some c) : c.Gathers options [] := by
  rw [newClass?] at h
  split at h
  · obtain ⟨name, -, rfl⟩ := Option.map_eq_some_iff.mp h
    exact ⟨rfl, rfl, rfl, rfl⟩
  · cases h

end Moment

/-- What is asked of the nodes inside a class alone is asked of none outside it. -/
lemma flatMap_ite_eq_flatMap_filter {α β : Type} (p : α → Prop) [DecidablePred p] (g : α → List β)
    (l : List α) : (l.flatMap fun a => if p a then g a else []) = (l.filter p).flatMap g := by
  induction l with
  | nil => rfl
  | cons a l ih =>
      rw [List.flatMap_cons, ih, List.filter_cons]
      by_cases ha : p a <;> simp [ha]

variable (options) in
/-- The changes of a class are those at the nodes inside it. -/
lemma filterMap_edit?_flatMap_operations (ms : List (Moment Findings)) (k : Fqsen) :
    (ms.flatMap (·.operations options)).filterMap (Operation.edit? k) =
      (ms.filter (·.scope.class? = some k)).flatMap (·.edits options) := by
  rw [List.filterMap_flatMap, ← flatMap_ite_eq_flatMap_filter]
  exact List.flatMap_congr fun m _ => m.filterMap_edit?_operations k

/-- After it is registered a class gathers what the nodes inside it declare. -/
lemma gathers_foldl_on {c : ClassLike} (hc : c.Gathers options []) (k : Fqsen)
    {ms : List (Moment Findings)} (hs : ∀ m ∈ ms, m.scope.Grounded m.state.registry) :
    ((ms.flatMap (·.operations options)).foldl (fun c op => op.on k c) c).Gathers options
      (ms.filter (·.scope.class? = some k)) := by
  have hedits := filterMap_edit?_flatMap_operations options ms k
  refine ⟨?_, ?_, ?_, ?_⟩
  · have hmethods := List.flatMap_congr fun m hm =>
      Moment.filterMap_method?_operations options (hs m hm) k
    rw [methods_foldl_on, hc.methods_eq, List.filterMap_nil, List.nil_append,
      List.filterMap_flatMap, hmethods, flatMap_ite_eq_flatMap_filter,
      ← List.filterMap_eq_flatMap_toList]
  · rw [properties_foldl_on k _ hc.properties_eq, hedits, List.filterMap_flatMap]
    simp only [Moment.filterMap_property?_edits]
  · rw [constants_foldl_on k _ hc.constants_eq, hedits, List.filterMap_flatMap]
    simp only [Moment.filterMap_constant?_edits]
  · rw [traits_foldl_on k _ hc.traits_eq, hedits, List.filterMap_flatMap]
    simp only [Moment.filterMap_trait?_edits]

end

/-! ### Units -/

section

variable (options : Options) (files : SourceFiles)

/-- The identity of the nearest class around a node. -/
def Lineage.class? (ℓ : Lineage Findings) : Option Fqsen :=
  (nearest? ℓ.around [.classDecl]).bind (·.classIdentity? options)

namespace SourceUnit

variable (u : SourceUnit) (r : Registry)

/-- The nodes of a unit that have the class of an identity as the nearest around them. -/
def inside (k : Fqsen) : List (Moment Findings) :=
  ((u.lineages options files r).filter (·.class? options = some k)).map Lineage.toMoment

/-- They are those in whose scope the class is. -/
lemma inside_eq (k : Fqsen) :
    u.inside options files r k =
      (u.moments options files r).filter (·.scope.class? = some k) := by
  have hscoped := u.scopedBy_of_mem_lineages options files r
  rw [inside, ← u.moments_lineages options files r, List.filter_map]
  congr 1
  refine List.filter_congr fun ℓ hℓ => ?_
  rw [Function.comp_apply, (hscoped ℓ hℓ).class_eq]
  rfl

variable {options files r} {m : Moment Findings} {c : ClassLike}

/-- Before a class is registered no node is inside it. -/
lemma class?_ne_of_before {before after : List (Moment Findings)}
    (h : u.moments options files r = before ++ m :: after) (hc : m.newClass? options = some c) :
    (∀ m' ∈ before, m'.scope.class? ≠ some c.fqsen) ∧ m.scope.class? ≠ some c.fqsen := by
  have hgrounded := u.grounded_of_mem_moments options files r
  have hcourse := u.course_moments options files r
  have hfree := (Moment.isLeastFree_newClass? hc).free
  rw [h] at hgrounded hcourse
  constructor
  · intro m' hm' hclass
    have hregistered := (hgrounded m' (List.mem_append_left _ hm')).class_registered _ hclass
    rw [hcourse.hasClass_of_before hgrounded hm' (.inl hregistered)] at hfree
    cases hfree
  · intro hclass
    have hm : m ∈ before ++ m :: after := List.mem_append_right _ List.mem_cons_self
    rw [(hgrounded m hm).class_registered _ hclass] at hfree
    cases hfree

/-- No two classes of a unit have one identity. -/
lemma eq_of_classIdentity? {m' : Moment Findings} (hm : m ∈ u.moments options files r)
    (hm' : m' ∈ u.moments options files r) (hc : m.newClass? options = some c)
    (hc' : m'.classIdentity? options = some c.fqsen) : m' = m := by
  have hgrounded := u.grounded_of_mem_moments options files r
  have hcourse := u.course_moments options files r
  refine eq_of_noneBefore (p := fun n => n.classIdentity? options = some c.fqsen) ?_ hm hm'
    (by rw [Moment.classIdentity?, hc, Option.map_some]) hc'
  intro before n after h hn b hb hidentity
  rw [h] at hgrounded hcourse
  obtain ⟨d, hd, hkey⟩ := Option.map_eq_some_iff.mp hn
  have hfree := (Moment.isLeastFree_newClass? hd).free
  rw [hkey, hcourse.hasClass_of_before hgrounded hb (.inr hidentity)] at hfree
  cases hfree

/-- So those inside it come after it. -/
lemma inside_eq_of_before {before after : List (Moment Findings)}
    (h : u.moments options files r = before ++ m :: after) (hc : m.newClass? options = some c) :
    u.inside options files r c.fqsen = after.filter (·.scope.class? = some c.fqsen) := by
  obtain ⟨hbefore, hself⟩ := u.class?_ne_of_before h hc
  have hnone : before.filter (·.scope.class? = some c.fqsen) = [] :=
    List.filter_eq_nil_iff.mpr fun m' hm' => by simpa using hbefore m' hm'
  rw [inside_eq, h, List.filter_append, hnone, List.nil_append,
    List.filter_cons_of_neg (by simpa using hself)]

/-- A node is inside a class if this is the nearest class around it. -/
lemma class?_eq_iff_nearest? (hm : m ∈ u.moments options files r)
    (hc : m.newClass? options = some c) {ℓ : Lineage Findings}
    (hℓ : ℓ ∈ u.lineages options files r) :
    ℓ.class? options = some c.fqsen ↔ nearest? ℓ.around [.classDecl] = some m := by
  constructor
  · intro hclass
    obtain ⟨m', hnearest, hm'⟩ := Option.bind_eq_some_iff.mp hclass
    have hmem := u.around_mem_moments options files r hℓ (List.mem_of_find?_eq_some hnearest)
    rw [hnearest, u.eq_of_classIdentity? hm hmem hc hm']
  · intro hnearest
    rw [Lineage.class?, hnearest, Option.bind_some, Moment.classIdentity?, hc]
    rfl

/-- In the end a class is what the operations after it have made of it. -/
lemma class?_index_eq {before after : List (Moment Findings)}
    (h : u.moments options files r = before ++ m :: after) (hc : m.newClass? options = some c) :
    (u.index options files r).2.class? c.fqsen =
      some ((after.flatMap (·.operations options)).foldl (fun d op => op.on c.fqsen d) c) := by
  have hgrounded := u.grounded_of_mem_moments options files r
  have hcourse := u.course_moments options files r
  rw [h] at hgrounded hcourse
  obtain ⟨v, -, -, hrest⟩ := hcourse.exists_between
  obtain ⟨hself, hafter⟩ := List.forall_mem_cons.mp (List.forall_mem_append.mp hgrounded).2
  obtain ⟨hsucceed, hperform⟩ := hrest.performAll_operations hafter
  rw [← hperform]
  exact class?_performAll_of_some hsucceed (Moment.class?_next files hself hc)

/-- What is recorded of a class is what the nodes inside it declare. -/
lemma gathers_index (hm : m ∈ u.moments options files r) (hc : m.newClass? options = some c)
    {d : ClassLike} (hd : (u.index options files r).2.class? c.fqsen = some d) :
    d.Gathers options (u.inside options files r c.fqsen) := by
  obtain ⟨before, after, h⟩ := List.append_of_mem hm
  have hafter : ∀ n ∈ after, n.scope.Grounded n.state.registry := fun n hn =>
    u.grounded_of_mem_moments options files r n
      (h ▸ List.mem_append_right _ (List.mem_cons_of_mem _ hn))
  rw [u.class?_index_eq h hc, Option.some_inj] at hd
  rw [u.inside_eq_of_before h hc, ← hd]
  exact gathers_foldl_on (Moment.gathers_newClass? hc) c.fqsen hafter

variable (options files r)

/-- The classes of a unit with their members. -/
structure Membered : Prop where
  /-- A node is inside a class if this is the nearest class around it. -/
  nearest_iff : ∀ m ∈ u.moments options files r, ∀ c, m.newClass? options = some c →
    ∀ ℓ ∈ u.lineages options files r,
      ℓ.class? options = some c.fqsen ↔ nearest? ℓ.around [.classDecl] = some m
  /-- In the end the class is as its node says, and its members are those that are declared inside
  it. -/
  recorded : ∀ m ∈ u.moments options files r, ∀ c, m.newClass? options = some c →
    ∃ d, (u.index options files r).2.class? c.fqsen = some d ∧
      d.Describes m ∧ d.Gathers options (u.inside options files r c.fqsen)

/-- **Every member lands on exactly the class around it**: in the end a class has the methods, the
properties, the constants and the traits that are declared inside it, in the order of the visits,
and nothing of a class that is nested in it or of what is outside. Apart from them it is as its node
says. -/
theorem membered : u.Membered options files r := by
  refine ⟨?_, ?_⟩
  · intro m hm c hc ℓ hℓ
    exact u.class?_eq_iff_nearest? hm hc hℓ
  · intro m hm c hc
    obtain ⟨-, d, hd, houtline⟩ := u.class?_index hm hc
    exact ⟨d, hd, Moment.describes_of_outline_eq hc houtline, u.gathers_index hm hc hd⟩

end SourceUnit

end

end PhpIndex

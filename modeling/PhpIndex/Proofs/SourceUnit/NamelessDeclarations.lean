import PhpIndex.Proofs.SourceUnit.Members
import PhpIndex.Proofs.SourceUnit.Switches
import PhpIndex.Tree.Build

/-!
Declarations without names.

* `Node.Unnamed`: a node that does not hold a name where it should;
  `Node.IsAnonymous`: a class that need not hold one;
* `Refuses`: a visit that does nothing but report one fatal problem;
  `refuses_of_nameless`: so are declarations visited that lack their names;
* `fatalCount_properties`, `fatalCount_constants`: the fatal problems of the elements of groups;
* `Moment.exists_property_iff`, `exists_constant_iff`: the names of what a group declares;
* `SourceUnit.Named`, `SourceUnit.named`: **no class, method, function or property of a unit lacks
  a name**, and what does not hold one is reported. A constant may have an empty name:
  `SourceUnit.emptyConstant_registered`.
-/

namespace PhpIndex

/-! ### Nodes without names -/

namespace Node

variable {n : Node}

/-- A node that does not hold a name where it should: the place is missing or holds something else
than a text, or the text is empty. -/
def Unnamed (n : Node) : Prop := ∀ name, n.child? 0 = some (.str name) → name = ""

lemma childName?_eq_none_iff : n.childName? 0 = none ↔ n.Unnamed := by
  rw [Option.eq_none_iff_forall_ne_some]
  refine forall_congr' fun name => ?_
  rw [ne_eq, childName?_eq_some_iff]
  tauto

instance (n : Node) : Decidable n.Unnamed := decidable_of_iff _ childName?_eq_none_iff

/-- A class that need not hold a name: it has the flag of such classes or an empty slot. -/
def IsAnonymous (n : Node) : Prop :=
  (ClassFlags.ofWord n.flags).isAnonymous = true ∨ n.child? 0 = some .empty

/-- A declaration that lacks its name. -/
inductive Nameless (n : Node) : Prop
  | inClass (hkind : n.kind = .classDecl) (h : n.Unnamed) (hnamed : ¬ n.IsAnonymous)
  | inMethod (hkind : n.kind = .methodDecl) (h : n.Unnamed)
  | inFunction (hkind : n.kind = .functionDecl) (h : n.Unnamed)

lemma isAnonymous_iff :
    ((ClassFlags.ofWord n.flags).isAnonymous || (n.child? 0).any Child.isEmpty) = true ↔
      n.IsAnonymous := by
  have hslot : (n.child? 0).any Child.isEmpty = true ↔ n.child? 0 = some .empty := by
    cases n.child? 0 with
    | none => simp
    | some c => cases c <;> simp [Child.isEmpty]
  rw [Bool.or_eq_true, hslot, IsAnonymous]

/-- A class that lacks a name has the common one if it need not hold one, and none otherwise. -/
lemma declaredClassName?_of_isAnonymous (h : n.Unnamed) (hanonymous : n.IsAnonymous) :
    declaredClassName? n = some anonymousClassName := by
  rw [declaredClassName?, childName?_eq_none_iff.mpr h, Option.none_or,
    if_pos (isAnonymous_iff.mpr hanonymous)]

lemma declaredClassName?_eq_none (h : n.Unnamed) (hnamed : ¬ n.IsAnonymous) :
    declaredClassName? n = none := by
  rw [declaredClassName?, childName?_eq_none_iff.mpr h, Option.none_or,
    if_neg (mt isAnonymous_iff.mp hnamed)]

/-- A group with an element of some kind that holds a text in the place of its name. -/
def HasElement (group : Node) (kind : Kind) (text : String) : Prop :=
  ∃ element ∈ group.childNodes, element.kind = kind ∧ element.child? 0 = some (.str text)

end Node

/-- The name of a class that is declared is not empty. -/
lemma ne_empty_of_declaredClassName? {node : Node} {name : String}
    (h : declaredClassName? node = some name) : name ≠ "" := by
  rw [declaredClassName?, Option.or_eq_some_iff] at h
  obtain hname | ⟨-, hanonymous⟩ := h
  · exact (Node.childName?_eq_some_iff.mp hname).2
  · obtain ⟨-, hcommon⟩ := Option.ite_none_right_eq_some.mp hanonymous
    obtain rfl := Option.some.inj hcommon
    decide

/-! ### What is refused -/

section

variable {options : Options} {files : SourceFiles} {node : Node} {s : Scope} {f : Findings}

/-- A visit of which nothing comes but one fatal problem: nothing is registered or changed, and what
is below the node is passed over. -/
def Refuses (options : Options) (files : SourceFiles) (node : Node) (s : Scope) (f : Findings) :
    Prop :=
  ∃ issue : Issue, issue.category = .fatal ∧
    visit options files node s f = (.skip s, f.note s node.line issue)

/-- A declaration that lacks its name is refused, whatever is around it. -/
lemma refuses_of_nameless (h : node.Nameless) : Refuses options files node s f := by
  cases h with
  | inClass hkind h hnamed =>
      refine ⟨Kind.classDecl.malformed "missing class name", rfl, ?_⟩
      rw [visit, hkind]
      simp only [declareClass, Node.declaredClassName?_eq_none h hnamed]
      rfl
  | inMethod hkind h =>
      refine ⟨Kind.methodDecl.malformed "missing method name", rfl, ?_⟩
      rw [visit, hkind]
      simp only [declareMethod, Node.childName?_eq_none_iff.mpr h]
      rfl
  | inFunction hkind h =>
      refine ⟨Kind.functionDecl.malformed "missing function name", rfl, ?_⟩
      rw [visit, hkind]
      simp only [declareFunction, Node.childName?_eq_none_iff.mpr h]
      rfl

/-- So is a group of members without a class. -/
lemma refuses_of_class?_eq_none (hkind : node.kind ∈ [.propertyGroup, .constantGroup])
    (hclass : s.class? = none) : Refuses options files node s f := by
  simp only [List.mem_cons, List.not_mem_nil, or_false] at hkind
  obtain hkind | hkind := hkind
  · refine ⟨.propertyOutsideClass, rfl, ?_⟩
    rw [visit, hkind]
    simp only [declareProperties, hclass]
  · refine ⟨.constantOutsideClass, rfl, ?_⟩
    rw [visit, hkind]
    simp only [declareConstants, hclass]

end

/-! ### The elements of groups -/

/-- How many of some problems are fatal. -/
def fatalCount (problems : List Problem) : Nat :=
  problems.countP (·.issue.category = .fatal)

/-- If of each entry comes at most one fatal problem, there are as many as entries of which one
comes. -/
lemma fatalCount_flatMap {α : Type} (p : α → Prop) [DecidablePred p] {g : α → List Problem}
    (h : ∀ a, fatalCount (g a) = if p a then 1 else 0) (l : List α) :
    fatalCount (l.flatMap g) = l.countP (p ·) := by
  induction l with
  | nil => rfl
  | cons a l ih =>
      have happend :
          fatalCount (g a ++ l.flatMap g) = fatalCount (g a) + fatalCount (l.flatMap g) :=
        List.countP_append
      rw [List.flatMap_cons, happend, h, ih, List.countP_cons, Nat.add_comm]
      simp only [decide_eq_true_eq]

namespace Scope

variable (s : Scope) (options : Options) (group : Node)

/-- One fatal problem comes of an element of a group of properties without a name, and none of
another. -/
lemma fatalCount_propertyProblems (entry : Node × Nat) :
    fatalCount (s.propertyProblems options group entry) = if entry.1.Unnamed then 1 else 0 := by
  rw [propertyProblems]
  cases hname : entry.1.childName? 0 with
  | none =>
      rw [if_pos (Node.childName?_eq_none_iff.mp hname)]
      rfl
  | some name =>
      have hnamed : ¬ entry.1.Unnamed := by
        rw [← Node.childName?_eq_none_iff, hname]
        exact Option.some_ne_none name
      rw [if_neg hnamed]
      dsimp only
      cases hissue : typeMismatch? options name (elementDocType? group entry.1 entry.2 name)
        (s.typeOf (elementValue entry.1)) with
      | none => rfl
      | some issue =>
          -- the problem of a doc comment is not fatal
          have hcategory := category_of_typeMismatch? options hissue
          simp [fatalCount, problem, hcategory]

/-- So it is in a row of such elements. -/
lemma fatalCount_properties (elements : List Node) :
    fatalCount (elements.zipIdx.flatMap (s.propertyProblems options group)) =
      elements.countP (·.Unnamed) := by
  rw [fatalCount_flatMap (fun entry => entry.1.Unnamed)
    (s.fatalCount_propertyProblems options group)]
  conv_rhs => rw [← List.zipIdx_map_fst 0 elements, List.countP_map]
  rfl

/-- One comes of a node in a group of constants that is no element of it or holds no text. -/
lemma fatalCount_constants (elements : List Node) :
    fatalCount (elements.flatMap (s.constantProblems group)) =
      elements.countP fun e => e.kind ≠ .constantElem ∨ e.childText? 0 = none := by
  refine fatalCount_flatMap (fun e => e.kind ≠ .constantElem ∨ e.childText? 0 = none) ?_ elements
  intro element
  rw [constantProblems, constantName?]
  by_cases hkind : element.kind = .constantElem
  · cases element.childText? 0 <;>
      simp [hkind, fatalCount, Issue.category, Kind.malformed, problem]
  · simp [hkind, fatalCount, Issue.category, Kind.malformed, problem]

end Scope

namespace Moment

variable {m : Moment Findings} {name : String}

/-- The names of the properties that a group declares. -/
lemma exists_property_iff :
    (∃ p ∈ m.properties, p.name = name) ↔
      name ≠ "" ∧ m.node.kind = .propertyGroup ∧ m.node.HasElement .propertyElem name := by
  rw [properties]
  by_cases hkind : m.node.kind = .propertyGroup
  · rw [if_pos hkind]
    constructor
    · rintro ⟨p, hp, rfl⟩
      obtain ⟨⟨element, index⟩, hentry, hmap⟩ := List.mem_filterMap.mp hp
      obtain ⟨name, hname, rfl⟩ := Option.map_eq_some_iff.mp hmap
      obtain ⟨htext, hne⟩ := Node.childName?_eq_some_iff.mp hname
      obtain ⟨hmem, helement⟩ := List.mem_filter.mp (List.fst_mem_of_mem_zipIdx hentry)
      exact ⟨hne, hkind, element, hmem, of_decide_eq_true helement, htext⟩
    · rintro ⟨hne, -, element, hmem, helement, htext⟩
      have hfilter : element ∈ m.node.childNodes.filter (·.kind = .propertyElem) :=
        List.mem_filter.mpr ⟨hmem, decide_eq_true helement⟩
      obtain ⟨index, hindex⟩ := List.getElem?_of_mem hfilter
      have hentry := List.mk_mem_zipIdx_iff_getElem?.mpr hindex
      have hname := Node.childName?_eq_some_iff.mpr ⟨htext, hne⟩
      exact ⟨m.scope.propertyFrom m.node element index name,
        List.mem_filterMap.mpr ⟨(element, index), hentry, by simp only [hname, Option.map_some]⟩,
        rfl⟩
  · simp [hkind]

/-- The names of the constants that a group declares, which may be empty. -/
lemma exists_constant_iff :
    (∃ d ∈ m.constants, d.name = name) ↔
      m.node.kind = .constantGroup ∧ m.node.HasElement .constantElem name := by
  rw [constants]
  by_cases hkind : m.node.kind = .constantGroup
  · rw [if_pos hkind]
    constructor
    · rintro ⟨d, hd, rfl⟩
      obtain ⟨element, hmem, hmap⟩ := List.mem_filterMap.mp hd
      obtain ⟨name, hname, rfl⟩ := Option.map_eq_some_iff.mp hmap
      exact ⟨hkind, element, hmem, constantName?_eq_some_iff.mp hname⟩
    · rintro ⟨-, element, hmem, helement⟩
      have hname := constantName?_eq_some_iff.mpr helement
      exact ⟨m.scope.constantFrom m.node element name,
        List.mem_filterMap.mpr ⟨element, hmem, by rw [hname, Option.map_some]⟩, rfl⟩
  · simp [hkind]

/-! ### The names of declarations -/

section

variable {options : Options}

/-- A class is registered under a name that is not empty. -/
lemma name_newClass?_ne {c : ClassLike} (h : m.newClass? options = some c) : c.name ≠ "" := by
  rw [newClass?] at h
  split at h
  · obtain ⟨name, hname, rfl⟩ := Option.map_eq_some_iff.mp h
    exact ne_empty_of_declaredClassName? hname
  · cases h

/-- So is a function or method. -/
lemma name_newFunction?_ne {f : FunctionLike} (h : m.newFunction? options = some f) :
    f.name ≠ "" := by
  rw [newFunction?] at h
  split at h
  · obtain ⟨owner, -, h⟩ := Option.bind_eq_some_iff.mp h
    obtain ⟨name, hname, rfl⟩ := Option.map_eq_some_iff.mp h
    exact (Node.childName?_eq_some_iff.mp hname).2
  · obtain ⟨name, hname, rfl⟩ := Option.map_eq_some_iff.mp h
    exact (Node.childName?_eq_some_iff.mp hname).2
  · cases h

end

end Moment

/-! ### Units -/

/-- An entry that several rows have together is one of one of them. -/
lemma exists_mem_flatMap_iff {α β : Type} {p : α → Prop} {g : β → List α} {l : List β} :
    (∃ a ∈ l.flatMap g, p a) ↔ ∃ b ∈ l, ∃ a ∈ g b, p a := by
  simp only [List.mem_flatMap]
  constructor
  · rintro ⟨a, ⟨b, hb, ha⟩, hp⟩
    exact ⟨b, hb, a, ha, hp⟩
  · rintro ⟨b, hb, a, ha, hp⟩
    exact ⟨a, ⟨b, hb, ha⟩, hp⟩

namespace SourceUnit

section

variable {options : Options} {files : SourceFiles} (u : SourceUnit) {k : Fqsen} {name : String}

/-- The classes of a unit are those that its nodes declare. -/
lemma exists_newClass? {c : ClassLike}
    (hc : (u.index options files .empty).2.class? k = some c) :
    ∃ m ∈ u.moments options files .empty, ∃ d, m.newClass? options = some d ∧ d.fqsen = k ∧
      c.name = d.name := by
  have hregistered := u.hasClass_index.mp (Registry.hasClass_iff.mpr ⟨c, hc⟩)
  obtain ⟨m, hm, d, hd, rfl⟩ := mem_declaredClasses.mp (hregistered.resolve_left nofun)
  obtain ⟨-, c', hc', houtline⟩ := u.class?_index hm hd
  obtain rfl := Option.some.inj (hc.symm.trans hc')
  exact ⟨m, hm, d, hd, rfl, (congrArg ClassLike.name houtline :)⟩

/-- So are the functions and methods. -/
lemma exists_newFunction? {f : FunctionLike}
    (hf : (u.index options files .empty).2.function? k = some f) :
    ∃ m ∈ u.moments options files .empty, ∃ g, m.newFunction? options = some g ∧ g.fqsen = k ∧
      f.name = g.name := by
  have hregistered := u.hasFunction_index.mp (Registry.hasFunction_iff.mpr ⟨f, hf⟩)
  obtain ⟨m, hm, g, hg, rfl⟩ := mem_declaredFunctions.mp (hregistered.resolve_left nofun)
  obtain ⟨-, f', hf', houtline⟩ := u.function?_index hm hg
  obtain rfl := Option.some.inj (hf.symm.trans hf')
  exact ⟨m, hm, g, hg, rfl, (congrArg FunctionLike.name houtline :)⟩

/-- A class has the members that the nodes inside it declare. -/
lemma gathers_of_class? {c : ClassLike} (hc : (u.index options files .empty).2.class? k = some c) :
    c.Gathers options (u.inside options files .empty k) := by
  obtain ⟨m, hm, d, hd, rfl, -⟩ := u.exists_newClass? hc
  exact u.gathers_index hm hd hc

end

variable (options : Options) (files : SourceFiles) (u : SourceUnit)

/-- A unit of whose declarations those without a name are reported. -/
structure Named : Prop where
  /-- Classes have names. -/
  class_named : ∀ k c, (u.index options files .empty).2.class? k = some c → c.name ≠ ""
  /-- So have functions and methods. -/
  function_named : ∀ k f, (u.index options files .empty).2.function? k = some f → f.name ≠ ""
  /-- The properties of a class are those of the named elements in the groups inside it. -/
  property_iff : ∀ k c, (u.index options files .empty).2.class? k = some c → ∀ name,
    (∃ p ∈ c.properties, p.name = name) ↔ name ≠ "" ∧
      ∃ m ∈ u.inside options files .empty k,
        m.node.kind = .propertyGroup ∧ m.node.HasElement .propertyElem name
  /-- The constants are those of the elements that hold a text, which may be empty. -/
  constant_iff : ∀ k c, (u.index options files .empty).2.class? k = some c → ∀ name,
    (∃ d ∈ c.constants, d.name = name) ↔
      ∃ m ∈ u.inside options files .empty k,
        m.node.kind = .constantGroup ∧ m.node.HasElement .constantElem name
  /-- Declarations that lack their names are refused, and so are groups of members outside
  classes. -/
  refused : ∀ m ∈ u.moments options files .empty,
    (m.node.Nameless ∨
      m.node.kind ∈ [.propertyGroup, .constantGroup] ∧ m.scope.class? = none) →
        Refuses options files m.node m.scope m.state
  /-- A class that need not hold a name is registered under the common one, and not reported. -/
  anonymous : ∀ m ∈ u.moments options files .empty, m.node.kind = .classDecl → m.node.Unnamed →
    m.node.IsAnonymous → (m.next (visit options files)).problems = m.state.problems ∧
      ∃ k c, (u.index options files .empty).2.class? k = some c ∧
        m.classIdentity? options = some k ∧ c.name = anonymousClassName
  /-- One fatal problem comes of each element without a name in a group of properties. -/
  property_elements : ∀ m ∈ u.moments options files .empty, m.node.kind = .propertyGroup →
    m.scope.class? ≠ none → ∃ problems,
      (m.next (visit options files)).problems = m.state.problems ++ problems ∧
        fatalCount problems =
          (m.node.childNodes.filter (·.kind = .propertyElem)).countP (·.Unnamed)
  /-- One comes of each node in a group of constants that is no element or holds no text. -/
  constant_elements : ∀ m ∈ u.moments options files .empty, m.node.kind = .constantGroup →
    m.scope.class? ≠ none → ∃ problems,
      (m.next (visit options files)).problems = m.state.problems ++ problems ∧
        fatalCount problems =
          m.node.childNodes.countP fun e => e.kind ≠ .constantElem ∨ e.childText? 0 = none

/-- The problems at a node follow those before it. -/
lemma problems_next {m : Moment Findings} (hm : m ∈ u.moments options files .empty) :
    (m.next (visit options files)).problems = m.state.problems ++ m.reports options files :=
  (answered_visit options files (u.grounded_of_mem_moments options files .empty m hm)
    m.node).problems_eq

/-- **No class, method, function or property of a unit lacks a name**: what does not hold one is
reported instead, but for a constant whose name is empty. -/
theorem named : u.Named options files where
  class_named k c hc := by
    obtain ⟨m, -, d, hd, -, hname⟩ := u.exists_newClass? hc
    exact hname ▸ Moment.name_newClass?_ne hd
  function_named k f hf := by
    obtain ⟨m, -, g, hg, -, hname⟩ := u.exists_newFunction? hf
    exact hname ▸ Moment.name_newFunction?_ne hg
  property_iff k c hc name := by
    rw [(u.gathers_of_class? hc).properties_eq, exists_mem_lastOfEach_iff, exists_mem_flatMap_iff]
    simp only [Moment.exists_property_iff]
    constructor
    · rintro ⟨m, hm, hne, hgroup⟩
      exact ⟨hne, m, hm, hgroup⟩
    · rintro ⟨hne, m, hm, hgroup⟩
      exact ⟨m, hm, hne, hgroup⟩
  constant_iff k c hc name := by
    rw [(u.gathers_of_class? hc).constants_eq, exists_mem_lastOfEach_iff, exists_mem_flatMap_iff]
    simp only [Moment.exists_constant_iff]
  refused m _ h := by
    obtain hnameless | ⟨hkind, hclass⟩ := h
    · exact refuses_of_nameless hnameless
    · exact refuses_of_class?_eq_none hkind hclass
  anonymous m hm hkind hunnamed hanonymous := by
    have hname := Node.declaredClassName?_of_isAnonymous hunnamed hanonymous
    have hreports : m.reports options files = [] := by
      simp only [Moment.reports, Scope.reports, hkind, hname]
    obtain ⟨c, hc⟩ : ∃ c, m.newClass? options = some c := by
      rw [Moment.newClass?, if_pos hkind, Scope.newClass?, hname]
      exact ⟨_, rfl⟩
    obtain ⟨-, d, hd, houtline⟩ := u.class?_index hm hc
    refine ⟨by rw [u.problems_next options files hm, hreports, List.append_nil], c.fqsen, d, hd,
      by rw [Moment.classIdentity?, hc, Option.map_some], ?_⟩
    have hdescribes := (Moment.describes_of_outline_eq hc houtline).name_eq
    exact Option.some.inj (hdescribes.symm.trans hname)
  property_elements m hm hkind hclass := by
    refine ⟨_, u.problems_next options files hm, ?_⟩
    obtain ⟨owner, howner⟩ := Option.ne_none_iff_exists'.mp hclass
    simp only [Moment.reports, Scope.reports, hkind, howner]
    exact m.scope.fatalCount_properties options m.node _
  constant_elements m hm hkind hclass := by
    refine ⟨_, u.problems_next options files hm, ?_⟩
    obtain ⟨owner, howner⟩ := Option.ne_none_iff_exists'.mp hclass
    simp only [Moment.reports, Scope.reports, hkind, howner]
    exact m.scope.fatalCount_constants m.node _

/-- A unit with a class in which there is a constant with an empty name. -/
def emptyConstant : SourceUnit where
  path := "constant.php"
  root := .statements [.classOf "C" none [] [.constantGroup [.constantElem "" (.int 1)]]]

/-- The constant is registered, and nothing is reported. -/
theorem emptyConstant_registered :
    ∃ c, (emptyConstant.index {} {} .empty).2.class? (.ofClass "" "C") = some c ∧
      c.constants.map ClassConstant.name = [""] ∧
      (emptyConstant.index {} {} .empty).1.report = [] := by
  have hconstants : ((emptyConstant.index {} {} .empty).2.class? (.ofClass "" "C")).map
      (·.constants.map ClassConstant.name) = some [""] := by decide +kernel
  obtain ⟨c, hc, hnames⟩ := Option.map_eq_some_iff.mp hconstants
  exact ⟨c, hc, hnames, by decide +kernel⟩

end SourceUnit

end PhpIndex

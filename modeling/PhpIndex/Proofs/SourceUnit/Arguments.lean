import PhpIndex.Proofs.SourceUnit.Members

/-!
Functions and the arguments that they take.

* `Node.parameters`, `requiredParameters`, `optionalParameters`, `takesAny`: what the node of a
  function says about its arguments;
* `Node.ReadsArguments`: a call by which the function around it reads its arguments itself;
* `FunctionLike.Takes`: a record that is as its node says, unless the function reads its arguments;
  `Moment.takes_newFunction?`: functions are registered as their nodes say;
* `Moment.opens_iff`: only calls of this kind let a function take any number of arguments, and only
  the function around them;
* `SourceUnit.function?_eq_iff_nearest?`: this is the nearest of the functions, classes and closures
  around the call, if it is a function;
* `SourceUnit.argumentsCounted`: **a function takes any number of arguments exactly if its node says
  so or a call reads them**, and otherwise those that its node counts.
-/

namespace PhpIndex

open Text

/-! ### Parameters -/

namespace Node

/-- The parameters of a function; other nodes in its list are none. -/
def parameters (function : Node) : List Node :=
  ((function.childNode? 1).map (·.childNodes.filter (·.kind = .param))).getD []

/-- Whether a parameter takes any number of arguments. -/
def isVariadic (param : Node) : Bool := (ParameterFlags.ofWord param.flags).isVariadic

/-- Whether there is a default value for it. -/
def hasDefault (param : Node) : Bool := (param.child? 2).any (! ·.isEmpty)

/-- The number of parameters that need an argument. -/
def requiredParameters (function : Node) : Nat :=
  function.parameters.countP fun p => !p.isVariadic && !p.hasDefault

/-- The number of those that need none because of their default values. -/
def optionalParameters (function : Node) : Nat :=
  function.parameters.countP fun p => !p.isVariadic && p.hasDefault

/-- Whether there is one for any number of arguments. -/
def takesAny (function : Node) : Bool := function.parameters.any isVariadic

lemma parameterForm_eq_iff (form : ParameterForm) (param : Node) :
    param.parameterForm = form ↔
      (match form with
        | .required => !param.isVariadic && !param.hasDefault
        | .optional => !param.isVariadic && param.hasDefault
        | .variadic => param.isVariadic) = true := by
  have heq : param.parameterForm = if param.isVariadic then .variadic else
      if param.hasDefault then .optional else .required := rfl
  rw [heq]
  cases form <;> cases param.isVariadic <;> cases param.hasDefault <;> simp

/-- To count forms is to count parameters. -/
lemma count_parameterForm (form : ParameterForm) (params : List Node) :
    (params.map parameterForm).count form = params.countP fun p =>
      match form with
        | .required => !p.isVariadic && !p.hasDefault
        | .optional => !p.isVariadic && p.hasDefault
        | .variadic => p.isVariadic := by
  rw [List.count, List.countP_map]
  refine List.countP_congr fun param _ => ?_
  rw [Function.comp_apply, beq_iff_eq, parameterForm_eq_iff]

variable (function : Node)

lemma parameterForms_eq :
    ((function.childNode? 1).map parameterForms).getD [] =
      function.parameters.map parameterForm := by
  rw [parameters]
  cases function.childNode? 1 <;> rfl

lemma requiredCount_parameters :
    requiredCount (function.parameters.map parameterForm) = function.requiredParameters :=
  count_parameterForm .required _

lemma optionalCount_parameters :
    optionalCount (function.parameters.map parameterForm) =
      if function.takesAny then .unlimited else .upTo function.optionalParameters := by
  have hvariadic :
      .variadic ∈ function.parameters.map parameterForm ↔ function.takesAny = true := by
    rw [List.mem_map, takesAny, List.any_eq_true]
    simp only [parameterForm_eq_iff .variadic]
  rw [optionalCount, count_parameterForm .optional]
  simp only [hvariadic]
  rfl

/-! ### Calls -/

/-- A call of one of the functions by which arguments are read. Its name may be written with letters
of any case and with separators at its start. -/
def ReadsArguments (node : Node) : Prop :=
  node.kind = .call ∧
    ∃ name, node.calleeName? = some name ∧ asciiLower (dropLeading name) ∈ argumentReaderNames

lemma readsArguments_iff {node : Node} (hkind : node.kind = .call) :
    node.readsArguments = true ↔ node.ReadsArguments := by
  have hnames (s : String) :
      isAmongIgnoringCase argumentReaderNames s = true ↔ asciiLower s ∈ argumentReaderNames := by
    have hlower : argumentReaderNames.map asciiLower = argumentReaderNames := by decide
    rw [isAmongIgnoringCase, List.any_eq_true, ← hlower, List.mem_map, hlower]
    simp only [eqIgnoreAsciiCase_iff]
  rw [ReadsArguments, readsArguments, Option.any_eq_true]
  simp only [hkind, true_and, hnames]

end Node

/-! ### Records of functions -/

namespace FunctionLike

/-- What the record of a function says about its arguments, if the function may also read them
itself. Those of a method are not counted. -/
structure Takes (f : FunctionLike) (node : Node) (reads : Prop) : Prop where
  unlimited_iff :
    f.optional = .unlimited ↔ (node.kind = .functionDecl ∧ node.takesAny = true) ∨ reads
  optional_eq : f.optional ≠ .unlimited →
    f.optional = .upTo (if node.kind = .functionDecl then node.optionalParameters else 0)
  required_eq : f.required = if node.kind = .functionDecl then node.requiredParameters else 0

namespace Takes

variable {f : FunctionLike} {node : Node} {reads : Prop}

lemma acceptAny (h : f.Takes node reads) : f.acceptAny.Takes node True :=
  ⟨by simp [FunctionLike.acceptAny], fun hne => absurd rfl hne, h.required_eq⟩

lemma congr {reads' : Prop} (h : f.Takes node reads) (hreads : reads ↔ reads') :
    f.Takes node reads' :=
  propext hreads ▸ h

end Takes

end FunctionLike

/-! ### What a node does to a function -/

/-- Changes of a class are none of a function. -/
lemma Scope.any_opens_edit (s : Scope) (k : Fqsen) (edits : List ClassEdit) :
    (s.edit edits).any (Operation.opens k) = false := by
  rw [edit]
  split
  · rfl
  · simp [Operation.opens]

namespace Moment

variable {options : Options} {m : Moment Findings}

lemma kind_of_newFunction? {f : FunctionLike} (h : m.newFunction? options = some f) :
    m.node.kind ∈ [.methodDecl, .functionDecl] := by
  rw [newFunction?] at h
  split at h
  · simp [*]
  · simp [*]
  · cases h

/-- A function is registered with the arguments that its node counts. -/
lemma takes_newFunction? {f : FunctionLike} (h : m.newFunction? options = some f) :
    f.Takes m.node False := by
  rw [newFunction?] at h
  split at h
  · rename_i hkind
    obtain ⟨owner, -, h⟩ := Option.bind_eq_some_iff.mp h
    obtain ⟨name, -, rfl⟩ := Option.map_eq_some_iff.mp h
    constructor <;> simp [Scope.methodFrom, hkind]
  · rename_i hkind
    obtain ⟨name, -, rfl⟩ := Option.map_eq_some_iff.mp h
    constructor <;>
      simp only [Scope.functionFrom, Node.parameterForms_eq, Node.optionalCount_parameters,
        Node.requiredCount_parameters, hkind, if_true]
    all_goals cases m.node.takesAny <;> simp
  · cases h

/-- Only a call by which arguments are read opens a function, and only the one around it. -/
lemma opens_iff (k : Fqsen) :
    (m.operations options).any (Operation.opens k) = true ↔
      m.node.ReadsArguments ∧ m.scope.inClosure = false ∧ m.scope.function? = some k := by
  rw [operations]
  by_cases hkind : m.node.kind = .call
  · simp only [Scope.operations, hkind, ← Node.readsArguments_iff hkind]
    cases m.node.readsArguments <;> cases m.scope.inClosure <;> cases m.scope.function? <;>
      simp [Operation.opens]
  · have hnot : ¬ m.node.ReadsArguments := fun h => hkind h.1
    have hedit := m.scope.any_opens_edit k
    simp only [hnot, false_and, iff_false, Bool.not_eq_true]
    rw [Scope.operations]
    split
    all_goals first | contradiction | try split
    all_goals simp [hedit, Operation.opens]

end Moment

/-! ### Units -/

section

/-- What a function is sought among around a call: in a closure or a class a call does not belong to
what is around that. -/
def callKinds : List Kind := [.closure, .classDecl, .methodDecl, .functionDecl]

namespace SourceUnit

variable {options : Options} {files : SourceFiles} (u : SourceUnit) {r : Registry}
variable {m : Moment Findings} {f : FunctionLike}

/-- Before a function is registered no node is inside it. -/
lemma function?_ne_of_before {before after : List (Moment Findings)}
    (h : u.moments options files r = before ++ m :: after) (hf : m.newFunction? options = some f) :
    ∀ m' ∈ before ++ [m], m'.scope.function? ≠ some f.fqsen := by
  have hgrounded := u.grounded_of_mem_moments options files r
  have hcourse := u.course_moments options files r
  rw [h] at hgrounded hcourse
  have hself := hgrounded m (List.mem_append_right _ List.mem_cons_self)
  have hfree := (Moment.isLeastFree_newFunction? hself hf).free
  intro m' hm' hfunction
  have hregistered : m.state.registry.hasFunction f.fqsen = true := by
    rcases List.mem_append.mp hm' with hbefore | hm'
    · have hearlier := hgrounded m' (List.mem_append_left _ hbefore)
      exact hcourse.hasFunction_of_before hgrounded hbefore
        (.inl (hearlier.function_registered _ hfunction))
    · obtain rfl := List.mem_singleton.mp hm'
      exact hself.function_registered _ hfunction
  rw [hregistered] at hfree
  cases hfree

/-- No two functions of a unit have one identity. -/
lemma eq_of_functionIdentity? {m' : Moment Findings} (hm : m ∈ u.moments options files r)
    (hm' : m' ∈ u.moments options files r) (hf : m.newFunction? options = some f)
    (hf' : m'.functionIdentity? options = some f.fqsen) : m' = m := by
  have hgrounded := u.grounded_of_mem_moments options files r
  have hcourse := u.course_moments options files r
  refine eq_of_noneBefore (p := fun n => n.functionIdentity? options = some f.fqsen) ?_ hm hm'
    (by rw [Moment.functionIdentity?, hf, Option.map_some]) hf'
  intro before n after h hn b hb hidentity
  rw [h] at hgrounded hcourse
  obtain ⟨g, hg, hkey⟩ := Option.map_eq_some_iff.mp hn
  have hself := hgrounded n (List.mem_append_right _ List.mem_cons_self)
  have hfree := (Moment.isLeastFree_newFunction? hself hg).free
  rw [hkey, hcourse.hasFunction_of_before hgrounded hb (.inr hidentity)] at hfree
  cases hfree

/-- A call belongs to a function if this is nearer than any closure, class or other function. -/
lemma function?_eq_iff_nearest? (hm : m ∈ u.moments options files r)
    (hf : m.newFunction? options = some f) {ℓ : Lineage Findings}
    (hℓ : ℓ ∈ u.lineages options files r) :
    ℓ.scope.inClosure = false ∧ ℓ.scope.function? = some f.fqsen ↔
      nearest? ℓ.around callKinds = some m := by
  have hscoped := u.scopedBy_of_mem_lineages options files r ℓ hℓ
  -- if what is nearest is no closure, it is also the nearest when closures do not count
  have hsame (h : ∀ m', nearest? ℓ.around callKinds = some m' → m'.node.kind ≠ .closure) :
      nearest? ℓ.around [.classDecl, .methodDecl, .functionDecl] = nearest? ℓ.around callKinds :=
    nearest?_of_subset (by decide) fun m' hm' =>
      (List.mem_cons.mp (kind_mem_of_nearest? hm')).resolve_left (h m' hm')
  have hclosure : ℓ.scope.inClosure = (nearest? ℓ.around callKinds).any (·.node.kind = .closure) :=
    hscoped.closure_eq
  rw [hclosure, hscoped.function_eq]
  constructor
  · rintro ⟨hopen, hfunction⟩
    rw [hsame fun m' hm' => by simpa [hm'] using hopen] at hfunction
    obtain ⟨m', hnearest, hm'⟩ := Option.bind_eq_some_iff.mp hfunction
    have hmem := u.around_mem_moments options files r hℓ (List.mem_of_find?_eq_some hnearest)
    rw [hnearest, u.eq_of_functionIdentity? hm hmem hf hm']
  · intro hnearest
    have hkind : m.node.kind ≠ .closure := by
      rintro hkind
      have hfunction := Moment.kind_of_newFunction? hf
      simp [hkind] at hfunction
    rw [hsame fun m' hm' => Option.some_inj.mp (hnearest.symm.trans hm') ▸ hkind, hnearest,
      Option.bind_some, Moment.functionIdentity?, hf]
    exact ⟨by simpa using hkind, rfl⟩

/-- All the calls by which a function reads its arguments come after it. -/
lemma exists_reader_iff {before after : List (Moment Findings)}
    (h : u.moments options files r = before ++ m :: after) (hf : m.newFunction? options = some f) :
    (∃ ℓ ∈ u.lineages options files r,
        ℓ.node.ReadsArguments ∧ nearest? ℓ.around callKinds = some m) ↔
      (after.flatMap (·.operations options)).any (Operation.opens f.fqsen) = true := by
  have hm : m ∈ u.moments options files r := h ▸ List.mem_append_right _ List.mem_cons_self
  rw [List.any_flatMap, List.any_eq_true]
  constructor
  · rintro ⟨ℓ, hℓ, hreads, hnearest⟩
    have hinside := (u.function?_eq_iff_nearest? hm hf hℓ).mpr hnearest
    have hmem := u.toMoment_mem_moments options files r hℓ
    rw [h, List.append_cons] at hmem
    rcases List.mem_append.mp hmem with hbefore | hafter
    · exact absurd hinside.2 (u.function?_ne_of_before h hf _ hbefore)
    · exact ⟨ℓ.toMoment, hafter, (Moment.opens_iff f.fqsen).mpr ⟨hreads, hinside⟩⟩
  · rintro ⟨n, hn, hopens⟩
    obtain ⟨hreads, hinside⟩ := (Moment.opens_iff f.fqsen).mp hopens
    have hmem : n ∈ u.moments options files r :=
      h ▸ List.mem_append_right _ (List.mem_cons_of_mem _ hn)
    obtain ⟨ℓ, hℓ, rfl⟩ := u.exists_lineage options files r hmem
    exact ⟨ℓ, hℓ, hreads, (u.function?_eq_iff_nearest? hm hf hℓ).mp hinside⟩

/-- In the end a function takes the arguments that its node counts, or any number of them if a call
reads them. -/
lemma takes_index (hm : m ∈ u.moments options files r) (hf : m.newFunction? options = some f) :
    ∃ g, (u.index options files r).2.function? f.fqsen = some g ∧
      g.Takes m.node (∃ ℓ ∈ u.lineages options files r,
        ℓ.node.ReadsArguments ∧ nearest? ℓ.around callKinds = some m) := by
  have hgrounded := u.grounded_of_mem_moments options files r
  have hcourse := u.course_moments options files r
  obtain ⟨before, after, h⟩ := List.append_of_mem hm
  have hreads := u.exists_reader_iff h hf
  rw [h] at hgrounded hcourse
  obtain ⟨v, -, -, hrest⟩ := hcourse.exists_between
  obtain ⟨hself, hafter⟩ := List.forall_mem_cons.mp (List.forall_mem_append.mp hgrounded).2
  obtain ⟨hsucceed, hperform⟩ := hrest.performAll_operations hafter
  have hrecord := function?_performAll_of_some hsucceed (Moment.function?_next files hself hf)
  rw [hperform] at hrecord
  have htakes := Moment.takes_newFunction? hf
  refine ⟨_, hrecord, ?_⟩
  split
  · rename_i hopens
    exact htakes.acceptAny.congr (iff_of_true trivial (hreads.mpr hopens))
  · rename_i hclosed
    exact htakes.congr (iff_of_false id (mt hreads.mp hclosed))

variable (options files r)

/-- The functions and methods of a unit with the arguments that they take. -/
structure ArgumentsCounted : Prop where
  /-- The nodes that are visited, each with the nodes around it. -/
  visited : (u.lineages options files r).map Lineage.toMoment = u.moments options files r
  /-- What is registered is new and takes the arguments that its node counts, or any number of them
  if there is a call by which arguments are read and this function is the nearest of the functions,
  classes and closures around it. -/
  taken : ∀ m ∈ u.moments options files r, ∀ f, m.newFunction? options = some f →
    r.hasFunction f.fqsen = false ∧
      ∃ g, (u.index options files r).2.function? f.fqsen = some g ∧
        g.Takes m.node (∃ ℓ ∈ u.lineages options files r,
          ℓ.node.ReadsArguments ∧ nearest? ℓ.around callKinds = some m)
  /-- Nothing else is new. -/
  declared : ∀ k, (u.index options files r).2.hasFunction k = true → r.hasFunction k = true ∨
    ∃ m ∈ u.moments options files r, ∃ f, m.newFunction? options = some f ∧ f.fqsen = k

/-- **A function takes any number of arguments exactly if its node says so or a call reads them**:
a call by which arguments are read counts for the nearest function around it, unless there is a
closure or a class in between. Otherwise a function takes the arguments that its node counts, and a
method none, and no call changes how many are required. -/
theorem argumentsCounted : u.ArgumentsCounted options files r := by
  refine ⟨u.moments_lineages options files r, fun m hm f hf => ?_, fun k hk => ?_⟩
  · exact ⟨(u.function?_index hm hf).1, u.takes_index hm hf⟩
  · exact (u.hasFunction_index.mp hk).imp_right mem_declaredFunctions.mp

end SourceUnit

end

end PhpIndex

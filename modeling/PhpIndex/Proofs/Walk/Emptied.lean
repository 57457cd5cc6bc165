import PhpIndex.Proofs.Walk.Sites
import PhpIndex.Walk.Visit

/-!
Trees in which a node is left out of a list of statements.

* `Emptied`: a tree with the slot of a node emptied, which is one of some list of statements in it;
* `Emptied.childText?_eq`, `Emptied.childNode?_cases`, `Emptied.filterMap_childNodes`: what such a
  tree has in common with the one before;
* `Emptied.visit_eq`: **a visit does not look into lists of statements**: where the walk goes down
  it is the same in both trees, unless expressions are checked against the source.
-/

namespace PhpIndex

/-- A tree, and the same tree once a node is left out of a list of statements in it. -/
inductive Emptied (d : Node) : Node → Node → Prop where
  /-- The list is the tree itself. -/
  | here {l : Level} (hkind : l.above.kind = .stmtList)
      (hrow : l.above.children = l.before ++ .node d :: l.after) :
      Emptied d l.above (l.fill .empty)
  /-- The list is in the subtree of some slot. -/
  | inside {l : Level} {m m' : Node} (h : Emptied d m m')
      (hrow : l.above.children = l.before ++ .node m :: l.after) :
      Emptied d l.above (l.fill (.node m'))

namespace Emptied

variable {d n n' : Node}

/-! ### What the trees have in common -/

section

variable (h : Emptied d n n')

include h

lemma kind_eq : n'.kind = n.kind := by cases h <;> rfl

lemma flags_eq : n'.flags = n.flags := by cases h <;> rfl

lemma line_eq : n'.line = n.line := by cases h <;> rfl

lemma range_eq : n'.range = n.range := by cases h <;> rfl

lemma doc_eq : n'.doc = n.doc := by cases h <;> rfl

/-- A slot that is emptied did not hold a text. -/
lemma childText?_eq (i : Nat) : n'.childText? i = n.childText? i := by
  have htexts : n'.children.map Child.text? = n.children.map Child.text? := by
    cases h with
    | here hkind hrow => simp [hrow, Level.fill, Child.text?]
    | inside h hrow => simp [hrow, Level.fill, Child.text?]
  have hslot (m : Node) : m.childText? i = ((m.children.map Child.text?)[i]?).join := by
    rw [Node.childText?, Node.child?, List.getElem?_map, ← Option.bind_id_eq_join,
      Option.bind_map]
    rfl
  rw [hslot, hslot, htexts]

lemma childName?_eq (i : Nat) : n'.childName? i = n.childName? i := by
  rw [Node.childName?, Node.childName?, h.childText?_eq]

/-- Outside the list itself no slot is emptied. -/
lemma any_isEmpty_eq (hkind : n.kind ≠ .stmtList) (p : Bool → Bool) (i : Nat) :
    (n'.child? i).any (p ·.isEmpty) = (n.child? i).any (p ·.isEmpty) := by
  have hempty : n'.children.map Child.isEmpty = n.children.map Child.isEmpty := by
    cases h with
    | here hkind' hrow => exact absurd hkind' hkind
    | inside h hrow => simp [hrow, Level.fill, Child.isEmpty]
  have hslot (m : Node) :
      (m.child? i).any (p ·.isEmpty) = ((m.children.map Child.isEmpty)[i]?).any p := by
    rw [List.getElem?_map, Option.any_map]
    rfl
  rw [hslot, hslot, hempty]

/-- So the slots hold the same nodes, or the tree and the one before. -/
lemma childNode?_cases (hkind : n.kind ≠ .stmtList) (i : Nat) :
    n'.childNode? i = n.childNode? i ∨
      ∃ m m', n.childNode? i = some m ∧ n'.childNode? i = some m' ∧ Emptied d m m' := by
  cases h with
  | here hkind' hrow => exact absurd hkind' hkind
  | @inside l m m' h hrow =>
      simp only [Node.childNode?, Node.child?, Level.fill, hrow]
      rcases Nat.lt_trichotomy i l.before.length with hi | rfl | hi
      · left
        rw [List.getElem?_append_left hi, List.getElem?_append_left hi]
      · right
        exact ⟨m, m', by simp [Child.node?], by simp [Child.node?], h⟩
      · left
        obtain ⟨j, hj⟩ : ∃ j, i - l.before.length = j + 1 := ⟨i - l.before.length - 1, by omega⟩
        rw [List.getElem?_append_right (by omega), List.getElem?_append_right (by omega), hj]
        rfl

/-- What is read of the children is the same, if it is of those that change and nothing is read of
the one that is left out. -/
lemma filterMap_childNodes {β : Type} {g : Node → Option β} (hd : g d = none)
    (hg : ∀ m m', Emptied d m m' → g m' = g m) :
    n'.childNodes.filterMap g = n.childNodes.filterMap g := by
  cases h with
  | here hkind hrow =>
      simp [Node.childNodes, hrow, Level.fill, List.filterMap_cons, Child.node?, hd]
  | inside h hrow =>
      simp [Node.childNodes, hrow, Level.fill, List.filterMap_cons, Child.node?, hg _ _ h]

end

/-! ### What visits read -/

section

variable (h : Emptied d n n') (s : Scope)

include h

/-- A name is the same, as lists of statements are none. -/
lemma resolveClass?_eq : s.resolveClass? n' = s.resolveClass? n := by
  rw [Scope.resolveClass?, Scope.resolveNode?, Scope.resolveClass?, Scope.resolveNode?, h.kind_eq,
    h.childName?_eq, h.flags_eq]

lemma typeOfSignature?_eq : s.typeOfSignature? n' = s.typeOfSignature? n := by
  rw [Scope.typeOfSignature?, Scope.typeOfSignature?, h.kind_eq, h.childText?_eq, h.flags_eq]

/-- So are the names in a list, unless it is a name that is left out. -/
lemma resolveClasses_eq (hd : d.kind ≠ .name) :
    n'.childNodes.filterMap s.resolveClass? = n.childNodes.filterMap s.resolveClass? := by
  refine h.filterMap_childNodes ?_ fun m m' hm => hm.resolveClass?_eq s
  rw [Scope.resolveClass?, Scope.resolveNode?, if_neg hd, Option.bind_none]

omit s in
/-- So are parameters, unless it is one of them. -/
lemma parameterForms_eq (hd : d.kind ≠ .param) : n'.parameterForms = n.parameterForms := by
  have hforms (m : Node) : m.parameterForms = m.childNodes.filterMap fun param =>
      if param.kind = .param then some param.parameterForm else none := by
    rw [Node.parameterForms, ← List.filterMap_eq_map, List.filterMap_filter]
    simp
  rw [hforms, hforms]
  refine h.filterMap_childNodes (if_neg hd) fun m m' hm => ?_
  rw [hm.kind_eq]
  by_cases hkind : m.kind = .param
  · rw [if_pos hkind, if_pos hkind, Node.parameterForm, Node.parameterForm, hm.flags_eq,
      hm.any_isEmpty_eq (by simp [hkind])]
  · rw [if_neg hkind, if_neg hkind]

end

/-! ### Visits -/

section

variable (h : Emptied d n n') (options : Options) (s : Scope)

include h

lemma withElement_eq (kind : Option ImportKind) (common : Option String) (list : Kind) :
    s.withElement kind common list n' = s.withElement kind common list n := by
  rw [Scope.withElement, Scope.withElement, h.kind_eq, h.childName?_eq, h.flags_eq,
    h.childText?_eq]

/-- A declaration imports the same, as it reads nothing below its elements. -/
lemma afterUse_eq (hkind : n.kind ≠ .stmtList) : s.afterUse n' = s.afterUse n := by
  cases h with
  | here hkind' hrow => exact absurd hkind' hkind
  | @inside l m m' h hrow =>
      have helements (k : Node) : (l.fill (.node k)).childNodes =
          l.before.filterMap Child.node? ++ k :: l.after.filterMap Child.node? := by
        simp [Node.childNodes, Level.fill, Child.node?]
      have habove : l.fill (.node m) = l.above := l.fill_eq hrow
      have hsame : s.afterUse (l.fill (.node m')) = s.afterUse (l.fill (.node m)) := by
        rw [Scope.afterUse, Scope.afterUse, helements, helements]
        simp only [Scope.withElements, List.foldlM_append, List.foldlM_cons, h.withElement_eq]
        rfl
      rw [hsame, habove]

lemma classFrom_eq (hkind : n.kind ≠ .stmtList) (hd : d.kind ≠ .name) (identity : Fqsen)
    (name : String) :
    s.classFrom options n' identity name = s.classFrom options n identity name := by
  have hparent : (n'.childNode? 1).bind s.resolveClass? =
      (n.childNode? 1).bind s.resolveClass? := by
    rcases h.childNode?_cases hkind 1 with heq | ⟨m, m', hm, hm', hsub⟩
    · rw [heq]
    · rw [hm, hm', Option.bind_some, Option.bind_some, hsub.resolveClass?_eq]
  have hinterfaces : (n'.childNode? 2).map (·.childNodes.filterMap s.resolveClass?) =
      (n.childNode? 2).map (·.childNodes.filterMap s.resolveClass?) := by
    rcases h.childNode?_cases hkind 2 with heq | ⟨m, m', hm, hm', hsub⟩
    · rw [heq]
    · rw [hm, hm', Option.map_some, Option.map_some, hsub.resolveClasses_eq s hd]
  rw [Scope.classFrom, Scope.classFrom, hparent, hinterfaces, h.range_eq, h.flags_eq, h.doc_eq]

omit s in
lemma declaredClassName?_eq (hkind : n.kind ≠ .stmtList) :
    declaredClassName? n' = declaredClassName? n := by
  have hempty := h.any_isEmpty_eq hkind id 0
  simp only [id_eq] at hempty
  rw [declaredClassName?, declaredClassName?, h.childName?_eq, h.flags_eq, hempty]

lemma methodFrom_eq (identity : Fqsen) (name : String) :
    s.methodFrom options n' identity name = s.methodFrom options n identity name := by
  rw [Scope.methodFrom, Scope.methodFrom, h.range_eq, h.doc_eq, h.flags_eq]

lemma functionFrom_eq (hkind : n.kind ≠ .stmtList) (hd : d.kind ≠ .param) (identity : Fqsen)
    (name : String) :
    s.functionFrom options n' identity name = s.functionFrom options n identity name := by
  have hforms : (n'.childNode? 1).map Node.parameterForms =
      (n.childNode? 1).map Node.parameterForms := by
    rcases h.childNode?_cases hkind 1 with heq | ⟨m, m', hm, hm', hsub⟩
    · rw [heq]
    · rw [hm, hm', Option.map_some, Option.map_some, hsub.parameterForms_eq hd]
  have htype : (n'.childNode? 3).bind s.typeOfSignature? =
      (n.childNode? 3).bind s.typeOfSignature? := by
    rcases h.childNode?_cases hkind 3 with heq | ⟨m, m', hm, hm', hsub⟩
    · rw [heq]
    · rw [hm, hm', Option.bind_some, Option.bind_some, hsub.typeOfSignature?_eq]
  simp only [Scope.functionFrom, h.methodFrom_eq, hforms, htype, h.doc_eq]

/-- The nodes of a kind in a slot are the same or such trees, too. -/
lemma childOfKind?_cases (hkind : n.kind ≠ .stmtList) (i : Nat) (kind : Kind) :
    n'.childOfKind? i kind = n.childOfKind? i kind ∨
      ∃ m m', n.childOfKind? i kind = some m ∧ n'.childOfKind? i kind = some m' ∧
        Emptied d m m' := by
  rw [Node.childOfKind?, Node.childOfKind?]
  rcases h.childNode?_cases hkind i with heq | ⟨m, m', hm, hm', hsub⟩
  · exact .inl (by rw [heq])
  · rw [hm, hm']
    by_cases hm : m.kind = kind
    · right
      exact ⟨m, m', by simp [Option.filter, hm], by simp [Option.filter, hm, hsub.kind_eq], hsub⟩
    · left
      simp [Option.filter, hm, hsub.kind_eq]

lemma calleeName?_eq (hkind : n.kind ≠ .stmtList) : n'.calleeName? = n.calleeName? := by
  rw [Node.calleeName?, Node.calleeName?]
  rcases h.childOfKind?_cases hkind 0 .name with heq | ⟨m, m', hm, hm', hsub⟩
  · rw [heq]
  · rw [hm, hm', Option.bind_some, Option.bind_some, hsub.childText?_eq]

/-! ### Declarations -/

lemma declareClass_eq (hkind : n.kind ≠ .stmtList) (hd : d.kind ≠ .name) (f : Findings) :
    declareClass options n' s f = declareClass options n s f := by
  rw [declareClass, declareClass, h.declaredClassName?_eq hkind]
  simp only [h.classFrom_eq options s hkind hd, h.range_eq]

lemma useTraits_eq (hkind : n.kind ≠ .stmtList) (hd : d.kind ≠ .name) (f : Findings) :
    useTraits n' s f = useTraits n s f := by
  rw [useTraits, useTraits]
  rcases h.childOfKind?_cases hkind 0 .nameList with heq | ⟨m, m', hm, hm', hsub⟩
  · rw [heq]
  · rw [hm, hm']
    cases s.class? with
    | none => rfl
    | some owner => simp only [hsub.resolveClasses_eq s hd]

lemma declareMethod_eq (f : Findings) :
    declareMethod options n' s f = declareMethod options n s f := by
  rw [declareMethod, declareMethod, h.childName?_eq]
  simp only [h.methodFrom_eq, h.range_eq]

lemma declareFunction_eq (hkind : n.kind ≠ .stmtList) (hd : d.kind ≠ .param) (f : Findings) :
    declareFunction options n' s f = declareFunction options n s f := by
  rw [declareFunction, declareFunction, h.childName?_eq]
  simp only [h.functionFrom_eq options s hkind hd, h.range_eq]

omit h in
lemma check_eq (hcompat : options.checksCompatibility = false) (files : SourceFiles) (node : Node)
    (f : Findings) : s.check options files node f = f := by
  rw [Scope.check, Scope.compatibilityIssue?, hcompat]
  rfl

lemma enterOrSkip_eq (f : Findings) (entered : Except Issue (Scope × Findings)) :
    enterOrSkip n' s f entered = enterOrSkip n s f entered := by
  cases entered with
  | ok entered => rfl
  | error issue => rw [enterOrSkip, enterOrSkip, h.line_eq]

/-- **A visit does not look into lists of statements**: where the walk goes down it does so in the
same way if a node is left out of such a list, unless this is a name or a parameter or expressions
are checked against the source. -/
theorem visit_eq (hcompat : options.checksCompatibility = false) (hname : d.kind ≠ .name)
    (hparam : d.kind ≠ .param) {files : SourceFiles} {f f' : Findings} {s' : Scope}
    (hv : visit options files n s f = (.descend s', f')) :
    visit options files n' s f = (.descend s', f') := by
  by_cases hkind : n.kind = .stmtList
  · simp only [visit, hkind] at hv
    simp only [visit, h.kind_eq, hkind, hv]
  · rw [← hv, visit, visit, h.kind_eq]
    rw [visit] at hv
    split
    · rw [h.childText?_eq]
    · rw [h.afterUse_eq s hkind, h.enterOrSkip_eq]
    · rename_i hgroup
      simp only [hgroup] at hv
      split at hv <;> cases hv
    · rw [h.declareClass_eq options s hkind hname, h.enterOrSkip_eq]
    · rw [h.useTraits_eq s hkind hname, h.enterOrSkip_eq]
    · rw [h.declareMethod_eq, h.enterOrSkip_eq]
    · rw [h.declareFunction_eq options s hkind hparam, h.enterOrSkip_eq]
    · rename_i hgroup
      simp only [hgroup] at hv
      cases hv
    · rename_i hgroup
      simp only [hgroup] at hv
      cases hv
    · rfl
    · rfl
    · rw [visitCall, visitCall, Node.readsArguments, Node.readsArguments, h.calleeName?_eq hkind]
      simp only [check_eq options s hcompat]
    · rw [visitStaticCall, visitStaticCall, Node.callsParentConstructor,
        Node.callsParentConstructor, h.calleeName?_eq hkind, h.childText?_eq]
      simp only [check_eq options s hcompat]
    iterate 5
      · simp only [check_eq options s hcompat]
    · rfl

end

end Emptied

end PhpIndex

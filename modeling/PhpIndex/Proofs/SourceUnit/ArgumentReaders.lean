import PhpIndex.Proofs.Scope.NamespaceForms
import PhpIndex.Proofs.Scope.Resolution
import PhpIndex.Proofs.SourceUnit.Arguments
import PhpIndex.Tree.Build

/-!
Calls of the functions by which arguments are read, and what the names in them refer to.

* `IsReader`: the name of such a function, which has no separator in it;
* `Scope.RefersToReader`: a name that refers to one, as names of functions are resolved;
* `Scope.Misjudges`: the names of which the text tells something else than what they refer to;
* `Scope.JudgesCall`, `Scope.judgesCall`: **a call is told by the text of its name**, which agrees
  with what the name refers to unless this name is misjudged. A function in a namespace is, and an
  alias is in both ways: `Scope.not_agrees`.
-/

namespace PhpIndex

open Text

/-! ### Names of readers -/

/-- A function by which another one reads its arguments. The case of its letters does not matter. -/
def IsReader (name : String) : Prop := asciiLower name ∈ argumentReaderNames

instance (name : String) : Decidable (IsReader name) :=
  inferInstanceAs (Decidable (asciiLower name ∈ argumentReaderNames))

section

variable {name : String}

lemma isAmongIgnoringCase_argumentReaderNames_iff :
    isAmongIgnoringCase argumentReaderNames name = true ↔ IsReader name := by
  have hlower : argumentReaderNames.map asciiLower = argumentReaderNames := by decide
  exact isAmongIgnoringCase_iff hlower

/-- There are no separators in these names. -/
lemma IsReader.separator_notMem (h : IsReader name) : separator ∉ name.toList :=
  separator_notMem_of_isAmong (by decide) (isAmongIgnoringCase_argumentReaderNames_iff.mpr h)

/-- So none of them is that of a function in a namespace. -/
lemma not_isReader_append (first rest : String) :
    ¬ IsReader (first ++ separator.toString ++ rest) := by
  intro h
  apply h.separator_notMem
  rw [toList_append_separator]
  simp

/-- Nor does one begin with a separator. -/
lemma not_isReader_of_head? (h : name.toList.head? = some separator) : ¬ IsReader name :=
  fun hreader => hreader.separator_notMem (List.mem_of_mem_head? h)

end

namespace Scope

variable {s : Scope} {callee : Node} {written : String} {form : NameKind}

/-! ### What names of functions refer to -/

/-- A name that refers to a function by which arguments are read: it is resolved to the name of one,
or it is a single segment without an alias, which also is that of a function outside namespaces. -/
inductive RefersToReader (s : Scope) (callee : Node) : Prop
  | resolved {full : String} (h : s.resolveNode? callee .function = some full)
      (hreader : IsReader full)
  | builtin {name : String} (h : callee.Writes name .unmarked) (hsegment : IsSegment name)
      (hfree : s.imports.get? .function name = none) (hreader : IsReader name)

/-- What is in a namespace is none of these functions. -/
lemma isReader_qualify_iff (h : namespaceForm s.space = s.space) :
    IsReader (s.qualify written) ↔ s.space = "" ∧ IsReader written := by
  by_cases hspace : s.space = ""
  · rw [qualify, hspace, String.empty_append]
    exact (and_iff_right rfl).symm
  · obtain ⟨bare, hbare⟩ := (namespaceForm_eq_iff.mp h).exists_eq_append hspace
    rw [qualify, hbare]
    exact iff_of_false (not_isReader_append bare written) fun hnot => hspace (hbare.trans hnot.1)

/-- Whether a name refers to a reader depends on what is written. -/
lemma refersToReader_iff (h : callee.Writes written form) (hne : written ≠ "") :
    s.RefersToReader callee ↔ IsReader (s.resolve written form .function) ∨
      form = .unmarked ∧ separator ∉ written.toList ∧
        s.imports.get? .function written = none ∧ IsReader written := by
  have hresolve := h.resolveNode?_eq hne s .function
  constructor
  · rintro (⟨hfull, hreader⟩ | ⟨hname, hsegment, hfree, hreader⟩)
    · rw [hresolve] at hfull
      exact .inl (Option.some.inj hfull ▸ hreader)
    · obtain rfl := Option.some.inj (h.text_eq.symm.trans hname.text_eq)
      exact .inr ⟨h.form_eq.symm.trans hname.form_eq, hsegment.separator_notMem, hfree, hreader⟩
  · rintro (hreader | ⟨rfl, hsegment, hfree, hreader⟩)
    · exact .resolved hresolve hreader
    · exact .builtin h ⟨hne, hsegment⟩ hfree hreader

/-! ### Names that are misjudged -/

/-- A name whose text tells something else than what it refers to. -/
inductive Misjudges (s : Scope) (written : String) : NameKind → Prop
  /-- A function of the namespace that has the name of a reader. -/
  | relative (hspace : s.space ≠ "") (h : IsReader written) : Misjudges s written .relative
  /-- An alias that is named like a reader and does not stand for one, or the other way round. -/
  | imported {target : String} (hsegment : separator ∉ written.toList)
      (halias : s.imports.get? .function written = some target)
      (h : ¬ (IsReader written ↔ IsReader target)) : Misjudges s written .unmarked
  /-- A reader behind more separators than the one that a full name begins with. -/
  | doubled {full : String} {form : NameKind} (h : afterSeparator? written = some full)
      (hhead : full.toList.head? = some separator) (hreader : IsReader (dropLeading written)) :
      Misjudges s written form

/-! ### The text of a name and what it refers to -/

/-- Behind a separator the text is a full name, which is told right unless it begins with another
one. -/
lemma agrees_iff_of_separator {full : String} (hafter : afterSeparator? written = some full)
    (h : callee.Writes written form) (hne : written ≠ "") :
    (IsReader (dropLeading written) ↔ s.RefersToReader callee) ↔ ¬ s.Misjudges written form := by
  have htext : written.toList = separator :: full.toList := by
    rw [afterSeparator?_eq_some_iff.mp hafter, String.toList_append]
    rfl
  have hmem : separator ∈ written.toList := by
    rw [htext]
    exact List.mem_cons_self
  have hdrop : dropLeading written = dropLeading full := by
    rw [dropLeading, trimStart, htext, List.dropWhile_cons_of_pos (by decide)]
    rfl
  have hrefers : s.RefersToReader callee ↔ IsReader full := by
    have hresolve : s.resolve written form .function = full := by rw [resolve.eq_def, hafter]
    rw [refersToReader_iff h hne, hresolve]
    exact or_iff_left fun hbuiltin => hbuiltin.2.1 hmem
  have hmisjudges : s.Misjudges written form ↔
      full.toList.head? = some separator ∧ IsReader (dropLeading full) := by
    constructor
    · intro hmis
      cases hmis with
      | relative _ hreader => exact absurd hmem hreader.separator_notMem
      | imported hsegment => exact absurd hmem hsegment
      | doubled hafter' hhead hreader =>
          obtain rfl := Option.some.inj (hafter.symm.trans hafter')
          exact ⟨hhead, hdrop ▸ hreader⟩
    · rintro ⟨hhead, hreader⟩
      exact .doubled hafter hhead (hdrop ▸ hreader)
  rw [hdrop, hrefers, hmisjudges]
  by_cases hhead : full.toList.head? = some separator
  · simp [hhead, not_isReader_of_head? hhead]
  · simp [hhead, dropLeading_eq_self hhead]

/-- A full name is told right. -/
lemma agrees_iff_of_full (hafter : afterSeparator? written = none)
    (h : callee.Writes written .fullyQualified) (hne : written ≠ "") :
    (IsReader written ↔ s.RefersToReader callee) ↔ ¬ s.Misjudges written .fullyQualified := by
  have hrefers : s.RefersToReader callee ↔ IsReader written := by
    rw [refersToReader_iff h hne, resolve, hafter]
    exact or_iff_left fun hbuiltin => absurd hbuiltin.1 (by decide)
  have hmisjudges : ¬ s.Misjudges written .fullyQualified := by
    intro hmis
    cases hmis with
    | doubled hafter' => simp [hafter] at hafter'
  simp [hrefers, hmisjudges]

/-- A name from the current namespace is told right in the global one. -/
lemma agrees_iff_of_relative (hformed : namespaceForm s.space = s.space)
    (hafter : afterSeparator? written = none) (h : callee.Writes written .relative)
    (hne : written ≠ "") :
    (IsReader written ↔ s.RefersToReader callee) ↔ ¬ s.Misjudges written .relative := by
  have hrefers : s.RefersToReader callee ↔ s.space = "" ∧ IsReader written := by
    rw [refersToReader_iff h hne, resolve, hafter, ← isReader_qualify_iff hformed]
    exact or_iff_left fun hbuiltin => absurd hbuiltin.1 (by decide)
  have hmisjudges : s.Misjudges written .relative ↔ s.space ≠ "" ∧ IsReader written := by
    constructor
    · intro hmis
      cases hmis with
      | relative hspace hreader => exact ⟨hspace, hreader⟩
      | doubled hafter' => simp [hafter] at hafter'
    · exact fun hmis => .relative hmis.1 hmis.2
  rw [hrefers, hmisjudges]
  by_cases hspace : s.space = "" <;> simp [hspace]

/-- A name without a form is told right unless it is an alias of a function. -/
lemma agrees_iff_of_unmarked (hformed : namespaceForm s.space = s.space)
    (hafter : afterSeparator? written = none) (h : callee.Writes written .unmarked)
    (hne : written ≠ "") :
    (IsReader written ↔ s.RefersToReader callee) ↔ ¬ s.Misjudges written .unmarked := by
  have hmisjudges : s.Misjudges written .unmarked ↔ separator ∉ written.toList ∧
      ∃ target, s.imports.get? .function written = some target ∧
        ¬ (IsReader written ↔ IsReader target) := by
    constructor
    · intro hmis
      cases hmis with
      | imported hsegment halias hreader => exact ⟨hsegment, _, halias, hreader⟩
      | doubled hafter' => simp [hafter] at hafter'
    · rintro ⟨hsegment, target, halias, hreader⟩
      exact .imported hsegment halias hreader
  rw [refersToReader_iff h hne, hmisjudges]
  by_cases hsegment : separator ∈ written.toList
  · have hresolve : ¬ IsReader (s.resolve written .unmarked .function) := by
      obtain ⟨⟨first, rest⟩, hsplit⟩ := exists_splitFirst hsegment
      have hqualify : ¬ IsReader (s.qualify written) := by
        rw [isReader_qualify_iff hformed]
        exact fun hnot => hnot.2.separator_notMem hsegment
      rw [resolve, hafter]
      simp only [hsplit, reduceCtorEq, false_and, if_false]
      split
      · exact not_isReader_append _ rest
      · exact hqualify
    have hreader : ¬ IsReader written := fun hreader => hreader.separator_notMem hsegment
    simp [hsegment, hresolve, hreader]
  · have hresolve : s.resolve written .unmarked .function =
        (s.imports.get? .function written).getD (s.qualify written) := by
      rw [resolve, hafter]
      simp [splitFirst_of_notMem hsegment]
    rw [hresolve]
    cases halias : s.imports.get? .function written with
    | none => simp [hsegment, isReader_qualify_iff hformed]
    | some target => simp [hsegment]

/-- A call is told by the text of its name. -/
lemma readsArguments_iff_text {call : Node} (hcallee : call.childNode? 0 = some callee)
    (h : callee.Writes written form) :
    call.readsArguments = true ↔ IsReader (dropLeading written) := by
  have hname : call.calleeName? = some written := Node.calleeName?_eq_some_iff.mpr
    ⟨callee, Node.childNode?_eq_some_iff.mp hcallee, h.kind_eq,
      Node.childText?_eq_some_iff.mp h.text_eq⟩
  rw [Node.readsArguments, hname, Option.any_some, isAmongIgnoringCase_argumentReaderNames_iff]

/-! ### Calls -/

/-- A call that is told to read arguments lets the function around it take any number of them. -/
lemma function?_visit_call (options : Options) (files : SourceFiles) (f : Findings) {call : Node}
    (hkind : call.kind = .call) {k : Fqsen} {g : FunctionLike} (hclosure : s.inClosure = false)
    (hfunction : s.function? = some k) (hg : f.registry.function? k = some g) :
    (visit options files call s f).2.registry.function? k =
      some (if call.readsArguments then g.acceptAny else g) := by
  rw [visit, hkind]
  simp only [visitCall]
  by_cases hreads : call.readsArguments = true
  · rw [if_pos hreads, if_pos hreads]
    simp only [noteArgumentReader, hfunction, hclosure, Bool.false_eq_true, if_false]
    refine (f.registry.function?_modifyFunction k k _).trans ?_
    rw [if_pos rfl, hg, Option.map_some]
  · rw [if_neg hreads, if_neg hreads, check, f.registry_noteIfAny, hg]

/-- A call of a name that is judged by its text. -/
structure JudgesCall (s : Scope) (call callee : Node) (written : String) (form : NameKind) :
    Prop where
  /-- The call is told by the text behind all separators at its start, whatever the form. -/
  told_iff : call.readsArguments = true ↔ IsReader (dropLeading written)
  /-- If it is told to read arguments, and only then, the function around it takes any number of
  them. -/
  visited : ∀ (options : Options) (files : SourceFiles) (f : Findings) (k : Fqsen)
    (g : FunctionLike), s.inClosure = false → s.function? = some k →
      f.registry.function? k = some g →
      (visit options files call s f).2.registry.function? k =
        some (if call.readsArguments then g.acceptAny else g)
  /-- It is told what the name refers to unless this is one of those that are misjudged. -/
  agrees_iff : (call.readsArguments = true ↔ s.RefersToReader callee) ↔ ¬ s.Misjudges written form

/-- **A call is told by the text of its name**, and this is what the name refers to, but for
functions of the namespace, aliases and names behind several separators. -/
theorem judgesCall (hformed : namespaceForm s.space = s.space) {call : Node}
    (hkind : call.kind = .call) (hcallee : call.childNode? 0 = some callee)
    (h : callee.Writes written form) (hne : written ≠ "") :
    s.JudgesCall call callee written form := by
  have htold := readsArguments_iff_text hcallee h
  refine ⟨htold, fun options files f _ _ hclosure hfunction hg =>
    function?_visit_call options files f hkind hclosure hfunction hg, ?_⟩
  rw [htold]
  cases hafter : afterSeparator? written with
  | some full => exact agrees_iff_of_separator hafter h hne
  | none =>
      rw [dropLeading_eq_self (afterSeparator?_eq_none_iff.mp hafter)]
      cases form with
      | fullyQualified => exact agrees_iff_of_full hafter h hne
      | relative => exact agrees_iff_of_relative hformed hafter h hne
      | unmarked => exact agrees_iff_of_unmarked hformed hafter h hne

/-- In a namespace with aliases of functions. -/
def readersScope : Scope :=
  ((ofFile "user.php").moveTo "App").withAliases
    [⟨.function, "func_get_args", "Lib\\func_get_args"⟩, ⟨.function, "count_args", "func_num_args"⟩]

/-- A builtin without an alias is told right in a namespace. -/
theorem judgesCall_readersScope :
    let call := Node.callOf "FUNC_get_arg" [.int 0]
    let callee := Node.nameOf "FUNC_get_arg"
    (namespaceForm readersScope.space = readersScope.space ∧ call.kind = .call ∧
        call.childNode? 0 = some callee ∧ callee.Writes "FUNC_get_arg" .unmarked ∧
        "FUNC_get_arg" ≠ "") ∧
      readersScope.JudgesCall call callee "FUNC_get_arg" .unmarked :=
  ⟨⟨by decide, rfl, rfl, ⟨rfl, rfl, rfl⟩, by decide⟩,
    judgesCall (by decide) rfl rfl ⟨rfl, rfl, rfl⟩ (by decide)⟩

/-- A function of the namespace and one that is imported pass for builtins, and the alias of a
builtin does not. -/
theorem not_agrees :
    ((Node.callOf "namespace\\func_get_args" []).readsArguments = true ∧
        ¬ readersScope.RefersToReader (.nameOf "namespace\\func_get_args")) ∧
      ((Node.callOf "func_get_args" []).readsArguments = true ∧
        ¬ readersScope.RefersToReader (.nameOf "func_get_args")) ∧
      (¬ (Node.callOf "count_args" []).readsArguments = true ∧
        readersScope.RefersToReader (.nameOf "count_args")) := by
  have hrelative : (Node.nameOf "namespace\\func_get_args").Writes "func_get_args" .relative :=
    ⟨rfl, rfl, rfl⟩
  have himported : (Node.nameOf "func_get_args").Writes "func_get_args" .unmarked :=
    ⟨rfl, rfl, rfl⟩
  have halias : (Node.nameOf "count_args").Writes "count_args" .unmarked := ⟨rfl, rfl, rfl⟩
  rw [refersToReader_iff hrelative (by decide), refersToReader_iff himported (by decide),
    refersToReader_iff halias (by decide)]
  decide +kernel

end Scope

end PhpIndex

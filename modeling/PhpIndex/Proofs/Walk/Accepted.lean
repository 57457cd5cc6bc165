import Mathlib.Tactic.Common
import PhpIndex.Proofs.Walk.Effects

/-!
The visits that a registry accepts.

* `Accepted`: a visit that does some operations, all of which succeed, without a refusal, and goes
  on in a scope whose declarations are registered;
* `Accepted.quiet`, `Accepted.report`, `Accepted.check`, `Accepted.of_count`, `Accepted.of_edit`,
  `Accepted.of_addFunction`: the forms of such visits;
* `accepted_visit`: in a scope whose declarations are registered every visit is of this kind.
-/

namespace PhpIndex

/-! ### Accepted visits -/

/-- Whether a walk that goes on below a node stays among the declarations around it. -/
def Flow.StaysIn (s : Scope) : Flow → Prop
  | descend s' => s'.class? = s.class? ∧ s'.function? = s.function?
  | skip _ => True

/-- A visit that does some operations within its scope, all of which succeed, without a refusal,
and that goes on in a scope whose declarations are registered and are those around the node or
new. -/
structure Accepted (s : Scope) (f : Findings) (ops : List Operation) (out : Flow × Findings) :
    Prop where
  within : ∀ op ∈ ops, op.Within s
  succeed : AllSucceed ops f.registry
  registry_eq : out.2.registry = performAll ops f.registry
  refusals_eq : out.2.refusals = f.refusals
  grounded : ∀ s', out.1 = .descend s' → s'.Grounded out.2.registry
  encloses : ∀ s', out.1 = .descend s' → s.Encloses f.registry s'

namespace Accepted

variable {s : Scope} {f f' : Findings} {ops : List Operation} {flow : Flow}

lemma frame {out : Flow × Findings} (h : Accepted s f ops out) :
    s.Frame f.registry out.2.registry :=
  h.registry_eq ▸ Scope.frame_performAll h.within h.succeed

/-- A visit that goes on among the same declarations. -/
lemma of_around (hs : s.Grounded f.registry) (within : ∀ op ∈ ops, op.Within s)
    (succeed : AllSucceed ops f.registry) (registry_eq : f'.registry = performAll ops f.registry)
    (refusals_eq : f'.refusals = f.refusals) (hflow : flow.StaysIn s) :
    Accepted s f ops (flow, f') := by
  refine ⟨within, succeed, registry_eq, refusals_eq, ?_, ?_⟩
  · rintro s' rfl
    exact hs.mono hflow.1 hflow.2 (registry_eq ▸ Scope.frame_performAll within succeed)
  · rintro s' rfl
    exact Scope.encloses_of_eq hflow.1 hflow.2

/-- A visit that does nothing to the registry. -/
lemma quiet (hs : s.Grounded f.registry) (registry_eq : f'.registry = f.registry)
    (refusals_eq : f'.refusals = f.refusals) (hflow : flow.StaysIn s) :
    Accepted s f [] (flow, f') :=
  of_around hs (fun _ h => nomatch h) (allSucceed_nil _) registry_eq refusals_eq hflow

/-- A visit that only reports what is wrong with the node. -/
lemma report (hs : s.Grounded f.registry) (line : Nat) {issue : Issue}
    (h : issue.isRefusal = false) : Accepted s f [] (.skip s, f.note s line issue) :=
  quiet hs rfl (f.refusals_note s line h) trivial

/-- A visit that only checks the node. -/
lemma check (options : Options) (files : SourceFiles) {node : Node}
    (hs : s.Grounded f.registry) : Accepted s f [] (.descend s, s.check options files node f) :=
  quiet hs (registry_check options files node s f) (refusals_check options files node s f)
    ⟨rfl, rfl⟩

/-- A visit that counts the node. -/
lemma of_count (hs : s.Grounded f.registry) (kind : Counted) (hflow : flow.StaysIn s) :
    Accepted s f [.count kind] (flow, f.count kind) :=
  of_around hs (List.forall_mem_singleton.mpr trivial) ⟨trivial, trivial⟩ rfl rfl hflow

/-- A visit that changes the class around the node. -/
lemma of_edit (hs : s.Grounded f.registry) {owner : Fqsen} (hclass : s.class? = some owner)
    {edits : List ClassEdit}
    (hregistry : f'.registry = performAll (edits.map (.editClass owner)) f.registry)
    (hrefusals : f'.refusals = f.refusals) (hflow : flow.StaysIn s) :
    Accepted s f (s.edit edits) (flow, f') := by
  refine of_around hs (Scope.within_edit _) (Scope.allSucceed_edit hs _) ?_ hrefusals hflow
  rw [Scope.edit_eq hclass]
  exact hregistry

/-- The operations of a new function or method within a scope. -/
lemma of_addFunction (hs : s.Grounded f.registry) {g : FunctionLike}
    (hfree : f.registry.hasFunction g.fqsen = false)
    (howner : ∀ owner, g.fqsen.owner? = some owner → s.class? = some owner) (kind : Counted)
    (edits : List ClassEdit) (range : LineRange) {f' : Findings} {r : Registry}
    (hadd : f.registry.addFunction g = .ok r)
    (hregistry : f'.registry = performAll (s.edit edits) (r.count kind))
    (hrefusals : f'.refusals = f.refusals) :
    Accepted s f ([.addFunction g, .count kind] ++ s.edit edits)
      (.descend ((s.enterFunction g.fqsen).withRange range), f') := by
  have hops : ∀ op ∈ [Operation.addFunction g, .count kind], op.Within s := by
    simpa [Operation.Within] using howner
  have hdone : AllSucceed [.addFunction g, .count kind] f.registry :=
    ⟨⟨_, hadd⟩, trivial, trivial⟩
  have within : ∀ op ∈ [Operation.addFunction g, .count kind] ++ s.edit edits, op.Within s :=
    List.forall_mem_append.mpr ⟨hops, Scope.within_edit edits⟩
  have hs' := hs.mono rfl rfl (Scope.frame_performAll hops hdone)
  have succeed : AllSucceed ([.addFunction g, .count kind] ++ s.edit edits) f.registry :=
    allSucceed_append.mpr ⟨hdone, Scope.allSucceed_edit hs' edits⟩
  have registry_eq : f'.registry =
      performAll ([.addFunction g, .count kind] ++ s.edit edits) f.registry := by
    rw [hregistry, performAll_append, performAll_cons, Operation.perform_addFunction hadd]
    rfl
  have hfunction : f'.registry.hasFunction g.fqsen = true := by
    rw [registry_eq, hasFunction_performAll succeed]
    exact .inr List.mem_cons_self
  refine ⟨within, succeed, registry_eq, hrefusals, ?_, ?_⟩
  · rintro s' ⟨⟩
    exact hs.enterFunction range (registry_eq ▸ Scope.frame_performAll within succeed) hfunction
  · rintro s' ⟨⟩
    exact Scope.encloses_enterFunction range hfree

end Accepted

section

variable (options : Options) (files : SourceFiles) {node : Node} {s : Scope} {f : Findings}
variable (hs : s.Grounded f.registry)

include hs

/-! ### Visits of declarations -/

lemma accepted_declareClass (hkind : node.kind = .classDecl) :
    Accepted s f (s.operations options f.registry node)
      (enterOrSkip node s f (declareClass options node s f)) := by
  simp only [Scope.operations, hkind, declareClass_eq]
  cases hnew : s.newClass? options f.registry node with
  | none => exact .report hs _ rfl
  | some c =>
      obtain ⟨hfree, name, helement⟩ := Scope.newClass?_spec hnew
      have hadd := Registry.addClass_eq_ok_iff.mpr ⟨hfree.free, rfl⟩
      obtain ⟨f', hf', hregistry, hrefusals⟩ := Findings.addClass_of_ok hadd
      have succeed : AllSucceed [.addClass c, .count .classes] f.registry :=
        ⟨⟨_, hadd⟩, trivial, trivial⟩
      have registry_eq : f'.registry = performAll [.addClass c, .count .classes] f.registry := by
        rw [hregistry, performAll_cons, Operation.perform_addClass hadd]
        rfl
      have hclass : f'.registry.hasClass c.fqsen = true := by
        rw [registry_eq, hasClass_performAll succeed]
        exact .inr List.mem_cons_self
      simp only [hf']
      refine ⟨by simp [Operation.Within], succeed, registry_eq, hrefusals, ?_, ?_⟩
      · rintro s' ⟨⟩
        exact Scope.grounded_enterClass node.range helement hclass
      · rintro s' ⟨⟩
        exact Scope.encloses_enterClass node.range hfree.free

lemma accepted_declareFunction (hkind : node.kind = .functionDecl) :
    Accepted s f (s.operations options f.registry node)
      (enterOrSkip node s f (declareFunction options node s f)) := by
  simp only [Scope.operations, hkind, declareFunction_eq]
  cases hnew : s.newFunction? options f.registry node with
  | none => exact .report hs _ rfl
  | some g =>
      obtain ⟨hfree, howner⟩ := Scope.newFunction?_spec hnew
      have hadd := Registry.addFunction_eq_ok_iff.mpr ⟨hfree.free, by simp [howner], rfl⟩
      obtain ⟨f', hf', hregistry, hrefusals⟩ := Findings.addFunction_of_ok hadd
      have haccepted := Accepted.of_addFunction hs hfree.free (by simp [howner]) .functions []
        node.range hadd (by rw [Scope.edit_nil, hregistry, performAll_nil]) hrefusals
      rw [Scope.edit_nil, List.append_nil] at haccepted
      simp only [hf']
      exact haccepted

lemma accepted_declareMethod (hkind : node.kind = .methodDecl) :
    Accepted s f (s.operations options f.registry node)
      (enterOrSkip node s f (declareMethod options node s f)) := by
  simp only [Scope.operations, hkind]
  cases hnew : s.newMethod? options f.registry node with
  | none =>
      obtain ⟨issue, hissue, hdeclare⟩ := declareMethod_of_none hnew
      rw [hdeclare]
      exact .report hs _ hissue
  | some m =>
      obtain ⟨hfree, owner, hclass, howner⟩ := Scope.newMethod?_spec hs hnew
      have hadd := Registry.addFunction_eq_ok_iff.mpr ⟨hfree.free, by
        simp [howner, hs.class_registered owner hclass], rfl⟩
      obtain ⟨f', hf', hregistry, hrefusals⟩ := Findings.addMethod_of_ok hadd
      rw [declareMethod_of_some hnew howner, hf']
      refine .of_addFunction hs hfree.free ?_ .methods _ node.range hadd ?_ hrefusals
      · intro k hk
        exact hclass.trans (howner.symm.trans hk)
      · rw [Scope.edit_eq hclass, performAll_editClass, ← hregistry]
        simp only [foldl_methodEdits]
        rfl

/-! ### Visits of members -/

lemma accepted_useTraits (hkind : node.kind = .traitUse) :
    Accepted s f (s.operations options f.registry node)
      (enterOrSkip node s f (useTraits node s f)) := by
  simp only [Scope.operations, hkind]
  rw [useTraits]
  cases hclass : s.class? with
  | none => exact .report hs _ rfl
  | some owner =>
      cases node.childOfKind? 0 .nameList with
      | none => exact .report hs _ rfl
      | some names =>
          simp only [hs.class_registered owner hclass, if_true]
          refine .of_around hs ?_ ?_ ?_ rfl ⟨rfl, rfl⟩
          · refine List.forall_mem_append.mpr ⟨Scope.within_edit _, ?_⟩
            simp [Operation.Within]
          · exact allSucceed_append.mpr ⟨Scope.allSucceed_edit hs _, trivial, trivial⟩
          · rw [performAll_append, Scope.edit_eq hclass, performAll_editClass]
            simp only [List.foldl_map]
            rfl

lemma accepted_declareProperties (hkind : node.kind = .propertyGroup) :
    Accepted s f (s.operations options f.registry node)
      (.skip s, declareProperties options node s f) := by
  simp only [Scope.operations, hkind]
  rw [declareProperties]
  cases hclass : s.class? with
  | none =>
      rw [Scope.edit_eq_nil hclass]
      exact .report hs _ rfl
  | some owner =>
      obtain ⟨hregistry, hrefusals⟩ :=
        declareElements_spec node s options (hs.class_registered owner hclass)
      exact .of_edit hs hclass hregistry hrefusals trivial

lemma accepted_declareConstants (hkind : node.kind = .constantGroup) :
    Accepted s f (s.operations options f.registry node)
      (.skip s, declareConstants node s f) := by
  simp only [Scope.operations, hkind]
  rw [declareConstants]
  cases hclass : s.class? with
  | none =>
      rw [Scope.edit_eq_nil hclass]
      exact .report hs _ rfl
  | some owner =>
      obtain ⟨hregistry, hrefusals⟩ :=
        declareConstantElements_spec node s (hs.class_registered owner hclass)
      exact .of_edit hs hclass hregistry hrefusals trivial

/-! ### Visits of calls -/

lemma accepted_visitCall (hkind : node.kind = .call) :
    Accepted s f (s.operations options f.registry node)
      (.descend s, visitCall options files node s f) := by
  simp only [Scope.operations, hkind]
  rw [visitCall]
  by_cases hreads : node.readsArguments
  · rw [if_pos hreads, noteArgumentReader, hreads]
    cases hfunction : s.function? with
    | none =>
        simp only [Option.toList_none, List.map_nil, ite_self]
        exact .quiet hs rfl rfl ⟨rfl, rfl⟩
    | some name =>
        cases hclosure : s.inClosure with
        | true => exact .quiet hs rfl rfl ⟨rfl, rfl⟩
        | false =>
            have succeed : AllSucceed [.acceptAny name] f.registry :=
              ⟨hs.function_registered name hfunction, trivial⟩
            refine .of_around hs ?_ succeed rfl rfl ⟨rfl, rfl⟩
            exact List.forall_mem_singleton.mpr hfunction
  · rw [if_neg hreads]
    simp only [hreads, Bool.false_and, Bool.false_eq_true, if_false]
    exact .check options files hs

lemma accepted_visitStaticCall (hkind : node.kind = .staticCall) :
    Accepted s f (s.operations options f.registry node)
      (.descend s, visitStaticCall options files node s f) := by
  simp only [Scope.operations, hkind]
  rw [visitStaticCall]
  by_cases hcalls : node.callsParentConstructor
  · rw [if_pos hcalls, if_pos hcalls, noteParentConstructorCall]
    cases hclass : s.class? with
    | none =>
        rw [Scope.edit_eq_nil hclass]
        exact .check options files hs
    | some owner =>
        refine .of_edit hs hclass ?_ ?_ ⟨rfl, rfl⟩
        · rw [registry_check]
          rfl
        · rw [refusals_check]
          rfl
  · rw [if_neg hcalls, if_neg hcalls]
    exact .check options files hs

/-! ### All visits -/

lemma accepted_importing {imported : Except Issue Scope} (himported : s.Importing imported) :
    Accepted s f [] (enterOrSkip node s f (imported.map (·, f))) := by
  cases imported with
  | error issue => exact .report hs _ himported
  | ok s' =>
      exact .quiet hs rfl rfl himported

/-- **Visits are accepted**: in a scope whose declarations are registered the operations at a node
succeed and are all that is done to the registry, and the scope below the node is of the same
kind. -/
theorem accepted_visit (node : Node) :
    Accepted s f (s.operations options f.registry node) (visit options files node s f) := by
  rw [visit]
  split
  all_goals rename_i hkind
  · simp only [Scope.operations, hkind]
    exact .quiet hs rfl rfl ⟨s.class?_enterNamespace _, s.function?_enterNamespace _⟩
  · simp only [Scope.operations, hkind]
    exact accepted_importing hs (s.importing_afterUse node)
  · simp only [Scope.operations, hkind]
    have himported := s.importing_afterGroupUse node
    cases himport : s.afterGroupUse node with
    | ok s' => exact .quiet hs rfl rfl trivial
    | error issue =>
        rw [himport] at himported
        exact .report hs _ himported
  · exact accepted_declareClass options hs hkind
  · exact accepted_useTraits options hs hkind
  · exact accepted_declareMethod options hs hkind
  · exact accepted_declareFunction options hs hkind
  · exact accepted_declareProperties options hs hkind
  · exact accepted_declareConstants options hs hkind
  · simp only [Scope.operations, hkind]
    exact .of_count hs .closures ⟨rfl, rfl⟩
  · simp only [Scope.operations, hkind]
    exact .of_count hs .conditionals ⟨rfl, rfl⟩
  · exact accepted_visitCall options files hs hkind
  · exact accepted_visitStaticCall options files hs hkind
  -- expressions that are checked and nothing else
  iterate 5
    · simp only [Scope.operations, hkind]
      exact .check options files hs
  · -- nodes of all other kinds only lead to their subtrees
    rw [Scope.operations]
    split
    all_goals first
      | contradiction
      | exact .quiet hs rfl rfl ⟨rfl, rfl⟩

end

end PhpIndex

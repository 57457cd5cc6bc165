import PhpIndex.Proofs.SourceUnit.Members

/-!
Classes and the calls of their parents' constructors.

* `Node.CallsParentConstructor`, `Node.DeclaresConstructor`: the nodes that tell something about
  such a call;
* `Moment.noteParentCall_mem_edits`, `requireParentCall_mem_edits`: they are the only ones that
  do, each for the class around it; `mem_edits_iff_methodEdits`: what the name of a method tells is
  told where the method is declared;
* `SourceUnit.constructorState_index`: what is known of a class in the end is what the changes at
  the nodes inside it tell one after the other;
* `ClassLike.Knows`, `SourceUnit.constructorsKnown`: **a call is known of exactly if there is one
  inside the class**, and missing exactly if there is none, but a constructor.
-/

namespace PhpIndex

open Text

/-! ### Nodes that tell about constructors -/

namespace Node

/-- A call of the constructor of the parent. Both names may be written with letters of any case. -/
def CallsParentConstructor (node : Node) : Prop :=
  node.kind = .staticCall ∧
    (∃ name, node.calleeName? = some name ∧ asciiLower name = "parent") ∧
    ∃ member, node.childText? 1 = some member ∧ asciiLower member = "__construct"

/-- The declaration of a constructor. -/
def DeclaresConstructor (node : Node) : Prop :=
  node.kind = .methodDecl ∧
    ∃ name, node.childName? 0 = some name ∧ asciiLower name = "__construct"

end Node

lemma asciiLower_constructorName : asciiLower constructorName = "__construct" := by decide

lemma Node.callsParentConstructor_iff {node : Node} (hkind : node.kind = .staticCall) :
    node.callsParentConstructor = true ↔ node.CallsParentConstructor := by
  have hparent : asciiLower "parent" = "parent" := by decide
  rw [callsParentConstructor, CallsParentConstructor, Bool.and_eq_true, Option.any_eq_true,
    Option.any_eq_true]
  simp only [eqIgnoreAsciiCase_iff, asciiLower_constructorName, hparent, hkind, true_and]

/-- A method that is declared is noted as no call, and as a constructor if it has the name of
one. -/
lemma noteParentCall_notMem_methodEdits (name : String) :
    .noteParentCall ∉ methodEdits name := by
  rw [methodEdits]
  split
  · simp
  · split <;> simp

lemma requireParentCall_mem_methodEdits {name : String} :
    .requireParentCall ∈ methodEdits name ↔ asciiLower name = "__construct" := by
  rw [methodEdits, ← asciiLower_constructorName, ← eqIgnoreAsciiCase_iff]
  split
  · simp [*]
  · split <;> simp [*]

section

variable {options : Options} {files : SourceFiles}

namespace Moment

variable {m : Moment Findings}

/-- A call of the parent's constructor is noted, and nothing else is noted as one. -/
lemma noteParentCall_mem_edits :
    .noteParentCall ∈ m.edits options ↔ m.node.CallsParentConstructor := by
  have hnotes : .noteParentCall ∈ m.edits options ↔ .noteParentCall ∈ m.notes options := by
    simp [edits]
  rw [hnotes, notes]
  split
  · rename_i hkind
    have hnot : ¬ m.node.CallsParentConstructor := by
      rintro ⟨hcall, -⟩
      simp [hkind] at hcall
    refine iff_of_false ?_ hnot
    cases m.scope.newMethod? options m.state.registry m.node with
    | none => simp
    | some f => exact noteParentCall_notMem_methodEdits f.name
  · rename_i hkind
    rw [← Node.callsParentConstructor_iff hkind]
    split <;> simp [*]
  · rename_i hkind
    exact iff_of_false List.not_mem_nil fun h => hkind h.1

/-- In a class the name of a method tells something where the method is declared. -/
lemma mem_edits_iff_methodEdits {k : Fqsen} (hclass : m.scope.class? = some k) {e : ClassEdit}
    (he : e = .requireParentCall ∨ e = .markCallable) :
    e ∈ m.edits options ↔ m.node.kind = .methodDecl ∧
      ∃ name, m.node.childName? 0 = some name ∧ e ∈ methodEdits name := by
  have hnotes : e ∈ m.edits options ↔ e ∈ m.notes options := by
    rcases he with rfl | rfl <;> simp [edits]
  rw [hnotes, notes]
  split
  · rename_i hkind
    rw [Scope.newMethod?, hclass, Option.bind_some]
    cases m.node.childName? 0 with
    | none => simp
    | some name => simp [hkind, Scope.methodFrom]
  · rename_i hkind
    rcases he with rfl | rfl <;> split <;> simp [hkind]
  · rename_i hkind _
    exact iff_of_false List.not_mem_nil fun h => hkind h.1

/-- In a class only the declaration of a constructor asks for a call. -/
lemma requireParentCall_mem_edits {k : Fqsen} (hclass : m.scope.class? = some k) :
    .requireParentCall ∈ m.edits options ↔ m.node.DeclaresConstructor := by
  rw [mem_edits_iff_methodEdits hclass (.inl rfl)]
  simp only [requireParentCall_mem_methodEdits]
  rfl

/-- Of a class that is new nothing is known. -/
lemma constructorState_newClass? {c : ClassLike} (h : m.newClass? options = some c) :
    c.constructorState = .notRequired := by
  rw [newClass?] at h
  split at h
  · obtain ⟨name, -, rfl⟩ := Option.map_eq_some_iff.mp h
    rfl
  · cases h

end Moment

/-! ### Units -/

/-- What is known of a class: of a call of its parent's constructor if there is one, and else
whether it declares a constructor. -/
structure ClassLike.Knows (d : ClassLike) (calls declares : Prop) : Prop where
  called_iff : d.constructorState = .called ↔ calls
  notCalled_iff : d.constructorState = .notCalled ↔ ¬ calls ∧ declares
  notRequired_iff : d.constructorState = .notRequired ↔ ¬ calls ∧ ¬ declares

/-- There are only three states. -/
lemma ClassLike.knows_of_iff {d : ClassLike} {calls declares : Prop}
    (hcalled : d.constructorState = .called ↔ calls)
    (hnotRequired : d.constructorState = .notRequired ↔ ¬ calls ∧ ¬ declares) :
    d.Knows calls declares := by
  refine ⟨hcalled, ?_, hnotRequired⟩
  cases hstate : d.constructorState <;>
    simp only [hstate, reduceCtorEq] at hcalled hnotRequired ⊢ <;> tauto

namespace SourceUnit

variable (u : SourceUnit) {r : Registry} {m : Moment Findings} {c : ClassLike}

/-- What is known of a class in the end is what the changes inside it tell one after the other. -/
lemma constructorState_index (hm : m ∈ u.moments options files r)
    (hc : m.newClass? options = some c) {d : ClassLike}
    (hd : (u.index options files r).2.class? c.fqsen = some d) :
    d.constructorState = ((u.inside options files r c.fqsen).flatMap (·.edits options)).foldl
      ConstructorState.after .notRequired := by
  obtain ⟨before, after, h⟩ := List.append_of_mem hm
  rw [u.class?_index_eq h hc, Option.some_inj] at hd
  rw [← hd, constructorState_foldl_on, Moment.constructorState_newClass? hc,
    filterMap_edit?_flatMap_operations, u.inside_eq_of_before h hc]

/-- The nodes inside a class are those to which it is the nearest. -/
lemma exists_mem_inside_iff (hm : m ∈ u.moments options files r)
    (hc : m.newClass? options = some c) (p : Node → Prop) :
    (∃ n ∈ u.inside options files r c.fqsen, p n.node) ↔
      ∃ ℓ ∈ u.lineages options files r, p ℓ.node ∧ nearest? ℓ.around [.classDecl] = some m := by
  constructor
  · rintro ⟨n, hn, hp⟩
    obtain ⟨ℓ, hℓ, rfl⟩ := List.mem_map.mp hn
    obtain ⟨hℓ, hclass⟩ := List.mem_filter.mp hℓ
    exact ⟨ℓ, hℓ, hp, (u.class?_eq_iff_nearest? hm hc hℓ).mp (of_decide_eq_true hclass)⟩
  · rintro ⟨ℓ, hℓ, hp, hnearest⟩
    have hclass := (u.class?_eq_iff_nearest? hm hc hℓ).mpr hnearest
    exact ⟨ℓ.toMoment, List.mem_map_of_mem (List.mem_filter.mpr ⟨hℓ, decide_eq_true hclass⟩), hp⟩

/-- A call is known of if there is one inside the class, and else a constructor is. -/
lemma knows_index (hm : m ∈ u.moments options files r) (hc : m.newClass? options = some c)
    {d : ClassLike} (hd : (u.index options files r).2.class? c.fqsen = some d) :
    d.Knows
      (∃ ℓ ∈ u.lineages options files r,
        ℓ.node.CallsParentConstructor ∧ nearest? ℓ.around [.classDecl] = some m)
      (∃ ℓ ∈ u.lineages options files r,
        ℓ.node.DeclaresConstructor ∧ nearest? ℓ.around [.classDecl] = some m) := by
  rw [← u.exists_mem_inside_iff hm hc, ← u.exists_mem_inside_iff hm hc]
  have hcalls : .noteParentCall ∈ (u.inside options files r c.fqsen).flatMap (·.edits options) ↔
      ∃ n ∈ u.inside options files r c.fqsen, n.node.CallsParentConstructor := by
    simp only [List.mem_flatMap, Moment.noteParentCall_mem_edits]
  have hdeclares :
      .requireParentCall ∈ (u.inside options files r c.fqsen).flatMap (·.edits options) ↔
        ∃ n ∈ u.inside options files r c.fqsen, n.node.DeclaresConstructor := by
    rw [List.mem_flatMap]
    refine exists_congr fun n => and_congr_right fun hn => ?_
    rw [inside_eq] at hn
    exact Moment.requireParentCall_mem_edits (of_decide_eq_true (List.mem_filter.mp hn).2)
  have hstate := u.constructorState_index hm hc hd
  refine ClassLike.knows_of_iff ?_ ?_
  · rw [hstate, ConstructorState.foldl_after_eq_called_iff, hcalls]
    simp
  · rw [hstate, ConstructorState.foldl_after_eq_notRequired_iff, hcalls, hdeclares]
    simp

variable (options files r)

/-- The classes of a unit with what is known of the calls of their parents' constructors. -/
structure ConstructorsKnown : Prop where
  /-- The nodes that are visited, each with the nodes around it. -/
  visited : (u.lineages options files r).map Lineage.toMoment = u.moments options files r
  /-- What is registered is new, and in the end a call is known of if there is one to which this
  class is the nearest around it, and else whether there is a constructor of this kind. -/
  known : ∀ m ∈ u.moments options files r, ∀ c, m.newClass? options = some c →
    r.hasClass c.fqsen = false ∧
      ∃ d, (u.index options files r).2.class? c.fqsen = some d ∧
        d.Knows
          (∃ ℓ ∈ u.lineages options files r,
            ℓ.node.CallsParentConstructor ∧ nearest? ℓ.around [.classDecl] = some m)
          (∃ ℓ ∈ u.lineages options files r,
            ℓ.node.DeclaresConstructor ∧ nearest? ℓ.around [.classDecl] = some m)
  /-- Nothing else is new. -/
  declared : ∀ k, (u.index options files r).2.hasClass k = true → r.hasClass k = true ∨
    ∃ m ∈ u.moments options files r, ∃ c, m.newClass? options = some c ∧ c.fqsen = k

/-- **A call of the parent's constructor is known of exactly if there is one inside the class**,
wherever it stands in it but not in a class nested there, and missing exactly if there is none but
a constructor. The order of the nodes does not matter, nor how many of them there are. -/
theorem constructorsKnown : u.ConstructorsKnown options files r := by
  refine ⟨u.moments_lineages options files r, fun m hm c hc => ?_, fun k hk => ?_⟩
  · obtain ⟨hnew, d, hd, -⟩ := u.class?_index hm hc
    exact ⟨hnew, d, hd, u.knows_index hm hc hd⟩
  · exact (u.hasClass_index.mp hk).imp_right mem_declaredClasses.mp

end SourceUnit

end

end PhpIndex

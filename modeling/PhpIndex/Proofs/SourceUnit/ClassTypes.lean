import PhpIndex.Proofs.SourceUnit.Constructors

/-!
The types of classes.

* `Node.DeclaresInvoke`: the declaration of the method that is run when an object is called;
* `ClassLike.NamesItself`: a class whose type is its name, and `callable` besides if its objects can
  be called;
* `SourceUnit.namesItself_index`: so it is in the end with the classes of a unit;
* `class?_indexAll`: and then whatever units follow;
* `SourceUnit.CallablesMarked`, `SourceUnit.callablesMarked`: **the objects of a class can be called
  exactly if the method for it is declared inside the class**.
-/

namespace PhpIndex

open Text

/-! ### Methods that are run by calls -/

/-- The declaration of the method that is run when an object is called, with letters of any case in
its name. -/
def Node.DeclaresInvoke (node : Node) : Prop :=
  node.kind = .methodDecl ∧ ∃ name, node.childName? 0 = some name ∧ asciiLower name = "__invoke"

lemma asciiLower_invokeName : asciiLower invokeName = "__invoke" := by decide

lemma markCallable_mem_methodEdits {name : String} :
    .markCallable ∈ methodEdits name ↔ asciiLower name = "__invoke" := by
  rw [methodEdits, ← asciiLower_invokeName, ← eqIgnoreAsciiCase_iff]
  split
  next h =>
    have hne : ¬ eqIgnoreAsciiCase name invokeName = true := by
      rw [eqIgnoreAsciiCase_iff] at h ⊢
      rw [h]
      decide
    simp [hne]
  · split <;> simp [*]

section

variable {options : Options} {files : SourceFiles}

namespace Moment

variable {m : Moment Findings} {c : ClassLike}

/-- In a class only the declaration of such a method makes its objects callable. -/
lemma markCallable_mem_edits {k : Fqsen} (hclass : m.scope.class? = some k) :
    .markCallable ∈ m.edits options ↔ m.node.DeclaresInvoke := by
  rw [mem_edits_iff_methodEdits hclass (.inr rfl)]
  simp only [markCallable_mem_methodEdits]
  rfl

/-- The type of a class that is new is its name. -/
lemma type_newClass? (h : m.newClass? options = some c) : c.type = .ofName c.name := by
  rw [newClass?] at h
  split at h
  · obtain ⟨name, -, rfl⟩ := Option.map_eq_some_iff.mp h
    simp only [Scope.classFrom, ClassLike.ofName]
  · cases h

end Moment

/-! ### The type of a class -/

/-- A class whose type is its own name, and `callable` besides if its objects can be called. -/
structure ClassLike.NamesItself (d : ClassLike) (callable : Prop) : Prop where
  marked : callable → d.type = (UnionType.ofName d.name).add "callable"
  unmarked : ¬ callable → d.type = UnionType.ofName d.name

/-- The units that follow change no class that is registered. -/
lemma class?_indexAll (us : List SourceUnit) {r : Registry} {k : Fqsen} {d : ClassLike}
    (h : r.class? k = some d) : (indexAll options files us r).2.class? k = some d := by
  induction us generalizing r with
  | nil => exact h
  | cons u us ih => exact ih ((u.frame_index options files r).class_kept k d nofun h)

namespace SourceUnit

variable (u : SourceUnit) {r : Registry} {m : Moment Findings} {c : ClassLike}

/-- The name of a class stays what its node says. -/
lemma name_index (hm : m ∈ u.moments options files r) (hc : m.newClass? options = some c)
    {d : ClassLike} (hd : (u.index options files r).2.class? c.fqsen = some d) :
    d.name = c.name ∧ declaredClassName? m.node = some d.name := by
  obtain ⟨-, d', hd', houtline⟩ := u.class?_index hm hc
  obtain rfl : d = d' := Option.some.inj (hd.symm.trans hd')
  have hname : d.outline.name = c.outline.name := congrArg ClassLike.name houtline
  exact ⟨hname, (Moment.describes_of_outline_eq hc houtline).name_eq⟩

/-- In the end the type of a class is its name, and `callable` besides if one of the nodes inside it
declares the method for it. -/
lemma namesItself_index (hm : m ∈ u.moments options files r) (hc : m.newClass? options = some c)
    {d : ClassLike} (hd : (u.index options files r).2.class? c.fqsen = some d) :
    d.NamesItself (∃ ℓ ∈ u.lineages options files r,
      ℓ.node.DeclaresInvoke ∧ nearest? ℓ.around [.classDecl] = some m) := by
  rw [← u.exists_mem_inside_iff hm hc]
  have hmarks : .markCallable ∈ (u.inside options files r c.fqsen).flatMap (·.edits options) ↔
      ∃ n ∈ u.inside options files r c.fqsen, n.node.DeclaresInvoke := by
    rw [List.mem_flatMap]
    refine exists_congr fun n => and_congr_right fun hn => ?_
    rw [inside_eq] at hn
    exact Moment.markCallable_mem_edits (of_decide_eq_true (List.mem_filter.mp hn).2)
  rw [← hmarks]
  have htype : d.type = (((u.inside options files r c.fqsen).flatMap (·.edits options)).filterMap
      ClassEdit.typeName?).foldl UnionType.add (.ofName d.name) := by
    rw [(u.name_index hm hc hd).1, ← Moment.type_newClass? hc]
    obtain ⟨before, after, h⟩ := List.append_of_mem hm
    rw [u.class?_index_eq h hc, Option.some_inj] at hd
    rw [← hd, type_foldl_on, filterMap_edit?_flatMap_operations, u.inside_eq_of_before h hc]
  obtain ⟨hmarked, hunmarked⟩ := foldl_add_typeName? (.ofName d.name)
    ((u.inside options files r c.fqsen).flatMap (·.edits options))
  exact ⟨fun h => htype.trans (hmarked h), fun h => htype.trans (hunmarked h)⟩

variable (options files r)

/-- The classes of a unit and the methods that make their objects callable. -/
structure CallablesMarked : Prop where
  /-- The nodes that are visited, each with the nodes around it. -/
  visited : (u.lineages options files r).map Lineage.toMoment = u.moments options files r
  /-- What is registered is new, has the name that its node says and in the end the type of this
  name, with `callable` if there is a method for it to which this class is the nearest around it. -/
  typed : ∀ m ∈ u.moments options files r, ∀ c, m.newClass? options = some c →
    r.hasClass c.fqsen = false ∧
      ∃ d, (u.index options files r).2.class? c.fqsen = some d ∧
        declaredClassName? m.node = some d.name ∧
        d.NamesItself (∃ ℓ ∈ u.lineages options files r,
          ℓ.node.DeclaresInvoke ∧ nearest? ℓ.around [.classDecl] = some m)
  /-- Nothing else is new. -/
  declared : ∀ k, (u.index options files r).2.hasClass k = true → r.hasClass k = true ∨
    ∃ m ∈ u.moments options files r, ∃ c, m.newClass? options = some c ∧ c.fqsen = k
  /-- No unit that follows changes it, whatever classes of the same names it declares. -/
  kept : ∀ us k d, (u.index options files r).2.class? k = some d →
    (indexAll options files us (u.index options files r).2).2.class? k = some d

/-- **The objects of a class can be called exactly if the method for it is declared inside the
class**, and not in a class nested there or beside it, in another declaration of the same name or
outside all classes. Apart from that its type is its name. -/
theorem callablesMarked : u.CallablesMarked options files r where
  visited := u.moments_lineages options files r
  typed m hm c hc := by
    obtain ⟨hnew, d, hd, -⟩ := u.class?_index hm hc
    exact ⟨hnew, d, hd, (u.name_index hm hc hd).2, u.namesItself_index hm hc hd⟩
  declared k hk := (u.hasClass_index.mp hk).imp_right mem_declaredClasses.mp
  kept us _ _ h := class?_indexAll us h

end SourceUnit

end

end PhpIndex

import PhpIndex.Proofs.SourceUnit.Numbering
import PhpIndex.Proofs.Walk.Response

/-!
What units tell of themselves.

* `Moment.reports`, `Course.answers`: the problems that are met and the declarations that are
  counted at one moment after the other;
* `SourceUnit.answers`: so it is in a unit;
* `outcomesOfAll`, `report_indexAll`: what each of several units tells, and the report of a run as
  what they tell one after the other.
-/

namespace PhpIndex

section

variable (options : Options) (files : SourceFiles)

/-! ### The answers of a unit -/

/-- The problems that are met at a moment. -/
def Moment.reports (m : Moment Findings) : List Problem := m.scope.reports options files m.node

variable {options files} in
/-- The problems at the moments of a course follow those before it, and what is done at them is all
that is counted. -/
lemma Course.answers {ms : List (Moment Findings)} {f f' : Findings}
    (h : Course (visit options files) id f ms f')
    (hs : ∀ m ∈ ms, m.scope.Grounded m.state.registry) :
    f'.problems = f.problems ++ ms.flatMap (·.reports options files) ∧
      f'.registered = f.registered.noteAll (ms.flatMap (·.operations options)) := by
  induction ms generalizing f with
  | nil =>
      obtain rfl : f = f' := h
      exact ⟨(List.append_nil _).symm, rfl⟩
  | cons m ms ih =>
      obtain ⟨hm, hms⟩ := List.forall_mem_cons.mp hs
      obtain ⟨rfl, hrest⟩ := h
      have hanswer := answered_visit options files hm m.node
      obtain ⟨hproblems, hregistered⟩ := ih hrest hms
      constructor
      · calc f'.problems
            = (m.next (visit options files)).problems ++ ms.flatMap (·.reports options files) :=
              hproblems
          _ = (m.state.problems ++ m.reports options files) ++
                ms.flatMap (·.reports options files) := by
              rw [Moment.next, hanswer.problems_eq, Moment.reports]
          _ = m.state.problems ++ (m :: ms).flatMap (·.reports options files) := by
              rw [List.append_assoc, List.flatMap_cons]
      · calc f'.registered
            = (m.next (visit options files)).registered.noteAll
                (ms.flatMap (·.operations options)) := hregistered
          _ = (m.state.registered.noteAll (m.operations options)).noteAll
                (ms.flatMap (·.operations options)) := by
              rw [Moment.next, hanswer.registered_eq, Moment.operations]
          _ = m.state.registered.noteAll ((m :: ms).flatMap (·.operations options)) := by
              rw [List.flatMap_cons, Registered.noteAll_append]

/-- A unit reports the problems that are met in it, and counts what is done in it. -/
theorem SourceUnit.answers (u : SourceUnit) (r : Registry) :
    (u.index options files r).1.problems =
        (u.moments options files r).flatMap (·.reports options files) ∧
      (u.index options files r).1.registered =
        Registered.noteAll {} (u.operations options files r) :=
  (course_walk.1 u.root u.startScope ({ registry := r } : Findings)).answers
    (u.grounded_of_mem_moments options files r)

/-! ### The outcomes of several units -/

/-- What each of several units tells, in their order. -/
def outcomesOfAll : List SourceUnit → Registry → List UnitOutcome
  | [], _ => []
  | u :: rest, r =>
      (u.index options files r).1 :: outcomesOfAll rest (u.index options files r).2

/-- The report of a run is made up of those of its units. -/
lemma report_indexAll (us : List SourceUnit) (r : Registry) :
    (indexAll options files us r).1 = (outcomesOfAll options files us r).flatMap (·.report) := by
  induction us generalizing r with
  | nil => rfl
  | cons u rest ih => rw [indexAll_cons, outcomesOfAll, List.flatMap_cons, ih]

end

end PhpIndex

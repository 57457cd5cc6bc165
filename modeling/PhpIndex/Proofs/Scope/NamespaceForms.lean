import PhpIndex.Proofs.Text.Segments
import PhpIndex.Scope.Basic

/-!
The form in which a namespace is kept.

* `dropOuter_append`, `exists_eq_append_dropOuter`: the separators around a name are what is cut
  off it;
* `Scope.HasForm`: a namespace as it is written and its form;
* `Scope.namespaceForm_eq_iff`: **the form of a namespace** is empty if there is nothing but
  separators, and otherwise the name between them with one separator behind it;
* `Scope.namespaceForm_namespaceForm`: a namespace in its form stays as it is.
-/

namespace PhpIndex

open Text

/-! ### Separators around a name -/

section

variable {before name after : String} (s : String)

/-- All separators around a name are cut off it. -/
lemma dropOuter_append (hbefore : ∀ c ∈ before.toList, c = separator)
    (hafter : ∀ c ∈ after.toList, c = separator) (hne : name ≠ "")
    (hhead : name.toList.head? ≠ some separator) (hlast : name.toList.getLast? ≠ some separator) :
    dropOuter (before ++ name ++ after) = name := by
  have hfirst : (name.toList ++ after.toList).head? = name.toList.head? :=
    List.head?_append_of_ne_nil _ (by simpa using hne)
  rw [← String.toList_inj, dropOuter, toList_trimBoth, String.toList_append, String.toList_append,
    List.append_assoc, dropWhile_append_stop (fun c hc => isSeparator_iff.mpr (hbefore c hc))
      (isSeparator_eq_false_of_ne (hfirst ▸ hhead)),
    rdropWhile_append_stop (fun c hc => isSeparator_iff.mpr (hafter c hc))
      (isSeparator_eq_false_of_ne hlast)]

/-- Nothing but separators is cut off. -/
lemma exists_eq_append_dropOuter : ∃ before after : String,
    (∀ c ∈ before.toList, c = separator) ∧ (∀ c ∈ after.toList, c = separator) ∧
      s = before ++ dropOuter s ++ after := by
  refine ⟨String.ofList (s.toList.takeWhile isSeparator),
    String.ofList ((s.toList.dropWhile isSeparator).rtakeWhile isSeparator), ?_, ?_, ?_⟩
  · intro c hc
    rw [String.toList_ofList] at hc
    exact isSeparator_iff.mp (List.mem_takeWhile_imp hc)
  · intro c hc
    rw [String.toList_ofList] at hc
    exact isSeparator_iff.mp (List.mem_rtakeWhile_imp hc)
  · rw [← String.toList_inj, String.toList_append, String.toList_append, dropOuter,
      toList_trimBoth, String.toList_ofList, String.toList_ofList, List.append_assoc,
      List.rdropWhile_append_rtakeWhile, List.takeWhile_append_dropWhile]

lemma head?_dropOuter_ne : (dropOuter s).toList.head? ≠ some separator := by
  intro h
  rw [dropOuter, toList_trimBoth] at h
  obtain ⟨more, hmore⟩ := List.rdropWhile_prefix isSeparator (l := s.toList.dropWhile isSeparator)
  have hfirst := List.head?_dropWhile_not isSeparator s.toList
  rw [← hmore, List.head?_append, h] at hfirst
  simp [isSeparator] at hfirst

lemma getLast?_dropOuter_ne : (dropOuter s).toList.getLast? ≠ some separator := by
  intro h
  rw [dropOuter, toList_trimBoth] at h
  obtain ⟨hne, hlast⟩ := List.mem_getLast?_eq_getLast h
  exact List.rdropWhile_last_not _ _ hne (isSeparator_iff.mpr hlast.symm)

end

namespace Scope

variable {space form : String}

/-! ### Forms -/

/-- A namespace as it is written and its form. -/
inductive HasForm : String → String → Prop
  /-- Nothing but separators stands for the global namespace. -/
  | global {space : String} (h : ∀ c ∈ space.toList, c = separator) : HasForm space ""
  /-- Of the separators around a name one remains, behind it. -/
  | named {before name after : String} (hbefore : ∀ c ∈ before.toList, c = separator)
      (hafter : ∀ c ∈ after.toList, c = separator) (ne_empty : name ≠ "")
      (hhead : name.toList.head? ≠ some separator)
      (hlast : name.toList.getLast? ≠ some separator) :
      HasForm (before ++ name ++ after) (name ++ separator.toString)

lemma hasForm_namespaceForm (space : String) : HasForm space (namespaceForm space) := by
  obtain ⟨before, after, hbefore, hafter, hspace⟩ := exists_eq_append_dropOuter space
  rw [namespaceForm]
  split
  · rename_i hbare
    rw [hbare] at hspace
    refine .global fun c hc => ?_
    rw [hspace, String.append_empty, String.toList_append, List.mem_append] at hc
    exact hc.elim (hbefore c) (hafter c)
  · rename_i hbare
    have h := HasForm.named hbefore hafter hbare (head?_dropOuter_ne space)
      (getLast?_dropOuter_ne space)
    rwa [← hspace] at h

lemma HasForm.eq_namespaceForm (h : HasForm space form) : namespaceForm space = form := by
  cases h with
  | global h =>
      have hbare : dropOuter space = "" := by
        rw [← String.toList_inj, dropOuter, toList_trimBoth,
          List.dropWhile_eq_nil_iff.mpr fun c hc => isSeparator_iff.mpr (h c hc)]
        rfl
      rw [namespaceForm, hbare]
      rfl
  | named hbefore hafter ne_empty hhead hlast =>
      rw [namespaceForm, dropOuter_append hbefore hafter ne_empty hhead hlast]
      exact if_neg ne_empty

/-- **The form of a namespace** is empty if there is nothing but separators, and otherwise the name
between them with one separator behind it. -/
theorem namespaceForm_eq_iff : namespaceForm space = form ↔ HasForm space form :=
  ⟨fun h => h ▸ hasForm_namespaceForm space, HasForm.eq_namespaceForm⟩

/-- A form is empty or ends in a separator. -/
lemma HasForm.exists_eq_append (h : HasForm space form) (hne : form ≠ "") :
    ∃ bare, form = bare ++ separator.toString := by
  cases h with
  | global => contradiction
  | named => exact ⟨_, rfl⟩

/-- The form of a form is the form itself. -/
lemma HasForm.self (h : HasForm space form) : HasForm form form := by
  cases h with
  | global => exact .global (List.forall_mem_nil _)
  | @named _ name _ _ _ ne_empty hhead hlast =>
      have hself : HasForm ("" ++ name ++ separator.toString) (name ++ separator.toString) :=
        .named (List.forall_mem_nil _) (List.forall_mem_singleton.mpr rfl) ne_empty hhead hlast
      rwa [String.empty_append] at hself

lemma namespaceForm_empty : namespaceForm "" = "" := by rfl

lemma namespaceForm_namespaceForm (space : String) :
    namespaceForm (namespaceForm space) = namespaceForm space :=
  namespaceForm_eq_iff.mpr (hasForm_namespaceForm space).self

end Scope

end PhpIndex

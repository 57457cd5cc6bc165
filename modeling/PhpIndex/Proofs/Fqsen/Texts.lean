import Mathlib.Data.Set.Function
import Std.Data.String.ToNat
import PhpIndex.Proofs.Text.Names

/-!
The texts of identities.

* `IsPlainName`: names without the characters that divide the text of an identity;
* `Fqsen.IsClass`, `Fqsen.IsFunction`, `Fqsen.IsMethod`: the identities that are made for classes,
  functions and methods, each with any alternate id;
* `alternateText_injective`, `eq_of_append_alternateText`: alternate ids are found again at the end
  of a text;
* `Fqsen.TextsIdentify`, `Fqsen.textsIdentify`: **identities are known by their texts**, those of
  classes, of functions and of methods each, and no method has the text of one of the others. Of the
  text of a first class and of that of a namespace the identity is made again, and a method leads
  back to its class.
-/

namespace PhpIndex

open Text

/-! ### Names and alternate ids in texts -/

/-- A name without any of the characters that divide the text of an identity. -/
structure IsPlainName (s : String) : Prop extends IsSegment s where
  comma_notMem : ',' ∉ s.toList
  colon_notMem : ':' ∉ s.toList

namespace Fqsen

lemma mem_alternateText {c : Char} {i : Nat} (h : c ∈ (alternateText i).toList) :
    c = ',' ∨ c.isDigit = true := by
  rw [alternateText] at h
  split at h
  · simp at h
  · rw [Nat.toString_eq_repr, String.toList_append, Nat.toList_repr, List.mem_append] at h
    exact h.imp (by simp) (Nat.isDigit_of_mem_toDigits (by decide) (by decide))

lemma head?_alternateText {i : Nat} : ∀ c ∈ (alternateText i).toList.head?, c = ',' := by
  rw [alternateText]
  split <;> simp [eq_comm]

/-- The marks of two alternate ids differ. -/
lemma alternateText_injective {i j : Nat} (h : alternateText i = alternateText j) : i = j := by
  have hcomma (n : Nat) : "," ++ toString n ≠ "" := by
    rw [ne_eq, ← String.toList_inj]
    simp
  simp only [alternateText] at h
  split at h <;> split at h
  next hi hj => rw [hi, hj]
  next => exact absurd h.symm (hcomma j)
  next => exact absurd h (hcomma i)
  next => exact Nat.repr_injective ((String.append_right_inj ",").mp h)

/-- A name ends where the mark of an alternate id begins. -/
lemma eq_of_append_alternateText {s t : String} (hs : ',' ∉ s.toList) (ht : ',' ∉ t.toList)
    {i j : Nat} (h : s ++ alternateText i = t ++ alternateText j) : s = t ∧ i = j := by
  have hstops (n : Nat) : ∀ c ∈ (alternateText n).toList.head?, c ∈ [','] := by
    simpa using head?_alternateText
  obtain ⟨hname, hmark⟩ := append_inj_of_stops (by simpa using hs) (by simpa using ht) (hstops i)
    (hstops j) h
  exact ⟨hname, alternateText_injective hmark⟩

/-! ### The identities of declarations -/

/-- The identities of classes. -/
inductive IsClass : Fqsen → Prop
  | ofClass (space name : String) : IsClass (ofClass space name)
  | withAlternate {c : Fqsen} (h : IsClass c) (i : Nat) : IsClass (c.withAlternate i)

/-- The identities of functions outside classes. -/
inductive IsFunction : Fqsen → Prop
  | ofFunction (space name : String) : IsFunction (ofFunction space name)
  | withAlternate {f : Fqsen} (h : IsFunction f) (i : Nat) : IsFunction (f.withAlternate i)

/-- The identities of methods. -/
inductive IsMethod : Fqsen → Prop
  | member {c : Fqsen} (h : IsClass c) (name : String) : IsMethod (c.member name)
  | withAlternate {m : Fqsen} (h : IsMethod m) (i : Nat) : IsMethod (m.withAlternate i)

/-- An identity with plain names throughout. -/
structure HasPlainNames (f : Fqsen) : Prop where
  path : ∀ s ∈ f.path, IsPlainName s
  className : ∀ s ∈ f.className?, IsPlainName s
  functionName : ∀ s ∈ f.functionName?, IsPlainName s

lemma IsClass.exists_element {c : Fqsen} (h : c.IsClass) : ∃ name, c.element = .classLike name := by
  induction h with
  | ofClass space name => exact ⟨name, rfl⟩
  | withAlternate _ _ ih => exact ih

lemma IsFunction.exists_element {f : Fqsen} (h : f.IsFunction) :
    ∃ name, f.element = .function name := by
  induction h with
  | ofFunction space name => exact ⟨lowercase name, rfl⟩
  | withAlternate _ _ ih => exact ih

lemma IsMethod.exists_element {m : Fqsen} (h : m.IsMethod) :
    ∃ owner i name, m.element = .method owner i name := by
  induction h with
  | @member c hc name =>
      obtain ⟨owner, howner⟩ := hc.exists_element
      exact ⟨owner, c.alternate, name, by rw [Fqsen.member, howner]⟩
  | withAlternate _ _ ih => exact ih

/-! ### Texts in parts -/

section

variable {l : List String} (h : ∀ s ∈ l, IsPlainName s)

include h

lemma comma_notMem_joined : ',' ∉ (joined l).toList :=
  notMem_joined (by decide) fun s hs => (h s hs).comma_notMem

lemma colon_notMem_joined : ':' ∉ (joined l).toList :=
  notMem_joined (by decide) fun s hs => (h s hs).colon_notMem

end

lemma colon_notMem_alternateText (i : Nat) : ':' ∉ (alternateText i).toList := fun h => by
  obtain hcomma | hdigit := mem_alternateText h
  · exact absurd hcomma (by decide)
  · exact absurd hdigit (by decide)

/-- A namespace and a name in it are found again in the full name. -/
lemma eq_of_joined_eq {path path' : List String} {name name' : String}
    (h : ∀ s ∈ path ++ [name], IsPlainName s) (h' : ∀ s ∈ path' ++ [name'], IsPlainName s)
    (hjoined : joined (path ++ [name]) = joined (path' ++ [name'])) :
    path = path' ∧ name = name' := by
  have hrow := joined_injective (fun s hs => (h s hs).toIsSegment)
    (fun s hs => (h' s hs).toIsSegment) hjoined
  obtain ⟨hpath, hname⟩ := List.append_inj' hrow rfl
  exact ⟨hpath, List.singleton_inj.mp hname⟩

/-! ### Identities and their texts -/

lemma IsClass.eq_mk {c : Fqsen} (h : c.IsClass) : c = ⟨c.path, .classLike c.name, c.alternate⟩ := by
  obtain ⟨name, hname⟩ := h.exists_element
  obtain ⟨path, element, i⟩ := c
  subst hname
  rfl

lemma IsFunction.eq_mk {f : Fqsen} (h : f.IsFunction) :
    f = ⟨f.path, .function f.name, f.alternate⟩ := by
  obtain ⟨name, hname⟩ := h.exists_element
  obtain ⟨path, element, i⟩ := f
  subst hname
  rfl

section

variable {f g : Fqsen} (hf : f.IsClass ∨ f.IsFunction) (hg : g.IsClass ∨ g.IsFunction)

include hf

/-- The text of a class or function is its full name with the mark of its alternate id. -/
lemma text_eq : f.text = joined (f.path ++ [f.name]) ++ alternateText f.alternate := by
  obtain hclass | hfunction := hf
  · rw [hclass.eq_mk]
    rfl
  · rw [hfunction.eq_mk]
    rfl

lemma isPlainName_of_mem (hplain : f.HasPlainNames) : ∀ s ∈ f.path ++ [f.name], IsPlainName s := by
  refine List.forall_mem_append.mpr ⟨hplain.path, List.forall_mem_singleton.mpr ?_⟩
  obtain hclass | hfunction := hf
  · refine hplain.className f.name ?_
    rw [hclass.eq_mk]
    rfl
  · refine hplain.functionName f.name ?_
    rw [hfunction.eq_mk]
    rfl

include hg

/-- The parts of the full name and the alternate id are read off it. -/
lemma parts_eq_of_text_eq (hfplain : f.HasPlainNames) (hgplain : g.HasPlainNames)
    (h : f.text = g.text) : f.path = g.path ∧ f.name = g.name ∧ f.alternate = g.alternate := by
  rw [text_eq hf, text_eq hg] at h
  have hfnames := isPlainName_of_mem hf hfplain
  have hgnames := isPlainName_of_mem hg hgplain
  obtain ⟨hjoined, halternate⟩ :=
    eq_of_append_alternateText (comma_notMem_joined hfnames) (comma_notMem_joined hgnames) h
  obtain ⟨hpath, hname⟩ := eq_of_joined_eq hfnames hgnames hjoined
  exact ⟨hpath, hname, halternate⟩

end

/-- Classes are known by their texts. -/
lemma injOn_text_classes : Set.InjOn text {c | c.IsClass ∧ c.HasPlainNames} := by
  rintro c ⟨hc, hcplain⟩ d ⟨hd, hdplain⟩ htext
  obtain ⟨hpath, hname, halternate⟩ :=
    parts_eq_of_text_eq (.inl hc) (.inl hd) hcplain hdplain htext
  rw [hc.eq_mk, hd.eq_mk, hpath, hname, halternate]

/-- So are functions. -/
lemma injOn_text_functions : Set.InjOn text {f | f.IsFunction ∧ f.HasPlainNames} := by
  rintro f ⟨hf, hfplain⟩ g ⟨hg, hgplain⟩ htext
  obtain ⟨hpath, hname, halternate⟩ :=
    parts_eq_of_text_eq (.inr hf) (.inr hg) hfplain hgplain htext
  rw [hf.eq_mk, hg.eq_mk, hpath, hname, halternate]

lemma IsMethod.exists_eq {m : Fqsen} (h : m.IsMethod) (hplain : m.HasPlainNames) :
    ∃ path owner k name i, m = ⟨path, .method owner k name, i⟩ ∧
      (∀ s ∈ path ++ [owner], IsPlainName s) ∧ IsPlainName name := by
  obtain ⟨owner, k, name, hname⟩ := h.exists_element
  obtain ⟨path, element, i⟩ := m
  subst hname
  refine ⟨path, owner, k, name, i, rfl, ?_, hplain.functionName name rfl⟩
  exact List.forall_mem_append.mpr
    ⟨hplain.path, List.forall_mem_singleton.mpr (hplain.className owner rfl)⟩

/-- The text of a method has that of its class before its name. -/
lemma text_method {path : List String} {name owner : String} {i k : Nat} :
    (⟨path, .method owner k name, i⟩ : Fqsen).text =
      joined (path ++ [owner]) ++ (alternateText k ++ ("::" ++ (name ++ alternateText i))) := by
  simp only [← String.append_assoc]
  rfl

/-- And methods, in whose texts the class ends with the first comma or colon, and the mark of its
alternate id with the first colon. -/
lemma injOn_text_methods : Set.InjOn text {m | m.IsMethod ∧ m.HasPlainNames} := by
  rintro m ⟨hm, hmplain⟩ n ⟨hn, hnplain⟩ htext
  obtain ⟨path, owner, k, name, i, rfl, hplain, hname⟩ := hm.exists_eq hmplain
  obtain ⟨path', owner', l, name', j, rfl, hplain', hname'⟩ := hn.exists_eq hnplain
  rw [text_method, text_method] at htext
  have hclass {row : List String} (h : ∀ s ∈ row, IsPlainName s) :
      ∀ c ∈ [',', ':'], c ∉ (joined row).toList := by
    simpa using ⟨comma_notMem_joined h, colon_notMem_joined h⟩
  have hmark (n : Nat) (s : String) :
      ∀ c ∈ (alternateText n ++ ("::" ++ s)).toList.head?, c ∈ [',', ':'] := by
    rw [String.toList_append, List.head?_append]
    cases hhead : (alternateText n).toList.head? with
    | none => simp
    | some c => simp [head?_alternateText c hhead]
  have hcolons (s : String) : ∀ c ∈ ("::" ++ s).toList.head?, c ∈ [':'] := by simp
  obtain ⟨hjoined, hrest⟩ :=
    append_inj_of_stops (hclass hplain) (hclass hplain') (hmark _ _) (hmark _ _) htext
  obtain ⟨rfl, rfl⟩ := eq_of_joined_eq hplain hplain' hjoined
  obtain ⟨halternate, hmember⟩ := append_inj_of_stops
    (by simpa using colon_notMem_alternateText k) (by simpa using colon_notMem_alternateText l)
    (hcolons _) (hcolons _) hrest
  obtain rfl := alternateText_injective halternate
  obtain ⟨rfl, rfl⟩ := eq_of_append_alternateText hname.comma_notMem hname'.comma_notMem
    ((String.append_right_inj "::").mp hmember)
  rfl

/-- The text of a class or function holds no colon. -/
lemma colon_notMem_text {f : Fqsen} (hf : f.IsClass ∨ f.IsFunction) (hplain : f.HasPlainNames) :
    ':' ∉ f.text.toList := by
  rw [text_eq hf, String.toList_append]
  simp [colon_notMem_joined (isPlainName_of_mem hf hplain), colon_notMem_alternateText]

lemma colon_mem_text {m : Fqsen} (h : m.IsMethod) : ':' ∈ m.text.toList := by
  obtain ⟨owner, k, name, hname⟩ := h.exists_element
  obtain ⟨path, element, i⟩ := m
  subst hname
  rw [text_method]
  simp

/-! ### Reading texts -/

/-- The first class of a name is read off its text, with or without a separator at the start. -/
lemma ofClassName?_text {c : Fqsen} (h : c.IsClass) (hplain : c.HasPlainNames)
    (hprimary : c.alternate = 0) : ofClassName? c.text = some c ∧
      ofClassName? (separator.toString ++ c.text) = some c := by
  have hsegment : ∀ s ∈ c.path ++ [c.name], IsSegment s :=
    fun s hs => (isPlainName_of_mem (.inl h) hplain s hs).toIsSegment
  have htext : c.text = joined (c.path ++ [c.name]) := by
    rw [text_eq (.inl h), alternateText, if_pos hprimary, String.append_empty]
  have hsegments : segments c.text = c.path ++ [c.name] := htext ▸ segments_joined hsegment
  have hlast : lastSegment c.text = c.name := by
    rw [htext, lastSegment_joined (by simp) hsegment, List.getLast_append_singleton]
  have hne : c.name ≠ "" := (hsegment c.name (by simp)).ne_empty
  have hread {full : String} (hsegments : segments full = c.path ++ [c.name])
      (hlast : lastSegment full = c.name) : ofClassName? full = some c := by
    rw [ofClassName?_eq (by rwa [hlast]), hsegments, hlast, List.dropLast_concat, ← hprimary]
    exact congrArg some h.eq_mk.symm
  have hstart : separator.toString ++ c.text = "" ++ separator.toString ++ c.text := by
    rw [String.empty_append]
  refine ⟨hread hsegments hlast, hread ?_ ?_⟩
  · rw [hstart, segments_append, hsegments]
    rfl
  · rw [hstart, lastSegment_append, hlast]

/-- A namespace is read off its text. -/
lemma ofNamespace_namespaceText {f : Fqsen} (h : f.HasPlainNames) :
    ofNamespace f.namespaceText = { path := f.path, element := .whole } := by
  have hsegments : segments f.namespaceText = f.path :=
    segments_spaceText fun s hs => (h.path s hs).toIsSegment
  rw [ofNamespace, hsegments]

/-- What texts tell of identities with plain names. -/
structure TextsIdentify : Prop where
  /-- Classes are known by their texts, alternate ids included. -/
  classes : Set.InjOn text {c | c.IsClass ∧ c.HasPlainNames}
  /-- So are functions. -/
  functions : Set.InjOn text {f | f.IsFunction ∧ f.HasPlainNames}
  /-- And methods, with the alternate ids of their classes. -/
  methods : Set.InjOn text {m | m.IsMethod ∧ m.HasPlainNames}
  /-- No method has the text of a class or function. -/
  methods_apart : ∀ m f : Fqsen, m.IsMethod → f.IsClass ∨ f.IsFunction → f.HasPlainNames →
    m.text ≠ f.text
  /-- The text of the first class of a name is that of the class, also as a full name. -/
  class_read : ∀ c : Fqsen, c.IsClass → c.HasPlainNames → c.alternate = 0 →
    ofClassName? c.text = some c ∧ ofClassName? (separator.toString ++ c.text) = some c
  /-- The namespace of an identity is read off its text. -/
  namespace_read : ∀ f : Fqsen, f.HasPlainNames →
    ofNamespace f.namespaceText = { path := f.path, element := .whole }
  /-- A method belongs to the class whose method it was made, whatever its alternate id. -/
  owner : ∀ c : Fqsen, c.IsClass → ∀ name i, ((c.member name).withAlternate i).owner? = some c

/-- **Identities are known by their texts.** -/
theorem textsIdentify : TextsIdentify where
  classes := injOn_text_classes
  functions := injOn_text_functions
  methods := injOn_text_methods
  methods_apart m f hm hf hplain htext := by
    refine colon_notMem_text hf hplain ?_
    rw [← htext]
    exact colon_mem_text hm
  class_read _ h hplain hprimary := ofClassName?_text h hplain hprimary
  namespace_read _ h := ofNamespace_namespaceText h
  owner c h name i := by
    obtain ⟨className, hclass⟩ := h.exists_element
    have howner := owner?_member hclass name
    rw [← howner, withAlternate, owner?, owner?]
    simp only [Fqsen.member, hclass]

end Fqsen

end PhpIndex

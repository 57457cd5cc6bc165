import PhpIndex.Proofs.UnionType.Names
import PhpIndex.Walk.Members

/-!
The types that doc comments give to properties, and those of their default values.

* `DocBlock.Tells`: the tag of a comment that speaks of a property; `Chosen`: the one of two
  comments;
* `docTypeOf?_eq_some_iff`: **the type that comments give a property** is that of the tag that is
  chosen, unless this is empty;
* `Contradicts`: a type of a comment that is reported; `typeMismatch?_eq_some_iff`: there are no
  others.
-/

namespace PhpIndex

open Text

/-! ### The tag that speaks of a property -/

namespace DocBlock

/-- The tag of a comment that speaks of the property at some place of a group: the first one that
names it, or else the one at this place if it names none. -/
inductive Tells (doc : DocBlock) (index : Nat) (name : String) : TypedName → Prop
  | named {before after : List TypedName} {tag : TypedName}
      (tags_eq : doc.varTags = before ++ tag :: after) (name_eq : tag.name = some name)
      (first : ∀ t ∈ before, t.name ≠ some name) : Tells doc index name tag
  | placed {tag : TypedName} (unnamed : ∀ t ∈ doc.varTags, t.name ≠ some name)
      (place : doc.varTags[index]? = some tag) (name_eq : tag.name = none) :
      Tells doc index name tag

variable {doc : DocBlock} {index : Nat} {name : String} {tag : TypedName}

/-- It is the tag that is looked up. -/
theorem variableFor?_eq_some_iff :
    doc.variableFor? index name = some tag ↔ doc.Tells index name tag := by
  rw [variableFor?, Option.or_eq_some_iff, List.find?_eq_some_iff_append, List.find?_eq_none,
    Option.filter_eq_some_iff, Option.isNone_iff_eq_none]
  simp only [Bool.not_eq_true', beq_eq_false_iff_ne, beq_iff_eq]
  constructor
  · rintro (⟨hname, before, after, htags, hfirst⟩ | ⟨hnone, hplace, hname⟩)
    · exact .named htags hname hfirst
    · exact .placed hnone hplace hname
  · rintro (⟨htags, hname, hfirst⟩ | ⟨hnone, hplace, hname⟩)
    · exact .inl ⟨hname, _, _, htags, hfirst⟩
    · exact .inr ⟨hnone, hplace, hname⟩

/-- The tag that speaks of a property at some place of a group: that of the comment of the group,
or else that of its own comment, where it is alone. -/
inductive Chosen (group element : DocBlock) (index : Nat) (name : String) : TypedName → Prop
  | ofGroup {tag : TypedName} (h : group.Tells index name tag) :
      Chosen group element index name tag
  | ofElement {tag : TypedName} (hgroup : ∀ t, ¬ group.Tells index name t)
      (h : element.Tells 0 name tag) : Chosen group element index name tag

lemma chosen_iff {group element : DocBlock} :
    (group.variableFor? index name).or (element.variableFor? 0 name) = some tag ↔
      Chosen group element index name tag := by
  rw [Option.or_eq_some_iff, variableFor?_eq_some_iff, variableFor?_eq_some_iff,
    Option.eq_none_iff_forall_ne_some]
  simp only [ne_eq, variableFor?_eq_some_iff]
  constructor
  · rintro (h | ⟨hgroup, h⟩)
    · exact .ofGroup h
    · exact .ofElement hgroup h
  · rintro (h | ⟨hgroup, h⟩)
    · exact .inl h
    · exact .inr ⟨hgroup, h⟩

end DocBlock

open DocBlock

/-! ### The type of a property -/

section

variable {group element : DocBlock} {index : Nat} {name : String} {type : UnionType}

/-- **The type that comments give a property** is that of the tag that is chosen. An empty one
counts for nothing, and no other tag is looked for instead. -/
theorem docTypeOf?_eq_some_iff :
    docTypeOf? group element index name = some type ↔
      ∃ tag, Chosen group element index name tag ∧ tag.type = type ∧ ∃ n, n ∈ type.names := by
  have hknown : (! type.isUnknown) = true ↔ ∃ n, n ∈ type.names := by
    rw [Bool.not_eq_true', ← Bool.not_eq_true, UnionType.isUnknown_iff, not_forall]
    simp only [not_not]
  rw [docTypeOf?, Option.filter_eq_some_iff, Option.map_eq_some_iff, hknown]
  simp only [chosen_iff]
  constructor
  · rintro ⟨⟨tag, htag, htype⟩, hnames⟩
    exact ⟨tag, htag, htype, hnames⟩
  · rintro ⟨tag, htag, htype, hnames⟩
    exact ⟨⟨tag, htag, htype⟩, hnames⟩

end

/-- The recorded type has the names of the comment's, and `null` besides if this is all that is
known of the default value. -/
lemma declaredTypeOf?_some (type inferred : UnionType) :
    ∃ declared, declaredTypeOf? (some type) inferred = some declared ∧
      ∀ n, n ∈ declared.names ↔
        n ∈ type.names ∨ n = "null" ∧ ∀ m, m ∈ inferred.names ↔ m = "null" := by
  refine ⟨_, rfl, fun n => ?_⟩
  rw [← UnionType.isNull_iff]
  split
  · rename_i hnull
    rw [UnionType.mem_names_merge, UnionType.mem_names_ofName, UnionType.canonicalTypeName?_null]
    simp [hnull, eq_comm]
  · rename_i hnull
    simp [hnull]

/-! ### Types that are reported -/

/-- A type of a comment that is reported: comments are held against default values, and this one is
known, is not `null`, and has other names. -/
structure Contradicts (options : Options) (type inferred : UnionType) : Prop where
  checked : options.checksDocTypes = true
  known : ∃ n, n ∈ inferred.names
  not_null : ¬ ∀ n, n ∈ inferred.names ↔ n = "null"
  differs : ¬ inferred.SameNames type

/-- No other types are reported. -/
lemma typeMismatch?_eq_some_iff {options : Options} {name : String} {docType : Option UnionType}
    {inferred : UnionType} {issue : Issue} :
    typeMismatch? options name docType inferred = some issue ↔
      ∃ type, docType = some type ∧ Contradicts options type inferred ∧
        issue = .typeMismatch name type.text inferred.text := by
  have hiff : ∀ type, (options.checksDocTypes && !inferred.isNull && !inferred.isUnknown &&
      !inferred.isEquivalentTo type) = true ↔ Contradicts options type inferred := by
    intro type
    simp only [Bool.and_eq_true, Bool.not_eq_true', ← Bool.not_eq_true, UnionType.isNull_iff,
      UnionType.isUnknown_iff, UnionType.isEquivalentTo_iff, not_forall, not_not]
    constructor
    · rintro ⟨⟨⟨hchecked, hnull⟩, n, hn⟩, hdiffers⟩
      exact ⟨hchecked, ⟨n, hn⟩, by simpa using hnull, hdiffers⟩
    · rintro ⟨hchecked, ⟨n, hn⟩, hnull, hdiffers⟩
      exact ⟨⟨⟨hchecked, by simpa using hnull⟩, n, hn⟩, hdiffers⟩
  rw [typeMismatch?, Option.bind_eq_some_iff]
  refine exists_congr fun type => and_congr_right fun _ => ?_
  rw [← hiff type]
  split <;> simp [*, eq_comm]

end PhpIndex

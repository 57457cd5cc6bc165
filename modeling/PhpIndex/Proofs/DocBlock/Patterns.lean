import PhpIndex.DocBlock
import PhpIndex.Proofs.Text.Patterns

/-!
The tags of a doc comment as matches of patterns.

Tags are read without trying anything twice. The same is found by trying all that the patterns of
tags allow, because in these patterns the first way to match a part is the only one that can be
continued: blanks are not found in types, and a mark begins with another character than what may
follow it.

* `TagForm.pattern`, `TagForm.read?_eq`, `TagForm.readAll_eq`: the tags of a form;
* `readFirstType?_eq`, `mentions_eq`: tags that count once;
* `extract`, `ofText_eq_extract`: **the facts of a comment are what the patterns of its tags
  match**.
-/

namespace PhpIndex.DocBlock

open Text

/-! ### The patterns of tags -/

/-- The blanks before a part are the longest row of them. -/
lemma readBlanks?_eq (cs : List Char) : readBlanks? cs = (longest? isBlank cs).map (·.rest) := by
  cases cs with
  | nil => rfl
  | cons c cs =>
      rw [readBlanks?, longest?, List.takeWhile_cons, List.dropWhile_cons]
      cases isBlank c <;> rfl

/-- So is a type the longest row of its characters. -/
lemma readType?_eq (keyword cs : List Char) :
    readType? keyword cs = (afterWord? keyword cs).bind fun rest =>
      (longest? isBlank rest).bind fun blanks =>
        (longest? isTypeChar blanks.rest).map fun type => (type.taken, type.rest) := by
  rw [readType?]
  cases afterWord? keyword cs with
  | none => rfl
  | some rest =>
      rw [Option.bind_some, Option.bind_some, readBlanks?_eq]
      cases longest? isBlank rest with
      | none => rfl
      | some blanks =>
          rw [Option.map_some, Option.bind_some, longest?]
          dsimp only
          cases blanks.rest.takeWhile isTypeChar <;> rfl

/-- And so is the name of a variable. -/
lemma readName?_eq (marks : List (List Char)) (cs : List Char) :
    readName? marks cs = (longest? isBlank cs).bind fun blanks =>
      (afterWord? ['$'] (skipMarks marks blanks.rest)).bind fun rest =>
        (longest? isWordChar rest).map fun name => (name.taken, name.rest) := by
  rw [readName?, readBlanks?_eq]
  cases longest? isBlank cs with
  | none => rfl
  | some blanks =>
      simp only [Option.map_some, Option.bind_some]
      cases skipMarks marks blanks.rest with
      | nil => rfl
      | cons c rest =>
          by_cases hc : c = '$'
          · subst hc
            simp only [afterWord?, if_true, Option.bind_some, longest?]
            cases rest.takeWhile isWordChar <;> rfl
          · simp [afterWord?, hc, Ne.symm hc]

/-- A keyword, blanks and a part. -/
def tagged (keyword : List Char) (part : Pattern) : Pattern :=
  (Pattern.word keyword).seq ((Pattern.many isBlank).seq part)

/-- A type, which is remembered. -/
def typePart : Pattern := .group 1 (.many isTypeChar)

/-- A variable, the name of which is remembered. -/
def variablePart : Pattern := (Pattern.word ['$']).seq (.group 2 (.many isWordChar))

/-- A variable before which there may be marks. -/
def markedVariable : List (List Char) → Pattern
  | [] => variablePart
  | mark :: marks => (Pattern.word mark).opt.seq (markedVariable marks)

/-- The pattern of a form of tags. -/
def TagForm.pattern (form : TagForm) : Pattern :=
  tagged form.keyword (typePart.seq ((Pattern.many isBlank).seq (markedVariable form.marks)).opt)

/-- The type and the name that are remembered. -/
def typedName (groups : List (Nat × List Char)) : TypedName where
  name := (groups.lookup 2).map String.ofList
  type := UnionType.ofAnnotation (String.ofList ((groups.lookup 1).getD []))

/-- Blanks before a part that begins with none are all taken. -/
lemma found_tagged {part : Pattern} (h : ∀ c, isBlank c = true → part.Rejects c)
    (keyword : List Char) (before : Option Char) (cs : List Char) :
    ((tagged keyword part).read? before cs).map Match.found =
      (afterWord? keyword cs).bind fun rest =>
        (longest? isBlank rest).bind fun blanks =>
          (part.read? (blanks.last? (keyword.getLast?.or before)) blanks.rest).map
            Match.found := by
  rw [tagged, Pattern.read?_word_seq]
  cases afterWord? keyword cs with
  | none => rfl
  | some rest =>
      simp only [Option.bind_some, Pattern.read?_many_seq _ _ h]
      cases hblanks : longest? isBlank rest with
      | none => rfl
      | some blanks =>
          have hword : ({ taken := keyword, rest := rest } : Match).groups = [] := rfl
          simp only [Option.bind_some]
          rw [Option.map_map, Match.found_comp_followedBy hword, Option.map_map,
            Match.found_comp_followedBy (groups_of_longest? hblanks)]

lemma rejects_typePart {c : Char} (h : isBlank c = true) : typePart.Rejects c := by
  refine (Pattern.rejects_many ?_).group
  rw [isTypeChar, h]
  rfl

/-- Marks that begin with different characters, neither with blanks nor as a variable does. -/
inductive Separate : List (List Char) → Prop
  | nil : Separate []
  | cons {c : Char} {w : List Char} {marks : List (List Char)} (hblank : isBlank c = false)
      (hvariable : c ≠ '$') (hmarks : ∀ mark ∈ marks, mark.head? ≠ some c) (h : Separate marks) :
      Separate ((c :: w) :: marks)

lemma Separate.rejects {marks : List (List Char)} (h : Separate marks) {c : Char} (hc : c ≠ '$')
    (hmarks : ∀ mark ∈ marks, mark.head? ≠ some c) : (markedVariable marks).Rejects c := by
  induction h with
  | nil =>
      refine (Pattern.rejects_word ?_ (List.cons_ne_nil _ _)).seq
      exact fun h => hc (Option.some.inj h).symm
  | cons _ _ _ _ ih =>
      obtain ⟨hmark, hmarks⟩ := List.forall_mem_cons.mp hmarks
      exact (Pattern.rejects_word hmark (List.cons_ne_nil _ _)).opt_seq (ih hmarks)

lemma Separate.rejects_blank {marks : List (List Char)} (h : Separate marks) {c : Char}
    (hc : isBlank c = true) : (markedVariable marks).Rejects c := by
  refine h.rejects ?_ ?_
  · rintro rfl
    exact absurd hc (by decide)
  · induction h with
    | nil => exact List.forall_mem_nil _
    | cons hblank _ _ _ ih =>
        refine List.forall_mem_cons.mpr ⟨fun heq => ?_, ih⟩
        rw [Option.some.inj heq, hc] at hblank
        cases hblank

/-- Marks are skipped where they are. -/
lemma found_markedVariable {marks : List (List Char)} (h : Separate marks)
    (before : Option Char) (cs : List Char) :
    ((markedVariable marks).read? before cs).map Match.found =
      (variablePart.read? before (skipMarks marks cs)).map Match.found := by
  induction h generalizing before cs with
  | nil => rfl
  | @cons c w marks _ hvariable hmarks h ih =>
      rw [markedVariable, Pattern.read?_opt_word_seq _ _ (h.rejects hvariable hmarks), skipMarks,
        List.foldl_cons, skipWord, ← skipMarks]
      cases afterWord? (c :: w) cs with
      | none => exact ih before cs
      | some rest =>
          simp only [Option.map_map, Option.getD_some]
          exact ih _ rest

lemma found_variablePart (before : Option Char) (cs : List Char) :
    (variablePart.read? before cs).map Match.found = (afterWord? ['$'] cs).bind fun rest =>
      (longest? isWordChar rest).map fun name => ([(2, name.taken)], name.rest) := by
  rw [variablePart, Pattern.read?_word_seq]
  cases afterWord? ['$'] cs with
  | none => rfl
  | some rest =>
      simp only [Option.bind_some, Pattern.read?_group_many]
      cases hname : longest? isWordChar rest with
      | none => rfl
      | some name =>
          simp only [Option.map_some, Match.found, Match.followedBy, groups_of_longest? hname,
            List.nil_append]

/-- Names of variables are read as the patterns say. -/
lemma found_blanks_markedVariable {marks : List (List Char)} (h : Separate marks)
    (before : Option Char) (cs : List Char) :
    (((Pattern.many isBlank).seq (markedVariable marks)).read? before cs).map Match.found =
      (readName? marks cs).map fun read => ([(2, read.1)], read.2) := by
  rw [Pattern.read?_many_seq _ _ fun c hc => h.rejects_blank hc, readName?_eq]
  cases hblanks : longest? isBlank cs with
  | none => rfl
  | some blanks =>
      simp only [Option.bind_some]
      rw [Option.map_map, Match.found_comp_followedBy (groups_of_longest? hblanks),
        found_markedVariable h, found_variablePart]
      cases afterWord? ['$'] (skipMarks marks blanks.rest) with
      | none => rfl
      | some rest => simp only [Option.bind_some, Option.map_map, Function.comp_def]

/-- What follows a type is a part of the tag if it can be. -/
lemma found_typePart_seq_opt (b : Pattern) (before : Option Char) (cs : List Char) :
    ((typePart.seq b.opt).read? before cs).map Match.found =
      (longest? isTypeChar cs).map fun type =>
        match (b.read? (type.last? before) type.rest).map Match.found with
        | none => ([(1, type.taken)], type.rest)
        | some (groups, rest) => ((1, type.taken) :: groups, rest) := by
  rw [typePart, Pattern.read?_group_many_seq_opt, Pattern.read?_group_many]
  cases htype : longest? isTypeChar cs with
  | none => rfl
  | some type =>
      simp only [Option.map_some, Option.bind_some, Pattern.read?_opt, groups_of_longest? htype]
      have hlast : Match.last? ⟨type.taken, [(1, type.taken)], type.rest⟩ before =
        type.last? before := rfl
      rw [hlast]
      cases b.read? (type.last? before) type.rest <;> rfl

namespace TagForm

variable {form : TagForm} (h : Separate form.marks)

include h

/-- **A tag is read as its pattern says.** -/
theorem read?_eq (before : Option Char) (cs : List Char) :
    (form.pattern.read? before cs).map (fun m => (typedName m.groups, m.rest)) =
      form.read? cs := by
  have hfound : (fun m : Match => (typedName m.groups, m.rest)) =
      Prod.map typedName id ∘ Match.found := rfl
  rw [hfound, ← Option.map_map, pattern, found_tagged fun c hc => (rejects_typePart hc).seq,
    TagForm.read?, readType?_eq]
  cases afterWord? form.keyword cs with
  | none => rfl
  | some rest =>
      simp only [Option.bind_some]
      cases longest? isBlank rest with
      | none => rfl
      | some blanks =>
          simp only [Option.bind_some, found_typePart_seq_opt, found_blanks_markedVariable h]
          cases longest? isTypeChar blanks.rest with
          | none => rfl
          | some type =>
              simp only [Option.map_some]
              cases readName? form.marks type.rest <;> rfl

/-- **So are all tags of a text**, wherever the text begins. -/
theorem readAll_eq (hconsumes : form.pattern.Consumes) (before : Option Char) (cs : List Char) :
    (form.pattern.findAll hconsumes before cs).map (typedName ·.groups) = form.readAll cs := by
  have hread := read?_eq h
  induction cs using readAll.induct form generalizing before with
  | case1 cs tag rest htag ih =>
      obtain ⟨m, hm, hfound⟩ := Option.map_eq_some_iff.mp ((hread before cs).trans htag)
      obtain ⟨rfl, rfl⟩ := Prod.mk.inj hfound
      rw [Pattern.findAll_of_some hm, readAll_of_some cs htag, List.map_cons, ih]
  | case2 htag => rw [Pattern.findAll_nil, readAll_nil, List.map_nil]
  | case3 c cs htag ih =>
      have hm := Option.map_eq_none_iff.mp ((hread before (c :: cs)).trans htag)
      rw [Pattern.findAll_of_none hm, readAll_of_none cs htag, ih]

end TagForm

/-! ### Tags that count once -/

/-- The pattern of a tag of which only the type counts. -/
def typePattern (keyword : List Char) : Pattern := tagged keyword typePart

/-- The pattern of a complete word. -/
def wordPattern (keyword : List Char) : Pattern := (Pattern.word keyword).seq .boundary

lemma found_typePattern (keyword : List Char) (before : Option Char) (cs : List Char) :
    ((typePattern keyword).read? before cs).map Match.found =
      (readType? keyword cs).map fun read => ([(1, read.1)], read.2) := by
  rw [typePattern, found_tagged fun c hc => rejects_typePart hc, readType?_eq]
  cases afterWord? keyword cs with
  | none => rfl
  | some rest =>
      simp only [Option.bind_some]
      cases longest? isBlank rest with
      | none => rfl
      | some blanks =>
          simp only [Option.bind_some, typePart, Pattern.read?_group_many]
          cases htype : longest? isTypeChar blanks.rest with
          | none => rfl
          | some type =>
              simp only [Option.map_some, Match.found, groups_of_longest? htype]

/-- The first type that a keyword gives is that of the first match of its pattern. -/
theorem readFirstType?_eq {keyword : List Char} (hconsumes : (typePattern keyword).Consumes)
    (before : Option Char) (cs : List Char) :
    ((typePattern keyword).findAll hconsumes before cs).head?.map
        (fun m => (typedName m.groups).type) =
      readFirstType? keyword cs := by
  have hfound : (fun m : Match => (typedName m.groups).type) =
      (fun found => (typedName found.1).type) ∘ Match.found := rfl
  induction cs generalizing before with
  | nil => rw [Pattern.findAll_nil]; rfl
  | cons c cs ih =>
      rw [Pattern.head?_findAll_cons, Option.map_or, ih, readFirstType?, hfound,
        ← Option.map_map, found_typePattern]
      cases readType? keyword (c :: cs) <;> rfl

/-- The boundary behind a word is where the word ends. -/
lemma isSome_read?_wordPattern {keyword : List Char}
    (hword : keyword.getLast?.any isWordChar = true) (before : Option Char) (cs : List Char) :
    ((wordPattern keyword).read? before cs).isSome =
      ((afterWord? keyword cs).map endsWord).getD false := by
  have hbefore : (keyword.getLast?.or before).any isWordChar = true := by
    cases hlast : keyword.getLast? with
    | none => simp [hlast] at hword
    | some c => rwa [hlast] at hword
  rw [wordPattern, Pattern.read?_word_seq]
  cases afterWord? keyword cs with
  | none => rfl
  | some rest =>
      rw [Option.bind_some, Pattern.read?, Pattern.run, hbefore]
      cases rest with
      | nil => rfl
      | cons c rest =>
          simp only [List.head?_cons, Option.any_some, Option.map_some, endsWord, Option.getD_some]
          by_cases hc : isWordChar c = true <;> simp [hc]

/-- A keyword is mentioned if its pattern matches. -/
theorem mentions_eq {keyword : List Char} (hconsumes : (wordPattern keyword).Consumes)
    (hword : keyword.getLast?.any isWordChar = true) (before : Option Char) (cs : List Char) :
    ((wordPattern keyword).findAll hconsumes before cs).head?.isSome = mentions keyword cs := by
  induction cs generalizing before with
  | nil => rw [Pattern.findAll_nil]; rfl
  | cons c cs ih =>
      rw [Pattern.head?_findAll_cons, Option.isSome_or, ih, isSome_read?_wordPattern hword,
        mentions]

/-! ### Comments -/

lemma separate_varForm : Separate varForm.marks := .nil

lemma separate_paramForm : Separate paramForm.marks :=
  .cons (by decide) (by decide) (by decide) (.cons (by decide) (by decide) (by decide) .nil)

/-- The pattern of a keyword and what follows it does not match nothing. -/
lemma consumes_tagged {keyword : List Char} (h : keyword ≠ []) (part : Pattern) :
    (tagged keyword part).Consumes :=
  Pattern.consumes_word_seq h _

lemma consumes_wordPattern {keyword : List Char} (h : keyword ≠ []) :
    (wordPattern keyword).Consumes :=
  Pattern.consumes_word_seq h _

/-- The facts of a comment, as its tags are matched in its text. -/
def extract (text : String) : DocBlock where
  isDeprecated := ((wordPattern "@deprecated".toList).findAll
    (consumes_wordPattern (by decide)) none text.toList).head?.isSome
  varTags := (varForm.pattern.findAll (consumes_tagged (by decide) _) none text.toList).map
    (typedName ·.groups)
  paramTags := (paramForm.pattern.findAll (consumes_tagged (by decide) _) none text.toList).map
    (typedName ·.groups)
  returnType := ((typePattern "@return".toList).findAll (consumes_tagged (by decide) _) none
    text.toList).head?.map (fun m => (typedName m.groups).type)

/-- **The facts of a comment are what the patterns of its tags match.** -/
theorem ofText_eq_extract (text : String) : ofText text = extract text := by
  rw [ofText, extract, DocBlock.mk.injEq]
  exact ⟨(mentions_eq _ (by decide) none text.toList).symm,
    (TagForm.readAll_eq separate_varForm _ none text.toList).symm,
    (TagForm.readAll_eq separate_paramForm _ none text.toList).symm,
    (readFirstType?_eq _ none text.toList).symm⟩

end PhpIndex.DocBlock

import PhpIndex.DocBlock.Tag

/-!
What a doc comment says about the declaration it stands before.

* `DocBlock`: the facts taken from a comment; all of it that is no tag is passed over;
* `DocBlock.ofText`: the tags `@var`, `@param`, `@return` and `@deprecated` of a text;
* `DocBlock.variableFor?`: the `@var` tag that speaks of one of several properties declared
  together;
* `DocBlock.ofText_empty`: an empty comment says nothing.
-/

namespace PhpIndex

open DocBlock Text

/-- The facts taken from a doc comment. -/
structure DocBlock where
  isDeprecated : Bool := false
  /-- The `@var` tags in order. -/
  varTags : List TypedName := []
  /-- The `@param` tags in order. -/
  paramTags : List TypedName := []
  /-- The type of the first `@return` tag. -/
  returnType : Option UnionType := none
deriving DecidableEq

namespace DocBlock

/-- The facts of a comment that says nothing. -/
def empty : DocBlock := {}

/-- The form of a `@var` tag. -/
def varForm : TagForm where
  keyword := "@var".toList
  marks := []

/-- The form of a `@param` tag, whose variable may be marked as variadic and as passed by
reference, in this order. -/
def paramForm : TagForm where
  keyword := "@param".toList
  marks := ["...".toList, "&".toList]

/-- The facts of a comment's text. -/
def ofText (text : String) : DocBlock where
  isDeprecated := mentions "@deprecated".toList text.toList
  varTags := varForm.readAll text.toList
  paramTags := paramForm.readAll text.toList
  returnType := readFirstType? "@return".toList text.toList

/-- The facts of a comment that may be missing. -/
def ofText? (text : Option String) : DocBlock := (text.map ofText).getD empty

/-- The `@var` tag for the property `name` at the place `index` of its group: the first that
names it, or else the one at that place if it names no variable. -/
def variableFor? (doc : DocBlock) (index : Nat) (name : String) : Option TypedName :=
  (doc.varTags.find? (·.name == some name)).or
    (doc.varTags[index]?.filter (·.name.isNone))

/-- An empty comment says nothing. -/
theorem ofText_empty : ofText "" = empty := by
  simp [ofText, empty, mentions, readFirstType?, TagForm.readAll, TagForm.read?, readType?,
    varForm, paramForm, afterWord?]

end DocBlock

end PhpIndex

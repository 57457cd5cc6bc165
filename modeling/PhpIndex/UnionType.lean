import Std.Data.ExtTreeSet
import PhpIndex.Text.Ascii
import PhpIndex.Text.Segments

/-!
Types, as sets of type names such as `int`, `string` or `App\User`.

* `UnionType`: a set of names; the empty set is the type nothing is known about;
* `canonicalName?`: the form in which a name is stored, which for a builtin type is its
  lower case name whatever spelling or case it was written in;
* `UnionType.ofAnnotation`: the type a doc comment writes, as in `int|string|null` or `?Foo`;
* `UnionType.merge`: the union of two types;
* `UnionType.isEquivalentTo`: equality up to the case of ASCII letters;
* `UnionType.text`: the names in order with bars between them.
-/

namespace PhpIndex

open Text

/-! ### The names of types -/

/-- The names of the builtin types, in lower case. -/
def builtinTypeNames : List String :=
  ["array", "bool", "callable", "false", "float", "int", "iterable", "mixed", "null", "object",
    "parent", "resource", "self", "static", "string", "true", "void"]

/-- The name of the builtin type that a lower case word names, of which some have several. -/
def builtinTypeName? (word : String) : Option String :=
  if word = "integer" then some "int"
  else if word = "boolean" then some "bool"
  else if word = "double" ∨ word = "real" then some "float"
  else if word ∈ builtinTypeNames then some word
  else none

/-- The form in which a type name is stored: without surrounding blanks and leading
separators, a builtin type by its name, any other as it is written. A name of which nothing
is left names no type. -/
def canonicalTypeName? (name : String) : Option String :=
  let bare := dropLeading (trim name)
  if bare = "" then none else some ((builtinTypeName? (asciiLower bare)).getD bare)

/-! ### Types -/

/-- A type, as the set of the names it is the union of. -/
structure UnionType where
  names : Std.ExtTreeSet String
deriving DecidableEq

namespace UnionType

/-- The type nothing is known about. -/
def unknown : UnionType := ⟨∅⟩

instance : Inhabited UnionType := ⟨unknown⟩

/-- The names of the type in increasing order. -/
def toList (u : UnionType) : List String := u.names.toList

/-- The type with one more name, in its stored form. -/
def add (u : UnionType) (name : String) : UnionType :=
  match canonicalTypeName? name with
  | none => u
  | some canonical => ⟨u.names.insert canonical⟩

/-- The type of one name. -/
def ofName (name : String) : UnionType := unknown.add name

/-- The union of some names. -/
def ofNames (names : List String) : UnionType := names.foldl add unknown

/-- The type with what one piece of an annotation names: a question mark before a name adds
`null`, and an empty piece adds nothing. -/
def addPiece (u : UnionType) (piece : List Char) : UnionType :=
  match (trim (String.ofList piece)).toList with
  | [] => u
  | '?' :: rest => (u.add (String.ofList rest)).add "null"
  | cs => u.add (String.ofList cs)

/-- The type that a doc comment writes as names with bars between them. -/
def ofAnnotation (text : String) : UnionType :=
  (text.toList.splitOn '|').foldl addPiece unknown

/-- The union of two types. -/
def merge (u v : UnionType) : UnionType := ⟨u.names ∪ v.names⟩

/-- Whether nothing is known about the type. -/
def isUnknown (u : UnionType) : Bool := u.names.isEmpty

/-- Whether the type is exactly `null`. -/
def isNull (u : UnionType) : Bool := u.names.size == 1 && u.names.contains "null"

/-- Whether the type has the name, up to the case of ASCII letters. -/
def hasName (u : UnionType) (name : String) : Bool :=
  u.toList.any (eqIgnoreAsciiCase · name)

/-- The names of the type in ASCII lower case. -/
def folded (u : UnionType) : Std.ExtTreeSet String :=
  Std.ExtTreeSet.ofList (u.toList.map asciiLower)

/-- Whether two types have the same names up to the case of ASCII letters. -/
def isEquivalentTo (u v : UnionType) : Bool := decide (u.folded = v.folded)

/-- The names in increasing order with bars between them. -/
def text (u : UnionType) : String := String.intercalate "|" u.toList

/-! ### Membership -/

theorem ext_names {u v : UnionType} (h : ∀ n, n ∈ u.names ↔ n ∈ v.names) : u = v := by
  cases u; cases v
  simp only [UnionType.mk.injEq]
  exact Std.ExtTreeSet.ext_mem h

@[simp] theorem mem_names_merge {u v : UnionType} {n : String} :
    n ∈ (u.merge v).names ↔ n ∈ u.names ∨ n ∈ v.names := by
  simp [merge]

/-- A name is added in its stored form, if it has one. -/
theorem mem_names_add {u : UnionType} {name n : String} :
    n ∈ (u.add name).names ↔ n ∈ u.names ∨ canonicalTypeName? name = some n := by
  rw [add]
  split
  · rename_i h; simp [h]
  · rename_i c h
    simp only [h, Std.ExtTreeSet.mem_insert, Std.LawfulEqCmp.compare_eq_iff_eq,
      Option.some.injEq]
    exact or_comm

end UnionType

end PhpIndex

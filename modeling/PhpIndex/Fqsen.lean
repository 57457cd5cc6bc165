import PhpIndex.Text.Lowercase
import PhpIndex.Text.Segments

/-!
Fully qualified names of structural elements, the identities of declarations.

* `Fqsen`: a namespace, an element in it, and an alternate id that tells apart the
  declarations of one name;
* `Fqsen.ofNamespace`, `Fqsen.ofClass`, `Fqsen.ofFunction`, `Fqsen.ofClassName?`: the identity
  of a first declaration;
* `Fqsen.member`: the identity of a method of a class, or of a function of a namespace;
* `Fqsen.owner?`: the class an element belongs to, with `owner?_member` saying that it is the
  class whose member was taken;
* `Fqsen.text`: the written form, as in `App\User,1::save`;
* the order of identities, by namespace, class, alternate of the class, function, alternate.
-/

namespace PhpIndex

open Text

/-! ### Identities -/

/-- What an identity names within its namespace. -/
inductive Element where
  /-- The namespace itself. -/
  | whole
  /-- A class, interface or trait. -/
  | classLike (name : String)
  /-- A function outside any class. -/
  | function (name : String)
  /-- A method of the class `owner` that was the declaration `ownerAlternate` of its name. -/
  | method (owner : String) (ownerAlternate : Nat) (name : String)
deriving DecidableEq

/-- The identity of a declaration. -/
structure Fqsen where
  /-- The segments of the namespace, outermost first; none for the global namespace. -/
  path : List String
  element : Element
  /-- How many declarations of this name came before. -/
  alternate : Nat := 0
deriving DecidableEq

namespace Element

/-- The name of the class that is named or that owns the method. -/
def className? : Element → Option String
  | whole | function _ => none
  | classLike name => some name
  | method owner _ _ => some owner

/-- The alternate id of the class that owns the method. -/
def ownerAlternate : Element → Nat
  | whole | classLike _ | function _ => 0
  | method _ alternate _ => alternate

/-- The name of the function or method. -/
def functionName? : Element → Option String
  | whole | classLike _ => none
  | function name => some name
  | method _ _ name => some name

/-- An element is known by its three parts. -/
theorem ext_parts {e f : Element} (h1 : e.className? = f.className?)
    (h2 : e.ownerAlternate = f.ownerAlternate) (h3 : e.functionName? = f.functionName?) :
    e = f := by
  cases e <;> cases f <;> simp_all [className?, ownerAlternate, functionName?]

end Element

namespace Fqsen

/-! ### Making identities -/

/-- The identity of a namespace. Separators at its ends or side by side count for nothing. -/
def ofNamespace (space : String) : Fqsen where
  path := segments space
  element := .whole

/-- The same identity with another class name; a function becomes a method of that class. -/
def withClassName (f : Fqsen) (name : String) : Fqsen :=
  { f with element := match f.element with
      | .whole | .classLike _ => .classLike name
      | .function function => .method name 0 function
      | .method _ alternate method => .method name alternate method }

/-- The identity of a member: of a class a method, of a namespace a function, of a function or
method the one of the other name beside it. The alternate id of a class stays with it, and the
member begins at its own alternate id zero. -/
def member (f : Fqsen) (name : String) : Fqsen where
  path := f.path
  element := match f.element with
    | .whole | .function _ => .function name
    | .classLike owner => .method owner f.alternate name
    | .method owner alternate _ => .method owner alternate name

/-- The identity of another declaration of the same name. -/
def withAlternate (f : Fqsen) (alternate : Nat) : Fqsen := { f with alternate := alternate }

/-- The identity of a class in a namespace. -/
def ofClass (space name : String) : Fqsen := (ofNamespace space).withClassName name

/-- The identity of a function in a namespace. The case of its letters does not matter, so they
are kept in lower case. -/
def ofFunction (space name : String) : Fqsen := (ofNamespace space).member (lowercase name)

/-- The identity of the class with a fully qualified name, such as `\App\User`; a name that is
empty or ends in a separator names no class. -/
def ofClassName? (name : String) : Option Fqsen :=
  let bare := dropLeading name
  if lastSegment bare = "" then none
  else some (ofClass (beforeLastSegment bare) (lastSegment bare))

/-! ### Parts of an identity -/

/-- The name of the class that is named or that owns the method. -/
def className? (f : Fqsen) : Option String := f.element.className?

/-- The name of the function or method. -/
def functionName? (f : Fqsen) : Option String := f.element.functionName?

/-- Whether this is the first declaration of its name. -/
def isPrimary (f : Fqsen) : Bool := f.alternate == 0

/-- The identity of the first declaration of the same name. -/
def primary (f : Fqsen) : Fqsen := f.withAlternate 0

/-- The class an element belongs to: for a method its owner, for a class the class itself. -/
def owner? (f : Fqsen) : Option Fqsen :=
  match f.element with
  | .whole | .function _ => none
  | .classLike _ => some f
  | .method owner alternate _ =>
      some { path := f.path, element := .classLike owner, alternate := alternate }

/-- The innermost name: of the function, or else the class, or else the namespace. -/
def name (f : Fqsen) : String :=
  match f.element with
  | .whole => f.path.getLast?.getD ""
  | .classLike name => name
  | .function name => name
  | .method _ _ name => name

/-- The namespace with a separator after each segment. -/
def namespaceText (f : Fqsen) : String :=
  String.join (f.path.map (· ++ separator.toString))

/-! ### The written form -/

/-- The mark of a later declaration of a name. -/
def alternateText (alternate : Nat) : String :=
  if alternate = 0 then "" else "," ++ toString alternate

/-- The written form of an identity. -/
def text (f : Fqsen) : String :=
  let below (names : List String) := String.intercalate separator.toString (f.path ++ names)
  (match f.element with
    | .whole => below []
    | .classLike name => below [name]
    | .function name => below [name]
    | .method owner alternate name => below [owner] ++ alternateText alternate ++ "::" ++ name)
  ++ alternateText f.alternate

/-! ### The order of identities -/

/-- Identities in order of their namespaces, then their classes, the alternates of these, their
functions and their own alternates; what is missing comes first. -/
def order : Fqsen → Fqsen → Ordering :=
  compareLex (compareOn path) <| compareLex (compareOn className?) <|
    compareLex (compareOn (·.element.ownerAlternate)) <|
    compareLex (compareOn functionName?) (compareOn alternate)

instance : Ord Fqsen := ⟨order⟩

instance : Std.TransCmp order :=
  inferInstanceAs (Std.TransCmp (compareLex (compareOn path) <|
    compareLex (compareOn className?) <| compareLex (compareOn (·.element.ownerAlternate)) <|
    compareLex (compareOn functionName?) (compareOn alternate)))

instance : Std.TransOrd Fqsen := inferInstanceAs (Std.TransCmp order)

instance : Std.LawfulEqCmp order where
  eq_of_compare {f g} h := by
    simp only [order, compareLex_eq_eq, compareOn, Std.LawfulEqCmp.compare_eq_iff_eq] at h
    obtain ⟨h1, h2, h3, h4, h5⟩ := h
    cases f; cases g
    simp only [Fqsen.mk.injEq]
    exact ⟨h1, Element.ext_parts h2 h3 h4, h5⟩

instance : Std.LawfulEqOrd Fqsen := inferInstanceAs (Std.LawfulEqCmp order)

/-! ### Owners and alternates -/

@[simp] theorem withAlternate_withAlternate (f : Fqsen) (m n : Nat) :
    (f.withAlternate m).withAlternate n = f.withAlternate n := rfl

@[simp] theorem alternate_withAlternate (f : Fqsen) (n : Nat) :
    (f.withAlternate n).alternate = n := rfl

theorem withAlternate_injective (f : Fqsen) {m n : Nat}
    (h : f.withAlternate m = f.withAlternate n) : m = n := by
  simpa using congrArg alternate h

/-- The owner of a class's method is that class, whichever declaration of its name it is. -/
theorem owner?_member {f : Fqsen} {name : String} (h : f.element = .classLike name)
    (method : String) : (f.member method).owner? = some f := by
  obtain ⟨path, element, alternate⟩ := f
  subst h
  rfl

end Fqsen

end PhpIndex

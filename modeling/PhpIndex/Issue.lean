import PhpIndex.Fqsen

/-!
What can be wrong with a source unit.

* `RegistrationError`: why a registry refuses a declaration;
* `Issue`: a problem with one declaration or expression;
* `Category`, `Severity`: the kinds of problems, and how serious they are;
* `message`: the text of a problem;
* `Issue.category`: the kind a problem is of.
-/

namespace PhpIndex

/-! ### Refused declarations -/

/-- Why a registry refuses a declaration. -/
inductive RegistrationError where
  /-- There is a class of this identity already. -/
  | duplicateClass (name : Fqsen)
  /-- There is a function or method of this identity already. -/
  | duplicateFunction (name : Fqsen)
  /-- The class that a method belongs to is not registered. -/
  | unknownClass (name : Fqsen)
deriving DecidableEq

/-- The text of a refusal. -/
def RegistrationError.message : RegistrationError → String
  | duplicateClass name => "duplicate class: " ++ name.text
  | duplicateFunction name => "duplicate method: " ++ name.text
  | unknownClass name => "class not found: " ++ name.text

/-! ### Problems -/

/-- How serious a problem is. -/
inductive Severity where
  | low
  | normal
  | critical
deriving DecidableEq

/-- The place of a severity in their order. -/
def Severity.rank : Severity → Nat
  | low => 0
  | normal => 1
  | critical => 2

/-- The kinds of problems. -/
inductive Category where
  /-- A declaration that cannot be registered. -/
  | fatal
  /-- A declared type and a value that disagree. -/
  | type
  /-- An expression that versions of the language read differently. -/
  | compatibility
deriving DecidableEq

/-- How serious the problems of a kind are. -/
def Category.severity : Category → Severity
  | fatal => .critical
  | type => .normal
  | compatibility => .low

/-- The word for a kind of problems. -/
def Category.text : Category → String
  | fatal => "fatal"
  | type => "type"
  | compatibility => "compat"

/-- A problem with one declaration or expression. -/
inductive Issue where
  /-- Properties are declared outside a class. -/
  | propertyOutsideClass
  /-- Class constants are declared outside a class. -/
  | constantOutsideClass
  /-- A method is declared outside a class. -/
  | methodOutsideClass (name : String)
  /-- A node of the kind lacks what the kind needs. -/
  | malformedNode (kind reason : String)
  /-- The type that a property's doc comment gives is not the one of its default value. -/
  | typeMismatch (property declared inferred : String)
  /-- The expression is read differently since version 7 of the language. -/
  | ambiguousExpression (expression : String)
  /-- The registry refused a declaration. -/
  | refused (error : RegistrationError)
deriving DecidableEq

namespace Issue

/-- The text of a problem. -/
def message : Issue → String
  | propertyOutsideClass => "Invalid property declaration"
  | constantOutsideClass => "Invalid constant declaration"
  | methodOutsideClass name => "Invalid method declaration " ++ name
  | malformedNode kind reason => "malformed " ++ kind ++ " node: " ++ reason
  | typeMismatch property declared inferred =>
      "property $" ++ property ++ " is declared to be " ++ declared ++ " but was assigned "
        ++ inferred
  | ambiguousExpression expression => expression ++ " expression may not be PHP 7 compatible"
  | refused error => error.message

/-- The kind of a problem. -/
def category : Issue → Category
  | typeMismatch .. => .type
  | ambiguousExpression _ => .compatibility
  | _ => .fatal

end Issue

end PhpIndex

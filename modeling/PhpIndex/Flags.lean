/-!
Flag words of declarations, with the meaning of their bits.

* `ClassFlags`, `Modifiers`, `ParameterFlags`: the known bits of the words of classes, of
  members and functions, and of parameters;
* `ofWord`, `toWord`: reading a word, which drops the unknown bits, and writing it;
* `setBits`: the names of the bits that are set;
* `Visibility`: who may use a member, as its modifiers say;
* `ClassFlags.ofWord_toWord` and its like: a word that was written reads back.
-/

namespace PhpIndex

/-- Those of the names whose bit is set, where the names are those of the bits from the lowest
up. -/
def setBits {n : Nat} (names : List String) (bits : BitVec n) : List String :=
  (names.zipIdx.filter fun p => bits.getLsbD p.2).map (·.1)

/-! ### Classes -/

/-- The flags of a class-like declaration. -/
structure ClassFlags where
  bits : BitVec 7 := 0
deriving DecidableEq

namespace ClassFlags

/-- The names of the flags from the lowest bit up. -/
def bitNames : List String :=
  ["ABSTRACT", "FINAL", "INTERFACE", "TRAIT", "ANONYMOUS", "ENUM", "READONLY"]

/-- The flags in a word; its other bits count for nothing. -/
def ofWord (word : Nat) : ClassFlags := ⟨BitVec.ofNat 7 word⟩

/-- The flags as a word. -/
def toWord (f : ClassFlags) : Nat := f.bits.toNat

/-- The names of the flags that are set. -/
def names (f : ClassFlags) : List String := setBits bitNames f.bits

/-- Whether an interface is declared. -/
def isInterface (f : ClassFlags) : Bool := f.bits.getLsbD 2

/-- Whether a trait is declared. -/
def isTrait (f : ClassFlags) : Bool := f.bits.getLsbD 3

/-- Whether the class is declared without a name. -/
def isAnonymous (f : ClassFlags) : Bool := f.bits.getLsbD 4

/-- The flags of an interface. -/
def interface : ClassFlags := ⟨4⟩

/-- The flags of a trait. -/
def trait : ClassFlags := ⟨8⟩

/-- The flags of a class without a name. -/
def anonymous : ClassFlags := ⟨16⟩

@[simp] theorem ofWord_toWord (f : ClassFlags) : ofWord f.toWord = f := by
  simp [ofWord, toWord]

end ClassFlags

/-! ### Members and functions -/

/-- Who may use a member. -/
inductive Visibility where
  | everyone
  | subclasses
  | ownClass
deriving DecidableEq

/-- The keyword for a visibility. -/
def Visibility.text : Visibility → String
  | everyone => "public"
  | subclasses => "protected"
  | ownClass => "private"

/-- The modifiers of a method, function, property or constant. -/
structure Modifiers where
  bits : BitVec 8 := 0
deriving DecidableEq

namespace Modifiers

/-- The names of the modifiers from the lowest bit up. -/
def bitNames : List String :=
  ["PUBLIC", "PROTECTED", "PRIVATE", "STATIC", "ABSTRACT", "FINAL", "READONLY", "RETURNS_REF"]

/-- The modifiers in a word; its other bits count for nothing. -/
def ofWord (word : Nat) : Modifiers := ⟨BitVec.ofNat 8 word⟩

/-- The modifiers as a word. -/
def toWord (m : Modifiers) : Nat := m.bits.toNat

/-- The names of the modifiers that are set. -/
def names (m : Modifiers) : List String := setBits bitNames m.bits

/-- The modifiers of a member that is public and nothing else. -/
def publicOnly : Modifiers := ⟨1⟩

/-- Who may use the member: of several marks the strictest counts, and without one it is
everyone. -/
def visibility (m : Modifiers) : Visibility :=
  if m.bits.getLsbD 2 then .ownClass
  else if m.bits.getLsbD 1 then .subclasses
  else .everyone

/-- Whether the member belongs to the class and not to its instances. -/
def isStatic (m : Modifiers) : Bool := m.bits.getLsbD 3

@[simp] theorem ofWord_toWord (m : Modifiers) : ofWord m.toWord = m := by
  simp [ofWord, toWord]

end Modifiers

/-! ### Parameters -/

/-- The flags of a parameter. -/
structure ParameterFlags where
  bits : BitVec 2 := 0
deriving DecidableEq

namespace ParameterFlags

/-- The names of the flags from the lowest bit up. -/
def bitNames : List String := ["BY_REF", "VARIADIC"]

/-- The flags in a word; its other bits count for nothing. -/
def ofWord (word : Nat) : ParameterFlags := ⟨BitVec.ofNat 2 word⟩

/-- The flags as a word. -/
def toWord (f : ParameterFlags) : Nat := f.bits.toNat

/-- The names of the flags that are set. -/
def names (f : ParameterFlags) : List String := setBits bitNames f.bits

/-- Whether the parameter takes any number of arguments. -/
def isVariadic (f : ParameterFlags) : Bool := f.bits.getLsbD 1

/-- The flags of a parameter that takes any number of arguments. -/
def variadic : ParameterFlags := ⟨2⟩

@[simp] theorem ofWord_toWord (f : ParameterFlags) : ofWord f.toWord = f := by
  simp [ofWord, toWord]

end ParameterFlags

end PhpIndex

/-!
The switches that change what a walk reports or records.
-/

namespace PhpIndex

/-- The switches of a walk. -/
structure Options where
  /-- Whether expressions that versions of the language read differently are reported. -/
  checksCompatibility : Bool := false
  /-- Whether declarations in a branch are marked. -/
  recordsConditional : Bool := true
  /-- Whether the type that a property's doc comment gives is held against its default value. -/
  checksDocTypes : Bool := true
deriving DecidableEq

end PhpIndex

import PhpIndex.SourceUnit
import PhpIndex.Tree.Build
import PhpIndex.Proofs.Registry.Alternates
import PhpIndex.Proofs.Registry.Coherence
import PhpIndex.Proofs.Walk.Course
import PhpIndex.Proofs.Walk.Frame
import PhpIndex.Proofs.Walk.Effects
import PhpIndex.Proofs.Walk.Accepted
import PhpIndex.Proofs.SourceUnit.Registration
import PhpIndex.Proofs.SourceUnit.Numbering
import PhpIndex.Proofs.Registry.Outline
import PhpIndex.Proofs.Registry.Likeness
import PhpIndex.Proofs.Registry.Footprint
import PhpIndex.Proofs.Walk.Response
import PhpIndex.Proofs.Walk.Lineage
import PhpIndex.Proofs.Walk.Lockstep
import PhpIndex.Proofs.Walk.Alike
import PhpIndex.Proofs.SourceUnit.Ancestry
import PhpIndex.Proofs.Scope.NamespaceForms
import PhpIndex.Proofs.SourceUnit.Namespaces
import PhpIndex.Proofs.SourceUnit.Independence
import PhpIndex.Proofs.SourceUnit.Exchange
import PhpIndex.Proofs.Scope.Aliases
import PhpIndex.Proofs.SourceUnit.Imports
import PhpIndex.Proofs.Walk.Sites
import PhpIndex.Proofs.Registry.Records
import PhpIndex.Proofs.SourceUnit.Members
import PhpIndex.Proofs.Text.Segments
import PhpIndex.Proofs.Scope.References
import PhpIndex.Proofs.Walk.Emptied
import PhpIndex.Proofs.SourceUnit.Settled
import PhpIndex.Proofs.Walk.Failures
import PhpIndex.Proofs.SourceUnit.Recovery
import PhpIndex.Proofs.DocBlock.Stretches
import PhpIndex.Proofs.Registry.Sizes
import PhpIndex.Proofs.SourceUnit.Outcomes
import PhpIndex.Proofs.SourceUnit.Totals
import PhpIndex.Proofs.Registry.Marks
import PhpIndex.Proofs.SourceUnit.Switches
import PhpIndex.Proofs.Walk.Ranges
import PhpIndex.Proofs.SourceUnit.Division
import PhpIndex.Proofs.DocBlock.Patterns
import PhpIndex.Proofs.DocBlock.Writing
import PhpIndex.Proofs.SourceUnit.ImportOrigins
import PhpIndex.Proofs.SourceUnit.Arguments
import PhpIndex.Proofs.SourceUnit.Constructors
import PhpIndex.Proofs.Text.Names
import PhpIndex.Proofs.Scope.Resolution
import PhpIndex.Proofs.Walk.GroupUse
import PhpIndex.Proofs.Walk.ClassReferences
import PhpIndex.Proofs.SourceUnit.Properties
import PhpIndex.Proofs.Text.Lines
import PhpIndex.Proofs.SourceUnit.ClassTypes
import PhpIndex.Proofs.SourceUnit.NominalTypes
import PhpIndex.Proofs.SourceUnit.AmbiguousExpressions
import PhpIndex.Proofs.Walk.IndirectVariables
import PhpIndex.Proofs.Walk.NullableReturns
import PhpIndex.Proofs.SourceUnit.ArgumentReaders
import PhpIndex.Proofs.SourceUnit.NamelessDeclarations
import PhpIndex.Proofs.DocBlock.ParameterMarkers
import PhpIndex.Proofs.Fqsen.Texts
import PhpIndex.Proofs.UnionType.Names
import PhpIndex.Proofs.UnionType.Annotations
import PhpIndex.Proofs.UnionType.Semilattice
import PhpIndex.Proofs.Scope.Probing

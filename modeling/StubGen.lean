import StubGen.Main
import StubGen.Program.Script
import StubGen.Proofs.Binding
import StubGen.Proofs.Outline
import StubGen.Stub.Catalogue
import StubGen.Proofs.Routing
import StubGen.Proofs.CommentErasure
import StubGen.Proofs.Conversion
import StubGen.Proofs.Imports
import StubGen.Proofs.Alias
import StubGen.Proofs.Shadowing
import StubGen.Proofs.Utf8
import StubGen.Proofs.WireFormat
import StubGen.Proofs.Refusal
import StubGen.Proofs.Response
import StubGen.Proofs.MalformedOption
import StubGen.Proofs.FrontEnds
import StubGen.Proofs.Blocks
import StubGen.Proofs.PlainNames
import StubGen.Proofs.Sketch
import StubGen.Proofs.BlockStructure
import StubGen.Proofs.DescriptorOrder
import StubGen.Proofs.FileTree
import StubGen.Proofs.Effects
import StubGen.Proofs.FailedRun
import StubGen.Proofs.RepeatedRun
import StubGen.Proofs.OutputDirectory
import StubGen.Proofs.Concatenation
import StubGen.Proofs.FirstClash
import StubGen.Proofs.MethodNames
import StubGen.Proofs.ClientMembers
import StubGen.Proofs.WireGrammar
import StubGen.Proofs.Resolution
import StubGen.Proofs.Selection
import StubGen.Proofs.TypeNames
import StubGen.Proofs.FlagOption
import StubGen.Proofs.AliasNames
import StubGen.Proofs.NodeComments
import StubGen.Proofs.RelativeImports
import StubGen.Proofs.EmittedModules
import StubGen.Proofs.MergedSets
import StubGen.Proofs.Spelling
import StubGen.Proofs.Exclusion
import StubGen.Proofs.SnakeCase
import StubGen.Proofs.Formatting
import StubGen.Proofs.TopLevel
import StubGen.Proofs.DirectorySearch
import StubGen.Proofs.CommandLines
import StubGen.Proofs.CommentLines

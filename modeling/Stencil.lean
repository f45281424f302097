import Stencil.Command.Arguments
import Stencil.Command.Generate
import Stencil.Compile.Basic
import Stencil.Compile.Error
import Stencil.Compile.Rendering
import Stencil.Disk.Basic
import Stencil.Disk.Fault
import Stencil.Disk.FileSystem
import Stencil.Go.File
import Stencil.Go.Literal
import Stencil.Go.Statement
import Stencil.Import.Fragment
import Stencil.Import.Set
import Stencil.Import.Spec
import Stencil.Listing
import Stencil.Listing.Json
import Stencil.Main
import Stencil.Options
import Stencil.Path
import Stencil.Proofs.ColoredErrors
import Stencil.Proofs.CommentErasure
import Stencil.Proofs.CompileFailure
import Stencil.Proofs.Concatenation
import Stencil.Proofs.CursorCalls
import Stencil.Proofs.DirectoryWalk
import Stencil.Proofs.DiskTree
import Stencil.Proofs.EmbeddedCode
import Stencil.Proofs.ErrorSnippets
import Stencil.Proofs.FirstOccurrence
import Stencil.Proofs.GenerateRun
import Stencil.Proofs.GeneratedText
import Stencil.Proofs.GrownDisk
import Stencil.Proofs.HeaderComposition
import Stencil.Proofs.HeaderErrors
import Stencil.Proofs.ImportBlock
import Stencil.Proofs.ImportGrammar
import Stencil.Proofs.ImportOffers
import Stencil.Proofs.LineDirectives
import Stencil.Proofs.Lines
import Stencil.Proofs.ListingRuns
import Stencil.Proofs.LiteralReading
import Stencil.Proofs.LiteralText
import Stencil.Proofs.Merging
import Stencil.Proofs.NeededImports
import Stencil.Proofs.PackageResolution
import Stencil.Proofs.PathSpelling
import Stencil.Proofs.RunOrder
import Stencil.Proofs.RunSteps
import Stencil.Proofs.ScanFailure
import Stencil.Proofs.Scanning
import Stencil.Proofs.SegmentMeaning
import Stencil.Proofs.Segmentation
import Stencil.Proofs.Segments
import Stencil.Proofs.SourceMappings
import Stencil.Proofs.TemplateNames
import Stencil.Proofs.UppercaseLetters
import Stencil.Proofs.Utf8
import Stencil.Proofs.Utf8Decoding
import Stencil.Proofs.ViewFactory
import Stencil.Split
import Stencil.Template.Basic
import Stencil.Template.Block
import Stencil.Template.Cursor
import Stencil.Template.Position
import Stencil.Template.SyntaxError
import Stencil.Text.Basic
import Stencil.Text.Collapse
import Stencil.Text.Decimal
import Stencil.Text.Letter
import Stencil.Text.Lines
import Stencil.Text.Numeral
import Stencil.Text.Ranges
import Stencil.Text.Slice
import Stencil.Text.Space
import Stencil.Text.Uppercase
import Stencil.Text.Utf8

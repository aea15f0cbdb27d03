import Missive.Text.Identifier
import Missive.Text.Printable
import Missive.Text.Alphanumeric
import Missive.Text.Uppercase
import Missive.Text.Utf8
import Missive.Text.Blank
import Missive.Text.Quoted
import Missive.Decimal.Literal
import Missive.Dictionary
import Missive.Notice
import Missive.Fingerprint
import Missive.Value
import Missive.Definition.Service
import Missive.Config.File
import Missive.Registry.Standard
import Missive.Codec.Error
import Missive.Wire.Element
import Missive.Codec.Encode
import Missive.Codec.Extent
import Missive.Instance.Read
import Missive.Instance.Write
import Missive.Code.Word
import Missive.Code.Syntax
import Missive.Code.Raw
import Missive.Code.Layout
import Missive.Code.Formatted
import Missive.Code.Formatter
import Missive.Code.Validity
import Missive.Code.Lexeme
import Missive.Code.Heading
import Missive.Code.HeadingDoc
import Missive.Code.Outline
import Missive.Emission.Generate
import Missive.Files.Tree
import Missive.Main
import Missive.Proofs.Decoding
import Missive.Proofs.Budgets
import Missive.Proofs.Encoding
import Missive.Proofs.RoundTrip
import Missive.Proofs.Weights
import Missive.Proofs.Canonical
import Missive.Proofs.Walking
import Missive.Proofs.Zeros
import Missive.Proofs.Mirroring
import Missive.Proofs.Instances
import Missive.Proofs.Writing
import Missive.Proofs.Restoring
import Missive.Proofs.Limits
import Missive.Proofs.Delimiting
import Missive.Proofs.Refilling
import Missive.Proofs.Prefixes
import Missive.Proofs.Grammar
import Missive.Proofs.Lines
import Missive.Proofs.Assignments
import Missive.Proofs.Nesting
import Missive.Proofs.Counts
import Missive.Proofs.Descent
import Missive.Proofs.Termination
import Missive.Proofs.Overlays
import Missive.Proofs.Joining
import Missive.Proofs.Sections
import Missive.Proofs.Conformance
import Missive.Proofs.Readers
import Missive.Proofs.Rereading
import Missive.Proofs.Vocabulary
import Missive.Proofs.Statements
import Missive.Proofs.Directives
import Missive.Proofs.Imports
import Missive.Proofs.Sizes
import Missive.Proofs.DeclaredCounts
import Missive.Proofs.Chunks
import Missive.Proofs.Casing
import Missive.Proofs.Scopes
import Missive.Proofs.Bindings
import Missive.Proofs.Overwriting
import Missive.Proofs.Boundaries
import Missive.Proofs.Sinks
import Missive.Proofs.Interruptions
import Missive.Proofs.Registrations
import Missive.Proofs.Emptiness
import Missive.Proofs.TypeNames
import Missive.Proofs.FileChanges
import Missive.Proofs.Comments
import Missive.Proofs.Separators
import Missive.Proofs.Collisions
import Missive.Proofs.Outlines
import Missive.Proofs.Contents
import Missive.Proofs.Injections
import Missive.Proofs.Literals
import Missive.Proofs.Layouts
import Missive.Proofs.Blocks
import Missive.Proofs.Descriptors
import Missive.Proofs.Numerals
import Missive.Proofs.Drafts
import Missive.Proofs.Spans
import Missive.Proofs.Carries
import Missive.Proofs.Cursors

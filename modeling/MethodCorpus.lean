import MethodCorpus.CommandLine.Arguments
import MethodCorpus.CommandLine.Program
import MethodCorpus.Config.Basic
import MethodCorpus.Config.Encoding
import MethodCorpus.Config.File
import MethodCorpus.Corpus.Filter
import MethodCorpus.Corpus.Labeling
import MethodCorpus.Corpus.Listed
import MethodCorpus.Corpus.Report
import MethodCorpus.Corpus.Run
import MethodCorpus.Corpus.Source
import MethodCorpus.Corpus.Store
import MethodCorpus.Corpus.Unit
import MethodCorpus.Corpus.Walk
import MethodCorpus.Count
import MethodCorpus.Diagnostic
import MethodCorpus.Digest.Sha256
import MethodCorpus.Error
import MethodCorpus.FileSystem.Access
import MethodCorpus.FileSystem.Basic
import MethodCorpus.FileSystem.Listing
import MethodCorpus.Glob
import MethodCorpus.Json.Basic
import MethodCorpus.Json.Literal
import MethodCorpus.Json.Parser
import MethodCorpus.Json.Printer
import MethodCorpus.Json.Record
import MethodCorpus.Label.Segment
import MethodCorpus.Label.Vocabulary
import MethodCorpus.Main
import MethodCorpus.Path
import MethodCorpus.Proofs.CommandLine.Program
import MethodCorpus.Proofs.Config.Encoding
import MethodCorpus.Proofs.Config.File
import MethodCorpus.Proofs.Config.Saving
import MethodCorpus.Proofs.Corpus.Diagnostics
import MethodCorpus.Proofs.Corpus.Failure
import MethodCorpus.Proofs.Corpus.Filtering
import MethodCorpus.Proofs.Corpus.Identity
import MethodCorpus.Proofs.Corpus.Lines
import MethodCorpus.Proofs.Corpus.Rerun
import MethodCorpus.Proofs.Corpus.Run
import MethodCorpus.Proofs.Corpus.Sources
import MethodCorpus.Proofs.Corpus.Store
import MethodCorpus.Proofs.Corpus.Survivors
import MethodCorpus.Proofs.Corpus.Totals
import MethodCorpus.Proofs.Corpus.Walk
import MethodCorpus.Proofs.FileSystem.Below
import MethodCorpus.Proofs.FileSystem.Contents
import MethodCorpus.Proofs.FileSystem.Deletion
import MethodCorpus.Proofs.FileSystem.Listing
import MethodCorpus.Proofs.FileSystem.Places
import MethodCorpus.Proofs.FileSystem.Repetition
import MethodCorpus.Proofs.FileSystem.WellFormed
import MethodCorpus.Proofs.Json.Lines
import MethodCorpus.Proofs.Json.Literal
import MethodCorpus.Proofs.Json.Record
import MethodCorpus.Proofs.Json.RoundTrip
import MethodCorpus.Proofs.Path
import MethodCorpus.Proofs.Signature.AntlrParameters
import MethodCorpus.Proofs.Signature.AntlrReading
import MethodCorpus.Proofs.Signature.Collecting
import MethodCorpus.Proofs.Signature.Diagnostics
import MethodCorpus.Proofs.Signature.Ownership
import MethodCorpus.Proofs.Signature.Parameters
import MethodCorpus.Proofs.Signature.Reading
import MethodCorpus.Proofs.Signature.Resplit
import MethodCorpus.Proofs.Signature.Scope
import MethodCorpus.Proofs.Signature.Split
import MethodCorpus.Proofs.Signature.TypeText
import MethodCorpus.Proofs.SyntaxTree.Comments
import MethodCorpus.Proofs.SyntaxTree.Conversion
import MethodCorpus.Proofs.SyntaxTree.Enclosing
import MethodCorpus.Proofs.SyntaxTree.Methods
import MethodCorpus.Proofs.SyntaxTree.Parameters
import MethodCorpus.Proofs.SyntaxTree.Placement
import MethodCorpus.Proofs.SyntaxTree.Signatures
import MethodCorpus.Proofs.Text.Words
import MethodCorpus.Proofs.Traverse
import MethodCorpus.Proofs.Tree.Calls
import MethodCorpus.Proofs.Tree.Dump
import MethodCorpus.Proofs.Tree.Lineage
import MethodCorpus.Proofs.Tree.Numbering
import MethodCorpus.Proofs.Tree.Order
import MethodCorpus.Proofs.Tree.RoundTrip
import MethodCorpus.Proofs.Tree.Turns
import MethodCorpus.Proofs.Tree.Value
import MethodCorpus.Proofs.Tree.Walk
import MethodCorpus.Signature.Antlr
import MethodCorpus.Signature.Basic
import MethodCorpus.Signature.Collecting
import MethodCorpus.Signature.Encoding
import MethodCorpus.Signature.Split
import MethodCorpus.Signature.Srcml
import MethodCorpus.SyntaxTree.Basic
import MethodCorpus.SyntaxTree.Conversion
import MethodCorpus.SyntaxTree.Listing
import MethodCorpus.SyntaxTree.Markup
import MethodCorpus.Text.Alphabetic
import MethodCorpus.Text.LetterCase
import MethodCorpus.Text.Numeric
import MethodCorpus.Text.Printable
import MethodCorpus.Text.Quoted
import MethodCorpus.Text.Ranges
import MethodCorpus.Text.Words
import MethodCorpus.Toml.Lexical
import MethodCorpus.Toml.Parser
import MethodCorpus.Toml.Scalar
import MethodCorpus.Toml.Table
import MethodCorpus.Tree.Copy
import MethodCorpus.Tree.Display
import MethodCorpus.Tree.Dump
import MethodCorpus.Tree.Node
import MethodCorpus.Tree.Raw
import MethodCorpus.Tree.Table
import MethodCorpus.Tree.Traversal

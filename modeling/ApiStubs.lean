import ApiStubs.Main
import ApiStubs.Proofs.Escape.Comment
import ApiStubs.Proofs.Block.Comment
import ApiStubs.Proofs.XPath.EntryQuery
import ApiStubs.Proofs.Transform
import ApiStubs.Proofs.Files.Access
import ApiStubs.Proofs.Generate
import ApiStubs.Proofs.Escape.Reference
import ApiStubs.Proofs.Xml.Content
import ApiStubs.Proofs.Xml.Decoder
import ApiStubs.Proofs.Xml.RoundTrip
import ApiStubs.Proofs.Text.Pieces
import ApiStubs.Proofs.Block.Lines
import ApiStubs.Proofs.Block.Statement
import ApiStubs.Proofs.Assembly
import ApiStubs.Proofs.Entry.Reading
import ApiStubs.Proofs.CommandLine.Stage
import ApiStubs.Proofs.Entry.Acceptance
import ApiStubs.Proofs.Xml.Document
import ApiStubs.Proofs.Xml.Occurrence
import ApiStubs.Proofs.XPath.Place
import ApiStubs.Proofs.XPath.Selection
import ApiStubs.Proofs.FeedFault
import ApiStubs.Proofs.Regeneration
import ApiStubs.Proofs.Table
import ApiStubs.Proofs.Toml.Layer
import ApiStubs.Proofs.Settings.Layers
import ApiStubs.Proofs.CommandLine.Precedence
import ApiStubs.Proofs.Version
import ApiStubs.Proofs.CommandLine.Ending
import ApiStubs.Proofs.Annotation
import ApiStubs.Proofs.Entry.Signature
import ApiStubs.Proofs.Xml.Bare
import ApiStubs.Proofs.Remarks
import ApiStubs.Proofs.Xml.Scan
import ApiStubs.Proofs.Reread
import ApiStubs.Proofs.Parameter.Qualifier
import ApiStubs.Proofs.Parameter.Name
import ApiStubs.Proofs.TypeList
import ApiStubs.Proofs.Parameter.Types
import ApiStubs.Proofs.Block.Placeholder
import ApiStubs.Proofs.Parameter.Identifier
import ApiStubs.Proofs.CommandLine.Spelling
import ApiStubs.Proofs.CommandLine.Order
import ApiStubs.Proofs.CommandLine.Verbosity
import ApiStubs.Proofs.CommandLine.Account
import ApiStubs.Proofs.Escape.Html
import ApiStubs.Proofs.Settings.Overrides
import ApiStubs.Proofs.Xml.Untagged

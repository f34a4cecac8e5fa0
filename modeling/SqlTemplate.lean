import SqlTemplate.Binding
import SqlTemplate.Command
import SqlTemplate.Command.Arguments
import SqlTemplate.Command.Directory
import SqlTemplate.Command.Parameter
import SqlTemplate.Command.PlainText
import SqlTemplate.Command.Similarity
import SqlTemplate.Command.UsageError
import SqlTemplate.Excerpt.CharWidth
import SqlTemplate.Excerpt.Line
import SqlTemplate.Excerpt.Mark
import SqlTemplate.Excerpt.Paint
import SqlTemplate.Excerpt.Row
import SqlTemplate.Listing
import SqlTemplate.Log.Alphanumeric
import SqlTemplate.Log.Event
import SqlTemplate.Log.Filter
import SqlTemplate.Log.Pattern
import SqlTemplate.Log.Pattern.Bracket
import SqlTemplate.Log.Pattern.Escape
import SqlTemplate.Main
import SqlTemplate.Proofs.ByteSlices
import SqlTemplate.Proofs.CharacterRenaming
import SqlTemplate.Proofs.CheckedLayout
import SqlTemplate.Proofs.ClosingQuote
import SqlTemplate.Proofs.Composition
import SqlTemplate.Proofs.DistinctKeys
import SqlTemplate.Proofs.DrawnMessages
import SqlTemplate.Proofs.FilterReading
import SqlTemplate.Proofs.LabelledLiterals
import SqlTemplate.Proofs.LineNumbers
import SqlTemplate.Proofs.ListingLines
import SqlTemplate.Proofs.MaximalMunch
import SqlTemplate.Proofs.PatternNumbers
import SqlTemplate.Proofs.Placeholders
import SqlTemplate.Proofs.PolicyAgreement
import SqlTemplate.Proofs.PrintedRows
import SqlTemplate.Proofs.QuotePairs
import SqlTemplate.Proofs.QuoteParity
import SqlTemplate.Proofs.Reading
import SqlTemplate.Proofs.Rejection
import SqlTemplate.Proofs.Reparsing
import SqlTemplate.Proofs.RunLog
import SqlTemplate.Proofs.RunOutcome
import SqlTemplate.Proofs.SegmentLayout
import SqlTemplate.Proofs.SessionRuns
import SqlTemplate.Proofs.SettingsSpelling
import SqlTemplate.Proofs.StatementConsistency
import SqlTemplate.Proofs.TemplateRecovery
import SqlTemplate.Proofs.TokenJoining
import SqlTemplate.Proofs.TokenRoundTrip
import SqlTemplate.Proofs.WrittenDocuments
import SqlTemplate.Proofs.WrittenSettings
import SqlTemplate.Proofs.WrittenStrings
import SqlTemplate.Proofs.WrittenTables
import SqlTemplate.Report
import SqlTemplate.Session
import SqlTemplate.Settings
import SqlTemplate.SettingsFile
import SqlTemplate.Statement
import SqlTemplate.Text
import SqlTemplate.Token
import SqlTemplate.Toml.Assembly
import SqlTemplate.Toml.Binary64
import SqlTemplate.Toml.Complaint
import SqlTemplate.Toml.Document
import SqlTemplate.Toml.Moment
import SqlTemplate.Toml.Number
import SqlTemplate.Toml.Quoted
import SqlTemplate.Toml.Reader
import SqlTemplate.Toml.StringForm
import SqlTemplate.Toml.Trivia
import SqlTemplate.Toml.Value
import SqlTemplate.Visible

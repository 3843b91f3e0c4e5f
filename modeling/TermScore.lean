import TermScore.CommandLine.Command
import TermScore.Discovery
import TermScore.Listing
import TermScore.Log.Filter
import TermScore.Main
import TermScore.Query.File
import TermScore.Report.Write
import TermScore.Score
import TermScore.Search
import TermScore.Session
import TermScore.Settings
import TermScore.Stats
import TermScore.Words
import TermScore.Workers
import TermScore.Text.Alphanumeric
import TermScore.Proofs.Text.Trim
import TermScore.Proofs.Text.Pattern
import TermScore.Proofs.Text.Lowercase
import TermScore.Proofs.Text.Settled
import TermScore.Proofs.Text.Pieces
import TermScore.Proofs.Text.Lines
import TermScore.Proofs.Scalar
import TermScore.Proofs.Histogram
import TermScore.Proofs.Words.Counting
import TermScore.Proofs.Words.Terms
import TermScore.Proofs.Words.Splitting
import TermScore.Proofs.Query.Lexeme
import TermScore.Proofs.Query.Cut
import TermScore.Proofs.Query.Grammar
import TermScore.Proofs.Query.Parse
import TermScore.Proofs.Query.Print
import TermScore.Proofs.Query.Meaning
import TermScore.Proofs.Query.Polarity
import TermScore.Proofs.Query.TermCounts
import TermScore.Proofs.Query.PhysicalLine
import TermScore.Proofs.Query.Joining
import TermScore.Proofs.Query.Compile
import TermScore.Proofs.Query.Options
import TermScore.Proofs.Query.Source
import TermScore.Proofs.Workers
import TermScore.Proofs.Batch
import TermScore.Proofs.Search
import TermScore.Proofs.Exact
import TermScore.Proofs.Score
import TermScore.Proofs.Totals
import TermScore.Proofs.Query.Findable
import TermScore.Proofs.Path
import TermScore.Proofs.Files.Tree
import TermScore.Proofs.Files.System
import TermScore.Proofs.Report.Place
import TermScore.Proofs.Report.Write
import TermScore.Proofs.Query.LexError
import TermScore.Proofs.Query.TermOrder
import TermScore.Proofs.Query.Viable
import TermScore.Proofs.Files.Folders
import TermScore.Proofs.Json.RoundTrip
import TermScore.Proofs.Query.GrammarError
import TermScore.Proofs.Settings
import TermScore.Proofs.Ranking
import TermScore.Proofs.Words.Rejoined
import TermScore.Proofs.Report.Document
import TermScore.Proofs.Query.Nesting
import TermScore.Proofs.Percentile
import TermScore.Proofs.Stats
import TermScore.Proofs.Discovery
import TermScore.Proofs.Report.Summary
import TermScore.Proofs.Report.Flags
import TermScore.Proofs.Extension

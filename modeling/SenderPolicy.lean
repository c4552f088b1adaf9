import SenderPolicy.Sequence.Total
import SenderPolicy.Text.Table
import SenderPolicy.Text.Blank
import SenderPolicy.Text.Digit
import SenderPolicy.Text.Word
import SenderPolicy.Text.Case
import SenderPolicy.Text.Compose
import SenderPolicy.Text.Printable
import SenderPolicy.Text.Hex
import SenderPolicy.Text.Quoted
import SenderPolicy.Text.Percent
import SenderPolicy.Decimal.Basic
import SenderPolicy.Decimal.Shortest
import SenderPolicy.Decimal.Text
import SenderPolicy.Text.Numeral
import SenderPolicy.Address.Basic
import SenderPolicy.Address.Text
import SenderPolicy.Address.Reader
import SenderPolicy.Address.Cover
import SenderPolicy.Address.Lists
import SenderPolicy.Text.Fold
import SenderPolicy.Domain.Name
import SenderPolicy.Domain.PublicSuffix
import SenderPolicy.Domain.Hostname
import SenderPolicy.Term.Basic
import SenderPolicy.Term.Cidr
import SenderPolicy.Term.Grammar
import SenderPolicy.Packages
import SenderPolicy.Installed
import SenderPolicy.Json.Basic
import SenderPolicy.Json.Display
import SenderPolicy.Json.Pretty
import SenderPolicy.MacroString.Lexeme
import SenderPolicy.MacroString.Expression
import SenderPolicy.MacroString.Reading
import SenderPolicy.MacroString.Analysis
import SenderPolicy.MacroString.Context
import SenderPolicy.MacroString.Expansion
import SenderPolicy.Term.Token
import SenderPolicy.Term.Value
import SenderPolicy.Record.Unquote
import SenderPolicy.Record.Basic
import SenderPolicy.Record.Tokens
import SenderPolicy.Record.Reader
import SenderPolicy.Dns.Question
import SenderPolicy.Dns.Cache
import SenderPolicy.Dns.Session
import SenderPolicy.Dns.Lookup
import SenderPolicy.Sequence.Sort
import SenderPolicy.Sequence.Stride
import SenderPolicy.Sequence.Arrange
import SenderPolicy.Sequence.Bisect
import SenderPolicy.Sequence.Merge
import SenderPolicy.Risk
import SenderPolicy.Record.Budget
import SenderPolicy.Flatten.Branch
import SenderPolicy.Flatten.Mask
import SenderPolicy.Flatten.Plan
import SenderPolicy.Flatten.Walk
import SenderPolicy.Flatten.Workers
import SenderPolicy.Flatten.Result
import SenderPolicy.Json.Reader
import SenderPolicy.Dns.Stub
import SenderPolicy.Dns.Https
import SenderPolicy.Dns.Zone
import SenderPolicy.Advice.Impact
import SenderPolicy.Advice.Includes
import SenderPolicy.Advice.Publishing
import SenderPolicy.Advice.Findings
import SenderPolicy.Advice.Outlook
import SenderPolicy.Advice.Macros
import SenderPolicy.Check.Analysis
import SenderPolicy.Check.Domain
import SenderPolicy.Record.Published
import SenderPolicy.Report.Encode
import SenderPolicy.Report.Table
import SenderPolicy.Settings
import SenderPolicy.CommandLine.Arguments
import SenderPolicy.CommandLine.Options
import SenderPolicy.CommandLine.Run
import SenderPolicy.Main
import SenderPolicy.Proofs.Text.Words
import SenderPolicy.Proofs.Text.Lowering
import SenderPolicy.Proofs.Text.Composing
import SenderPolicy.Proofs.Domain.Alias
import SenderPolicy.Proofs.Domain.Stability
import SenderPolicy.Proofs.Address.ReadBack
import SenderPolicy.Proofs.Address.Blocks
import SenderPolicy.Proofs.Address.Consolidation
import SenderPolicy.Proofs.Term.Written
import SenderPolicy.Proofs.Term.DualLengths
import SenderPolicy.Proofs.Record.Agreement
import SenderPolicy.Proofs.Policy.Meaning
import SenderPolicy.Proofs.Flatten.Branches
import SenderPolicy.Proofs.Flatten.PlanTerms
import SenderPolicy.Proofs.Flatten.CleanWalk
import SenderPolicy.Proofs.Flatten.Paths
import SenderPolicy.Proofs.Flatten.Zones
import SenderPolicy.Proofs.Flatten.Tally
import SenderPolicy.Proofs.Advice.Suggestions
import SenderPolicy.Proofs.Advice.Rebuilding
import SenderPolicy.Proofs.Advice.RebuiltPlan
import SenderPolicy.Proofs.Policy.Coverage
import SenderPolicy.Proofs.Policy.Verdicts
import SenderPolicy.Proofs.Check.Replacement
import SenderPolicy.Proofs.Check.Equivalence
import SenderPolicy.Proofs.Record.Rereading
import SenderPolicy.Proofs.Advice.Splicing
import SenderPolicy.Proofs.MacroString.Numerals
import SenderPolicy.Proofs.MacroString.Bodies
import SenderPolicy.Proofs.MacroString.Grammar
import SenderPolicy.Proofs.MacroString.Decomposition
import SenderPolicy.Proofs.MacroString.Braces
import SenderPolicy.Proofs.Record.Returning
import SenderPolicy.Proofs.Dns.Programs
import SenderPolicy.Proofs.Flatten.Programs
import SenderPolicy.Proofs.Flatten.Reach
import SenderPolicy.Proofs.Dns.Accesses
import SenderPolicy.Proofs.Dns.Retries
import SenderPolicy.Proofs.Flatten.Pool
import SenderPolicy.Proofs.Flatten.PoolEnds
import SenderPolicy.Proofs.Flatten.Invariants
import SenderPolicy.Proofs.Flatten.Containment
import SenderPolicy.Proofs.Dns.Presentation
import SenderPolicy.Proofs.Advice.QuotedStrings
import SenderPolicy.Proofs.Flatten.Deepening
import SenderPolicy.Proofs.Dns.Reordering
import SenderPolicy.Proofs.Flatten.AnswerOrder
import SenderPolicy.Proofs.Address.Spelling
import SenderPolicy.Proofs.Address.NormalForm
import SenderPolicy.Proofs.MacroString.Concatenation
import SenderPolicy.Proofs.MacroString.Failures
import SenderPolicy.Proofs.Record.Lengths
import SenderPolicy.Proofs.Flatten.LookupCounts
import SenderPolicy.Proofs.Flatten.Deadline
import SenderPolicy.Proofs.Flatten.Leftovers
import SenderPolicy.Proofs.Advice.Proposals
import SenderPolicy.Proofs.Domain.Percent
import SenderPolicy.Proofs.Flatten.Percent
import SenderPolicy.Proofs.Check.Percent
import SenderPolicy.Proofs.Flatten.Masking
import SenderPolicy.Proofs.Flatten.Contributions
import SenderPolicy.Proofs.MacroString.Letters
import SenderPolicy.Proofs.MacroString.SenderAddress
import SenderPolicy.Proofs.MacroString.SenderMailbox
import SenderPolicy.Proofs.Text.PercentEncoding
import SenderPolicy.Proofs.MacroString.Encoding
import SenderPolicy.Proofs.MacroString.Labels
import SenderPolicy.Proofs.Record.Classification
import SenderPolicy.Proofs.Advice.Overlaps
import SenderPolicy.Proofs.Record.Independence
import SenderPolicy.Proofs.Record.PolicyWarnings
import SenderPolicy.Proofs.Advice.MacroReports
import SenderPolicy.Proofs.Advice.MacroCounts
import SenderPolicy.Proofs.Address.Sorting
import SenderPolicy.Proofs.Record.Counters
import SenderPolicy.Proofs.Domain.Keys
import SenderPolicy.Proofs.Record.Selection
import SenderPolicy.Proofs.Check.Listing

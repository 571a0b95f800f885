import Contracts.CommandLine
import Contracts.Main
import Contracts.Server.Server
import Contracts.Proofs.Identity.Namespace
import Contracts.Proofs.Store.Document
import Contracts.Proofs.Store.Registry
import Contracts.Proofs.Store.Operation
import Contracts.Proofs.Store.Effect
import Contracts.Proofs.Store.WellFormed
import Contracts.Proofs.Store.Ledger
import Contracts.Proofs.Store.Overtaking
import Contracts.Proofs.Store.Counters
import Contracts.Proofs.Store.Recall
import Contracts.Proofs.Store.Persistence
import Contracts.Proofs.Store.Standing
import Contracts.Proofs.Store.Order
import Contracts.Proofs.Work.System
import Contracts.Proofs.Work.Freshness
import Contracts.Proofs.Work.Invalidation
import Contracts.Proofs.Work.Reads
import Contracts.Proofs.Work.Keeping
import Contracts.Proofs.Work.Loading
import Contracts.Proofs.Work.Barrier
import Contracts.Proofs.Work.Pool
import Contracts.Proofs.Work.Dependents
import Contracts.Proofs.Work.Questions
import Contracts.Proofs.Work.Answers
import Contracts.Proofs.Work.Scanning
import Contracts.Proofs.Work.Alone
import Contracts.Proofs.Work.Checking
import Contracts.Proofs.Server.Handling
import Contracts.Proofs.Server.Showing
import Contracts.Proofs.Server.Notices
import Contracts.Proofs.Server.Publishing
import Contracts.Proofs.Server.Interleaving
import Contracts.Proofs.Text.Lines
import Contracts.Proofs.Text.Places
import Contracts.Proofs.Text.Quoted
import Contracts.Proofs.Text.Utf8
import Contracts.Proofs.Source.Spelling
import Contracts.Proofs.Source.Outcome
import Contracts.Proofs.Source.Lexing
import Contracts.Proofs.Source.Closed
import Contracts.Proofs.Source.Bodies
import Contracts.Proofs.Source.Documents
import Contracts.Proofs.Source.Profiles
import Contracts.Proofs.Source.Maps
import Contracts.Proofs.Source.Trace
import Contracts.Proofs.Source.Faithful
import Contracts.Proofs.Source.Alignment
import Contracts.Proofs.Source.Braces
import Contracts.Proofs.Source.Calls
import Contracts.Proofs.Source.Frontier
import Contracts.Proofs.Source.Errors
import Contracts.Proofs.Source.Extent
import Contracts.Proofs.Editor.Edit
import Contracts.Proofs.Editor.Range
import Contracts.Proofs.Editor.Outline
import Contracts.Proofs.Editor.Units
import Contracts.Proofs.Server.Closing
import Contracts.Proofs.Server.Following
import Contracts.Proofs.Work.Namespaces
import Contracts.Proofs.Work.Accounting
import Contracts.Proofs.Work.Erasure
import Contracts.Proofs.Work.Refusal
import Contracts.Proofs.Identity.Reading
import Contracts.Proofs.Enumeration
import Contracts.Proofs.Validation.Breaches
import Contracts.Proofs.Editor.Search
import Contracts.Proofs.Work.Searching
import Contracts.Proofs.Work.Progress
import Contracts.Proofs.Work.Finding
import Contracts.Proofs.Source.Hints
import Contracts.Proofs.Text.Counting

import TaleLoom.Main
import TaleLoom.Proofs.Act
import TaleLoom.Proofs.Chances
import TaleLoom.Proofs.Consumption.Draws
import TaleLoom.Proofs.Consumption.History
import TaleLoom.Proofs.Consumption.Isolation
import TaleLoom.Proofs.Consumption.Persistence
import TaleLoom.Proofs.Consumption.Records
import TaleLoom.Proofs.Consumption.Rounds
import TaleLoom.Proofs.Consumption.Upkeep
import TaleLoom.Proofs.Desk
import TaleLoom.Proofs.Dice.Formula
import TaleLoom.Proofs.Dice.Notation
import TaleLoom.Proofs.Dice.Totals
import TaleLoom.Proofs.Documents
import TaleLoom.Proofs.Fault
import TaleLoom.Proofs.Files
import TaleLoom.Proofs.Inflection
import TaleLoom.Proofs.Integer
import TaleLoom.Proofs.Keyed
import TaleLoom.Proofs.Lasting
import TaleLoom.Proofs.Lines
import TaleLoom.Proofs.Notices
import TaleLoom.Proofs.Number
import TaleLoom.Proofs.Placeholder.Answers
import TaleLoom.Proofs.Placeholder.Attempts
import TaleLoom.Proofs.Placeholder.Braces
import TaleLoom.Proofs.Placeholder.Breaks
import TaleLoom.Proofs.Placeholder.Cleared
import TaleLoom.Proofs.Placeholder.Continuation
import TaleLoom.Proofs.Placeholder.Diagnostics
import TaleLoom.Proofs.Placeholder.Draws
import TaleLoom.Proofs.Placeholder.Failure
import TaleLoom.Proofs.Placeholder.Flat
import TaleLoom.Proofs.Placeholder.FlatAnswers
import TaleLoom.Proofs.Placeholder.Groups
import TaleLoom.Proofs.Placeholder.Inert
import TaleLoom.Proofs.Placeholder.Modes
import TaleLoom.Proofs.Placeholder.NamedSparks
import TaleLoom.Proofs.Placeholder.Outcome
import TaleLoom.Proofs.Placeholder.Passes
import TaleLoom.Proofs.Placeholder.Range
import TaleLoom.Proofs.Placeholder.Refusals
import TaleLoom.Proofs.Placeholder.Replay
import TaleLoom.Proofs.Placeholder.Requests
import TaleLoom.Proofs.Placeholder.Segments
import TaleLoom.Proofs.Placeholder.Single
import TaleLoom.Proofs.Placeholder.Sure
import TaleLoom.Proofs.Placeholder.TableBreaks
import TaleLoom.Proofs.Placeholder.Trail
import TaleLoom.Proofs.Record
import TaleLoom.Proofs.Registry.Coverage
import TaleLoom.Proofs.Registry.Load
import TaleLoom.Proofs.Registry.Lookup
import TaleLoom.Proofs.Registry.Precedence
import TaleLoom.Proofs.Registry.Registered
import TaleLoom.Proofs.Registry.Search
import TaleLoom.Proofs.Repository.Conflicts
import TaleLoom.Proofs.Repository.Growth
import TaleLoom.Proofs.Repository.Keywords
import TaleLoom.Proofs.Repository.Listing
import TaleLoom.Proofs.Repository.Overrides
import TaleLoom.Proofs.Repository.Relevant
import TaleLoom.Proofs.Routine
import TaleLoom.Proofs.RunLog.Loading
import TaleLoom.Proofs.RunLog.Numbering
import TaleLoom.Proofs.RunLog.TakingUp
import TaleLoom.Proofs.Spark.Default
import TaleLoom.Proofs.Spark.Draw
import TaleLoom.Proofs.Spark.Import
import TaleLoom.Proofs.Spark.KeywordList
import TaleLoom.Proofs.Spark.Keywords
import TaleLoom.Proofs.Spark.Saved
import TaleLoom.Proofs.Table.Attempts
import TaleLoom.Proofs.Table.Coverage
import TaleLoom.Proofs.Table.Definition
import TaleLoom.Proofs.Table.Difficulty
import TaleLoom.Proofs.Table.Entries
import TaleLoom.Proofs.Table.Roll
import TaleLoom.Proofs.Template
import TaleLoom.Proofs.Text
import TaleLoom.Proofs.Timestamp
import TaleLoom.Proofs.Unwarned
import TaleLoom.Proofs.Value.Allowance
import TaleLoom.Proofs.Value.Order
import TaleLoom.Proofs.Value.Room
import TaleLoom.Proofs.Value.RoundTrip
import TaleLoom.Proofs.Value.Same
import TaleLoom.Proofs.Value.Short
import TaleLoom.Proofs.Value.Whole
import TaleLoom.RunLog.Archive
import TaleLoom.Session

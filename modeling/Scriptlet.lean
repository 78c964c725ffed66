import Scriptlet.CommandLine.Program
import Scriptlet.Config.Load
import Scriptlet.Detection.Detector
import Scriptlet.Execution
import Scriptlet.Highlight.Analysis
import Scriptlet.Log.Sink
import Scriptlet.Main
import Scriptlet.Selection
import Scriptlet.Yaml.Document
import Scriptlet.Proofs.Highlight.Proposal
import Scriptlet.Proofs.IntervalSet.Ordered
import Scriptlet.Proofs.IntervalSet.Calls
import Scriptlet.Proofs.Highlight.Claims
import Scriptlet.Proofs.Highlight.Disjoint
import Scriptlet.Proofs.Highlight.LineBreak
import Scriptlet.Proofs.Execution.Call
import Scriptlet.Proofs.Execution.History
import Scriptlet.Proofs.Path.Text
import Scriptlet.Proofs.Config.Validity
import Scriptlet.Proofs.Config.Execution
import Scriptlet.Proofs.Data.Entries
import Scriptlet.Proofs.Config.Commands
import Scriptlet.Proofs.Config.Layers
import Scriptlet.Proofs.Config.Loading
import Scriptlet.Proofs.Config.Rereading
import Scriptlet.Proofs.Config.Precedence
import Scriptlet.Proofs.FileSystem.Follow
import Scriptlet.Proofs.Execution.ScriptPath
import Scriptlet.Proofs.Number.Order
import Scriptlet.Proofs.Detection.Ranking
import Scriptlet.Proofs.Detection.Results
import Scriptlet.Proofs.Detection.Settled
import Scriptlet.Proofs.Launch.Words
import Scriptlet.Proofs.Launch.Request
import Scriptlet.Proofs.Execution.Failure
import Scriptlet.Proofs.Text.Newline
import Scriptlet.Proofs.Log.Sink
import Scriptlet.Proofs.CommandLine.Action
import Scriptlet.Proofs.CommandLine.Dialogue
import Scriptlet.Proofs.CommandLine.Run
import Scriptlet.Proofs.CommandLine.Accounting
import Scriptlet.Proofs.CommandLine.Loading
import Scriptlet.Proofs.CommandLine.Listing
import Scriptlet.Proofs.Execution.Steps
import Scriptlet.Proofs.Execution.Interleaving
import Scriptlet.Proofs.Config.Identifiers
import Scriptlet.Proofs.Highlight.Keywords
import Scriptlet.Proofs.Highlight.LetterCase
import Scriptlet.Proofs.Highlight.Comments
import Scriptlet.Proofs.Highlight.Numbers
import Scriptlet.Proofs.Highlight.Quotes
import Scriptlet.Proofs.Highlight.NumberLiterals
import Scriptlet.Proofs.Detection.AddedLines
import Scriptlet.Proofs.Detection.MainPackage
import Scriptlet.Proofs.Detection.Bands
import Scriptlet.Proofs.Detection.Shebang
import Scriptlet.Proofs.Highlight.Loops
import Scriptlet.Proofs.IntervalSet.InsertionOrder
import Scriptlet.Proofs.Execution.ScriptName
import Scriptlet.Proofs.Config.CommandTable

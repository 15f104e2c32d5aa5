import Reindent.Attempt
import Reindent.Builder
import Reindent.Capacity
import Reindent.CommandLine
import Reindent.Cursor
import Reindent.Encoding
import Reindent.Encoding.Bytes
import Reindent.Encoding.Decoder
import Reindent.Encoding.Utf8
import Reindent.Failure
import Reindent.Fault
import Reindent.Feed
import Reindent.FileTree
import Reindent.FormatFile
import Reindent.Formatter
import Reindent.Formatter.Progress
import Reindent.Formatter.Run
import Reindent.HeldTag
import Reindent.Log
import Reindent.Main
import Reindent.Path
import Reindent.Place
import Reindent.Proofs.Agreement
import Reindent.Proofs.Chunking
import Reindent.Proofs.Delivery
import Reindent.Proofs.Layout
import Reindent.Proofs.Markup
import Reindent.Reads
import Reindent.Reference
import Reindent.Reference.Name
import Reindent.Session
import Reindent.Settings
import Reindent.Sink
import Reindent.Tag
import Reindent.Tally
import Reindent.Text
import Reindent.Text.Blank
import Reindent.Text.Digit
import Reindent.Text.Printable
import Reindent.Text.Quoted
import Reindent.Proofs.Simulation
import Reindent.Proofs.Document
import Reindent.Proofs.Language
import Reindent.Proofs.Reformatting
import Reindent.Proofs.CharacterData
import Reindent.Proofs.Lockstep
import Reindent.Proofs.Position
import Reindent.Proofs.Streaming
import Reindent.Proofs.Retrying
import Reindent.Proofs.TagCount
import Reindent.Proofs.ViablePrefix
import Reindent.Proofs.Decoding
import Reindent.Proofs.Destination
import Reindent.Proofs.OpenFiles
import Reindent.Proofs.FileFormatting
import Reindent.Proofs.OverlongReference
import Reindent.Proofs.SessionBlocks
import Reindent.Proofs.DocumentedFailures
import Reindent.Proofs.BrokenTags
import Reindent.Proofs.Counts
import Reindent.Proofs.Diagnostics
import Reindent.Proofs.Words
import Reindent.Proofs.Accounting
import Reindent.Proofs.BetweenSteps
import Reindent.Proofs.CursorSafety
import Reindent.Proofs.EscapedText
import Reindent.Proofs.Indifference
import Reindent.Proofs.Answers
import Reindent.Proofs.Exhaustion

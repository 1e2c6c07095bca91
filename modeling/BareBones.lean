import BareBones.Text.Basic
import BareBones.Text.Blank
import BareBones.Text.Break
import BareBones.Text.Digit
import BareBones.Text.Printable
import BareBones.Text.Quoted
import BareBones.Text.Utf8
import BareBones.Failure
import BareBones.DepthLimit
import BareBones.Numeral
import BareBones.Pathname
import BareBones.Source.Location
import BareBones.Source.Line
import BareBones.Source.Cursor
import BareBones.Source.Boundary
import BareBones.Source.Block
import BareBones.Statement
import BareBones.Bindings
import BareBones.Value
import BareBones.Store
import BareBones.Operand
import BareBones.Predicate
import BareBones.Format
import BareBones.Event
import BareBones.Journal
import BareBones.Machine.State
import BareBones.Machine.Step
import BareBones.Machine.Run
import BareBones.Report.Json
import BareBones.Report.Traceback
import BareBones.Console
import BareBones.Options
import BareBones.Binary64
import BareBones.Timer
import BareBones.CommandLine
import BareBones.Main
import BareBones.Proofs.Scoping
import BareBones.Proofs.Deed
import BareBones.Proofs.Footprint
import BareBones.Proofs.Conduct
import BareBones.Proofs.Nested
import BareBones.Proofs.Step
import BareBones.Proofs.Course
import BareBones.Proofs.Refinement
import BareBones.Proofs.LiveFrames
import BareBones.Proofs.Layering
import BareBones.Proofs.Provenance
import BareBones.Proofs.Enclosure
import BareBones.Proofs.Closing
import BareBones.Proofs.Blame
import BareBones.Proofs.Blocks
import BareBones.Proofs.Balance
import BareBones.Proofs.BalancedRuns
import BareBones.Proofs.Lockstep
import BareBones.Proofs.Deeper
import BareBones.Proofs.Verbosity
import BareBones.Proofs.AlikeStores
import BareBones.Proofs.AlikeRuns
import BareBones.Proofs.Brackets
import BareBones.Proofs.Observers
import BareBones.Proofs.Telling
import BareBones.Proofs.Termination
import BareBones.Proofs.Scanning
import BareBones.Proofs.Rendering
import BareBones.Proofs.Escaping
import BareBones.Proofs.Headers
import BareBones.Proofs.Parentage
import BareBones.Proofs.Placing
import BareBones.Proofs.Sharing
import BareBones.Proofs.Sessions
import BareBones.Proofs.Pathless
import BareBones.Proofs.Twins
import BareBones.Proofs.Relabelling
import BareBones.Proofs.Tracking
import BareBones.Proofs.Sequencing
import BareBones.Proofs.Branching
import BareBones.Proofs.Entries
import BareBones.Proofs.Joining
import BareBones.Proofs.Recovery
import BareBones.Proofs.Sprouting
import BareBones.Proofs.Shadowing
import BareBones.Proofs.Spared
import BareBones.Proofs.Bookmarks
import BareBones.Proofs.Pointing
import BareBones.Proofs.Keeping
import BareBones.Proofs.Interruption
import BareBones.Proofs.Spellings
import BareBones.Proofs.ExitStatus
import BareBones.Proofs.Carving
import BareBones.Proofs.Backing
import BareBones.Proofs.Arithmetic
import BareBones.Proofs.Unended
import BareBones.Proofs.Comparing
import BareBones.Proofs.Strictness
import BareBones.Proofs.Segments
import BareBones.Proofs.TopScope
import BareBones.Proofs.Evaluation
import BareBones.Proofs.Countdown
import BareBones.Proofs.Pouring
import BareBones.Proofs.Conversions
import BareBones.Proofs.Registering
import BareBones.Proofs.Remembering
import BareBones.Proofs.Gathering
import BareBones.Proofs.Comments
import BareBones.Proofs.Operands
import BareBones.Proofs.Advancing

import TraceScan.Grammar.Outline
import TraceScan.Main
import TraceScan.Proofs.VisibleText
import TraceScan.Proofs.Matching.Independence
import TraceScan.Proofs.Matching.Window
import TraceScan.Proofs.Engine.Chunks
import TraceScan.Proofs.Engine.Selection
import TraceScan.Proofs.Engine.Capacity
import TraceScan.Proofs.Engine.Rescan
import TraceScan.Proofs.Registry.Consistency
import TraceScan.Proofs.Engine.ChunkEnds
import TraceScan.Proofs.Engine.Separation
import TraceScan.Proofs.Engine.Alignment
import TraceScan.Proofs.Engine.Replay
import TraceScan.Proofs.Engine.VisibleInput
import TraceScan.Proofs.CommandLine.Navigation
import TraceScan.Proofs.Engine.Diagnostics
import TraceScan.Proofs.Engine.Grounding
import TraceScan.Proofs.Engine.Replacement
import TraceScan.Proofs.Report.Scan
import TraceScan.Proofs.PositionMap.Nearest
import TraceScan.Proofs.LocationIndex.Changes
import TraceScan.Proofs.LocationIndex.Nearest
import TraceScan.Proofs.LocationIndex.Steps
import TraceScan.Proofs.Registry.SetUpReport
import TraceScan.Proofs.RollingView.History
import TraceScan.Proofs.Engine.LoneLines
import TraceScan.Proofs.Matching.Locality
import TraceScan.Proofs.Grammar.Exactness
import TraceScan.Proofs.Pattern.Drives
import TraceScan.Proofs.Engine.Takers
import TraceScan.Proofs.Engine.SharedHeaders
import TraceScan.Proofs.Engine.Drives
import TraceScan.Proofs.Pattern.Frames
import TraceScan.Proofs.Engine.Frames
import TraceScan.Proofs.Path.Drives
import TraceScan.Proofs.Path.Scheme
import TraceScan.Proofs.Pattern.Literals
import TraceScan.Proofs.Grammar.Tracebacks
import TraceScan.Proofs.Grammar.ScriptFrames
import TraceScan.Proofs.Grammar.Messages
import TraceScan.Proofs.Report.Listing
import TraceScan.Proofs.Report.Statistics
import TraceScan.Overflow
import TraceScan.Proofs.Overflow

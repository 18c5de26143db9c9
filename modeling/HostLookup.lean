import HostLookup.Main
import HostLookup.Proofs.Queue.Traffic
import HostLookup.Queue.Crowd
import HostLookup.Run.Pool
import HostLookup.Stage.Exchange
import HostLookup.Proofs.Queue.Balance
import HostLookup.Proofs.Queue.Ledger
import HostLookup.Proofs.Traces
import HostLookup.Proofs.Queue.Moves
import HostLookup.Proofs.Queue.Conservation
import HostLookup.Proofs.Queue.Order
import HostLookup.Proofs.Worker.Moves
import HostLookup.Proofs.Worker.Ends
import HostLookup.Proofs.Run.Moves
import HostLookup.Proofs.Run.Threads
import HostLookup.Proofs.Run.History
import HostLookup.Proofs.Run.Course
import HostLookup.Proofs.Run.Orderly
import HostLookup.Proofs.Run.Start
import HostLookup.Proofs.Run.Waiting
import HostLookup.Proofs.Interleaving
import HostLookup.Proofs.Sink.Written
import HostLookup.Proofs.Worker.Terms
import HostLookup.Proofs.Worker.Deeds
import HostLookup.Proofs.Run.Teardown
import HostLookup.Proofs.Run.Calm
import HostLookup.Proofs.Run.Stories
import HostLookup.Proofs.Run.Audit
import HostLookup.Proofs.Run.Books
import HostLookup.Proofs.Run.Shares
import HostLookup.Proofs.Run.Chronicle
import HostLookup.Proofs.Run.Outcome
import HostLookup.Proofs.Queue.Wakeups
import HostLookup.Proofs.Sink.Released
import HostLookup.Proofs.Worker.Endings
import HostLookup.Proofs.Run.Paths
import HostLookup.Proofs.Run.Causes
import HostLookup.Proofs.Run.Sentinels
import HostLookup.Proofs.Run.Verdict
import HostLookup.Proofs.Worker.Alike
import HostLookup.Proofs.Run.Alike
import HostLookup.Proofs.Run.Refusals
import HostLookup.Proofs.Queue.Closing
import HostLookup.Proofs.Stage.Trading
import HostLookup.Proofs.Stage.Delivery
import HostLookup.Proofs.Worker.Replies
import HostLookup.Proofs.Run.Trails
import HostLookup.Proofs.Run.Totals
import HostLookup.Proofs.Run.Sources
import HostLookup.Proofs.Run.Sole
import HostLookup.Proofs.Sink.Moves
import HostLookup.Proofs.Sink.Visits
import HostLookup.Proofs.Sink.Teardown
import HostLookup.Proofs.Stage.Moves
import HostLookup.Proofs.Stage.Fates
import HostLookup.Proofs.Stage.Claims
import HostLookup.Run.Launch
import HostLookup.Proofs.Worker.Effort
import HostLookup.Proofs.Run.Effort
import HostLookup.Proofs.Config.Requirements
import HostLookup.Proofs.Run.Launch
import HostLookup.Proofs.Run.Feeding
import HostLookup.Worker.Among
import HostLookup.Proofs.Worker.WayOut
import HostLookup.Proofs.Worker.Departures
import HostLookup.Proofs.Worker.Findings
import HostLookup.Proofs.Worker.LoopRuns
import HostLookup.Proofs.Text.Utf8
import HostLookup.Proofs.Program.Courses
import HostLookup.Proofs.Sink.Rounds
import HostLookup.Proofs.Text.Lines
import HostLookup.Proofs.Worker.Expansion
import HostLookup.Proofs.Worker.Servicing
import HostLookup.Proofs.Config.Precedence
import HostLookup.Proofs.Run.Joining

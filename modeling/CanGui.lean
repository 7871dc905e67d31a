import CanGui.Boot.AntiRollback
import CanGui.Boot.Runs
import CanGui.Uds.Transfers
import CanGui.Update.Complete
import CanGui.IsoTp.RoundTrip
import CanGui.IsoTp.WaitBudget
import CanGui.IsoTp.Memory
import CanGui.IsoTp.Reception
import CanGui.Tic.View
import CanGui.Tic.Polarity
import CanGui.BusOff.Restart
import CanGui.BusOff.Bookkeeping
import CanGui.Transport.Delivery
import CanGui.Log.Journal
import CanGui.Log.Transfer
import CanGui.Command.Accounting
import CanGui.Command.Truth
import CanGui.Control.Interlock
import CanGui.Control.Transmission
import CanGui.Control.Restore
import CanGui.Uds.Coupling
import CanGui.Uds.ReadDid
import CanGui.IsoTp.Outcome
import CanGui.IsoTp.Conversation
import CanGui.IsoTp.Aborted
import CanGui.IsoTp.Directions
import CanGui.Update.LifeCycle
import CanGui.Session.Outcomes
import CanGui.Session.Correlation
import CanGui.Log.Restart
import CanGui.Boot.Format
import CanGui.Boot.Protocol
import CanGui.Boot.Image
import CanGui.Uds.Attempts
import CanGui.Health.Monitor
import CanGui.Fault.Capture
import CanGui.Watchdog.Gate
import CanGui.Command.Agreement
import CanGui.Rtc.Verify
import CanGui.Rtc.RoundTrip
import CanGui.Rtc.HourMode
import CanGui.Rtc.Events
import CanGui.Tic.Frames
import CanGui.Control.History
import CanGui.Timing.Percentile
import CanGui.Dbc.Codec
import CanGui.Dbc.Coverage
import CanGui.Stack.Envelope
import CanGui.Uds.Accounts
import CanGui.Stack.Paths
import CanGui.Update.Termination
import CanGui.Rtc.Hundredths
import CanGui.Log.CatchUp
import CanGui.Telemetry.Encoders
import CanGui.Rtc.Link
import CanGui.Telemetry.Signals
import CanGui.Diagnostics.Polling
import CanGui.Diagnostics.Reports
import CanGui.Boot.Bursts

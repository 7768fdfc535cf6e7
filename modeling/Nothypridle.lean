import Nothypridle.Lib.Transition
import Nothypridle.Lib.Simulation
import Nothypridle.Lib.Entries
import Nothypridle.Lib.Matching
import Nothypridle.Lib.Extrema
import Nothypridle.Lib.Separator
import Nothypridle.Lib.Text
import Nothypridle.Lib.Words
import Nothypridle.Lib.Machine
import Nothypridle.Lib.Locks
import Nothypridle.Lib.FileName
import Nothypridle.Lib.Lossy
import Nothypridle.Lib.Preference
import Nothypridle.Monitor
import Nothypridle.Config
import Nothypridle.RuleDir
import Nothypridle.Resources
import Nothypridle.Drm
import Nothypridle.Helpers
import Nothypridle.IdleCycle
import Nothypridle.Wayland
import Nothypridle.Daemon
import Nothypridle.Dbus
import Nothypridle.App
import Nothypridle.Fakes
import Nothypridle.Client
import Nothypridle.System
import Nothypridle.Session
import Nothypridle.PollSteps
import Nothypridle.Proof.Inhibit
import Nothypridle.Proof.GpuMetrics
import Nothypridle.Proof.SchemaLoader
import Nothypridle.Proof.Moves
import Nothypridle.Proof.IdlePeriod
import Nothypridle.Proof.Restore
import Nothypridle.Proof.RestoreLedger
import Nothypridle.Proof.StaleChecker
import Nothypridle.Proof.ShellOrder
import Nothypridle.Proof.HookSource
import Nothypridle.Proof.DeadComponent
import Nothypridle.Proof.ShellText
import Nothypridle.Proof.QuotedValues
import Nothypridle.Proof.FullscreenTracking
import Nothypridle.Proof.VendorFold
import Nothypridle.Proof.OutcomeLaw
import Nothypridle.Proof.OtherSessions
import Nothypridle.Proof.PoisonedMonitor
import Nothypridle.Proof.Consulted
import Nothypridle.Proof.Warnings
import Nothypridle.Proof.LockOrder
import Nothypridle.Proof.ScratchFiles
import Nothypridle.Proof.CardSelection
import Nothypridle.Proof.Registration
import Nothypridle.Proof.ClientMoves
import Nothypridle.Proof.RuleView
import Nothypridle.Proof.FiresUninhibited
import Nothypridle.Proof.RuleIsolation
import Nothypridle.Proof.RuleLoading
import Nothypridle.Proof.Accounting
import Nothypridle.Proof.SessionRefinement
import Nothypridle.Proof.PollAtomicity
import Nothypridle.Proof.SameAnswers
import Nothypridle.Proof.EnumerationOrder
import Nothypridle.Proof.Rest
import Nothypridle.Proof.RuleLog
import Nothypridle.Proof.LooserRules
import Nothypridle.Proof.DaemonRefinement
import Nothypridle.Proof.TimesOut
import Nothypridle.Proof.CallsServed

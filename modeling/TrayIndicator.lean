import TrayIndicator.Main
import TrayIndicator.Tray.EventLoop
import TrayIndicator.Tray.MainLoop
import TrayIndicator.Proofs.Settings.RoundTrip
import TrayIndicator.Proofs.Settings.Effective
import TrayIndicator.Proofs.Settings.RootTable
import TrayIndicator.Proofs.Tray.Passes
import TrayIndicator.Proofs.Tray.Backends
import TrayIndicator.Proofs.Tray.Lifetime
import TrayIndicator.Proofs.Tray.MainLoop
import TrayIndicator.Proofs.Tray.Session
import TrayIndicator.Proofs.Indicator.Failures
import TrayIndicator.Proofs.Machine.Accounts
import TrayIndicator.Proofs.Doctor.Report
import TrayIndicator.Proofs.Doctor.Startable
import TrayIndicator.Proofs.Program.Gate
import TrayIndicator.Proofs.Program.TrayRuns
import TrayIndicator.Proofs.Tray.Clicks
import TrayIndicator.Proofs.Tray.AfterQuit
import TrayIndicator.Proofs.CommandLine.Placement
import TrayIndicator.Proofs.Icon.Samples
import TrayIndicator.Proofs.Icon.Shape
import TrayIndicator.Proofs.Icon.Chunks
import TrayIndicator.Proofs.Icon.Filtering
import TrayIndicator.Proofs.Icon.Stored
import TrayIndicator.Proofs.Icon.TrayFile
import TrayIndicator.Proofs.Tray.ShownIcons
import TrayIndicator.Proofs.Settings.LineEnds
import TrayIndicator.Proofs.Settings.Shown
import TrayIndicator.Proofs.Settings.HomeTarget
import TrayIndicator.Proofs.Settings.Layers
import TrayIndicator.Proofs.Settings.Absence
import TrayIndicator.Proofs.Calendar
import TrayIndicator.Proofs.Files.Changes
import TrayIndicator.Proofs.CrashReport

import LiveSketch.Directive
import LiveSketch.Host
import LiveSketch.Main
import LiveSketch.Proofs.Canvas.Capture
import LiveSketch.Proofs.Canvas.Invariant
import LiveSketch.Proofs.Canvas.Overlay
import LiveSketch.Proofs.FrameClock.Grid
import LiveSketch.Proofs.FrameClock.Intervals
import LiveSketch.Proofs.FrameClock.Rates
import LiveSketch.Proofs.HostPointer
import LiveSketch.Proofs.LoadPath
import LiveSketch.Proofs.Script.Backtraces
import LiveSketch.Proofs.Script.FreshStart
import LiveSketch.Proofs.Script.Incremental
import LiveSketch.Proofs.Script.Reevaluation
import LiveSketch.Proofs.Script.Tally
import LiveSketch.Proofs.Session.AtRest
import LiveSketch.Proofs.Session.BeforeRun
import LiveSketch.Proofs.Session.Cadence
import LiveSketch.Proofs.Session.DrawnInOrder
import LiveSketch.Proofs.Session.ErrorFrames
import LiveSketch.Proofs.Session.FailingDraw
import LiveSketch.Proofs.Session.FrozenFrames
import LiveSketch.Proofs.Session.InputTracking
import LiveSketch.Proofs.Session.LatestFailure
import LiveSketch.Proofs.Session.NoRemains
import LiveSketch.Proofs.Session.Overflow
import LiveSketch.Proofs.Session.PhaseOrder
import LiveSketch.Proofs.Session.QuietWatch
import LiveSketch.Proofs.Session.Saves
import LiveSketch.Proofs.Session.ScriptLocation
import LiveSketch.Proofs.Session.SetUp
import LiveSketch.Proofs.Session.Standing
import LiveSketch.Proofs.Session.Verbosity
import LiveSketch.Proofs.Session.WatchedIncludes

import RildHisi.Library.Segments
import RildHisi.Library.WriteLoop
import RildHisi.Library.Runs
import RildHisi.Library.LinkedList
import RildHisi.Library.Ring
import RildHisi.Library.Chunks
import RildHisi.Library.Progress
import RildHisi.Library.Rounding
import RildHisi.Library.FreeList
import RildHisi.AtChannel.ReadCursor
import RildHisi.AtChannel.HeldBytes
import RildHisi.AtChannel.MalformedSegment
import RildHisi.AtChannel.CommandResult
import RildHisi.AtChannel.Generations
import RildHisi.AtChannel.Interleaving
import RildHisi.AtChannel.Handshake
import RildHisi.Libril.Parcel
import RildHisi.Libril.LedgerRefinement
import RildHisi.Libril.SizeLimits
import RildHisi.Libril.Grammar
import RildHisi.Libril.Framing
import RildHisi.Libril.Delivery
import RildHisi.Libril.TimerRuns
import RildHisi.Libril.WatchRuns
import RildHisi.Libril.WakeupPipe
import RildHisi.Libril.NitzCache
import RildHisi.ReferenceRil.MissingResponses
import RildHisi.ReferenceRil.RadioReopening
import RildHisi.ReferenceRil.Unsolicited
import RildHisi.MockRil.ExactlyOnce
import RildHisi.MockRil.Stopping
import RildHisi.MockRil.Correlation
import RildHisi.MockRil.CtrlFraming
import RildHisi.Libril.CdmaSms
import RildHisi.Libril.ArrayWrites
import RildHisi.Libril.StackArrays
import RildHisi.RilTest.FrameMemory
import RildHisi.RilTest.ReaderLoop
import RildHisi.MockRil.DelayedTransitions
import RildHisi.MockRil.Ringing
import RildHisi.MockRil.TruthfulAnswers
import RildHisi.MockRil.BridgeRoundTrip
import RildHisi.ReferenceRil.LineFields
import RildHisi.ReferenceRil.FieldArrays
import RildHisi.Library.FixedWidth
import RildHisi.Libril.WireLists
import RildHisi.AtChannel.Deadlines
import RildHisi.Libril.WakeTimeouts
import RildHisi.Libril.EventMemory
import RildHisi.Libril.EventRings
import RildHisi.Libril.EventDeletion
import RildHisi.Libril.ListMutex
import RildHisi.Library.Join
import RildHisi.ReferenceRil.IntegerTokens
import RildHisi.ReferenceRil.Registration
import RildHisi.ReferenceRil.CallList
import RildHisi.ReferenceRil.DataCallList
import RildHisi.MockRil.FailingRequests
import RildHisi.MockRil.SwitchTable
import RildHisi.MockRil.ControlCommands
import RildHisi.Rild.MakeArgv
import RildHisi.Library.Turns
import RildHisi.MockRil.DialEncoding
import RildHisi.MockRil.Receivers
import RildHisi.Library.Terminated
import RildHisi.MockRil.Print
import RildHisi.MockRil.MessageCodecs
import RildHisi.Daemon.Serving
import RildHisi.Daemon.LiveModem
import RildHisi.Daemon.ModemLines
import RildHisi.Libril.Strings
import RildHisi.Daemon.DialAddress
import RildHisi.RilTest.DialMemory
import RildHisi.MockRil.JsAnswers
import RildHisi.MockRil.CurrentCalls
import RildHisi.MockRil.ResponseTables
import RildHisi.MockRil.RadioNotices

import Phomemo.Raster
import Phomemo.PageEnd.Aborts
import Phomemo.PageEnd.LidWatch
import Phomemo.PageEnd.Progress
import Phomemo.PageEnd.Recovery
import Phomemo.Notification
import Phomemo.PageBitmap
import Phomemo.PrinterApp.BridgeClient
import Phomemo.PrinterApp.DeviceUri
import Phomemo.PrinterApp.Job
import Phomemo.PrinterApp.LineBuffer
import Phomemo.PrinterApp.Models
import Phomemo.PrinterApp.Orientation
import Phomemo.PrinterApp.ReplyFaults
import Phomemo.Bridge.Client
import Phomemo.Bridge.Discover
import Phomemo.Bridge.Exclusive
import Phomemo.Bridge.Framing
import Phomemo.Bridge.Hold
import Phomemo.Bridge.LetterCase
import Phomemo.Bridge.NamedAddress
import Phomemo.Bridge.PageState
import Phomemo.Bridge.Replies
import Phomemo.Bridge.TimerFirst
import Phomemo.Bridge.Unattended
import Phomemo.Chunks
import Phomemo.Config
import Phomemo.Dispatch
import Phomemo.Eject
import Phomemo.Generations
import Phomemo.ImageFit
import Phomemo.Queries
import Phomemo.RasterLimits
import Phomemo.TransportCalls
import Phomemo.Bridge.PrintImage
import Phomemo.Watches
import Phomemo.Wire.Paper
import Phomemo.Bridge.Answers
import Phomemo.PrinterApp.OnPaper
import Phomemo.Bridge.SheetReady
import Phomemo.Wire.Tones
import Phomemo.PrinterApp.Reasons
import Phomemo.PrinterApp.Sender
import Phomemo.Async.Effect
import Phomemo.Bridge.Reports

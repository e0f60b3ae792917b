import Solana.Rgz.Redraw
import Solana.Rgz.Changes
import Solana.Rgz.Rotation
import Solana.Rgz.Arrays
import Solana.Hwc.Crop
import Solana.Hwc.HdmiMode
import Solana.Hwc.Uevents
import Solana.Hwc.Coverage
import Solana.Hwc.Handover
import Solana.Hwc.Resolve
import Solana.Hwc.BlitRing
import Solana.Hwc.Idle
import Solana.Hwc.VsyncTimes
import Solana.Rpc.Calls
import Solana.Rpc.Instance
import Solana.Rpc.Marshal
import Solana.Domx.Slots
import Solana.Domx.Callbacks
import Solana.Domx.Teardown
import Solana.Domx.Core
import Solana.Domx.OsalDeadlines
import Solana.Domx.OsalEvents
import Solana.Domx.OsalPipe
import Solana.Domx.CameraBuffers
import Solana.Domx.Params
import Solana.Domx.WmvConfig
import Solana.Domx.FrameRate
import Solana.Domx.Encoder
import Solana.Domx.Decoder
import Solana.Domx.Initialisers
import Solana.Usbd.Offline
import Solana.Usbd.Connections
import Solana.Usbd.Fields
import Solana.Usbd.Requests
import Solana.Edid.Formats
import Solana.Aplogd.Storages
import Solana.Aplogd.Inputs
import Solana.Aplogd.Vold
import Solana.Sensors.Fifo
import Solana.Sensors.AkmStream
import Solana.Sensors.Accelerometer
import Solana.Charge.Events
import Solana.Charge.Sequence
import Solana.Charge.BootMode
import Solana.Motobox.Recovery
import Solana.Motobox.ConfigId
import Solana.Motobox.Setconfig
import Solana.Lights.Keyboard

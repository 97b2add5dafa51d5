import Knxd.Transport.Exchange
import Knxd.Routing.Watchdog
import Knxd.Routing.Retries
import Knxd.Tunnel.Credits
import Knxd.Tunnel.Stopped
import Knxd.Tunnel.Handshake
import Knxd.Tunnel.Listening
import Knxd.Tunnel.Reliable
import Knxd.Routing.Reflection
import Knxd.Routing.Distribution
import Knxd.Routing.HopCount
import Knxd.Cache.Telegrams
import Knxd.LowLevel.Closing
import Knxd.LowLevel.LocalCommands
import Knxd.LowLevel.Restart
import Knxd.Client.Interpretation
import Knxd.Client.Addresses
import Knxd.Tunnel.FrameSize
import Knxd.Tunnel.Packet6
import Knxd.LowLevel.Confirmation
import Knxd.LowLevel.FT12Delivery
import Knxd.Routing.RepeatWindow
import Knxd.Routing.ErrorScan
import Knxd.Filter.Queue
import Knxd.Filter.NatL2
import Knxd.Filter.Pace
import Knxd.Tunnel.Description
import Knxd.Tunnel.SequenceShift
import Knxd.Tunnel.ReadSafety
import Knxd.Cache.Reading
import Knxd.Cache.Polling
import Knxd.Filter.Chain
import Knxd.Routing.LinkLoops
import Knxd.Cache.Replies
import Knxd.LowLevel.TPUARTLine
import Knxd.Common.LoadImage
import Knxd.Common.Types
import Knxd.Common.Integers
import Knxd.Common.Image

import ChannelSim.Lib.XorParity
import ChannelSim.Lib.Layout
import ChannelSim.Lib.Run
import ChannelSim.Lib.Log
import ChannelSim.Lib.CyclicScan
import ChannelSim.Lib.Binary64
import ChannelSim.Fec.Tables
import ChannelSim.Fec.Packet
import ChannelSim.Fec.Masks
import ChannelSim.Fec.Encoder
import ChannelSim.Fec.TableFormat
import ChannelSim.Fec.MaskSpec
import ChannelSim.Fec.EncodeSpec
import ChannelSim.Fec.Stream
import ChannelSim.Fec.Copies
import ChannelSim.Fec.Ulpfec
import ChannelSim.Server.Udpserver
import ChannelSim.Server.Dispatch
import ChannelSim.Server.Frame
import ChannelSim.Server.Lifecycle
import ChannelSim.Server.Pipeline
import ChannelSim.Server.Session
import ChannelSim.Server.Launch
import ChannelSim.Server.QueueLog
import ChannelSim.Server.Datagrams
import ChannelSim.Window

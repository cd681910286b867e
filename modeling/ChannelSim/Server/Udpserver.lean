import ChannelSim.Fec.Encoder

/-! # The UDP server

`Udpserver` (`Channel_sim/Udpserver.h`, `Udpserver.cpp`): a pool of `SOCKET_POOL_SIZE` UDP sockets,
one send queue per channel, a file reader that cuts the file into chunks of `readChunkSize` bytes,
runs each through `PacketByFEC` and queues what comes out on the next enabled channel, and one
worker per channel that frames and sends what its queue holds.

The threads are not interleaved here: each operation is a function on the server state, and the
loops of the two thread functions are split into their passes. What a pass reads from outside is
an argument: the `enabled` flags its selection loop loads, the bytes `QFile::read` returns, the
number the loss simulation draws, the stale bytes of a stack buffer. Winsock is a reference count
(`wsaCount`); a socket handle is one of the four things it can be here (`SocketState`). The
`enabled` flags are `Bool`: the source only ever stores `0` and `1` in them.
-/

namespace ChannelSim
open Lib ForwardErrorCorrection
set_option autoImplicit false

/-! ## Constants -/

/-- `SOCKET_POOL_SIZE`. -/
def socketPoolSize : ℕ := 3

/-- `flightpkt_header_size`: the bytes of `videoStruct` ahead of `videoData`. -/
def flightpktHeaderSize : ℕ := 15

/-- `fec_header_size`. -/
def fecHeaderSize : ℕ := 6

/-- `packet_header_size`: CRC, stream type, channel index and sequence number. -/
def packetHeaderSize : ℕ := 7

/-- `readChunkSize`. -/
def readChunkSize : ℕ := 1009

/-- `total_length`, the length every `sendto` of a worker is given. -/
def totalLength : ℕ := readChunkSize + packetHeaderSize + fecHeaderSize + flightpktHeaderSize

/-- `fec_k`. -/
def fecK : ℕ := 10

/-- `fec_r`. -/
def fecR : ℕ := 2

/-- `sysword`, never assigned. -/
def sysword : UInt32 := 0

/-! ## State -/

/-- `SendPacket`: a packet with the fields of the 7-byte trailer and the payload size to send. -/
structure SendPacket where
  packetToSend : Option Packet
  crc32 : UInt32
  streamType : UInt8
  channelIndex : UInt8
  seq : UInt8
  actualPayloadSize : ℕ
  deriving DecidableEq

/-- What `sockets[i]` holds: never assigned, an open UDP socket, a handle already passed to
`closesocket`, or `INVALID_SOCKET`. -/
inductive SocketState
  | unset
  | opened
  | closed
  | invalid
  deriving DecidableEq, Repr

/-- `ChannelContext`: the queue, the `enabled` flag and the loss rate of one channel. -/
structure ChannelContext where
  packetQueue : List SendPacket
  enabled : Bool
  lossRate : ℚ
  deriving DecidableEq

/-- The state of a `Udpserver`. `workerThreads` counts the handles in the thread list. -/
structure Udpserver where
  sockets : Vector SocketState socketPoolSize
  wsaCount : ℕ
  currentFilePath : String
  currentSocket : ℕ
  globalSeqCounter : UInt8
  channels : Vector ChannelContext socketPoolSize
  workerThreads : ℕ
  isRunning : Bool
  fec : ForwardErrorCorrection

namespace Udpserver

/-- `channels[i]`. -/
def channelAt (s : Udpserver) (i : ℕ) : ChannelContext :=
  s.channels.toList.getD i ⟨[], false, 0⟩

/-! ## Construction -/

/-- `WSACleanup()`: one reference to Winsock fewer; a call without one fails and changes nothing. -/
def wsaCleanup (wsaCount : ℕ) : ℕ := wsaCount - 1

/-- The loop of `initializeSockets` from socket `i` on, `socketOk i` the outcome of the `i`-th
`socket()` call. A failure closes the sockets before it and releases Winsock. -/
def openSockets (socketOk : ℕ → Bool) (s : Udpserver) : ℕ → ℕ → Udpserver
  | _, 0 => s
  | i, n + 1 =>
    if socketOk i then
      openSockets socketOk { s with sockets := s.sockets.setIfInBounds i .opened } (i + 1) n
    else
      let sockets := s.sockets.setIfInBounds i .invalid
      -- `for (int j = 0; j < i; ++j) closesocket(sockets[j])`
      let sockets := (List.range i).foldl (fun v j => v.setIfInBounds j .closed) sockets
      { s with sockets := sockets, wsaCount := wsaCleanup s.wsaCount }

/-- `initializeSockets()`, with the outcome of `WSAStartup` and of each `socket()` call. -/
def initializeSockets (s : Udpserver) (wsaStartupOk : Bool) (socketOk : ℕ → Bool) : Udpserver :=
  if wsaStartupOk then openSockets socketOk { s with wsaCount := s.wsaCount + 1 } 0 socketPoolSize
  else s

/-- The members as the constructor of `Udpserver(parent, dest_host, baseport)` initialises them,
before it calls `initializeSockets()`. The encoder member is default-constructed; its
`packet_masks_` bytes are whatever `stale` holds. -/
def initial (stale : Vector UInt8 packetMasksSize) : Udpserver where
  sockets := Vector.replicate socketPoolSize .unset
  wsaCount := 0
  currentFilePath := ""
  currentSocket := 0
  globalSeqCounter := 0
  channels := Vector.replicate socketPoolSize ⟨[], false, 0⟩
  workerThreads := 0
  isRunning := false
  fec := ForwardErrorCorrection.init stale

/-- The server `Udpserver(parent, dest_host, baseport)` constructs. -/
def create (stale : Vector UInt8 packetMasksSize) (wsaStartupOk : Bool) (socketOk : ℕ → Bool) :
    Udpserver :=
  initializeSockets (initial stale) wsaStartupOk socketOk

/-! ## Operations -/

/-- `SetFileName(filePath)`. -/
def setFileName (s : Udpserver) (filePath : String) : Udpserver :=
  { s with currentFilePath := filePath }

/-- `StopSending()`: unless it was already stopped with no thread left, join every thread, close
every socket that is not `INVALID_SOCKET` and release Winsock. -/
def stopSending (s : Udpserver) : Udpserver :=
  -- `is_running.exchange(false)`
  let wasRunning := s.isRunning
  let s := { s with isRunning := false }
  if !wasRunning && s.workerThreads = 0 then s
  else
    { s with workerThreads := 0
             sockets := s.sockets.map fun _ => .invalid
             wsaCount := wsaCleanup s.wsaCount }

/-- The server at the point where `StartSending` launches the reader and the workers. -/
def launchState (s : Udpserver) : Udpserver :=
  let s := if s.workerThreads ≠ 0 then stopSending s else s
  let s := { s with workerThreads := 0 }
  let s := { s with channels := s.channels.map fun ch : ChannelContext => { ch with packetQueue := [] } }
  { s with isRunning := true, currentSocket := 0 }

/-- `StartSending()` with every `QThread::create` succeeding: the server afterwards, and whether it
launched the threads. It does nothing without a file path or while running. -/
def startSending (s : Udpserver) : Udpserver × Bool :=
  if s.currentFilePath.isEmpty then (s, false)
  else if s.isRunning then (s, false)
  else ({ launchState s with workerThreads := 1 + socketPoolSize }, true)

/-- The loop of `StartSending` that creates the worker threads from channel `i` on, with `n`
channels left: the first failed `QThread::create` calls `StopSending` and returns. -/
def launchWorkers (threadOk : ℕ → Bool) (s : Udpserver) : ℕ → ℕ → Udpserver × Bool
  | _, 0 => (s, true)
  | i, n + 1 =>
    if threadOk (i + 1) then
      launchWorkers threadOk { s with workerThreads := s.workerThreads + 1 } (i + 1) n
    else (s.stopSending, false)

/-- `StartSending()` with the outcome of each `QThread::create`: `threadOk 0` for the file reader
thread and `threadOk (i + 1)` for the worker of channel `i`. The server afterwards, and whether
every thread runs. -/
def startSendingWith (threadOk : ℕ → Bool) (s : Udpserver) : Udpserver × Bool :=
  if s.currentFilePath.isEmpty then (s, false)
  else if s.isRunning then (s, false)
  else
    let s := launchState s
    if threadOk 0 then launchWorkers threadOk { s with workerThreads := 1 } 0 socketPoolSize
    else ({ s with isRunning := false }, false)

/-- `channelStateChange(channel, state)`. -/
def channelStateChange (s : Udpserver) (channel : ℤ) (state : Bool) : Udpserver :=
  if channel < 0 ∨ socketPoolSize ≤ channel then s
  else
    { s with channels := s.channels.mapIdx fun j (ch : ChannelContext) =>
        if j = channel.toNat then { ch with enabled := state } else ch }

/-- `setLossRate(channel, rate)`: the rate is clamped to `[0, 1]`. -/
def setLossRate (s : Udpserver) (channel : ℤ) (rate : ℚ) : Udpserver :=
  if 0 ≤ channel ∧ channel < socketPoolSize then
    { s with channels := s.channels.mapIdx fun j (ch : ChannelContext) =>
        if j = channel.toNat then { ch with lossRate := max 0 (min 1 rate) } else ch }
  else s

/-! ## The file reader -/

/-- The selection loop of `fileReaderTask` from `search_start_index`, with `attempts` passes left
and `is_running` true: the first channel whose flag it reads as `1`. -/
def selectLoop (poolSize : ℕ) (enabled : ℕ → Bool) (searchStartIndex : ℕ) : ℕ → Option ℕ
  | 0 => none
  | attempts + 1 =>
    let currentIndex := searchStartIndex % poolSize
    if enabled currentIndex then some currentIndex
    else selectLoop poolSize enabled (searchStartIndex + 1) attempts

/-- The selection step of `fileReaderTask`: `target_channel` (`none` for `-1`) and `currentSocket`
afterwards. -/
def selectChannel (poolSize : ℕ) (enabled : ℕ → Bool) (currentSocket : ℕ) : Option ℕ × ℕ :=
  match selectLoop poolSize enabled currentSocket poolSize with
  | some i => (some i, (i + 1) % poolSize)
  | none => (none, currentSocket)

/-- The 15 bytes of `videoStruct` ahead of `videoData` as `fileReaderTask` fills them, in
declaration order under `#pragma pack(1)`: `sysWord`, `idWord`, `nowTime`, `versionNumber`,
`totalChannel`, `whichChannel`, `videoFormat`, `packetSize`. -/
def flightHeader : List UInt8 :=
  le32 sysword ++ [1] ++ le32 1 ++ [1, 6, 1, 1] ++ le16 1009

/-- The `SendPacket`s step 5 makes of `buffer_packets` for channel `target`, all with
`actual_payload_size = fec_input_size`. -/
def chunkPackets (bufferPackets : List Packet) (target fecInputSize : ℕ) : List SendPacket :=
  bufferPackets.map fun p : Packet =>
    { packetToSend := some p, crc32 := 0, streamType := 1, channelIndex := UInt8.ofNat target,
      seq := 1, actualPayloadSize := fecInputSize }

/-- Steps 4 and 5 of a reader pass for a chunk read for channel `target`: `PacketByFEC` on the
flight packet, then every packet of `buffer_packets` moved to the channel's queue. -/
def enqueueChunk (s : Udpserver) (target : ℕ) (chunk : List UInt8) : Udpserver :=
  let fecInputSize := flightpktHeaderSize + chunk.length
  let fec := packetByFEC s.fec (flightHeader ++ chunk) fecInputSize fecK fecR
  { s with fec := { fec with bufferPackets := [] },
           channels := s.channels.mapIdx fun j (ch : ChannelContext) =>
             if j = target then
               { ch with packetQueue := ch.packetQueue ++ chunkPackets fec.bufferPackets target fecInputSize }
             else ch }

/-- One pass of the reader loop while running and not at the end of the file, `file` the bytes
not read yet and `enabled` the flags the selection loads. Without an enabled channel nothing is
read; otherwise `QFile::read` returns the next `min(readChunkSize, remaining)` bytes. -/
def readerPass (s : Udpserver) (enabled : ℕ → Bool) (file : List UInt8) : Udpserver × List UInt8 :=
  match selectChannel socketPoolSize enabled s.currentSocket with
  | (none, cursor) => ({ s with currentSocket := cursor }, file)
  | (some target, cursor) =>
    (enqueueChunk { s with currentSocket := cursor } target (file.take readChunkSize),
      file.drop readChunkSize)

/-- The loop of `fileReaderTask` once the file is open, while `is_running` stays set: `n` passes,
pass `t` loading the flags `flags t`, each made only while the file is not at its end. The server
afterwards and the bytes not read. -/
def readerRun (flags : ℕ → ℕ → Bool) (s : Udpserver) (file : List UInt8) : ℕ → Udpserver × List UInt8
  | 0 => (s, file)
  | n + 1 =>
    let (s, rest) := readerRun flags s file n
    if rest.isEmpty then (s, rest) else s.readerPass (flags n) rest

/-- How `fileReaderTask` ends. -/
inductive ReaderEnd
  | endOfFile
  | emptyPath
  | openFailure
  deriving DecidableEq, Repr

/-- The reader's exit: an empty path or a file that does not open clear `is_running`; the end of
the file leaves it set. -/
def readerExit (s : Udpserver) : ReaderEnd → Udpserver
  | .endOfFile => s
  | .emptyPath => { s with isRunning := false }
  | .openFailure => { s with isRunning := false }

/-! ## The socket workers -/

/-- The datagram a worker hands to `sendto` for `sp` once its `seq` is drawn, if it sends one.
`stale` is the uninitialised `send_buffer[2000]`: `Serialize` writes the header and the payload,
the trailer follows the payload, and `sendto` is given `total_length` bytes of the buffer. -/
def workerFrame (stale : List UInt8) (sp : SendPacket) : Option (List UInt8) :=
  match sp.packetToSend with
  | none => none
  | some p =>
    let payloadSize := sp.actualPayloadSize
    let (bytesSerialized, buf) := p.serialize stale (payloadSize + fecHeaderSize) payloadSize
    let buf := writeAt buf (payloadSize + fecHeaderSize) (le32 sp.crc32)
    let buf := writeAt buf (payloadSize + fecHeaderSize + 4) [sp.streamType]
    let buf := writeAt buf (payloadSize + fecHeaderSize + 4 + 1) [sp.channelIndex]
    let buf := writeAt buf (payloadSize + fecHeaderSize + 4 + 1 + 1) [sp.seq]
    if bytesSerialized = payloadSize + fecHeaderSize then some (buf.take totalLength) else none

/-- Phase 3 of a worker pass on a packet it holds: a valid packet is dropped when the loss rate is
positive and the number drawn is below it; otherwise it takes the next `globalSeqCounter` value as
its `seq` and is framed. The server afterwards and the datagram handed to `sendto`, if any. -/
def workerSend (s : Udpserver) (socketIndex : ℕ) (sp : SendPacket) (draw : ℚ)
    (stale : List UInt8) : Udpserver × Option (List UInt8) :=
  if sp.packetToSend.isSome ∧ 0 < sp.actualPayloadSize then
    let lossRate := (s.channelAt socketIndex).lossRate
    if 0 < lossRate ∧ draw < lossRate then (s, none)
    else
      let seq := s.globalSeqCounter
      ({ s with globalSeqCounter := seq + 1 }, workerFrame stale { sp with seq := seq })
  else (s, none)

/-- One pass of `socketWorkerTask(socketIndex)` while running. With the channel enabled and its
queue not empty, phase 1 takes the front packet off the queue and phase 3 handles it; a disabled
channel or an empty queue leaves the worker waiting. -/
def workerPass (s : Udpserver) (socketIndex : ℕ) (draw : ℚ) (stale : List UInt8) :
    Udpserver × Option (List UInt8) :=
  if (s.channelAt socketIndex).enabled then
    match (s.channelAt socketIndex).packetQueue with
    | [] => (s, none)
    | sp :: rest =>
      workerSend
        { s with channels := s.channels.mapIdx fun j (ch : ChannelContext) =>
            if j = socketIndex then { ch with packetQueue := rest } else ch }
        socketIndex sp draw stale
  else (s, none)

end Udpserver

end ChannelSim

import ChannelSim.Server.Lifecycle
import ChannelSim.Server.Pipeline

/-! # Every state a session reaches

`Wf` is what holds of the server after its construction and any sequence of operations
(`wf_reachable`): the reader's cursor names a channel, every loss rate is in `[0, 1]`, every queue
holds only packets its own worker can frame (`Sendable`: `16` to `1024` payload bytes and the
channel's index in the trailer), and the encoder's buffer is empty. `wf_step` is the step lemma,
one case per operation, and `wf_run` the run lemma.

Phase 1 of a worker pass is `withQueue`. `workerPass_of_cons`, `workerPass_of_idle` and
`workerSend_eq` say what a pass does; the modules after this one use them, not the definitions.
-/

namespace ChannelSim
open Lib ForwardErrorCorrection
set_option autoImplicit false

namespace Udpserver

/-! ## What a queue may hold -/

/-- A packet as a reader pass queues it for channel `i`: a packet to send, the trailer fields step
5 sets, and a payload of `16` to `1024` bytes, the 15 header bytes and a chunk of 1 to 1009. -/
structure Sendable (i : ℕ) (sp : SendPacket) : Prop where
  packet_some : sp.packetToSend.isSome
  crc_zero : sp.crc32 = 0
  stream_type : sp.streamType = 1
  channel_eq : sp.channelIndex = UInt8.ofNat i
  size_ge : 16 ≤ sp.actualPayloadSize
  size_le : sp.actualPayloadSize ≤ 1024

/-- What holds of every server a construction and any sequence of operations reach: the cursor
names a channel, every loss rate is in `[0, 1]`, every queue holds only sendable packets for its
own channel, and the encoder's buffer is drained. -/
structure Wf (s : Udpserver) : Prop where
  cursor_lt : s.currentSocket < socketPoolSize
  loss_mem : ∀ j (hj : j < socketPoolSize), 0 ≤ s.channels[j].lossRate ∧ s.channels[j].lossRate ≤ 1
  sendable : ∀ j (hj : j < socketPoolSize), ∀ sp ∈ s.channels[j].packetQueue, Sendable j sp
  drained : s.fec.bufferPackets = []

/-! ## Construction -/

theorem openSockets_frame (socketOk : ℕ → Bool) (n : ℕ) :
    ∀ (s : Udpserver) (i : ℕ), (openSockets socketOk s i n).channels = s.channels ∧
      (openSockets socketOk s i n).currentSocket = s.currentSocket ∧
      (openSockets socketOk s i n).fec = s.fec := by
  induction n with
  | zero => intro s i; exact ⟨rfl, rfl, rfl⟩
  | succ n ih =>
    intro s i
    rw [openSockets]
    split_ifs
    · exact ih _ _
    · exact ⟨rfl, rfl, rfl⟩

theorem create_frame (stale : Vector UInt8 packetMasksSize) (wsaStartupOk : Bool)
    (socketOk : ℕ → Bool) :
    (create stale wsaStartupOk socketOk).channels = (initial stale).channels ∧
      (create stale wsaStartupOk socketOk).currentSocket = (initial stale).currentSocket ∧
      (create stale wsaStartupOk socketOk).fec = (initial stale).fec := by
  rw [create, initializeSockets]
  split_ifs
  · exact openSockets_frame socketOk _ _ _
  · exact ⟨rfl, rfl, rfl⟩

theorem wf_create (stale : Vector UInt8 packetMasksSize) (wsaStartupOk : Bool) (socketOk : ℕ → Bool) :
    Wf (create stale wsaStartupOk socketOk) := by
  obtain ⟨hch, hcur, hfec⟩ := create_frame stale wsaStartupOk socketOk
  refine ⟨?_, fun j hj => ?_, fun j hj sp hsp => ?_, ?_⟩
  · rw [hcur]
    exact Nat.zero_lt_succ _
  · simp [hch, initial]
  · simp [hch, initial] at hsp
  · rw [hfec]
    rfl

/-! ## What each operation does to the channels -/

theorem channelAt_of_lt (s : Udpserver) {i : ℕ} (hi : i < socketPoolSize) :
    s.channelAt i = s.channels[i] := by
  rw [channelAt, List.getD_eq_getElem _ _ (by simpa using hi), Vector.getElem_toList]

theorem sendable_chunkPackets (bufferPackets : List Packet) (target n : ℕ)
    (hn : 16 ≤ n ∧ n ≤ 1024) : ∀ sp ∈ chunkPackets bufferPackets target n, Sendable target sp := by
  intro sp hsp
  simp only [chunkPackets, List.mem_map] at hsp
  obtain ⟨p, -, rfl⟩ := hsp
  exact ⟨rfl, rfl, rfl, rfl, hn.1, hn.2⟩

theorem workerSend_frame (s : Udpserver) (socketIndex : ℕ) (sp : SendPacket) (draw : ℚ)
    (stale : List UInt8) :
    (s.workerSend socketIndex sp draw stale).1.channels = s.channels ∧
      (s.workerSend socketIndex sp draw stale).1.currentSocket = s.currentSocket ∧
      (s.workerSend socketIndex sp draw stale).1.fec = s.fec := by
  dsimp only [workerSend]
  split_ifs <;> exact ⟨rfl, rfl, rfl⟩

/-! ## Channels -/

/-- The server with the queue of channel `i` replaced by `q`: phase 1 of a worker pass. -/
def withQueue (s : Udpserver) (i : ℕ) (q : List SendPacket) : Udpserver :=
  { s with channels := s.channels.mapIdx fun j (ch : ChannelContext) =>
      if j = i then { ch with packetQueue := q } else ch }

theorem channelAt_of_ge (s : Udpserver) {i : ℕ} (hi : socketPoolSize ≤ i) :
    s.channelAt i = ⟨[], false, 0⟩ :=
  List.getD_eq_default _ _ (by simpa using hi)

theorem channelAt_of_channels (s : Udpserver) (i : ℕ) {s' : Udpserver}
    (h : s'.channels = s.channels) : s'.channelAt i = s.channelAt i := by
  rw [channelAt, channelAt, h]

theorem channelAt_mapIdx (s : Udpserver) (g : ℕ → ChannelContext → ChannelContext) (i : ℕ) :
    ({ s with channels := s.channels.mapIdx g } : Udpserver).channelAt i =
      if i < socketPoolSize then g i (s.channelAt i) else ⟨[], false, 0⟩ := by
  split_ifs with hi
  · rw [channelAt_of_lt _ hi, channelAt_of_lt _ hi, Vector.getElem_mapIdx]
  · exact channelAt_of_ge _ (by omega)

theorem channelAt_withQueue (s : Udpserver) (i j : ℕ) (q : List SendPacket) :
    (s.withQueue i q).channelAt j =
      if j = i ∧ j < socketPoolSize then { s.channelAt j with packetQueue := q } else s.channelAt j := by
  rw [withQueue, channelAt_mapIdx]
  by_cases hj : j < socketPoolSize
  · by_cases hji : j = i
    · subst hji
      simp [hj]
    · simp [hj, hji]
  · simp [hj, channelAt_of_ge s (Nat.le_of_not_lt hj)]

theorem workerPass_of_cons {s : Udpserver} {socketIndex : ℕ} (draw : ℚ) (stale : List UInt8)
    {sp : SendPacket} {rest : List SendPacket} (hen : (s.channelAt socketIndex).enabled = true)
    (hq : (s.channelAt socketIndex).packetQueue = sp :: rest) :
    s.workerPass socketIndex draw stale =
      (s.withQueue socketIndex rest).workerSend socketIndex sp draw stale := by
  rw [workerPass, if_pos hen]
  split
  · rename_i hnil
    rw [hq] at hnil
    exact List.cons_ne_nil sp rest hnil |>.elim
  · rename_i sp' rest' hcons
    rw [hq, List.cons.injEq] at hcons
    rw [hcons.1, hcons.2]
    rfl

/-- Whether phase 3 of a worker pass gives `sp` a `seq`: a valid packet that the loss simulation
keeps. -/
def Frames (s : Udpserver) (socketIndex : ℕ) (sp : SendPacket) (draw : ℚ) : Prop :=
  (sp.packetToSend.isSome ∧ 0 < sp.actualPayloadSize) ∧
    ¬ (0 < (s.channelAt socketIndex).lossRate ∧ draw < (s.channelAt socketIndex).lossRate)

instance (s : Udpserver) (socketIndex : ℕ) (sp : SendPacket) (draw : ℚ) :
    Decidable (Frames s socketIndex sp draw) :=
  inferInstanceAs (Decidable (_ ∧ _))

theorem workerSend_eq (s : Udpserver) (socketIndex : ℕ) (sp : SendPacket) (draw : ℚ)
    (stale : List UInt8) :
    s.workerSend socketIndex sp draw stale =
      if Frames s socketIndex sp draw then
        ({ s with globalSeqCounter := s.globalSeqCounter + 1 },
          workerFrame stale { sp with seq := s.globalSeqCounter })
      else (s, none) := by
  by_cases hframes : Frames s socketIndex sp draw
  · rw [if_pos hframes]
    exact workerSend_of_kept s socketIndex sp draw stale hframes.1 hframes.2
  · rw [if_neg hframes]
    by_cases hvalid : sp.packetToSend.isSome ∧ 0 < sp.actualPayloadSize
    · exact workerSend_of_dropped s socketIndex sp draw stale (not_not.mp fun h => hframes ⟨hvalid, h⟩)
    · dsimp only [workerSend]
      rw [if_neg hvalid]

theorem frames_withQueue (s : Udpserver) (i : ℕ) (q : List SendPacket) (sp : SendPacket) (draw : ℚ) :
    Frames (s.withQueue i q) i sp draw ↔ Frames s i sp draw := by
  have hloss : ((s.withQueue i q).channelAt i).lossRate = (s.channelAt i).lossRate := by
    rw [channelAt_withQueue]
    split_ifs <;> rfl
  simp only [Frames, hloss]

theorem workerPass_of_idle {s : Udpserver} {socketIndex : ℕ} (draw : ℚ) (stale : List UInt8)
    (hidle : (s.channelAt socketIndex).enabled = false ∨ (s.channelAt socketIndex).packetQueue = []) :
    s.workerPass socketIndex draw stale = (s, none) := by
  rcases hidle with hoff | hnil
  · rw [workerPass, if_neg (by simp [hoff])]
  · rw [workerPass]
    split_ifs
    · rw [hnil]
    · rfl

theorem lt_of_enabled {s : Udpserver} {i : ℕ} (hen : (s.channelAt i).enabled = true) :
    i < socketPoolSize := by
  by_contra hge
  rw [channelAt_of_ge s (Nat.le_of_not_lt hge)] at hen
  exact Bool.false_ne_true hen

/-! ## Every operation keeps the invariant -/

theorem Wf.of_channels {s s' : Udpserver} (hwf : Wf s) (hcur : s'.currentSocket = s.currentSocket)
    (hbuf : s'.fec.bufferPackets = s.fec.bufferPackets)
    (hloss : ∀ j (hj : j < socketPoolSize), s'.channels[j].lossRate = s.channels[j].lossRate)
    (hqueue : ∀ j (hj : j < socketPoolSize), s'.channels[j].packetQueue ⊆ s.channels[j].packetQueue) :
    Wf s' where
  cursor_lt := hcur ▸ hwf.cursor_lt
  loss_mem j hj := hloss j hj ▸ hwf.loss_mem j hj
  sendable j hj sp hsp := hwf.sendable j hj sp (hqueue j hj hsp)
  drained := hbuf.trans hwf.drained

theorem Wf.of_frame {s s' : Udpserver} (hwf : Wf s) (hch : s'.channels = s.channels)
    (hcur : s'.currentSocket = s.currentSocket) (hbuf : s'.fec.bufferPackets = s.fec.bufferPackets) :
    Wf s' :=
  hwf.of_channels hcur hbuf (fun j hj => by rw [hch]) (fun j hj => by rw [hch]; exact List.Subset.refl _)

theorem Wf.of_mapIdx {s : Udpserver} (hwf : Wf s) (g : ℕ → ChannelContext → ChannelContext)
    (hg : ∀ j (hj : j < socketPoolSize), (g j s.channels[j]).lossRate = s.channels[j].lossRate ∧
      (g j s.channels[j]).packetQueue ⊆ s.channels[j].packetQueue) :
    Wf { s with channels := s.channels.mapIdx g } :=
  hwf.of_channels rfl rfl (fun j hj => by rw [Vector.getElem_mapIdx]; exact (hg j hj).1)
    (fun j hj => by rw [Vector.getElem_mapIdx]; exact (hg j hj).2)

section Step
variable {s : Udpserver}

theorem wf_launchState (hwf : Wf s) : Wf (launchState s) := by
  have hframe := launchState_frame s
  refine ⟨Nat.zero_lt_succ _, fun j hj => ?_, fun j hj sp hsp => ?_, ?_⟩
  · rw [hframe.1, Vector.getElem_map]
    exact hwf.loss_mem j hj
  · rw [hframe.1, Vector.getElem_map] at hsp
    simp at hsp
  · rw [hframe.2.1]
    exact hwf.drained

theorem wf_enqueueChunk (hwf : Wf s) {target : ℕ} (htarget : target < socketPoolSize)
    {chunk : List UInt8} (hchunk : 1 ≤ chunk.length ∧ chunk.length ≤ readChunkSize) :
    Wf (enqueueChunk s target chunk) := by
  refine ⟨hwf.cursor_lt, fun j hj => ?_, fun j hj sp hsp => ?_, rfl⟩
  · simp only [enqueueChunk, Vector.getElem_mapIdx]
    split_ifs
    · exact hwf.loss_mem j hj
    · exact hwf.loss_mem j hj
  · simp only [enqueueChunk, Vector.getElem_mapIdx] at hsp
    split_ifs at hsp with hjt
    · -- the new packets go to the queue of the channel they name
      rcases List.mem_append.mp hsp with hold | hnew
      · exact hwf.sendable j hj sp hold
      · subst hjt
        refine sendable_chunkPackets _ j _ ⟨?_, ?_⟩ sp hnew
        · rw [flightpktHeaderSize]; omega
        · rw [flightpktHeaderSize]; rw [readChunkSize] at hchunk; omega
    · exact hwf.sendable j hj sp hsp

theorem wf_readerPass (hwf : Wf s) (enabled : ℕ → Bool) {file : List UInt8} (hfile : file ≠ []) :
    Wf (s.readerPass enabled file).1 := by
  cases hsel : (selectChannel socketPoolSize enabled s.currentSocket).1 with
  | none =>
    rw [readerPass_of_none s enabled file hsel]
    exact hwf
  | some target =>
    rw [readerPass_of_some s enabled file hsel]
    have htarget := selectChannel_lt enabled s.currentSocket hsel
    have hlen : 1 ≤ (file.take readChunkSize).length ∧ (file.take readChunkSize).length ≤ readChunkSize := by
      have hpos : 0 < file.length := List.length_pos_iff.mpr hfile
      rw [List.length_take, readChunkSize]
      omega
    have hcursor : (target + 1) % socketPoolSize < socketPoolSize := Nat.mod_lt _ (by decide)
    have hwf' : Wf { s with currentSocket := (target + 1) % socketPoolSize } :=
      ⟨hcursor, hwf.loss_mem, hwf.sendable, hwf.drained⟩
    exact wf_enqueueChunk hwf' htarget hlen

theorem wf_workerPass (hwf : Wf s) (socketIndex : ℕ) (draw : ℚ) (stale : List UInt8) :
    Wf (s.workerPass socketIndex draw stale).1 := by
  cases hq : (s.channelAt socketIndex).packetQueue with
  | nil =>
    rw [workerPass_of_idle draw stale (Or.inr hq)]
    exact hwf
  | cons sp rest =>
    cases hen : (s.channelAt socketIndex).enabled with
    | false =>
      rw [workerPass_of_idle draw stale (Or.inl hen)]
      exact hwf
    | true =>
      -- phase 1 leaves the rest of the worker's queue, phase 3 touches no channel
      have hpop : Wf (s.withQueue socketIndex rest) := hwf.of_mapIdx _ fun j hj => by
        split_ifs with hji
        · subst hji
          rw [channelAt_of_lt s hj] at hq
          exact ⟨rfl, by rw [hq]; exact List.subset_cons_self sp rest⟩
        · exact ⟨rfl, List.Subset.refl _⟩
      obtain ⟨hch, hcur, hfec⟩ := workerSend_frame (s.withQueue socketIndex rest) socketIndex sp draw stale
      rw [workerPass_of_cons draw stale hen hq]
      exact hpop.of_frame hch hcur (by rw [hfec])

theorem wf_step (hwf : Wf s) (op : Op) : Wf (step s op) := by
  cases op with
  | setFileName filePath => exact hwf.of_frame rfl rfl rfl
  | startSending threadOk =>
    rcases startSendingWith_cases threadOk s with ⟨-, hsame⟩ | ⟨-, hlaunch⟩
    · rw [step, hsame]
      exact hwf
    · obtain ⟨hch, hcur, hfec, -⟩ := hlaunch.frame
      exact (wf_launchState hwf).of_frame hch hcur (by rw [step, hfec])
  | stopSending =>
    obtain ⟨hch, hcur, hfec, -⟩ := stopSending_frame s
    show Wf s.stopSending
    exact hwf.of_frame hch hcur (by rw [hfec])
  | channelStateChange channel state =>
    simp only [step, channelStateChange]
    split_ifs
    · exact hwf
    · exact hwf.of_mapIdx _ fun j hj => by split_ifs <;> exact ⟨rfl, List.Subset.refl _⟩
  | setLossRate channel rate =>
    simp only [step, setLossRate]
    split_ifs
    · refine ⟨hwf.cursor_lt, fun j hj => ?_, fun j hj sp hsp => ?_, hwf.drained⟩
      · rw [Vector.getElem_mapIdx]
        split_ifs
        · -- `std::max(0.0, std::min(1.0, rate))`
          exact ⟨le_max_left _ _, max_le zero_le_one (min_le_left _ _)⟩
        · exact hwf.loss_mem j hj
      · rw [Vector.getElem_mapIdx] at hsp
        split_ifs at hsp
        · exact hwf.sendable j hj sp hsp
        · exact hwf.sendable j hj sp hsp
    · exact hwf
  | readerPass enabled file =>
    simp only [step]
    split_ifs with hrun
    · have hfile : file ≠ [] := by simpa using ((Bool.and_eq_true _ _).mp hrun).2
      exact wf_readerPass hwf enabled hfile
    · exact hwf
  | readerExit how =>
    cases how <;> exact hwf.of_frame rfl rfl rfl
  | workerPass socketIndex draw stale =>
    simp only [step]
    split_ifs
    · exact wf_workerPass hwf socketIndex draw stale
    · exact hwf

end Step

/-- The run lemma: the invariant holds after every sequence of operations. -/
theorem wf_run (ops : List Op) (s : Udpserver) (hwf : Wf s) : Wf (run s ops) :=
  foldl_invariant step (fun _ s => Wf s) (fun _ => True) (fun _ op _ _ h => wf_step h op) ops [] s
    (fun _ _ => trivial) hwf

theorem wf_reachable (stale : Vector UInt8 packetMasksSize) (wsaStartupOk : Bool)
    (socketOk : ℕ → Bool) (ops : List Op) : Wf (run (create stale wsaStartupOk socketOk) ops) :=
  wf_run ops _ (wf_create stale wsaStartupOk socketOk)

end Udpserver

end ChannelSim

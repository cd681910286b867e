import ChannelSim.Server.Session

/-! # Launching the threads

`StartSending` creates the file reader thread and then one worker thread per channel, each with
`QThread::create`, which may fail. `startSendingWith` takes the outcome of each call, and the runs
step with it; with every call succeeding it is `startSending` (`startSendingWith_ok`). A reader thread that
cannot be created leaves the server stopped with its sockets open, and the next `StartSending`
tries again. A worker thread that cannot be created makes `StartSending` call `StopSending`,
which closes every socket: nothing can be sent by any later launch
(`startSendingWith_worker_failure`).

No launch resets the encoder. Only a reader pass touches it (`fec_step`), and once the first
`PacketByFEC` call has latched `packet_size` it keeps that value for the rest of the server's life
(`latched_run`): every later reader pass, of any file, cuts its flight packet to that size and
sends zeros in place of the rest (`readerPass_truncated`).
-/

namespace ChannelSim
open Lib ForwardErrorCorrection
set_option autoImplicit false

namespace Udpserver

theorem launchWorkers_ok (s : Udpserver) (n : ℕ) :
    ∀ i, launchWorkers (fun _ => true) s i n = ({ s with workerThreads := s.workerThreads + n }, true) := by
  induction n generalizing s with
  | zero => intro i; rfl
  | succ n ih =>
    intro i
    rw [launchWorkers, if_pos rfl, ih]
    simp only [Nat.add_assoc, Nat.add_comm 1 n]

theorem startSendingWith_ok (s : Udpserver) : startSendingWith (fun _ => true) s = s.startSending := by
  unfold startSendingWith startSending
  split_ifs with hpath hrun hreader
  · rfl
  · rfl
  · rw [launchWorkers_ok]
  · exact absurd rfl hreader

theorem launchWorkers_of_fail (threadOk : ℕ → Bool) (n : ℕ) :
    ∀ (s : Udpserver) (i : ℕ), (∃ t < n, threadOk (i + t + 1) = false) →
      ∃ k, launchWorkers threadOk s i n =
        (({ s with workerThreads := s.workerThreads + k } : Udpserver).stopSending, false) := by
  induction n with
  | zero =>
    intro s i hfail
    obtain ⟨t, ht, _⟩ := hfail
    omega
  | succ n ih =>
    intro s i hfail
    cases hi : threadOk (i + 1) with
    | false =>
      refine ⟨0, ?_⟩
      rw [launchWorkers, if_neg (by simp [hi])]
      rfl
    | true =>
      -- the worker of channel `i` starts; the failure comes later
      have hlater : ∃ t < n, threadOk (i + 1 + t + 1) = false := by
        obtain ⟨t, ht, hft⟩ := hfail
        have ht0 : t ≠ 0 := by
          rintro rfl
          rw [Nat.add_zero, hi] at hft
          exact Bool.noConfusion hft
        exact ⟨t - 1, by omega, by rw [show i + 1 + (t - 1) + 1 = i + t + 1 by omega]; exact hft⟩
      obtain ⟨k, hloop⟩ := ih { s with workerThreads := s.workerThreads + 1 } (i + 1) hlater
      refine ⟨k + 1, ?_⟩
      rw [launchWorkers, if_pos hi, hloop, Nat.add_assoc, Nat.add_comm 1 k]

theorem startSendingWith_reader_failure (threadOk : ℕ → Bool) {s : Udpserver}
    (hpath : s.currentFilePath.isEmpty = false) (hstopped : s.isRunning = false)
    (hreader : threadOk 0 = false) :
    (startSendingWith threadOk s).1 = { launchState s with isRunning := false } ∧
      (startSendingWith threadOk s).1.startSending.2 = true := by
  have hstep : (startSendingWith threadOk s).1 = { launchState s with isRunning := false } := by
    unfold startSendingWith
    rw [if_neg (by simp [hpath]), if_neg (by simp [hstopped]), if_neg (by simp [hreader])]
  have hfile : (launchState s).currentFilePath = s.currentFilePath := by
    dsimp only [launchState, stopSending]
    split_ifs <;> rfl
  refine ⟨hstep, ?_⟩
  rw [hstep, startSending, if_neg (by simp [hfile, hpath]), if_neg (by simp)]

/-- A worker thread that cannot be created makes `StartSending` stop the server it has just
started: every socket is closed and Winsock loses a reference, so no later launch finds an open
socket. With every thread created, `StartSending` keeps the handles of the reader and of the three
workers and leaves the server running. -/
theorem startSendingWith_worker_failure (threadOk : ℕ → Bool) {s : Udpserver}
    (hpath : s.currentFilePath.isEmpty = false) (hstopped : s.isRunning = false)
    (hreader : threadOk 0 = true) (hworker : ∃ i < socketPoolSize, threadOk (i + 1) = false)
    (ops : List Op) :
    (startSendingWith threadOk s).2 = false ∧ (startSendingWith threadOk s).1.isRunning = false ∧
      NoOpenSocket (startSendingWith threadOk s).1 ∧
      (startSendingWith threadOk s).1.wsaCount = (launchState s).wsaCount - 1 ∧
      NoOpenSocket (launchState (run (startSendingWith threadOk s).1 ops)) ∧
      startSendingWith (fun _ => true) s = ({ launchState s with workerThreads := 1 + socketPoolSize }, true) := by
  obtain ⟨k, hloop⟩ := launchWorkers_of_fail threadOk socketPoolSize
    { launchState s with workerThreads := 1 } 0
    (by obtain ⟨i, hi, hfail⟩ := hworker; exact ⟨i, hi, by rw [Nat.zero_add]; exact hfail⟩)
  have hstep : startSendingWith threadOk s =
      (({ launchState s with workerThreads := 1 + k } : Udpserver).stopSending, false) := by
    unfold startSendingWith
    rw [if_neg (by simp [hpath]), if_neg (by simp [hstopped]), if_pos hreader, hloop]
  -- the server the loop stops is running: `launchState` has just set `is_running`
  have hrunning : ({ launchState s with workerThreads := 1 + k } : Udpserver).isRunning = true := by
    dsimp only [launchState]
  obtain ⟨hclosed, hwsa⟩ := stopSending_of_effective (Or.inl hrunning)
  have hok : startSendingWith (fun _ => true) s =
      ({ launchState s with workerThreads := 1 + socketPoolSize }, true) := by
    rw [startSendingWith_ok, startSending, if_neg (by simp [hpath]), if_neg (by simp [hstopped])]
  rw [hstep]
  exact ⟨rfl, isRunning_stopSending _, hclosed, hwsa,
    ((noRestart_run ops _).trans (noRestart_launchState _)).noOpenSocket hclosed, hok⟩

/-- Construct with every call succeeding, set a file name and start with the worker thread of
channel `1` not created: the server is stopped, and a second launch with every thread created finds
no open socket. -/
theorem startSendingWith_worker_failure_second :
    NoOpenSocket (launchState (run (startSendingWith (fun i => i != 2)
      ((create (Vector.replicate packetMasksSize 0) true fun _ => true).setFileName "f")).1
      [.setFileName "g", .startSending fun _ => true])) :=
  (startSendingWith_worker_failure (fun i => i != 2) rfl rfl rfl ⟨1, by decide, rfl⟩
    [.setFileName "g", .startSending fun _ => true]).2.2.2.2.1

/-! ## Launching again -/

theorem fec_step_of_ne (s : Udpserver) (op : Op) (hop : ∀ enabled file, op ≠ .readerPass enabled file) :
    (step s op).fec = s.fec := by
  cases op with
  | setFileName filePath => rfl
  | startSending threadOk =>
    exact (startSendingWith_frame threadOk s).1
  | stopSending => exact (stopSending_frame s).2.2.1
  | channelStateChange channel state =>
    simp only [step, channelStateChange]
    split_ifs <;> rfl
  | setLossRate channel rate =>
    simp only [step, setLossRate]
    split_ifs <;> rfl
  | readerPass enabled file => exact absurd rfl (hop enabled file)
  | readerExit how => cases how <;> rfl
  | workerPass socketIndex draw stale =>
    simp only [step]
    split_ifs
    · cases hq : (s.channelAt socketIndex).packetQueue with
      | nil => rw [workerPass_of_idle draw stale (Or.inr hq)]
      | cons sp rest =>
        cases hen : (s.channelAt socketIndex).enabled with
        | false => rw [workerPass_of_idle draw stale (Or.inl hen)]
        | true =>
          rw [workerPass_of_cons draw stale hen hq]
          exact (workerSend_frame _ socketIndex sp draw stale).2.2
    · rfl

/-- What an operation does to the encoder: nothing, or one `PacketByFEC` call on a flight packet
with `buffer_packets` drained afterwards. -/
theorem fec_step (s : Udpserver) (op : Op) :
    (step s op).fec = s.fec ∨ ∃ chunk : List UInt8, (step s op).fec =
      { packetByFEC s.fec (flightHeader ++ chunk) (flightpktHeaderSize + chunk.length) fecK fecR with
        bufferPackets := [] } := by
  by_cases hop : ∃ enabled file, op = .readerPass enabled file
  · obtain ⟨enabled, file, rfl⟩ := hop
    simp only [step]
    split_ifs
    · cases hsel : (selectChannel socketPoolSize enabled s.currentSocket).1 with
      | none =>
        left
        rw [readerPass_of_none s enabled file hsel]
      | some target =>
        right
        rw [readerPass_of_some s enabled file hsel, enqueueChunk_fec]
        exact ⟨file.take readChunkSize, rfl⟩
    · exact Or.inl rfl
  · exact Or.inl (fec_step_of_ne s op fun enabled file h => hop ⟨enabled, file, h⟩)

theorem latched_step {s : Udpserver} (hused : s.fec.fecFirstUse = false) (op : Op) :
    (step s op).fec.fecFirstUse = false ∧ (step s op).fec.packetSize = s.fec.packetSize := by
  rcases fec_step s op with hfec | ⟨chunk, hfec⟩
  · rw [hfec]
    exact ⟨hused, rfl⟩
  · rw [hfec]
    exact ⟨packetByFEC_fecFirstUse _ _ _ _ _, packetByFEC_packetSize_latched _ _ _ _ _ hused⟩

/-- The run lemma of the latch: nothing after the first `PacketByFEC` call, no `StopSending` and
no `StartSending`, unlatches `packet_size` or changes it. -/
theorem latched_run (s : Udpserver) (hused : s.fec.fecFirstUse = false) (ops : List Op) :
    (run s ops).fec.fecFirstUse = false ∧ (run s ops).fec.packetSize = s.fec.packetSize :=
  foldl_invariant step (fun _ s' => s'.fec.fecFirstUse = false ∧ s'.fec.packetSize = s.fec.packetSize)
    (fun _ => True) (fun _ op _ _ h => (latched_step h.1 op).imp_right (·.trans h.2)) ops [] s
    (fun _ _ => trivial) ⟨hused, rfl⟩

theorem readerPass_latched {s : Udpserver} (hused : s.fec.fecFirstUse = false)
    (hdrained : s.fec.bufferPackets = []) (enabled : ℕ → Bool) (file : List UInt8) {target : ℕ}
    (hsel : (selectChannel socketPoolSize enabled s.currentSocket).1 = some target) :
    ∃ pkts, Queued s (s.readerPass enabled file).1 target pkts ∧
      pkts.head?.map SendPacket.payload =
        some ((flightHeader ++ file.take readChunkSize).take s.fec.packetSize ++
          List.replicate (flightpktHeaderSize + (file.take readChunkSize).length - s.fec.packetSize) 0) := by
  have hlen : (flightHeader ++ file.take readChunkSize).length =
      flightpktHeaderSize + (file.take readChunkSize).length := by
    rw [List.length_append, length_flightHeader]
  have hmax : flightpktHeaderSize + (file.take readChunkSize).length ≤ kMaxDataSize := by
    rw [List.length_take, flightpktHeaderSize, readChunkSize, kMaxDataSize]
    omega
  rw [readerPass_of_some s enabled file hsel]
  refine ⟨_, enqueueChunk_queued _ target (file.take readChunkSize), ?_⟩
  -- the media packet heads `buffer_packets`, and `chunkPackets` keeps the order
  simp only [chunkPackets, List.head?_map,
    head?_bufferPackets_packetByFEC _ _ _ _ _ hdrained, Option.map_some, SendPacket.payload]
  rw [payload_prepareMediaPacket_latched _ _ _ _ _ hused hlen hmax]

/-- Once the reader has called `PacketByFEC` in a session, the encoder keeps the `packet_size`
of that first call through every later `StopSending`, `SetFileName` and `StartSending`: every
later reader pass, of any file, queues first a media packet whose payload is its flight packet cut
to that size and zeros after it. After a first file shorter than one chunk, every chunk of every
later file loses all but its first bytes on the wire. -/
theorem readerPass_truncated (stale : Vector UInt8 packetMasksSize) (wsaStartupOk : Bool)
    (socketOk : ℕ → Bool) (ops₁ ops₂ : List Op)
    (hused : (run (create stale wsaStartupOk socketOk) ops₁).fec.fecFirstUse = false)
    (enabled : ℕ → Bool) (file : List UInt8) (target : ℕ)
    (hsel : (selectChannel socketPoolSize enabled
      (run (create stale wsaStartupOk socketOk) (ops₁ ++ ops₂)).currentSocket).1 = some target) :
    ∃ pkts, Queued (run (create stale wsaStartupOk socketOk) (ops₁ ++ ops₂))
        ((run (create stale wsaStartupOk socketOk) (ops₁ ++ ops₂)).readerPass enabled file).1 target pkts ∧
      pkts.head?.map SendPacket.payload =
        some ((flightHeader ++ file.take readChunkSize).take
            (run (create stale wsaStartupOk socketOk) ops₁).fec.packetSize ++
          List.replicate (flightpktHeaderSize + (file.take readChunkSize).length -
            (run (create stale wsaStartupOk socketOk) ops₁).fec.packetSize) 0) := by
  have hsplit : run (create stale wsaStartupOk socketOk) (ops₁ ++ ops₂) =
      run (run (create stale wsaStartupOk socketOk) ops₁) ops₂ := by
    rw [run, run, run, List.foldl_append]
  obtain ⟨hfirst, hsize⟩ := latched_run _ hused ops₂
  have hwf := wf_run (ops₁ ++ ops₂) _ (wf_create stale wsaStartupOk socketOk)
  rw [← hsplit] at hfirst hsize
  rw [← hsize]
  exact readerPass_latched hfirst hwf.drained enabled file hsel

/-- A three-byte file read, the server stopped, a second file set and sending started again: a
full chunk of the second file keeps 3 of its 1009 bytes. -/
theorem readerPass_truncated_second_file :
    ∃ pkts : List SendPacket, Queued (run (create (Vector.replicate packetMasksSize 0) true fun _ => true)
          (([.setFileName "f", .startSending fun _ => true, .readerPass (fun _ => true) [1, 2, 3]] : List Op) ++
            ([.stopSending, .setFileName "g", .startSending fun _ => true] : List Op)))
        ((run (create (Vector.replicate packetMasksSize 0) true fun _ => true)
          (([.setFileName "f", .startSending fun _ => true, .readerPass (fun _ => true) [1, 2, 3]] : List Op) ++
            ([.stopSending, .setFileName "g", .startSending fun _ => true] : List Op))).readerPass (fun _ => true)
          (List.replicate 1009 (255 : UInt8))).1 0 pkts ∧
      pkts.head?.map SendPacket.payload =
        some ((flightHeader ++ List.replicate 1009 255).take 18 ++ List.replicate 1006 0) := by
  have h18 : (run (create (Vector.replicate packetMasksSize 0) true fun _ => true)
      [.setFileName "f", .startSending fun _ => true, .readerPass (fun _ => true) [1, 2, 3]]).fec.packetSize = 18 := by
    decide +kernel
  have htake : (List.replicate 1009 (255 : UInt8)).take readChunkSize = List.replicate 1009 255 :=
    List.take_of_length_le (by rw [List.length_replicate, readChunkSize])
  obtain ⟨pkts, hq, hpay⟩ := readerPass_truncated (Vector.replicate packetMasksSize 0) true
    (fun _ => true) [.setFileName "f", .startSending fun _ => true, .readerPass (fun _ => true) [1, 2, 3]]
    [.stopSending, .setFileName "g", .startSending fun _ => true] (by decide +kernel) (fun _ => true)
    (List.replicate 1009 255) 0 (by decide +kernel)
  rw [h18, htake, List.length_replicate] at hpay
  exact ⟨pkts, hq, hpay⟩

end Udpserver

end ChannelSim

import ChannelSim.Server.QueueLog

/-! # What the workers send

Phase 3 of a worker pass draws the next value of the one `uint8_t` counter the three workers
share. The values drawn over a session are consecutive modulo 256, across channels and across
launches (`seqs_consecutive`), and repeat exactly when more than 256 packets are framed
(`seqs_nodup_iff`). In every reachable state a worker hands `sendto` the frame of the packet it
took, with the value drawn as `seq`, followed by the stale bytes of its `send_buffer`:
`total_length` bytes (`sent_reachable`).
-/

namespace ChannelSim
open Lib ForwardErrorCorrection
set_option autoImplicit false

namespace Udpserver

/-! ## Sequence numbers -/

section Seqs
variable (s : Udpserver)

/-- The counter facts of one operation, `runLog_stamps`'s hypothesis. -/
def Stamps (s s' : Udpserver) (seqs : List UInt8) : Prop :=
  seqs = stamps (· + 1) s.globalSeqCounter seqs.length ∧
    s'.globalSeqCounter = (· + 1)^[seqs.length] s.globalSeqCounter

theorem stamps_of_frame {s' : Udpserver} (h : s'.globalSeqCounter = s.globalSeqCounter) :
    Stamps s s' [] :=
  ⟨rfl, h⟩

theorem globalSeqCounter_readerPass (enabled : ℕ → Bool) (file : List UInt8) :
    (s.readerPass enabled file).1.globalSeqCounter = s.globalSeqCounter := by
  cases hsel : (selectChannel socketPoolSize enabled s.currentSocket).1 with
  | none => rw [readerPass_of_none s enabled file hsel]
  | some target => rw [readerPass_of_some s enabled file hsel]; rfl

theorem seqs_workerPass (socketIndex : ℕ) (draw : ℚ) (stale : List UInt8) :
    Stamps s (step s (.workerPass socketIndex draw stale))
      ((opLog s (.workerPass socketIndex draw stale)).flatMap QueueEvent.seqs) := by
  by_cases hrun : s.isRunning = true
  · cases hq : (s.channelAt socketIndex).packetQueue with
    | nil =>
      rw [opLog_workerPass_of_idle draw stale (Or.inr (Or.inr hq))]
      refine stamps_of_frame s ?_
      rw [step, if_pos hrun, workerPass_of_idle draw stale (Or.inr hq)]
    | cons sp rest =>
      cases hen : (s.channelAt socketIndex).enabled with
      | false =>
        rw [opLog_workerPass_of_idle draw stale (Or.inr (Or.inl hen))]
        refine stamps_of_frame s ?_
        rw [step, if_pos hrun, workerPass_of_idle draw stale (Or.inl hen)]
      | true =>
        -- phase 3 draws one number exactly when it frames the packet
        have hstep : step s (.workerPass socketIndex draw stale) =
            ((s.withQueue socketIndex rest).workerSend socketIndex sp draw stale).1 := by
          rw [step, if_pos hrun, workerPass_of_cons draw stale hen hq]
        have hwith := frames_withQueue s socketIndex rest sp draw
        rw [hstep, opLog_workerPass_of_cons draw stale hrun hen hq, workerSend_eq]
        by_cases hframes : Frames s socketIndex sp draw
        · rw [if_pos (hwith.mpr hframes), if_pos hframes]
          exact ⟨rfl, rfl⟩
        · rw [if_neg (mt hwith.mp hframes), if_neg hframes]
          exact ⟨rfl, rfl⟩
  · rw [Bool.not_eq_true] at hrun
    rw [opLog_workerPass_of_idle draw stale (Or.inl hrun)]
    refine stamps_of_frame s ?_
    rw [step, if_neg (by simp [hrun])]

/-- The step lemma: only a worker pass that frames its packet draws a number, the counter's. -/
theorem seqs_step (op : Op) :
    Stamps s (step s op) ((opLog s op).flatMap QueueEvent.seqs) := by
  cases op with
  | setFileName filePath => exact stamps_of_frame s rfl
  | startSending threadOk =>
    have hseqs : (opLog s (.startSending threadOk)).flatMap QueueEvent.seqs = [] := by
      simp only [opLog]
      split_ifs <;> simp [QueueEvent.seqs]
    rw [hseqs]
    exact stamps_of_frame s (startSendingWith_frame threadOk s).2
  | stopSending => exact stamps_of_frame s (stopSending_frame s).2.2.2
  | channelStateChange channel state =>
    refine stamps_of_frame s ?_
    simp only [step, channelStateChange]
    split_ifs <;> rfl
  | setLossRate channel rate =>
    refine stamps_of_frame s ?_
    simp only [step, setLossRate]
    split_ifs <;> rfl
  | readerPass enabled file =>
    have hseqs : (opLog s (.readerPass enabled file)).flatMap QueueEvent.seqs = [] := by
      simp only [opLog]
      split_ifs
      · split <;> simp [QueueEvent.seqs]
      · rfl
    rw [hseqs]
    refine stamps_of_frame s ?_
    simp only [step]
    split_ifs
    · exact globalSeqCounter_readerPass s enabled file
    · rfl
  | readerExit how => cases how <;> exact stamps_of_frame s rfl
  | workerPass socketIndex draw stale => exact seqs_workerPass s socketIndex draw stale

end Seqs

theorem seqs_run (s : Udpserver) (ops : List Op) :
    Stamps s (run s ops) ((sessionLog s ops).flatMap QueueEvent.seqs) :=
  runLog_stamps step opLog globalSeqCounter QueueEvent.seqs (· + 1) (fun s op => seqs_step s op)
    ops s

/-- The numbers the workers draw over a session are consecutive from the counter, modulo 256,
whatever the channels and the interleaving; a launch does not reset the counter. -/
theorem seqs_consecutive (s : Udpserver) (ops : List Op) :
    (sessionLog s ops).flatMap QueueEvent.seqs =
        (List.range ((sessionLog s ops).flatMap QueueEvent.seqs).length).map
          (fun k => s.globalSeqCounter + UInt8.ofNat k) ∧
      (run s ops).globalSeqCounter =
        s.globalSeqCounter + UInt8.ofNat ((sessionLog s ops).flatMap QueueEvent.seqs).length := by
  obtain ⟨hseqs, hcount⟩ := seqs_run s ops
  refine ⟨?_, by rw [hcount, iterate_succ_uint8]⟩
  conv_lhs => rw [hseqs]
  simp only [stamps, iterate_succ_uint8]

/-- Two packets of a session get the same `seq` exactly when more than 256 are framed. -/
theorem seqs_nodup_iff (s : Udpserver) (ops : List Op) :
    ((sessionLog s ops).flatMap QueueEvent.seqs).Nodup ↔
      ((sessionLog s ops).flatMap QueueEvent.seqs).length ≤ 256 := by
  rw [(seqs_run s ops).1, nodup_stamps_iff _ (mem_periodicPts_succ_uint8 _), length_stamps,
    minimalPeriod_succ_uint8]

/-- The datagram an operation hands to `sendto`. -/
def sent (s : Udpserver) : Op → Option (List UInt8)
  | .workerPass socketIndex draw stale =>
    if s.isRunning then (s.workerPass socketIndex draw stale).2 else none
  | _ => none

/-- The datagram a worker sends for a popped packet that phase 3 framed with `seq`, from a
2000-byte `send_buffer`: the frame, then the stale bytes up to `total_length`. -/
def framedDatagram (stale : List UInt8) : QueueEvent → Option (List UInt8)
  | .popped _ sp (some seq) =>
    sp.packetToSend.map fun p =>
      wireFrame p sp.actualPayloadSize { sp with seq := seq } ++
        (stale.drop (sp.actualPayloadSize + 13)).take (1024 - sp.actualPayloadSize)
  | _ => none

/-! ## The datagrams -/

theorem sendable_of_popped {s : Udpserver} (hwf : Wf s) (op : Op) {c : ℕ} {sp : SendPacket}
    {seq : Option UInt8} (hmem : QueueEvent.popped c sp seq ∈ opLog s op) : Sendable c sp := by
  cases op with
  | workerPass socketIndex draw stale =>
    simp only [opLog] at hmem
    split_ifs at hmem with hguard
    · split at hmem
      · rename_i sp' rest hq
        simp only [List.mem_singleton, QueueEvent.popped.injEq] at hmem
        obtain ⟨rfl, rfl, -⟩ := hmem
        have hc := lt_of_enabled ((Bool.and_eq_true _ _).mp hguard).2
        rw [channelAt_of_lt s hc] at hq
        exact hwf.sendable c hc sp (by rw [hq]; exact List.mem_cons_self)
      · simp at hmem
    · simp at hmem
  | startSending threadOk =>
    simp only [opLog] at hmem
    split_ifs at hmem <;> simp at hmem
  | readerPass enabled file =>
    simp only [opLog] at hmem
    split_ifs at hmem
    · split at hmem <;> simp at hmem
    · simp at hmem
  | setFileName => simp [opLog] at hmem
  | stopSending => simp [opLog] at hmem
  | channelStateChange => simp [opLog] at hmem
  | setLossRate => simp [opLog] at hmem
  | readerExit => simp [opLog] at hmem

theorem sent_workerPass {s : Udpserver} (hwf : Wf s) (socketIndex : ℕ) (draw : ℚ)
    {stale : List UInt8} (hstale : stale.length = 2000) :
    sent s (.workerPass socketIndex draw stale) =
      (opLog s (.workerPass socketIndex draw stale)).head?.bind (framedDatagram stale) := by
  by_cases hrun : s.isRunning = true
  · cases hq : (s.channelAt socketIndex).packetQueue with
    | nil => simp [sent, opLog, hrun, hq, workerPass_of_idle draw stale (Or.inr hq)]
    | cons sp rest =>
      cases hen : (s.channelAt socketIndex).enabled with
      | false => simp [sent, opLog, hrun, hen, workerPass_of_idle draw stale (Or.inl hen)]
      | true =>
        have hlog := opLog_workerPass_of_cons draw stale hrun hen hq
        have hsp : Sendable socketIndex sp :=
          sendable_of_popped hwf _ (by rw [hlog]; exact List.mem_singleton_self _)
        obtain ⟨p, hp⟩ := Option.isSome_iff_exists.mp hsp.packet_some
        have hwith := frames_withQueue s socketIndex rest sp draw
        rw [sent, if_pos hrun, workerPass_of_cons draw stale hen hq, workerSend_eq, hlog,
          List.head?_cons, Option.bind_some]
        by_cases hframes : Frames s socketIndex sp draw
        · -- the frame is written at the start of `send_buffer`, the stale bytes follow
          rw [if_pos (hwith.mpr hframes), if_pos hframes]
          have hp' : ({ sp with seq := s.globalSeqCounter } : SendPacket).packetToSend = some p := hp
          show workerFrame stale { sp with seq := s.globalSeqCounter } = _
          rw [workerFrame_of_le stale hstale _ hp' hsp.size_le]
          simp [framedDatagram, hp]
        · rw [if_neg (mt hwith.mp hframes), if_neg hframes]
          rfl
  · simp [sent, opLog, hrun]

theorem length_framedDatagram {stale : List UInt8} (hstale : stale.length = 2000) {c : ℕ}
    {sp : SendPacket} {seq : Option UInt8} (hsp : Sendable c sp) {d : List UInt8}
    (hd : framedDatagram stale (.popped c sp seq) = some d) : d.length = totalLength := by
  cases seq with
  | none => simp [framedDatagram] at hd
  | some seq =>
    obtain ⟨p, hp, rfl⟩ := Option.map_eq_some_iff.mp hd
    exact length_stale_datagram p { sp with seq := seq } stale hstale hsp.size_le

/-- Every datagram a worker sends, in every state a construction and any operations reach: the
frame of the packet it takes off its own queue, with the number it draws as `seq` and the stale
bytes of `send_buffer` behind it, `total_length` bytes in all. -/
theorem sent_reachable (stale : Vector UInt8 packetMasksSize) (wsaStartupOk : Bool)
    (socketOk : ℕ → Bool) (ops : List Op) (socketIndex : ℕ) (draw : ℚ) (buffer : List UInt8)
    (hbuffer : buffer.length = 2000) :
    sent (run (create stale wsaStartupOk socketOk) ops) (.workerPass socketIndex draw buffer) =
        (opLog (run (create stale wsaStartupOk socketOk) ops)
          (.workerPass socketIndex draw buffer)).head?.bind (framedDatagram buffer) ∧
      (∀ c sp seq, QueueEvent.popped c sp seq ∈
          opLog (run (create stale wsaStartupOk socketOk) ops) (.workerPass socketIndex draw buffer) →
        Sendable c sp) ∧
      ∀ d ∈ sent (run (create stale wsaStartupOk socketOk) ops) (.workerPass socketIndex draw buffer),
        d.length = totalLength := by
  have hwf := wf_run ops _ (wf_create stale wsaStartupOk socketOk)
  have hsent := sent_workerPass hwf socketIndex draw hbuffer
  refine ⟨hsent, fun c sp seq hmem => sendable_of_popped hwf _ hmem, fun d hd => ?_⟩
  -- a datagram comes from the one line a worker pass logs
  rw [hsent, Option.mem_def, Option.bind_eq_some_iff] at hd
  obtain ⟨e, he, hframed⟩ := hd
  have hmem := List.mem_of_mem_head? he
  cases e with
  | popped c sp seq => exact length_framedDatagram hbuffer (sendable_of_popped hwf _ hmem) hframed
  | pushed c pkts => simp [framedDatagram] at hframed
  | cleared c pkts => simp [framedDatagram] at hframed

/-- A three-byte file read onto channel `0`, which is enabled: its worker takes the media packet and
hands `sendto` a datagram of `total_length` bytes. -/
theorem sent_reachable_after_read :
    let ops : List Op := [.setFileName "f", .startSending fun _ => true, .channelStateChange 0 true,
      .readerPass (fun _ => true) [1, 2, 3]]
    (sent (run (create (Vector.replicate packetMasksSize 0) true fun _ => true) ops)
        (.workerPass 0 0 (List.replicate 2000 0))).isSome = true ∧
      ∀ d ∈ sent (run (create (Vector.replicate packetMasksSize 0) true fun _ => true) ops)
        (.workerPass 0 0 (List.replicate 2000 0)), d.length = totalLength := by
  intro ops
  exact ⟨by decide +kernel, (sent_reachable (Vector.replicate packetMasksSize 0) true (fun _ => true) ops
    0 0 (List.replicate 2000 0) List.length_replicate).2.2⟩

end Udpserver

end ChannelSim

import ChannelSim.Server.Launch
import ChannelSim.Lib.Log

/-! # The queue log of a session

Each operation logs what it does to the channel queues (`opLog`): a reader pass pushes the
packets of a chunk, a worker pass takes the front packet of its own queue, a launch clears every
queue. Every operation appends what it pushes, takes from the front what it takes and touches no
queue otherwise (`queue_step`), so over any interleaving no packet is lost or duplicated
(`queues_fifo`, by the library rule `runLog_fifo`). A stopped server moves nothing until the next
`StartSending`, which discards what the queues still hold (`stopped_queues_discarded`).
-/

namespace ChannelSim
open Lib ForwardErrorCorrection
set_option autoImplicit false

namespace Udpserver

/-! ## The log -/

/-- What an operation does to the channel queues. -/
inductive QueueEvent
  /-- Steps 4 and 5 of a reader pass: the packets of a chunk appended to the queue of `channel`. -/
  | pushed (channel : ℕ) (pkts : List SendPacket)
  /-- Phase 1 of a worker pass takes the front packet of `channel`; phase 3 gives it `seq`, if it
  frames it. -/
  | popped (channel : ℕ) (sp : SendPacket) (seq : Option UInt8)
  /-- A launch empties the queue of `channel`. -/
  | cleared (channel : ℕ) (pkts : List SendPacket)

namespace QueueEvent

def pushedTo (i : ℕ) : QueueEvent → List SendPacket
  | pushed c pkts => if c = i then pkts else []
  | popped .. => []
  | cleared .. => []

def takenFrom (i : ℕ) : QueueEvent → List SendPacket
  | pushed .. => []
  | popped c sp _ => if c = i then [sp] else []
  | cleared c pkts => if c = i then pkts else []

def seqs : QueueEvent → List UInt8
  | popped _ _ seq => seq.toList
  | _ => []

end QueueEvent

/-- The log lines of one operation. -/
def opLog (s : Udpserver) : Op → List QueueEvent
  -- past its early returns `StartSending` clears the queues, whatever threads it then creates
  | .startSending _ =>
    if s.startSending.2 then
      (List.range socketPoolSize).map fun j => .cleared j (s.channelAt j).packetQueue
    else []
  | .readerPass enabled file =>
    if s.isRunning && !file.isEmpty then
      match (selectChannel socketPoolSize enabled s.currentSocket).1 with
      | some target =>
        let chunk := file.take readChunkSize
        let fecInputSize := flightpktHeaderSize + chunk.length
        [.pushed target (chunkPackets
          (packetByFEC s.fec (flightHeader ++ chunk) fecInputSize fecK fecR).bufferPackets target
          fecInputSize)]
      | none => []
    else []
  | .workerPass socketIndex draw _ =>
    if s.isRunning && (s.channelAt socketIndex).enabled then
      match (s.channelAt socketIndex).packetQueue with
      | sp :: _ =>
        [.popped socketIndex sp
          (if Frames s socketIndex sp draw then some s.globalSeqCounter else none)]
      | [] => []
    else []
  | _ => []

/-- The log of a session. -/
def sessionLog (s : Udpserver) (ops : List Op) : List QueueEvent :=
  runLog step opLog s ops

theorem opLog_workerPass_of_cons {s : Udpserver} {socketIndex : ℕ} (draw : ℚ) (stale : List UInt8)
    {sp : SendPacket} {rest : List SendPacket} (hrun : s.isRunning = true)
    (hen : (s.channelAt socketIndex).enabled = true)
    (hq : (s.channelAt socketIndex).packetQueue = sp :: rest) :
    opLog s (.workerPass socketIndex draw stale) =
      [.popped socketIndex sp (if Frames s socketIndex sp draw then some s.globalSeqCounter else none)] := by
  simp [opLog, hrun, hen, hq]

theorem opLog_workerPass_of_idle {s : Udpserver} {socketIndex : ℕ} (draw : ℚ) (stale : List UInt8)
    (hidle : s.isRunning = false ∨ (s.channelAt socketIndex).enabled = false ∨
      (s.channelAt socketIndex).packetQueue = []) :
    opLog s (.workerPass socketIndex draw stale) = [] := by
  rcases hidle with hoff | hoff | hnil
  · simp [opLog, hoff]
  · simp [opLog, hoff]
  · simp [opLog, hnil]

/-! ## The queues -/

section Queues
variable (s : Udpserver) (i : ℕ)

theorem packetQueue_channelAt_mapIdx (g : ℕ → ChannelContext → ChannelContext)
    (hg : ∀ j ch, (g j ch).packetQueue = ch.packetQueue) :
    (({ s with channels := s.channels.mapIdx g } : Udpserver).channelAt i).packetQueue =
      (s.channelAt i).packetQueue := by
  rw [channelAt_mapIdx]
  split_ifs with hi
  · exact hg i _
  · rw [channelAt_of_ge s (by omega)]

theorem packetQueue_launchState : ((launchState s).channelAt i).packetQueue = [] := by
  by_cases hi : i < socketPoolSize
  · rw [channelAt_of_lt _ hi, (launchState_frame s).1, Vector.getElem_map]
  · rw [channelAt_of_ge _ (by omega)]

theorem flatMap_takenFrom_cleared (f : ℕ → List SendPacket) (n : ℕ) :
    ((List.range n).map fun j => QueueEvent.cleared j (f j)).flatMap (QueueEvent.takenFrom i) =
      if i < n then f i else [] := by
  induction n with
  | zero => simp
  | succ n ih =>
    rw [List.range_succ, List.map_append, List.flatMap_append, ih]
    by_cases hin : i < n
    · simp [QueueEvent.takenFrom, hin, show n ≠ i by omega, Nat.lt_succ_of_lt hin]
    · by_cases hn : i = n
      · subst hn
        simp [QueueEvent.takenFrom]
      · simp [QueueEvent.takenFrom, hin, Ne.symm hn, show ¬ i < n + 1 by omega]

theorem takenFrom_opLog_launch (hlaunch : s.startSending.2 = true) (threadOk : ℕ → Bool) :
    (opLog s (.startSending threadOk)).flatMap (QueueEvent.takenFrom i) = (s.channelAt i).packetQueue := by
  simp only [opLog, if_pos hlaunch, flatMap_takenFrom_cleared]
  split_ifs with hi
  · rfl
  · rw [channelAt_of_ge s (Nat.le_of_not_lt hi)]

theorem pushedTo_opLog_launch (hlaunch : s.startSending.2 = true) (threadOk : ℕ → Bool) :
    (opLog s (.startSending threadOk)).flatMap (QueueEvent.pushedTo i) = [] := by
  simp [opLog, hlaunch, QueueEvent.pushedTo]

theorem packetQueue_step_launch (hlaunch : s.startSending.2 = true) (threadOk : ℕ → Bool) :
    ((step s (.startSending threadOk)).channelAt i).packetQueue = [] := by
  rcases startSendingWith_cases threadOk s with ⟨hstay, -⟩ | ⟨-, hlaunched⟩
  · rw [hlaunch] at hstay
    exact absurd hstay (by decide)
  · rw [step, channelAt_of_channels (launchState s) i hlaunched.frame.1, packetQueue_launchState]

theorem queue_step_of_frame (op : Op) (hlog : opLog s op = [])
    (hq : ((step s op).channelAt i).packetQueue = (s.channelAt i).packetQueue) :
    (s.channelAt i).packetQueue ++ (opLog s op).flatMap (QueueEvent.pushedTo i) =
      (opLog s op).flatMap (QueueEvent.takenFrom i) ++ ((step s op).channelAt i).packetQueue := by
  rw [hlog, hq]
  simp

theorem queue_startSending (threadOk : ℕ → Bool) :
    (s.channelAt i).packetQueue ++ (opLog s (.startSending threadOk)).flatMap (QueueEvent.pushedTo i) =
      (opLog s (.startSending threadOk)).flatMap (QueueEvent.takenFrom i) ++
        ((step s (.startSending threadOk)).channelAt i).packetQueue := by
  rcases startSendingWith_cases threadOk s with ⟨hstay, hsame⟩ | ⟨hlaunch, -⟩
  · exact queue_step_of_frame s i _ (by simp [opLog, hstay]) (by rw [step, hsame])
  · -- a launch hands every queue to the log and empties it
    rw [packetQueue_step_launch s i hlaunch, takenFrom_opLog_launch s i hlaunch,
      pushedTo_opLog_launch s i hlaunch]

theorem queue_readerPass (enabled : ℕ → Bool) (file : List UInt8) :
    (s.channelAt i).packetQueue ++ (opLog s (.readerPass enabled file)).flatMap (QueueEvent.pushedTo i) =
      (opLog s (.readerPass enabled file)).flatMap (QueueEvent.takenFrom i) ++
        ((step s (.readerPass enabled file)).channelAt i).packetQueue := by
  by_cases hrun : (s.isRunning && !file.isEmpty) = true
  · cases hsel : (selectChannel socketPoolSize enabled s.currentSocket).1 with
    | none =>
      refine queue_step_of_frame s i _ (by simp [opLog, hrun, hsel]) ?_
      rw [step, if_pos hrun, readerPass_of_none s enabled file hsel]
    | some target =>
      -- the chunk's packets go to the back of the queue of `target`
      have htarget := selectChannel_lt enabled s.currentSocket hsel
      have hqueued := enqueueChunk_queued { s with currentSocket := (target + 1) % socketPoolSize }
        target (file.take readChunkSize)
      simp only [opLog, hrun, if_true, hsel, step, readerPass_of_some s enabled file hsel,
        List.flatMap_cons, List.flatMap_nil, List.append_nil, QueueEvent.pushedTo,
        QueueEvent.takenFrom, List.nil_append]
      by_cases hi : i < socketPoolSize
      · rw [channelAt_of_lt _ hi, channelAt_of_lt _ hi, hqueued i hi]
        by_cases hti : target = i
        · rw [if_pos hti, if_pos hti.symm]
        · rw [if_neg hti, if_neg (Ne.symm hti)]
      · rw [if_neg (by omega), channelAt_of_ge _ (by omega), channelAt_of_ge _ (by omega)]
        rfl
  · refine queue_step_of_frame s i _ (by simp [opLog, hrun]) ?_
    rw [step, if_neg hrun]

theorem queue_workerPass (socketIndex : ℕ) (draw : ℚ) (stale : List UInt8) :
    (s.channelAt i).packetQueue ++
        (opLog s (.workerPass socketIndex draw stale)).flatMap (QueueEvent.pushedTo i) =
      (opLog s (.workerPass socketIndex draw stale)).flatMap (QueueEvent.takenFrom i) ++
        ((step s (.workerPass socketIndex draw stale)).channelAt i).packetQueue := by
  by_cases hrun : s.isRunning = true
  · cases hq : (s.channelAt socketIndex).packetQueue with
    | nil =>
      refine queue_step_of_frame s i _ (opLog_workerPass_of_idle draw stale (Or.inr (Or.inr hq))) ?_
      rw [step, if_pos hrun, workerPass_of_idle draw stale (Or.inr hq)]
    | cons sp rest =>
      cases hen : (s.channelAt socketIndex).enabled with
      | false =>
        refine queue_step_of_frame s i _ (opLog_workerPass_of_idle draw stale (Or.inr (Or.inl hen))) ?_
        rw [step, if_pos hrun, workerPass_of_idle draw stale (Or.inl hen)]
      | true =>
        -- the worker takes the front packet of its own queue
        have hsi := lt_of_enabled hen
        have hafter : ((step s (.workerPass socketIndex draw stale)).channelAt i) =
            (s.withQueue socketIndex rest).channelAt i := by
          apply channelAt_of_channels
          rw [step, if_pos hrun, workerPass_of_cons draw stale hen hq]
          exact (workerSend_frame _ _ _ _ _).1
        rw [hafter, channelAt_withQueue, opLog_workerPass_of_cons draw stale hrun hen hq]
        simp only [List.flatMap_cons, List.flatMap_nil, List.append_nil, QueueEvent.pushedTo,
          QueueEvent.takenFrom]
        by_cases hsame : socketIndex = i
        · subst hsame
          simp [hsi, hq]
        · simp [hsame, Ne.symm hsame]
  · rw [Bool.not_eq_true] at hrun
    refine queue_step_of_frame s i _ (opLog_workerPass_of_idle draw stale (Or.inl hrun)) ?_
    rw [step, if_neg (by simp [hrun])]

/-- The step lemma: every operation appends what it logs as pushed and takes what it logs as taken
from the front, on every queue. -/
theorem queue_step (op : Op) :
    (s.channelAt i).packetQueue ++ (opLog s op).flatMap (QueueEvent.pushedTo i) =
      (opLog s op).flatMap (QueueEvent.takenFrom i) ++ ((step s op).channelAt i).packetQueue := by
  cases op with
  | setFileName filePath => exact queue_step_of_frame s i _ rfl rfl
  | startSending threadOk => exact queue_startSending s i threadOk
  | stopSending =>
    exact queue_step_of_frame s i _ rfl (by rw [step, channelAt_of_channels s i (stopSending_frame s).1])
  | channelStateChange channel state =>
    refine queue_step_of_frame s i _ rfl ?_
    simp only [step, channelStateChange]
    split_ifs
    · rfl
    · exact packetQueue_channelAt_mapIdx s i _ fun j ch => by split_ifs <;> rfl
  | setLossRate channel rate =>
    refine queue_step_of_frame s i _ rfl ?_
    simp only [step, setLossRate]
    split_ifs
    · exact packetQueue_channelAt_mapIdx s i _ fun j ch => by split_ifs <;> rfl
    · rfl
  | readerPass enabled file => exact queue_readerPass s i enabled file
  | readerExit how => cases how <;> exact queue_step_of_frame s i _ rfl rfl
  | workerPass socketIndex draw stale => exact queue_workerPass s i socketIndex draw stale

end Queues

/-- No packet is lost or duplicated between the reader and the workers, whatever the interleaving:
queue `i` before a session and the packets the reader pushed to it are the packets taken from it,
in order, by its worker or by a launch, and the queue after. -/
theorem queues_fifo (s : Udpserver) (ops : List Op) (i : ℕ) :
    (s.channelAt i).packetQueue ++ (sessionLog s ops).flatMap (QueueEvent.pushedTo i) =
      (sessionLog s ops).flatMap (QueueEvent.takenFrom i) ++ ((run s ops).channelAt i).packetQueue :=
  runLog_fifo step opLog (fun s => (s.channelAt i).packetQueue) _ _ (fun s op => queue_step s i op)
    ops s

/-! ## What the reader pushes -/

section Chunks
variable (s : Udpserver)

end Chunks

theorem stopped_step {s : Udpserver} (hstopped : s.isRunning = false) (op : Op)
    (hop : ∀ threadOk, op ≠ .startSending threadOk) : opLog s op = [] ∧ (step s op).isRunning = false := by
  cases op with
  | setFileName filePath => exact ⟨rfl, hstopped⟩
  | startSending threadOk => exact absurd rfl (hop threadOk)
  | stopSending => exact ⟨rfl, isRunning_stopSending s⟩
  | channelStateChange channel state =>
    refine ⟨rfl, ?_⟩
    simp only [step, channelStateChange]
    split_ifs <;> exact hstopped
  | setLossRate channel rate =>
    refine ⟨rfl, ?_⟩
    simp only [step, setLossRate]
    split_ifs <;> exact hstopped
  | readerPass enabled file => simp [opLog, step, hstopped]
  | readerExit how => cases how <;> exact ⟨rfl, by simp [step, readerExit, hstopped]⟩
  | workerPass socketIndex draw stale => simp [opLog, step, hstopped]

theorem stopped_run (ops : List Op) (hops : ∀ threadOk, Op.startSending threadOk ∉ ops) :
    ∀ s : Udpserver, s.isRunning = false →
      sessionLog s ops = [] ∧ (run s ops).isRunning = false ∧
        ∀ i, ((run s ops).channelAt i).packetQueue = (s.channelAt i).packetQueue := by
  induction ops with
  | nil => intro s hstopped; exact ⟨rfl, hstopped, fun i => rfl⟩
  | cons op ops ih =>
    intro s hstopped
    have hop : ∀ threadOk, op ≠ .startSending threadOk := fun threadOk h =>
      hops threadOk (h ▸ List.mem_cons_self)
    obtain ⟨hlog, hrun⟩ := stopped_step hstopped op hop
    obtain ⟨hrest, hfinal, hqueues⟩ :=
      ih (fun threadOk h => hops threadOk (List.mem_cons_of_mem op h)) (step s op) hrun
    refine ⟨by rw [sessionLog, runLog_cons, hlog, ← sessionLog, hrest]; rfl, hfinal, fun i => ?_⟩
    -- the step logs nothing, so it leaves every queue as it was
    have hone := queue_step s i op
    simp only [hlog, List.flatMap_nil, List.append_nil, List.nil_append] at hone
    exact (hqueues i).trans hone.symm

/-- Packets queued when the server stops are never sent: until the next `StartSending` nothing is
pushed or taken and every queue keeps what it held, and a launch then discards it, whatever
threads it creates. -/
theorem stopped_queues_discarded (s : Udpserver) (hstopped : s.isRunning = false) (ops : List Op)
    (hops : ∀ threadOk, Op.startSending threadOk ∉ ops) (i : ℕ) :
    sessionLog s ops = [] ∧ ((run s ops).channelAt i).packetQueue = (s.channelAt i).packetQueue ∧
      ((run s ops).startSending.2 = true → ∀ threadOk,
        (opLog (run s ops) (.startSending threadOk)).flatMap (QueueEvent.takenFrom i) =
            (s.channelAt i).packetQueue ∧
          ((step (run s ops) (.startSending threadOk)).channelAt i).packetQueue = []) := by
  obtain ⟨hlog, -, hqueues⟩ := stopped_run ops hops s hstopped
  refine ⟨hlog, hqueues i, fun hlaunch threadOk => ⟨?_, packetQueue_step_launch _ i hlaunch threadOk⟩⟩
  rw [takenFrom_opLog_launch _ i hlaunch]
  exact hqueues i

/-- A three-byte file queued on channel `0` and the server stopped before its worker sent it: the
packet stays queued through a loss-rate change and a new file name, and the next launch discards
it. -/
theorem stopped_queues_discarded_after_stop :
    let s := run (create (Vector.replicate packetMasksSize 0) true fun _ => true)
      [.setFileName "f", .startSending fun _ => true, .readerPass (fun _ => true) [1, 2, 3], .stopSending]
    let ops : List Op := [.setLossRate 0 1, .setFileName "g"]
    (s.channelAt 0).packetQueue.length = 1 ∧
      ((run s ops).channelAt 0).packetQueue = (s.channelAt 0).packetQueue ∧
      (opLog (run s ops) (.startSending fun _ => true)).flatMap (QueueEvent.takenFrom 0) =
        (s.channelAt 0).packetQueue := by
  intro s ops
  have h := stopped_queues_discarded s (by decide +kernel) ops (fun _ => by simp [ops]) 0
  exact ⟨by decide +kernel, h.2.1, (h.2.2 (by decide +kernel) fun _ => true).1⟩

end Udpserver

end ChannelSim

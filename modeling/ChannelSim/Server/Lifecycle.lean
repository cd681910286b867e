import ChannelSim.Server.Dispatch
import ChannelSim.Fec.Stream

/-! # The lifecycle of a `Udpserver`

A server is constructed once and then goes through any sequence of operations (`Op`): calls of
its public functions, and passes and exits of the threads `StartSending` launches. `run` plays a
sequence of them from a state.

Sockets are created only by the constructor (`create_of_ok`, `create_of_fail`). `StopSending`
closes them and calls `WSACleanup`, and nothing after the constructor opens a socket, calls
`WSAStartup` or resets the encoder `fec`: every run is `NoRestart` (`noRestart_run`). So the first
launch after a successful construction is fresh (`launchState_create_fresh`), but no launch is
after a failed construction, after an effective `StopSending`, or once a chunk has latched the
encoder's `packet_size` (`startSending_relaunch_not_fresh`).
-/

namespace ChannelSim
open Lib
set_option autoImplicit false

namespace Udpserver

/-! ## Runs -/

/-- What can happen to a server after its construction: a call of a public function, or one pass
or the exit of a thread that `StartSending` launched. What a thread reads from outside is part of
the operation. -/
inductive Op
  | setFileName (filePath : String)
  /-- `StartSending()`, `threadOk` the outcome of each `QThread::create` it makes. -/
  | startSending (threadOk : ℕ → Bool)
  | stopSending
  | channelStateChange (channel : ℤ) (state : Bool)
  | setLossRate (channel : ℤ) (rate : ℚ)
  | readerPass (enabled : ℕ → Bool) (file : List UInt8)
  | readerExit (how : ReaderEnd)
  | workerPass (socketIndex : ℕ) (draw : ℚ) (stale : List UInt8)

/-- One operation. The reader loops while `is_running` is set and the file is not at its end; a
worker loops while `is_running` is set. -/
def step (s : Udpserver) : Op → Udpserver
  | .setFileName filePath => s.setFileName filePath
  | .startSending threadOk => (startSendingWith threadOk s).1
  | .stopSending => s.stopSending
  | .channelStateChange channel state => s.channelStateChange channel state
  | .setLossRate channel rate => s.setLossRate channel rate
  | .readerPass enabled file =>
    if s.isRunning && !file.isEmpty then (s.readerPass enabled file).1 else s
  | .readerExit how => s.readerExit how
  | .workerPass socketIndex draw stale =>
    if s.isRunning then (s.workerPass socketIndex draw stale).1 else s

/-- A sequence of operations. -/
def run (s : Udpserver) (ops : List Op) : Udpserver :=
  ops.foldl step s

/-- No socket handle is an open socket. -/
def NoOpenSocket (s : Udpserver) : Prop :=
  ∀ j (hj : j < socketPoolSize), s.sockets[j] ≠ .opened

/-- The server a successful construction and a first `StartSending` launch the threads on:
Winsock initialised, every socket open, every queue empty, and the encoder at a group boundary
with its packet-size latch unset. -/
structure FreshLaunch (s : Udpserver) : Prop where
  winsock : 1 ≤ s.wsaCount
  sockets_open : ∀ j (hj : j < socketPoolSize), s.sockets[j] = .opened
  queues_empty : ∀ j (hj : j < socketPoolSize), s.channels[j].packetQueue = []
  fec_boundary : s.fec.mediaPackets = [] ∧ s.fec.bufferPackets = [] ∧ s.fec.sequenceNumber = 0
  fec_unlatched : s.fec.fecFirstUse = true ∧ s.fec.fecLastUse = false

theorem not_fresh_of_noOpenSocket {s : Udpserver} (h : NoOpenSocket s) : ¬ FreshLaunch s :=
  fun hfresh => h 0 (by decide) (hfresh.sockets_open 0 (by decide))

theorem not_fresh_of_latched {s : Udpserver} (h : s.fec.fecFirstUse = false) : ¬ FreshLaunch s := by
  intro hfresh
  have hunset := hfresh.fec_unlatched.1
  rw [h] at hunset
  exact Bool.false_ne_true hunset

/-! ## Construction -/

section Construction
variable (socketOk : ℕ → Bool)

theorem openSockets_of_ok (n : ℕ) :
    ∀ (s : Udpserver) (i : ℕ), (∀ t < n, socketOk (i + t) = true) →
      ∃ sockets : Vector SocketState socketPoolSize,
        openSockets socketOk s i n = { s with sockets := sockets } ∧
        ∀ j (hj : j < socketPoolSize),
          sockets[j] = if i ≤ j ∧ j < i + n then .opened else s.sockets[j] := by
  induction n with
  | zero =>
    intro s i _
    refine ⟨s.sockets, rfl, fun j hj => ?_⟩
    rw [if_neg (by omega)]
  | succ n ih =>
    intro s i hok
    have hi : socketOk i = true := by simpa using hok 0 (Nat.succ_pos n)
    obtain ⟨sockets, hrun, hget⟩ := ih { s with sockets := s.sockets.setIfInBounds i .opened } (i + 1)
      (fun t ht => by rw [show i + 1 + t = i + (t + 1) by omega]; exact hok (t + 1) (by omega))
    refine ⟨sockets, by rw [openSockets, if_pos hi, hrun], fun j hj => ?_⟩
    rw [hget j hj, Vector.getElem_setIfInBounds hj]
    by_cases hij : i = j
    · subst hij
      simp
    · by_cases hin : i + 1 ≤ j ∧ j < i + 1 + n
      · rw [if_pos hin, if_pos (by omega)]
      · rw [if_neg hin, if_neg hij, if_neg (by omega)]

theorem openSockets_of_fail (n : ℕ) :
    ∀ (s : Udpserver) (i : ℕ), (∃ t < n, socketOk (i + t) = false) →
      (∀ j (hj : j < socketPoolSize), i ≤ j → s.sockets[j] ≠ .opened) →
      ∃ sockets : Vector SocketState socketPoolSize,
        openSockets socketOk s i n = { s with sockets := sockets, wsaCount := wsaCleanup s.wsaCount } ∧
        ∀ j (hj : j < socketPoolSize), sockets[j] ≠ .opened := by
  induction n with
  | zero =>
    intro s i hfail _
    obtain ⟨t, ht, _⟩ := hfail
    omega
  | succ n ih =>
    intro s i hfail hrest
    cases hi : socketOk i with
    | true =>
      -- socket `i` opens, and the failing call comes later
      have hfail' : ∃ t < n, socketOk (i + 1 + t) = false := by
        obtain ⟨t, ht, hft⟩ := hfail
        have ht0 : t ≠ 0 := by
          rintro rfl
          rw [Nat.add_zero, hi] at hft
          exact Bool.noConfusion hft
        exact ⟨t - 1, by omega, by rw [show i + 1 + (t - 1) = i + t by omega]; exact hft⟩
      obtain ⟨sockets, hrun, hnone⟩ := ih { s with sockets := s.sockets.setIfInBounds i .opened }
        (i + 1) hfail' (fun j hj hij => by
          rw [Vector.getElem_setIfInBounds hj, if_neg (by omega)]
          exact hrest j hj (by omega))
      exact ⟨sockets, by rw [openSockets, if_pos hi, hrun], hnone⟩
    | false =>
      -- socket `i` fails: the sockets before it are closed, those after it were never opened
      refine ⟨_, by rw [openSockets, if_neg (by simp [hi])], fun j hj => ?_⟩
      rw [getElem_foldl_setIfInBounds_range _ _ _ _ hj, Vector.getElem_setIfInBounds hj]
      by_cases hlt : j < i
      · simp [hlt]
      · by_cases hij : i = j
        · simp [hij]
        · rw [if_neg hlt, if_neg hij]
          exact hrest j hj (by omega)

/-- A construction where `WSAStartup` and every `socket()` call succeed: Winsock has one reference,
every socket is open, the channels are empty and disabled, and the encoder is in its initial
state. -/
theorem create_of_ok (stale : Vector UInt8 packetMasksSize)
    (hok : ∀ j < socketPoolSize, socketOk j = true) :
    ∃ sockets : Vector SocketState socketPoolSize,
      create stale true socketOk =
        { sockets := sockets
          wsaCount := 1
          currentFilePath := ""
          currentSocket := 0
          globalSeqCounter := 0
          channels := Vector.replicate socketPoolSize ⟨[], false, 0⟩
          workerThreads := 0
          isRunning := false
          fec := ForwardErrorCorrection.init stale } ∧
      ∀ j (hj : j < socketPoolSize), sockets[j] = .opened := by
  obtain ⟨sockets, hrun, hget⟩ := openSockets_of_ok socketOk socketPoolSize _ 0
    (fun t ht => by rw [Nat.zero_add]; exact hok t ht)
  refine ⟨sockets, ?_, fun j hj => ?_⟩
  · rw [create, initializeSockets, if_pos rfl, hrun]
    rfl
  · rw [hget j hj, if_pos (by omega)]

/-- A construction where `WSAStartup` or a `socket()` call fails leaves no socket open and Winsock
without a reference. -/
theorem create_of_fail (stale : Vector UInt8 packetMasksSize) (wsaStartupOk : Bool)
    (hfail : wsaStartupOk = false ∨ ∃ j < socketPoolSize, socketOk j = false) :
    NoOpenSocket (create stale wsaStartupOk socketOk) ∧
      (create stale wsaStartupOk socketOk).wsaCount = 0 := by
  cases wsaStartupOk with
  | false =>
    -- `initializeSockets` returns at once: every handle is still unset
    refine ⟨fun j hj => ?_, rfl⟩
    simp [create, initializeSockets, initial]
  | true =>
    obtain ⟨j, hj, hfj⟩ := hfail.resolve_left (by decide)
    obtain ⟨sockets, hrun, hnone⟩ := openSockets_of_fail socketOk socketPoolSize
      { initial stale with wsaCount := (initial stale).wsaCount + 1 } 0
      ⟨j, hj, by rw [Nat.zero_add]; exact hfj⟩ (fun j hj _ => by simp [initial])
    rw [create, initializeSockets, if_pos rfl, hrun]
    exact ⟨hnone, rfl⟩

end Construction

/-! ## Nothing restarts after the constructor -/

/-- What no operation after the constructor does: open a socket (it only ever marks all of them
`INVALID_SOCKET`), call `WSAStartup`, or unset the encoder's packet-size latch. -/
structure NoRestart (s s' : Udpserver) : Prop where
  sockets : s'.sockets = s.sockets ∨ s'.sockets = s.sockets.map fun _ => .invalid
  wsaCount_le : s'.wsaCount ≤ s.wsaCount
  latched : s.fec.fecFirstUse = false → s'.fec.fecFirstUse = false

theorem NoRestart.refl (s : Udpserver) : NoRestart s s :=
  ⟨Or.inl rfl, le_rfl, id⟩

theorem NoRestart.trans {s s' s'' : Udpserver} (h : NoRestart s s') (h' : NoRestart s' s'') :
    NoRestart s s'' where
  sockets := by
    rcases h'.sockets with h2 | h2 <;> rcases h.sockets with h1 | h1
    · exact Or.inl (h2.trans h1)
    · exact Or.inr (h2.trans h1)
    · exact Or.inr (by rw [h2, h1])
    · exact Or.inr (by rw [h2, h1, Vector.map_map]; rfl)
  wsaCount_le := h'.wsaCount_le.trans h.wsaCount_le
  latched hs := h'.latched (h.latched hs)

theorem NoRestart.of_eq {s s' : Udpserver} (hsockets : s'.sockets = s.sockets)
    (hwsa : s'.wsaCount = s.wsaCount) (hfec : s'.fec.fecFirstUse = s.fec.fecFirstUse) :
    NoRestart s s' :=
  ⟨Or.inl hsockets, hwsa.le, fun hs => hfec.trans hs⟩

theorem NoRestart.noOpenSocket {s s' : Udpserver} (h : NoRestart s s') (hs : NoOpenSocket s) :
    NoOpenSocket s' := by
  intro j hj
  rcases h.sockets with hsame | hinvalid
  · rw [hsame]
    exact hs j hj
  · rw [hinvalid, Vector.getElem_map]
    exact SocketState.noConfusion

theorem noRestart_stopSending (s : Udpserver) : NoRestart s s.stopSending := by
  dsimp only [stopSending]
  split_ifs
  · exact NoRestart.of_eq rfl rfl rfl
  · exact ⟨Or.inr rfl, Nat.sub_le _ _, id⟩

theorem noRestart_launchState (s : Udpserver) : NoRestart s (launchState s) := by
  have hbefore : NoRestart s (if s.workerThreads ≠ 0 then s.stopSending else s) := by
    split_ifs
    · exact noRestart_stopSending s
    · exact NoRestart.refl s
  -- what `launchState` does after the forced stop touches neither sockets nor the encoder
  exact hbefore.trans (NoRestart.of_eq rfl rfl rfl)

/-! ## What `StartSending` can do -/

theorem stopSending_frame (s : Udpserver) :
    s.stopSending.channels = s.channels ∧ s.stopSending.currentSocket = s.currentSocket ∧
      s.stopSending.fec = s.fec ∧ s.stopSending.globalSeqCounter = s.globalSeqCounter := by
  dsimp only [stopSending]
  split_ifs <;> exact ⟨rfl, rfl, rfl, rfl⟩

theorem isRunning_stopSending (s : Udpserver) : s.stopSending.isRunning = false := by
  dsimp only [stopSending]
  split_ifs <;> rfl

theorem launchState_frame (s : Udpserver) :
    (launchState s).channels = s.channels.map (fun ch : ChannelContext => { ch with packetQueue := [] }) ∧
      (launchState s).fec = s.fec ∧ (launchState s).globalSeqCounter = s.globalSeqCounter := by
  obtain ⟨hch, -, hfec, hseq⟩ := stopSending_frame s
  dsimp only [launchState]
  split_ifs
  · exact ⟨by rw [hch], hfec, hseq⟩
  · exact ⟨rfl, rfl, rfl⟩

/-- The server `StartSending` leaves once it has got past its early returns at `l = launchState s`:
every thread created, with `k` handles; the reader thread not created; or a worker thread not
created and `StopSending` called with `k` handles. -/
def Launched (l r : Udpserver) : Prop :=
  ∃ k, r = { l with workerThreads := k } ∨ r = { l with isRunning := false } ∨
    r = ({ l with workerThreads := k } : Udpserver).stopSending

theorem launchWorkers_cases (threadOk : ℕ → Bool) (n : ℕ) :
    ∀ (s : Udpserver) (i : ℕ), ∃ k,
      launchWorkers threadOk s i n = ({ s with workerThreads := s.workerThreads + k }, true) ∨
        launchWorkers threadOk s i n =
          (({ s with workerThreads := s.workerThreads + k } : Udpserver).stopSending, false) := by
  induction n with
  | zero => intro s i; exact ⟨0, Or.inl rfl⟩
  | succ n ih =>
    intro s i
    rw [launchWorkers]
    split_ifs
    · -- one more handle, then the rest of the loop
      obtain ⟨k, hk⟩ := ih { s with workerThreads := s.workerThreads + 1 } (i + 1)
      refine ⟨1 + k, ?_⟩
      simp only [Nat.add_assoc] at hk
      exact hk
    · exact ⟨0, Or.inr rfl⟩

/-- The inversion lemma of `StartSending`, whatever `QThread::create` returns: without a file name
or while running it returns at once; otherwise it launches from `launchState`. -/
theorem startSendingWith_cases (threadOk : ℕ → Bool) (s : Udpserver) :
    (s.startSending.2 = false ∧ startSendingWith threadOk s = (s, false)) ∨
      (s.startSending.2 = true ∧ Launched (launchState s) (startSendingWith threadOk s).1) := by
  unfold startSendingWith startSending
  split_ifs with hpath hrun hreader
  · exact Or.inl ⟨rfl, rfl⟩
  · exact Or.inl ⟨rfl, rfl⟩
  · obtain ⟨k, hk | hk⟩ := launchWorkers_cases threadOk socketPoolSize
      { launchState s with workerThreads := 1 } 0
    · exact Or.inr ⟨rfl, 1 + k, Or.inl (by rw [hk])⟩
    · exact Or.inr ⟨rfl, 1 + k, Or.inr (Or.inr (by rw [hk]))⟩
  · exact Or.inr ⟨rfl, 0, Or.inr (Or.inl rfl)⟩

/-- Whatever threads it creates, a launch changes no channel, cursor, encoder or counter of
`launchState`. -/
theorem Launched.frame {l r : Udpserver} (h : Launched l r) :
    r.channels = l.channels ∧ r.currentSocket = l.currentSocket ∧ r.fec = l.fec ∧
      r.globalSeqCounter = l.globalSeqCounter := by
  obtain ⟨k, rfl | rfl | rfl⟩ := h
  · exact ⟨rfl, rfl, rfl, rfl⟩
  · exact ⟨rfl, rfl, rfl, rfl⟩
  · exact stopSending_frame _

theorem startSendingWith_frame (threadOk : ℕ → Bool) (s : Udpserver) :
    (startSendingWith threadOk s).1.fec = s.fec ∧
      (startSendingWith threadOk s).1.globalSeqCounter = s.globalSeqCounter := by
  rcases startSendingWith_cases threadOk s with ⟨-, hsame⟩ | ⟨-, hlaunch⟩
  · rw [hsame]
    exact ⟨rfl, rfl⟩
  · obtain ⟨-, -, hfec, hseq⟩ := hlaunch.frame
    obtain ⟨-, hfec₀, hseq₀⟩ := launchState_frame s
    exact ⟨hfec.trans hfec₀, hseq.trans hseq₀⟩

theorem Launched.noRestart {l r : Udpserver} (h : Launched l r) : NoRestart l r := by
  obtain ⟨k, rfl | rfl | rfl⟩ := h
  · exact NoRestart.of_eq rfl rfl rfl
  · exact NoRestart.of_eq rfl rfl rfl
  · have hthreads : NoRestart l { l with workerThreads := k } := NoRestart.of_eq rfl rfl rfl
    exact hthreads.trans (noRestart_stopSending _)

theorem noRestart_enqueueChunk (s : Udpserver) (target : ℕ) (chunk : List UInt8) :
    NoRestart s (enqueueChunk s target chunk) :=
  ⟨Or.inl rfl, le_rfl, fun _ => packetByFEC_fecFirstUse _ _ _ _ _⟩

theorem noRestart_readerPass (s : Udpserver) (enabled : ℕ → Bool) (file : List UInt8) :
    NoRestart s (s.readerPass enabled file).1 := by
  cases hsel : (selectChannel socketPoolSize enabled s.currentSocket).1 with
  | none =>
    rw [readerPass_of_none s enabled file hsel]
    exact NoRestart.refl s
  | some target =>
    rw [readerPass_of_some s enabled file hsel]
    refine NoRestart.trans ?_ (noRestart_enqueueChunk _ _ _)
    exact NoRestart.of_eq rfl rfl rfl

theorem noRestart_workerSend (s : Udpserver) (socketIndex : ℕ) (sp : SendPacket) (draw : ℚ)
    (stale : List UInt8) : NoRestart s (s.workerSend socketIndex sp draw stale).1 := by
  simp only [workerSend]
  split_ifs <;> exact NoRestart.of_eq rfl rfl rfl

theorem noRestart_workerPass (s : Udpserver) (socketIndex : ℕ) (draw : ℚ) (stale : List UInt8) :
    NoRestart s (s.workerPass socketIndex draw stale).1 := by
  unfold workerPass
  split_ifs
  · split
    · exact NoRestart.refl s
    · refine NoRestart.trans ?_ (noRestart_workerSend _ _ _ _ _)
      exact NoRestart.of_eq rfl rfl rfl
  · exact NoRestart.refl s

/-- The step lemma: no operation restarts anything. -/
theorem noRestart_step (s : Udpserver) (op : Op) : NoRestart s (step s op) := by
  cases op with
  | setFileName filePath => exact NoRestart.of_eq rfl rfl rfl
  | startSending threadOk =>
    rcases startSendingWith_cases threadOk s with ⟨-, hsame⟩ | ⟨-, hlaunch⟩
    · rw [step, hsame]
      exact NoRestart.refl s
    · exact (noRestart_launchState s).trans hlaunch.noRestart
  | stopSending => exact noRestart_stopSending s
  | channelStateChange channel state =>
    simp only [step, channelStateChange]
    split_ifs
    · exact NoRestart.refl s
    · exact NoRestart.of_eq rfl rfl rfl
  | setLossRate channel rate =>
    simp only [step, setLossRate]
    split_ifs
    · exact NoRestart.of_eq rfl rfl rfl
    · exact NoRestart.refl s
  | readerPass enabled file =>
    simp only [step]
    split_ifs
    · exact noRestart_readerPass s enabled file
    · exact NoRestart.refl s
  | readerExit how => cases how <;> exact NoRestart.of_eq rfl rfl rfl
  | workerPass socketIndex draw stale =>
    simp only [step]
    split_ifs
    · exact noRestart_workerPass s socketIndex draw stale
    · exact NoRestart.refl s

/-- The run lemma. -/
theorem noRestart_run (ops : List Op) : ∀ s : Udpserver, NoRestart s (run s ops) := by
  induction ops with
  | nil => exact NoRestart.refl
  | cons op ops ih =>
    intro s
    exact (noRestart_step s op).trans (ih (step s op))

/-! ## Launches -/

theorem launchState_create_fresh (stale : Vector UInt8 packetMasksSize) (socketOk : ℕ → Bool)
    (hok : ∀ j < socketPoolSize, socketOk j = true) (filePath : String) :
    FreshLaunch (launchState ((create stale true socketOk).setFileName filePath)) := by
  obtain ⟨sockets, hcreate, hopen⟩ := create_of_ok socketOk stale hok
  rw [hcreate]
  refine ⟨le_rfl, hopen, fun j hj => ?_, ⟨rfl, rfl, rfl⟩, ⟨rfl, rfl⟩⟩
  simp [launchState, setFileName]

theorem stopSending_of_effective {s : Udpserver} (h : s.isRunning = true ∨ s.workerThreads ≠ 0) :
    NoOpenSocket s.stopSending ∧ s.stopSending.wsaCount = s.wsaCount - 1 := by
  have heff : s.stopSending =
      { s with isRunning := false, workerThreads := 0,
               sockets := s.sockets.map fun _ => .invalid, wsaCount := wsaCleanup s.wsaCount } := by
    unfold stopSending
    rw [if_neg (by cases hr : s.isRunning <;> simp_all)]
  rw [heff]
  exact ⟨fun j hj => by simp, rfl⟩

theorem noRestart_launchState_of_threads {s : Udpserver} (h : s.workerThreads ≠ 0) :
    NoRestart s.stopSending (launchState s) := by
  unfold launchState
  rw [if_pos h]
  exact NoRestart.of_eq rfl rfl rfl

/-- Every start is not a fresh start. A construction where `WSAStartup` or a `socket()` call fails
leaves every later launch without an open socket. A launch with thread handles left over, as after
a reader that could not open its file, stops the server first and finds every socket closed. After
an effective `StopSending`, every later launch finds every socket closed and Winsock with one
reference fewer. Once a chunk has latched the encoder's `packet_size`, every later launch finds it
still latched. -/
theorem startSending_relaunch_not_fresh (stale : Vector UInt8 packetMasksSize) (wsaStartupOk : Bool)
    (socketOk : ℕ → Bool) (s : Udpserver) (ops : List Op) :
    ((wsaStartupOk = false ∨ ∃ j < socketPoolSize, socketOk j = false) →
      ¬ FreshLaunch (launchState (run (create stale wsaStartupOk socketOk) ops))) ∧
    (s.workerThreads ≠ 0 → ¬ FreshLaunch (launchState s)) ∧
    ((s.isRunning = true ∨ s.workerThreads ≠ 0) →
      ¬ FreshLaunch (launchState (run s.stopSending ops)) ∧
        (launchState (run s.stopSending ops)).wsaCount ≤ s.wsaCount - 1) ∧
    (s.fec.fecFirstUse = false → ¬ FreshLaunch (launchState (run s ops))) := by
  refine ⟨fun hfail => ?_, fun hthreads => ?_, fun hstop => ?_, fun hlatched => ?_⟩
  · -- no socket was opened by the constructor, and none is opened later
    have hrun := (noRestart_run ops (create stale wsaStartupOk socketOk)).trans
      (noRestart_launchState _)
    exact not_fresh_of_noOpenSocket
      (hrun.noOpenSocket (create_of_fail socketOk stale wsaStartupOk hfail).1)
  · -- the forced stop inside `StartSending` is effective
    have hclosed := (stopSending_of_effective (Or.inr hthreads)).1
    exact not_fresh_of_noOpenSocket ((noRestart_launchState_of_threads hthreads).noOpenSocket hclosed)
  · obtain ⟨hclosed, hwsa⟩ := stopSending_of_effective hstop
    have hrun := (noRestart_run ops s.stopSending).trans (noRestart_launchState _)
    exact ⟨not_fresh_of_noOpenSocket (hrun.noOpenSocket hclosed), hrun.wsaCount_le.trans hwsa.le⟩
  · exact not_fresh_of_latched
      (((noRestart_run ops s).trans (noRestart_launchState _)).latched hlatched)

/-- Construct with every call succeeding, set a file name and start; the reader cannot open the
file and clears `is_running`; start again: the second launch happens, and finds no open socket. -/
theorem startSending_relaunch_not_fresh_open_failure :
    let s := run (create (Vector.replicate packetMasksSize 0) true fun _ => true)
      [.setFileName "f", .startSending fun _ => true, .readerExit .openFailure]
    s.startSending.2 = true ∧ ¬ FreshLaunch (launchState s) :=
  ⟨rfl, (startSending_relaunch_not_fresh (Vector.replicate packetMasksSize 0) true (fun _ => true)
    (run (create (Vector.replicate packetMasksSize 0) true fun _ => true)
      [.setFileName "f", .startSending fun _ => true, .readerExit .openFailure]) []).2.1 (by decide)⟩

end Udpserver

end ChannelSim

import ChannelSim.Server.Session
import ChannelSim.Lib.Binary64

/-! # The main window

`Channel_sim` is the window of the program. Its constructor builds the server and connects the
widgets: the file action sets the file name, the play button starts sending, the check box of
channel `k` emits `ChannelStateChanging(k - 1, checked)` and the scroll bar of channel `k` emits
`ChannelLostRateChanging(k - 1, (double)value / 1000.0)` and shows `(double)value / 10` in its
label. Both are binary64 divisions, so each is the double nearest to the quotient
(`Lib.roundBinary64`). The stop button of the `.ui` file is connected to no slot. A session is any
interleaving of widget events and passes of the threads that `StartSending` launches.

Throughout every session the window shows the server's channel settings (`Agrees`,
`session_agrees`): a channel is enabled exactly when its box is not unchecked, its loss rate is the
double nearest to its bar's value over 1000, and its label the double nearest to the value over 10.
The scroll bars keep their default range, so through this window no channel drops a tenth of its
packets or more.

Clicking the stop button does nothing, and the reader leaves `is_running` set at the end of its
file, so sending starts at most once: from a running server every later play click does nothing
(`playBtn_ignored_while_running`), unless the reader thread found an empty path or could not open
its file.
-/

namespace ChannelSim
open Lib
set_option autoImplicit false

/-- `Qt::CheckState`. -/
inductive CheckState
  | unchecked
  | partiallyChecked
  | checked
  deriving DecidableEq, Repr

/-- The largest value of a `QScrollBar` whose range the `.ui` file leaves at its default. -/
def scrollBarMaximum : ℕ := 99

/-- The widgets the slots of `Channel_sim` read and write: the check boxes and scroll bars of the
three channels, the number each loss-rate label shows once a slot has set it (`none` while it
shows the `.ui` text), and the status bar's message. -/
structure Window where
  checkboxes : Fin 3 → CheckState
  packetlostBars : Fin 3 → Fin (scrollBarMaximum + 1)
  lostrateLabels : Fin 3 → Option ℚ
  statusMessage : Option String

namespace Window

/-- The widgets as `setupUi` leaves them. -/
def initial : Window where
  checkboxes _ := .unchecked
  packetlostBars _ := 0
  lostrateLabels _ := none
  statusMessage := none

/-! ## The slots -/

/-- `getChannelState_k(state)`: the box's `checkState()` read as a `bool` goes to
`ChannelStateChanging(channel, ...)`, and the status bar shows a message for three seconds. -/
def getChannelState (channel : ℤ) (openMessage closeMessage : String) (checkState : CheckState) :
    Udpserver.Op × String :=
  if checkState ≠ .unchecked then (.channelStateChange channel true, openMessage)
  else (.channelStateChange channel false, closeMessage)

def getChannelState_1 : CheckState → Udpserver.Op × String :=
  getChannelState 0 "Channel 1 open" "Channel 1 close "

def getChannelState_2 : CheckState → Udpserver.Op × String :=
  getChannelState 1 "Channel 2 open" "Channel 2 close"

def getChannelState_3 : CheckState → Udpserver.Op × String :=
  getChannelState 2 "Channel 3 open" "Channel 3 close"

/-- `getLostrate_k(vaule)`: the label shows `(double)vaule / 10` and
`ChannelLostRateChanging(channel, (double)vaule / 1000.0)` is emitted. -/
def getLostrate (channel : ℤ) (vaule : ℤ) : ℚ × Udpserver.Op :=
  (roundBinary64 ((vaule : ℚ) / 10), .setLossRate channel (roundBinary64 ((vaule : ℚ) / 1000)))

def getLostrate_1 : ℤ → ℚ × Udpserver.Op := getLostrate 0

def getLostrate_2 : ℤ → ℚ × Udpserver.Op := getLostrate 1

def getLostrate_3 : ℤ → ℚ × Udpserver.Op := getLostrate 2

/-- The slot connected to `stateChanged` of the box of channel `k + 1`. -/
def checkboxSlot : Fin 3 → CheckState → Udpserver.Op × String
  | 0 => getChannelState_1
  | 1 => getChannelState_2
  | 2 => getChannelState_3

/-- The slot connected to `valueChanged` of the scroll bar of channel `k + 1`. -/
def packetlostBarSlot : Fin 3 → ℤ → ℚ × Udpserver.Op
  | 0 => getLostrate_1
  | 1 => getLostrate_2
  | 2 => getLostrate_3

end Window

/-- What the user does to a widget. -/
inductive WindowEvent
  /-- `file_action` is triggered and the dialog returns `fileName`, empty when cancelled. -/
  | fileAction (fileName : String)
  | checkbox (k : Fin 3) (state : CheckState)
  | packetlostBar (k : Fin 3) (value : Fin (scrollBarMaximum + 1))
  /-- `Play_btn` is clicked; `threadOk` is the outcome of each `QThread::create` of `StartSending`. -/
  | playBtn (threadOk : ℕ → Bool)
  | stopBtn

/-- A pass or the exit of a thread that `StartSending` launched. -/
inductive ThreadStep
  | readerPass (enabled : ℕ → Bool) (file : List UInt8)
  | readerExit (how : Udpserver.ReaderEnd)
  | workerPass (socketIndex : ℕ) (draw : ℚ) (stale : List UInt8)

def ThreadStep.op : ThreadStep → Udpserver.Op
  | .readerPass enabled file => .readerPass enabled file
  | .readerExit how => .readerExit how
  | .workerPass socketIndex draw stale => .workerPass socketIndex draw stale

inductive Input
  | window (e : WindowEvent)
  | thread (t : ThreadStep)

namespace Window

/-- One widget event: the slots connected to its signal run in the order of the `connect` calls,
and the server handles what they emit. -/
def windowStep (w : Window) (s : Udpserver) : WindowEvent → Window × Udpserver
  | .fileAction fileName => (w, s.setFileName fileName)
  | .checkbox k state =>
    let (op, message) := checkboxSlot k state
    ({ w with checkboxes := Function.update w.checkboxes k state, statusMessage := some message },
      s.step op)
  | .packetlostBar k value =>
    let (label, op) := packetlostBarSlot k value
    ({ w with packetlostBars := Function.update w.packetlostBars k value,
              lostrateLabels := Function.update w.lostrateLabels k (some label) }, s.step op)
  | .playBtn threadOk =>
    ({ w with statusMessage := some "Start sending" }, s.step (.startSending threadOk))
  -- the constructor connects `Stop_btn` to no slot
  | .stopBtn => (w, s)

def sessionStep (ws : Window × Udpserver) : Input → Window × Udpserver
  | .window e => windowStep ws.1 ws.2 e
  | .thread t => (ws.1, ws.2.step t.op)

/-- The window and the server after a session: `Channel_sim(parent)` constructs the server with
`Udpserver(this, "225.0.10.101", 600)`, then the inputs come. -/
def session (stale : Vector UInt8 packetMasksSize) (wsaStartupOk : Bool) (socketOk : ℕ → Bool)
    (inputs : List Input) : Window × Udpserver :=
  inputs.foldl sessionStep (initial, Udpserver.create stale wsaStartupOk socketOk)

end Window

/-! ## What the operations do to the channel settings -/

namespace Udpserver

/-- The enabled flag and the loss rate of every channel, the settings the window controls, are
the same in `s` and `s'`. -/
def SameSettings (s s' : Udpserver) : Prop :=
  ∀ i, (s'.channelAt i).enabled = (s.channelAt i).enabled ∧
    (s'.channelAt i).lossRate = (s.channelAt i).lossRate

theorem SameSettings.of_channels {s s' : Udpserver} (h : s'.channels = s.channels) :
    SameSettings s s' := fun i => by
  rw [channelAt_of_channels s i h]
  exact ⟨rfl, rfl⟩

theorem SameSettings.of_mapIdx (s : Udpserver) (g : ℕ → ChannelContext → ChannelContext)
    (hg : ∀ j ch, (g j ch).enabled = ch.enabled ∧ (g j ch).lossRate = ch.lossRate) :
    SameSettings s { s with channels := s.channels.mapIdx g } := fun i => by
  rw [channelAt_mapIdx]
  split_ifs with hi
  · exact hg i _
  · rw [channelAt_of_ge s (by omega)]
    exact ⟨rfl, rfl⟩

theorem sameSettings_launchState (s : Udpserver) : SameSettings s (launchState s) := fun i => by
  by_cases hi : i < socketPoolSize
  · rw [channelAt_of_lt _ hi, channelAt_of_lt _ hi, (launchState_frame s).1, Vector.getElem_map]
    exact ⟨rfl, rfl⟩
  · rw [channelAt_of_ge _ (by omega), channelAt_of_ge _ (by omega)]
    exact ⟨rfl, rfl⟩

theorem sameSettings_readerPass (s : Udpserver) (enabled : ℕ → Bool) (file : List UInt8) :
    SameSettings s (s.readerPass enabled file).1 := by
  cases hsel : (selectChannel socketPoolSize enabled s.currentSocket).1 with
  | none =>
    rw [readerPass_of_none s enabled file hsel]
    exact SameSettings.of_channels rfl
  | some target =>
    rw [readerPass_of_some s enabled file hsel]
    exact SameSettings.of_mapIdx _ _ fun j ch => by split_ifs <;> exact ⟨rfl, rfl⟩

theorem sameSettings_workerPass (s : Udpserver) (socketIndex : ℕ) (draw : ℚ) (stale : List UInt8) :
    SameSettings s (s.workerPass socketIndex draw stale).1 := by
  cases hq : (s.channelAt socketIndex).packetQueue with
  | nil =>
    rw [workerPass_of_idle draw stale (Or.inr hq)]
    exact SameSettings.of_channels rfl
  | cons sp rest =>
    cases hen : (s.channelAt socketIndex).enabled with
    | false =>
      rw [workerPass_of_idle draw stale (Or.inl hen)]
      exact SameSettings.of_channels rfl
    | true =>
      -- phase 1 changes one queue, phase 3 no channel
      intro i
      rw [workerPass_of_cons draw stale hen hq,
        channelAt_of_channels _ i (workerSend_frame _ socketIndex sp draw stale).1, channelAt_withQueue]
      split_ifs <;> exact ⟨rfl, rfl⟩

theorem sameSettings_step (s : Udpserver) (op : Op)
    (hstate : ∀ channel state, op ≠ .channelStateChange channel state)
    (hrate : ∀ channel rate, op ≠ .setLossRate channel rate) : SameSettings s (step s op) := by
  cases op with
  | setFileName filePath => exact SameSettings.of_channels rfl
  | startSending threadOk =>
    rcases startSendingWith_cases threadOk s with ⟨-, hsame⟩ | ⟨-, hlaunch⟩
    · rw [step, hsame]
      exact SameSettings.of_channels rfl
    · intro i
      rw [step, channelAt_of_channels _ i hlaunch.frame.1]
      exact sameSettings_launchState s i
  | stopSending => exact SameSettings.of_channels (stopSending_frame s).1
  | channelStateChange channel state => exact absurd rfl (hstate channel state)
  | setLossRate channel rate => exact absurd rfl (hrate channel rate)
  | readerPass enabled file =>
    simp only [step]
    split_ifs
    · exact sameSettings_readerPass s enabled file
    · exact SameSettings.of_channels rfl
  | readerExit how => cases how <;> exact SameSettings.of_channels rfl
  | workerPass socketIndex draw stale =>
    simp only [step]
    split_ifs
    · exact sameSettings_workerPass s socketIndex draw stale
    · exact SameSettings.of_channels rfl

theorem channelAt_channelStateChange (s : Udpserver) (k j : Fin 3) (state : Bool) :
    (step s (.channelStateChange (k : ℕ) state)).channelAt j =
      if j = k then { s.channelAt j with enabled := state } else s.channelAt j := by
  have hk : ¬ (((k : ℕ) : ℤ) < 0 ∨ (socketPoolSize : ℤ) ≤ (k : ℕ)) := by
    simp only [socketPoolSize]
    omega
  simp only [step, channelStateChange, if_neg hk, channelAt_mapIdx, Int.toNat_natCast]
  rw [if_pos (show (j : ℕ) < socketPoolSize from j.isLt)]
  simp only [Fin.val_inj]

theorem channelAt_setLossRate (s : Udpserver) (k j : Fin 3) {rate : ℚ} (h0 : 0 ≤ rate)
    (h1 : rate ≤ 1) :
    (step s (.setLossRate (k : ℕ) rate)).channelAt j =
      if j = k then { s.channelAt j with lossRate := rate } else s.channelAt j := by
  have hk : 0 ≤ ((k : ℕ) : ℤ) ∧ ((k : ℕ) : ℤ) < (socketPoolSize : ℤ) := by
    simp only [socketPoolSize]
    omega
  have hclamp : max 0 (min 1 rate) = rate := by
    rw [min_eq_right h1, max_eq_right h0]
  simp only [step, setLossRate, if_pos hk, channelAt_mapIdx, Int.toNat_natCast, hclamp]
  rw [if_pos (show (j : ℕ) < socketPoolSize from j.isLt)]
  simp only [Fin.val_inj]

theorem lossRate_channelStateChange (s : Udpserver) (k j : Fin 3) (state : Bool) :
    ((step s (.channelStateChange (k : ℕ) state)).channelAt j).lossRate = (s.channelAt j).lossRate := by
  rw [channelAt_channelStateChange]
  split_ifs <;> rfl

theorem enabled_setLossRate (s : Udpserver) (k j : Fin 3) {rate : ℚ} (h0 : 0 ≤ rate) (h1 : rate ≤ 1) :
    ((step s (.setLossRate (k : ℕ) rate)).channelAt j).enabled = (s.channelAt j).enabled := by
  rw [channelAt_setLossRate s k j h0 h1]
  split_ifs <;> rfl

/-! ## What stops a running server -/

theorem startSendingWith_of_running {s : Udpserver} (hrun : s.isRunning = true) (threadOk : ℕ → Bool) :
    startSendingWith threadOk s = (s, false) := by
  unfold startSendingWith
  split_ifs with hpath
  · rfl
  · rfl

theorem isRunning_readerPass (s : Udpserver) (enabled : ℕ → Bool) (file : List UInt8) :
    (s.readerPass enabled file).1.isRunning = s.isRunning := by
  cases hsel : (selectChannel socketPoolSize enabled s.currentSocket).1 with
  | none => rw [readerPass_of_none s enabled file hsel]
  | some target =>
    rw [readerPass_of_some s enabled file hsel]
    rfl

theorem isRunning_workerPass (s : Udpserver) (socketIndex : ℕ) (draw : ℚ) (stale : List UInt8) :
    (s.workerPass socketIndex draw stale).1.isRunning = s.isRunning := by
  cases hq : (s.channelAt socketIndex).packetQueue with
  | nil => rw [workerPass_of_idle draw stale (Or.inr hq)]
  | cons sp rest =>
    cases hen : (s.channelAt socketIndex).enabled with
    | false => rw [workerPass_of_idle draw stale (Or.inl hen)]
    | true =>
      rw [workerPass_of_cons draw stale hen hq, workerSend_eq]
      split_ifs <;> rfl

theorem isRunning_step {s : Udpserver} (hrun : s.isRunning = true) (op : Op)
    (hstop : op ≠ .stopSending) (hexit : ∀ how, op = .readerExit how → how = .endOfFile) :
    (step s op).isRunning = true := by
  cases op with
  | setFileName filePath => exact hrun
  | startSending threadOk =>
    rw [step, startSendingWith_of_running hrun]
    exact hrun
  | stopSending => exact absurd rfl hstop
  | channelStateChange channel state =>
    simp only [step, channelStateChange]
    split_ifs <;> exact hrun
  | setLossRate channel rate =>
    simp only [step, setLossRate]
    split_ifs <;> exact hrun
  | readerPass enabled file =>
    simp only [step]
    split_ifs
    · rw [isRunning_readerPass]
      exact hrun
    · exact hrun
  | readerExit how =>
    obtain rfl := hexit how rfl
    exact hrun
  | workerPass socketIndex draw stale =>
    rw [step, if_pos hrun, isRunning_workerPass]
    exact hrun

end Udpserver

/-! ## The window shows the settings -/

namespace Window

theorem getChannelState_fst (channel : ℤ) (openMessage closeMessage : String) (state : CheckState) :
    (getChannelState channel openMessage closeMessage state).1 =
      .channelStateChange channel (decide (state ≠ .unchecked)) := by
  unfold getChannelState
  split_ifs with h
  · simp [h]
  · simp [h]

theorem checkboxSlot_fst (k : Fin 3) (state : CheckState) :
    (checkboxSlot k state).1 = .channelStateChange (k : ℕ) (decide (state ≠ .unchecked)) := by
  fin_cases k <;> exact getChannelState_fst _ _ _ _

theorem checkboxSlot_snd (k : Fin 3) (state : CheckState) :
    (checkboxSlot k state).2 = "Channel " ++ toString ((k : ℕ) + 1) ++
      (if state ≠ .unchecked then " open" else if k = 0 then " close " else " close") := by
  fin_cases k <;> cases state <;> decide

theorem packetlostBarSlot_eq (k : Fin 3) (vaule : ℤ) :
    packetlostBarSlot k vaule = (roundBinary64 ((vaule : ℚ) / 10),
      .setLossRate (k : ℕ) (roundBinary64 ((vaule : ℚ) / 1000))) := by
  fin_cases k <;> rfl

theorem barRate_bounds (v : Fin (scrollBarMaximum + 1)) :
    0 ≤ roundBinary64 (((v : ℕ) : ℚ) / 1000) ∧
      |roundBinary64 (((v : ℕ) : ℚ) / 1000) - ((v : ℕ) : ℚ) / 1000| ≤ ((v : ℕ) : ℚ) / 1000 / 2 ^ 53 ∧
      roundBinary64 (((v : ℕ) : ℚ) / 1000) < 1 / 10 := by
  have hv : ((v : ℕ) : ℚ) ≤ 99 := by exact_mod_cast Nat.le_of_lt_succ v.isLt
  have hnonneg : (0 : ℚ) ≤ ((v : ℕ) : ℚ) / 1000 := by positivity
  rcases Nat.eq_zero_or_pos (v : ℕ) with hzero | hpos
  · rw [hzero, Nat.cast_zero, zero_div, roundBinary64_zero]
    norm_num
  · -- a rate of at least `1 / 1000` is a normal double
    have hnormal : (2 : ℚ) ^ (-1022 : ℤ) ≤ |((v : ℕ) : ℚ) / 1000| := by
      rw [abs_of_nonneg hnonneg]
      have h1 : (1 : ℚ) ≤ (v : ℕ) := by exact_mod_cast hpos
      calc (2 : ℚ) ^ (-1022 : ℤ) ≤ 1 / 1000 := by
            rw [zpow_neg, one_div, show (1022 : ℤ) = ((1022 : ℕ) : ℤ) from rfl, zpow_natCast]
            have hbig : (1000 : ℚ) ≤ 2 ^ 1022 :=
              calc (1000 : ℚ) ≤ 2 ^ 10 := by norm_num
                _ ≤ 2 ^ 1022 := pow_le_pow_right₀ (by norm_num) (by norm_num)
            exact inv_anti₀ (by norm_num) hbig
        _ ≤ ((v : ℕ) : ℚ) / 1000 := by linarith
    have herr := abs_roundBinary64_sub_le hnormal
    rw [abs_of_nonneg hnonneg] at herr
    refine ⟨roundBinary64_nonneg hnonneg, herr, ?_⟩
    have hup := (abs_le.mp herr).2
    have hpow : (0 : ℚ) < 2 ^ 53 := by positivity
    have hsmall : ((v : ℕ) : ℚ) / 1000 / 2 ^ 53 ≤ 99 / 1000 / 2 ^ 53 :=
      div_le_div_of_nonneg_right (by linarith) hpow.le
    have htiny : (99 / 1000 : ℚ) / 2 ^ 53 < 1 / 1000 := by norm_num
    linarith

/-- The window shows the server's channel settings: a channel is enabled exactly when its box is
not unchecked, its loss rate is the double nearest to its bar's value over 1000, and its label, once
set, shows the double nearest to the bar's value over 10. -/
structure Agrees (w : Window) (s : Udpserver) : Prop where
  enabled_eq : ∀ k : Fin 3, (s.channelAt k).enabled = decide (w.checkboxes k ≠ .unchecked)
  lossRate_eq : ∀ k : Fin 3,
    (s.channelAt k).lossRate = roundBinary64 (((w.packetlostBars k : ℕ) : ℚ) / 1000)
  label_eq : ∀ k : Fin 3, ∀ x ∈ w.lostrateLabels k,
    x = roundBinary64 (((w.packetlostBars k : ℕ) : ℚ) / 10)

theorem Agrees.of_sameSettings {w : Window} {s s' : Udpserver} (h : Agrees w s)
    (hsame : Udpserver.SameSettings s s') : Agrees w s' where
  enabled_eq k := (hsame k).1.trans (h.enabled_eq k)
  lossRate_eq k := (hsame k).2.trans (h.lossRate_eq k)
  label_eq := h.label_eq

theorem agrees_initial (stale : Vector UInt8 packetMasksSize) (wsaStartupOk : Bool)
    (socketOk : ℕ → Bool) : Agrees initial (Udpserver.create stale wsaStartupOk socketOk) := by
  have hch := (Udpserver.create_frame stale wsaStartupOk socketOk).1
  refine ⟨fun k => ?_, fun k => ?_, fun k x hx => ?_⟩
  · rw [Udpserver.channelAt_of_channels _ k hch, Udpserver.channelAt_of_lt _ k.isLt]
    simp [Udpserver.initial, initial]
  · rw [Udpserver.channelAt_of_channels _ k hch, Udpserver.channelAt_of_lt _ k.isLt]
    simp [Udpserver.initial, initial]
  · simp [initial] at hx

theorem agrees_checkbox {w : Window} {s : Udpserver} (h : Agrees w s) (k : Fin 3)
    (state : CheckState) : Agrees (windowStep w s (.checkbox k state)).1
      (windowStep w s (.checkbox k state)).2 := by
  simp only [windowStep, checkboxSlot_fst]
  refine ⟨fun j => ?_, fun j => ?_, h.label_eq⟩
  · rw [Udpserver.channelAt_channelStateChange]
    simp only [Function.update_apply]
    split_ifs with hjk
    · rfl
    · exact h.enabled_eq j
  · rw [Udpserver.lossRate_channelStateChange]
    exact h.lossRate_eq j

theorem agrees_packetlostBar {w : Window} {s : Udpserver} (h : Agrees w s) (k : Fin 3)
    (value : Fin (scrollBarMaximum + 1)) : Agrees (windowStep w s (.packetlostBar k value)).1
      (windowStep w s (.packetlostBar k value)).2 := by
  -- the bar's range keeps the rate inside the clamp
  obtain ⟨h0, -, h1⟩ := barRate_bounds value
  have hcast : ((((value : ℕ) : ℤ)) : ℚ) = ((value : ℕ) : ℚ) := Int.cast_natCast _
  simp only [windowStep, packetlostBarSlot_eq, hcast]
  refine ⟨fun j => ?_, fun j => ?_, fun j x hx => ?_⟩
  · rw [Udpserver.enabled_setLossRate _ _ _ h0 (by linarith)]
    exact h.enabled_eq j
  · rw [Udpserver.channelAt_setLossRate _ _ _ h0 (by linarith)]
    simp only [Function.update_apply]
    split_ifs with hjk
    · subst hjk
      rfl
    · exact h.lossRate_eq j
  · simp only [Function.update_apply] at hx ⊢
    split_ifs at hx ⊢ with hjk
    · simp only [Option.mem_def, Option.some.injEq] at hx
      exact hx.symm
    · exact h.label_eq j x hx

/-- The step lemma: every input keeps the window in agreement with the server. -/
theorem agrees_sessionStep {ws : Window × Udpserver} (h : Agrees ws.1 ws.2) (input : Input) :
    Agrees (sessionStep ws input).1 (sessionStep ws input).2 := by
  cases input with
  | thread t =>
    refine h.of_sameSettings (Udpserver.sameSettings_step _ _ ?_ ?_) <;>
      intros <;> cases t <;> simp [ThreadStep.op]
  | window e =>
    cases e with
    | fileAction fileName =>
      exact h.of_sameSettings (Udpserver.sameSettings_step ws.2 (.setFileName fileName)
        (fun _ _ => by simp) (fun _ _ => by simp))
    | checkbox k state => exact agrees_checkbox h k state
    | packetlostBar k value => exact agrees_packetlostBar h k value
    | playBtn threadOk =>
      have hwin : Agrees { ws.1 with statusMessage := some "Start sending" } ws.2 :=
        ⟨h.enabled_eq, h.lossRate_eq, h.label_eq⟩
      exact hwin.of_sameSettings (Udpserver.sameSettings_step ws.2 (.startSending threadOk)
        (fun _ _ => by simp) (fun _ _ => by simp))
    | stopBtn => exact h

theorem agrees_run (inputs : List Input) (ws : Window × Udpserver) (h : Agrees ws.1 ws.2) :
    Agrees (inputs.foldl sessionStep ws).1 (inputs.foldl sessionStep ws).2 :=
  foldl_invariant sessionStep (fun _ ws => Agrees ws.1 ws.2) (fun _ => True)
    (fun _ input _ _ h => agrees_sessionStep h input) inputs [] ws (fun _ _ => trivial) h

/-- Throughout every session the window shows the server's channel settings. The loss rate of each
channel is a double within the unit roundoff of its bar's value over 1000, and below `1 / 10`. -/
theorem session_agrees (stale : Vector UInt8 packetMasksSize) (wsaStartupOk : Bool)
    (socketOk : ℕ → Bool) (inputs : List Input) :
    Agrees (session stale wsaStartupOk socketOk inputs).1 (session stale wsaStartupOk socketOk inputs).2 ∧
      ∀ k : Fin 3,
        |((session stale wsaStartupOk socketOk inputs).2.channelAt k).lossRate -
            (((session stale wsaStartupOk socketOk inputs).1.packetlostBars k : ℕ) : ℚ) / 1000| ≤
          (((session stale wsaStartupOk socketOk inputs).1.packetlostBars k : ℕ) : ℚ) / 1000 / 2 ^ 53 ∧
        ((session stale wsaStartupOk socketOk inputs).2.channelAt k).lossRate < 1 / 10 := by
  have h : Agrees (session stale wsaStartupOk socketOk inputs).1
      (session stale wsaStartupOk socketOk inputs).2 :=
    agrees_run inputs (initial, Udpserver.create stale wsaStartupOk socketOk)
      (agrees_initial stale wsaStartupOk socketOk)
  refine ⟨h, fun k => ?_⟩
  rw [h.lossRate_eq k]
  exact (barRate_bounds _).2

/-! ## Sending starts once -/

/-- The step lemma: no widget event and no pass or end-of-file exit of a thread stops a running
server. -/
theorem sessionStep_running {ws : Window × Udpserver} (hrun : ws.2.isRunning = true) (input : Input)
    (hexit : ∀ how, input = .thread (.readerExit how) → how = .endOfFile) :
    (sessionStep ws input).2.isRunning = true := by
  cases input with
  | window e =>
    cases e with
    | fileAction fileName => exact hrun
    | checkbox k state =>
      show (ws.2.step (checkboxSlot k state).1).isRunning = true
      rw [checkboxSlot_fst]
      exact Udpserver.isRunning_step hrun _ (by simp) (by simp)
    | packetlostBar k value =>
      show (ws.2.step (packetlostBarSlot k value).2).isRunning = true
      rw [packetlostBarSlot_eq]
      exact Udpserver.isRunning_step hrun _ (by simp) (by simp)
    | playBtn threadOk => exact Udpserver.isRunning_step hrun (.startSending threadOk) (by simp) (by simp)
    | stopBtn => exact hrun
  | thread t =>
    refine Udpserver.isRunning_step hrun t.op (by cases t <;> simp [ThreadStep.op]) ?_
    intro how hop
    cases t with
    | readerExit how' =>
      simp only [ThreadStep.op, Udpserver.Op.readerExit.injEq] at hop
      exact hop ▸ hexit how' rfl
    | readerPass enabled file => simp [ThreadStep.op] at hop
    | workerPass socketIndex draw stale => simp [ThreadStep.op] at hop

/-- Through the window, sending starts at most once: from a running server, no widget event and
no pass or end-of-file exit of the threads clears `is_running`, so every later play click leaves
the server as it is, whatever the thread creations would return, and a file chosen afterwards is
never sent. Only a reader thread that finds an empty path or cannot open its file lets the play
button launch again. -/
theorem playBtn_ignored_while_running (ws : Window × Udpserver) (hrun : ws.2.isRunning = true)
    (inputs : List Input) (hexit : ∀ how, Input.thread (.readerExit how) ∈ inputs → how = .endOfFile) :
    (inputs.foldl sessionStep ws).2.isRunning = true ∧ ∀ threadOk : ℕ → Bool,
      (sessionStep (inputs.foldl sessionStep ws) (.window (.playBtn threadOk))).2 =
        (inputs.foldl sessionStep ws).2 := by
  have hrunning : (inputs.foldl sessionStep ws).2.isRunning = true :=
    foldl_invariant sessionStep (fun _ ws => ws.2.isRunning = true)
      (fun input => ∀ how, input = .thread (.readerExit how) → how = .endOfFile)
      (fun _ input _ hok h => sessionStep_running h input hok) inputs [] ws
      (fun input hin how heq => hexit how (heq ▸ hin)) hrun
  refine ⟨hrunning, fun threadOk => ?_⟩
  show (Udpserver.startSendingWith threadOk (inputs.foldl sessionStep ws).2).1 = _
  rw [Udpserver.startSendingWith_of_running hrunning]

/-- A file chosen and sent, the stop button clicked and a second file chosen: the second play click
changes nothing. -/
theorem playBtn_ignored_while_running_second_file :
    (sessionStep ([Input.window .stopBtn, .window (.fileAction "g")].foldl sessionStep
        (session (Vector.replicate packetMasksSize 0) true (fun _ => true)
          [.window (.fileAction "f"), .window (.playBtn fun _ => true)]))
        (.window (.playBtn fun _ => true))).2 =
      ([Input.window .stopBtn, .window (.fileAction "g")].foldl sessionStep
        (session (Vector.replicate packetMasksSize 0) true (fun _ => true)
          [.window (.fileAction "f"), .window (.playBtn fun _ => true)])).2 :=
  (playBtn_ignored_while_running
    (session (Vector.replicate packetMasksSize 0) true (fun _ => true)
      [.window (.fileAction "f"), .window (.playBtn fun _ => true)])
    (by decide +kernel) [.window .stopBtn, .window (.fileAction "g")] (by simp)).2 fun _ => true

end Window

end ChannelSim

import ChannelSim.Fec.Stream

/-! # Failed sends in `SendByUlpfec`

`SendByUlpfec(so, buf, len, flags, to, tolen, k, r, bitrate)` sends each packet as it is built, and
returns as soon as a `sendto` fails: after the media packet is queued and numbered, or inside the
FEC loop before the group is cleared. Both returns skip the reset of the group.

With `len` the same on every call, `fec_last_use` stays false and nothing else clears
`media_packets`. A call that encodes nothing (it does not complete the group, or its media `sendto`
fails) only queues and numbers its media packet and sends it: `sendByUlpfec_unencoded`. When the
media `sendto` of the call that completes a group fails, `media_packets` holds `k` packets and no
later call sees `media_packets.size() == k` again, so the encoder never builds another FEC packet:
`Unencoded` counts the calls of such a run and `sendByUlpfec_failed_send_stops_fec` states it.
-/

namespace ChannelSim
open Lib ForwardErrorCorrection
set_option autoImplicit false

/-- One call `SendByUlpfec(buf, len, k, r)` with the outcomes `sendOk` of its `sendto`s, the
datagrams it hands over appended to those of the calls before. -/
def sendStep (k r len : ℕ) (acc : ForwardErrorCorrection × List (List UInt8))
    (c : List UInt8 × (ℕ → Bool)) : ForwardErrorCorrection × List (List UInt8) :=
  ((sendByUlpfec acc.1 c.1 len k r c.2).1, acc.2 ++ (sendByUlpfec acc.1 c.1 len k r c.2).2)

/-- The calls `SendByUlpfec(buf_t, len, k, r)`, in order, with `len`, `k` and `r` fixed: the encoder
afterwards and every datagram handed to `sendto`. -/
def runSendByUlpfec (s : ForwardErrorCorrection) (k r len : ℕ)
    (calls : List (List UInt8 × (ℕ → Bool))) : ForwardErrorCorrection × List (List UInt8) :=
  calls.foldl (sendStep k r len) (s, [])

/-! ## One call -/

section Call
variable (s : ForwardErrorCorrection) (buf : List UInt8) (len k r : ℕ) (sendOk : ℕ → Bool)

theorem dropUnfinishedGroup_of_not_last (hlast : s.fecLastUse = false) : dropUnfinishedGroup s = s := by
  simp [dropUnfinishedGroup, hlast]

theorem prepareMediaPacket_fecLastUse_latched (hfirst : s.fecFirstUse = false)
    (hsize : s.packetSize = len) :
    (prepareMediaPacket s buf len k r).1.fecLastUse = s.fecLastUse := by
  simp only [prepareMediaPacket, hfirst, Bool.false_eq_true, if_false, hsize, Nat.lt_irrefl]

theorem sendByUlpfec_first (hfirst : s.fecFirstUse = true) :
    sendByUlpfec s buf len k r sendOk =
      sendByUlpfec { s with packetSize := len, fecFirstUse := false } buf len k r sendOk := by
  simp [sendByUlpfec, prepareMediaPacket, hfirst]

theorem sendByUlpfec_unencoded (hfirst : s.fecFirstUse = false) (hlast : s.fecLastUse = false)
    (hsize : s.packetSize = len) (hskip : s.mediaPackets.length + 1 ≠ k ∨ sendOk 0 = false) :
    sendByUlpfec s buf len k r sendOk =
      ({ (prepareMediaPacket s buf len k r).1 with
          mediaPackets := s.mediaPackets ++ [(prepareMediaPacket s buf len k r).2] },
        [datagram (prepareMediaPacket s buf len k r).2 len]) := by
  have hmedia := prepareMediaPacket_mediaPackets s buf len k r
  have hlast1 := prepareMediaPacket_fecLastUse_latched s buf len k r hfirst hsize
  have hsize1 := prepareMediaPacket_packetSize_latched s buf len k r hfirst
  rcases hp : prepareMediaPacket s buf len k r with ⟨s1, pkt⟩
  simp only [hp] at hmedia hlast1 hsize1
  cases hok : sendOk 0 with
  | false =>
    -- the media `sendto` fails: `SendByUlpfec` returns at once
    simp [sendByUlpfec, hp, hok, hmedia, hsize1, hsize]
  | true =>
    -- the media packet is sent, the group is not complete, and `fec_last_use` is false
    have hgroup : s.mediaPackets.length + 1 ≠ k := by simpa [hok] using hskip
    simp [sendByUlpfec, hp, hok, hmedia, hgroup, hsize1, hsize, dropUnfinishedGroup_of_not_last, hlast1,
      hlast]

end Call

/-! ## Runs that encode nothing -/

/-- The encoder after `n` calls of a run that has encoded nothing, with the same `len` each time:
every call has queued, numbered and sent its media packet, and nothing has been cleared. -/
structure Unencoded (k len n : ℕ) (acc : ForwardErrorCorrection × List (List UInt8)) : Prop where
  latched : acc.1.fecFirstUse = false
  not_last : acc.1.fecLastUse = false
  size_eq : acc.1.packetSize = len
  media_length : acc.1.mediaPackets.length = n
  sequence_eq : acc.1.sequenceNumber = n
  sent_length : acc.2.length = n

theorem unencoded_init (stale : Vector UInt8 packetMasksSize) (k len : ℕ) :
    Unencoded k len 0
      ({ ForwardErrorCorrection.init stale with packetSize := len, fecFirstUse := false }, []) where
  latched := rfl
  not_last := rfl
  size_eq := rfl
  media_length := rfl
  sequence_eq := rfl
  sent_length := rfl

theorem unencoded_step {k r len n : ℕ} (acc : ForwardErrorCorrection × List (List UInt8))
    (c : List UInt8 × (ℕ → Bool)) (hskip : n + 1 ≠ k ∨ c.2 0 = false)
    (hinv : Unencoded k len n acc) : Unencoded k len (n + 1) (sendStep k r len acc c) := by
  obtain ⟨hfirst, hlast, hsize, hmedia, hseq, hsent⟩ := hinv
  have hcall := sendByUlpfec_unencoded acc.1 c.1 len k r c.2 hfirst hlast hsize
    (by rw [hmedia]; exact hskip)
  refine ⟨?_, ?_, ?_, ?_, ?_, ?_⟩
  · simp [sendStep, hcall]
  · simp [sendStep, hcall, prepareMediaPacket_fecLastUse_latched _ _ _ _ _ hfirst hsize, hlast]
  · simp [sendStep, hcall, prepareMediaPacket_packetSize_latched _ _ _ _ _ hfirst, hsize]
  · simp [sendStep, hcall, hmedia]
  · simp [sendStep, hcall, hseq]
  · simp [sendStep, hcall, hsent]

theorem runSendByUlpfec_init (stale : Vector UInt8 packetMasksSize) (k r len : ℕ)
    (c : List UInt8 × (ℕ → Bool)) (cs : List (List UInt8 × (ℕ → Bool))) :
    runSendByUlpfec (ForwardErrorCorrection.init stale) k r len (c :: cs) =
      runSendByUlpfec { ForwardErrorCorrection.init stale with packetSize := len, fecFirstUse := false }
        k r len (c :: cs) := by
  simp only [runSendByUlpfec, List.foldl_cons, sendStep]
  rw [sendByUlpfec_first _ _ _ _ _ _ rfl]

/-! ## A failed media send stops FEC for good -/

/-- `SendByUlpfec` on a fresh encoder with `len`, `k` and `r` fixed, when the media `sendto` of call
`k` fails: after it and every later call, whatever their `sendto`s return, `media_packets.size()`
and `sequence_number` both equal the number of calls, which is at least `k`, and each call has
handed exactly one datagram to `sendto`, its media packet: no FEC packet is built again. -/
theorem sendByUlpfec_failed_send_stops_fec (stale : Vector UInt8 packetMasksSize) (k r len : ℕ)
    (pre : List (List UInt8 × (ℕ → Bool))) (hpre : pre.length + 1 = k) (buf : List UInt8)
    (sendOk : ℕ → Bool) (hfail : sendOk 0 = false) (post : List (List UInt8 × (ℕ → Bool))) :
    let run := runSendByUlpfec (ForwardErrorCorrection.init stale) k r len (pre ++ (buf, sendOk) :: post)
    run.1.mediaPackets.length = k + post.length ∧ run.1.sequenceNumber = k + post.length ∧
      run.2.length = k + post.length := by
  intro run
  have hlength : (pre ++ (buf, sendOk) :: post).length = k + post.length := by simp; omega
  -- every call but call `k` leaves its group incomplete, and call `k` fails its media send
  have hskip : ∀ i (hi : i < (pre ++ (buf, sendOk) :: post).length),
      0 + i + 1 ≠ k ∨ (pre ++ (buf, sendOk) :: post)[i].2 0 = false := by
    intro i hi
    by_cases hi' : i = pre.length
    · subst hi'
      right
      simp [hfail]
    · left
      omega
  have h := foldl_invariant_at (sendStep k r len) (Unencoded k len)
    (fun n c => n + 1 ≠ k ∨ c.2 0 = false) (fun n c acc hc hinv => unencoded_step acc c hc hinv)
    (pre ++ (buf, sendOk) :: post) 0 _ hskip (unencoded_init stale k len)
  rw [Nat.zero_add, hlength] at h
  obtain ⟨c, cs, hcs⟩ := List.exists_cons_of_ne_nil (List.ne_nil_of_length_pos
    (show 0 < (pre ++ (buf, sendOk) :: post).length by simp))
  have hrun : run = runSendByUlpfec
      { ForwardErrorCorrection.init stale with packetSize := len, fecFirstUse := false } k r len
      (pre ++ (buf, sendOk) :: post) := by
    simp only [run]
    rw [hcs, runSendByUlpfec_init]
  rw [hrun]
  exact ⟨h.media_length, h.sequence_eq, h.sent_length⟩

/-- `k = r = 1`, one-byte chunks: the first media `sendto` fails, the second succeeds, and
`media_packets` holds both packets. -/
theorem sendByUlpfec_failed_send_stops_fec_one :
    (runSendByUlpfec (ForwardErrorCorrection.init (Vector.replicate packetMasksSize 0)) 1 1 1
      ([] ++ ([1], fun _ => false) :: [([2], fun _ => true)])).1.mediaPackets.length = 1 + 1 :=
  (sendByUlpfec_failed_send_stops_fec (Vector.replicate packetMasksSize 0) 1 1 1 [] rfl [1]
    (fun _ => false) rfl [([2], fun _ => true)]).1

end ChannelSim

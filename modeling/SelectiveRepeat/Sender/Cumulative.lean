import SelectiveRepeat.Foundations.Distinct
import SelectiveRepeat.Sender.Quiet

/-!
# Cumulative acknowledgements

The packets in the slots carry consecutive numbers modulo 256.  The acknowledgement
loop compares the numbers as plain integers, so it frees the right packets as long
as the outstanding numbers and the next one do not wrap, and never beyond.
-/

namespace SelectiveRepeat.Sender

open SelectiveRepeat.Foundations SelectiveRepeat.Packet SelectiveRepeat.Transport

variable (crc32 : List UInt8 → UInt32)

namespace SenderState

/-- The slots hold one packet for each of the `m` numbers from `b` on, modulo 256, and the
variables of the loop fit. -/
structure Outstanding (b m : ℕ) (state : SenderState) : Prop where
  bound : m ≤ windowSize
  every : ∀ j < m, ∃ index packet, state.senderBuffer index = some packet ∧
    (pktGetSeqnum packet.pkt).toNat = (b + j) % 256
  only : ∀ index packet, state.senderBuffer index = some packet →
    ∃ j < m, (pktGetSeqnum packet.pkt).toNat = (b + j) % 256
  once : Distinct (fun packet => (pktGetSeqnum packet.pkt).toNat) state.senderBuffer
  seqnum : state.seqnum.toNat = (b + m) % 256
  size : state.senderBufferSize.toNat + m = windowSize

/-- The packet has one of the `k` numbers from `b` on, modulo 256. -/
def Covered (b k : ℕ) (packet : PktPtr) : Prop :=
  ∃ j < k, (pktGetSeqnum packet.pkt).toNat = (b + j) % 256

instance (b k : ℕ) (packet : PktPtr) : Decidable (Covered b k packet) :=
  inferInstanceAs (Decidable (∃ j < k, _ = _))

/-- The packets with the `k` numbers from `b` on have left their slots, all other slots are
as before, and `k` more slots are counted free. -/
structure Releases (b k : ℕ) (before after : SenderState) : Prop where
  slots : after.senderBuffer = before.senderBuffer.discard fun packet => Covered b k packet
  size : after.senderBufferSize.toNat = before.senderBufferSize.toNat + k

variable {state : SenderState} {b m k : ℕ}

/-! ## Counting -/

theorem consecutive_injOn (bound : m ≤ windowSize) :
    Set.InjOn (fun j => (b + j) % 256) (Finset.range m) := by
  intro i less j less' same
  have window : windowSize = 31 := rfl
  have small := Finset.mem_range.mp less
  have small' := Finset.mem_range.mp less'
  dsimp only at same
  omega

/-- One slot is used for each number. -/
theorem Outstanding.used (outstanding : state.Outstanding b m) : state.senderBuffer.used = m :=
  outstanding.once.used_eq (consecutive_injOn outstanding.bound) outstanding.every
    outstanding.only

/-- The counter stays the number of free slots. -/
theorem acknowledge_counts (counts : state.senderBufferSize.toNat + state.senderBuffer.used =
      windowSize) (number : UInt8) :
    (state.acknowledge number).senderBufferSize.toNat +
      (state.acknowledge number).senderBuffer.used = windowSize := by
  unfold acknowledge
  refine releaseAll_preserves number (motive := fun reached =>
    reached.senderBufferSize.toNat + reached.senderBuffer.used = windowSize) ?_ ?_
  · intro reached index packet before held _
    exact release_counts held before
  · split
    · exact counts
    · exact counts

/-! ## One acknowledgement -/

/-- Without a wrap, or with nothing acknowledged, the test of the loop finds the packets that
are acknowledged. -/
theorem Outstanding.acknowledged_iff (outstanding : state.Outstanding b m)
    (fine : k = 0 ∨ b % 256 + m ≤ 255) (within : k ≤ m) {index : Fin windowSize} {packet : PktPtr}
    (held : state.senderBuffer index = some packet) :
    acknowledged state.seqnum (UInt8.ofNat (b + k)) packet = true ↔ Covered b k packet := by
  have seqnum := outstanding.seqnum
  have bound := outstanding.bound
  have window : windowSize = 31 := rfl
  have number : (UInt8.ofNat (b + k)).toNat = (b + k) % 256 := UInt8.toNat_ofNat'
  obtain ⟨j, less, same⟩ := outstanding.only index packet held
  rw [acknowledged_eq_true]
  change (pktGetSeqnum packet.pkt).toNat < _ ∧ _ ↔ _
  constructor
  · rintro ⟨below, inside⟩
    exact ⟨j, by omega, same⟩
  · rintro ⟨i, small, covered⟩
    omega

/-- Behind the wrap the first packet does not pass the test of the loop. -/
theorem Outstanding.first_stays (outstanding : state.Outstanding b m)
    (wrapped : 255 < b % 256 + m) {packet : PktPtr}
    (first : (pktGetSeqnum packet.pkt).toNat = b % 256) (number : UInt8) :
    acknowledged state.seqnum number packet = false := by
  have seqnum := outstanding.seqnum
  have bound := outstanding.bound
  have window : windowSize = 31 := rfl
  have less := state.seqnum.toNat_lt
  rw [acknowledged_eq_false]
  change _ ≤ (pktGetSeqnum packet.pkt).toNat ∨ _
  omega

/-- The packets that are left carry the remaining numbers. -/
theorem Outstanding.discard (outstanding : state.Outstanding b m) (within : k ≤ m) :
    (state.senderBuffer.discard fun packet => Covered b k packet).used = m - k := by
  have window : windowSize = 31 := rfl
  have bound := outstanding.bound
  have kept : ∀ {index packet}, (state.senderBuffer.discard fun packet =>
      Covered b k packet) index = some packet ↔
      state.senderBuffer index = some packet ∧ ¬ Covered b k packet := by
    intro index packet
    rw [Slots.discard_eq_some, decide_eq_false_iff_not]
  have once := outstanding.once.shrink fun index packet held => (kept.mp held).1
  refine once.used_eq (consecutive_injOn (b := b + k) ((Nat.sub_le m k).trans bound)) ?_ ?_
  · intro j less
    obtain ⟨index, packet, held, same⟩ := outstanding.every (k + j) (by omega)
    refine ⟨index, packet, kept.mpr ⟨held, ?_⟩, ?_⟩
    · rintro ⟨i, small, covered⟩
      omega
    · rw [same, Nat.add_assoc]
  · intro index packet held
    obtain ⟨old, left⟩ := kept.mp held
    obtain ⟨j, less, same⟩ := outstanding.only index packet old
    have beyond : k ≤ j := by
      by_contra before
      exact left ⟨j, Nat.lt_of_not_le before, same⟩
    refine ⟨j - k, by omega, ?_⟩
    rw [same, Nat.add_assoc, Nat.add_sub_of_le beyond]

theorem Outstanding.acknowledge_iff (outstanding : state.Outstanding b m) (within : k ≤ m) :
    Releases b k state (state.acknowledge (UInt8.ofNat (b + k))) ↔
      k = 0 ∨ b % 256 + m ≤ 255 := by
  have window : windowSize = 31 := rfl
  have slots := state.acknowledge_senderBuffer (UInt8.ofNat (b + k))
  constructor
  · intro releases
    by_contra bad
    obtain ⟨positive, wrapped⟩ := not_or.mp bad
    obtain ⟨index, packet, held, first⟩ := outstanding.every 0 (by omega)
    have gone := congrFun (releases.slots.symm.trans slots) index
    have stays := Slots.discard_eq_some.mpr ⟨held, outstanding.first_stays
      (Nat.lt_of_not_le wrapped) first (UInt8.ofNat (b + k))⟩
    rw [stays, Slots.discard_eq_some, decide_eq_false_iff_not] at gone
    exact gone.2 ⟨0, Nat.pos_of_ne_zero positive, first⟩
  · intro fine
    have same : (state.acknowledge (UInt8.ofNat (b + k))).senderBuffer =
        state.senderBuffer.discard fun packet => Covered b k packet := by
      rw [slots]
      refine Slots.discard_congr fun index packet held => ?_
      rw [Bool.eq_iff_iff, decide_eq_true_iff]
      exact outstanding.acknowledged_iff fine within held
    refine ⟨same, ?_⟩
    have counts := acknowledge_counts (outstanding.used.symm ▸ outstanding.size)
      (UInt8.ofNat (b + k))
    rw [same, outstanding.discard within] at counts
    have size := outstanding.size
    omega

/-- Changes of `ack` and the buffer leave the slots and the counters alone. -/
theorem Outstanding.frame (outstanding : state.Outstanding b m) (ack : Pkt) (buffer1 : Memory) :
    Outstanding b m { state with ack := ack, buffer1 := buffer1 } :=
  ⟨outstanding.bound, outstanding.every, outstanding.only, outstanding.once, outstanding.seqnum,
    outstanding.size⟩

end SenderState

/-- The acknowledgement of `k` of the `m` outstanding packets frees exactly these, exactly
when it acknowledges none or the numbers from `b` to the next one do not wrap. -/
theorem cumulative_ack_iff {state : SenderState} {b m k : ℕ}
    (outstanding : state.Outstanding b m) (within : k ≤ m) {bytes : Datagram} {past : Memory}
    {heap : Heap} (takes : state.TakesAck crc32 bytes past heap (UInt8.ofNat (b + k))) :
    SenderState.Releases b k state (state.receive crc32 bytes past heap) ↔
      k = 0 ∨ b % 256 + m ≤ 255 := by
  obtain ⟨ack, buffer1, same⟩ := SenderState.receive_of_takesAck crc32 state takes
  rw [same, ← (outstanding.frame ack buffer1).acknowledge_iff within]
  exact ⟨fun releases => ⟨releases.slots, releases.size⟩,
    fun releases => ⟨releases.slots, releases.size⟩⟩

/-- The packets numbered from `b` on are not acknowledged yet, the last of them in slot 0. -/
def outstandingFrom (b m : ℕ) : SenderState :=
  { SenderState.start with
    senderBuffer := fun index =>
      if index.val < m then
        some ⟨index, { pktNew with type := 1, seqnum := UInt8.ofNat (b + (m - 1 - index)) }⟩
      else none
    senderBufferSize := UInt8.ofNat (windowSize - m)
    seqnum := UInt8.ofNat (b + m) }

theorem outstanding_from (b : ℕ) {m : ℕ} (bound : m ≤ windowSize) :
    (outstandingFrom b m).Outstanding b m := by
  have window : windowSize = 31 := rfl
  have held : ∀ index packet, (outstandingFrom b m).senderBuffer index = some packet →
      index.val < m ∧ (pktGetSeqnum packet.pkt).toNat = (b + (m - 1 - index)) % 256 := by
    intro index packet found
    change (if index.val < m then some _ else none) = some packet at found
    by_cases inside : index.val < m
    · rw [if_pos inside, Option.some.injEq] at found
      rw [← found]
      exact ⟨inside, UInt8.toNat_ofNat'⟩
    · rw [if_neg inside] at found
      cases found
  refine
    { bound := bound
      every := fun j less => ⟨⟨m - 1 - j, by omega⟩, _, if_pos (show m - 1 - j < m by omega), ?_⟩
      only := fun index packet found => ⟨m - 1 - index, ?_, (held index packet found).2⟩
      once := fun first second left right atFirst atSecond same => ?_
      seqnum := UInt8.toNat_ofNat'
      size := ?_ }
  · refine UInt8.toNat_ofNat'.trans ?_
    dsimp only
    rw [show m - 1 - (m - 1 - j) = j by omega]
  · have inside := (held index packet found).1
    omega
  · obtain ⟨inside, number⟩ := held first left atFirst
    obtain ⟨inside', number'⟩ := held second right atSecond
    dsimp only at same
    rw [number, number'] at same
    exact Fin.ext (by omega)
  · change (UInt8.ofNat (windowSize - m)).toNat + m = windowSize
    rw [UInt8.toNat_ofNat']
    omega

/-- Two of three packets are acknowledged. -/
theorem cumulative_ack_two :
    SenderState.Releases 5 2 (outstandingFrom 5 3) ((outstandingFrom 5 3).receive zlibCrc32
      (ackDatagram zlibCrc32 31 7) (fun _ => 0) Heap.plenty) :=
  (cumulative_ack_iff zlibCrc32 (outstanding_from 5 (by decide)) (by decide)
    (SenderState.takesAck_ackDatagram zlibCrc32 _ zlibCrc32_nil 31 7 fun _ => 0)).mpr
    (Or.inr (by decide))

/-- Packet 255 is outstanding, the next number is 0 and ACK 0 arrives: the packet stays. -/
theorem cumulative_ack_wrap :
    (outstandingFrom 255 1).Outstanding 255 1 ∧
      (outstandingFrom 255 1).TakesAck zlibCrc32 (ackDatagram zlibCrc32 31 0) (fun _ => 0)
        Heap.plenty (UInt8.ofNat (255 + 1)) ∧
      ¬ SenderState.Releases 255 1 (outstandingFrom 255 1)
        ((outstandingFrom 255 1).receive zlibCrc32 (ackDatagram zlibCrc32 31 0) (fun _ => 0)
          Heap.plenty) := by
  have outstanding : (outstandingFrom 255 1).Outstanding 255 1 := outstanding_from 255 (by decide)
  generalize outstandingFrom 255 1 = state at outstanding ⊢
  have takes : state.TakesAck zlibCrc32 (ackDatagram zlibCrc32 31 0) (fun _ => 0) Heap.plenty
      (UInt8.ofNat (255 + 1)) :=
    SenderState.takesAck_ackDatagram zlibCrc32 state zlibCrc32_nil 31 _ fun _ => 0
  refine ⟨outstanding, takes, fun releases => ?_⟩
  obtain ⟨ack, buffer1, same⟩ := SenderState.receive_of_takesAck zlibCrc32 state takes
  rw [same] at releases
  have fine := ((outstanding.frame ack buffer1).acknowledge_iff (k := 1) (Nat.le_refl 1)).mp
    ⟨releases.slots, releases.size⟩
  exact absurd fine (by decide)

end SelectiveRepeat.Sender

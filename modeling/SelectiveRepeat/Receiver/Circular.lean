import SelectiveRepeat.Receiver.Corruption
import SelectiveRepeat.Receiver.InOrder

/-!
# The window and the wrap of the numbers

The window test compares 8-bit numbers as plain integers.  It agrees with the
circular window as long as the window does not reach past number 255; beyond it a
packet of the window is dropped.
-/

namespace SelectiveRepeat.Receiver

open SelectiveRepeat.Foundations SelectiveRepeat.Packet SelectiveRepeat.Transport

variable (crc32 : List UInt8 → UInt32) (write : ℕ → ℕ → ℤ)

/-- How far a number lies after the expected one, modulo 256. -/
def distance (expected number : UInt8) : ℕ := (number - expected).toNat

/-- Nothing was written and one acknowledgement with the old expected number was sent. -/
structure Repeats (before after : ReceiverState) : Prop where
  writes : after.writes = before.writes
  sent : after.sent = [ackDatagram crc32 after.window before.seqnum]

/-- The circular receive window: a packet less than `window` numbers ahead is put into a
slot, one farther away is not. -/
structure CircularWindow (before : ReceiverState) (packet : PktPtr) (after : ReceiverState) :
    Prop where
  inside : 0 < distance before.seqnum packet.pkt.seqnum →
    distance before.seqnum packet.pkt.seqnum < before.window.toNat →
    (∃ index, after.receiverBuffer index = some packet) ∧
      after.window.toNat + 1 = before.window.toNat ∧ Repeats crc32 before after
  outside : before.window.toNat ≤ distance before.seqnum packet.pkt.seqnum →
    after.receiverBuffer = before.receiverBuffer ∧ after.window = before.window ∧
      Repeats crc32 before after

namespace ReceiverState

/-- The number is in the circular window, past 255. -/
def WrapsInWindow (state : ReceiverState) (number : UInt8) : Prop :=
  0 < distance state.seqnum number ∧ distance state.seqnum number < state.window.toNat ∧
    256 ≤ state.seqnum.toNat + distance state.seqnum number

variable {state : ReceiverState}

theorem distance_eq (expected number : UInt8) :
    distance expected number = (256 - expected.toNat + number.toNat) % 256 :=
  UInt8.toNat_sub _ _

theorem distance_eq_zero {expected number : UInt8} (none : distance expected number = 0) :
    number = expected := by
  rw [distance_eq] at none
  have bound := number.toNat_lt
  have expectedBound := expected.toNat_lt
  apply UInt8.toNat_inj.mp
  omega

/-- The window test of the code is the circular one without the wrap. -/
theorem Accounted.inWindow_iff (accounted : state.Accounted) (number : UInt8) :
    state.InWindow number ↔ 0 < distance state.seqnum number ∧
      distance state.seqnum number < state.window.toNat ∧ ¬ state.WrapsInWindow number := by
  have size := accounted.window_le
  have bound := number.toNat_lt
  have expected := state.seqnum.toNat_lt
  unfold InWindow WrapsInWindow
  rw [UInt8.lt_iff_toNat_lt, distance_eq]
  unfold windowSize at size
  omega

theorem handle_of_outside {packet : PktPtr} (data : packet.pkt.type = 1)
    (unexpected : packet.pkt.seqnum ≠ state.seqnum) (out : ¬ state.InWindow packet.pkt.seqnum) :
    state.handle crc32 write packet .pktOk = state.sendAck crc32 := by
  have outcome := state.handled crc32 write packet .pktOk
  generalize state.handle crc32 write packet .pktOk = after at outcome ⊢
  cases outcome with
  | refused bad => exact absurd rfl bad
  | ignored ok other => exact absurd data other
  | outside ok data unexpected out => rfl
  | buffered ok data unexpected inside => exact absurd inside out
  | failed ok data expected error => exact absurd expected unexpected
  | drained ok data expected success => exact absurd expected unexpected

/-- A number that is in no slot and inside the window is put into one. -/
theorem Accounted.storePacket_absent (accounted : state.Accounted) (packet : PktPtr)
    (inside : state.InWindow packet.pkt.seqnum)
    (absent : ∀ index held, state.receiverBuffer index = some held →
      held.pkt.seqnum ≠ packet.pkt.seqnum) :
    ∃ index, state.receiverBuffer index = none ∧
      state.storePacket packet = state.keep index packet := by
  obtain ⟨place, found, at_, same⟩ := accounted.storePacket_room inside
  have outcome := state.stored packet
  generalize state.storePacket packet = after at outcome at_ ⊢
  cases outcome with
  | present found same => exact absurd same (absent _ _ found)
  | placed hole first => exact ⟨_, hole, rfl⟩
  | full occupied => exact absurd same (absent _ _ at_)

/-! ## One iteration -/

theorem Clear.repeats (clear : state.Clear) (bytes : Option Datagram) (past : Memory)
    (heap : Heap) : Repeats crc32 state ((state.receive crc32 bytes past heap).sendAck crc32) :=
  ⟨rfl, (clear.receive crc32 bytes past heap).sendAck_sent crc32⟩

theorem Clear.repeats_keep (clear : state.Clear) (bytes : Option Datagram) (past : Memory)
    (heap : Heap) (index : Fin windowSize) (packet : PktPtr) : Repeats crc32 state
      (((state.receive crc32 bytes past heap).keep index packet).sendAck crc32) := by
  have received := clear.receive crc32 bytes past heap
  have kept : ((state.receive crc32 bytes past heap).keep index packet).Clear :=
    ⟨received.zero, received.len⟩
  exact ⟨rfl, kept.sendAck_sent crc32⟩

/-- The circular window is kept exactly by the numbers that do not wrap inside it. -/
theorem Clear.unwrapped_iff (clear : state.Clear) (accounted : state.Accounted)
    (positive : 1 ≤ state.window.toNat) (running : state.running = true)
    {bytes : Option Datagram} {past : Memory} {heap : Heap} {pkt : Pkt}
    (decoded : state.decode crc32 bytes past heap = (pkt, .pktOk)) (type : pkt.type = 1)
    (absent : ∀ index held, state.receiverBuffer index = some held →
      held.pkt.seqnum ≠ pkt.seqnum) :
    CircularWindow crc32 state ⟨state.receptions.length, pkt⟩
        (state.iterate crc32 write (.readable bytes past heap)) ↔
      ¬ state.WrapsInWindow pkt.seqnum := by
  have window := accounted.inWindow_iff pkt.seqnum
  rw [state.iterate_readable crc32 write bytes past heap running decoded]
  by_cases inside : state.InWindow pkt.seqnum
  · obtain ⟨later, near, unwrapped⟩ := window.mp inside
    have received : (state.receive crc32 bytes past heap).InWindow pkt.seqnum := inside
    have counted : (state.receive crc32 bytes past heap).Accounted := accounted
    obtain ⟨index, hole, placed⟩ :=
      counted.storePacket_absent ⟨state.receptions.length, pkt⟩ received absent
    rw [handle_of_inside crc32 write _ type received, placed]
    refine iff_of_true ⟨fun _ _ => ⟨⟨index, Slots.put_same _ _ _⟩, ?_, ?_⟩, fun far => ?_⟩ unwrapped
    · exact (accounted.put hole ⟨state.receptions.length, pkt⟩).1
    · exact clear.repeats_keep crc32 bytes past heap index _
    · exact absurd near (not_lt.mpr far)
  by_cases expected : pkt.seqnum = state.seqnum
  · have here : distance state.seqnum pkt.seqnum = 0 := by
      rw [expected]
      exact congrArg UInt8.toNat (UInt8.sub_self _)
    refine iff_of_true ⟨fun later => ?_, fun far => ?_⟩ fun wraps => ?_
    · exact absurd here (Nat.ne_of_gt later)
    · exact absurd here (Nat.ne_of_gt (positive.trans far))
    · exact absurd here (Nat.ne_of_gt wraps.1)
  · rw [handle_of_outside crc32 write type expected inside]
    constructor
    · intro circular wraps
      have taken := (circular.inside wraps.1 wraps.2.1).2.1
      change state.window.toNat + 1 = state.window.toNat at taken
      omega
    · intro unwrapped
      refine ⟨fun later near => ?_, fun _ => ⟨rfl, rfl, clear.repeats crc32 bytes past heap⟩⟩
      exact absurd (window.mpr ⟨later, near, unwrapped⟩) inside

end ReceiverState

/-- In every reachable state the receive window is the circular one exactly for the
numbers that do not lie past 255 inside it. -/
theorem circular_window_iff (inputs : List ReceiverInput)
    (running : ((receiverLoop crc32 write).run inputs).running = true)
    (bytes : Option Datagram) (past : Memory) (heap : Heap) (pkt : Pkt)
    (decoded : ((receiverLoop crc32 write).run inputs).decode crc32 bytes past heap = (pkt, .pktOk))
    (data : pktGetType pkt = PType.ptypeData.value)
    (absent : ∀ index held,
      ((receiverLoop crc32 write).run inputs).receiverBuffer index = some held →
        pktGetSeqnum held.pkt ≠ pktGetSeqnum pkt) :
    let state := (receiverLoop crc32 write).run inputs
    CircularWindow crc32 state ⟨state.receptions.length, pkt⟩
        (state.iterate crc32 write (.readable bytes past heap)) ↔
      ¬ state.WrapsInWindow (pktGetSeqnum pkt) :=
  (ReceiverState.clear_run crc32 write inputs).unwrapped_iff crc32 write
    (ReceiverState.accounted_run crc32 write inputs)
    (ReceiverState.window_pos_run crc32 write inputs) running decoded
    ((pktGetType_eq_data pkt).mp data) absent

/-- The second packet of a stream at the start of a run. -/
theorem circular_window_one :
    CircularWindow zlibCrc32 .start ⟨0, (roundStream.packet 1).onWire zlibCrc32⟩
      (ReceiverState.start.iterate zlibCrc32 fullWrite (roundArrival 1)) := by
  refine (circular_window_iff zlibCrc32 fullWrite [] rfl _ _ _ _
    (ReceiverState.decode_wire zlibCrc32 .start (roundStream.encodable 1) fun _ => 0)
    ((pktGetType_eq_data _).mpr (roundStream.data 1))
    (fun index held found => ?_)).mpr fun wraps => ?_
  · cases found
  · exact absurd wraps.2.2 (by decide)

/-- Packets 0 to 254 of a stream, in order. -/
def wrapArrivals : List ReceiverInput := (List.range 255).map fun i => roundArrival (0 + i)

theorem wrap_reached : At zlibCrc32 roundStream 255 Slots.empty
    ((receiverLoop zlibCrc32 fullWrite).run wrapArrivals) := by
  have start : At zlibCrc32 roundStream 0 Slots.empty .start := At.start
  have ordered := start.in_order 255 (fun _ _ _ _ held => by cases held) fun _ => 0
  exact ordered.1

/-- After 255 packets the next but one is number 0: one ahead in a window of 31, and it is
dropped. -/
theorem circular_window_wrap :
    let state := (receiverLoop zlibCrc32 fullWrite).run wrapArrivals
    let pkt := (roundStream.packet 256).onWire zlibCrc32
    state.running = true ∧ state.decode zlibCrc32 (some ((roundStream.packet 256).wire zlibCrc32))
        (fun _ => 0) Heap.plenty = (pkt, .pktOk) ∧
      pktGetType pkt = PType.ptypeData.value ∧
      (∀ index held, state.receiverBuffer index = some held →
        pktGetSeqnum held.pkt ≠ pktGetSeqnum pkt) ∧
      ¬ CircularWindow zlibCrc32 state ⟨state.receptions.length, pkt⟩
        (state.iterate zlibCrc32 fullWrite (roundArrival 256)) := by
  intro state pkt
  have reached : At zlibCrc32 roundStream 255 Slots.empty state := wrap_reached
  have clear : state.Clear := ReceiverState.clear_run _ _ wrapArrivals
  have decoded : state.decode zlibCrc32 (some ((roundStream.packet 256).wire zlibCrc32))
      (fun _ => 0) Heap.plenty = (pkt, .pktOk) :=
    state.decode_wire zlibCrc32 (roundStream.encodable 256) fun _ => 0
  have type : pkt.type = 1 := roundStream.data 256
  have number : pkt.seqnum.toNat = 256 % 256 := roundStream.numbered 256
  clear_value state pkt
  have absent : ∀ index held, state.receiverBuffer index = some held →
      held.pkt.seqnum ≠ pkt.seqnum := by
    intro index held found
    obtain ⟨j, none, -⟩ := reached.slot_eq_some found
    cases none
  refine ⟨reached.running, decoded, (pktGetType_eq_data pkt).mpr type, absent, fun circular => ?_⟩
  have window : state.window.toNat + state.receiverBuffer.used = 31 := reached.accounted
  have expected : state.seqnum.toNat = state.writes.length % 256 := reached.ordered.expected
  rw [reached.used, Slots.used_empty] at window
  rw [reached.count] at expected
  have unwrapped := (clear.unwrapped_iff zlibCrc32 fullWrite reached.accounted (by omega)
    reached.running decoded type absent).mp circular
  have ahead := ReceiverState.distance_eq state.seqnum pkt.seqnum
  apply unwrapped
  unfold ReceiverState.WrapsInWindow
  omega

end SelectiveRepeat.Receiver

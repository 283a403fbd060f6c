import SelectiveRepeat.Packet.Datagram
import SelectiveRepeat.Receiver.Circular

/-!
# The same datagram twice

After an iteration on a packet its number is settled: it is not expected, and it is
outside the window or the store loop finds it before a free slot.  Whatever is then
decoded from a second copy of the datagram changes nothing.
-/

namespace SelectiveRepeat.Receiver

open SelectiveRepeat.Foundations SelectiveRepeat.Packet SelectiveRepeat.Transport

variable (crc32 : List UInt8 → UInt32) (write : ℕ → ℕ → ℤ)

namespace ReceiverState

/-- The store loop meets a free slot before any slot that holds the number. -/
def HoleFirst (state : ReceiverState) (number : UInt8) : Prop :=
  ∃ hole, state.receiverBuffer hole = none ∧
    ∀ before < hole, ∃ held, state.receiverBuffer before = some held ∧ held.pkt.seqnum ≠ number

/-- A DATA packet with this number changes nothing. -/
structure Settled (state : ReceiverState) (number : UInt8) : Prop where
  unexpected : number ≠ state.seqnum
  found : state.InWindow number → ¬ state.HoleFirst number

variable {state : ReceiverState}

/-! ## The store loop -/

theorem storePacket_eq_self {packet : PktPtr} (found : ¬ state.HoleFirst packet.pkt.seqnum) :
    state.storePacket packet = state := by
  have outcome := state.stored packet
  generalize state.storePacket packet = after at outcome ⊢
  cases outcome with
  | present => rfl
  | placed hole first => exact absurd ⟨_, hole, first⟩ found
  | full => rfl

/-- Behind the slot that was filled first no free slot is met before the number. -/
theorem not_holeFirst_keep {packet : PktPtr} {index : Fin windowSize}
    (first : ∀ before < index, ∃ held, state.receiverBuffer before = some held ∧
      held.pkt.seqnum ≠ packet.pkt.seqnum) :
    ¬ (state.keep index packet).HoleFirst packet.pkt.seqnum := by
  rintro ⟨hole, free, before⟩
  change state.receiverBuffer.put index packet hole = none at free
  rcases lt_trichotomy hole index with less | rfl | greater
  · obtain ⟨held, heldEq, -⟩ := first hole less
    rw [Slots.put_of_ne _ _ less.ne, heldEq] at free
    cases free
  · rw [Slots.put_same] at free
    cases free
  · obtain ⟨held, heldEq, other⟩ := before index greater
    change state.receiverBuffer.put index packet index = some held at heldEq
    rw [Slots.put_same, Option.some.injEq] at heldEq
    exact other (congrArg (fun found : PktPtr => found.pkt.seqnum) heldEq.symm)

/-- After the store loop its packet is found before a free slot. -/
theorem not_holeFirst_storePacket (packet : PktPtr) :
    ¬ (state.storePacket packet).HoleFirst packet.pkt.seqnum := by
  by_cases hole : state.HoleFirst packet.pkt.seqnum
  · obtain ⟨index, free, first⟩ := hole
    rw [state.storePacket_of_hole packet free first]
    exact not_holeFirst_keep first
  · rwa [storePacket_eq_self hole]

/-! ## The drain loop -/

/-- The drain loop moves the expected number and the window by the same amount. -/
theorem Accounted.drain_counts (accounted : state.Accounted) (i : ℕ) :
    (state.drain write i).Accounted ∧
      state.window.toNat ≤ (state.drain write i).window.toNat ∧
      ((state.drain write i).seqnum.toNat + state.window.toNat) % 256 =
        (state.seqnum.toNat + (state.drain write i).window.toNat) % 256 := by
  refine drain_preserves write (motive := fun after => after.Accounted ∧
    state.window.toNat ≤ after.window.toNat ∧
    (after.seqnum.toNat + state.window.toNat) % 256 =
      (state.seqnum.toNat + after.window.toNat) % 256) ?_ ⟨accounted, Nat.le_refl _, rfl⟩ i
  rintro reached index packet ⟨counted, grown, moved⟩ held _
  have given := (counted.clear held).1
  have next := incSeqnum_toNat reached.seqnum
  refine ⟨counted.deliver write held, ?_, ?_⟩
  · change _ ≤ (reached.window + 1).toNat
    omega
  · change ((incSeqnum reached.seqnum).toNat + _) % 256 = (_ + (reached.window + 1).toNat) % 256
    omega

/-- The number just written lies behind the window. -/
theorem Accounted.settled_drain (accounted : state.Accounted) (positive : 1 ≤ state.window.toNat)
    (packet : PktPtr) :
    ((state.accept write packet).drain write 0).Settled state.seqnum := by
  have accepted : (state.accept write packet).Accounted := accounted
  obtain ⟨counted, grown, moved⟩ := accepted.drain_counts write 0
  have size := counted.window_le
  have next := incSeqnum_toNat state.seqnum
  change state.window.toNat ≤ _ at grown
  change (_ + state.window.toNat) % 256 = ((incSeqnum state.seqnum).toNat + _) % 256 at moved
  generalize (state.accept write packet).drain write 0 = after at counted grown moved size ⊢
  have bound := state.seqnum.toNat_lt
  have afterBound := after.seqnum.toNat_lt
  unfold windowSize at size
  constructor
  · intro same
    have numbers := congrArg UInt8.toNat same
    omega
  · rintro ⟨near, later⟩
    rw [UInt8.lt_iff_toNat_lt] at later
    omega

/-! ## Handling -/

/-- A packet that the store loop or the write branch took is settled. -/
theorem Accounted.settled_handle (accounted : state.Accounted) (positive : 1 ≤ state.window.toNat)
    (success : ∀ call count, 0 ≤ write call count) {packet : PktPtr} (data : packet.pkt.type = 1) :
    (state.handle crc32 write packet .pktOk).Settled packet.pkt.seqnum := by
  have outcome := state.handled crc32 write packet .pktOk
  generalize state.handle crc32 write packet .pktOk = after at outcome ⊢
  cases outcome with
  | refused bad => exact absurd rfl bad
  | ignored ok other => exact absurd data other
  | outside ok data unexpected out => exact ⟨unexpected, fun inside => absurd inside out⟩
  | buffered ok data unexpected inside =>
      refine ⟨?_, fun _ => not_holeFirst_storePacket packet⟩
      change _ ≠ (state.storePacket packet).seqnum
      rw [state.storePacket_frame packet]
      exact unexpected
  | failed ok data expected error => exact absurd (success _ _) (not_le.mpr error)
  | drained ok data expected _ =>
      have settled := accounted.settled_drain write positive packet
      rw [expected]
      exact ⟨settled.unexpected, settled.found⟩

/-- A settled number is handled without any change of the data. -/
theorem Settled.handle {number : UInt8} (settled : state.Settled number) (packet : PktPtr)
    {code : PktStatus} (same : code = .pktOk → packet.pkt.seqnum = number) :
    state.SameData (state.handle crc32 write packet code) := by
  have outcome := state.handled crc32 write packet code
  generalize state.handle crc32 write packet code = after at outcome ⊢
  cases outcome with
  | refused bad => exact ⟨rfl, rfl, rfl, rfl⟩
  | ignored ok other => exact ⟨rfl, rfl, rfl, rfl⟩
  | outside ok data unexpected out => exact ⟨rfl, rfl, rfl, rfl⟩
  | buffered ok data unexpected inside =>
      rw [storePacket_eq_self (same ok ▸ settled.found (same ok ▸ inside))]
      exact ⟨rfl, rfl, rfl, rfl⟩
  | failed ok data expected error =>
      exact absurd ((same ok).symm.trans expected) settled.unexpected
  | drained ok data expected success =>
      exact absurd ((same ok).symm.trans expected) settled.unexpected

/-- A DATA packet, accepted or refused, is answered with the state it leaves. -/
theorem Clear.handle_sent (clear : state.Clear) (quiet : state.sent = [])
    (success : ∀ call count, 0 ≤ write call count) (packet : PktPtr) (code : PktStatus)
    (data : code = .pktOk → packet.pkt.type = 1) :
    (state.handle crc32 write packet code).running = state.running ∧
      (state.handle crc32 write packet code).sent =
        [ackDatagram crc32 (state.handle crc32 write packet code).window
          (state.handle crc32 write packet code).seqnum] := by
  have answer : ∀ {during : ReceiverState}, during.Clear → during.sent = [] →
      (during.sendAck crc32).sent =
        [ackDatagram crc32 (during.sendAck crc32).window (during.sendAck crc32).seqnum] := by
    intro during cleared silent
    rw [cleared.sendAck_sent, silent]
    rfl
  have outcome := state.handled crc32 write packet code
  generalize state.handle crc32 write packet code = after at outcome ⊢
  cases outcome with
  | refused bad => exact ⟨rfl, answer clear quiet⟩
  | ignored ok other => exact absurd (data ok) other
  | outside ok data unexpected out => exact ⟨rfl, answer clear quiet⟩
  | buffered ok data unexpected inside =>
      obtain ⟨cleared, sent⟩ := clear.storePacket packet
      refine ⟨?_, answer cleared (sent.trans quiet)⟩
      change (state.storePacket packet).running = _
      rw [state.storePacket_frame packet]
  | failed ok data expected error => exact absurd (success _ _) (not_le.mpr error)
  | drained ok data expected _ =>
      rw [drain_frame write (state.accept write packet) 0]
      exact ⟨rfl, answer ⟨clear.zero, clear.len⟩ quiet⟩

/-! ## The header of a datagram -/

/-- Whatever lies behind a datagram, the number and the type of its packet are in its
first bytes. -/
theorem decode_header (state : ReceiverState) {datagram : Datagram} (long : 12 ≤ datagram.length)
    {past : Memory} {heap : Heap} {pkt : Pkt}
    (decoded : state.decode crc32 (some datagram) past heap = (pkt, .pktOk)) :
    pkt.seqnum = (headerOf (bytesOf (datagram.take maxPacketSize))).seqnum ∧
      pkt.type = (headerOf (bytesOf (datagram.take maxPacketSize))).type := by
  rw [decode_some] at decoded
  have packet := pktDecode_packet crc32 heap _ pktNew (congrArg Prod.snd decoded)
  rw [decoded] at packet
  have inside : 0 + 12 ≤ (datagram.take maxPacketSize).length := by
    rw [List.length_take, maxPacketSize]
    omega
  rw [← headerOf_congr (load_store_inside (followedBy state.buffer past) _ inside)]
  change pkt = _ at packet
  rw [packet, received]
  split
  · exact ⟨rfl, rfl⟩
  · exact ⟨rfl, rfl⟩

end ReceiverState

/-- A second copy of an accepted datagram leaves the writes, the expected number, the
slots and the window as the first one did, and is answered alike. -/
theorem repeat_idempotent (inputs : List ReceiverInput)
    (running : ((receiverLoop crc32 write).run inputs).running = true)
    (success : ∀ call count, 0 ≤ write call count) (datagram : Datagram)
    (long : 12 < datagram.length) (past : Memory) (heap : Heap) (pkt : Pkt)
    (decoded : ((receiverLoop crc32 write).run inputs).decode crc32 (some datagram) past heap =
      (pkt, .pktOk))
    (data : pktGetType pkt = PType.ptypeData.value) (pastAgain : Memory) (heapAgain : Heap) :
    let state := (receiverLoop crc32 write).run inputs
    let once := state.iterate crc32 write (.readable (some datagram) past heap)
    let twice := once.iterate crc32 write (.readable (some datagram) pastAgain heapAgain)
    twice.writes = once.writes ∧ twice.seqnum = once.seqnum ∧
      twice.receiverBuffer = once.receiverBuffer ∧ twice.window = once.window ∧
      twice.sent = once.sent ∧ twice.sent = [ackDatagram crc32 once.window once.seqnum] := by
  intro state once twice
  have type := (pktGetType_eq_data pkt).mp data
  have clear := ReceiverState.clear_run crc32 write inputs
  have accounted := ReceiverState.accounted_run crc32 write inputs
  have positive := ReceiverState.window_pos_run crc32 write inputs
  have first : once = (state.receive crc32 (some datagram) past heap).handle crc32 write
      ⟨state.receptions.length, pkt⟩ .pktOk :=
    state.iterate_readable crc32 write _ past heap running decoded
  have received : (state.receive crc32 (some datagram) past heap).Accounted := accounted
  have settled : once.Settled pkt.seqnum := by
    rw [first]
    exact received.settled_handle crc32 write positive success type
  obtain ⟨still, answered⟩ := (clear.receive crc32 (some datagram) past heap).handle_sent crc32
    write rfl success ⟨state.receptions.length, pkt⟩ .pktOk fun _ => type
  rw [← first] at still answered
  have clearOnce : once.Clear := ReceiverState.clear_iterate crc32 write clear _
  rcases again : once.decode crc32 (some datagram) pastAgain heapAgain with ⟨found, code⟩
  have second : twice = (once.receive crc32 (some datagram) pastAgain heapAgain).handle crc32 write
      ⟨once.receptions.length, found⟩ code :=
    once.iterate_readable crc32 write _ pastAgain heapAgain (still.trans running) again
  have header := state.decode_header crc32 long.le decoded
  have headerAgain : code = .pktOk → found.seqnum = pkt.seqnum ∧ found.type = pkt.type := by
    rintro rfl
    rw [header.1, header.2]
    exact once.decode_header crc32 long.le again
  have settledAgain : (once.receive crc32 (some datagram) pastAgain heapAgain).Settled pkt.seqnum :=
    ⟨settled.unexpected, settled.found⟩
  have same := settledAgain.handle crc32 write ⟨once.receptions.length, found⟩
    fun ok => (headerAgain ok).1
  obtain ⟨-, answeredAgain⟩ := (clearOnce.receive crc32 (some datagram) pastAgain
    heapAgain).handle_sent crc32 write rfl success ⟨once.receptions.length, found⟩ code
    fun ok => (headerAgain ok).2.trans type
  rw [← second] at same answeredAgain
  rw [same.window, same.seqnum] at answeredAgain
  exact ⟨same.writes, same.seqnum, same.receiverBuffer, same.window,
    answeredAgain.trans answered.symm, answeredAgain⟩

/-- The first packet of a stream, twice. -/
theorem repeat_idempotent_zero :
    let once := ReceiverState.start.iterate zlibCrc32 fullWrite (roundArrival 0)
    (once.iterate zlibCrc32 fullWrite (roundArrival 0)).writes = once.writes := by
  have decoded := ReceiverState.decode_wire zlibCrc32 .start (roundStream.encodable 0) fun _ => 0
  have long : 12 < ((roundStream.packet 0).wire zlibCrc32).length := by
    rw [Pkt.length_wire]
    decide
  exact (repeat_idempotent zlibCrc32 fullWrite [] rfl (fun _ count => Int.natCast_nonneg count) _
    long (fun _ => 0) Heap.plenty _ decoded ((pktGetType_eq_data _).mpr (roundStream.data 0))
    (fun _ => 0) Heap.plenty).1

end SelectiveRepeat.Receiver

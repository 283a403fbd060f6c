import SelectiveRepeat.Receiver.Circular

/-!
# How far the drain loop gets

The drain loop is meant to write all consecutive packets that are buffered.  Its scan
starts at slot 0 once and at slot 1 after every delivery, so it stops early exactly
when a packet of the run other than the first is in slot 0.
-/

namespace SelectiveRepeat.Receiver

open SelectiveRepeat.Foundations SelectiveRepeat.Packet SelectiveRepeat.Transport

variable (crc32 : List UInt8 → UInt32) (write : ℕ → ℕ → ℤ)

namespace ReceiverState

/-! ## A number of deliveries -/

/-- The buffered packets with the next `count` numbers were written in order, and their
slots freed. -/
structure Delivered (before : ReceiverState) (count : ℕ) (after : ReceiverState) : Prop where
  writes : ∃ run : List PktPtr, run.length = count ∧
    after.writes.map WriteCall.packet = before.writes.map WriteCall.packet ++ run ∧
    ∀ k held, run[k]? = some held → (∃ index, before.receiverBuffer index = some held) ∧
      distance before.seqnum held.pkt.seqnum = k
  seqnum : after.seqnum.toNat = (before.seqnum.toNat + count) % 256
  slots : after.receiverBuffer = before.receiverBuffer.discard fun held =>
    distance before.seqnum held.pkt.seqnum < count

variable {state : ReceiverState}

theorem distance_self (number : UInt8) : distance number number = 0 :=
  congrArg UInt8.toNat (UInt8.sub_self number)

theorem distance_lt (expected number : UInt8) : distance expected number < 256 :=
  UInt8.toNat_lt _

/-- The expected number moves one step towards all others. -/
theorem distance_incSeqnum (expected number : UInt8) (later : distance expected number ≠ 0) :
    distance (incSeqnum expected) number + 1 = distance expected number := by
  have next := incSeqnum_toNat expected
  have bound := number.toNat_lt
  have expectedBound := expected.toNat_lt
  rw [distance_eq] at later ⊢
  rw [distance_eq]
  omega

theorem delivered_none : state.Delivered 0 state := by
  refine ⟨⟨[], rfl, (List.append_nil _).symm, fun k held found => by cases found⟩, ?_, ?_⟩
  · exact (Nat.mod_eq_of_lt state.seqnum.toNat_lt).symm
  · funext index
    cases held : state.receiverBuffer index with
    | none => simp [Slots.discard, held]
    | some packet => exact (Slots.discard_eq_some.mpr ⟨held, by simp⟩).symm

/-- One more delivery in front. -/
theorem Delivered.cons (distinct : Distinct (fun held : PktPtr => held.pkt.seqnum)
      state.receiverBuffer) {index : Fin windowSize} {packet : PktPtr}
    (held : state.receiverBuffer index = some packet) (expected : packet.pkt.seqnum = state.seqnum)
    {count : ℕ} {after : ReceiverState}
    (delivered : (state.deliver write index packet).Delivered count after) :
    state.Delivered (count + 1) after := by
  -- the other packets are one step closer to the new expected number
  have closer : ∀ other found, state.receiverBuffer other = some found → other ≠ index →
      distance (incSeqnum state.seqnum) found.pkt.seqnum + 1 =
        distance state.seqnum found.pkt.seqnum := by
    intro other found at_ apart
    refine distance_incSeqnum _ _ fun none_ => apart ?_
    exact distinct other index found packet at_ held ((distance_eq_zero none_).trans expected.symm)
  obtain ⟨⟨run, length, writes, members⟩, seqnum, slots⟩ := delivered
  refine ⟨⟨packet :: run, congrArg (· + 1) length, ?_, ?_⟩, ?_, ?_⟩
  · rw [writes]
    change (state.writes ++ [_]).map WriteCall.packet ++ run = _
    rw [List.map_append, List.append_assoc]
    rfl
  · intro k found at_
    cases k with
    | zero =>
        rw [List.getElem?_cons_zero, Option.some.injEq] at at_
        rw [← at_, expected]
        exact ⟨⟨index, held⟩, distance_self _⟩
    | succ k =>
        rw [List.getElem?_cons_succ] at at_
        obtain ⟨⟨other, place⟩, later⟩ := members k found at_
        obtain ⟨apart, old⟩ := Slots.of_clear_eq_some place
        refine ⟨⟨other, old⟩, ?_⟩
        rw [← closer other found old apart]
        exact congrArg (· + 1) later
  · rw [seqnum]
    change ((incSeqnum state.seqnum).toNat + count) % 256 = _
    rw [incSeqnum_toNat]
    omega
  · rw [slots]
    funext other
    change ((state.receiverBuffer.clear index).discard fun found =>
      distance (incSeqnum state.seqnum) found.pkt.seqnum < count) other = _
    by_cases same : other = index
    · subst same
      rw [Slots.discard, Slots.discard, Slots.clear_same, held, Option.filter_none,
        Option.filter_some, expected, distance_self]
      simp
    · rw [Slots.discard, Slots.discard, Slots.clear_of_ne _ same]
      cases at_ : state.receiverBuffer other with
      | none => rfl
      | some found =>
          rw [Option.filter_some, Option.filter_some, ← closer other found at_ same]
          simp

/-- The drain loop delivers `count` packets when they lie in slots that are scanned and the
one after them does not. -/
theorem drain_delivered {state : ReceiverState} (distinct : Distinct
      (fun held : PktPtr => held.pkt.seqnum) state.receiverBuffer) {i count : ℕ}
    (reach : ∀ k < count, ∃ index held, state.receiverBuffer index = some held ∧
      distance state.seqnum held.pkt.seqnum = k ∧ (if k = 0 then i else 1) ≤ index.val)
    (stop : ∀ index held, state.receiverBuffer index = some held →
      distance state.seqnum held.pkt.seqnum = count →
      index.val < (if count = 0 then i else 1)) :
    state.Delivered count (state.drain write i) := by
  induction count generalizing state i with
  | zero =>
      rw [drain_eq_self]
      · exact delivered_none
      · intro index scanned packet held same
        have less := stop index packet held (by rw [same]; exact distance_self _)
        rw [if_pos rfl] at less
        omega
  | succ count ih =>
      obtain ⟨index, packet, held, near, scanned⟩ := reach 0 (Nat.succ_pos count)
      have expected := distance_eq_zero near
      rw [if_pos rfl] at scanned
      rw [state.drain_of_held write scanned held expected fun other _ less found at_ same =>
        less.ne (distinct other index found packet at_ held (same.trans expected.symm))]
      have cleared : Distinct (fun held : PktPtr => held.pkt.seqnum)
          (state.deliver write index packet).receiverBuffer :=
        distinct.shrink fun _ _ found => (Slots.of_clear_eq_some found).2
      refine Delivered.cons write distinct held expected (ih cleared ?_ ?_)
      · intro k less
        obtain ⟨other, found, at_, far, later⟩ := reach (k + 1) (Nat.succ_lt_succ less)
        have apart : other ≠ index := by
          rintro rfl
          rw [held, Option.some.injEq] at at_
          rw [← at_, near] at far
          omega
        refine ⟨other, found, (Slots.clear_of_ne _ apart).trans at_, ?_, ?_⟩
        · have closer := distance_incSeqnum state.seqnum found.pkt.seqnum (by omega)
          change distance (incSeqnum state.seqnum) _ = k
          omega
        · rw [if_neg (Nat.succ_ne_zero k)] at later
          split <;> exact later
      · intro other found at_ far
        obtain ⟨apart, old⟩ := Slots.of_clear_eq_some at_
        have closer := distance_incSeqnum state.seqnum found.pkt.seqnum
          fun none_ => apart (distinct other index found packet old held
            ((distance_eq_zero none_).trans expected.symm))
        change distance (incSeqnum state.seqnum) _ = count at far
        have less := stop other found old (by omega)
        rw [if_neg (Nat.succ_ne_zero count)] at less
        split <;> exact less

/-! ## The run of buffered packets -/

/-- Some slot holds the `k`-th number after the expected one. -/
def Buffers (state : ReceiverState) (k : ℕ) : Prop :=
  ∃ index held, state.receiverBuffer index = some held ∧
    held.pkt.seqnum.toNat = (state.seqnum.toNat + k) % 256

/-- The largest number of buffered packets that follow the expected one. -/
structure RunLength (state : ReceiverState) (r : ℕ) : Prop where
  buffered : ∀ k, 1 ≤ k → k ≤ r → state.Buffers k
  last : ¬ state.Buffers (r + 1)

theorem distance_eq_iff {expected number : UInt8} {k : ℕ} (small : k < 256) :
    distance expected number = k ↔ number.toNat = (expected.toNat + k) % 256 := by
  have bound := number.toNat_lt
  have expectedBound := expected.toNat_lt
  rw [distance_eq]
  omega

section Run

variable (unheld : ∀ index held, state.receiverBuffer index = some held →
  held.pkt.seqnum ≠ state.seqnum)

include unheld

theorem not_buffers_round : ¬ state.Buffers 256 := by
  rintro ⟨index, held, found, number⟩
  refine unheld index held found (UInt8.toNat_inj.mp ?_)
  have bound := state.seqnum.toNat_lt
  omega

theorem exists_runLength : ∃ r, state.RunLength r := by
  classical
  have ends : ∃ r, ¬ state.Buffers (r + 1) := ⟨255, not_buffers_round unheld⟩
  refine ⟨Nat.find ends, fun k low high => ?_, Nat.find_spec ends⟩
  have before := Nat.find_min ends (show k - 1 < Nat.find ends by omega)
  rw [Nat.sub_add_cancel low] at before
  exact not_not.mp before

theorem RunLength.lt {r : ℕ} (length : state.RunLength r) : r < 256 := by
  by_contra long
  exact not_buffers_round unheld (length.buffered 256 (by omega) (by omega))

end Run

end ReceiverState

/-- The packet and the whole run behind it are written in order, exactly their slots are
freed, and the next expected number is in no slot. -/
structure FullDrain (before : ReceiverState) (packet : PktPtr) (r : ℕ) (after : ReceiverState) :
    Prop where
  writes : ∃ run : List PktPtr, run.length = r ∧
    after.writes.map WriteCall.packet = before.writes.map WriteCall.packet ++ packet :: run ∧
    ∀ k held, run[k]? = some held → (∃ index, before.receiverBuffer index = some held) ∧
      held.pkt.seqnum.toNat = (before.seqnum.toNat + (k + 1)) % 256
  slots : after.receiverBuffer = before.receiverBuffer.discard fun held =>
    1 ≤ distance before.seqnum held.pkt.seqnum ∧ distance before.seqnum held.pkt.seqnum ≤ r
  seqnum : after.seqnum.toNat = (before.seqnum.toNat + (r + 1)) % 256
  absent : ∀ index held, after.receiverBuffer index = some held → held.pkt.seqnum ≠ after.seqnum

/-- A packet of the run other than the first is in slot 0. -/
def BlockedAtZero (state : ReceiverState) (r : ℕ) : Prop :=
  ∃ held k, state.receiverBuffer 0 = some held ∧ 2 ≤ k ∧ k ≤ r ∧
    held.pkt.seqnum.toNat = (state.seqnum.toNat + k) % 256

namespace ReceiverState

section Accepted

variable {state middle : ReceiverState}
  (unheld : ∀ index held, state.receiverBuffer index = some held →
    held.pkt.seqnum ≠ state.seqnum)
  (buffer : middle.receiverBuffer = state.receiverBuffer)
  (seqnum : middle.seqnum = incSeqnum state.seqnum)

include unheld in
theorem distance_next {index : Fin windowSize} {held : PktPtr}
    (found : state.receiverBuffer index = some held) :
    distance (incSeqnum state.seqnum) held.pkt.seqnum + 1 =
      distance state.seqnum held.pkt.seqnum :=
  distance_incSeqnum _ _ fun none_ => unheld index held found (distance_eq_zero none_)

include unheld buffer seqnum

/-- From the accepted packet on, a run that is not blocked is delivered up to the first
packet that is missing or in slot 0. -/
theorem drain_run (distinct : Distinct (fun held : PktPtr => held.pkt.seqnum)
      state.receiverBuffer) {count : ℕ} (small : count < 256)
    (buffered : ∀ k, 1 ≤ k → k ≤ count → state.Buffers k) (open_ : ¬ BlockedAtZero state count)
    (stop : ∀ index held, state.receiverBuffer index = some held →
      held.pkt.seqnum.toNat = (state.seqnum.toNat + (count + 1)) % 256 →
      index = 0 ∧ 1 ≤ count) :
    middle.Delivered count (middle.drain write 0) := by
  have same : Distinct (fun held : PktPtr => held.pkt.seqnum) middle.receiverBuffer := by
    rw [buffer]
    exact distinct
  refine drain_delivered write same (fun k less => ?_) fun index held found far => ?_
  · obtain ⟨index, held, found, number⟩ := buffered (k + 1) (by omega) (by omega)
    have near := (distance_eq_iff (by omega)).mpr number
    have next := distance_next unheld found
    rw [buffer, seqnum]
    refine ⟨index, held, found, by omega, ?_⟩
    split
    · exact Nat.zero_le _
    · rename_i later
      by_contra early
      have first : index = 0 := Fin.ext (Nat.lt_one_iff.mp (not_le.mp early))
      rw [first] at found
      exact open_ ⟨held, k + 1, found, by omega, by omega, number⟩
  · rw [buffer] at found
    rw [seqnum] at far
    have next := distance_next unheld found
    have bound := distance_lt state.seqnum held.pkt.seqnum
    obtain ⟨rfl, some_⟩ := stop index held found
      ((distance_eq_iff (by omega)).mp
        (show distance state.seqnum held.pkt.seqnum = count + 1 by omega))
    rw [if_neg (by omega)]
    exact Nat.one_pos

/-- Delivering the whole run is what the drain loop is for. -/
theorem fullDrain_of_delivered {packet : PktPtr} {r : ℕ} (length : state.RunLength r)
    (writes : middle.writes.map WriteCall.packet = state.writes.map WriteCall.packet ++ [packet])
    {after : ReceiverState} (delivered : middle.Delivered r after) :
    FullDrain state packet r (after.sendAck crc32) := by
  have small := length.lt unheld
  have next := incSeqnum_toNat state.seqnum
  obtain ⟨⟨run, size, written, members⟩, moved, slots⟩ := delivered
  rw [seqnum] at members moved slots
  rw [buffer] at members slots
  have freed : after.receiverBuffer = state.receiverBuffer.discard fun held =>
      1 ≤ distance state.seqnum held.pkt.seqnum ∧ distance state.seqnum held.pkt.seqnum ≤ r := by
    rw [slots]
    refine Slots.discard_congr fun index held found => decide_eq_decide.mpr ?_
    have closer := distance_next unheld found
    omega
  have number : after.seqnum.toNat = (state.seqnum.toNat + (r + 1)) % 256 := by omega
  refine ⟨⟨run, size, ?_, fun k held found => ?_⟩, freed, number, fun index held found same => ?_⟩
  · change after.writes.map WriteCall.packet = _
    rw [written, writes, List.append_assoc]
    rfl
  · obtain ⟨⟨index, place⟩, far⟩ := members k held found
    have inside := (List.getElem?_eq_some_iff.mp found).1
    have closer := distance_next unheld place
    refine ⟨⟨index, place⟩, (distance_eq_iff (by omega)).mp ?_⟩
    omega
  · change after.receiverBuffer index = some held at found
    rw [freed, Slots.discard_eq_some] at found
    refine length.last ⟨index, held, found.1, ?_⟩
    rw [same]
    exact number

end Accepted

/-- The expected packet is followed by its whole run exactly when the run is not blocked. -/
theorem RunLength.fullDrain_iff {state : ReceiverState} (running : state.running = true)
    (success : ∀ call count, 0 ≤ write call count)
    (distinct : Distinct (fun held : PktPtr => held.pkt.seqnum) state.receiverBuffer)
    (unheld : ∀ index held, state.receiverBuffer index = some held →
      held.pkt.seqnum ≠ state.seqnum)
    {bytes : Option Datagram} {past : Memory} {heap : Heap} {pkt : Pkt}
    (decoded : state.decode crc32 bytes past heap = (pkt, .pktOk)) (type : pkt.type = 1)
    (expected : pkt.seqnum = state.seqnum) {r : ℕ} (length : state.RunLength r) :
    FullDrain state ⟨state.receptions.length, pkt⟩ r
        (state.iterate crc32 write (.readable bytes past heap)) ↔ ¬ BlockedAtZero state r := by
  have small := length.lt unheld
  have handled : (state.receive crc32 bytes past heap).handle crc32 write
      ⟨state.receptions.length, pkt⟩ .pktOk =
        (((state.receive crc32 bytes past heap).accept write
          ⟨state.receptions.length, pkt⟩).drain write 0).sendAck crc32 :=
    handle_of_expected crc32 write _ type expected (success _ _)
  have buffer : ((state.receive crc32 bytes past heap).accept write
      ⟨state.receptions.length, pkt⟩).receiverBuffer = state.receiverBuffer := rfl
  have seqnum : ((state.receive crc32 bytes past heap).accept write
      ⟨state.receptions.length, pkt⟩).seqnum = incSeqnum state.seqnum := rfl
  have writes : ((state.receive crc32 bytes past heap).accept write
      ⟨state.receptions.length, pkt⟩).writes.map WriteCall.packet =
        state.writes.map WriteCall.packet ++ [⟨state.receptions.length, pkt⟩] :=
    List.map_append
  rw [state.iterate_readable crc32 write bytes past heap running decoded, handled]
  generalize (state.receive crc32 bytes past heap).accept write
    ⟨state.receptions.length, pkt⟩ = middle at buffer seqnum writes ⊢
  constructor
  · rintro full ⟨held, k, found, second, le, number⟩
    -- the packet in slot 0 is where the drain loop stops
    have delivered := drain_run write unheld buffer seqnum distinct (show k - 1 < 256 by omega)
      (fun j low high => length.buffered j low (by omega)) (by
        rintro ⟨other, j, at_, low, high, same⟩
        rw [found, Option.some.injEq] at at_
        rw [← at_, number] at same
        omega) (fun index other at_ same => by
        rw [show k - 1 + 1 = k by omega, ← number] at same
        exact ⟨distinct index 0 other held at_ found (UInt8.toNat_inj.mp same), by omega⟩)
    have stopped := delivered.seqnum
    have went := full.seqnum
    have next := incSeqnum_toNat state.seqnum
    rw [seqnum] at stopped
    change (middle.drain write 0).seqnum.toNat = _ at went
    omega
  · intro open_
    exact fullDrain_of_delivered crc32 unheld buffer seqnum length writes
      (drain_run write unheld buffer seqnum distinct small length.buffered open_
        fun index held found number => absurd ⟨index, held, found, number⟩ length.last)

end ReceiverState

/-- For any arrangement of packets with different numbers in the slots, the expected packet
is followed by the whole run behind it exactly when no packet of the run but the first
is in slot 0. -/
theorem full_drain_iff (state : ReceiverState) (running : state.running = true)
    (success : ∀ call count, 0 ≤ write call count)
    (distinct : Distinct (fun held : PktPtr => pktGetSeqnum held.pkt) state.receiverBuffer)
    (unheld : ∀ index held, state.receiverBuffer index = some held →
      pktGetSeqnum held.pkt ≠ state.seqnum)
    (bytes : Option Datagram) (past : Memory) (heap : Heap) (pkt : Pkt)
    (decoded : state.decode crc32 bytes past heap = (pkt, .pktOk))
    (data : pktGetType pkt = PType.ptypeData.value) (expected : pktGetSeqnum pkt = state.seqnum) :
    (∃ r, state.RunLength r) ∧ ∀ r, state.RunLength r →
      (FullDrain state ⟨state.receptions.length, pkt⟩ r
          (state.iterate crc32 write (.readable bytes past heap)) ↔ ¬ BlockedAtZero state r) :=
  ⟨ReceiverState.exists_runLength unheld, fun _ length => length.fullDrain_iff crc32 write running
    success distinct unheld decoded ((pktGetType_eq_data pkt).mp data) expected⟩

/-! ## Two packets in slots 0 and 1 -/

section TwoBuffered

variable {crc32 : List UInt8 → UInt32} {stream : DataStream} {state : ReceiverState} {a b : ℕ}
  (reached : At crc32 stream 0 ((Slots.empty.put 0 a).put 1 b) state)

include reached

theorem two_buffered_zero : ∃ packet, state.receiverBuffer 0 = some packet ∧
    packet.pkt.seqnum.toNat = a % 256 := by
  have place : ((Slots.empty.put 0 a).put 1 b : Slots windowSize ℕ) 0 = some a :=
    (Slots.put_of_ne _ _ (by decide)).trans (Slots.put_same _ _ _)
  obtain ⟨packet, found, pkt⟩ := reached.slot_of_held place
  exact ⟨packet, found, stream.origin_numbered crc32 a _ pkt⟩

theorem two_buffered_one : ∃ packet, state.receiverBuffer 1 = some packet ∧
    packet.pkt.seqnum.toNat = b % 256 := by
  obtain ⟨packet, found, pkt⟩ := reached.slot_of_held (Slots.put_same _ _ _)
  exact ⟨packet, found, stream.origin_numbered crc32 b _ pkt⟩

theorem two_buffered_numbers {index : Fin windowSize} {held : PktPtr}
    (found : state.receiverBuffer index = some held) :
    (index = 1 ∧ held.pkt.seqnum.toNat = b % 256) ∨
      (index = 0 ∧ held.pkt.seqnum.toNat = a % 256) := by
  obtain ⟨j, place, packet⟩ := reached.slot_eq_some found
  have numbered := stream.origin_numbered crc32 j held.pkt packet
  rcases Slots.of_put_eq_some place with ⟨here, rfl⟩ | ⟨-, old⟩
  · exact Or.inl ⟨here, numbered⟩
  · rcases Slots.of_put_eq_some old with ⟨here, rfl⟩ | ⟨-, none_⟩
    · exact Or.inr ⟨here, numbered⟩
    · cases none_

theorem two_buffered_distinct (different : a % 256 ≠ b % 256) :
    Distinct (fun held : PktPtr => held.pkt.seqnum) state.receiverBuffer := by
  intro first second left right atFirst atSecond same
  have equal : left.pkt.seqnum.toNat = right.pkt.seqnum.toNat := congrArg UInt8.toNat same
  rcases two_buffered_numbers reached atFirst with ⟨rfl, one⟩ | ⟨rfl, zero⟩
  · rcases two_buffered_numbers reached atSecond with ⟨rfl, -⟩ | ⟨-, zero⟩
    · rfl
    · omega
  · rcases two_buffered_numbers reached atSecond with ⟨-, one⟩ | ⟨rfl, -⟩
    · omega
    · rfl

theorem two_buffered_expected : state.seqnum.toNat = 0 := by
  have expected := reached.ordered.expected
  rw [reached.count] at expected
  exact expected

theorem two_buffered_unheld (first : a % 256 ≠ 0) (second : b % 256 ≠ 0) :
    ∀ index held, state.receiverBuffer index = some held → held.pkt.seqnum ≠ state.seqnum := by
  intro index held found same
  have equal := congrArg UInt8.toNat same
  have expected := two_buffered_expected reached
  rcases two_buffered_numbers reached found with ⟨-, one⟩ | ⟨-, zero⟩
  · omega
  · omega

/-- Packets 1 and 2 follow the expected one. -/
theorem two_buffered_run (both : a = 1 ∧ b = 2 ∨ a = 2 ∧ b = 1) : state.RunLength 2 := by
  have expected := two_buffered_expected reached
  obtain ⟨zero, atZero, numberZero⟩ := two_buffered_zero reached
  obtain ⟨one, atOne, numberOne⟩ := two_buffered_one reached
  refine ⟨fun k low high => ?_, ?_⟩
  · by_cases first : k = a
    · exact ⟨0, zero, atZero, by omega⟩
    · exact ⟨1, one, atOne, by omega⟩
  · rintro ⟨index, held, found, third⟩
    rcases two_buffered_numbers reached found with ⟨-, number⟩ | ⟨-, number⟩
    · omega
    · omega

end TwoBuffered

/-- Packets 1 and 2 are in slots 0 and 1 when packet 0 arrives, and both follow it. -/
theorem full_drain_two :
    let state := (receiverLoop zlibCrc32 fullWrite).run [roundArrival 1, roundArrival 2]
    state.RunLength 2 ∧
      FullDrain state ⟨state.receptions.length, (roundStream.packet 0).onWire zlibCrc32⟩ 2
        (state.iterate zlibCrc32 fullWrite (roundArrival 0)) := by
  intro state
  have reached : At zlibCrc32 roundStream 0 ((Slots.empty.put 0 1).put 1 2) state := by
    simp only [state, Machine.run, Machine.runFrom_cons, Machine.runFrom_nil, receiverLoop_start,
      receiverLoop_step]
    exact (two_buffered (by decide) (by decide) (by decide)).2
  have decoded := state.decode_wire zlibCrc32 (roundStream.encodable 0) fun _ => 0
  have number : ((roundStream.packet 0).onWire zlibCrc32).seqnum.toNat = 0 % 256 :=
    roundStream.numbered 0
  clear_value state
  have expected := number.trans (two_buffered_expected reached).symm
  have length := two_buffered_run reached (Or.inl ⟨rfl, rfl⟩)
  refine ⟨length, ((full_drain_iff zlibCrc32 fullWrite state reached.running
    (fun _ count => Int.natCast_nonneg count) (two_buffered_distinct reached (by decide))
    (two_buffered_unheld reached (by decide) (by decide)) _ (fun _ => 0) Heap.plenty _ decoded
    ((pktGetType_eq_data _).mpr (roundStream.data 0)) (UInt8.toNat_inj.mp expected)).2 2
    length).mpr ?_⟩
  -- slot 0 holds packet 1, and the scan goes on behind it
  rintro ⟨held, k, found, low, high, same⟩
  obtain ⟨zero, atZero, numberZero⟩ := two_buffered_zero reached
  rw [found] at atZero
  obtain rfl := Option.some.inj atZero
  have start := two_buffered_expected reached
  omega

/-- Packets 2 and 1 are in slots 0 and 1 when packet 0 arrives: packet 1 is written after
it, packet 2 is not. -/
theorem full_drain_blocked :
    let state := (receiverLoop zlibCrc32 fullWrite).run [roundArrival 2, roundArrival 1]
    let pkt := (roundStream.packet 0).onWire zlibCrc32
    state.running = true ∧
      Distinct (fun held : PktPtr => pktGetSeqnum held.pkt) state.receiverBuffer ∧
      (∀ index held, state.receiverBuffer index = some held →
        pktGetSeqnum held.pkt ≠ state.seqnum) ∧
      state.decode zlibCrc32 (some ((roundStream.packet 0).wire zlibCrc32)) (fun _ => 0)
        Heap.plenty = (pkt, .pktOk) ∧
      pktGetType pkt = PType.ptypeData.value ∧ pktGetSeqnum pkt = state.seqnum ∧
      state.RunLength 2 ∧
      ¬ FullDrain state ⟨state.receptions.length, pkt⟩ 2
        (state.iterate zlibCrc32 fullWrite (roundArrival 0)) := by
  intro state pkt
  have reached : At zlibCrc32 roundStream 0 ((Slots.empty.put 0 2).put 1 1) state := by
    simp only [state, Machine.run, Machine.runFrom_cons, Machine.runFrom_nil, receiverLoop_start,
      receiverLoop_step]
    exact (two_buffered (by decide) (by decide) (by decide)).2
  have decoded : state.decode zlibCrc32 (some ((roundStream.packet 0).wire zlibCrc32)) (fun _ => 0)
      Heap.plenty = (pkt, .pktOk) :=
    state.decode_wire zlibCrc32 (roundStream.encodable 0) fun _ => 0
  have type : pkt.type = 1 := roundStream.data 0
  have number : pkt.seqnum.toNat = 0 % 256 := roundStream.numbered 0
  clear_value state pkt
  have distinct := two_buffered_distinct reached (by decide)
  have unheld := two_buffered_unheld reached (by decide) (by decide)
  have length := two_buffered_run reached (Or.inr ⟨rfl, rfl⟩)
  obtain ⟨two, atZero, numberTwo⟩ := two_buffered_zero reached
  have start := two_buffered_expected reached
  have blocked : BlockedAtZero state 2 :=
    ⟨two, 2, atZero, Nat.le_refl 2, Nat.le_refl 2, by omega⟩
  have same : pkt.seqnum = state.seqnum :=
    UInt8.toNat_inj.mp (number.trans (two_buffered_expected reached).symm)
  refine ⟨reached.running, distinct, unheld, decoded, (pktGetType_eq_data pkt).mpr type, same,
    length, fun full => ?_⟩
  exact (length.fullDrain_iff zlibCrc32 fullWrite reached.running
    (fun _ count => Int.natCast_nonneg count) distinct unheld decoded type same).mp full blocked

end SelectiveRepeat.Receiver

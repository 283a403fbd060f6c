import SelectiveRepeat.Receiver.Loop

/-!
# What an iteration can do

`Stored` says where the store loop stops, `drain_preserves` is the rule for the drain
loop, and `Handled` lists the outcomes of the four branches.  Every invariant of the
receiver is derived from these and does not open the loop again.
-/

namespace SelectiveRepeat.Receiver

open SelectiveRepeat.Foundations SelectiveRepeat.Packet SelectiveRepeat.Transport

namespace ReceiverState

variable (crc32 : List UInt8 → UInt32) (write : ℕ → ℕ → ℤ) (state : ReceiverState)

/-! ## The store loop -/

/-- The number of an arrival lies in the receive window, in plain integers. -/
def InWindow (number : UInt8) : Prop :=
  number.toNat < state.seqnum.toNat + state.window.toNat ∧ state.seqnum < number

/-- The packet is put into a slot. -/
def keep (index : Fin windowSize) (packet : PktPtr) : ReceiverState :=
  { state with
    receiverBuffer := state.receiverBuffer.put index packet
    window := state.window - 1 }

/-- Where the store loop stops. -/
inductive Stored (packet : PktPtr) : ReceiverState → Prop where
  /-- At a slot that already holds the number. -/
  | present {index : Fin windowSize} {held : PktPtr}
      (found : state.receiverBuffer index = some held)
      (same : held.pkt.seqnum = packet.pkt.seqnum) : Stored packet state
  /-- At the first free slot, before any slot that holds the number. -/
  | placed {index : Fin windowSize} (hole : state.receiverBuffer index = none)
      (first : ∀ before < index, ∃ held, state.receiverBuffer before = some held ∧
        held.pkt.seqnum ≠ packet.pkt.seqnum) :
      Stored packet (state.keep index packet)
  /-- Nowhere: all slots hold other numbers. -/
  | full (occupied : ∀ index, state.receiverBuffer index ≠ none) : Stored packet state

theorem stopsAt_eq_false {packet : PktPtr} {slot : Option PktPtr} :
    stopsAt packet slot = false ↔ ∃ held, slot = some held ∧
      held.pkt.seqnum ≠ packet.pkt.seqnum := by
  cases slot with
  | none => simp [stopsAt]
  | some held => simp [stopsAt]

theorem stored (packet : PktPtr) : state.Stored packet (state.storePacket packet) := by
  unfold storePacket
  split
  · rename_i none_found
    rw [Slots.firstWhere_eq_none] at none_found
    refine .full fun index hole => ?_
    obtain ⟨held, heldEq, -⟩ := stopsAt_eq_false.mp (none_found index)
    rw [hole] at heldEq
    cases heldEq
  · rename_i index found
    obtain ⟨stops, before⟩ := Slots.firstWhere_eq_some.mp found
    split
    · rename_i held heldEq
      rw [heldEq] at stops
      exact .present heldEq (by simpa [stopsAt] using stops)
    · rename_i hole
      exact .placed hole fun earlier less => stopsAt_eq_false.mp (before earlier less)

/-- The store loop changes the slots and the window only. -/
theorem storePacket_frame (packet : PktPtr) : state.storePacket packet = { state with
    receiverBuffer := (state.storePacket packet).receiverBuffer
    window := (state.storePacket packet).window } := by
  have outcome := state.stored packet
  generalize state.storePacket packet = after at outcome ⊢
  cases outcome with
  | present => rfl
  | placed => rfl
  | full => rfl

/-- The store loop puts the packet into the first free slot when no slot before it
holds the number. -/
theorem storePacket_of_hole (packet : PktPtr) {index : Fin windowSize}
    (hole : state.receiverBuffer index = none)
    (first : ∀ before < index, ∃ held, state.receiverBuffer before = some held ∧
      held.pkt.seqnum ≠ packet.pkt.seqnum) : state.storePacket packet = state.keep index packet := by
  have stops : stopsAt packet (state.receiverBuffer index) = true := by
    rw [hole]
    rfl
  have found : state.receiverBuffer.firstWhere (stopsAt packet) = some index :=
    Slots.firstWhere_eq_some.mpr ⟨stops, fun before less => stopsAt_eq_false.mpr (first before less)⟩
  unfold storePacket
  rw [found]
  dsimp only
  split
  · rename_i held heldEq
    rw [hole] at heldEq
    cases heldEq
  · rfl

/-! ## The drain loop -/

/-- One delivery of the drain loop. -/
def Delivers (before after : ReceiverState) : Prop :=
  ∃ index packet, before.receiverBuffer index = some packet ∧
    packet.pkt.seqnum = before.seqnum ∧ after = before.deliver write index packet

/-- The drain loop is a sequence of deliveries. -/
theorem drain_delivers (i : ℕ) :
    Relation.ReflTransGen (Delivers write) state (state.drain write i) := by
  fun_induction drain write state i with
  | case1 state i inside packet held expected ih =>
      exact .head ⟨⟨i, inside⟩, packet, held, expected, rfl⟩ ih
  | case2 _ _ _ _ _ _ ih => exact ih
  | case3 _ _ _ _ ih => exact ih
  | case4 _ _ _ => exact .refl

/-- A property kept by every delivery is kept by the drain loop. -/
theorem drain_preserves {motive : ReceiverState → Prop}
    (step : ∀ state index packet, motive state → state.receiverBuffer index = some packet →
      packet.pkt.seqnum = state.seqnum → motive (state.deliver write index packet))
    {state : ReceiverState} (before : motive state) (i : ℕ) :
    motive (state.drain write i) := by
  have deliveries := state.drain_delivers write i
  generalize state.drain write i = after at deliveries ⊢
  induction deliveries with
  | refl => exact before
  | tail _ delivery ih =>
      obtain ⟨index, packet, held, expected, rfl⟩ := delivery
      exact step _ index packet ih held expected

/-- Without the expected number in the slots still to be scanned nothing is
delivered. -/
theorem drain_eq_self (i : ℕ)
    (absent : ∀ index : Fin windowSize, i ≤ index → ∀ packet,
      state.receiverBuffer index = some packet → packet.pkt.seqnum ≠ state.seqnum) :
    state.drain write i = state := by
  fun_induction drain write state i with
  | case1 state i inside packet held expected ih =>
      exact absurd expected (absent ⟨i, inside⟩ (Nat.le_refl i) packet held)
  | case2 _ _ _ _ _ _ ih => exact ih fun index later => absent index (by omega)
  | case3 _ _ _ _ ih => exact ih fun index later => absent index (by omega)
  | case4 _ _ _ => rfl

/-- The first slot scanned that holds the expected number is delivered, and the scan
goes on at 1. -/
theorem drain_of_held {i : ℕ} {index : Fin windowSize} {packet : PktPtr} (le : i ≤ index)
    (held : state.receiverBuffer index = some packet) (expected : packet.pkt.seqnum = state.seqnum)
    (before : ∀ other : Fin windowSize, i ≤ other → other < index → ∀ found,
      state.receiverBuffer other = some found → found.pkt.seqnum ≠ state.seqnum) :
    state.drain write i = (state.deliver write index packet).drain write 1 := by
  fun_induction drain write state i with
  | case1 state i inside found at_ same ih =>
      rcases Nat.lt_or_eq_of_le le with less | here
      · exact absurd same (before ⟨i, inside⟩ (Nat.le_refl i) less found at_)
      · have place : (⟨i, inside⟩ : Fin windowSize) = index := Fin.ext here
        rw [place, held] at at_
        rw [place, Option.some.inj at_]
  | case2 state i inside found at_ other ih =>
      have apart : i ≠ index := by
        rintro rfl
        rw [held] at at_
        exact other (Option.some.inj at_ ▸ expected)
      exact ih (by omega) held expected fun place later => before place (by omega)
  | case3 state i inside at_ ih =>
      have apart : i ≠ index := by
        rintro rfl
        rw [held] at at_
        cases at_
      exact ih (by omega) held expected fun place later => before place (by omega)
  | case4 state i outside => exact absurd (le.trans_lt index.isLt) outside

/-- The drain loop changes the slots, the counters and the writes only. -/
theorem drain_frame (i : ℕ) : state.drain write i = { state with
    receiverBuffer := (state.drain write i).receiverBuffer
    window := (state.drain write i).window
    seqnum := (state.drain write i).seqnum
    writes := (state.drain write i).writes } := by
  refine state.drain_preserves write (motive := fun after => after = { state with
    receiverBuffer := after.receiverBuffer
    window := after.window
    seqnum := after.seqnum
    writes := after.writes }) ?_ rfl i
  intro reached index packet same _ _
  rw [same]
  rfl

/-! ## The branches -/

/-- The expected packet is counted and handed to `write`. -/
def accept (packet : PktPtr) : ReceiverState :=
  ({ state with seqnum := incSeqnum state.seqnum } : ReceiverState).writePacket write packet

/-- The outcomes of handling one decoded packet. -/
inductive Handled (packet : PktPtr) (code : PktStatus) : ReceiverState → Prop where
  /-- `pkt_decode` refused the datagram. -/
  | refused (bad : code ≠ .pktOk) : Handled packet code (state.sendAck crc32)
  /-- Not a DATA packet. -/
  | ignored (ok : code = .pktOk) (other : packet.pkt.type ≠ 1) : Handled packet code state
  /-- A number outside the window. -/
  | outside (ok : code = .pktOk) (data : packet.pkt.type = 1)
      (unexpected : packet.pkt.seqnum ≠ state.seqnum) (out : ¬ state.InWindow packet.pkt.seqnum) :
      Handled packet code (state.sendAck crc32)
  /-- A number inside the window, taken to the store loop. -/
  | buffered (ok : code = .pktOk) (data : packet.pkt.type = 1)
      (unexpected : packet.pkt.seqnum ≠ state.seqnum) (inside : state.InWindow packet.pkt.seqnum) :
      Handled packet code ((state.storePacket packet).sendAck crc32)
  /-- The expected number, but `write` failed. -/
  | failed (ok : code = .pktOk) (data : packet.pkt.type = 1)
      (expected : packet.pkt.seqnum = state.seqnum)
      (error : write state.writes.length packet.pkt.length.toNat < 0) :
      Handled packet code { state.accept write packet with running := false }
  /-- The expected number, written and followed by the drain loop. -/
  | drained (ok : code = .pktOk) (data : packet.pkt.type = 1)
      (expected : packet.pkt.seqnum = state.seqnum)
      (success : 0 ≤ write state.writes.length packet.pkt.length.toNat) :
      Handled packet code (((state.accept write packet).drain write 0).sendAck crc32)

/-- The end-of-transmission branch is never taken: the branch before it has the
weaker condition. -/
theorem handled (packet : PktPtr) (code : PktStatus) :
    state.Handled crc32 write packet code (state.handle crc32 write packet code) := by
  unfold handle
  have type := pktGetType_eq_data packet.pkt
  by_cases unexpected : code = .pktOk ∧ pktGetSeqnum packet.pkt ≠ state.seqnum ∧
      pktGetType packet.pkt = PType.ptypeData.value
  · rw [if_pos unexpected]
    obtain ⟨ok, other, data⟩ := unexpected
    by_cases inside : (pktGetSeqnum packet.pkt).toNat < state.seqnum.toNat + state.window.toNat ∧
        state.seqnum < pktGetSeqnum packet.pkt
    · rw [if_pos inside]
      exact .buffered ok (type.mp data) other inside
    · rw [if_neg inside]
      exact .outside ok (type.mp data) other inside
  rw [if_neg unexpected]
  by_cases expected : code = .pktOk ∧ pktGetSeqnum packet.pkt = state.seqnum ∧
      pktGetType packet.pkt = PType.ptypeData.value
  · rw [if_pos expected]
    obtain ⟨ok, same, data⟩ := expected
    by_cases error : write state.writes.length (pktGetLength packet.pkt).toNat < 0
    · simp only [error, if_true]
      exact .failed ok (type.mp data) same error
    · simp only [error, if_false]
      exact .drained ok (type.mp data) same (not_lt.mp error)
  rw [if_neg expected, if_neg fun finished => expected ⟨finished.1, finished.2.2.2, finished.2.1⟩]
  by_cases bad : code ≠ .pktOk
  · rw [if_pos bad]
    exact .refused bad
  · rw [if_neg bad]
    have ok := not_not.mp bad
    refine .ignored ok fun data => ?_
    by_cases same : packet.pkt.seqnum = state.seqnum
    · exact expected ⟨ok, same, type.mpr data⟩
    · exact unexpected ⟨ok, same, type.mpr data⟩

theorem handle_of_inside {packet : PktPtr} (data : packet.pkt.type = 1)
    (inside : state.InWindow packet.pkt.seqnum) :
    state.handle crc32 write packet .pktOk = (state.storePacket packet).sendAck crc32 := by
  have outcome := state.handled crc32 write packet .pktOk
  generalize state.handle crc32 write packet .pktOk = after at outcome ⊢
  cases outcome with
  | refused bad => exact absurd rfl bad
  | ignored ok other => exact absurd data other
  | outside ok data unexpected out => exact absurd inside out
  | buffered ok data unexpected within => rfl
  | failed ok data expected error => exact absurd (expected ▸ inside.2) (UInt8.lt_irrefl _)
  | drained ok data expected success => exact absurd (expected ▸ inside.2) (UInt8.lt_irrefl _)

theorem handle_of_expected {packet : PktPtr} (data : packet.pkt.type = 1)
    (expected : packet.pkt.seqnum = state.seqnum)
    (success : 0 ≤ write state.writes.length packet.pkt.length.toNat) :
    state.handle crc32 write packet .pktOk =
      ((state.accept write packet).drain write 0).sendAck crc32 := by
  have outcome := state.handled crc32 write packet .pktOk
  generalize state.handle crc32 write packet .pktOk = after at outcome ⊢
  cases outcome with
  | refused bad => exact absurd rfl bad
  | ignored ok other => exact absurd data other
  | outside ok data unexpected out => exact absurd expected unexpected
  | buffered ok data unexpected within => exact absurd expected unexpected
  | failed ok data expected error => exact absurd success (not_le.mpr error)
  | drained ok data expected success => rfl

/-- A property of the slots, the window, the expected number and the records is kept by
handling a packet when storing it, accepting it and every delivery keep it. -/
theorem handle_preserves {motive : ReceiverState → Prop} {state : ReceiverState}
    {packet : PktPtr} {code : PktStatus}
    (frame : ∀ state len buffer running sent, motive state →
      motive { state with len := len, buffer := buffer, running := running, sent := sent })
    (keep : code = .pktOk → packet.pkt.type = 1 → state.InWindow packet.pkt.seqnum →
      ∀ index, state.receiverBuffer index = none →
      (∀ before < index, ∃ held, state.receiverBuffer before = some held ∧
        held.pkt.seqnum ≠ packet.pkt.seqnum) → motive (state.keep index packet))
    (accept : code = .pktOk → packet.pkt.type = 1 → packet.pkt.seqnum = state.seqnum →
      motive (state.accept write packet))
    (deliver : ∀ state index packet, motive state → state.receiverBuffer index = some packet →
      packet.pkt.seqnum = state.seqnum → motive (state.deliver write index packet))
    (before : motive state) : motive (state.handle crc32 write packet code) := by
  have outcome := state.handled crc32 write packet code
  generalize state.handle crc32 write packet code = after at outcome ⊢
  cases outcome with
  | refused bad => exact frame state _ _ _ _ before
  | ignored ok other => exact before
  | outside ok data unexpected out => exact frame state _ _ _ _ before
  | buffered ok data unexpected inside =>
      refine frame (state.storePacket packet) _ _ _ _ ?_
      have stored := state.stored packet
      generalize state.storePacket packet = after at stored ⊢
      cases stored with
      | present found same => exact before
      | placed hole first => exact keep ok data inside _ hole first
      | full occupied => exact before
  | failed ok data expected error => exact frame _ _ _ _ _ (accept ok data expected)
  | drained ok data expected success =>
      exact frame _ _ _ _ _ (drain_preserves write deliver (accept ok data expected) 0)

/-! ## One iteration -/

/-- The iteration on a datagram, with the decoding named. -/
theorem iterate_readable (bytes : Option Datagram) (past : Memory) (heap : Heap)
    (running : state.running = true) {pkt : Pkt} {code : PktStatus}
    (decoded : state.decode crc32 bytes past heap = (pkt, code)) :
    state.iterate crc32 write (.readable bytes past heap) =
      (state.receive crc32 bytes past heap).handle crc32 write
        ⟨state.receptions.length, pkt⟩ code := by
  simp only [iterate, running, if_true, decoded]

/-- Where no packet is buffered, the expected one is written and acknowledged. -/
theorem iterate_of_expected (bytes : Option Datagram) (past : Memory) (heap : Heap)
    (running : state.running = true) (empty : state.receiverBuffer = Slots.empty) {pkt : Pkt}
    (decoded : state.decode crc32 bytes past heap = (pkt, .pktOk)) (data : pkt.type = 1)
    (expected : pkt.seqnum = state.seqnum)
    (success : 0 ≤ write state.writes.length pkt.length.toNat) :
    state.iterate crc32 write (.readable bytes past heap) =
      ((state.receive crc32 bytes past heap).accept write
        ⟨state.receptions.length, pkt⟩).sendAck crc32 := by
  let accepted := (state.receive crc32 bytes past heap).accept write ⟨state.receptions.length, pkt⟩
  have bare : accepted.receiverBuffer = Slots.empty := empty
  rw [state.iterate_readable crc32 write bytes past heap running decoded,
    handle_of_expected crc32 write _ data expected success]
  rw [accepted.drain_eq_self write 0 fun index _ packet held => ?_]
  rw [bare] at held
  cases held

/-- After the loop was left, and in the iteration that leaves it, nothing else changes. -/
theorem iterate_idle {input : ReceiverInput} (idle : state.running = false ∨ input = .pollEnds) :
    state.iterate crc32 write input = { state with sent := [], running := false } := by
  unfold iterate
  rcases idle with left | rfl
  · rw [left, if_neg Bool.false_ne_true]
  · cases running : state.running with
    | false => rw [if_neg Bool.false_ne_true]
    | true => rw [if_pos rfl]

/-- A property of the variables that an iteration touches is kept when decoding,
handling, and the changes of the other variables keep it. -/
theorem iterate_preserves {motive : ReceiverState → Prop}
    (frame : ∀ sent running, motive state → motive { state with sent := sent, running := running })
    (input : ReceiverInput)
    (readable : ∀ bytes past heap pkt code, input = .readable bytes past heap →
      state.running = true → state.decode crc32 bytes past heap = (pkt, code) → motive state →
      motive ((state.receive crc32 bytes past heap).handle crc32 write
        ⟨state.receptions.length, pkt⟩ code))
    (before : motive state) : motive (state.iterate crc32 write input) := by
  cases running : state.running with
  | false =>
      simp only [iterate, running, Bool.false_eq_true, if_false]
      simpa [running] using frame [] state.running before
  | true =>
      cases input with
      | pollEnds =>
          simp only [iterate, running, if_true]
          exact frame [] false before
      | notReadable =>
          simp only [iterate, running, if_true]
          simpa [running] using frame [] state.running before
      | readable bytes past heap =>
          rw [iterate_readable crc32 write state bytes past heap running rfl]
          exact readable bytes past heap _ _ rfl running rfl before

end ReceiverState

end SelectiveRepeat.Receiver

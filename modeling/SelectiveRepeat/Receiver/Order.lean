import SelectiveRepeat.Foundations.Distinct
import SelectiveRepeat.Receiver.Buffer

/-!
# The order of delivery

The packets handed to `write` carry consecutive numbers, because both routes to
`write` compare with the expected number and then count it.  Every packet in a
slot or already written came from a datagram of its own.
-/

namespace SelectiveRepeat.Receiver

open SelectiveRepeat.Foundations SelectiveRepeat.Packet SelectiveRepeat.Transport

namespace ReceiverState

variable (crc32 : List UInt8 → UInt32) (write : ℕ → ℕ → ℤ)

/-! ## Consecutive numbers -/

/-- The writes are numbered from 0 modulo 256, and the expected number is the next one. -/
structure Ordered (state : ReceiverState) : Prop where
  expected : state.seqnum.toNat = state.writes.length % 256
  numbered : ∀ k call, state.writes[k]? = some call → call.packet.pkt.seqnum.toNat = k % 256

variable {state : ReceiverState}

theorem ordered_start : start.Ordered := by
  refine ⟨rfl, fun k call found => ?_⟩
  simp [start] at found

/-- A change of the other variables. -/
theorem Ordered.congr (ordered : state.Ordered) {after : ReceiverState}
    (seqnum : after.seqnum = state.seqnum) (writes : after.writes = state.writes) :
    after.Ordered := by
  refine ⟨?_, ?_⟩
  · rw [seqnum, writes]
    exact ordered.expected
  · rw [writes]
    exact ordered.numbered

/-- Writing a packet with the expected number. -/
theorem Ordered.wrote (ordered : state.Ordered) {packet : PktPtr}
    (expected : packet.pkt.seqnum = state.seqnum) {size : ℤ} {after : ReceiverState}
    (seqnum : after.seqnum = incSeqnum state.seqnum)
    (writes : after.writes = state.writes ++ [⟨packet, size⟩]) : after.Ordered := by
  constructor
  · rw [seqnum, writes, List.length_append, List.length_singleton]
    exact incSeqnum_count ordered.expected
  · intro k call found
    rw [writes, getElem?_concat_eq_some] at found
    rcases found with old | ⟨rfl, rfl⟩
    · exact ordered.numbered k call old
    · rw [expected]
      exact ordered.expected

theorem Ordered.deliver (ordered : state.Ordered) {index : Fin windowSize} {packet : PktPtr}
    (expected : packet.pkt.seqnum = state.seqnum) : (state.deliver write index packet).Ordered :=
  ordered.wrote expected rfl rfl

theorem Ordered.handle (ordered : state.Ordered) (packet : PktPtr) (code : PktStatus) :
    (state.handle crc32 write packet code).Ordered := by
  refine handle_preserves crc32 write (motive := Ordered) ?_ ?_ ?_ ?_ ordered
  · intro state len buffer running sent before
    exact before.congr rfl rfl
  · intro _ _ _ index _ _
    exact ordered.congr rfl rfl
  · intro _ _ expected
    exact ordered.wrote expected rfl rfl
  · intro state index packet before _ expected
    exact before.deliver write expected

theorem ordered_iterate (ordered : state.Ordered) (input : ReceiverInput) :
    (state.iterate crc32 write input).Ordered := by
  refine state.iterate_preserves crc32 write (motive := Ordered) ?_ input ?_ ordered
  · intro sent running before
    exact before.congr rfl rfl
  · intro bytes past heap pkt code _ running decoded before
    have received : (state.receive crc32 bytes past heap).Ordered := before.congr rfl rfl
    exact received.handle crc32 write _ code

theorem ordered_run (inputs : List ReceiverInput) :
    ((receiverLoop crc32 write).run inputs).Ordered :=
  (receiverLoop crc32 write).invariant ordered_start
    (fun _ input before => ordered_iterate crc32 write before input) inputs

/-- Every write recorded the value that `write` returned for the packet's length. -/
def Sized (state : ReceiverState) : Prop :=
  ∀ k call, state.writes[k]? = some call →
    call.size = write k (pktGetLength call.packet.pkt).toNat

theorem Sized.wrote (sized : state.Sized write) (packet : PktPtr) {after : ReceiverState}
    (writes : after.writes = state.writes ++
      [⟨packet, write state.writes.length (pktGetLength packet.pkt).toNat⟩]) :
    after.Sized write := by
  intro k call found
  rw [writes, getElem?_concat_eq_some] at found
  rcases found with old | ⟨rfl, rfl⟩
  · exact sized k call old
  · rfl

theorem sized_run (inputs : List ReceiverInput) :
    ((receiverLoop crc32 write).run inputs).Sized write := by
  refine (receiverLoop crc32 write).invariant (motive := fun state => state.Sized write)
    ?_ ?_ inputs
  · intro k call found
    simp [receiverLoop, start] at found
  · intro state input sized
    refine state.iterate_preserves crc32 write (motive := fun state => state.Sized write)
      ?_ input ?_ sized
    · intro sent running before
      exact before
    · intro bytes past heap pkt code _ running decoded before
      have received : (state.receive crc32 bytes past heap).Sized write := before
      refine handle_preserves crc32 write (motive := fun state => state.Sized write)
        ?_ ?_ ?_ ?_ received
      · intro state len buffer running sent kept
        exact kept
      · intro _ _ _ index _ _
        exact before
      · intro _ _ _
        exact before.wrote write _ rfl
      · intro state index packet kept _ _
        exact kept.wrote write packet rfl

/-! ## Every packet has its own datagram -/

/-- The places where a packet can be: a slot of the buffer, or a position among the
writes. -/
def place (state : ReceiverState) : Fin windowSize ⊕ ℕ → Option PktPtr
  | .inl index => state.receiverBuffer index
  | .inr k => (state.writes[k]?).map WriteCall.packet

/-- The packet is what one decoding accepted as DATA. -/
def Decoded (state : ReceiverState) (packet : PktPtr) : Prop :=
  ∃ reception, state.receptions[packet.addr]? = some reception ∧
    reception.code = .pktOk ∧ reception.pkt = packet.pkt ∧ packet.pkt.type = 1

/-- Every packet that is held or was written is a decoded one, each in one place. -/
structure Owned (state : ReceiverState) : Prop where
  decoded : ∀ place packet, state.place place = some packet → state.Decoded packet
  distinct : Distinct PktPtr.addr state.place

theorem owned_start : start.Owned := by
  have nowhere : ∀ place packet, start.place place ≠ some packet := by
    rintro (index | k) packet held
    · simp [place, start] at held
    · simp [place, start] at held
  exact ⟨fun place packet held => absurd held (nowhere place packet),
    fun first _ left _ held _ _ => absurd held (nowhere first left)⟩

theorem place_inr_concat {record : List WriteCall} {call : WriteCall} {k : ℕ} {found : PktPtr}
    (held : ((record ++ [call])[k]?).map WriteCall.packet = some found) :
    (k = record.length ∧ found = call.packet) ∨
      (record[k]?).map WriteCall.packet = some found := by
  obtain ⟨entry, at_, rfl⟩ := Option.map_eq_some_iff.mp held
  rcases getElem?_concat_eq_some.mp at_ with old | ⟨same, rfl⟩
  · exact Or.inr (by rw [old]; rfl)
  · exact Or.inl ⟨same, rfl⟩

/-- A new packet is put into one place. -/
theorem Owned.add (owned : state.Owned) {after : ReceiverState} {packet : PktPtr}
    (decoded : state.Decoded packet)
    (fresh : ∀ place held, state.place place = some held → held.addr ≠ packet.addr)
    {spot : Fin windowSize ⊕ ℕ} (added : ∀ place held, after.place place = some held →
      (place = spot ∧ held = packet) ∨ state.place place = some held)
    (same : ∀ held, state.Decoded held → after.Decoded held) : after.Owned := by
  refine ⟨fun place held found => ?_, owned.distinct.add fresh added⟩
  rcases added place held found with ⟨-, rfl⟩ | old
  · exact same held decoded
  · exact same held (owned.decoded place held old)

/-- The written packet is a new one. -/
theorem Owned.accept (owned : state.Owned) {packet : PktPtr} (decoded : state.Decoded packet)
    (fresh : ∀ place held, state.place place = some held → held.addr ≠ packet.addr) :
    (state.accept write packet).Owned := by
  have added : ∀ place held, (state.accept write packet).place place = some held →
      (place = .inr state.writes.length ∧ held = packet) ∨ state.place place = some held := by
    rintro (index | k) held found
    · exact Or.inr found
    · rcases place_inr_concat found with ⟨rfl, rfl⟩ | old
      · exact Or.inl ⟨rfl, rfl⟩
      · exact Or.inr old
  exact owned.add decoded fresh added fun _ same => same

/-- A delivery moves a packet from its slot to the writes. -/
theorem Owned.deliver (owned : state.Owned) {index : Fin windowSize} {packet : PktPtr}
    (held : state.receiverBuffer index = some packet) :
    (state.deliver write index packet).Owned := by
  have moved : ∀ place found, (state.deliver write index packet).place place = some found →
      (place = .inr state.writes.length ∧ found = packet) ∨
        (place ≠ .inl index ∧ state.place place = some found) := by
    rintro (other | k) found at_
    · obtain ⟨apart, old⟩ := Slots.of_clear_eq_some at_
      exact Or.inr ⟨fun same => apart (Sum.inl.inj same), old⟩
    · rcases place_inr_concat at_ with ⟨rfl, rfl⟩ | old
      · exact Or.inl ⟨rfl, rfl⟩
      · exact Or.inr ⟨Sum.inr_ne_inl, old⟩
  have source : state.place (.inl index) = some packet := held
  refine ⟨fun place found at_ => ?_, owned.distinct.move source moved⟩
  rcases moved place found at_ with ⟨-, rfl⟩ | ⟨-, old⟩
  · exact owned.decoded (.inl index) found source
  · exact owned.decoded place found old

theorem Owned.keep (owned : state.Owned) {packet : PktPtr} (decoded : state.Decoded packet)
    (fresh : ∀ place held, state.place place = some held → held.addr ≠ packet.addr)
    (index : Fin windowSize) : (state.keep index packet).Owned := by
  have added : ∀ place held, (state.keep index packet).place place = some held →
      (place = .inl index ∧ held = packet) ∨ state.place place = some held := by
    rintro (other | k) held found
    · rcases Slots.of_put_eq_some found with ⟨rfl, rfl⟩ | ⟨-, old⟩
      · exact Or.inl ⟨rfl, rfl⟩
      · exact Or.inr old
    · exact Or.inr found
  exact owned.add decoded fresh added fun _ same => same

theorem Owned.handle (owned : state.Owned) {packet : PktPtr} {code : PktStatus}
    (decoded : code = .pktOk → packet.pkt.type = 1 → state.Decoded packet)
    (fresh : ∀ place held, state.place place = some held → held.addr ≠ packet.addr) :
    (state.handle crc32 write packet code).Owned := by
  refine handle_preserves crc32 write (motive := Owned) ?_ ?_ ?_ ?_ owned
  · intro state len buffer running sent before
    exact ⟨before.decoded, before.distinct⟩
  · intro ok data _ index _ _
    exact owned.keep (decoded ok data) fresh index
  · intro ok data _
    exact owned.accept write (decoded ok data) fresh
  · intro state index packet before held _
    exact before.deliver write held

theorem owned_iterate (owned : state.Owned) (input : ReceiverInput) :
    (state.iterate crc32 write input).Owned := by
  refine state.iterate_preserves crc32 write (motive := Owned) ?_ input ?_ owned
  · intro sent running before
    exact ⟨before.decoded, before.distinct⟩
  · intro bytes past heap pkt code _ running decoded before
    have received : (state.receive crc32 bytes past heap).Owned := by
      refine ⟨fun place packet held => ?_, before.distinct⟩
      obtain ⟨reception, found, facts⟩ := before.decoded place packet held
      exact ⟨reception, getElem?_concat_eq_some.mpr (Or.inl found), facts⟩
    refine received.handle crc32 write ?_ ?_
    · intro ok type
      refine ⟨⟨bytes, past, heap, pkt, code⟩, ?_, ok, rfl, type⟩
      unfold ReceiverState.receive
      rw [decoded]
      exact List.getElem?_concat_length
    · intro place held found
      obtain ⟨reception, recorded, -⟩ := before.decoded place held found
      have inside := (List.getElem?_eq_some_iff.mp recorded).1
      exact Nat.ne_of_lt inside

theorem owned_run (inputs : List ReceiverInput) : ((receiverLoop crc32 write).run inputs).Owned :=
  (receiverLoop crc32 write).invariant owned_start
    (fun _ input before => owned_iterate crc32 write before input) inputs

/-! ## The record of decodings -/

theorem handle_receptions (packet : PktPtr) (code : PktStatus) :
    (state.handle crc32 write packet code).receptions = state.receptions :=
  handle_preserves crc32 write (motive := fun after => after.receptions = state.receptions)
    (fun _ _ _ _ _ before => before) (fun _ _ _ _ _ _ => rfl) (fun _ _ _ => rfl)
    (fun _ _ _ before _ _ => before) rfl

/-- An iteration records at most the decoding of what it received. -/
theorem iterate_receptions (input : ReceiverInput) :
    ∀ reception ∈ (state.iterate crc32 write input).receptions, reception ∈ state.receptions ∨
      input = .readable reception.bytes reception.past reception.heap := by
  refine state.iterate_preserves crc32 write (motive := fun after => ∀ reception ∈
    after.receptions, reception ∈ state.receptions ∨
      input = .readable reception.bytes reception.past reception.heap) ?_ input ?_ ?_
  · intro sent running before
    exact before
  · intro bytes past heap pkt code same running decoded before reception member
    rw [handle_receptions, receive, decoded] at member
    rcases List.mem_append.mp member with old | new
    · exact before reception old
    · rw [List.mem_singleton.mp new]
      exact Or.inr same
  · intro reception member
    exact Or.inl member

/-- The number of writes never goes down. -/
theorem writes_length_le (input : ReceiverInput) :
    state.writes.length ≤ (state.iterate crc32 write input).writes.length := by
  refine state.iterate_preserves crc32 write
    (motive := fun after => state.writes.length ≤ after.writes.length) ?_ input ?_ (Nat.le_refl _)
  · intro sent running before
    exact before
  · intro bytes past heap pkt code _ _ _ before
    refine handle_preserves crc32 write
      (motive := fun after => state.writes.length ≤ after.writes.length) ?_ ?_ ?_ ?_ before
    · intro reached len buffer running sent kept
      exact kept
    · intro _ _ _ index _ _
      exact before
    · intro _ _ _
      exact before.trans (List.prefix_append _ _).length_le
    · intro reached index packet kept _ _
      exact kept.trans (List.prefix_append _ _).length_le

theorem genuine_run (inputs : List ReceiverInput) :
    ∀ reception ∈ ((receiverLoop crc32 write).run inputs).receptions,
      reception.Genuine crc32 := by
  have both : ((receiverLoop crc32 write).run inputs).Clear ∧
      ∀ reception ∈ ((receiverLoop crc32 write).run inputs).receptions,
        reception.Genuine crc32 := by
    refine (receiverLoop crc32 write).invariant (motive := fun state => state.Clear ∧
      ∀ reception ∈ state.receptions, reception.Genuine crc32) ⟨clear_start, ?_⟩ ?_ inputs
    · intro reception member
      cases member
    · rintro state input ⟨clear, genuine⟩
      refine ⟨clear_iterate crc32 write clear input, ?_⟩
      refine state.iterate_preserves crc32 write
        (motive := fun after => ∀ reception ∈ after.receptions, reception.Genuine crc32)
        ?_ input ?_ genuine
      · intro sent running before
        exact before
      · intro bytes past heap pkt code _ running decoded before reception member
        rw [handle_receptions, receive, decoded, List.mem_append, List.mem_singleton] at member
        rcases member with old | rfl
        · exact before reception old
        · exact clear.genuine crc32 decoded
  exact both.2

end ReceiverState

/-- What a call of `recvfrom` returned, with the memory and the heap of that moment. -/
def ReceiverInput.reading : ReceiverInput → Option (Option Datagram × Memory × Heap)
  | .readable bytes past heap => some (bytes, past, heap)
  | _ => none

/-- The results of all calls of `recvfrom`. -/
def readings (inputs : List ReceiverInput) : List (Option Datagram × Memory × Heap) :=
  inputs.filterMap ReceiverInput.reading

theorem readings_concat (inputs : List ReceiverInput) (input : ReceiverInput) :
    readings (inputs ++ [input]) = readings inputs ++ input.reading.toList := by
  unfold readings
  rw [List.filterMap_append]
  cases input with
  | pollEnds => rfl
  | notReadable => rfl
  | readable bytes past heap => rfl

def Reception.reading (reception : Reception) : Option Datagram × Memory × Heap :=
  (reception.bytes, reception.past, reception.heap)

/-- The decodings follow the calls of `recvfrom` one by one until the loop is left. -/
theorem receptions_readings (crc32 : List UInt8 → UInt32) (write : ℕ → ℕ → ℤ)
    (inputs : List ReceiverInput) :
    let state := (receiverLoop crc32 write).run inputs
    state.receptions.map Reception.reading <+: readings inputs ∧
      (state.running = true → state.receptions.map Reception.reading = readings inputs) := by
  induction inputs using List.reverseRecOn with
  | nil => exact ⟨List.prefix_rfl, fun _ => rfl⟩
  | append_singleton inputs input ih =>
      rw [Machine.run_concat, readings_concat]
      obtain ⟨prefix_, same⟩ := ih
      generalize (receiverLoop crc32 write).run inputs = state at prefix_ same ⊢
      dsimp only [receiverLoop]
      cases running : state.running with
      | false =>
          simp only [ReceiverState.iterate, running, Bool.false_eq_true, if_false, false_implies,
            and_true]
          exact prefix_.trans (List.prefix_append _ _)
      | true =>
          have before := same running
          have after : (state.iterate crc32 write input).receptions.map Reception.reading =
              readings inputs ++ input.reading.toList := by
            cases input with
            | pollEnds => simpa [ReceiverState.iterate, running, ReceiverInput.reading] using before
            | notReadable => simpa [ReceiverState.iterate, running, ReceiverInput.reading] using before
            | readable bytes past heap =>
                rw [ReceiverState.iterate_readable crc32 write state bytes past heap running rfl,
                  ReceiverState.handle_receptions, ReceiverState.receive, List.map_append, before]
                rfl
          rw [after]
          exact ⟨List.prefix_rfl, fun _ => rfl⟩

/-- The packets handed to `write` are numbered consecutively modulo 256 and come from
different datagrams, each of which was accepted as DATA. -/
theorem delivery_in_order (crc32 : List UInt8 → UInt32) (write : ℕ → ℕ → ℤ)
    (inputs : List ReceiverInput) :
    let state := (receiverLoop crc32 write).run inputs
    (∀ k call, state.writes[k]? = some call → (pktGetSeqnum call.packet.pkt).toNat = k % 256) ∧
    state.seqnum.toNat = state.writes.length % 256 ∧
    ∃ origin : Fin state.writes.length → Fin (readings inputs).length,
      Function.Injective origin ∧
      ∀ k, ∃ datagram past heap before,
        (readings inputs).get (origin k) = (some datagram, past, heap) ∧
        (pktDecode crc32 heap (Memory.store before 0 (datagram.take maxPacketSize))
            (datagram.take maxPacketSize).length pktNew).val =
          ((state.writes.get k).packet.pkt, .pktOk) ∧
        pktGetType (state.writes.get k).packet.pkt = PType.ptypeData.value := by
  intro state
  have ordered := ReceiverState.ordered_run crc32 write inputs
  have owned := ReceiverState.owned_run crc32 write inputs
  have genuine := ReceiverState.genuine_run crc32 write inputs
  obtain ⟨rest, followed⟩ := (receptions_readings crc32 write inputs).1
  have at_ : ∀ k : Fin state.writes.length,
      state.place (.inr k) = some (state.writes.get k).packet := by
    intro k
    simp [ReceiverState.place]
  have origins : ∀ k : Fin state.writes.length, ∃ reception : Reception,
      (readings inputs)[(state.writes.get k).packet.addr]? = some reception.reading ∧
      reception.Genuine crc32 ∧ reception.code = .pktOk ∧
      reception.pkt = (state.writes.get k).packet.pkt ∧
      (state.writes.get k).packet.pkt.type = 1 := by
    intro k
    obtain ⟨reception, found, facts⟩ := owned.decoded _ _ (at_ k)
    refine ⟨reception, ?_, genuine reception (List.mem_of_getElem? found), facts⟩
    rw [← followed]
    have recorded : (state.receptions.map Reception.reading)[(state.writes.get k).packet.addr]? =
        some reception.reading := by
      rw [List.getElem?_map, found]
      rfl
    exact (List.getElem?_append_left (List.getElem?_eq_some_iff.mp recorded).1).trans recorded
  refine ⟨ordered.numbered, ordered.expected,
    fun k => ⟨(state.writes.get k).packet.addr, ?_⟩, ?_, ?_⟩
  · obtain ⟨reception, recorded, -⟩ := origins k
    exact (List.getElem?_eq_some_iff.mp recorded).1
  · intro first second same
    have places := owned.distinct _ _ _ _ (at_ first) (at_ second) (Fin.mk.inj same)
    exact Fin.ext (Sum.inr.inj places)
  · intro k
    obtain ⟨reception, recorded, real, ok, decoded, type⟩ := origins k
    obtain ⟨datagram, before, bytes, decoding⟩ := real ok
    refine ⟨datagram, reception.past, reception.heap, before, ?_, ?_,
      (pktGetType_eq_data _).mpr type⟩
    · rw [← bytes]
      exact (List.getElem?_eq_some_iff.mp recorded).2
    · rw [decoding, decoded]

end SelectiveRepeat.Receiver

import SelectiveRepeat.Receiver.Stream

/-!
# In-order delivery of a stream

When every write is complete and the arrivals come from one stream, the payloads
written are the stream itself as long as no copy is kept.  The last part is a run
in which one is: packet 2 is left in slot 0, which the restarted drain loop never
scans, is received again, and comes out once more as the 259th packet.
-/

namespace SelectiveRepeat.Receiver

open SelectiveRepeat.Foundations SelectiveRepeat.Packet SelectiveRepeat.Transport

/-- A `write` that always writes all its bytes. -/
def fullWrite (_call count : ℕ) : ℤ := count

/-- A full write of a DATA packet writes its payload. -/
theorem WriteCall.output_eq (crc32 : List UInt8 → UInt32) {call : WriteCall} {pkt : Pkt}
    (encodable : pkt.Encodable) (data : pkt.type = 1) (same : call.packet.pkt = pkt.onWire crc32)
    (full : call.size = (pktGetLength call.packet.pkt).toNat) : pkt.payload = some call.output := by
  rcases encodable.payload with ⟨payload, held, length, -, -⟩ | ⟨-, other⟩
  · have size : call.size.toNat = payload.length := by
      rw [full, same, length]
      rfl
    have written : pktGetPayload call.packet.pkt = some payload := by
      rw [same]
      exact held
    rw [held, WriteCall.output, written, Option.getD_some, size, List.take_length]
  · exact absurd data other

/-- An unbounded stream of DATA packets, numbered modulo 256. -/
structure DataStream where
  packet : ℕ → Pkt
  encodable : ∀ j, (packet j).Encodable
  data : ∀ j, (packet j).type = 1
  numbered : ∀ j, (packet j).seqnum.toNat = j % 256

namespace DataStream

variable (crc32 : List UInt8 → UInt32) (stream : DataStream)

def payload (j : ℕ) : List UInt8 := ((stream.packet j).payload).getD []

/-- The arrival of packet `j`. -/
abbrev arrival (j : ℕ) (past : Memory) : ReceiverInput :=
  .readable (some ((stream.packet j).wire crc32)) past Heap.plenty

/-- The packet is the decoding of packet `j`. -/
def Origin (j : ℕ) (pkt : Pkt) : Prop := pkt = (stream.packet j).onWire crc32

theorem origin_numbered (j : ℕ) (pkt : Pkt) (origin : stream.Origin crc32 j pkt) :
    pkt.seqnum.toNat = j % 256 := by
  rw [origin]
  exact stream.numbered j

end DataStream

variable (crc32 : List UInt8 → UInt32) (stream : DataStream)

/-- The inputs of a receiver whose datagrams all come from the stream, at most 128
before and less than 31 after the next packet to be written. -/
inductive Arrives (state : ReceiverState) : ReceiverInput → Prop where
  | pollEnds : Arrives state .pollEnds
  | notReadable : Arrives state .notReadable
  | datagram (j : ℕ) (past : Memory) (recent : state.writes.length ≤ j + 128)
      (near : j < state.writes.length + windowSize) :
      Arrives state (stream.arrival crc32 j past)

/-- The datagram of this input, if it is accepted as DATA, leaves no copy behind. -/
def LeavesNoCopy (state : ReceiverState) (input : ReceiverInput) : Prop :=
  ∀ bytes past heap pkt, input = .readable bytes past heap →
    state.decode crc32 bytes past heap = (pkt, .pktOk) →
    pktGetType pkt = PType.ptypeData.value → ¬ state.KeepsCopy (pktGetSeqnum pkt)

theorem Arrives.origin {state : ReceiverState} {bytes : Option Datagram} {past : Memory}
    {heap : Heap} (arrives : Arrives crc32 stream state (.readable bytes past heap)) {pkt : Pkt}
    {code : PktStatus} (decoded : state.decode crc32 bytes past heap = (pkt, code)) :
    ∃ j, state.writes.length ≤ j + 128 ∧ j < state.writes.length + windowSize ∧
      stream.Origin crc32 j pkt := by
  cases arrives with
  | datagram j _ recent near =>
      rw [state.decode_wire crc32 (stream.encodable j)] at decoded
      exact ⟨j, recent, near, (Prod.mk.inj decoded).1.symm⟩

/-! ## The invariants of the runs -/

theorem traced_run {inputs : List ReceiverInput}
    (arrivals : (receiverLoop crc32 fullWrite).Along (Arrives crc32 stream) .start inputs) :
    ReceiverState.Traced (stream.Origin crc32) ((receiverLoop crc32 fullWrite).run inputs) := by
  refine (receiverLoop crc32 fullWrite).invariant_along
    (motive := ReceiverState.Traced (stream.Origin crc32)) ReceiverState.traced_start ?_ arrivals
  intro state input traced arrives
  refine state.iterate_preserves crc32 fullWrite ?_ input ?_ traced
  · intro sent running before
    exact before.congr rfl rfl rfl
  · rintro bytes past heap pkt code rfl running decoded before
    obtain ⟨j, -, near, origin⟩ := arrives.origin crc32 stream decoded
    have received : ReceiverState.Traced (stream.Origin crc32)
        (state.receive crc32 bytes past heap) := before.congr rfl rfl rfl
    exact received.handle crc32 fullWrite (stream.origin_numbered crc32) fun _ _ =>
      ⟨j, near, origin⟩

theorem faithful_run {inputs : List ReceiverInput}
    (arrivals : (receiverLoop crc32 fullWrite).Along (Arrives crc32 stream) .start inputs)
    (single : (receiverLoop crc32 fullWrite).Along (LeavesNoCopy crc32) .start inputs) :
    ∃ limit, ReceiverState.Faithful (stream.Origin crc32) limit
      ((receiverLoop crc32 fullWrite).run inputs) := by
  have both : ((receiverLoop crc32 fullWrite).run inputs).Accounted ∧
      ∃ limit, ReceiverState.Faithful (stream.Origin crc32) limit
        ((receiverLoop crc32 fullWrite).run inputs) := by
    refine (receiverLoop crc32 fullWrite).invariant_along
      (motive := fun state => state.Accounted ∧
        ∃ limit, ReceiverState.Faithful (stream.Origin crc32) limit state)
      ⟨ReceiverState.accounted_start, 0, ReceiverState.faithful_start⟩ ?_ (arrivals.and single)
    rintro state input ⟨accounted, faithful⟩ ⟨arrives, clean⟩
    refine ⟨ReceiverState.accounted_iterate crc32 fullWrite accounted input, ?_⟩
    refine state.iterate_preserves crc32 fullWrite (motive := fun state =>
      ∃ limit, ReceiverState.Faithful (stream.Origin crc32) limit state) ?_ input ?_ faithful
    · rintro sent running ⟨limit, before⟩
      exact ⟨limit, before.congr rfl rfl rfl⟩
    · rintro bytes past heap pkt code rfl running decoded ⟨limit, before⟩
      obtain ⟨j, recent, near, origin⟩ := arrives.origin crc32 stream decoded
      -- the bound moves up to the packet that has arrived
      have extended := before.extend (Nat.le_max_left limit (j + 1)) (by
        have old := before.near
        omega)
      have received : ReceiverState.Faithful (stream.Origin crc32) (max limit (j + 1))
          (state.receive crc32 bytes past heap) := extended.congr rfl rfl rfl
      have still : (state.receive crc32 bytes past heap).Accounted := accounted
      refine ⟨_, received.handle crc32 fullWrite (stream.origin_numbered crc32) still ?_⟩
      rintro rfl data
      refine ⟨clean bytes past heap pkt rfl decoded ((pktGetType_eq_data pkt).mpr data), j, ?_,
        Nat.le_max_right _ _, origin⟩
      change state.writes.length ≤ _
      omega
  exact both.2

/-- Where every write comes from its own place in the stream, the output is the stream. -/
theorem output_eq_stream {inputs : List ReceiverInput}
    (written : ∀ k call, ((receiverLoop crc32 fullWrite).run inputs).writes[k]? = some call →
      stream.Origin crc32 k call.packet.pkt) :
    ((receiverLoop crc32 fullWrite).run inputs).writes.map WriteCall.output =
      (List.range ((receiverLoop crc32 fullWrite).run inputs).writes.length).map
        stream.payload := by
  have sized := ReceiverState.sized_run crc32 fullWrite inputs
  apply List.ext_getElem?
  intro k
  rw [List.getElem?_map, List.getElem?_map]
  cases found : ((receiverLoop crc32 fullWrite).run inputs).writes[k]? with
  | none =>
      have beyond := List.getElem?_eq_none_iff.mp found
      rw [List.getElem?_eq_none (by rw [List.length_range]; exact beyond)]
      rfl
  | some call =>
      have inside := (List.getElem?_eq_some_iff.mp found).1
      have payload := WriteCall.output_eq crc32 (stream.encodable k) (stream.data k)
        (written k call found) (sized k call found)
      rw [List.getElem?_range inside, Option.map_some, Option.map_some, DataStream.payload, payload,
        Option.getD_some]

/-- The payloads written are exactly the first ones of the stream, in order and each once,
in every run that keeps no copy, and in every run as long as at most 256 packets have
been written. -/
theorem stream_delivery (inputs : List ReceiverInput)
    (arrivals : (receiverLoop crc32 fullWrite).Along (Arrives crc32 stream) .start inputs)
    (single : (receiverLoop crc32 fullWrite).Along (LeavesNoCopy crc32) .start inputs ∨
      ((receiverLoop crc32 fullWrite).run inputs).writes.length ≤ 256) :
    ((receiverLoop crc32 fullWrite).run inputs).writes.map WriteCall.output =
      (List.range ((receiverLoop crc32 fullWrite).run inputs).writes.length).map
        stream.payload := by
  apply output_eq_stream
  rcases single with clean | short
  · obtain ⟨limit, faithful⟩ := faithful_run crc32 stream arrivals clean
    exact faithful.written
  · intro k call found
    have traced := traced_run crc32 stream arrivals
    obtain ⟨j, le, origin⟩ := traced.written k call found
    have inside := (List.getElem?_eq_some_iff.mp found).1
    have number := traced.ordered.numbered k call found
    rw [stream.origin_numbered crc32 j _ origin] at number
    have same : j = k := by omega
    rw [← same]
    exact origin

/-! ## Following a run -/

/-- The receiver after `count` writes, with the packets `held` of the stream in its slots. -/
structure At (count : ℕ) (held : Slots windowSize ℕ) (state : ReceiverState) : Prop where
  running : state.running = true
  accounted : state.Accounted
  ordered : state.Ordered
  count : state.writes.length = count
  slots : ∀ index, (state.receiverBuffer index).map PktPtr.pkt =
    (held index).map fun j => (stream.packet j).onWire crc32

namespace At

variable {crc32 stream} {count : ℕ} {held : Slots windowSize ℕ} {state : ReceiverState}

theorem start : At crc32 stream 0 Slots.empty .start :=
  ⟨rfl, ReceiverState.accounted_start, ReceiverState.ordered_start, rfl, fun _ => rfl⟩

/-- What a slot holds, as a packet of the stream. -/
theorem slot_eq_some (at_ : At crc32 stream count held state) {index : Fin windowSize}
    {packet : PktPtr} (found : state.receiverBuffer index = some packet) :
    ∃ j, held index = some j ∧ packet.pkt = (stream.packet j).onWire crc32 := by
  have same := at_.slots index
  rw [found] at same
  obtain ⟨j, heldEq, pkt⟩ := Option.map_eq_some_iff.mp same.symm
  exact ⟨j, heldEq, pkt.symm⟩

theorem slot_of_held (at_ : At crc32 stream count held state) {index : Fin windowSize} {j : ℕ}
    (heldEq : held index = some j) : ∃ packet, state.receiverBuffer index = some packet ∧
      packet.pkt = (stream.packet j).onWire crc32 := by
  have same := at_.slots index
  rw [heldEq] at same
  exact Option.map_eq_some_iff.mp same

theorem used (at_ : At crc32 stream count held state) : state.receiverBuffer.used = held.used := by
  unfold Slots.used
  congr 1
  ext index
  have same := congrArg Option.isSome (at_.slots index)
  rw [Option.isSome_map, Option.isSome_map] at same
  rw [Finset.mem_filter, Finset.mem_filter, same]

/-- The iteration on a packet of the stream. -/
theorem iterate (at_ : At crc32 stream count held state) (j : ℕ) (past : Memory) :
    state.iterate crc32 fullWrite
        (stream.arrival crc32 j past) =
      (state.receive crc32 (some ((stream.packet j).wire crc32)) past Heap.plenty).handle crc32
        fullWrite ⟨state.receptions.length, (stream.packet j).onWire crc32⟩ .pktOk :=
  state.iterate_readable crc32 fullWrite _ _ _ at_.running
    (state.decode_wire crc32 (stream.encodable j) past)

/-- Storing a packet of the stream in the first free slot. -/
theorem stored (at_ : At crc32 stream count held state) {index : Fin windowSize} {j : ℕ}
    (later : count % 256 < j % 256) (near : j % 256 + held.used < count % 256 + windowSize)
    (hole : held index = none)
    (first : ∀ before < index, ∃ i, held before = some i ∧ i % 256 ≠ j % 256) (past : Memory) :
    At crc32 stream count (held.put index j)
      (state.iterate crc32 fullWrite
        (stream.arrival crc32 j past)) := by
  have accounted := ReceiverState.accounted_iterate crc32 fullWrite at_.accounted
    (stream.arrival crc32 j past)
  have ordered := ReceiverState.ordered_iterate crc32 fullWrite at_.ordered
    (stream.arrival crc32 j past)
  have window := at_.accounted
  rw [ReceiverState.Accounted, at_.used] at window
  have expected := at_.ordered.expected
  rw [at_.count] at expected
  have number := stream.numbered j
  have free : state.receiverBuffer index = none := by
    have same := at_.slots index
    rw [hole] at same
    exact Option.map_eq_none_iff.mp same
  have others : ∀ before < index, ∃ found, state.receiverBuffer before = some found ∧
      found.pkt.seqnum ≠ (stream.packet j).seqnum := by
    intro before less
    obtain ⟨i, heldEq, apart⟩ := first before less
    obtain ⟨found, at_before, pkt⟩ := at_.slot_of_held heldEq
    refine ⟨found, at_before, fun same => apart ?_⟩
    rw [← number, ← same, pkt]
    exact (stream.numbered i).symm
  have inside : (state.receive crc32 (some ((stream.packet j).wire crc32)) past
      Heap.plenty).InWindow (stream.packet j).seqnum := by
    refine ⟨?_, UInt8.lt_iff_toNat_lt.mpr ?_⟩
    · change _ < state.seqnum.toNat + state.window.toNat
      omega
    · change state.seqnum.toNat < _
      omega
  have placed := (state.receive crc32 (some ((stream.packet j).wire crc32)) past
    Heap.plenty).storePacket_of_hole ⟨state.receptions.length, (stream.packet j).onWire crc32⟩
    free others
  rw [at_.iterate, ReceiverState.handle_of_inside crc32 fullWrite _ (stream.data j) inside,
    placed] at accounted ordered ⊢
  refine ⟨at_.running, accounted, ordered, at_.count, fun other => ?_⟩
  by_cases same : other = index
  · subst same
    change (state.receiverBuffer.put other _ other).map PktPtr.pkt = _
    rw [Slots.put_same, Slots.put_same]
    rfl
  · change (state.receiverBuffer.put index _ other).map PktPtr.pkt = _
    rw [Slots.put_of_ne _ _ same, Slots.put_of_ne _ _ same]
    exact at_.slots other

/-- The state between accepting the expected packet and the drain loop. -/
theorem accepted (at_ : At crc32 stream count held state) (bytes : Option Datagram)
    (past : Memory) (heap : Heap) (addr : ℕ) :
    At crc32 stream (count + 1) held ((state.receive crc32 bytes past heap).accept fullWrite
      ⟨addr, (stream.packet count).onWire crc32⟩) := by
  have expected : (stream.packet count).seqnum = state.seqnum := by
    apply UInt8.toNat_inj.mp
    rw [stream.numbered, at_.ordered.expected, at_.count]
  have ordered : ((state.receive crc32 bytes past heap).accept fullWrite
      ⟨addr, (stream.packet count).onWire crc32⟩).Ordered := at_.ordered.wrote expected rfl rfl
  refine ⟨at_.running, at_.accounted, ordered, ?_, at_.slots⟩
  exact (List.length_append).trans (by rw [List.length_singleton]; exact congrArg (· + 1) at_.count)

theorem iterate_expected (at_ : At crc32 stream count held state) (past : Memory) :
    ∃ middle, At crc32 stream (count + 1) held middle ∧
      state.iterate crc32 fullWrite
          (stream.arrival crc32 count past) =
        (middle.drain fullWrite 0).sendAck crc32 := by
  refine ⟨_, at_.accepted (some ((stream.packet count).wire crc32)) past Heap.plenty
    state.receptions.length, ?_⟩
  have expected : (stream.packet count).seqnum = state.seqnum := by
    apply UInt8.toNat_inj.mp
    rw [stream.numbered, at_.ordered.expected, at_.count]
  rw [at_.iterate]
  exact ReceiverState.handle_of_expected crc32 fullWrite _ (stream.data count) expected
    (Int.natCast_nonneg _)

/-- A delivery out of a slot. -/
theorem deliver (at_ : At crc32 stream count held state) {index : Fin windowSize}
    {packet : PktPtr} (found : state.receiverBuffer index = some packet)
    (expected : packet.pkt.seqnum = state.seqnum) :
    At crc32 stream (count + 1) (held.clear index) (state.deliver fullWrite index packet) := by
  refine ⟨at_.running, at_.accounted.deliver fullWrite found,
    at_.ordered.deliver fullWrite expected, ?_, fun other => ?_⟩
  · exact (List.length_append).trans
      (by rw [List.length_singleton]; exact congrArg (· + 1) at_.count)
  · change (state.receiverBuffer.clear index other).map PktPtr.pkt = _
    by_cases same : other = index
    · subst same
      rw [Slots.clear_same, Slots.clear_same]
      rfl
    · rw [Slots.clear_of_ne _ same, Slots.clear_of_ne _ same]
      exact at_.slots other

theorem sendAck (at_ : At crc32 stream count held state) :
    At crc32 stream count held (state.sendAck crc32) :=
  ⟨at_.running, at_.accounted, at_.ordered.congr rfl rfl, at_.count, at_.slots⟩

/-- The number in a slot, compared with the expected one. -/
theorem number_ne (at_ : At crc32 stream count held state) {index : Fin windowSize}
    (apart : ∀ j, held index = some j → j % 256 ≠ count % 256) (packet : PktPtr)
    (found : state.receiverBuffer index = some packet) : packet.pkt.seqnum ≠ state.seqnum := by
  obtain ⟨j, heldEq, pkt⟩ := at_.slot_eq_some found
  intro same
  apply apart j heldEq
  rw [← at_.count, ← at_.ordered.expected, ← same, pkt]
  exact (stream.numbered j).symm

/-- The expected packet arrives and the next one is in no slot. -/
theorem wrote (at_ : At crc32 stream count held state)
    (apart : ∀ index j, held index = some j → j % 256 ≠ (count + 1) % 256) (past : Memory) :
    At crc32 stream (count + 1) held
      (state.iterate crc32 fullWrite
        (stream.arrival crc32 count past)) := by
  obtain ⟨middle, at_middle, step⟩ := at_.iterate_expected past
  rw [step, middle.drain_eq_self fullWrite 0 fun index _ => at_middle.number_ne (apart index)]
  exact at_middle.sendAck

/-- The expected packet arrives and the next one is in a slot; the one after it is in
no slot that is still scanned. -/
theorem wrote_two (at_ : At crc32 stream count held state) {index : Fin windowSize} {j : ℕ}
    (heldEq : held index = some j) (next : j % 256 = (count + 1) % 256)
    (before : ∀ other < index, ∀ i, held other = some i → i % 256 ≠ (count + 1) % 256)
    (apart : ∀ other : Fin windowSize, 1 ≤ (other : ℕ) → other ≠ index →
      ∀ i, held other = some i → i % 256 ≠ (count + 2) % 256) (past : Memory) :
    At crc32 stream (count + 2) (held.clear index)
      (state.iterate crc32 fullWrite
        (stream.arrival crc32 count past)) ∧
    ∃ call, (state.iterate crc32 fullWrite
        (stream.arrival crc32 count past)).writes[count + 1]? =
        some call ∧ call.packet.pkt = (stream.packet j).onWire crc32 := by
  obtain ⟨middle, at_middle, step⟩ := at_.iterate_expected past
  obtain ⟨packet, found, pkt⟩ := at_middle.slot_of_held heldEq
  have expected : packet.pkt.seqnum = middle.seqnum := by
    apply UInt8.toNat_inj.mp
    rw [at_middle.ordered.expected, at_middle.count, ← next, pkt]
    exact stream.numbered j
  have delivered := at_middle.deliver found expected
  have rest : (middle.deliver fullWrite index packet).drain fullWrite 1 =
      middle.deliver fullWrite index packet := by
    refine ReceiverState.drain_eq_self fullWrite _ 1 fun other scanned =>
      delivered.number_ne fun i heldOther => ?_
    obtain ⟨different, old⟩ := Slots.of_clear_eq_some heldOther
    exact apart other scanned different i old
  rw [step, middle.drain_of_held fullWrite (Nat.zero_le _) found expected
    fun other _ less => at_middle.number_ne (before other less), rest]
  refine ⟨delivered.sendAck,
    ⟨packet, fullWrite middle.writes.length (pktGetLength packet.pkt).toNat⟩, ?_, pkt⟩
  exact getElem?_concat_eq_some.mpr (Or.inr ⟨at_middle.count.symm, rfl⟩)

theorem arrives (at_ : At crc32 stream count held state) (past : Memory) :
    Arrives crc32 stream state (stream.arrival crc32 count past) := by
  refine .datagram count past ?_ ?_
  · rw [at_.count]
    omega
  · rw [at_.count, windowSize]
    omega

/-- No copy is left of a packet whose number is in no slot. -/
theorem leavesNoCopy (at_ : At crc32 stream count held state) {j : ℕ}
    (absent : ∀ index i, held index = some i → i % 256 ≠ j % 256) (past : Memory) :
    LeavesNoCopy crc32 state (stream.arrival crc32 j past) := by
  rintro bytes past heap pkt ⟨⟩ decoded - ⟨⟨index, packet, found, same⟩, -⟩
  rw [state.decode_wire crc32 (stream.encodable j)] at decoded
  obtain ⟨rfl, -⟩ := Prod.mk.inj decoded
  obtain ⟨i, place, pkt⟩ := at_.slot_eq_some found
  have numbers := stream.numbered i
  have number := stream.numbered j
  rw [pkt] at same
  change (stream.packet i).seqnum = (stream.packet j).seqnum at same
  rw [same, number] at numbers
  exact absent index i place numbers.symm

/-- Packets that arrive in order while nothing in the slots is expected. -/
theorem in_order (at_ : At crc32 stream count held state) (n : ℕ)
    (apart : ∀ i < n, ∀ index j, held index = some j → j % 256 ≠ (count + i + 1) % 256)
    (past : Memory) :
    let inputs := (List.range n).map fun i =>
      stream.arrival crc32 (count + i) past
    At crc32 stream (count + n) held ((receiverLoop crc32 fullWrite).runFrom state inputs) ∧
      (receiverLoop crc32 fullWrite).Along (fun state input => ∃ i < n,
        At crc32 stream (count + i) held state ∧ input = stream.arrival crc32 (count + i) past)
        state inputs := by
  induction n with
  | zero => exact ⟨at_, trivial⟩
  | succ n ih =>
      obtain ⟨reached, along⟩ := ih fun i less => apart i (by omega)
      intro inputs
      have split : inputs = ((List.range n).map fun i => stream.arrival crc32 (count + i) past) ++
          [stream.arrival crc32 (count + n) past] := by
        simp only [inputs, List.range_succ, List.map_append, List.map_singleton]
      rw [split, Machine.runFrom_append, Machine.along_append]
      refine ⟨reached.wrote (apart n (by omega)) past, along.mono ?_, ⟨n, Nat.lt_succ_self n, reached,
        rfl⟩, trivial⟩
      rintro state input ⟨i, less, both⟩
      exact ⟨i, Nat.lt_succ_of_lt less, both⟩

end At

/-! ## A kept copy -/

/-- One-byte packets that carry the number of their round. -/
def roundStream : DataStream where
  packet j := ⟨0, 0, 1, UInt8.ofNat j, 1, 0, 0, some [UInt8.ofNat (j / 256)], 0⟩
  encodable _ := ⟨Or.inl rfl, fun _ => rfl,
    Or.inl ⟨_, rfl, rfl, Nat.le_refl 1, Nat.le_of_ble_eq_true rfl⟩⟩
  data _ := rfl
  numbered _ := UInt8.toNat_ofNat'

/-- The arrival of packet `j` of that stream. -/
abbrev roundArrival (j : ℕ) : ReceiverInput := roundStream.arrival zlibCrc32 j fun _ => 0

theorem arrives_round {state : ReceiverState} {count : ℕ} (counted : state.writes.length = count)
    (j : ℕ) (recent : count ≤ j + 128) (near : j < count + 31) :
    Arrives zlibCrc32 roundStream state (roundArrival j) := by
  subst counted
  exact .datagram j _ recent near

/-- Packets 2, 1, 0, packet 2 again, and then 3 to 257 in order. -/
def copyArrivals : List ReceiverInput :=
  [roundArrival 2, roundArrival 1, roundArrival 0, roundArrival 2] ++
    (List.range 254).map (fun i => roundArrival (3 + i)) ++ [roundArrival 257]

/-- The slots while the copy of packet 2 is kept. -/
def copySlots : Slots windowSize ℕ := ((Slots.empty.put 0 2).put 1 1).clear 1

theorem copySlots_eq_some {index : Fin windowSize} {j : ℕ} (held : copySlots index = some j) :
    index = 0 ∧ j = 2 := by
  obtain ⟨apart, old⟩ := Slots.of_clear_eq_some held
  rcases Slots.of_put_eq_some old with ⟨same, -⟩ | ⟨-, older⟩
  · exact absurd same apart
  · rcases Slots.of_put_eq_some older with new | ⟨-, none_⟩
    · exact new
    · cases none_

theorem before_one {before : Fin windowSize} (less : before < 1) : before = 0 :=
  Fin.ext (Nat.lt_one_iff.mp less)

/-- Two packets that arrive too early go to slots 0 and 1. -/
theorem two_buffered {a b : ℕ} (first : 0 < a ∧ a < 30) (second : 0 < b ∧ b < 30)
    (different : a ≠ b) :
    let step := ReceiverState.iterate zlibCrc32 fullWrite
    At zlibCrc32 roundStream 0 (Slots.empty.put 0 a) (step .start (roundArrival a)) ∧
      At zlibCrc32 roundStream 0 ((Slots.empty.put 0 a).put 1 b)
        (step (step .start (roundArrival a)) (roundArrival b)) := by
  intro step
  have window : windowSize = 31 := rfl
  have one_used : (Slots.empty.put 0 a : Slots windowSize ℕ).used = 1 := by
    rw [Slots.used_put rfl, Slots.used_empty]
  have at_start : At zlibCrc32 roundStream 0 Slots.empty .start := At.start
  have at_first : At zlibCrc32 roundStream 0 (Slots.empty.put 0 a) (step .start (roundArrival a)) :=
    at_start.stored (by omega) (by rw [Slots.used_empty]; omega) rfl
      (fun before less => absurd less (Fin.not_lt_zero before)) fun _ => 0
  have at_second : At zlibCrc32 roundStream 0 ((Slots.empty.put 0 a).put 1 b)
      (step (step .start (roundArrival a)) (roundArrival b)) :=
    at_first.stored (by omega) (by rw [one_used]; omega)
      (Slots.put_of_ne Slots.empty a (by decide))
      (fun before less => ⟨a, by rw [before_one less, Slots.put_same], by omega⟩) fun _ => 0
  exact ⟨at_first, at_second⟩

/-- The first four arrivals write packets 0 to 2 and leave packet 2 in slot 0. -/
theorem copy_kept :
    At zlibCrc32 roundStream 3 copySlots ((receiverLoop zlibCrc32 fullWrite).runFrom .start
        [roundArrival 2, roundArrival 1, roundArrival 0, roundArrival 2]) ∧
      (receiverLoop zlibCrc32 fullWrite).Along (Arrives zlibCrc32 roundStream) .start
        [roundArrival 2, roundArrival 1, roundArrival 0, roundArrival 2] := by
  have at_start : At zlibCrc32 roundStream 0 Slots.empty .start := At.start
  obtain ⟨at_two, at_one⟩ := two_buffered (a := 2) (b := 1) (by decide) (by decide) (by decide)
  -- packet 0 is written, then packet 1 out of slot 1, and slot 0 is not scanned again
  let step := ReceiverState.iterate zlibCrc32 fullWrite
  have at_zero : At zlibCrc32 roundStream 2 copySlots
      (step (step (step .start (roundArrival 2)) (roundArrival 1)) (roundArrival 0)) :=
    (at_one.wrote_two (Slots.put_same _ _ _) rfl (fun other less i held => by
      rw [before_one less, Slots.put_of_ne _ _ (by decide), Slots.put_same] at held
      obtain rfl := Option.some.inj held
      decide) (fun other scanned apart i held => by
      rw [Slots.put_of_ne _ _ apart, Slots.put_of_ne _ _ (by
        rintro rfl
        exact absurd scanned (by decide))] at held
      cases held) fun _ => 0).1
  have at_again : At zlibCrc32 roundStream 3 copySlots
      (step (step (step (step .start (roundArrival 2)) (roundArrival 1)) (roundArrival 0))
        (roundArrival 2)) :=
    at_zero.wrote (fun index j held => by rw [(copySlots_eq_some held).2]; decide) fun _ => 0
  simp only [Machine.runFrom_cons, Machine.runFrom_nil, Machine.along_cons, Machine.along_nil,
    receiverLoop_step]
  exact ⟨at_again, arrives_round at_start.count 2 (by omega) (by omega),
    arrives_round at_two.count 1 (by omega) (by omega),
    arrives_round at_one.count 0 (by omega) (by omega),
    arrives_round at_zero.count 2 (by omega) (by omega), trivial⟩

/-- Packet 1 arrives before packet 0, and then 298 packets arrive in order. -/
def earlyArrivals : List ReceiverInput :=
  [roundArrival 1, roundArrival 0] ++ (List.range 298).map fun i => roundArrival (2 + i)

/-- No copy is left in 300 packets. -/
theorem early_reached :
    At zlibCrc32 roundStream 300 ((Slots.empty.put 0 1).clear 0)
        ((receiverLoop zlibCrc32 fullWrite).run earlyArrivals) ∧
      (receiverLoop zlibCrc32 fullWrite).Along (Arrives zlibCrc32 roundStream) .start
        earlyArrivals ∧
      (receiverLoop zlibCrc32 fullWrite).Along (LeavesNoCopy zlibCrc32) .start earlyArrivals := by
  have at_start : At zlibCrc32 roundStream 0 Slots.empty .start := At.start
  have at_one : At zlibCrc32 roundStream 0 (Slots.empty.put 0 1)
      (ReceiverState.start.iterate zlibCrc32 fullWrite (roundArrival 1)) :=
    (two_buffered (b := 2) (by decide) (by decide) (by decide)).1
  have only : ∀ index i, (Slots.empty.put 0 1 : Slots windowSize ℕ) index = some i →
      index = 0 ∧ i = 1 := by
    intro index i place
    rcases Slots.of_put_eq_some place with both | ⟨-, none_⟩
    · exact both
    · cases none_
  have at_two := (at_one.wrote_two (Slots.put_same _ _ _) rfl
    (fun other less => absurd less (Fin.not_lt_zero other))
    (fun other _ apart i place => absurd (only other i place).1 apart) fun _ => 0).1
  have none_left : ∀ index i, ((Slots.empty.put 0 1).clear 0 : Slots windowSize ℕ) index ≠ some i :=
    fun index i place => by
      obtain ⟨apart, old⟩ := Slots.of_clear_eq_some place
      exact apart (only index i old).1
  obtain ⟨reached, along⟩ := at_two.in_order 298
    (fun _ _ index i place => absurd place (none_left index i)) fun _ => 0
  rw [show 0 + 2 + 298 = 300 from rfl] at reached
  rw [earlyArrivals, Machine.run_append, Machine.along_append, Machine.along_append]
  simp only [Machine.run, Machine.runFrom_cons, Machine.runFrom_nil, Machine.along_cons,
    Machine.along_nil, receiverLoop_start, receiverLoop_step, and_true]
  refine ⟨reached, ⟨⟨?_, ?_⟩, along.mono ?_⟩, ⟨?_, ?_⟩, along.mono ?_⟩
  · exact arrives_round at_start.count 1 (by omega) (by omega)
  · exact arrives_round at_one.count 0 (by omega) (by omega)
  · rintro state input ⟨i, -, at_, rfl⟩
    exact at_.arrives _
  · exact at_start.leavesNoCopy (fun index i place => by cases place) _
  · exact at_one.leavesNoCopy (fun index i place => by
      rw [(only index i place).2]
      exact Nat.one_ne_zero) _
  · rintro state input ⟨i, -, at_, rfl⟩
    exact at_.leavesNoCopy (fun index j place => absurd place (none_left index j)) _

/-- As long as few packets are written a copy does no harm, and without copies 300 packets are
written. -/
theorem stream_delivery_early :
    let few := (receiverLoop zlibCrc32 fullWrite).run
      [roundArrival 2, roundArrival 1, roundArrival 0, roundArrival 2]
    let many := (receiverLoop zlibCrc32 fullWrite).run earlyArrivals
    few.writes.map WriteCall.output = (List.range few.writes.length).map roundStream.payload ∧
      many.writes.length = 300 ∧
      many.writes.map WriteCall.output =
        (List.range many.writes.length).map roundStream.payload := by
  have few := copy_kept.1.count
  obtain ⟨reached, arrivals, clean⟩ := early_reached
  exact ⟨stream_delivery zlibCrc32 roundStream _ copy_kept.2 (Or.inr (few.trans_le (by omega))),
    reached.count, stream_delivery zlibCrc32 roundStream _ arrivals (Or.inl clean)⟩

/-- The kept copy of packet 2 is written as the 259th packet. -/
theorem stream_delivery_copy :
    (receiverLoop zlibCrc32 fullWrite).Along (Arrives zlibCrc32 roundStream) .start copyArrivals ∧
    ¬ ((receiverLoop zlibCrc32 fullWrite).run copyArrivals).writes.map WriteCall.output =
      (List.range ((receiverLoop zlibCrc32 fullWrite).run copyArrivals).writes.length).map
        roundStream.payload := by
  obtain ⟨kept, alongKept⟩ := copy_kept
  obtain ⟨ordered, alongOrdered⟩ := kept.in_order 254 (fun i less index j held => by
    rw [(copySlots_eq_some held).2]
    omega) fun _ => 0
  rw [show 3 + 254 = 257 from rfl] at ordered
  have at_copy : copySlots 0 = some 2 := by
    rw [copySlots, Slots.clear_of_ne _ (by decide), Slots.put_of_ne _ _ (by decide), Slots.put_same]
  obtain ⟨reached, call, written, pkt⟩ := ordered.wrote_two at_copy rfl
    (fun other less => absurd less (Fin.not_lt_zero other))
    (fun other _ apart i held => absurd (copySlots_eq_some held).1 apart) fun _ => 0
  have run : (receiverLoop zlibCrc32 fullWrite).run copyArrivals =
      ReceiverState.iterate zlibCrc32 fullWrite ((receiverLoop zlibCrc32 fullWrite).runFrom
        ((receiverLoop zlibCrc32 fullWrite).runFrom .start
          [roundArrival 2, roundArrival 1, roundArrival 0, roundArrival 2])
        ((List.range 254).map fun i => roundArrival (3 + i))) (roundArrival 257) := by
    rw [copyArrivals, Machine.run_concat, Machine.run_append, receiverLoop_step, Machine.run,
      receiverLoop_start]
  constructor
  · rw [copyArrivals, Machine.along_append, Machine.along_append, Machine.runFrom_append]
    refine ⟨⟨alongKept, alongOrdered.mono ?_⟩,
      arrives_round ordered.count 257 (by omega) (by omega), trivial⟩
    rintro state input ⟨i, -, at_, rfl⟩
    exact at_.arrives _
  · intro same
    have sized := ReceiverState.sized_run zlibCrc32 fullWrite copyArrivals
    rw [← run] at reached written
    have stale := congrArg (fun outputs => outputs[258]?) same
    simp only [List.getElem?_map, reached.count, Nat.reduceAdd] at stale written
    rw [written, List.getElem?_range (by decide), Option.map_some, Option.map_some,
      WriteCall.output, sized 258 call written, pkt] at stale
    exact absurd (Option.some.inj stale) (by decide)

end SelectiveRepeat.Receiver

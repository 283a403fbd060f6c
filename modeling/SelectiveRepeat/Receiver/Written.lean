import SelectiveRepeat.Receiver.Duplicate

/-!
# Short and failed writes

The direct write ends the loop when it fails; the writes of the drain loop only
report it, and the number of bytes written is never compared with the number asked
for.  The acknowledgements cover the lost bytes all the same.
-/

namespace SelectiveRepeat.Receiver

open SelectiveRepeat.Foundations SelectiveRepeat.Packet SelectiveRepeat.Transport

variable (crc32 : List UInt8 → UInt32) (write : ℕ → ℕ → ℤ)

/-- The whole payload of the packet was written by this call. -/
def WriteCall.Whole (call : WriteCall) : Prop :=
  pktGetPayload call.packet.pkt = some call.output

/-- A call of `write` that returns `size` writes the whole payload of the packet. -/
def Covers (packet : PktPtr) (size : ℤ) : Prop :=
  ∃ payload, pktGetPayload packet.pkt = some payload ∧ payload.length ≤ size.toNat

theorem WriteCall.whole_iff (call : WriteCall) : call.Whole ↔ Covers call.packet call.size := by
  unfold Whole Covers output
  cases pktGetPayload call.packet.pkt with
  | none => simp
  | some payload =>
      simp only [Option.getD_some, Option.some.injEq, exists_eq_left']
      constructor
      · intro same
        have length := congrArg List.length same
        rw [List.length_take] at length
        omega
      · intro enough
        exact (List.take_of_length_le enough).symm

/-! ## The packets of one iteration -/

/-- The packets that the drain loop takes out of the slots, from index `i` on. -/
def drained (buffer : Slots windowSize PktPtr) (number : UInt8) (i : ℕ) : List PktPtr :=
  if inside : i < windowSize then
    match held : buffer ⟨i, inside⟩ with
    | some packet =>
        if pktGetSeqnum packet.pkt = number then
          packet :: drained (buffer.clear ⟨i, inside⟩) (incSeqnum number) 1
        else drained buffer number (i + 1)
    | none => drained buffer number (i + 1)
  else []
termination_by (buffer.used, windowSize - i)
decreasing_by
  · have less := Slots.used_clear held
    exact Prod.Lex.left _ _ (by omega)
  · exact Prod.Lex.right _ (by omega)
  · exact Prod.Lex.right _ (by omega)

section Drained

variable {buffer : Slots windowSize PktPtr} {number : UInt8} {i : ℕ} (inside : i < windowSize)

theorem drained_expected {packet : PktPtr} (held : buffer ⟨i, inside⟩ = some packet)
    (same : packet.pkt.seqnum = number) : drained buffer number i =
      packet :: drained (buffer.clear ⟨i, inside⟩) (incSeqnum number) 1 := by
  rw [drained, dif_pos inside]
  split
  · rename_i found at_
    obtain rfl := Option.some.inj (held.symm.trans at_)
    exact if_pos same
  · rename_i hole
    rw [held] at hole
    cases hole

theorem drained_skip (other : ∀ packet, buffer ⟨i, inside⟩ = some packet →
    packet.pkt.seqnum ≠ number) : drained buffer number i = drained buffer number (i + 1) := by
  rw [drained, dif_pos inside]
  split
  · rename_i found at_
    exact if_neg (other found at_)
  · rfl

end Drained

/-- The calls of `write` for a list of packets, after some earlier calls. -/
def calls (earlier : ℕ) : List PktPtr → List WriteCall
  | [] => []
  | packet :: rest =>
      ⟨packet, write earlier (pktGetLength packet.pkt).toNat⟩ :: calls (earlier + 1) rest

theorem mem_calls (earlier : ℕ) {packets : List PktPtr} {call : WriteCall} :
    call ∈ calls write earlier packets ↔ ∃ k packet, packets[k]? = some packet ∧
      call = ⟨packet, write (earlier + k) (pktGetLength packet.pkt).toNat⟩ := by
  induction packets generalizing earlier with
  | nil => simp [calls]
  | cons first rest ih =>
      rw [calls, List.mem_cons, ih]
      constructor
      · rintro (rfl | ⟨k, packet, found, rfl⟩)
        · exact ⟨0, first, rfl, rfl⟩
        · exact ⟨k + 1, packet, found, by rw [Nat.add_assoc, Nat.add_comm 1 k]⟩
      · rintro ⟨k, packet, found, rfl⟩
        cases k with
        | zero =>
            rw [List.getElem?_cons_zero, Option.some.injEq] at found
            exact Or.inl (by rw [found]; rfl)
        | succ k =>
            rw [List.getElem?_cons_succ] at found
            exact Or.inr ⟨k, packet, found, by rw [Nat.add_assoc, Nat.add_comm 1 k]⟩

namespace ReceiverState

variable {state : ReceiverState}

/-- The drain loop calls `write` for the packets it takes out, and for no others. -/
theorem drain_writes (state : ReceiverState) (i : ℕ) :
    (state.drain write i).writes = state.writes ++
      calls write state.writes.length (drained state.receiverBuffer state.seqnum i) := by
  fun_induction drain write state i with
  | case1 state i inside packet held expected ih =>
      rw [ih, drained_expected inside held expected]
      change (state.writes ++ [_]) ++ calls write (state.writes ++ [_]).length
        (drained (state.receiverBuffer.clear ⟨i, inside⟩) (incSeqnum state.seqnum) 1) = _
      rw [List.append_assoc, List.length_append, List.length_singleton]
      rfl
  | case2 state i inside packet held other ih =>
      rw [ih, drained_skip inside fun found at_ => ?_]
      rw [held, Option.some.injEq] at at_
      rw [← at_]
      exact other
  | case3 state i inside hole ih =>
      rw [ih, drained_skip inside fun found at_ => ?_]
      rw [hole] at at_
      cases at_
  | case4 state i outside =>
      rw [drained, dif_neg outside]
      exact (List.append_nil _).symm

/-! ## One packet -/

/-- The expected packet is written without an error, and it or one of the packets drained
after it gets fewer bytes than its payload has. -/
def Loses (state : ReceiverState) (packet : PktPtr) : Prop :=
  pktGetSeqnum packet.pkt = state.seqnum ∧
    0 ≤ write state.writes.length (pktGetLength packet.pkt).toNat ∧
    ∃ k found, (packet :: drained state.receiverBuffer (incSeqnum state.seqnum) 0)[k]? =
        some found ∧
      ¬ Covers found (write (state.writes.length + k) (pktGetLength found.pkt).toNat)

/-- Nothing is acknowledged that was not written. -/
def AckWritten (state : ReceiverState) : Prop :=
  state.sent ≠ [] → ∀ call ∈ state.writes, call.Whole

/-- While the loop runs everything taken out so far was written. -/
def AllWhole (state : ReceiverState) : Prop :=
  state.running = true → ∀ call ∈ state.writes, call.Whole

theorem accept_drain_writes (state : ReceiverState) (packet : PktPtr) :
    ((state.accept write packet).drain write 0).writes = state.writes ++
      calls write state.writes.length
        (packet :: drained state.receiverBuffer (incSeqnum state.seqnum) 0) := by
  rw [drain_writes]
  change (state.writes ++ [_]) ++ calls write (state.writes ++ [_]).length
    (drained state.receiverBuffer (incSeqnum state.seqnum) 0) = _
  rw [List.append_assoc, List.length_append, List.length_singleton]
  rfl

/-- Everything taken out after an accepted packet was written exactly when no packet of the
iteration loses bytes. -/
theorem all_whole_iff (whole : ∀ call ∈ state.writes, call.Whole) {packet : PktPtr}
    (expected : packet.pkt.seqnum = state.seqnum)
    (success : 0 ≤ write state.writes.length packet.pkt.length.toNat) :
    (∀ call ∈ ((state.accept write packet).drain write 0).writes, call.Whole) ↔
      ¬ state.Loses write packet := by
  rw [accept_drain_writes]
  constructor
  · rintro all ⟨-, -, k, found, at_, short⟩
    have member := (mem_calls write state.writes.length).mpr ⟨k, found, at_, rfl⟩
    exact short ((WriteCall.whole_iff _).mp (all _ (List.mem_append_right _ member)))
  · intro none_lost call member
    rcases List.mem_append.mp member with old | new
    · exact whole call old
    · obtain ⟨k, found, at_, rfl⟩ := (mem_calls write _).mp new
      rw [WriteCall.whole_iff]
      by_contra short
      exact none_lost ⟨expected, success, k, found, at_, short⟩

/-- An iteration acknowledges lost bytes exactly when it takes a packet that loses some. -/
theorem ackWritten_handle (quiet : state.sent = []) (whole : ∀ call ∈ state.writes, call.Whole)
    (packet : PktPtr) (code : PktStatus) :
    ((state.handle crc32 write packet code).AckWritten ↔
        (code = .pktOk → packet.pkt.type = 1 → ¬ state.Loses write packet)) ∧
      ((state.handle crc32 write packet code).AckWritten →
        (state.handle crc32 write packet code).AllWhole) := by
  have outcome := state.handled crc32 write packet code
  generalize state.handle crc32 write packet code = after at outcome ⊢
  cases outcome with
  | refused bad =>
      exact ⟨iff_of_true (fun _ => whole) fun ok => absurd ok bad, fun _ _ => whole⟩
  | ignored ok other =>
      exact ⟨iff_of_true (fun _ => whole) fun _ data => absurd data other, fun _ _ => whole⟩
  | outside ok data unexpected out =>
      exact ⟨iff_of_true (fun _ => whole) fun _ _ loses => unexpected loses.1, fun _ _ => whole⟩
  | buffered ok data unexpected inside =>
      have same : ((state.storePacket packet).sendAck crc32).writes = state.writes := by
        change (state.storePacket packet).writes = _
        rw [state.storePacket_frame packet]
      refine ⟨iff_of_true (fun _ => ?_) fun _ _ loses => unexpected loses.1, fun _ _ => ?_⟩
      · rw [same]
        exact whole
      · rw [same]
        exact whole
  | failed ok data expected error =>
      refine ⟨iff_of_true (fun sent => absurd quiet sent) fun _ _ loses => ?_, fun _ left => ?_⟩
      · exact absurd loses.2.1 (not_le.mpr error)
      · cases left
  | drained ok data expected success =>
      have all := all_whole_iff write whole expected success
      have answered : (((state.accept write packet).drain write 0).sendAck crc32).sent ≠ [] :=
        List.append_ne_nil_of_right_ne_nil _ (List.cons_ne_nil _ _)
      refine ⟨⟨fun written _ _ => all.mp (written answered), fun clean _ => ?_⟩,
        fun written _ => ?_⟩
      · exact all.mpr (clean ok data)
      · exact written answered

/-! ## One iteration -/

/-- No packet accepted by this iteration loses bytes. -/
def LosesNothing (state : ReceiverState) (input : ReceiverInput) : Prop :=
  ∀ pkt, state.Accepts crc32 input pkt → ¬ state.Loses write ⟨state.receptions.length, pkt⟩

theorem ackWritten_iterate (whole : state.AllWhole) (input : ReceiverInput) :
    ((state.iterate crc32 write input).AckWritten ↔ state.LosesNothing crc32 write input) ∧
      ((state.iterate crc32 write input).AckWritten →
        (state.iterate crc32 write input).AllWhole) := by
  cases running : state.running with
  | false =>
      rw [iterate_idle crc32 write state (Or.inl running)]
      refine ⟨iff_of_true (fun sent => absurd rfl sent) ?_, fun _ left => by cases left⟩
      rintro pkt ⟨still, -⟩
      rw [running] at still
      cases still
  | true =>
      cases input with
      | pollEnds =>
          rw [iterate_idle crc32 write state (Or.inr rfl)]
          refine ⟨iff_of_true (fun sent => absurd rfl sent) ?_, fun _ left => by cases left⟩
          rintro pkt ⟨-, bytes, past, heap, other, -⟩
          cases other
      | notReadable =>
          have idle : state.iterate crc32 write .notReadable = { state with sent := [] } := by
            simp only [iterate, running, if_true]
          rw [idle]
          refine ⟨iff_of_true (fun sent => absurd rfl sent) ?_, fun _ left => whole left⟩
          rintro pkt ⟨-, bytes, past, heap, other, -⟩
          cases other
      | readable bytes past heap =>
          rcases decoded : state.decode crc32 bytes past heap with ⟨pkt, code⟩
          rw [iterate_readable crc32 write state bytes past heap running decoded]
          have handled := ackWritten_handle crc32 write
            (show (state.receive crc32 bytes past heap).sent = [] from rfl) (whole running)
            ⟨state.receptions.length, pkt⟩ code
          refine ⟨handled.1.trans ⟨?_, ?_⟩, handled.2⟩
          · rintro clean found ⟨-, bytes', past', heap', same, again, data⟩
            cases same
            rw [decoded] at again
            cases again
            exact clean rfl ((pktGetType_eq_data pkt).mp data)
          · rintro clean rfl data
            exact clean pkt ⟨running, bytes, past, heap, rfl, decoded,
              (pktGetType_eq_data pkt).mpr data⟩

end ReceiverState

/-- In a run every acknowledgement covers written bytes only, exactly when no accepted
packet loses bytes in its iteration. -/
theorem ack_written_iff (inputs : List ReceiverInput) :
    (receiverLoop crc32 write).Along (fun state input =>
        (state.iterate crc32 write input).AckWritten) .start inputs ↔
      (receiverLoop crc32 write).Along (fun state input => state.LosesNothing crc32 write input)
        .start inputs := by
  refine (receiverLoop crc32 write).along_congr (motive := ReceiverState.AllWhole) ?_ ?_ ?_ inputs
  · intro state input whole
    exact (state.ackWritten_iterate crc32 write whole input).1
  · intro state input whole
    exact (state.ackWritten_iterate crc32 write whole input).2
  · intro _ call member
    cases member

/-- Packet 1 of a stream, arriving first, waits in slot 0. -/
theorem first_waits (stream : DataStream) (past : Memory) :
    let after := ReceiverState.start.iterate crc32 write (stream.arrival crc32 1 past)
    after.running = true ∧ after.writes = [] ∧ after.seqnum = 0 ∧
      after.receiverBuffer 0 = some ⟨0, (stream.packet 1).onWire crc32⟩ := by
  intro after
  have decoded := ReceiverState.decode_wire crc32 .start (stream.encodable 1) past
  have number : (stream.packet 1).seqnum.toNat = 1 := stream.numbered 1
  have inside : (ReceiverState.start.receive crc32 (some ((stream.packet 1).wire crc32)) past
      Heap.plenty).InWindow (stream.packet 1).seqnum := by
    refine ⟨?_, UInt8.lt_iff_toNat_lt.mpr ?_⟩
    · rw [number]
      exact (by decide : 1 < 0 + 31)
    · rw [number]
      exact Nat.one_pos
  have placed := (ReceiverState.start.receive crc32 (some ((stream.packet 1).wire crc32)) past
    Heap.plenty).storePacket_of_hole ⟨0, (stream.packet 1).onWire crc32⟩ rfl
      fun before less => absurd less (Fin.not_lt_zero before)
  have same : after = ((ReceiverState.start.receive crc32 (some ((stream.packet 1).wire crc32)) past
      Heap.plenty).keep 0 ⟨0, (stream.packet 1).onWire crc32⟩).sendAck crc32 := by
    rw [← placed]
    exact (ReceiverState.iterate_readable crc32 write .start _ past _ rfl decoded).trans
      (ReceiverState.handle_of_inside crc32 write _ (stream.data 1) inside)
  rw [same]
  refine ⟨rfl, rfl, rfl, ?_⟩
  change ReceiverState.start.receiverBuffer.put 0 _ 0 = _
  exact Slots.put_same _ _ _

/-- The second call of `write` fails, all others are complete. -/
def failsOnce (call count : ℕ) : ℤ := if call = 1 then -1 else count

/-- Packet 1 waits in slot 0 when packet 0 arrives; its write fails, and number 2 is
acknowledged. -/
theorem ack_written_failed : ¬ ((receiverLoop zlibCrc32 failsOnce).run
    [roundArrival 1, roundArrival 0]).AckWritten := by
  simp only [Machine.run, Machine.runFrom_cons, Machine.runFrom_nil, receiverLoop_start,
    receiverLoop_step]
  obtain ⟨running, writes, seqnum, held⟩ := first_waits zlibCrc32 failsOnce roundStream fun _ => 0
  generalize ReceiverState.start.iterate zlibCrc32 failsOnce (roundArrival 1) = state
    at running writes seqnum held ⊢
  have whole : state.AllWhole := fun _ call member => by
    rw [writes] at member
    cases member
  rw [(state.ackWritten_iterate zlibCrc32 failsOnce whole _).1]
  intro clean
  have decoded := state.decode_wire zlibCrc32 (roundStream.encodable 0) fun _ => 0
  have type := roundStream.data 0
  have numbers := roundStream.numbered 0
  have next := roundStream.numbered 1
  refine clean ((roundStream.packet 0).onWire zlibCrc32) ⟨running, _, _, _, rfl, decoded,
    (pktGetType_eq_data _).mpr type⟩ ⟨?_, ?_, 1,
      ⟨0, (roundStream.packet 1).onWire zlibCrc32⟩, ?_, ?_⟩
  · rw [seqnum]
    exact UInt8.toNat_inj.mp numbers
  · rw [writes]
    exact Int.natCast_nonneg _
  · rw [drained_expected (i := 0) (by decide) held ?_]
    · rfl
    · rw [seqnum]
      exact UInt8.toNat_inj.mp next
  · rw [writes]
    rintro ⟨payload, same, enough⟩
    rw [show payload = [0] from (Option.some.inj same).symm] at enough
    exact absurd enough (by decide)

end SelectiveRepeat.Receiver

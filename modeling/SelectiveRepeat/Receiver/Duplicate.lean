import SelectiveRepeat.Receiver.Repeat

/-!
# Packets buffered twice

The store loop looks for the number of a packet and for a free slot in one pass.  A
free slot before the packet's own one takes a second copy; exactly those arrivals
break the rule that a buffered number changes nothing, besides those that are
expected and start a drain.
-/

namespace SelectiveRepeat.Receiver

open SelectiveRepeat.Foundations SelectiveRepeat.Packet SelectiveRepeat.Transport

variable (crc32 : List UInt8 → UInt32) (write : ℕ → ℕ → ℤ)

namespace ReceiverState

/-- Some slot holds the number. -/
def Holds (state : ReceiverState) (number : UInt8) : Prop :=
  ∃ index held, state.receiverBuffer index = some held ∧ held.pkt.seqnum = number

/-- No number is in two slots. -/
def SingleCopies (state : ReceiverState) : Prop :=
  Distinct (fun held : PktPtr => pktGetSeqnum held.pkt) state.receiverBuffer

/-- The loop runs and the input is a datagram accepted as this DATA packet. -/
def Accepts (state : ReceiverState) (input : ReceiverInput) (pkt : Pkt) : Prop :=
  state.running = true ∧ ∃ bytes past heap, input = .readable bytes past heap ∧
    state.decode crc32 bytes past heap = (pkt, .pktOk) ∧
    pktGetType pkt = PType.ptypeData.value

/-- A packet whose number is in a slot is stored once more, or it is the expected one, its
write does not fail, and the next packet is in a slot too. -/
def Doubles (state : ReceiverState) (pkt : Pkt) : Prop :=
  state.Holds (pktGetSeqnum pkt) ∧
    ((state.InWindow (pktGetSeqnum pkt) ∧ state.HoleFirst (pktGetSeqnum pkt)) ∨
      (pktGetSeqnum pkt = state.seqnum ∧
        0 ≤ write state.writes.length (pktGetLength pkt).toNat ∧
        state.Holds (incSeqnum state.seqnum)))

variable {state : ReceiverState}

/-! ## What the drain loop frees -/

/-- The first slot with a number. -/
theorem Holds.first {number : UInt8} (holds : state.Holds number) :
    ∃ index held, state.receiverBuffer index = some held ∧ held.pkt.seqnum = number ∧
      ∀ before < index, ∀ found, state.receiverBuffer before = some found →
        found.pkt.seqnum ≠ number := by
  obtain ⟨place, present, at_, same⟩ := holds
  cases first : state.receiverBuffer.firstWhere
      (fun slot => slot.any fun held => held.pkt.seqnum == number) with
  | none =>
      have fails := Slots.firstWhere_eq_none.mp first place
      rw [at_, Option.any_some, same, beq_self_eq_true] at fails
      cases fails
  | some index =>
      obtain ⟨passes, before⟩ := Slots.firstWhere_eq_some.mp first
      cases held : state.receiverBuffer index with
      | none =>
          rw [held] at passes
          cases passes
      | some entry =>
          rw [held, Option.any_some, beq_iff_eq] at passes
          refine ⟨index, entry, held, passes, fun earlier less found at_ equal => ?_⟩
          have fails := before earlier less
          rw [at_, Option.any_some, equal, beq_self_eq_true] at fails
          cases fails

/-- When the expected number is in a slot the drain loop frees one. -/
theorem Holds.drain_frees (holds : state.Holds state.seqnum) :
    (state.drain write 0).receiverBuffer ≠ state.receiverBuffer := by
  obtain ⟨index, packet, held, expected, before⟩ := holds.first
  rw [state.drain_of_held write (Nat.zero_le _) held expected fun other _ less => before other less]
  have freed : ((state.deliver write index packet).drain write 1).receiverBuffer index = none := by
    refine drain_preserves write (motive := fun after => after.receiverBuffer index = none) ?_
      (Slots.clear_same _ _) 1
    intro reached other packet kept _ _
    by_cases same : index = other
    · subst same
      exact Slots.clear_same _ _
    · exact (Slots.clear_of_ne _ same).trans kept
  intro unchanged
  rw [unchanged, held] at freed
  cases freed

/-! ## One packet -/

/-- A packet whose number is in a slot changes the slots or the window exactly when it
doubles. -/
theorem unchanged_iff {packet : PktPtr} (data : packet.pkt.type = 1)
    (holds : state.Holds packet.pkt.seqnum) :
    ((state.handle crc32 write packet .pktOk).receiverBuffer = state.receiverBuffer ∧
      (state.handle crc32 write packet .pktOk).window = state.window) ↔
      ¬ state.Doubles write packet.pkt := by
  have outcome := state.handled crc32 write packet .pktOk
  generalize state.handle crc32 write packet .pktOk = after at outcome ⊢
  cases outcome with
  | refused bad => exact absurd rfl bad
  | ignored ok other => exact absurd data other
  | outside ok data unexpected out =>
      refine iff_of_true ⟨rfl, rfl⟩ ?_
      rintro ⟨-, ⟨inside, -⟩ | ⟨expected, -⟩⟩
      · exact out inside
      · exact unexpected expected
  | buffered ok data unexpected inside =>
      by_cases hole : state.HoleFirst packet.pkt.seqnum
      · obtain ⟨index, free, first⟩ := hole
        rw [state.storePacket_of_hole packet free first]
        refine iff_of_false ?_ (not_not.mpr ⟨holds, Or.inl ⟨inside, index, free, first⟩⟩)
        rintro ⟨same, -⟩
        have filled := congrFun same index
        rw [free] at filled
        exact absurd ((Slots.put_same _ _ _).symm.trans filled) (Option.some_ne_none _)
      · rw [storePacket_eq_self hole]
        refine iff_of_true ⟨rfl, rfl⟩ ?_
        rintro ⟨-, ⟨-, found⟩ | ⟨expected, -⟩⟩
        · exact hole found
        · exact unexpected expected
  | failed ok data expected error =>
      refine iff_of_true ⟨rfl, rfl⟩ ?_
      rintro ⟨-, ⟨inside, -⟩ | ⟨-, success, -⟩⟩
      · exact UInt8.lt_irrefl _ (expected ▸ inside.2)
      · exact absurd success (not_le.mpr error)
  | drained ok data expected success =>
      by_cases next : state.Holds (incSeqnum state.seqnum)
      · refine iff_of_false ?_ (not_not.mpr ⟨holds, Or.inr ⟨expected, success, next⟩⟩)
        rintro ⟨same, -⟩
        have accepted : (state.accept write packet).Holds (state.accept write packet).seqnum := next
        exact accepted.drain_frees write same
      · rw [(state.accept write packet).drain_eq_self write 0
          fun index _ held found same => next ⟨index, held, found, same⟩]
        refine iff_of_true ⟨rfl, rfl⟩ ?_
        rintro ⟨-, ⟨inside, -⟩ | ⟨-, -, found⟩⟩
        · exact UInt8.lt_irrefl _ (expected ▸ inside.2)
        · exact next found

/-- Without a second copy the numbers in the slots stay distinct. -/
theorem SingleCopies.handle (single : state.SingleCopies) {packet : PktPtr} {code : PktStatus}
    (clean : code = .pktOk → packet.pkt.type = 1 → ¬ state.Doubles write packet.pkt) :
    (state.handle crc32 write packet code).SingleCopies := by
  refine handle_preserves crc32 write (motive := SingleCopies) ?_ ?_ ?_ ?_ single
  · intro state len buffer running sent before
    exact before
  · intro ok data inside index hole first
    have fresh : ∀ place held, state.receiverBuffer place = some held →
        pktGetSeqnum held.pkt ≠ pktGetSeqnum packet.pkt := fun place held found same =>
      clean ok data ⟨⟨place, held, found, same⟩, Or.inl ⟨inside, index, hole, first⟩⟩
    have added : ∀ place held, state.receiverBuffer.put index packet place = some held →
        (place = index ∧ held = packet) ∨ state.receiverBuffer place = some held := by
      intro place held found
      rcases Slots.of_put_eq_some found with new | ⟨-, old⟩
      · exact Or.inl new
      · exact Or.inr old
    exact Distinct.add single fresh added
  · intro _ _ _
    exact single
  · intro state index packet before held _
    exact Distinct.shrink before fun _ _ found => (Slots.of_clear_eq_some found).2

/-! ## One iteration -/

/-- A buffered number leaves the slots and the window as they are. -/
def KeepsSlots (state : ReceiverState) (input : ReceiverInput) : Prop :=
  ∀ pkt, state.Accepts crc32 input pkt → state.Holds (pktGetSeqnum pkt) →
    (state.iterate crc32 write input).receiverBuffer = state.receiverBuffer ∧
      (state.iterate crc32 write input).window = state.window

/-- The packet of this input does not double. -/
def Clean (state : ReceiverState) (input : ReceiverInput) : Prop :=
  ∀ pkt, state.Accepts crc32 input pkt → ¬ state.Doubles write pkt

theorem keepsSlots_iff (input : ReceiverInput) :
    state.KeepsSlots crc32 write input ↔ state.Clean crc32 write input := by
  have step : ∀ pkt, state.Accepts crc32 input pkt → state.Holds (pktGetSeqnum pkt) →
      (((state.iterate crc32 write input).receiverBuffer = state.receiverBuffer ∧
        (state.iterate crc32 write input).window = state.window) ↔ ¬ state.Doubles write pkt) := by
    rintro pkt ⟨running, bytes, past, heap, rfl, decoded, data⟩ holds
    rw [state.iterate_readable crc32 write bytes past heap running decoded]
    have received : (state.receive crc32 bytes past heap).Holds pkt.seqnum := holds
    exact unchanged_iff crc32 write ((pktGetType_eq_data pkt).mp data) received
  constructor
  · intro keeps pkt accepts doubles
    exact (step pkt accepts doubles.1).mp (keeps pkt accepts doubles.1) doubles
  · intro clean pkt accepts holds
    exact (step pkt accepts holds).mpr (clean pkt accepts)

theorem SingleCopies.iterate (single : state.SingleCopies) {input : ReceiverInput}
    (clean : state.Clean crc32 write input) : (state.iterate crc32 write input).SingleCopies := by
  refine state.iterate_preserves crc32 write (motive := SingleCopies) ?_ input ?_ single
  · intro sent running before
    exact before
  · rintro bytes past heap pkt code rfl running decoded before
    have received : (state.receive crc32 bytes past heap).SingleCopies := before
    refine received.handle crc32 write ?_
    rintro rfl data
    exact clean pkt ⟨running, bytes, past, heap, rfl, decoded, (pktGetType_eq_data pkt).mpr data⟩

end ReceiverState

/-- In a run the slots always hold distinct numbers and a buffered number never changes
anything, exactly when no packet doubles. -/
theorem single_copies_iff (inputs : List ReceiverInput) :
    (receiverLoop crc32 write).Along (fun state input =>
        (state.iterate crc32 write input).SingleCopies ∧ state.KeepsSlots crc32 write input)
        .start inputs ↔
      (receiverLoop crc32 write).Along (fun state input => state.Clean crc32 write input)
        .start inputs := by
  refine (receiverLoop crc32 write).along_congr (motive := ReceiverState.SingleCopies)
    ?_ ?_ ?_ inputs
  · intro state input single
    rw [ReceiverState.keepsSlots_iff]
    exact ⟨And.right, fun clean => ⟨single.iterate crc32 write clean, clean⟩⟩
  · intro state input _ kept
    exact kept.1
  · intro index _ held _ found
    cases found

/-- What the slots hold once packet 1 was delivered out of slot 0 from before packet 3. -/
theorem behind_hole_eq_some {index : Fin windowSize} {j : ℕ}
    (held : (((Slots.empty.put 0 1).put 1 3).clear 0 : Slots windowSize ℕ) index = some j) :
    index = 1 ∧ j = 3 := by
  obtain ⟨apart, old⟩ := Slots.of_clear_eq_some held
  rcases Slots.of_put_eq_some old with new | ⟨-, older⟩
  · exact new
  · rcases Slots.of_put_eq_some older with ⟨here, -⟩ | ⟨-, none_⟩
    · exact absurd here apart
    · cases none_

theorem At.not_singleCopies {crc32 : List UInt8 → UInt32} {stream : DataStream} {count j : ℕ}
    {held : Slots windowSize ℕ} {state : ReceiverState} (at_ : At crc32 stream count held state)
    {first second : Fin windowSize} (atFirst : held first = some j)
    (atSecond : held second = some j) (apart : first ≠ second) : ¬ state.SingleCopies := by
  obtain ⟨left, heldLeft, packetLeft⟩ := at_.slot_of_held atFirst
  obtain ⟨right, heldRight, packetRight⟩ := at_.slot_of_held atSecond
  intro single
  exact apart (single first second left right heldLeft heldRight
    (congrArg Pkt.seqnum (packetLeft.trans packetRight.symm)))

/-- Packets 1, 3, 0 and 3 again: slot 0 is free when packet 3 arrives the second time, and
slot 1 holds it already. -/
theorem single_copies_twice :
    ¬ ((receiverLoop zlibCrc32 fullWrite).run
      [roundArrival 1, roundArrival 3, roundArrival 0, roundArrival 3]).SingleCopies := by
  have at_start : At zlibCrc32 roundStream 0 Slots.empty .start := At.start
  let step := ReceiverState.iterate zlibCrc32 fullWrite
  have one_used : (Slots.empty.put 0 1 : Slots windowSize ℕ).used = 1 := by
    rw [Slots.used_put rfl, Slots.used_empty]
  have behind : (((Slots.empty.put 0 1).put 1 3).clear 0 : Slots windowSize ℕ).used = 1 := by
    have filled : ((Slots.empty.put 0 1).put 1 3 : Slots windowSize ℕ).used = 2 := by
      rw [Slots.used_put (Slots.put_of_ne _ _ (by decide)), one_used]
    have place : ((Slots.empty.put 0 1).put 1 3 : Slots windowSize ℕ) 0 = some 1 :=
      (Slots.put_of_ne _ _ (by decide)).trans (Slots.put_same _ _ _)
    have freed := Slots.used_clear place
    omega
  have at_one : At zlibCrc32 roundStream 0 (Slots.empty.put 0 1) (step .start (roundArrival 1)) :=
    at_start.stored (by decide) (by rw [Slots.used_empty]; decide) rfl
      (fun before less => absurd less (Fin.not_lt_zero before)) fun _ => 0
  have at_three : At zlibCrc32 roundStream 0 ((Slots.empty.put 0 1).put 1 3)
      (step (step .start (roundArrival 1)) (roundArrival 3)) :=
    at_one.stored (by decide) (by rw [one_used]; decide) (Slots.put_of_ne _ _ (by decide))
      (fun before less => ⟨1, by rw [before_one less, Slots.put_same], by decide⟩) fun _ => 0
  have at_zero : At zlibCrc32 roundStream 2 (((Slots.empty.put 0 1).put 1 3).clear 0)
      (step (step (step .start (roundArrival 1)) (roundArrival 3)) (roundArrival 0)) :=
    (at_three.wrote_two ((Slots.put_of_ne _ _ (by decide)).trans (Slots.put_same _ _ _)) rfl
      (fun other less => absurd less (Fin.not_lt_zero other))
      (fun other _ apart i held => by
        have place := (Slots.clear_of_ne _ apart).trans held
        rw [(behind_hole_eq_some place).2]
        decide) fun _ => 0).1
  have at_again : At zlibCrc32 roundStream 2 ((((Slots.empty.put 0 1).put 1 3).clear 0).put 0 3)
      (step (step (step (step .start (roundArrival 1)) (roundArrival 3)) (roundArrival 0))
        (roundArrival 3)) :=
    at_zero.stored (by decide) (by rw [behind]; decide) (Slots.clear_same _ _)
      (fun before less => absurd less (Fin.not_lt_zero before)) fun _ => 0
  simp only [Machine.run, Machine.runFrom_cons, Machine.runFrom_nil, receiverLoop_start,
    receiverLoop_step]
  exact at_again.not_singleCopies (Slots.put_same _ _ _) ((Slots.put_of_ne _ _ (by decide)).trans
    ((Slots.clear_of_ne _ (by decide)).trans (Slots.put_same _ _ _))) (by decide)

end SelectiveRepeat.Receiver

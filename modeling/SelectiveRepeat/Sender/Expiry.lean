import SelectiveRepeat.Sender.Overrun
import SelectiveRepeat.Sender.Traffic

/-!
# Expired packets

A packet carries the second of the minute in which it was created, and the loop under
`réenvoyer` compares this with the second of the minute it runs in.  So a packet waits
until the clock has passed its second in some minute, and one whose number lies above
the next number is not looked at at all.
-/

namespace SelectiveRepeat.Sender

open SelectiveRepeat.Foundations SelectiveRepeat.Packet SelectiveRepeat.Transport

variable (crc32 : List UInt8 → UInt32) (stdin : Bool)

/-! ## What is sent again -/

namespace SenderState

variable {state : SenderState}

/-- A loop that sends the packets passing a test sends one that passes it all along. -/
theorem sendLoop_reaches {Test : SenderState → PktPtr → Prop}
    [∀ state packet, Decidable (Test state packet)] (count : SenderState → ℕ)
    {index : Fin windowSize} {packet : PktPtr} (held : state.senderBuffer index = some packet)
    (passes : ∀ reached, Sends crc32 (fun _ => True) state reached → Test reached packet) :
    packet.pkt.wire crc32 ∈ (Slots.forEach senderBuffer (fun state _ packet =>
      if Test state packet then { state.transmit crc32 packet.pkt with count := count state }
      else state) state).sent := by
  have stays : ∀ reached, Sends crc32 (fun _ => True) state reached →
      reached.senderBuffer index = some packet := by
    intro reached sends
    rw [sends.senderBuffer]
    exact held
  refine Slots.forEach_reaches (fun reached => packet.pkt.wire crc32 ∈ reached.sent) stays ?_ ?_ ?_
    Sends.refl
  · intro reached other found sends at_
    split
    · exact sends.transmit at_ trivial (count reached)
    · exact sends
  · intro reached sends
    rw [if_pos (passes reached sends)]
    change _ ∈ (reached.transmit crc32 packet.pkt).sent
    rw [transmit_sent]
    exact List.mem_append_right _ (List.mem_singleton.mpr rfl)
  · intro reached other found member
    split
    · change _ ∈ (reached.transmit crc32 found.pkt).sent
      rw [transmit_sent]
      exact List.mem_append_left _ member
    · exact member

theorem fastRetransmit_reaches {index : Fin windowSize} {packet : PktPtr}
    (held : state.senderBuffer index = some packet) (repeated : 3 ≤ state.count)
    (due : state.fastDue packet) :
    packet.pkt.wire crc32 ∈ (state.fastRetransmit crc32).sent := by
  unfold fastRetransmit
  rw [if_pos repeated]
  refine sendLoop_reaches crc32 (fun _ => 0) held fun reached sends => ?_
  unfold fastDue at due ⊢
  rw [sends.frame]
  exact due

theorem resend_reaches {stamp : UInt32} {index : Fin windowSize} {packet : PktPtr}
    (held : state.senderBuffer index = some packet)
    (waiting : state.senderBufferSize.toNat < windowSize) (due : state.timerDue stamp packet) :
    packet.pkt.wire crc32 ∈ (state.resend crc32 stamp).sent := by
  unfold resend
  rw [if_pos waiting]
  refine sendLoop_reaches crc32 SenderState.count held fun reached sends => ?_
  unfold timerDue at due ⊢
  rw [sends.frame]
  exact due

/-- Every packet that is due is sent before the socket is looked at. -/
theorem again_reaches {event : SenderEvent} {index : Fin windowSize} {packet : PktPtr}
    (held : state.senderBuffer index = some packet) (due : state.Due secondOf event packet) :
    packet.pkt.wire crc32 ∈ (state.again crc32 secondOf event).sent := by
  have fast := fastRetransmit_sends crc32 { state with sent := [] }
  have timer := resend_sends crc32 (fastRetransmit crc32 { state with sent := [] })
    (secondOf event.now)
  rcases due with ⟨repeated, due⟩ | ⟨waiting, due⟩
  · obtain ⟨packets, sent, -⟩ := timer.sent
    have early : packet.pkt.wire crc32 ∈ (fastRetransmit crc32 { state with sent := [] }).sent :=
      fastRetransmit_reaches crc32 held repeated due
    unfold again
    rw [sent]
    exact List.mem_append_left _ early
  · have stays := (congrFun fast.senderBuffer index).trans held
    refine resend_reaches crc32 stays ?_ ?_
    · rw [fast.frame]
      exact waiting
    · unfold timerDue at due ⊢
      rw [fast.frame]
      exact due

/-- The iteration sends the packet before it looks at the file, where only new packets are
sent. -/
def SentAgain (state : SenderState) (event : SenderEvent) (packet : PktPtr) : Prop :=
  packet.pkt.wire crc32 ∈ (state.beforeFile crc32 secondOf event).sent

theorem beforeFile_sent (event : SenderEvent) :
    (state.beforeFile crc32 secondOf event).sent = (state.again crc32 secondOf event).sent := by
  rw [beforeFile_eq]
  refine socketBranch_preserves crc32 (motive := fun after =>
    after.sent = (state.again crc32 secondOf event).sent) ?_ ?_ ?_ rfl
  · intro after ack buffer1 before
    exact before
  · intro after before
    exact before
  · intro after bytes number _ _ before
    exact (after.acknowledge_acked number).sent.trans before

/-- A packet is sent again exactly when it is due. -/
theorem sentAgain_iff {event : SenderEvent} {index : Fin windowSize} {packet : PktPtr}
    (held : state.senderBuffer index = some packet) :
    state.SentAgain crc32 event packet ↔ state.Due secondOf event packet := by
  constructor
  · intro again
    obtain ⟨other, found, -, due, same⟩ :=
      (state.emitted_beforeFile crc32 secondOf event).sent _ again
    -- another packet with the same bytes has the same number and timestamp
    obtain ⟨seqnum, timestamp⟩ := Pkt.stamp_of_wire crc32 same
    unfold Due fastDue timerDue at due ⊢
    rw [pktGetSeqnum, pktGetTimestamp, seqnum, timestamp]
    exact due
  · intro due
    unfold SentAgain
    rw [beforeFile_sent]
    exact again_reaches crc32 held due

/-! ## What is created -/

/-- Every packet in a slot is the one recorded under its address. -/
def Recorded (state : SenderState) : Prop :=
  ∀ index packet, state.senderBuffer index = some packet →
    state.created[packet.addr]? = some packet.pkt

theorem Recorded.hold (recorded : state.Recorded) (index : Fin windowSize) (pkt : Pkt)
    (chunks : List (List UInt8)) :
    (SenderState.hold { state.create crc32 pkt with chunks := chunks } index
      ⟨state.created.length, pkt⟩).Recorded := by
  intro other packet held
  refine getElem?_concat_eq_some.mpr ?_
  rcases Slots.of_put_eq_some held with ⟨-, rfl⟩ | ⟨-, old⟩
  · exact Or.inr ⟨rfl, rfl⟩
  · exact Or.inl (recorded other packet old)

theorem Recorded.iterate (recorded : state.Recorded) (input : SenderInput) :
    (state.iterate crc32 secondOf stdin input).Recorded := by
  refine iterate_preserves crc32 secondOf stdin (motive := Recorded) ?_ input ?_ ?_ ?_ recorded
  · intro after count ack buffer1 exit sent before
    exact before
  · intro after event bytes number _ _ _ before index packet held
    rw [acknowledge_senderBuffer, Slots.discard_eq_some] at held
    rw [(after.acknowledge_acked number).created]
    exact before index packet held.1
  · intro event bytes _ _ _ _ _ _ before
    unfold sendChunk
    dsimp only
    split
    · rename_i index _
      exact before.hold crc32 index _ _
    · intro index packet held
      exact getElem?_concat_eq_some.mpr (Or.inl (before index packet held))
  · intro after stamp _ before
    exact before.hold crc32 _ _ after.chunks

theorem chunkPkt_timestamp (state : SenderState) (chunk : List UInt8) (stamp : UInt32)
    (heap : Heap) : (state.chunkPkt chunk stamp heap).timestamp = stamp := by
  unfold chunkPkt pktSetPayload
  split
  · rfl
  · rfl

/-- An iteration creates nothing, or one packet with the second of the minute. -/
theorem iterate_created (state : SenderState) (input : SenderInput) :
    (state.iterate crc32 secondOf stdin input).created = state.created ∨
      ∃ event pkt, input = .polled event ∧ pkt.timestamp = secondOf event.later ∧
        (state.iterate crc32 secondOf stdin input).created = state.created ++ [pkt] := by
  have outcome := state.iterated crc32 secondOf stdin input
  generalize state.iterate crc32 secondOf stdin input = after at outcome ⊢
  cases outcome with
  | left left => exact Or.inl rfl
  | pollEnds inLoop => exact Or.inl rfl
  | @failed event inLoop recv =>
      exact Or.inl (state.emitted_beforeFile crc32 secondOf event).created
  | @looked event _ inLoop stays outcome =>
      have same := (state.emitted_beforeFile crc32 secondOf event).created
      rw [← same]
      cases outcome with
      | idle => exact Or.inl rfl
      | failed => exact Or.inl rfl
      | ended read nothing size => exact Or.inl rfl
      | chunk mayRead read nonempty =>
          exact Or.inr ⟨event, _, rfl, chunkPkt_timestamp _ _ _ _,
            (sendChunk_creates crc32 _ _ _ _).created⟩
      | marker size =>
          exact Or.inr ⟨event, _, rfl, rfl, (sendMarker_creates crc32 _ _).created⟩

end SenderState

/-! ## Times of creation -/

/-- The loop beside the value of `time(0)` at the creation of each packet. -/
structure TimedState where
  sender : SenderState
  times : List ℕ

namespace TimedState

/-- The times of the packets that an iteration has created. -/
def newTimes (before after : SenderState) : SenderInput → List ℕ
  | .pollEnds => []
  | .polled event => List.replicate (after.created.length - before.created.length) event.later

def iterate (timed : TimedState) (input : SenderInput) : TimedState :=
  let after := timed.sender.iterate crc32 secondOf stdin input
  { sender := after, times := timed.times ++ newTimes timed.sender after input }

/-- The timestamps are the seconds of the times of creation. -/
structure Stamped (timed : TimedState) : Prop where
  recorded : timed.sender.Recorded
  length : timed.times.length = timed.sender.created.length
  stamps : ∀ (k : ℕ) (pkt : Pkt) (time : ℕ), timed.sender.created[k]? = some pkt →
    timed.times[k]? = some time → pkt.timestamp = secondOf time

variable {timed : TimedState}

theorem Stamped.iterate (stamped : timed.Stamped) (input : SenderInput) :
    (timed.iterate crc32 stdin input).Stamped := by
  have recorded := stamped.recorded.iterate crc32 stdin input
  rcases timed.sender.iterate_created crc32 stdin input with
    same | ⟨event, pkt, rfl, stamp, grown⟩
  · have times : (timed.iterate crc32 stdin input).times = timed.times := by
      unfold TimedState.iterate newTimes
      dsimp only
      rw [same, Nat.sub_self]
      cases input with
      | pollEnds => exact List.append_nil _
      | polled event => exact List.append_nil _
    refine ⟨recorded, ?_, fun k pkt time created at_ => ?_⟩
    · rw [times, stamped.length]
      exact congrArg List.length same.symm
    · rw [times] at at_
      exact stamped.stamps k pkt time (same ▸ created) at_
  · have times : (timed.iterate crc32 stdin (.polled event)).times =
        timed.times ++ [event.later] := by
      unfold TimedState.iterate newTimes
      dsimp only
      rw [grown, List.length_append, List.length_singleton, Nat.add_sub_cancel_left,
        List.replicate_one]
    refine ⟨recorded, ?_, fun k other time created at_ => ?_⟩
    · rw [times, List.length_append, stamped.length]
      exact (List.length_append.symm.trans (congrArg List.length grown.symm))
    · rw [times] at at_
      have created' : (timed.sender.created ++ [pkt])[k]? = some other := grown ▸ created
      rcases getElem?_concat_eq_some.mp created' with old | ⟨rfl, rfl⟩
      · rcases getElem?_concat_eq_some.mp at_ with earlier | ⟨beyond, -⟩
        · exact stamped.stamps k other time old earlier
        · have less := (List.getElem?_eq_some_iff.mp old).1
          rw [beyond, stamped.length] at less
          exact absurd less (Nat.lt_irrefl _)
      · rw [← stamped.length, List.getElem?_concat_length, Option.some.injEq] at at_
        rw [← at_]
        exact stamp

/-- In an iteration with packets to wait for, the condition holds of every packet created at
least a second before. -/
def ForExpired (Condition : SenderEvent → PktPtr → ℕ → Prop) (timed : TimedState)
    (input : SenderInput) : Prop :=
  ∀ event, input = .polled event → timed.sender.exit = none →
    timed.sender.senderBufferSize.toNat < windowSize → ∀ index packet time,
    timed.sender.senderBuffer index = some packet → timed.times[packet.addr]? = some time →
    time + 1 ≤ event.now → Condition event packet time

/-- Every expired packet is sent again. -/
def RetransmitsExpired (timed : TimedState) (input : SenderInput) : Prop :=
  timed.ForExpired (fun event packet _ => timed.sender.SentAgain crc32 event packet) input

/-- The clock has passed the packet's second in the current minute and the packet's number is
not above the next one, or three equal acknowledgements ask for the packet. -/
def InPhase (timed : TimedState) (input : SenderInput) : Prop :=
  timed.ForExpired (fun event packet time =>
    (time % 60 < event.now % 60 ∧ pktGetSeqnum packet.pkt ≤ timed.sender.seqnum) ∨
      (3 ≤ timed.sender.count ∧ (pktGetSeqnum packet.pkt).toNat = timed.sender.lastack)) input

theorem secondOf_lt {time now : ℕ} : secondOf time < secondOf now ↔ time % 60 < now % 60 := by
  have small : ∀ time, (secondOf time).toNat = time % 60 := fun time =>
    UInt32.toNat_ofNat_of_lt' ((Nat.mod_lt time (by decide)).trans (by decide))
  rw [UInt32.lt_iff_toNat_lt, small, small]

theorem Stamped.retransmits_iff (stamped : timed.Stamped) (input : SenderInput) :
    timed.RetransmitsExpired crc32 input ↔ timed.InPhase input := by
  refine forall₄_congr fun event same inLoop waiting => forall₄_congr fun index packet time held =>
    forall₂_congr fun created expired => ?_
  have stamp := stamped.stamps packet.addr packet.pkt time (stamped.recorded index packet held)
    created
  dsimp only
  rw [SenderState.sentAgain_iff crc32 held, SenderState.Due, SenderState.timerDue,
    SenderState.fastDue, pktGetTimestamp, stamp, secondOf_lt]
  constructor
  · rintro (fast | ⟨-, timer⟩)
    · exact Or.inr fast
    · exact Or.inl timer
  · rintro (timer | fast)
    · exact Or.inr ⟨waiting, timer⟩
    · exact Or.inl fast

end TimedState

/-- `read_write_loop` with the times of creation. -/
def timedLoop : Machine TimedState SenderInput where
  start := ⟨.start, []⟩
  step := TimedState.iterate crc32 stdin

theorem timedLoop_sender (inputs : List SenderInput) :
    ((timedLoop crc32 stdin).run inputs).sender =
      (readWriteLoop crc32 secondOf stdin).run inputs := by
  induction inputs using List.reverseRecOn with
  | nil => rfl
  | append_singleton inputs input ih =>
      rw [Machine.run_concat, Machine.run_concat, ← ih]
      rfl

theorem stamped_start : (timedLoop crc32 stdin).start.Stamped := by
  refine ⟨fun index packet held => ?_, rfl, fun k pkt time created _ => ?_⟩
  · cases held
  · cases created

/-- In a run every expired packet is always sent again, exactly when every expired packet is
in phase whenever an iteration starts. -/
theorem expired_retransmitted_iff (inputs : List SenderInput) :
    (timedLoop crc32 stdin).Along (TimedState.RetransmitsExpired crc32)
        (timedLoop crc32 stdin).start inputs ↔
      (timedLoop crc32 stdin).Along TimedState.InPhase (timedLoop crc32 stdin).start inputs :=
  (timedLoop crc32 stdin).along_congr (motive := TimedState.Stamped)
    (fun _ input stamped => stamped.retransmits_iff crc32 input)
    (fun _ input stamped _ => stamped.iterate crc32 stdin input) (stamped_start crc32 stdin) inputs

/-- What `time(0)` returns during an iteration. -/
def SenderInput.clock : SenderInput → List ℕ
  | .pollEnds => []
  | .polled event => [event.now, event.later]

/-- A chunk is read at a time when nothing is held. -/
def firstChunk (later : ℕ) : SenderInput :=
  .polled ⟨0, none, fun _ => 0, Heap.plenty, some (some [0]), later, Heap.plenty⟩

/-- The loop runs and has nothing to do but to send again. -/
def nothingNew (now : ℕ) : SenderInput :=
  .polled ⟨now, none, fun _ => 0, Heap.plenty, none, now, Heap.plenty⟩

/-- The packet of the first chunk is put into slot 0. -/
theorem SenderState.iterate_firstChunk (later : ℕ) :
    let pkt := SenderState.start.chunkPkt [0] (secondOf later) Heap.plenty
    SenderState.start.iterate crc32 secondOf stdin (firstChunk later) =
      SenderState.hold { SenderState.start.create crc32 pkt with chunks := [[0]] } 0 ⟨0, pkt⟩ := by
  have first : SenderState.start.iterate crc32 secondOf stdin (firstChunk later) =
      SenderState.sendChunk crc32 { SenderState.start with sent := [] } [0] (secondOf later)
        Heap.plenty :=
    SenderState.iterate_chunk crc32 secondOf stdin rfl (by decide) rfl (by decide) (by decide)
      (by decide)
  have hole : SenderState.start.senderBuffer 0 = none := rfl
  rw [SenderState.sendChunk_of_hole crc32 { SenderState.start with sent := [] } hole
    fun before less => absurd less (Fin.not_lt_zero before)] at first
  exact first

/-- After the first chunk its packet is in slot 0. -/
theorem firstChunk_held (later : ℕ) :
    let timed := (timedLoop crc32 stdin).step (timedLoop crc32 stdin).start (firstChunk later)
    timed.sender.exit = none ∧ timed.sender.senderBufferSize.toNat < windowSize ∧
      timed.sender.count = 0 ∧ timed.times = [later] ∧
      ∃ packet, timed.sender.senderBuffer 0 = some packet ∧ packet.addr = 0 ∧
        packet.pkt.timestamp = secondOf later := by
  intro timed
  have sender : timed.sender = _ := SenderState.iterate_firstChunk crc32 stdin later
  have times : timed.times = [later] := by
    change [] ++ TimedState.newTimes .start timed.sender (firstChunk later) = [later]
    rw [sender]
    rfl
  have counted : (UInt8.ofNat windowSize - 1).toNat < windowSize := by decide
  rw [sender]
  exact ⟨rfl, counted, rfl, times, ⟨0, SenderState.start.chunkPkt [0] (secondOf later) Heap.plenty⟩,
    Slots.put_same SenderState.start.senderBuffer 0 _, rfl, rfl⟩

/-- The packet created in second 59 is not sent in second 60. -/
theorem expired_not_retransmitted :
    ([firstChunk 59, nothingNew 60].flatMap SenderInput.clock).Pairwise (· ≤ ·) ∧
      ¬ (timedLoop zlibCrc32 true).Along (TimedState.RetransmitsExpired zlibCrc32)
        (timedLoop zlibCrc32 true).start [firstChunk 59, nothingNew 60] := by
  refine ⟨by decide, fun ⟨_, retransmits, _⟩ => ?_⟩
  obtain ⟨inLoop, waiting, count, times, packet, held, addr, stamp⟩ :=
    firstChunk_held zlibCrc32 true 59
  generalize (timedLoop zlibCrc32 true).step _ (firstChunk 59) = timed at *
  have again := retransmits _ rfl inLoop waiting 0 packet 59 held (by rw [times, addr]; rfl)
    (Nat.le_refl 60)
  rcases (SenderState.sentAgain_iff zlibCrc32 held).mp again with ⟨repeated, -⟩ | ⟨-, timer, -⟩
  · rw [count] at repeated
    exact absurd repeated (by decide)
  · rw [pktGetTimestamp, stamp] at timer
    exact absurd (TimedState.secondOf_lt.mp timer) (by decide)

end SelectiveRepeat.Sender

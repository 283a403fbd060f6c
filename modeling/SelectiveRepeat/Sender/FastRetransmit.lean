import SelectiveRepeat.Foundations.Observer
import SelectiveRepeat.Sender.Expiry

/-!
# Fast retransmission

`count` is incremented by every ACK that carries the number in `lastack` and is
cleared only when the block that tests it finds a packet with that number.  So it
keeps what it had when `lastack` changes, and an ACK 0 that comes first counts as
a repetition.
-/

namespace SelectiveRepeat.Sender

open SelectiveRepeat.Foundations SelectiveRepeat.Packet SelectiveRepeat.Transport

variable (crc32 : List UInt8 → UInt32) (tmSec : ℕ → UInt32) (stdin : Bool)

namespace SenderState

/-! ## The block and the acknowledgement of an iteration -/

/-- The fast-retransmit block sends something. -/
def fires (state : SenderState) : SenderInput → Bool
  | .pollEnds => false
  | .polled _ => decide (state.exit = none) &&
      !(fastRetransmit crc32 { state with sent := [] }).sent.isEmpty

/-- The number of the received datagram, if it is taken as an acknowledgement. -/
def ackNumber (state : SenderState) (bytes : Datagram) (past : Memory) (heap : Heap) :
    Option UInt8 :=
  let (buffer1, size) := fill state.buffer1 bytes
  let (ack, status) := (pktDecode crc32 heap (followedBy buffer1 past) size state.ack).val
  if status = .pktOk ∧ pktGetType ack = PType.ptypeAck.value then some (pktGetSeqnum ack)
  else none

/-- The number of the acknowledgement that an iteration takes. -/
def ackTaken (state : SenderState) : SenderInput → Option UInt8
  | .pollEnds => none
  | .polled event =>
      if state.exit = none then
        match event.recv with
        | some (some bytes) =>
            (state.again crc32 tmSec event).ackNumber crc32 bytes event.past event.heap
        | _ => none
      else none

variable {state : SenderState}

/-- The counter is cleared exactly when something is sent. -/
theorem fastRetransmit_count (state : SenderState) (clear : state.sent = []) :
    (state.fastRetransmit crc32).count =
      if (state.fastRetransmit crc32).sent.isEmpty then state.count else 0 := by
  have outcome : ((state.fastRetransmit crc32).sent = [] ∧
        (state.fastRetransmit crc32).count = state.count) ∨
      ((state.fastRetransmit crc32).sent ≠ [] ∧ (state.fastRetransmit crc32).count = 0) := by
    unfold fastRetransmit
    split
    · refine Slots.forEach_preserves (motive := fun reached : SenderState =>
        (reached.sent = [] ∧ reached.count = state.count) ∨
          (reached.sent ≠ [] ∧ reached.count = 0)) ?_ (Or.inl ⟨clear, rfl⟩)
      intro reached index packet before held
      split
      · refine Or.inr ⟨?_, rfl⟩
        change (reached.transmit crc32 packet.pkt).sent ≠ []
        rw [transmit_sent]
        exact List.append_ne_nil_of_right_ne_nil _ (List.cons_ne_nil _ _)
      · exact before
    · exact Or.inl ⟨clear, rfl⟩
  rcases outcome with ⟨silent, same⟩ | ⟨sent, zero⟩
  · rw [silent, same]
    rfl
  · rw [zero, if_neg]
    rw [List.isEmpty_iff]
    exact sent

/-- The block fires for a packet numbered `lastack`, once `count` has reached 3. -/
theorem fires_iff (event : SenderEvent) : state.fires crc32 (.polled event) = true ↔
    state.exit = none ∧ 3 ≤ state.count ∧
      ∃ index packet, state.senderBuffer index = some packet ∧ state.fastDue packet := by
  unfold fires
  rw [Bool.and_eq_true, decide_eq_true_eq, Bool.not_eq_true', List.isEmpty_eq_false_iff]
  refine and_congr_right fun inLoop => ?_
  constructor
  · intro sent
    obtain ⟨packets, same, due⟩ := (fastRetransmit_sends crc32 { state with sent := [] }).sent
    cases packets with
    | nil => exact absurd same sent
    | cons packet rest =>
        obtain ⟨⟨index, held⟩, repeated, matches_⟩ := due packet List.mem_cons_self
        exact ⟨repeated, index, packet, held, matches_⟩
  · rintro ⟨repeated, index, packet, held, due⟩
    have sent : packet.pkt.wire crc32 ∈ (fastRetransmit crc32 { state with sent := [] }).sent :=
      fastRetransmit_reaches crc32 held repeated due
    exact List.ne_nil_of_mem sent

/-! ## The counters after an iteration -/

/-- `count` after the block. -/
def countLeft (state : SenderState) (input : SenderInput) : ℕ :=
  if state.fires crc32 input then 0 else state.count

/-- What an iteration does to `lastack` and `count`. -/
inductive Counted (state : SenderState) (input : SenderInput) (after : SenderState) : Prop where
  | silent (taken : state.ackTaken crc32 tmSec input = none)
      (lastack : after.lastack = state.lastack)
      (count : after.count = state.countLeft crc32 input)
  | repeated {number : UInt8} (taken : state.ackTaken crc32 tmSec input = some number)
      (same : state.lastack = number.toNat) (lastack : after.lastack = number.toNat)
      (count : after.count = state.countLeft crc32 input + 1)
  | changed {number : UInt8} (taken : state.ackTaken crc32 tmSec input = some number)
      (new : state.lastack ≠ number.toNat) (lastack : after.lastack = number.toNat)
      (count : after.count = state.countLeft crc32 input)

theorem resend_count (stamp : UInt32) : (state.resend crc32 stamp).count = state.count := by
  unfold resend
  split
  · refine Slots.forEach_preserves
      (motive := fun reached : SenderState => reached.count = state.count) ?_ rfl
    intro reached index packet before held
    split
    · exact before
    · exact before
  · rfl

theorem again_count (inLoop : state.exit = none) (event : SenderEvent) :
    (state.again crc32 tmSec event).count = state.countLeft crc32 (.polled event) := by
  have block := fastRetransmit_count crc32 { state with sent := [] } rfl
  unfold again countLeft fires
  dsimp only
  rw [resend_count, block, decide_eq_true inLoop, Bool.true_and]
  cases (fastRetransmit crc32 { state with sent := [] }).sent.isEmpty with
  | true => rfl
  | false => rfl

/-- An ACK is counted when it carries the number in `lastack`. -/
theorem acknowledge_count (state : SenderState) (number : UInt8) :
    (state.acknowledge number).count =
      if state.lastack = number.toNat then state.count + 1 else state.count := by
  unfold acknowledge
  refine releaseAll_preserves (motive := fun reached : SenderState => reached.count =
    if state.lastack = number.toNat then state.count + 1 else state.count) number ?_ ?_
  · intro reached index packet same _ _
    exact same
  · split
    · rfl
    · rfl

/-- A received datagram is an acknowledgement with the number that is taken, or changes
nothing but `ack` and the buffer. -/
theorem receive_ackNumber (state : SenderState) (bytes : Datagram) (past : Memory)
    (heap : Heap) : ∃ ack buffer1, state.receive crc32 bytes past heap =
      match state.ackNumber crc32 bytes past heap with
      | some number => SenderState.acknowledge { state with ack := ack, buffer1 := buffer1 } number
      | none => { state with ack := ack, buffer1 := buffer1 } := by
  unfold receive ackNumber
  dsimp only
  split
  · exact ⟨_, _, rfl⟩
  · exact ⟨_, _, rfl⟩

/-- The file does not concern the counters. -/
theorem FileOutcome.counters {event : SenderEvent} {after : SenderState}
    (outcome : state.FileOutcome crc32 tmSec event after) :
    after.lastack = state.lastack ∧ after.count = state.count := by
  cases outcome with
  | idle => exact ⟨rfl, rfl⟩
  | failed => exact ⟨rfl, rfl⟩
  | ended read nothing size => exact ⟨rfl, rfl⟩
  | chunk mayRead read nonempty =>
      unfold sendChunk
      dsimp only
      split
      · exact ⟨rfl, rfl⟩
      · exact ⟨rfl, rfl⟩
  | marker size => exact ⟨rfl, rfl⟩

theorem beforeFile_counted (inLoop : state.exit = none) (event : SenderEvent) :
    state.Counted crc32 tmSec (.polled event) (state.beforeFile crc32 tmSec event) := by
  have count := again_count crc32 tmSec inLoop event
  have lastack : (state.again crc32 tmSec event).lastack = state.lastack := by
    rw [(again_sends crc32 tmSec state event).frame]
  have taken : ∀ result, event.recv = result → state.ackTaken crc32 tmSec (.polled event) =
      match result with
      | some (some bytes) =>
          (state.again crc32 tmSec event).ackNumber crc32 bytes event.past event.heap
      | _ => none := by
    rintro result rfl
    unfold ackTaken
    dsimp only
    rw [if_pos inLoop]
  rw [beforeFile_eq]
  generalize state.again crc32 tmSec event = reached at count lastack taken ⊢
  unfold socketBranch
  cases received : event.recv with
  | none => exact .silent (taken _ received) lastack count
  | some result =>
      cases result with
      | none => exact .silent (taken _ received) lastack count
      | some bytes =>
          have number := taken _ received
          obtain ⟨ack, buffer1, same⟩ :=
            receive_ackNumber crc32 reached bytes event.past event.heap
          dsimp only at number ⊢
          rw [same]
          cases got : reached.ackNumber crc32 bytes event.past event.heap with
          | none => exact .silent (number.trans got) lastack count
          | some acked =>
              have outcome := acknowledge_acked
                { reached with ack := ack, buffer1 := buffer1 } acked
              have counted := acknowledge_count
                { reached with ack := ack, buffer1 := buffer1 } acked
              by_cases repeated : state.lastack = acked.toNat
              · rw [if_pos (lastack.trans repeated)] at counted
                exact .repeated (number.trans got) repeated outcome.lastack
                  (counted.trans (congrArg (· + 1) count))
              · rw [if_neg (lastack.symm ▸ repeated)] at counted
                exact .changed (number.trans got) repeated outcome.lastack (counted.trans count)

/-- The counters are changed by the block and the acknowledgement only. -/
theorem iterate_counted (state : SenderState) (input : SenderInput) :
    state.Counted crc32 tmSec input (state.iterate crc32 tmSec stdin input) := by
  have outcome := state.iterated crc32 tmSec stdin input
  generalize state.iterate crc32 tmSec stdin input = after at outcome ⊢
  cases outcome with
  | left left =>
      cases input with
      | pollEnds => exact .silent rfl rfl rfl
      | polled event =>
          refine .silent ?_ rfl ?_
          · unfold ackTaken
            dsimp only
            rw [if_neg left]
          · unfold countLeft fires
            dsimp only
            rw [decide_eq_false left, Bool.false_and]
            rfl
  | pollEnds inLoop => exact .silent rfl rfl rfl
  | failed inLoop recv => exact beforeFile_counted crc32 tmSec inLoop _
  | looked inLoop stays outcome =>
      obtain ⟨lastack, count⟩ := outcome.counters
      cases beforeFile_counted crc32 tmSec inLoop _ with
      | silent taken last left => exact .silent taken (lastack.trans last) (count.trans left)
      | repeated taken same last left =>
          exact .repeated taken same (lastack.trans last) (count.trans left)
      | changed taken new last left =>
          exact .changed taken new (lastack.trans last) (count.trans left)

end SenderState

/-! ## Repetitions -/

/-- What is noted of the acknowledgements. -/
structure Repeats where
  /-- The number of the acknowledgement received last. -/
  previous : Option UInt8
  /-- How many acknowledgements with that number repeat the one before, since the block last
  sent something and since another number came. -/
  repeats : ℕ
  /-- `count` when `lastack` was last set by an acknowledgement that repeats none, unless the
  block has sent something since. -/
  carried : ℕ

/-- The block comes before the acknowledgement of the iteration. -/
def Repeats.note (noted : Repeats) (state : SenderState) (input : SenderInput) : Repeats :=
  let noted := if state.fires crc32 input then { noted with repeats := 0, carried := 0 } else noted
  match state.ackTaken crc32 tmSec input with
  | none => noted
  | some number =>
      if noted.previous = some number then { noted with repeats := noted.repeats + 1 }
      else ⟨some number, 0, (state.iterate crc32 tmSec stdin input).count⟩

/-- `read_write_loop` with what is noted of the acknowledgements. -/
def ackWatch : Machine (Observed SenderState Repeats) SenderInput :=
  (readWriteLoop crc32 tmSec stdin).observe ⟨none, 0, 0⟩ (Repeats.note crc32 tmSec stdin)

theorem ackWatch_state (inputs : List SenderInput) :
    ((ackWatch crc32 tmSec stdin).run inputs).state =
      (readWriteLoop crc32 tmSec stdin).run inputs :=
  Machine.observe_run_state _ _ _ inputs

/-- When the block sends something, the number in `lastack` was repeated three times. -/
def FiresOnRepeats (seen : Observed SenderState Repeats) (input : SenderInput) : Prop :=
  seen.state.fires crc32 input = true →
    3 ≤ seen.noted.repeats ∧
      ∃ number, seen.noted.previous = some number ∧ seen.state.lastack = number.toNat

/-- When the block sends something, `count` is at least 3 above what was carried over. -/
def NotCarried (seen : Observed SenderState Repeats) (input : SenderInput) : Prop :=
  seen.state.fires crc32 input = true → seen.noted.carried + 3 ≤ seen.state.count

/-- `count` is what was carried over and the repetitions since. -/
structure Tallied (seen : Observed SenderState Repeats) : Prop where
  last : ∀ number, seen.noted.previous = some number → seen.state.lastack = number.toNat
  none_ : seen.noted.previous = none → seen.noted.repeats = 0
  total : seen.state.count = seen.noted.carried + seen.noted.repeats

theorem tallied_start : Tallied (ackWatch crc32 tmSec stdin).start := by
  rw [ackWatch, Machine.observe_start]
  constructor
  · intro number none_
    cases none_
  · intro _
    rfl
  · rfl

variable {seen : Observed SenderState Repeats}

/-- After an acknowledgement that repeats none. -/
theorem tallied_carried {after : SenderState} {number : UInt8}
    (lastack : after.lastack = number.toNat) : Tallied ⟨after, some number, 0, after.count⟩ := by
  constructor
  · intro other found
    cases found
    exact lastack
  · intro none_
    cases none_
  · rfl

theorem Tallied.step (tallied : Tallied seen) (input : SenderInput) :
    Tallied ((ackWatch crc32 tmSec stdin).step seen input) := by
  have counted := seen.state.iterate_counted crc32 tmSec stdin input
  -- what the block leaves
  obtain ⟨noted, same, previous, zero, left⟩ : ∃ noted : Repeats,
      (if seen.state.fires crc32 input then { seen.noted with repeats := 0, carried := 0 }
        else seen.noted) = noted ∧ noted.previous = seen.noted.previous ∧
        (noted.previous = none → noted.repeats = 0) ∧
        seen.state.countLeft crc32 input = noted.carried + noted.repeats := by
    refine ⟨_, rfl, ?_⟩
    unfold SenderState.countLeft
    cases seen.state.fires crc32 input with
    | true => exact ⟨rfl, fun _ => rfl, rfl⟩
    | false => exact ⟨rfl, tallied.none_, tallied.total⟩
  rw [ackWatch, Machine.observe_step, readWriteLoop_step]
  unfold Repeats.note
  rw [same]
  generalize seen.state.iterate crc32 tmSec stdin input = after at counted ⊢
  cases counted with
  | silent taken lastack count =>
      dsimp only
      rw [taken]
      refine ⟨fun number found => ?_, zero, count.trans left⟩
      rw [lastack]
      exact tallied.last number (previous.symm.trans found)
  | @repeated number taken same lastack count =>
      dsimp only
      rw [taken]
      dsimp only
      split
      · rename_i again
        refine ⟨fun other found => ?_, fun none_ => ?_, ?_⟩
        · rw [again, Option.some.injEq] at found
          rw [← found]
          exact lastack
        · rw [again] at none_
          cases none_
        · dsimp only
          omega
      · exact tallied_carried lastack
  | @changed number taken new lastack count =>
      dsimp only
      rw [taken]
      dsimp only
      split
      · rename_i again
        exact absurd (tallied.last number (previous.symm.trans again)) new
      · exact tallied_carried lastack

theorem Tallied.fires_iff (tallied : Tallied seen) (input : SenderInput) :
    FiresOnRepeats crc32 seen input ↔ NotCarried crc32 seen input := by
  unfold FiresOnRepeats NotCarried
  refine imp_congr_right fun _ => ?_
  have total := tallied.total
  constructor
  · rintro ⟨three, -⟩
    omega
  · intro three
    refine ⟨by omega, ?_⟩
    cases previous : seen.noted.previous with
    | none =>
        have zero := tallied.none_ previous
        omega
    | some number => exact ⟨number, rfl, tallied.last number previous⟩

/-- In a run the block always fires on three repetitions of the number it sends, exactly when
`count` is always at least 3 above what was carried over to that number. -/
theorem fast_retransmit_iff (inputs : List SenderInput) :
    (ackWatch crc32 tmSec stdin).Along (FiresOnRepeats crc32) (ackWatch crc32 tmSec stdin).start
        inputs ↔
      (ackWatch crc32 tmSec stdin).Along (NotCarried crc32) (ackWatch crc32 tmSec stdin).start
        inputs :=
  (ackWatch crc32 tmSec stdin).along_congr (motive := Tallied)
    (fun _ input tallied => tallied.fires_iff crc32 input)
    (fun _ input tallied _ => tallied.step crc32 tmSec stdin input)
    (tallied_start crc32 tmSec stdin) inputs

/-! ## Three acknowledgements of nothing -/

/-- An acknowledgement with number 0 is received. -/
def ackZero : SenderInput :=
  .polled ⟨0, some (some (ackDatagram crc32 31 0)), fun _ => 0, Heap.plenty, none, 0, Heap.plenty⟩

theorem SenderState.ackNumber_of_takesAck {state : SenderState} {bytes : Datagram} {past : Memory}
    {heap : Heap} {number : UInt8} (takes : state.TakesAck crc32 bytes past heap number) :
    state.ackNumber crc32 bytes past heap = some number := by
  unfold SenderState.TakesAck at takes
  unfold SenderState.ackNumber
  dsimp only at takes ⊢
  rw [if_pos ⟨takes.1, takes.2.1⟩, takes.2.2]

/-- Packet 0 is held, and 0 was acknowledged `k` times. -/
structure Duplicated (k : ℕ) (seen : Observed SenderState Repeats) : Prop where
  inLoop : seen.state.exit = none
  lastack : seen.state.lastack = 0
  count : seen.state.count = k
  held : ∃ packet, seen.state.senderBuffer 0 = some packet ∧ packet.pkt.seqnum = 0
  previous : seen.noted.previous = if k = 0 then none else some 0
  repeats : seen.noted.repeats = k - 1

theorem Duplicated.ack {k : ℕ} (duplicated : Duplicated k seen) (few : k < 3)
    (empty : crc32 [] = 0) (zero : tmSec 0 = 0) :
    Duplicated (k + 1) ((ackWatch crc32 tmSec true).step seen (ackZero crc32)) := by
  obtain ⟨inLoop, lastack, count, held, previous, repeats⟩ := duplicated
  have low : seen.state.count < 3 := count.symm ▸ few
  have quiet : seen.state.fires crc32 (ackZero crc32) = false := by
    rw [Bool.eq_false_iff]
    intro fires
    have three := ((SenderState.fires_iff crc32 _).mp fires).2.1
    omega
  have taken : seen.state.ackTaken crc32 tmSec (ackZero crc32) = some 0 := by
    unfold SenderState.ackTaken ackZero
    dsimp only
    rw [if_pos inLoop, SenderState.again_quiet crc32 tmSec seen.state low zero]
    exact SenderState.ackNumber_of_takesAck crc32
      (SenderState.takesAck_ackDatagram crc32 _ empty 31 0 _)
  obtain ⟨ack, buffer1, stepped⟩ := SenderState.iterate_ack crc32 tmSec empty 0 0 (fun _ => 0)
    Heap.plenty 31 0 inLoop low zero
  rw [SenderState.acknowledge_idle _ _ fun index packet _ =>
    SenderState.acknowledged_eq_false.mpr (Or.inl (Nat.zero_le _))] at stepped
  have noted : (seen.noted.note crc32 tmSec true seen.state (ackZero crc32)).previous = some 0 ∧
      (seen.noted.note crc32 tmSec true seen.state (ackZero crc32)).repeats = k := by
    unfold Repeats.note
    rw [taken, quiet, if_neg Bool.false_ne_true]
    dsimp only
    cases k with
    | zero =>
        rw [previous, if_pos rfl, if_neg (Option.some_ne_none 0).symm]
        exact ⟨rfl, rfl⟩
    | succ k =>
        rw [previous, if_neg (Nat.succ_ne_zero k), if_pos rfl]
        exact ⟨rfl, congrArg (· + 1) repeats⟩
  have iterated : seen.state.iterate crc32 tmSec true (ackZero crc32) = _ := stepped
  have after : (ackWatch crc32 tmSec true).step seen (ackZero crc32) =
      ⟨seen.state.iterate crc32 tmSec true (ackZero crc32),
        seen.noted.note crc32 tmSec true seen.state (ackZero crc32)⟩ :=
    Machine.observe_step _ _ _ seen (ackZero crc32)
  rw [after, iterated]
  refine ⟨inLoop, rfl, ?_, held, ?_, noted.2⟩
  · exact (if_pos lastack).trans (congrArg (· + 1) count)
  · rw [if_neg (Nat.succ_ne_zero k)]
    exact noted.1

/-- Packet 0 is sent, and ACK 0 comes three times: two of them repeat the one before. -/
def twoRepeats : List SenderInput :=
  [firstChunk 0, ackZero zlibCrc32, ackZero zlibCrc32, ackZero zlibCrc32, nothingNew 0]

theorem duplicated_firstChunk : Duplicated 0
    ((ackWatch crc32 secondOf true).step (ackWatch crc32 secondOf true).start (firstChunk 0)) := by
  have after : (ackWatch crc32 secondOf true).step (ackWatch crc32 secondOf true).start
      (firstChunk 0) = ⟨SenderState.start.iterate crc32 secondOf true (firstChunk 0),
        (⟨none, 0, 0⟩ : Repeats)⟩ := rfl
  rw [after, SenderState.iterate_firstChunk crc32 true 0]
  exact ⟨rfl, rfl, rfl, ⟨_, Slots.put_same SenderState.start.senderBuffer 0 _, rfl⟩, rfl, rfl⟩

/-- The block fires after two repetitions. -/
theorem fast_retransmit_early : ¬ (ackWatch zlibCrc32 secondOf true).Along
    (FiresOnRepeats zlibCrc32) (ackWatch zlibCrc32 secondOf true).start twoRepeats := by
  rintro ⟨-, -, -, -, fires, -⟩
  have first := duplicated_firstChunk zlibCrc32
  generalize (ackWatch zlibCrc32 secondOf true).step _ (firstChunk 0) = seen at first fires
  have zero : secondOf 0 = 0 := rfl
  have third := ((first.ack zlibCrc32 secondOf (by decide) zlibCrc32_nil zero).ack zlibCrc32
    secondOf (by decide) zlibCrc32_nil zero).ack zlibCrc32 secondOf (by decide) zlibCrc32_nil zero
  generalize (ackWatch zlibCrc32 secondOf true).step _ (ackZero zlibCrc32) = seen at third fires
  obtain ⟨packet, held, number⟩ := third.held
  have early := fires ((SenderState.fires_iff zlibCrc32 _).mpr ⟨third.inLoop, third.count.ge, 0,
    packet, held, ?_⟩)
  · have repeats := third.repeats
    omega
  · rw [SenderState.fastDue, pktGetSeqnum, number, third.lastack]
    rfl

end SelectiveRepeat.Sender

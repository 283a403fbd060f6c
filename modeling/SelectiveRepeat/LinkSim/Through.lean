import Mathlib.Data.Multiset.Lattice
import SelectiveRepeat.LinkSim.Parties
import SelectiveRepeat.LinkSim.Schedule

/-!
# A packet that gets through

The rates are percentages, so `rand` may always spare a packet.  Where nothing waits, such
a packet leaves in the iteration that takes it, or in the first one after its delay.
-/

namespace SelectiveRepeat.LinkSim

open SelectiveRepeat.Foundations SelectiveRepeat.Transport

/-- An iteration with memory in which `rand` spares the packet that is received. -/
def spared (clock : Timespec) (recv : Option RecvResult) : LinkEvent :=
  ⟨some clock, recv, .spares, true, true⟩

/-- The options are percentages, and no call of `sendto` fails. -/
structure Link.Passable (link : Link) : Prop where
  lossRate : link.lossRate ≤ 100
  errRate : link.errRate ≤ 100
  sendto : ∀ call, link.sendto call = .done

/-- The program runs and no packet waits. -/
structure LinkState.Idle (state : LinkState) : Prop where
  running : state.running = true
  ordered : state.pktQueue.Ordered PktSlot.order
  empty : state.pktQueue.items = 0

variable {link : Link} {state : LinkState}

theorem not_lt_percent {rate : UInt32} (percentage : rate ≤ 100) : ¬ randPercent 100 < rate :=
  UInt32.not_lt.mpr percentage

theorem Link.Passable.dropped_spares (passable : link.Passable) :
    dropped link .spares = false := by
  unfold dropped
  rw [Bool.and_eq_false_iff, decide_eq_false_iff_not, decide_eq_false_iff_not]
  exact Or.inr (not_lt_percent passable.lossRate)

theorem Link.Passable.relayed_spares (passable : link.Passable) (buf : PktBuf) :
    relayed link .spares buf = buf :=
  if_neg fun corrupted => not_lt_percent passable.errRate corrupted.2

theorem writeOut_done (passable : link.Passable) (state : LinkState) (buf : PktBuf)
    (direction : Direction) : writeOut link state buf direction = ({ state with
      calls := state.calls ++ [⟨addrFor link state direction, direction, buf, state.lastClock,
        .done⟩] }, .done) := by
  unfold writeOut
  rw [passable.sendto]

/-! ## The queue -/

theorem deliverDelayedPkt_nothing (empty : state.pktQueue.items = 0) :
    deliverDelayedPkt link state = (state, false) := by
  rw [deliverDelayedPkt_eq, MinQueue.minqPeek_eq_none.mpr (MinQueue.items_eq_zero.mp empty)]

/-- The only packet of the queue is sent once it has expired. -/
theorem deliverDelayedPkt_single (passable : link.Passable)
    (ordered : state.pktQueue.Ordered PktSlot.order) {slot : PktSlot}
    (single : state.pktQueue.items = {slot}) (due : slot.Expired state.lastClock) :
    ∃ queue : MinQueue PktSlot, queue.Ordered PktSlot.order ∧ queue.items = 0 ∧
      deliverDelayedPkt link state = ({ state with
        pktQueue := queue
        calls := state.calls ++ [state.callFor link .done slot] }, false) := by
  have nonempty : state.pktQueue.size ≠ 0 := by
    intro zero
    rw [MinQueue.items_eq_zero.mpr zero] at single
    exact Multiset.singleton_ne_zero slot single.symm
  obtain ⟨heap, popped⟩ := ordered.pop pktSlotCmp pktSlotCmp_iff nonempty
  have root : state.pktQueue.e 0 = slot :=
    Multiset.mem_singleton.mp (single ▸ popped ▸ Multiset.mem_cons_self _ _)
  rw [single, root, ← Multiset.cons_zero, Multiset.cons_inj_right] at popped
  refine ⟨_, heap, popped.symm, ?_⟩
  rw [deliverDelayedPkt_eq, MinQueue.minqPeek_eq_some.mpr ⟨nonempty, root⟩]
  dsimp only
  rw [if_pos ((timevalCmp_iff _ _).mpr due), writeOut_done passable]
  exact deliverDelayedPkt_nothing popped.symm

/-- Once all packets of the queue have expired they are sent. -/
theorem deliverDelayedPkt_flush (passable : link.Passable) (state : LinkState)
    (ordered : state.pktQueue.Ordered PktSlot.order)
    (due : ∀ slot ∈ state.pktQueue.items, slot.Expired state.lastClock) :
    ∃ queue calls, queue.Ordered PktSlot.order ∧ queue.items = 0 ∧
      deliverDelayedPkt link state =
        ({ state with pktQueue := queue, calls := calls }, false) := by
  induction state using deliverDelayedPkt.induct link with
  | case1 state peeked =>
      have empty := MinQueue.items_eq_zero.mpr (MinQueue.minqPeek_eq_none.mp peeked)
      exact ⟨_, _, ordered, empty, deliverDelayedPkt_nothing empty⟩
  | case2 state p peeked expired again =>
      rw [writeOut_done passable] at again
      cases again
  | case3 state p peeked expired failed =>
      rw [writeOut_done passable] at failed
      cases failed
  | case4 state p peeked expired done ih =>
      obtain ⟨nonempty, root⟩ := MinQueue.minqPeek_eq_some.mp peeked
      obtain ⟨heap, popped⟩ := ordered.pop pktSlotCmp pktSlotCmp_iff nonempty
      obtain ⟨queue, calls, rest, empty, delivers⟩ := ih heap fun slot member => by
        refine due slot ?_
        rw [popped]
        exact Multiset.mem_cons_of_mem member
      refine ⟨queue, calls, rest, empty, ?_⟩
      rw [deliverDelayedPkt_eq, peeked]
      dsimp only
      rw [if_pos expired, done]
      exact delivers
  | case5 state p peeked early =>
      have least := MinQueue.peek_least ordered peeked
      exact absurd ((timevalCmp_iff _ _).mpr (due p least.1)) early

theorem expired_of_sec {slot : PktSlot} {clock : Timespec} (less : slot.ts.sec < clock.sec) :
    slot.Expired (updateTime clock) :=
  (Prod.Lex.toLex_lt_toLex).mpr (Or.inl less)

/-- A delay is less than ten seconds, and so is its part in microseconds. -/
theorem expired_of_later {first second : Timespec} (wait : first.sec + 11 ≤ second.sec)
    (luck : Luck) (parcel : Parcel) : PktSlot.Expired
      ⟨expiration (updateTime first) (appliedDelay link luck), parcel.1, parcel.2⟩
      (updateTime second) := by
  have short := appliedDelay_lt link luck
  refine expired_of_sec ?_
  unfold expiration updateTime
  dsimp only
  omega

/-! ## Two iterations -/

theorem iterate_spared (running : state.running = true) (clock : Timespec)
    (recv : Option RecvResult) : state.iterate link (.woken (spared clock recv)) =
      state.wake link (spared clock recv) clock := by
  unfold LinkState.iterate
  rw [if_pos running]
  rfl

/-- An iteration that receives nothing delivers what is due. -/
theorem wake_silent {clock : Timespec} {after : LinkState}
    (delivers : deliverDelayedPkt link (state.at clock) = (after, false)) :
    state.wake link (spared clock none) clock = after := by
  change deliverDelayedPkt link { state with lastClock := updateTime clock } = _ at delivers
  unfold LinkState.wake
  rw [delivers]
  rfl

/-- An iteration without a packet to deliver takes the one that is received. -/
theorem wake_takes (empty : state.pktQueue.items = 0) (clock : Timespec) (recv : RecvResult) :
    state.wake link (spared clock (some recv)) clock =
      let processed := processIncomingPkt link (spared clock (some recv)) (state.at clock) recv
      { processed.1 with running := !processed.2 } := by
  have nothing : deliverDelayedPkt link { state with lastClock := updateTime clock } =
      (state.at clock, false) := deliverDelayedPkt_nothing empty
  unfold LinkState.wake
  rw [nothing]
  rfl

theorem tracked_at (state : LinkState) (clock : Timespec) (recv : RecvResult) :
    tracked (state.at clock) recv = (tracked state recv).at clock := by
  cases recv with
  | again => rfl
  | failed => rfl
  | datagram sender datagram =>
      unfold tracked trackSource
      dsimp only
      split
      · change (if state.hasSourceAddr then _ else _) = _
        split
        · rfl
        · rfl
      · rfl

/-- A packet that is spared is sent, or put into the queue. -/
theorem passOn_spared (passable : link.Passable)
    (ordered : state.pktQueue.Ordered PktSlot.order) (empty : state.pktQueue.items = 0)
    (clock : Timespec) (recv : Option RecvResult) (parcel : Parcel) :
    passOn link (spared clock recv) state parcel.2 parcel.1 =
        ((writeOut link state parcel.2 parcel.1).1, false) ∨
      ∃ queue : MinQueue PktSlot, queue.Ordered PktSlot.order ∧
        queue.items = {⟨expiration state.lastClock (appliedDelay link .spares), parcel.1,
          parcel.2⟩} ∧
        passOn link (spared clock recv) state parcel.2 parcel.1 =
          ({ state with pktQueue := queue }, false) := by
  have written := writeOut_done passable state parcel.2 parcel.1
  unfold passOn simulateLink spared
  dsimp only
  rw [passable.dropped_spares, passable.relayed_spares, written]
  split
  · rw [if_neg Bool.false_ne_true]
    split
    · let slot : PktSlot := ⟨expiration state.lastClock (appliedDelay link .spares), parcel.1,
        parcel.2⟩
      obtain ⟨heap, ⟨ok, items⟩ | ⟨-, refused, -⟩⟩ :=
        ordered.push pktSlotCmp pktSlotCmp_iff true slot
      · rw [empty] at items
        refine Or.inr ⟨_, heap, items, ?_⟩
        simp [slot, ok]
      · exact absurd refused (by decide)
    · exact Or.inl rfl
  · exact Or.inl rfl

variable (link) in
/-- The packet that was taken has been sent, or it waits alone. -/
structure Took (taken : LinkState) (clock : Timespec) (parcel : Parcel) (next : LinkState) :
    Prop where
  running : next.running = true
  srcAddr : next.srcAddr = taken.srcAddr
  hasSourceAddr : next.hasSourceAddr = taken.hasSourceAddr
  ordered : next.pktQueue.Ordered PktSlot.order
  outcome : next.pktQueue.items = 0 ∧ next.calls = taken.calls ++
      [⟨addrFor link taken parcel.1, parcel.1, parcel.2, updateTime clock, .done⟩] ∨
    next.calls = taken.calls ∧ next.pktQueue.items =
      {⟨expiration (updateTime clock) (appliedDelay link .spares), parcel.1, parcel.2⟩}

theorem LinkState.Idle.takes (passable : link.Passable) (idle : state.Idle) {recv : RecvResult}
    {parcel : Parcel} (offer : offered link state recv = some parcel) (clock : Timespec) :
    Took link (tracked state recv) clock parcel
      (state.iterate link (.woken (spared clock (some recv)))) := by
  have same := tracked_eq state recv
  have src : (state.at clock).srcAddr = state.srcAddr := rfl
  have has : (state.at clock).hasSourceAddr = state.hasSourceAddr := rfl
  have running : (tracked state recv).running = true := by rw [same, idle.running]
  have queue : (tracked state recv).pktQueue = state.pktQueue := by rw [same]
  have ordered : ((tracked state recv).at clock).pktQueue.Ordered PktSlot.order :=
    queue ▸ idle.ordered
  have empty : ((tracked state recv).at clock).pktQueue.items = 0 := queue ▸ idle.empty
  rw [iterate_spared idle.running, wake_takes idle.empty, processIncomingPkt_eq,
    offered_congr link src has recv, offer, tracked_at]
  dsimp only
  rcases passOn_spared passable ordered empty clock (some recv) parcel with
    passed | ⟨waiting, heap, single, passed⟩
  · rw [passed, writeOut_done passable]
    exact ⟨rfl, rfl, rfl, ordered, Or.inl ⟨empty, rfl⟩⟩
  · rw [passed]
    exact ⟨rfl, rfl, rfl, heap, Or.inr ⟨rfl, single⟩⟩

/-- In the next iteration the packet has been sent on, and again nothing waits. -/
theorem Took.passes (passable : link.Passable) {taken next : LinkState} {parcel : Parcel}
    {first second : Timespec} (took : Took link taken first parcel next)
    (wait : first.sec + 11 ≤ second.sec) :
    let after := next.iterate link (.woken (spared second none))
    after.Idle ∧ after.srcAddr = taken.srcAddr ∧ after.hasSourceAddr = taken.hasSourceAddr ∧
      ∃ time, after.calls = taken.calls ++
        [⟨addrFor link taken parcel.1, parcel.1, parcel.2, time, .done⟩] := by
  have ordered : (next.at second).pktQueue.Ordered PktSlot.order := took.ordered
  have same : ∀ direction, addrFor link next direction = addrFor link taken direction := by
    intro direction
    cases direction with
    | forward => rfl
    | reverse => exact took.srcAddr
  dsimp only
  rw [iterate_spared took.running]
  rcases took.outcome with ⟨empty, calls⟩ | ⟨calls, single⟩
  · have nothing : (next.at second).pktQueue.items = 0 := empty
    rw [wake_silent (deliverDelayedPkt_nothing nothing)]
    exact ⟨⟨took.running, ordered, empty⟩, took.srcAddr, took.hasSourceAddr, _, calls⟩
  · have alone : (next.at second).pktQueue.items = _ := single
    obtain ⟨left, heap, rest, delivers⟩ := deliverDelayedPkt_single passable ordered alone
      (expired_of_later wait .spares parcel)
    rw [wake_silent delivers]
    refine ⟨⟨took.running, heap, rest⟩, took.srcAddr, took.hasSourceAddr, updateTime second, ?_⟩
    rw [← calls, ← same]
    rfl

/-- An iteration that is late enough leaves the program idle. -/
theorem iterate_flushes (passable : link.Passable) (running : state.running = true)
    (ordered : state.pktQueue.Ordered PktSlot.order) {clock : Timespec}
    (late : ∀ slot ∈ state.pktQueue.items, slot.Expired (updateTime clock)) :
    let after := state.iterate link (.woken (spared clock none))
    after.Idle ∧ after.srcAddr = state.srcAddr ∧ after.hasSourceAddr = state.hasSourceAddr := by
  obtain ⟨queue, calls, heap, empty, delivers⟩ :=
    deliverDelayedPkt_flush passable (state.at clock) ordered late
  dsimp only
  rw [iterate_spared running, wake_silent delivers]
  exact ⟨⟨running, heap, empty⟩, rfl, rfl⟩

/-- Such a time exists. -/
theorem exists_late (slots : Multiset PktSlot) (time : ℕ) : ∃ later : ℕ, time ≤ later ∧
    ∀ slot ∈ slots, slot.Expired (updateTime (Timespec.whole later)) := by
  let seconds := slots.map fun slot => slot.ts.sec.toNat + 1
  refine ⟨max time seconds.sup, Nat.le_max_left _ _, fun slot member => expired_of_sec ?_⟩
  have le : slot.ts.sec.toNat + 1 ≤ seconds.sup :=
    Multiset.le_sup (Multiset.mem_map_of_mem _ member)
  unfold Timespec.whole
  dsimp only
  omega

/-! ## The two directions -/

theorem enough_take {bytes : Datagram} (enough : minPktLen ≤ bytes.length) :
    minPktLen ≤ (bytes.take maxPktLen).length := by
  rw [List.length_take]
  exact le_min (by decide) enough

theorem directionOf_src (state : LinkState) :
    directionOf link state state.srcAddr = some .forward :=
  if_pos (sockaddrCmp_eq_false.mpr rfl)

theorem directionOf_dest (apart : state.srcAddr ≠ link.destAddr) :
    directionOf link state link.destAddr = some .reverse := by
  unfold directionOf
  rw [if_neg fun same => apart (sockaddrCmp_eq_false.mp same).symm,
    if_pos (sockaddrCmp_eq_false.mpr rfl)]

variable (link) in
/-- The other party sends forward. -/
theorem offered_forward {sender : SockAddr} {bytes : Datagram}
    (known : state.hasSourceAddr = true → state.srcAddr = sender)
    (enough : minPktLen ≤ bytes.length) :
    let taken := tracked state (.datagram sender bytes)
    taken.srcAddr = sender ∧ taken.hasSourceAddr = true ∧ taken.calls = state.calls ∧
      ∃ buf : PktBuf, buf.bytes = bytes.take maxPktLen ∧
        offered link state (.datagram sender bytes) = some (.forward, buf) := by
  intro taken
  have whole : taken = trackSource state sender := if_pos (enough_take enough)
  have tracks : (trackSource state sender).srcAddr = sender ∧
      (trackSource state sender).hasSourceAddr = true ∧
      (trackSource state sender).calls = state.calls := by
    unfold trackSource
    split
    · rename_i has
      exact ⟨known has, has, rfl⟩
    · exact ⟨rfl, rfl, rfl⟩
  have direction : directionOf link (trackSource state sender) _ = _ := directionOf_src _
  rw [tracks.1] at direction
  rw [whole]
  refine ⟨tracks.1, tracks.2.1, tracks.2.2, ⟨_, enough_take enough, List.length_take_le _ _⟩,
    rfl, ?_⟩
  unfold offered
  dsimp only
  rw [dif_pos (enough_take enough), direction]
  rfl

/-- The host that is proxied sends back. -/
theorem offered_reverse {bytes : Datagram} (known : state.hasSourceAddr = true)
    (apart : state.srcAddr ≠ link.destAddr) (enough : minPktLen ≤ bytes.length) :
    tracked state (.datagram link.destAddr bytes) = state ∧
      ∃ buf : PktBuf, buf.bytes = bytes.take maxPktLen ∧
        offered link state (.datagram link.destAddr bytes) = some (.reverse, buf) := by
  have tracks : trackSource state link.destAddr = state := if_pos known
  have whole : tracked state (.datagram link.destAddr bytes) = trackSource state link.destAddr :=
    if_pos (enough_take enough)
  refine ⟨whole.trans tracks, ⟨_, enough_take enough, List.length_take_le _ _⟩, rfl, ?_⟩
  unfold offered
  dsimp only
  rw [dif_pos (enough_take enough), tracks, directionOf_dest apart]
  rfl

end SelectiveRepeat.LinkSim

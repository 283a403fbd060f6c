import SelectiveRepeat.LinkSim.Carriage

/-!
# Links of constant delay

Without jitter a packet that is received later also expires later, provided that the
time goes on between the two.  The queue is then a line in which packets wait in the
order of their arrival, and each direction of the link keeps the order.
-/

namespace SelectiveRepeat.LinkSim

open SelectiveRepeat.Foundations

variable (link : Link)

/-! ## A constant delay -/

/-- The delay of every packet, if there is no jitter. -/
def Link.constantDelay : UInt32 := link.delay % 10000

theorem appliedDelay_constant (luck : Luck) (steady : link.jitter = 0) :
    appliedDelay link luck = link.constantDelay := by
  unfold appliedDelay Link.constantDelay
  simp [steady]

/-- With one delay, packets expire in the order of their times. -/
theorem expiration_order {first second : Timeval} (before : first.order < second.order)
    (delay : UInt32) : (expiration first delay).order < (expiration second delay).order := by
  unfold Timeval.order expiration at *
  rw [Prod.Lex.toLex_lt_toLex] at *
  dsimp only at *
  omega

/-- Time goes on from one iteration to the next. -/
def Ticks (state : LinkState) (input : LinkInput) : Prop :=
  ∀ event clock, input = .woken event → event.clock = some clock →
    state.lastClock.order < (updateTime clock).order

/-! ## The queue as a line -/

/-- The slots in the order in which they were filled. -/
structure Lined (state : LinkState) (line : List PktSlot) : Prop where
  items : (line : Multiset PktSlot) = state.pktQueue.items
  increasing : line.Pairwise fun first second => first.order < second.order
  past : ∀ slot ∈ line, slot.order ≤ (expiration state.lastClock link.constantDelay).order
  delayed : ∀ slot ∈ line, Parcel.Simulated link slot.parcel ∧ link.delay ≠ 0

theorem lined_start (first : Timespec) : Lined link (.start link first) [] :=
  ⟨rfl, .nil, fun _ member => absurd member List.not_mem_nil,
    fun _ member => absurd member List.not_mem_nil⟩

/-- The part of a list of packets that goes in one direction. -/
def inDirection (direction : Direction) (parcels : List Parcel) : List Parcel :=
  parcels.filter fun parcel => parcel.1 = direction

@[simp]
theorem inDirection_append (direction : Direction) (first second : List Parcel) :
    inDirection direction (first ++ second) =
      inDirection direction first ++ inDirection direction second := List.filter_append ..

theorem mem_of_mem_inDirection {direction : Direction} {parcels : List Parcel} {parcel : Parcel}
    (member : parcel ∈ inDirection direction parcels) :
    parcel ∈ parcels ∧ parcel.1 = direction := by
  simpa [inDirection] using member

/-- What has been sent in a direction, and what waits for it in the line. -/
def LinkState.flow (state : LinkState) (line : List PktSlot) (direction : Direction) :
    List Parcel :=
  inDirection direction (state.delivered ++ line.map PktSlot.parcel)

/-- The flow of each direction grows by what becomes of the packets offered in it. -/
def Grows (faults : Faults Parcel) (offers : List Parcel) (before after : Direction → List Parcel) :
    Prop :=
  ∀ direction, ∃ carried, after direction = before direction ++ carried ∧
    faults.Transmits (inDirection direction offers) carried

variable {link}

section Grows

variable {faults : Faults Parcel} {offers : List Parcel} {before after : Direction → List Parcel}

/-- Nothing is taken over. -/
theorem Grows.lost (lossy : ∀ parcel ∈ offers, faults.loses parcel)
    (same : ∀ direction, after direction = before direction) :
    Grows faults offers before after := by
  refine fun direction => ⟨[], by rw [same, List.append_nil], .lost fun parcel member => ?_⟩
  exact lossy parcel (mem_of_mem_inDirection member).1

/-- One packet is taken over. -/
theorem Grows.taken {parcel altered : Parcel} (alters : faults.alters parcel altered)
    (same : altered.1 = parcel.1)
    (grown : ∀ direction, after direction = before direction ++ inDirection direction [altered]) :
    Grows faults [parcel] before after := by
  refine fun direction => ⟨_, grown direction, ?_⟩
  by_cases here : parcel.1 = direction
  · have one : inDirection direction [parcel] = [parcel] := by simp [inDirection, here]
    have kept : inDirection direction [altered] = [altered] := by simp [inDirection, same, here]
    rw [one, kept]
    exact .taken alters
  · have none_ : inDirection direction [parcel] = [] := by simp [inDirection, here]
    have other : inDirection direction [altered] = [] := by simp [inDirection, same, here]
    rw [none_, other]
    exact .nil

end Grows

/-! ## One iteration -/

/-- What is due stands at the front of the line. -/
theorem Delivery.flow {state : LinkState} {clock : Timespec} {after : LinkState × Bool}
    {out : List PktSlot} {last : List SendTo}
    (delivery : Delivery link (state.at clock) after out last)
    (ticks : state.lastClock.order < (updateTime clock).order) {line : List PktSlot}
    (lined : Lined link state line) :
    ∃ rest, Lined link after.1 rest ∧ after.1.flow rest = state.flow line ∧
      ∀ slot ∈ rest, slot.order < (expiration after.1.lastClock link.constantDelay).order := by
  obtain ⟨rest, rfl, items⟩ := split_of_least lined.increasing
    (lined.items.trans delivery.items) delivery.sorted delivery.earlier
  have clock : after.1.lastClock = updateTime clock := delivery.lastClock
  have delivered : after.1.delivered = state.delivered ++ _ := delivery.delivered
  have later : ∀ slot ∈ rest,
      slot.order < (expiration after.1.lastClock link.constantDelay).order := by
    intro slot member
    rw [clock]
    exact (lined.past slot (List.mem_append_right _ member)).trans_lt (expiration_order ticks _)
  refine ⟨rest, ⟨items, ?_, fun slot member => (later slot member).le, ?_⟩, ?_, later⟩
  · exact (List.pairwise_append.mp lined.increasing).2.1
  · exact fun slot member => lined.delayed slot (List.mem_append_right _ member)
  · funext direction
    rw [LinkState.flow, LinkState.flow, delivered, List.map_append, List.append_assoc]

theorem tracked_lastClock (state : LinkState) (recv : RecvResult) :
    (tracked state recv).lastClock = state.lastClock := by
  rw [tracked_eq]

theorem Lined.tracked {state : LinkState} {line : List PktSlot} (lined : Lined link state line)
    (recv : RecvResult) : Lined link (tracked state recv) line := by
  rw [tracked_eq]
  exact ⟨lined.items, lined.increasing, lined.past, lined.delayed⟩

theorem Lined.running {state : LinkState} {line : List PktSlot} (lined : Lined link state line)
    (running : Bool) : Lined link { state with running := running } line :=
  ⟨lined.items, lined.increasing, lined.past, lined.delayed⟩

/-- What waits in the line does not go in the direction of a packet that is written at once. -/
theorem Lined.free {state : LinkState} {line : List PktSlot} (lined : Lined link state line)
    {direction : Direction}
    (now : link.delay = 0 ∨ sameDirection direction link.linkDirection = false) :
    inDirection direction (line.map PktSlot.parcel) = [] := by
  refine List.filter_eq_nil_iff.mpr fun parcel member here => ?_
  obtain ⟨slot, inLine, rfl⟩ := List.mem_map.mp member
  obtain ⟨simulated, delayed⟩ := lined.delayed slot inLine
  rcases now with none_ | other
  · exact delayed none_
  · unfold Parcel.Simulated at simulated
    rw [of_decide_eq_true here, other] at simulated
    cases simulated

/-- A packet that is passed on in its turn. -/
theorem Passes.flow {event : LinkEvent} {state : LinkState} {parcel : Parcel}
    {result : LinkState × Bool} (passes : Passes link event state parcel result)
    (steady : link.jitter = 0) {line : List PktSlot} (lined : Lined link state line)
    (later : ∀ slot ∈ line, slot.order < (expiration state.lastClock link.constantDelay).order) :
    ∃ line', Lined link result.1 line' ∧
      Grows (link.faults (!result.2)) [parcel] (state.flow line) (result.1.flow line') := by
  have stopped : ∀ other ∈ [parcel], (link.faults false).loses other := fun _ _ => Or.inl rfl
  cases passes with
  | dropped simulated lossy =>
      refine ⟨line, lined, .lost (fun other member => ?_) fun _ => rfl⟩
      rw [List.mem_singleton.mp member]
      exact Or.inr ⟨lossy, simulated⟩
  | noMemory => exact ⟨line, lined, .lost stopped fun _ => rfl⟩
  | queued buf alters simulated delayed queue ordered items =>
      rw [appliedDelay_constant link event.luck steady] at items
      let slot : PktSlot := ⟨expiration state.lastClock link.constantDelay, parcel.1, buf⟩
      refine ⟨line ++ [slot], ⟨?_, ?_, ?_, ?_⟩,
        .taken alters rfl fun direction => ?_⟩
      · dsimp only
        rw [items, ← lined.items, Multiset.cons_coe, Multiset.coe_eq_coe]
        exact List.perm_append_singleton slot line
      · refine List.pairwise_append.mpr ⟨lined.increasing, List.pairwise_singleton _ _, ?_⟩
        intro first member second last
        rw [List.mem_singleton.mp last]
        exact later first member
      · intro other member
        rcases List.mem_append.mp member with old | new
        · exact lined.past other old
        · rw [List.mem_singleton.mp new]
          exact le_rfl
      · intro other member
        rcases List.mem_append.mp member with old | new
        · exact lined.delayed other old
        · rw [List.mem_singleton.mp new]
          exact ⟨simulated, delayed⟩
      · rw [LinkState.flow, List.map_append, ← List.append_assoc, inDirection_append]
        rfl
  | written buf alters now =>
      refine ⟨line, ⟨lined.items, lined.increasing, lined.past, lined.delayed⟩, ?_⟩
      have delivered : (writeOut link state buf parcel.1).1.delivered = _ :=
        writeOut_delivered state buf parcel.1
      split at delivered
      · rename_i done
        simp only [done]
        refine .taken alters rfl fun direction => ?_
        rw [LinkState.flow, LinkState.flow, delivered]
        simp only [inDirection_append, List.append_assoc, List.append_cancel_left_eq]
        by_cases here : parcel.1 = direction
        · have free : inDirection direction (line.map PktSlot.parcel) = [] :=
            lined.free (now.imp_right fun other => here ▸ Bool.eq_false_iff.mpr other)
          rw [free, List.append_nil, List.nil_append]
        · have other : inDirection direction [(parcel.1, buf)] = [] := by
            simp [inDirection, here]
          rw [other, List.append_nil, List.nil_append]
      · rename_i failed
        simp only [failed, ne_eq, not_false_eq_true, decide_true]
        refine .lost stopped fun direction => ?_
        rw [LinkState.flow, LinkState.flow, delivered, List.append_nil]

/-- A program that has ended does not run again. -/
theorem Iterates.runs {state next : LinkState} {input : LinkInput}
    (iterates : Iterates link state input next) (on : next.running = true) :
    state.running = true := by
  cases iterates with
  | idle input running runs nothing => exact runs on
  | delivered event clock time before => exact before
  | taken event clock time before => exact before

theorem Iterates.flow {state next : LinkState} {input : LinkInput}
    (iterates : Iterates link state input next) (ticks : Ticks state input)
    (steady : link.jitter = 0) {line : List PktSlot} (lined : Lined link state line) :
    ∃ line', Lined link next line' ∧ Grows (link.faults next.running)
      (state.offers link input).toList (state.flow line) (next.flow line') := by
  cases iterates with
  | idle _ running runs nothing =>
      rw [nothing]
      exact ⟨line, lined.running running, .lost (fun _ member => absurd member List.not_mem_nil)
        fun _ => rfl⟩
  | @delivered event clock time on after out last delivery next same running ignored =>
      obtain ⟨rest, left, flow, -⟩ := delivery.flow (ticks event clock rfl time) lined
      have both : Lined link next rest ∧ next.flow rest = state.flow line := by
        rcases same with rfl | ⟨recv, -, rfl⟩
        · exact ⟨left, flow⟩
        · refine ⟨left.tracked recv, ?_⟩
          rw [← flow, tracked_eq]
          rfl
      refine ⟨rest, both.1.running running, .lost (fun parcel member => ?_) ?_⟩
      · rcases ignored with rfl | nothing
        · exact Or.inl rfl
        · rw [nothing] at member
          exact absurd member List.not_mem_nil
      · exact congrFun both.2
  | @taken event clock time on after out last delivery recv received parcel offer result passes =>
      obtain ⟨rest, left, flow, later⟩ := delivery.flow (ticks event clock rfl time) lined
      have same : (tracked after.1 recv).flow rest = after.1.flow rest := by
        rw [tracked_eq]
        rfl
      rw [← tracked_lastClock _ recv] at later
      rw [← flow, ← same, offer]
      obtain ⟨line, lined, grows⟩ := passes.flow steady (left.tracked recv) later
      exact ⟨line, lined.running _, grows⟩

/-! ## Runs -/

variable (link)

/-- Each direction of a run is a transmission in order. -/
theorem flow_run (steady : link.jitter = 0) (first : Timespec) (inputs : List LinkInput)
    (ticks : (carriage link first).Along (fun seen input => Ticks seen.state input)
      (carriage link first).start inputs) :
    let seen := (carriage link first).run inputs
    ∃ line, Lined link seen.state line ∧ ∀ direction, (link.faults seen.state.running).Transmits
      (inDirection direction seen.noted) (seen.state.flow line direction) := by
  have both := (carriage link first).invariant_along
    (motive := fun seen => seen.state.pktQueue.Ordered PktSlot.order ∧
      ∃ line, Lined link seen.state line ∧ ∀ direction,
        (link.faults seen.state.running).Transmits (inDirection direction seen.noted)
          (seen.state.flow line direction)) ?_ ?_ ticks
  · exact both.2
  · refine ⟨ordered_run link first [], [], lined_start link first, fun direction => .nil⟩
  · rintro ⟨state, noted⟩ input ⟨ordered, line, lined, before⟩ ticks
    have iterates := iterate_cases link state ordered input
    obtain ⟨line', left, grows⟩ := iterates.flow ticks steady lined
    refine ⟨iterates.ordered ordered, line', left, fun direction => ?_⟩
    obtain ⟨carried, flow, transmits⟩ := grows direction
    have worse : (link.faults (state.iterate link input).running).Transmits
        (inDirection direction noted) (state.flow line direction) :=
      (before direction).mono (fun _ _ alters => alters) (faults_worse iterates.runs)
    change (link.faults (state.iterate link input).running).Transmits (inDirection direction
      (noted ++ (state.offers link input).toList)) ((state.iterate link input).flow line' direction)
    rw [inDirection_append, flow]
    exact worse.append transmits

/-- On a link of constant delay each direction keeps the order: what has been sent and then what
waits are packets in the order in which they were offered, as they were or with one byte
inverted. -/
theorem link_keeps_order (steady : link.jitter = 0) (first : Timespec) (inputs : List LinkInput)
    (ticks : (carriage link first).Along (fun seen input => Ticks seen.state input)
      (carriage link first).start inputs) (direction : Direction) :
    let seen := (carriage link first).run inputs
    ∃ kept waiting, kept.Sublist (inDirection direction seen.noted) ∧
      List.Forall₂ (Alters link) kept (inDirection direction seen.state.delivered ++ waiting) ∧
      (waiting : Multiset Parcel) =
        seen.state.waiting.filter (fun parcel => parcel.1 = direction) ∧
      (seen.state.running = true →
        link.lossRate = 0 ∨ sameDirection direction link.linkDirection = false →
        kept = inDirection direction seen.noted) ∧
      (link.delay = 0 ∨ sameDirection direction link.linkDirection = false → waiting = []) := by
  intro seen
  obtain ⟨line, lined, transmits⟩ := flow_run link steady first inputs ticks
  obtain ⟨kept, same⟩ := transmits direction
  have altered := same.altered
  rw [LinkState.flow, inDirection_append] at altered
  refine ⟨kept, _, same.sublist, altered, ?_, ?_, lined.free⟩
  · rw [LinkState.waiting, ← lined.items, Multiset.map_coe, Multiset.filter_coe]
    rfl
  · intro running lossless
    refine same.all fun parcel member loses => ?_
    have here := (mem_of_mem_inDirection member).2
    rcases loses with stopped | ⟨lossy, simulated⟩
    · rw [running] at stopped
      cases stopped
    · rcases lossless with none_ | other
      · exact lossy none_
      · unfold Parcel.Simulated at simulated
        rw [here, other] at simulated
        cases simulated

/-- Two datagrams are received while none is due, and a second later both are. -/
def twoDatagrams : List LinkInput :=
  [.woken ⟨some (.whole 1), some (.datagram ⟨0, 1⟩ (List.replicate 12 1)),
      ⟨0, 0, 0, 0, 0⟩, true, true⟩,
    .woken ⟨some ⟨1, 50000000, by decide⟩, some (.datagram ⟨0, 1⟩ (List.replicate 12 2)),
      ⟨0, 0, 0, 0, 0⟩, true, true⟩,
    .woken ⟨some (.whole 2), none, ⟨0, 0, 0, 0, 0⟩, true, true⟩]

theorem ticks_twoDatagrams : (carriage slowLink epoch).Along
    (fun seen input => Ticks seen.state input) (carriage slowLink epoch).start twoDatagrams := by
  refine ⟨?_, ?_, ?_, trivial⟩
  · rintro event clock ⟨⟩ ⟨⟩
    decide +kernel
  · rintro event clock ⟨⟩ ⟨⟩
    decide +kernel
  · rintro event clock ⟨⟩ ⟨⟩
    decide +kernel

theorem link_keeps_order_slowLink :
    let seen := (carriage slowLink epoch).run twoDatagrams
    (inDirection .forward seen.state.delivered).length = 2 ∧
      ∃ kept waiting, kept.Sublist (inDirection .forward seen.noted) ∧
        List.Forall₂ (Alters slowLink) kept
          (inDirection .forward seen.state.delivered ++ waiting) ∧
        (waiting : Multiset Parcel) =
          seen.state.waiting.filter (fun parcel => parcel.1 = .forward) ∧
        (seen.state.running = true →
          slowLink.lossRate = 0 ∨ sameDirection .forward slowLink.linkDirection = false →
          kept = inDirection .forward seen.noted) ∧
        (slowLink.delay = 0 ∨ sameDirection .forward slowLink.linkDirection = false →
          waiting = []) :=
  ⟨by decide +kernel, link_keeps_order slowLink rfl epoch twoDatagrams ticks_twoDatagrams .forward⟩

end SelectiveRepeat.LinkSim

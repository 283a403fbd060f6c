import SelectiveRepeat.LinkSim.Passage

/-!
# The two parties

The simulator takes the first to send data for the other party and never takes anybody
else for it.  What one of the two parties sends goes to the other one, and what others
send goes nowhere.
-/

namespace SelectiveRepeat.LinkSim

open SelectiveRepeat.Foundations SelectiveRepeat.Transport

variable (link : Link)

/-- The one who sends in a direction. -/
def partyOf (srcAddr : SockAddr) : Direction → SockAddr
  | .forward => srcAddr
  | .reverse => link.destAddr

/-- The packet was taken from a datagram of `sender`. -/
def CameFrom (inputs : List LinkInput) (sender : SockAddr) (parcel : Parcel) : Prop :=
  ∃ event datagram, LinkInput.woken event ∈ inputs ∧
    event.recv = some (.datagram sender datagram) ∧
    ∃ taken : Parcel, taken.2.bytes = datagram.take maxPktLen ∧ Alters link taken parcel

/-- Before the other party is known nothing is sent or queued, and then everything is for one of
the two parties, and from the other one. -/
structure Parties (inputs : List LinkInput) (state : LinkState) : Prop where
  unknown : state.hasSourceAddr = false → state.calls = [] ∧ state.pktQueue.items = 0
  every : state.Every fun parcel =>
    CameFrom link inputs (partyOf link state.srcAddr parcel.1) parcel
  addr : ∀ call ∈ state.calls, call.addr = addrFor link state call.direction

variable {link} {state next : LinkState} {input : LinkInput}

/-! ## Who the other party is -/

theorem addrFor_congr {first second : LinkState} (same : first.srcAddr = second.srcAddr)
    (direction : Direction) : addrFor link first direction = addrFor link second direction := by
  cases direction with
  | forward => rfl
  | reverse => exact same

/-- The other party stays the same. -/
theorem tracked_of_has (has : state.hasSourceAddr = true) (recv : RecvResult) :
    tracked state recv = state := by
  cases recv with
  | again => rfl
  | failed => rfl
  | datagram sender datagram =>
      unfold tracked
      dsimp only
      split
      · exact if_pos has
      · rfl

theorem sockaddrCmp_eq_false {a b : SockAddr} : sockaddrCmp a b = false ↔ a = b := by
  obtain ⟨addr, port⟩ := a
  obtain ⟨otherAddr, otherPort⟩ := b
  simp [sockaddrCmp]

theorem directionOf_from {sender : SockAddr} {direction : Direction}
    (chosen : directionOf link state sender = some direction) :
    sender = partyOf link state.srcAddr direction := by
  unfold directionOf at chosen
  dsimp only at chosen
  split at chosen
  · rename_i source
    cases chosen
    exact sockaddrCmp_eq_false.mp source
  · split at chosen
    · rename_i dest
      cases chosen
      exact sockaddrCmp_eq_false.mp dest
    · cases chosen

/-- A packet that is taken comes from its party. -/
theorem offered_from {recv : RecvResult} {parcel : Parcel}
    (offer : offered link state recv = some parcel) : ∃ sender datagram,
      recv = .datagram sender datagram ∧ parcel.2.bytes = datagram.take maxPktLen ∧
      (tracked state recv).hasSourceAddr = true ∧
      sender = partyOf link (tracked state recv).srcAddr parcel.1 := by
  cases recv with
  | again => cases offer
  | failed => cases offer
  | datagram sender datagram =>
      unfold offered at offer
      dsimp only at offer
      split at offer
      · rename_i enough
        obtain ⟨direction, chosen, same⟩ := Option.map_eq_some_iff.mp offer
        cases same
        have whole : tracked state (.datagram sender datagram) = trackSource state sender :=
          if_pos enough
        rw [whole]
        refine ⟨sender, datagram, rfl, rfl, ?_, directionOf_from chosen⟩
        unfold trackSource
        split
        · rename_i has
          exact has
        · rfl
      · cases offer

/-! ## One iteration -/

theorem Passes.source {event : LinkEvent} {parcel : Parcel} {result : LinkState × Bool}
    (passes : Passes link event state parcel result) :
    result.1.srcAddr = state.srcAddr ∧ result.1.hasSourceAddr = state.hasSourceAddr := by
  cases passes with
  | dropped => exact ⟨rfl, rfl⟩
  | noMemory => exact ⟨rfl, rfl⟩
  | queued => exact ⟨rfl, rfl⟩
  | written => exact ⟨rfl, rfl⟩

/-- Once it is known, the other party stays the same. -/
theorem Iterates.source (iterates : Iterates link state input next)
    (has : state.hasSourceAddr = true) :
    next.srcAddr = state.srcAddr ∧ next.hasSourceAddr = true := by
  cases iterates with
  | idle => exact ⟨rfl, has⟩
  | @delivered _ clock time on after _ _ delivery next same running ignored =>
      have known : after.1.srcAddr = state.srcAddr := delivery.srcAddr
      have still : after.1.hasSourceAddr = true := delivery.hasSourceAddr.trans has
      rcases same with rfl | ⟨recv, -, rfl⟩
      · exact ⟨known, still⟩
      · rw [tracked_of_has still]
        exact ⟨known, still⟩
  | @taken _ clock time on after _ _ delivery recv _ parcel offer result passes =>
      have known : after.1.srcAddr = state.srcAddr := delivery.srcAddr
      have still : after.1.hasSourceAddr = true := delivery.hasSourceAddr.trans has
      rw [tracked_of_has still] at passes
      exact ⟨passes.source.1.trans known, passes.source.2.trans still⟩

theorem source_of_tracked (unknown : state.hasSourceAddr = false) {recv : RecvResult}
    (has : (tracked state recv).hasSourceAddr = true) :
    ∃ datagram, recv = .datagram (tracked state recv).srcAddr datagram := by
  cases recv with
  | again =>
      rw [show tracked state .again = state from rfl, unknown] at has
      cases has
  | failed =>
      rw [show tracked state .failed = state from rfl, unknown] at has
      cases has
  | datagram sender datagram =>
      refine ⟨datagram, ?_⟩
      unfold tracked trackSource at has ⊢
      dsimp only at has ⊢
      split
      · rw [if_neg (Bool.eq_false_iff.mp unknown)]
      · rename_i short
        rw [if_neg short, unknown] at has
        cases has

/-- The other party is the one that has just sent. -/
theorem Iterates.newcomer (iterates : Iterates link state input next)
    (unknown : state.hasSourceAddr = false) (has : next.hasSourceAddr = true) :
    ∃ event datagram, input = .woken event ∧
      event.recv = some (.datagram next.srcAddr datagram) := by
  cases iterates with
  | idle =>
      rw [unknown] at has
      cases has
  | @delivered event clock time on after _ _ delivery next same running ignored =>
      have before : after.1.hasSourceAddr = false := delivery.hasSourceAddr.trans unknown
      rcases same with rfl | ⟨recv, received, rfl⟩
      · rw [before] at has
        cases has
      · obtain ⟨datagram, same⟩ := source_of_tracked before has
        exact ⟨event, datagram, rfl, received.trans (congrArg some same)⟩
  | @taken event clock time on after _ _ delivery recv received parcel offer result passes =>
      have before : after.1.hasSourceAddr = false := delivery.hasSourceAddr.trans unknown
      obtain ⟨datagram, same⟩ := source_of_tracked before (passes.source.2.symm.trans has)
      refine ⟨event, datagram, rfl, received.trans ?_⟩
      rw [passes.source.1]
      exact congrArg some same

/-- Where nothing is queued, nothing is delivered. -/
theorem Delivery.of_empty {before : LinkState} {after : LinkState × Bool} {out : List PktSlot}
    {last : List SendTo} (delivery : Delivery link before after out last)
    (nothing : before.calls = [] ∧ before.pktQueue.items = 0) :
    after.1.calls = [] ∧ after.1.pktQueue.items = 0 := by
  have items := delivery.items
  rw [nothing.2] at items
  have left : after.1.pktQueue.items ≤ 0 := items ▸ Multiset.le_add_left _ _
  refine ⟨List.eq_nil_iff_forall_not_mem.mpr fun call member => ?_, Multiset.le_zero.mp left⟩
  rcases delivery.call_cases member with old | ⟨slot, inQueue, -⟩
  · rw [nothing.1] at old
    exact absurd old List.not_mem_nil
  · rw [nothing.2] at inQueue
    exact absurd inQueue (Multiset.notMem_zero slot)

theorem Iterates.unknown (iterates : Iterates link state input next)
    (unknown : next.hasSourceAddr = false)
    (nothing : state.calls = [] ∧ state.pktQueue.items = 0) :
    next.calls = [] ∧ next.pktQueue.items = 0 := by
  cases iterates with
  | idle => exact nothing
  | delivered event clock time on delivery next same running ignored =>
      have none_ := delivery.of_empty nothing
      rcases same with rfl | ⟨recv, -, rfl⟩
      · exact none_
      · rw [tracked_eq]
        exact none_
  | @taken event clock time on after _ _ delivery recv received parcel offer result passes =>
      have offer : offered link state recv = some parcel := by
        simpa [LinkState.offers, time, on, received] using offer
      have known : after.1.srcAddr = state.srcAddr := delivery.srcAddr
      have has : after.1.hasSourceAddr = state.hasSourceAddr := delivery.hasSourceAddr
      obtain ⟨-, -, -, -, knows, -⟩ :=
        offered_from ((offered_congr link known has recv).trans offer)
      have contra := passes.source.2.trans knows
      dsimp only at unknown
      rw [contra] at unknown
      cases unknown

variable {inputs : List LinkInput}

theorem CameFrom.append {sender : SockAddr} {parcel : Parcel}
    (came : CameFrom link inputs sender parcel) (more : List LinkInput) :
    CameFrom link (inputs ++ more) sender parcel := by
  obtain ⟨event, datagram, member, rest⟩ := came
  exact ⟨event, datagram, List.mem_append_left _ member, rest⟩

/-- What is delivered goes to the other side. -/
theorem Delivery.addr {clock : Timespec} {after : LinkState × Bool} {out : List PktSlot}
    {last : List SendTo} (delivery : Delivery link (state.at clock) after out last)
    (parties : Parties link inputs state)
    (keeps : state.hasSourceAddr = true → next.srcAddr = state.srcAddr) :
    ∀ call ∈ after.1.calls, call.addr = addrFor link next call.direction := by
  intro call member
  cases has : state.hasSourceAddr with
  | false =>
      have nothing : after.1.calls = [] := (delivery.of_empty (parties.unknown has)).1
      rw [nothing] at member
      exact absurd member List.not_mem_nil
  | true =>
      rcases delivery.call_cases member with old | ⟨slot, -, result, rfl, -⟩
      · exact (parties.addr call old).trans (addrFor_congr (keeps has).symm _)
      · exact addrFor_congr (keeps has).symm _

theorem Passes.addr {event : LinkEvent} {parcel : Parcel} {result : LinkState × Bool}
    (passes : Passes link event state parcel result)
    (before : ∀ call ∈ state.calls, call.addr = addrFor link state call.direction) :
    ∀ call ∈ result.1.calls, call.addr = addrFor link result.1 call.direction := by
  cases passes with
  | dropped => exact before
  | noMemory => exact before
  | queued => exact before
  | written buf alters now =>
      intro call member
      rcases List.mem_append.mp member with old | new
      · exact before call old
      · rw [List.mem_singleton.mp new]
        rfl

theorem Parties.step (parties : Parties link inputs state)
    (iterates : Iterates link state input next) : Parties link (inputs ++ [input]) next := by
  have keeps : state.hasSourceAddr = true → next.srcAddr = state.srcAddr :=
    fun has => (iterates.source has).1
  have before : state.Every fun parcel =>
      CameFrom link (inputs ++ [input]) (partyOf link next.srcAddr parcel.1) parcel := by
    cases has : state.hasSourceAddr with
    | false =>
        obtain ⟨calls, items⟩ := parties.unknown has
        refine ⟨fun slot member => ?_, fun call member => ?_⟩
        · rw [items] at member
          exact absurd member (Multiset.notMem_zero slot)
        · rw [calls] at member
          exact absurd member List.not_mem_nil
    | true =>
        rw [keeps has]
        exact ⟨fun slot member => (parties.every.queue slot member).append _,
          fun call member => (parties.every.calls call member).append _⟩
  have unknown : next.hasSourceAddr = false → next.calls = [] ∧ next.pktQueue.items = 0 := by
    intro unknown
    refine iterates.unknown unknown (parties.unknown ?_)
    by_contra has
    rw [(iterates.source (Bool.not_eq_false _ ▸ has)).2] at unknown
    cases unknown
  cases iterates with
  | idle => exact ⟨unknown, ⟨before.queue, before.calls⟩, parties.addr⟩
  | @delivered event clock time on after _ _ delivery next same running ignored =>
      have sent := delivery.every before
      have addr := delivery.addr parties keeps
      rcases same with rfl | ⟨recv, -, rfl⟩
      · exact ⟨unknown, ⟨sent.queue, sent.calls⟩, addr⟩
      · refine ⟨unknown, ⟨(sent.tracked recv).queue, (sent.tracked recv).calls⟩, ?_⟩
        intro call member
        rw [tracked_eq] at member
        exact addr call member
  | @taken event clock time on after _ _ delivery recv received parcel offer result passes =>
      have offer : offered link state recv = some parcel := by
        simpa [LinkState.offers, time, on, received] using offer
      have known : after.1.srcAddr = state.srcAddr := delivery.srcAddr
      have has : after.1.hasSourceAddr = state.hasSourceAddr := delivery.hasSourceAddr
      obtain ⟨sender, datagram, rfl, bytes, -, from_⟩ :=
        offered_from ((offered_congr link known has recv).trans offer)
      have sent := (delivery.every before).tracked (.datagram sender datagram)
      have passed := passes.every sent fun altered alters => by
        have direction : altered.1 = parcel.1 := by
          rcases alters with rfl | ⟨-, -, rand, rfl⟩
          · rfl
          · rfl
        rw [direction, passes.source.1, ← from_]
        exact ⟨event, datagram, List.mem_append_right _ (List.mem_singleton.mpr rfl), received,
          parcel, bytes, alters⟩
      refine ⟨unknown, ⟨passed.queue, passed.calls⟩, ?_⟩
      have addr := delivery.addr parties keeps
      refine passes.addr fun call member => ?_
      rw [tracked_eq] at member
      exact (addr call member).trans (addrFor_congr passes.source.1 _)

theorem parties_run (first : Timespec) (inputs : List LinkInput) :
    Parties link inputs ((proxyLoop link first).run inputs) := by
  induction inputs using List.reverseRecOn with
  | nil =>
      exact ⟨fun _ => ⟨rfl, rfl⟩, ⟨fun slot member => absurd member (Multiset.notMem_zero slot),
        fun call member => absurd member List.not_mem_nil⟩,
        fun call member => absurd member List.not_mem_nil⟩
  | append_singleton inputs input ih =>
      rw [Machine.run_concat]
      exact ih.step (iterate_cases link _ (ordered_run link first inputs) input)

/-! ## Whole runs -/

theorem source_run (first : Timespec) (inputs later : List LinkInput)
    (has : ((proxyLoop link first).run inputs).hasSourceAddr = true) :
    ((proxyLoop link first).run (inputs ++ later)).srcAddr =
        ((proxyLoop link first).run inputs).srcAddr ∧
      ((proxyLoop link first).run (inputs ++ later)).hasSourceAddr = true := by
  induction later using List.reverseRecOn with
  | nil =>
      rw [List.append_nil]
      exact ⟨rfl, has⟩
  | append_singleton later input ih =>
      rw [← List.append_assoc, Machine.run_concat]
      obtain ⟨same, still⟩ :=
        (iterate_cases link _ (ordered_run link first (inputs ++ later)) input).source ih.2
      exact ⟨same.trans ih.1, still⟩

variable (link)

/-- In every run, the other party is never changed once it is known, and each packet that is sent
goes to the host that is proxied or to the other party, and comes from a datagram of the one
that it does not go to. -/
theorem between_the_parties (first : Timespec) (inputs later : List LinkInput) :
    let state := (proxyLoop link first).run inputs
    let after := (proxyLoop link first).run (inputs ++ later)
    (state.hasSourceAddr = true → after.srcAddr = state.srcAddr ∧ after.hasSourceAddr = true) ∧
      ∀ call ∈ after.calls, after.hasSourceAddr = true ∧
        call.addr = addrFor link after call.direction ∧
        CameFrom link (inputs ++ later) (partyOf link after.srcAddr call.direction)
          (call.direction, call.buf) := by
  intro state after
  have parties : Parties link (inputs ++ later) after := parties_run first (inputs ++ later)
  refine ⟨source_run first inputs later, fun call member => ⟨?_, parties.addr call member,
    parties.every.calls call member⟩⟩
  by_contra unknown
  rw [(parties.unknown (Bool.eq_false_iff.mpr unknown)).1] at member
  exact absurd member List.not_mem_nil

end SelectiveRepeat.LinkSim

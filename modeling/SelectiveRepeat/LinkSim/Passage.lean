import SelectiveRepeat.LinkSim.Delivery

/-!
# What an iteration does

Every iteration delivers what is due and then takes in at most one packet, which is
dropped, queued or written, intact or with one byte inverted.
-/

namespace SelectiveRepeat.LinkSim

open SelectiveRepeat.Foundations SelectiveRepeat.Transport

variable (link : Link)

/-! ## The packet received -/

/-- A packet with its direction. -/
abbrev Parcel := Direction × PktBuf

/-- The packet that is taken from what `recvfrom` returns. -/
def offered (state : LinkState) : RecvResult → Option Parcel
  | .datagram sender datagram =>
    if enough : minPktLen ≤ (datagram.take maxPktLen).length then
      (directionOf link (trackSource state sender) sender).map fun direction =>
        (direction, ⟨datagram.take maxPktLen, enough, List.length_take_le _ _⟩)
    else none
  | _ => none

/-- The state once the other party is known. -/
def tracked (state : LinkState) : RecvResult → LinkState
  | .datagram sender datagram =>
    if minPktLen ≤ (datagram.take maxPktLen).length then trackSource state sender else state
  | _ => state

theorem processIncomingPkt_eq (event : LinkEvent) (state : LinkState) (recv : RecvResult) :
    processIncomingPkt link event state recv =
      match offered link state recv with
      | none => (tracked state recv, match recv with | .failed => true | _ => false)
      | some parcel => passOn link event (tracked state recv) parcel.2 parcel.1 := by
  cases recv with
  | again => rfl
  | failed => rfl
  | datagram sender datagram =>
      unfold processIncomingPkt offered tracked
      dsimp only
      split
      · cases directionOf link (trackSource state sender) sender with
        | none => rfl
        | some direction => rfl
      · rfl

theorem trackSource_eq (state : LinkState) (sender : SockAddr) : trackSource state sender =
    { state with
      srcAddr := (trackSource state sender).srcAddr
      hasSourceAddr := (trackSource state sender).hasSourceAddr } := by
  unfold trackSource
  split
  · rfl
  · rfl

theorem tracked_eq (state : LinkState) (recv : RecvResult) : tracked state recv =
    { state with
      srcAddr := (tracked state recv).srcAddr
      hasSourceAddr := (tracked state recv).hasSourceAddr } := by
  cases recv with
  | again => rfl
  | failed => rfl
  | datagram sender datagram =>
      unfold tracked
      dsimp only
      split
      · exact trackSource_eq state sender
      · rfl

/-! ## What becomes of it -/

/-- The link is simulated on the path of the packet. -/
def Parcel.Simulated (parcel : Parcel) : Prop := sameDirection parcel.1 link.linkDirection = true

/-- The packet is as it was, or one byte of it is inverted. -/
def Alters (before after : Parcel) : Prop :=
  after = before ∨
    link.errRate ≠ 0 ∧ Parcel.Simulated link before ∧
      ∃ rand, after = (before.1, corrupt before.2 rand)

/-- The ways in which a packet is passed on. -/
inductive Passes (event : LinkEvent) (state : LinkState) (parcel : Parcel) :
    LinkState × Bool → Prop where
  | dropped (simulated : Parcel.Simulated link parcel) (lossy : link.lossRate ≠ 0) :
      Passes event state parcel (state, false)
  | noMemory : Passes event state parcel (state, true)
  | queued (buf : PktBuf) (alters : Alters link parcel (parcel.1, buf))
      (simulated : Parcel.Simulated link parcel) (delayed : link.delay ≠ 0)
      (queue : MinQueue PktSlot) (ordered : queue.Ordered PktSlot.order)
      (items : queue.items = ⟨expiration state.lastClock (appliedDelay link event.luck), parcel.1,
        buf⟩ ::ₘ state.pktQueue.items) :
      Passes event state parcel ({ state with pktQueue := queue }, false)
  | written (buf : PktBuf) (alters : Alters link parcel (parcel.1, buf))
      (now : link.delay = 0 ∨ ¬ Parcel.Simulated link parcel) :
      Passes event state parcel ((writeOut link state buf parcel.1).1,
        (writeOut link state buf parcel.1).2 ≠ .done)

theorem relayed_alters (luck : Luck) {parcel : Parcel}
    (simulated : Parcel.Simulated link parcel) :
    Alters link parcel (parcel.1, relayed link luck parcel.2) := by
  unfold relayed
  split
  · rename_i corrupted
    exact Or.inr ⟨corrupted.1, simulated, luck.idx, rfl⟩
  · exact Or.inl rfl

theorem simulateLink_passes (event : LinkEvent) (state : LinkState)
    (ordered : state.pktQueue.Ordered PktSlot.order) (parcel : Parcel)
    (simulated : Parcel.Simulated link parcel) :
    Passes link event state parcel (simulateLink link event state parcel.2 parcel.1) := by
  have alters := relayed_alters link event.luck simulated
  unfold simulateLink
  split
  · rename_i lost
    unfold dropped at lost
    rw [Bool.and_eq_true, decide_eq_true_eq] at lost
    exact .dropped simulated lost.1
  · dsimp only
    split
    · rename_i delayed
      split
      · exact .noMemory
      · let slot : PktSlot := ⟨expiration state.lastClock (appliedDelay link event.luck), parcel.1,
          relayed link event.luck parcel.2⟩
        obtain ⟨heap, ⟨ok, items⟩ | ⟨same, refused, full⟩⟩ :=
          ordered.push pktSlotCmp pktSlotCmp_iff event.realloc slot
        · have passes : Passes link event state parcel _ :=
            .queued _ alters simulated delayed _ heap items
          simpa [slot, ok] using passes
        · have passes : Passes link event state parcel (state, true) := .noMemory
          simpa [slot, same] using passes
    · rename_i now
      exact .written _ alters (Or.inl (not_not.mp now))

theorem passOn_passes (event : LinkEvent) (state : LinkState)
    (ordered : state.pktQueue.Ordered PktSlot.order) (parcel : Parcel) :
    Passes link event state parcel (passOn link event state parcel.2 parcel.1) := by
  unfold passOn
  split
  · rename_i simulated
    exact simulateLink_passes link event state ordered parcel simulated
  · rename_i other
    exact .written _ (Or.inl rfl) (Or.inr other)

/-! ## Runs -/

/-- What `wake` starts from. -/
def LinkState.at (state : LinkState) (clock : Timespec) : LinkState :=
  { state with lastClock := updateTime clock }

/-- The packet that an input offers, if the program runs and reads the time. -/
def LinkState.offers (state : LinkState) : LinkInput → Option Parcel
  | .woken event =>
    if state.running ∧ event.clock.isSome then event.recv.bind (offered link state) else none
  | _ => none

/-- The cases of an iteration. -/
inductive Iterates (state : LinkState) : LinkInput → LinkState → Prop where
  /-- Nothing is sent or received. -/
  | idle (input : LinkInput) (running : Bool) (runs : running = true → state.running = true)
      (nothing : state.offers link input = none) :
      Iterates state input { state with running := running }
  /-- What is due is sent, and no packet is taken. -/
  | delivered (event : LinkEvent) (clock : Timespec) (time : event.clock = some clock)
      (before : state.running = true) {after : LinkState × Bool} {out : List PktSlot}
      {last : List SendTo} (delivery : Delivery link (state.at clock) after out last)
      (next : LinkState)
      (same : next = after.1 ∨ ∃ recv, event.recv = some recv ∧ next = tracked after.1 recv)
      (running : Bool) (ignored : running = false ∨ state.offers link (.woken event) = none) :
      Iterates state (.woken event) { next with running := running }
  /-- What is due is sent, and then a packet is taken. -/
  | taken (event : LinkEvent) (clock : Timespec) (time : event.clock = some clock)
      (before : state.running = true) {after : LinkState × Bool} {out : List PktSlot}
      {last : List SendTo} (delivery : Delivery link (state.at clock) after out last)
      (recv : RecvResult) (received : event.recv = some recv) {parcel : Parcel}
      (offer : state.offers link (.woken event) = some parcel) {result : LinkState × Bool}
      (passes : Passes link event (tracked after.1 recv) parcel result) :
      Iterates state (.woken event) { result.1 with running := !result.2 }

theorem tracked_queue (state : LinkState) (recv : RecvResult) :
    (tracked state recv).pktQueue = state.pktQueue := by
  rw [tracked_eq]

/-- The address of the other party is all that matters. -/
theorem offered_congr {first second : LinkState} (known : first.srcAddr = second.srcAddr)
    (has : first.hasSourceAddr = second.hasSourceAddr) (recv : RecvResult) :
    offered link first recv = offered link second recv := by
  cases recv with
  | again => rfl
  | failed => rfl
  | datagram sender datagram =>
      have same : (trackSource first sender).srcAddr = (trackSource second sender).srcAddr := by
        unfold trackSource
        rw [has]
        split
        · exact known
        · rfl
      unfold offered directionOf
      dsimp only
      rw [same]

theorem iterate_cases (state : LinkState) (ordered : state.pktQueue.Ordered PktSlot.order)
    (input : LinkInput) : Iterates link state input (state.iterate link input) := by
  unfold LinkState.iterate
  split
  · rename_i before
    cases input with
    | interrupted => exact .idle _ state.running id rfl
    | selectFailed => exact .idle _ false nofun rfl
    | woken event =>
        dsimp only
        split
        · rename_i time
          exact .idle _ false nofun (by simp [LinkState.offers, time])
        · rename_i clock time
          obtain ⟨out, last, delivery⟩ := deliverDelayedPkt_spec link (state.at clock) ordered
          have offers : state.offers link (.woken event) =
              event.recv.bind (offered link state) := by simp [LinkState.offers, time, before]
          unfold LinkState.wake
          dsimp only
          split
          · exact .delivered event clock time before delivery _ (Or.inl rfl) false (Or.inl rfl)
          · split
            · rename_i silent
              refine .delivered event clock time before delivery _ (Or.inl rfl) _ (Or.inr ?_)
              rw [offers, silent, Option.bind_none]
            · rename_i recv received
              let delivered := (deliverDelayedPkt link (state.at clock)).1
              have known : delivered.srcAddr = state.srcAddr := delivery.srcAddr
              have has : delivered.hasSourceAddr = state.hasSourceAddr := delivery.hasSourceAddr
              have same := offered_congr link known has recv
              rw [received, Option.bind_some] at offers
              rw [processIncomingPkt_eq]
              split
              · rename_i offer
                refine .delivered event clock time before delivery _
                  (Or.inr ⟨recv, received, rfl⟩) _ (Or.inr ?_)
                exact offers.trans (same.symm.trans offer)
              · rename_i parcel offer
                refine .taken event clock time before delivery recv received
                  (offers.trans (same.symm.trans offer)) ?_
                apply passOn_passes
                rw [tracked_queue]
                exact delivery.ordered
  · rename_i ended
    exact .idle input state.running id (by cases input <;> simp [LinkState.offers, ended])

theorem Passes.ordered {link : Link} {event : LinkEvent} {state : LinkState} {parcel : Parcel}
    {result : LinkState × Bool} (passes : Passes link event state parcel result)
    (ordered : state.pktQueue.Ordered PktSlot.order) :
    result.1.pktQueue.Ordered PktSlot.order := by
  cases passes with
  | dropped => exact ordered
  | noMemory => exact ordered
  | queued buf alters simulated delayed queue heap items => exact heap
  | written buf alters now => exact ordered

theorem Iterates.ordered {link : Link} {state next : LinkState} {input : LinkInput}
    (iterates : Iterates link state input next)
    (ordered : state.pktQueue.Ordered PktSlot.order) : next.pktQueue.Ordered PktSlot.order := by
  cases iterates with
  | idle => exact ordered
  | delivered event clock time before delivery next same running ignored =>
      rcases same with rfl | ⟨recv, -, rfl⟩
      · exact delivery.ordered
      · dsimp only
        rw [tracked_queue]
        exact delivery.ordered
  | taken event clock time before delivery recv _ offer passes =>
      refine passes.ordered ?_
      rw [tracked_queue]
      exact delivery.ordered

/-- The datagram from which a packet is taken. -/
theorem offers_datagram {link : Link} {state : LinkState} {input : LinkInput} {parcel : Parcel}
    (offer : state.offers link input = some parcel) : ∃ event sender datagram,
      input = .woken event ∧ event.recv = some (.datagram sender datagram) ∧
        parcel.2.bytes = datagram.take maxPktLen := by
  cases input with
  | interrupted => cases offer
  | selectFailed => cases offer
  | woken event =>
      unfold LinkState.offers at offer
      dsimp only at offer
      split at offer
      · obtain ⟨recv, received, offer⟩ := Option.bind_eq_some_iff.mp offer
        cases recv with
        | again => cases offer
        | failed => cases offer
        | datagram sender datagram =>
            unfold offered at offer
            dsimp only at offer
            split at offer
            · obtain ⟨direction, -, same⟩ := Option.map_eq_some_iff.mp offer
              cases same
              exact ⟨event, sender, datagram, rfl, received, rfl⟩
            · cases offer
      · cases offer

/-- The property holds of all packets in the queue and of all packets sent. -/
structure LinkState.Every (state : LinkState) (motive : Parcel → Prop) : Prop where
  queue : ∀ slot ∈ state.pktQueue.items, motive (slot.direction, slot.buf)
  calls : ∀ call ∈ state.calls, motive (call.direction, call.buf)

theorem LinkState.Every.tracked {state : LinkState} {motive : Parcel → Prop}
    (every : state.Every motive) (recv : RecvResult) : (tracked state recv).Every motive := by
  rw [tracked_eq]
  exact ⟨every.queue, every.calls⟩

theorem Passes.every {link : Link} {event : LinkEvent} {state : LinkState} {parcel : Parcel}
    {result : LinkState × Bool} (passes : Passes link event state parcel result)
    {motive : Parcel → Prop} (every : state.Every motive)
    (altered : ∀ after, Alters link parcel after → motive after) : result.1.Every motive := by
  cases passes with
  | dropped => exact every
  | noMemory => exact every
  | queued buf alters simulated delayed queue heap items =>
      refine ⟨fun slot member => ?_, every.calls⟩
      rw [items] at member
      rcases Multiset.mem_cons.mp member with rfl | old
      · exact altered _ alters
      · exact every.queue slot old
  | written buf alters now =>
      refine ⟨every.queue, fun call member => ?_⟩
      rcases List.mem_append.mp member with old | new
      · exact every.calls call old
      · rw [List.mem_singleton.mp new]
        exact altered _ alters

theorem Delivery.every {link : Link} {state : LinkState} {clock : Timespec}
    {after : LinkState × Bool} {out : List PktSlot} {last : List SendTo}
    (delivery : Delivery link (state.at clock) after out last) {motive : Parcel → Prop}
    (every : state.Every motive) : after.1.Every motive := by
  have items : state.pktQueue.items = _ := delivery.items
  refine ⟨fun slot member => every.queue slot ?_, fun call member => ?_⟩
  · rw [items]
    exact Multiset.mem_add.mpr (Or.inr member)
  · rcases delivery.call_cases member with old | ⟨slot, inQueue, result, rfl, -⟩
    · exact every.calls call old
    · exact every.queue slot inQueue

/-- What holds of every packet that is taken, altered or not, holds of everything queued and
sent. -/
theorem Iterates.every {link : Link} {state next : LinkState} {input : LinkInput}
    (iterates : Iterates link state input next) {motive : Parcel → Prop}
    (every : state.Every motive) (altered : ∀ parcel, state.offers link input = some parcel →
      ∀ after, Alters link parcel after → motive after) : next.Every motive := by
  cases iterates with
  | idle => exact ⟨every.queue, every.calls⟩
  | delivered event clock time before delivery next same running ignored =>
      have sent := delivery.every every
      rcases same with rfl | ⟨recv, -, rfl⟩
      · exact ⟨sent.queue, sent.calls⟩
      · exact ⟨(sent.tracked recv).queue, (sent.tracked recv).calls⟩
  | taken event clock time before delivery recv _ offer passes =>
      have passed := passes.every ((delivery.every every).tracked recv) (altered _ offer)
      exact ⟨passed.queue, passed.calls⟩

/-- The queue is ordered in every state of a run. -/
theorem ordered_run (first : Timespec) (inputs : List LinkInput) :
    ((proxyLoop link first).run inputs).pktQueue.Ordered PktSlot.order := by
  refine (proxyLoop link first).invariant
    (motive := fun state => state.pktQueue.Ordered PktSlot.order) ?_ ?_ inputs
  · exact fun node _ inside => absurd inside (Nat.not_lt_zero _)
  · exact fun state input ordered => (iterate_cases link state ordered input).ordered ordered

/-- A link that delays what the other party sends by 100 milliseconds. -/
def slowLink : Link where
  delay := 100
  jitter := 0
  errRate := 0
  lossRate := 0
  linkDirection := .forward
  destAddr := ⟨0, 1341⟩
  sendto _ := .done
  slots _ := ⟨⟨0, 0⟩, .forward, ⟨List.replicate 12 0, by decide, by decide⟩⟩

/-- The packet is spared. -/
def Luck.spares : Luck := ⟨100, 100, 0, 0, 0⟩

/-- A clock at the beginning of a second. -/
def Timespec.whole (sec : ℕ) : Timespec := ⟨sec, 0, by decide⟩

def epoch : Timespec := .whole 0

/-- A datagram is received, and one second later it is due. -/
def oneDatagram : List LinkInput :=
  [.woken ⟨some (.whole 1), some (.datagram ⟨0, 1⟩ (List.replicate 12 0)),
      ⟨0, 0, 0, 0, 0⟩, true, true⟩,
    .woken ⟨some (.whole 2), none, ⟨0, 0, 0, 0, 0⟩, true, true⟩]

theorem oneDatagram_sent :
    ((proxyLoop slowLink epoch).run oneDatagram).calls.map SendTo.direction = [.forward] := by
  decide +kernel

end SelectiveRepeat.LinkSim

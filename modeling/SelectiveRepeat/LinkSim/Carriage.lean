import SelectiveRepeat.Foundations.Carrier
import SelectiveRepeat.Foundations.Observer
import SelectiveRepeat.LinkSim.Passage

/-!
# The simulator is a carrier

Seen from outside, the simulator is a channel that may lose, alter and delay packets.
It neither makes up a packet nor sends one twice, and what it does not simulate it does
not do.
-/

namespace SelectiveRepeat.LinkSim

open SelectiveRepeat.Foundations

variable (link : Link)

/-! ## The carrier -/

def SendTo.parcel (call : SendTo) : Parcel := (call.direction, call.buf)

def PktSlot.parcel (slot : PktSlot) : Parcel := (slot.direction, slot.buf)

/-- The packets in the queue. -/
def LinkState.waiting (state : LinkState) : Multiset Parcel :=
  state.pktQueue.items.map PktSlot.parcel

/-- The packets sent. -/
def LinkState.delivered (state : LinkState) : List Parcel :=
  (state.calls.filter fun call => call.result = .done).map SendTo.parcel

/-- Only a simulated link loses and corrupts packets; the one at hand is also lost when the
program ends. -/
def Link.faults (running : Bool) : Faults Parcel where
  alters := Alters link
  loses parcel := running = false ∨ link.lossRate ≠ 0 ∧ Parcel.Simulated link parcel

variable {link}

theorem Delivery.waiting {before : LinkState} {after : LinkState × Bool} {out : List PktSlot}
    {last : List SendTo} (delivery : Delivery link before after out last) :
    before.waiting = (out.map PktSlot.parcel : Multiset Parcel) + after.1.waiting := by
  rw [LinkState.waiting, delivery.items, Multiset.map_add, Multiset.map_coe]
  rfl

/-- The call that stops the loop sends nothing. -/
theorem Stops.nothing {state : LinkState} {left : Multiset PktSlot} {last : List SendTo}
    {failed : Bool} (stops : Stops link state left last failed) :
    last.filter (fun call => call.result = .done) = [] := by
  cases stops with
  | notDue => rfl
  | again => simp [LinkState.callFor]
  | failed => simp [LinkState.callFor]

theorem Delivery.delivered {before : LinkState} {after : LinkState × Bool} {out : List PktSlot}
    {last : List SendTo} (delivery : Delivery link before after out last) :
    after.1.delivered = before.delivered ++ out.map PktSlot.parcel := by
  have sent : (out.map (before.callFor link .done)).filter (fun call => call.result = .done) =
      out.map (before.callFor link .done) := by
    apply List.filter_eq_self.mpr
    simp [LinkState.callFor]
  have same : SendTo.parcel ∘ before.callFor link .done = PktSlot.parcel := rfl
  unfold LinkState.delivered
  rw [delivery.calls, List.filter_append, List.filter_append, delivery.stops.nothing, sent]
  simp [same]

theorem writeOut_delivered (state : LinkState) (buf : PktBuf) (direction : Direction) :
    (writeOut link state buf direction).1.delivered =
      state.delivered ++
        if (writeOut link state buf direction).2 = .done then [(direction, buf)] else [] := by
  unfold LinkState.delivered writeOut
  dsimp only
  rw [List.filter_append, List.map_append]
  congr 1
  split
  · rename_i done
    simp [done, SendTo.parcel]
  · rename_i other
    simp [other]

/-! ## One iteration -/

theorem faults_worse {running after : Bool} (ends : after = true → running = true)
    (parcel : Parcel) (loses : (link.faults running).loses parcel) :
    (link.faults after).loses parcel := by
  rcases loses with stopped | lossy
  · refine Or.inl (Bool.eq_false_iff.mpr fun on => ?_)
    rw [ends on] at stopped
    cases stopped
  · exact Or.inr lossy

theorem carries_worse {running after : Bool} (ends : after = true → running = true)
    {offers delivered : List Parcel} {waiting : Multiset Parcel}
    (carries : Carries (link.faults running) offers waiting delivered) :
    Carries (link.faults after) offers waiting delivered :=
  carries.mono (fun _ _ alters => alters) (faults_worse ends)

/-- The packet at hand is lost when the program ends. -/
theorem carries_stopped {running : Bool} {offers delivered : List Parcel}
    {waiting : Multiset Parcel}
    (carries : Carries (link.faults running) offers waiting delivered) (parcel : Parcel) :
    Carries (link.faults false) (offers ++ [parcel]) waiting delivered :=
  .lose parcel (Or.inl rfl) (carries_worse (fun on => absurd on Bool.false_ne_true) carries)

/-- Passing on a packet is a loss, a taking over, or a relay. -/
theorem Passes.carries {event : LinkEvent} {state : LinkState} {parcel : Parcel}
    {result : LinkState × Bool} (passes : Passes link event state parcel result)
    {offers : List Parcel}
    (before : Carries (link.faults true) offers state.waiting state.delivered) :
    Carries (link.faults (!result.2)) (offers ++ [parcel]) result.1.waiting
      result.1.delivered := by
  cases passes with
  | dropped simulated lossy => exact .lose parcel (Or.inr ⟨lossy, simulated⟩) before
  | noMemory => exact carries_stopped before parcel
  | queued buf alters simulated delayed queue ordered items =>
      have waiting : ({ state with pktQueue := queue } : LinkState).waiting =
          (parcel.1, buf) ::ₘ state.waiting := by
        rw [LinkState.waiting, items, Multiset.map_cons]
        rfl
      rw [waiting]
      exact .take alters before
  | written buf alters now =>
      rw [writeOut_delivered]
      split
      · rename_i done
        simp only [done]
        exact before.relay alters
      · rename_i failed
        simp only [failed, ne_eq, not_false_eq_true, decide_true, List.append_nil]
        exact carries_stopped before parcel

theorem tracked_waiting (state : LinkState) (recv : RecvResult) :
    (tracked state recv).waiting = state.waiting := by
  rw [tracked_eq]
  rfl

theorem tracked_delivered (state : LinkState) (recv : RecvResult) :
    (tracked state recv).delivered = state.delivered := by
  rw [tracked_eq]
  rfl

/-- What is due goes from the queue to the packets sent. -/
theorem Delivery.carries {state : LinkState} {clock : Timespec} {after : LinkState × Bool}
    {out : List PktSlot} {last : List SendTo}
    (delivery : Delivery link (state.at clock) after out last) {offers : List Parcel}
    {faults : Faults Parcel} (before : Carries faults offers state.waiting state.delivered) :
    Carries faults offers after.1.waiting after.1.delivered := by
  have waiting : state.waiting = _ := delivery.waiting
  have delivered : after.1.delivered = state.delivered ++ _ := delivery.delivered
  rw [waiting] at before
  rw [delivered]
  exact before.deliver_list

theorem Iterates.carries {state next : LinkState} {input : LinkInput}
    (iterates : Iterates link state input next) {offers : List Parcel}
    (before : Carries (link.faults state.running) offers state.waiting state.delivered) :
    Carries (link.faults next.running) (offers ++ (state.offers link input).toList) next.waiting
      next.delivered := by
  cases iterates with
  | idle _ running runs nothing =>
      rw [nothing, Option.toList_none, List.append_nil]
      exact carries_worse runs before
  | delivered event clock time on delivery next same running ignored =>
      have sent := delivery.carries before
      have rest : Carries (link.faults state.running) offers next.waiting next.delivered := by
        rcases same with rfl | ⟨recv, -, rfl⟩
        · exact sent
        · rw [tracked_waiting, tracked_delivered]
          exact sent
      have rest : Carries (link.faults running) offers next.waiting next.delivered :=
        carries_worse (fun _ => on) rest
      rcases ignored with rfl | nothing
      · cases state.offers link (.woken event) with
        | none =>
            rw [Option.toList_none, List.append_nil]
            exact rest
        | some parcel => exact carries_stopped rest parcel
      · rw [nothing, Option.toList_none, List.append_nil]
        exact rest
  | taken event clock time on delivery recv _ offer passes =>
      have sent := delivery.carries before
      rw [on, ← tracked_waiting _ recv, ← tracked_delivered _ recv] at sent
      rw [offer]
      exact passes.carries sent

/-! ## Runs -/

variable (link)

/-- The simulator with the packets offered to it. -/
def carriage (first : Timespec) : Machine (Observed LinkState (List Parcel)) LinkInput :=
  (proxyLoop link first).observe [] fun noted state input =>
    noted ++ (state.offers link input).toList

/-- The simulator refines the carrier. -/
theorem carries_run (first : Timespec) (inputs : List LinkInput) :
    let seen := (carriage link first).run inputs
    Carries (link.faults seen.state.running) seen.noted seen.state.waiting
      seen.state.delivered := by
  have both := (carriage link first).invariant
    (motive := fun seen => seen.state.pktQueue.Ordered PktSlot.order ∧
      Carries (link.faults seen.state.running) seen.noted seen.state.waiting seen.state.delivered)
    ⟨ordered_run link first [], .start⟩ ?_ inputs
  · exact both.2
  · rintro ⟨state, noted⟩ input ⟨ordered, carries⟩
    have iterates := iterate_cases link state ordered input
    exact ⟨iterates.ordered ordered, iterates.carries carries⟩

/-- What the simulator has sent and what waits in its queue are some of the packets that were
offered to it, each of them once, as they were or with one byte inverted.  A packet is missing
only if the link is to lose packets, or the program has ended. -/
theorem link_accounts (first : Timespec) (inputs : List LinkInput) :
    let seen := (carriage link first).run inputs
    ∃ kept carried, kept.Sublist seen.noted ∧ List.Forall₂ (Alters link) kept carried ∧
      (carried : Multiset Parcel) = (seen.state.delivered : Multiset Parcel) + seen.state.waiting ∧
      (seen.state.running = true → link.lossRate = 0 → kept = seen.noted) := by
  intro seen
  obtain ⟨kept, carried, same, items⟩ := (carries_run link first inputs).accounted
  refine ⟨kept, carried, same.sublist, same.altered, items, fun running lossless => ?_⟩
  refine same.all fun parcel member loses => ?_
  rcases loses with stopped | ⟨lossy, -⟩
  · rw [running] at stopped
    cases stopped
  · exact lossy lossless

end SelectiveRepeat.LinkSim

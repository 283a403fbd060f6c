import Mathlib.Data.Prod.Lex
import SelectiveRepeat.LinkSim.Link
import SelectiveRepeat.LinkSim.PriorityQueue

/-!
# Delivery of delayed packets

The queue is ordered by the expiration date, so `deliver_delayed_pkt` sends what has
expired, in the order in which it expires, and stops for the first packet that has not
expired or cannot be sent.
-/

namespace SelectiveRepeat.LinkSim

open SelectiveRepeat.Foundations

/-- Times are compared by the second first. -/
def Timeval.order (time : Timeval) : ℤ ×ₗ ℤ := toLex (time.sec, time.usec)

theorem timevalCmp_iff (left right : Timeval) :
    timevalCmp left right = true ↔ right.order < left.order := by
  unfold timevalCmp Timeval.order
  rw [Prod.Lex.toLex_lt_toLex]
  split_ifs with same
  · simp [same]
  · simp [Ne.symm same]

/-- Slots are compared by the expiration date. -/
def PktSlot.order (slot : PktSlot) : ℤ ×ₗ ℤ := slot.ts.order

theorem pktSlotCmp_iff (a b : PktSlot) : pktSlotCmp a b = true ↔ b.order < a.order :=
  timevalCmp_iff a.ts b.ts

/-- The call of `sendto` for a queued packet. -/
def LinkState.callFor (link : Link) (state : LinkState) (result : SendResult) (slot : PktSlot) :
    SendTo :=
  ⟨addrFor link state slot.direction, slot.direction, slot.buf, state.lastClock, result⟩

/-- The packet is due. -/
def PktSlot.Expired (slot : PktSlot) (now : Timeval) : Prop := slot.order < now.order

variable (link : Link)

/-- Why the loop stops: nothing else is due, or the next packet cannot be sent. -/
inductive Stops (state : LinkState) (left : Multiset PktSlot) : List SendTo → Bool → Prop where
  | notDue (later : ∀ slot ∈ left, ¬ slot.Expired state.lastClock) : Stops state left [] false
  | again (slot : PktSlot) (next : slot ∈ left ∧ ∀ other ∈ left, slot.order ≤ other.order)
      (due : slot.Expired state.lastClock) : Stops state left [state.callFor link .again slot] false
  | failed (slot : PktSlot) (next : slot ∈ left ∧ ∀ other ∈ left, slot.order ≤ other.order)
      (due : slot.Expired state.lastClock) : Stops state left [state.callFor link .failed slot] true

/-- The packets in `out` are sent, the others stay, and nothing else changes. -/
structure Delivery (before : LinkState) (after : LinkState × Bool) (out : List PktSlot)
    (last : List SendTo) : Prop where
  frame : after.1 = { before with
    pktQueue := after.1.pktQueue
    calls := before.calls ++ out.map (before.callFor link .done) ++ last }
  ordered : after.1.pktQueue.Ordered PktSlot.order
  items : before.pktQueue.items = (out : Multiset PktSlot) + after.1.pktQueue.items
  sorted : out.Pairwise fun first second => first.order ≤ second.order
  earlier : ∀ slot ∈ out, ∀ other ∈ after.1.pktQueue.items, slot.order ≤ other.order
  due : ∀ slot ∈ out, slot.Expired before.lastClock
  stops : Stops link before after.1.pktQueue.items last after.2

/-- Only the time and the addresses matter. -/
theorem Stops.of_same {link : Link} {rest state : LinkState} {left : Multiset PktSlot}
    {last : List SendTo} {failed : Bool} (stops : Stops link rest left last failed)
    (calling : rest.callFor link = state.callFor link)
    (clock : rest.lastClock = state.lastClock) : Stops link state left last failed := by
  cases stops with
  | notDue later => exact .notDue (clock ▸ later)
  | again slot least due =>
      rw [calling]
      exact .again slot least (clock ▸ due)
  | failed slot least due =>
      rw [calling]
      exact .failed slot least (clock ▸ due)

namespace Delivery

variable {link} {before : LinkState} {after : LinkState × Bool} {out : List PktSlot}
  {last : List SendTo}

theorem lastClock (delivery : Delivery link before after out last) :
    after.1.lastClock = before.lastClock := by rw [delivery.frame]

theorem srcAddr (delivery : Delivery link before after out last) :
    after.1.srcAddr = before.srcAddr := by rw [delivery.frame]

theorem hasSourceAddr (delivery : Delivery link before after out last) :
    after.1.hasSourceAddr = before.hasSourceAddr := by rw [delivery.frame]

theorem calls (delivery : Delivery link before after out last) :
    after.1.calls = before.calls ++ out.map (before.callFor link .done) ++ last := by
  rw [delivery.frame]

/-- Nothing is sent. -/
theorem nil {state : LinkState} {failed : Bool} (ordered : state.pktQueue.Ordered PktSlot.order)
    (stops : Stops link state state.pktQueue.items last failed) :
    Delivery link state ({ state with calls := state.calls ++ last }, failed) [] last :=
  ⟨by simp, ordered, by simp, .nil, by simp, by simp, stops⟩

/-- The first packet is sent, and then others. -/
theorem cons {state rest : LinkState} {p : PktSlot}
    (next : p ∈ state.pktQueue.items ∧ ∀ other ∈ state.pktQueue.items, p.order ≤ other.order)
    (due : p.Expired state.lastClock)
    (popped : state.pktQueue.items = p ::ₘ rest.pktQueue.items)
    (sent : rest = { state with
      pktQueue := rest.pktQueue
      calls := state.calls ++ [state.callFor link .done p] })
    (delivery : Delivery link rest after out last) :
    Delivery link state after (p :: out) last := by
  have calling : rest.callFor link = state.callFor link := by
    rw [sent]
    rfl
  have clock : rest.lastClock = state.lastClock := by rw [sent]
  have whole : ∀ slot, slot ∈ out ∨ slot ∈ after.1.pktQueue.items → p.order ≤ slot.order := by
    intro slot member
    apply next.2
    rw [popped, delivery.items, Multiset.mem_cons, Multiset.mem_add, Multiset.mem_coe]
    exact Or.inr member
  refine ⟨?_, delivery.ordered, ?_, ?_, ?_, ?_, ?_⟩
  · rw [delivery.frame, calling, sent]
    simp
  · rw [popped, delivery.items]
    rfl
  · exact List.pairwise_cons.mpr ⟨fun slot member => whole slot (Or.inl member), delivery.sorted⟩
  · intro slot member other left
    rcases List.mem_cons.mp member with rfl | later
    · exact whole other (Or.inr left)
    · exact delivery.earlier slot later other left
  · intro slot member
    rcases List.mem_cons.mp member with rfl | later
    · exact due
    · exact clock ▸ delivery.due slot later
  · exact delivery.stops.of_same calling clock

/-- A call that is made while packets are delivered is for an expired packet of the queue. -/
theorem call_cases (delivery : Delivery link before after out last) {call : SendTo}
    (member : call ∈ after.1.calls) : call ∈ before.calls ∨
      ∃ slot ∈ before.pktQueue.items, ∃ result, call = before.callFor link result slot ∧
        slot.Expired before.lastClock := by
  rw [delivery.calls, List.append_assoc] at member
  rcases List.mem_append.mp member with old | new
  · exact Or.inl old
  · refine Or.inr ?_
    rw [delivery.items]
    rcases List.mem_append.mp new with sent | final
    · obtain ⟨slot, inOut, rfl⟩ := List.mem_map.mp sent
      exact ⟨slot, Multiset.mem_add.mpr (Or.inl inOut), .done, rfl, delivery.due slot inOut⟩
    · have stops := delivery.stops
      generalize after.2 = failed at stops
      cases stops with
      | notDue later => exact absurd final List.not_mem_nil
      | again slot next due =>
          refine ⟨slot, Multiset.mem_add.mpr (Or.inr next.1), .again, ?_, due⟩
          exact List.mem_singleton.mp final
      | failed slot next due =>
          refine ⟨slot, Multiset.mem_add.mpr (Or.inr next.1), .failed, ?_, due⟩
          exact List.mem_singleton.mp final

end Delivery

theorem MinQueue.peek_least {q : MinQueue PktSlot} (ordered : q.Ordered PktSlot.order)
    {p : PktSlot} (peeked : minqPeek q = some p) :
    p ∈ q.items ∧ ∀ other ∈ q.items, p.order ≤ other.order := by
  obtain ⟨nonempty, rfl⟩ := MinQueue.minqPeek_eq_some.mp peeked
  exact ⟨mem_contents.mpr ⟨0, Nat.pos_of_ne_zero nonempty, rfl⟩, ordered.root_le⟩

/-- One round of the loop. -/
theorem deliverDelayedPkt_eq (state : LinkState) : deliverDelayedPkt link state =
    match minqPeek state.pktQueue with
    | none => (state, false)
    | some p =>
      if timevalCmp state.lastClock p.ts then
        let written := writeOut link state p.buf p.direction
        match written.2 with
        | .again => (written.1, false)
        | .failed => (written.1, true)
        | .done => deliverDelayedPkt link
          { written.1 with pktQueue := minqPop pktSlotCmp state.pktQueue }
      else (state, false) := by
  rw [deliverDelayedPkt]
  split
  · rename_i peeked
    rw [peeked]
  · rename_i p peeked
    rewrite [peeked]
    rfl

theorem deliverDelayedPkt_spec (state : LinkState)
    (ordered : state.pktQueue.Ordered PktSlot.order) :
    ∃ out last, Delivery link state (deliverDelayedPkt link state) out last := by
  induction state using deliverDelayedPkt.induct link with
  | case1 state peeked =>
      have empty : state.pktQueue.items = 0 :=
        MinQueue.items_eq_zero.mpr (MinQueue.minqPeek_eq_none.mp peeked)
      have none_ : Stops link state state.pktQueue.items [] false := .notDue fun slot member =>
        absurd (empty ▸ member) (Multiset.notMem_zero slot)
      refine ⟨[], [], ?_⟩
      rw [deliverDelayedPkt_eq, peeked]
      simpa using Delivery.nil ordered none_
  | case2 state p peeked due again =>
      have expired := (timevalCmp_iff _ _).mp due
      have refused : link.sendto state.calls.length = .again := again
      have stops : Stops link state state.pktQueue.items [state.callFor link .again p] false :=
        .again p (MinQueue.peek_least ordered peeked) expired
      refine ⟨[], [state.callFor link .again p], ?_⟩
      rw [deliverDelayedPkt_eq, peeked]
      dsimp only
      rw [if_pos due, again]
      simpa [writeOut, LinkState.callFor, refused] using Delivery.nil ordered stops
  | case3 state p peeked due failed =>
      have expired := (timevalCmp_iff _ _).mp due
      have refused : link.sendto state.calls.length = .failed := failed
      have stops : Stops link state state.pktQueue.items [state.callFor link .failed p] true :=
        .failed p (MinQueue.peek_least ordered peeked) expired
      refine ⟨[], [state.callFor link .failed p], ?_⟩
      rw [deliverDelayedPkt_eq, peeked]
      dsimp only
      rw [if_pos due, failed]
      simpa [writeOut, LinkState.callFor, refused] using Delivery.nil ordered stops
  | case4 state p peeked due done ih =>
      have expired := (timevalCmp_iff _ _).mp due
      have sent : link.sendto state.calls.length = .done := done
      have least := MinQueue.peek_least ordered peeked
      obtain ⟨nonempty, root⟩ := MinQueue.minqPeek_eq_some.mp peeked
      have popped := ordered.pop pktSlotCmp pktSlotCmp_iff nonempty
      rw [root] at popped
      obtain ⟨out, last, delivery⟩ := ih popped.1
      refine ⟨p :: out, last, ?_⟩
      rw [deliverDelayedPkt_eq, peeked]
      dsimp only
      rw [if_pos due, done]
      refine Delivery.cons least expired popped.2 ?_ delivery
      simp [writeOut, LinkState.callFor, sent]
  | case5 state p peeked early =>
      have least := MinQueue.peek_least ordered peeked
      have none_ : Stops link state state.pktQueue.items [] false :=
        .notDue fun slot member expired => early ((timevalCmp_iff _ _).mpr
          ((least.2 slot member).trans_lt expired))
      refine ⟨[], [], ?_⟩
      rw [deliverDelayedPkt_eq, peeked]
      dsimp only
      rw [if_neg early]
      simpa using Delivery.nil ordered none_

end SelectiveRepeat.LinkSim

import SelectiveRepeat.LinkSim.Fifo
import SelectiveRepeat.LinkSim.Parties
import SelectiveRepeat.System.Relay

/-!
# Whom the simulator knows

Only the sender sends to the simulator before anything has gone through it, so the
simulator takes nobody else for the other party.  Each of the two programs then receives
what goes in its direction.
-/

namespace SelectiveRepeat.System

open SelectiveRepeat.Foundations SelectiveRepeat.Packet SelectiveRepeat.Transport
open SelectiveRepeat.Receiver SelectiveRepeat.Sender SelectiveRepeat.LinkSim

/-- The simulator knows nobody but the sender, and it does once anything has gone through. -/
structure Acquainted (relay : Relay) (state : RelayState) : Prop where
  known : state.link.hasSourceAddr = true → state.link.srcAddr = relay.srcAddr
  unknown : state.link.hasSourceAddr = false →
    state.acks = [] ∧ state.link.calls = [] ∧ state.link.pktQueue.items = 0

variable {crc32 : List UInt8 → UInt32} {relay : Relay} {state : RelayState}

namespace Acquainted

theorem start : Acquainted relay (.start relay) where
  known := nofun
  unknown _ := ⟨rfl, rfl, rfl⟩

/-- The receiver sends nothing before it has received something. -/
theorem takeReceiver (acquainted : Acquainted relay state) {input : ReceiverInput}
    (sources : RelayState.Sources relay state (.receiver input)) :
    Acquainted relay (state.take crc32 relay (.receiver input)) where
  known := acquainted.known
  unknown unknown := by
    obtain ⟨acks, calls, items⟩ := acquainted.unknown unknown
    refine ⟨?_, calls, items⟩
    change state.acks ++ (state.receiver.iterate crc32 fullWrite input).sent = []
    rw [acks, List.nil_append]
    cases sources with
    | receiverEnds =>
        unfold ReceiverState.iterate
        split
        · rfl
        · rfl
    | receiver bytes past recv =>
        obtain ⟨call, member, -⟩ := recv
        rw [calls] at member
        exact absurd member List.not_mem_nil

theorem takeLink (acquainted : Acquainted relay state)
    (ordered : state.link.pktQueue.Ordered PktSlot.order) {input : LinkInput}
    (sources : RelayState.Sources relay state (.link input)) :
    Acquainted relay (state.take crc32 relay (.link input)) := by
  have iterates := iterate_cases relay.link state.link ordered input
  refine ⟨fun has => ?_, fun unknown => ?_⟩
  · cases before : state.link.hasSourceAddr with
    | true => exact (iterates.source before).1.trans (acquainted.known before)
    | false =>
        obtain ⟨event, datagram, rfl, received⟩ := iterates.newcomer before has
        cases sources with
        | link input recv =>
            rcases recv event _ datagram rfl received with ⟨same, -⟩ | ⟨-, member⟩
            · exact same
            · rw [(acquainted.unknown before).1] at member
              exact absurd member List.not_mem_nil
  · have before : state.link.hasSourceAddr = false := by
      by_contra has
      rw [Bool.not_eq_false] at has
      have still : (state.link.iterate relay.link input).hasSourceAddr = true :=
        (iterates.source has).2
      exact Bool.noConfusion (still.symm.trans unknown)
    obtain ⟨acks, nothing⟩ := acquainted.unknown before
    exact ⟨acks, iterates.unknown unknown nothing⟩

theorem take (acquainted : Acquainted relay state)
    (ordered : state.link.pktQueue.Ordered PktSlot.order) {input : PartyInput}
    (sources : RelayState.Sources relay state input) :
    Acquainted relay (state.take crc32 relay input) := by
  cases input with
  | sender input => exact ⟨acquainted.known, acquainted.unknown⟩
  | receiver input => exact acquainted.takeReceiver sources
  | link input => exact acquainted.takeLink ordered sources

theorem step (acquainted : Acquainted relay state)
    (ordered : state.link.pktQueue.Ordered PktSlot.order) (action : RelayAction) :
    Acquainted relay (state.step crc32 relay action) := by
  unfold RelayState.step
  cases given : state.input relay action with
  | none => exact acquainted
  | some input => exact acquainted.take ordered (RelayState.sources_of_input given)

end Acquainted

/-! ## Runs -/

variable (crc32 relay)

/-- The simulator of a run is in a run of `proxy_loop`. -/
theorem link_run (actions : List RelayAction) : ∃ inputs,
    ((relayed crc32 relay).run actions).link = (proxyLoop relay.link relay.first).run inputs := by
  refine (relayed crc32 relay).invariant (motive := fun state =>
    ∃ inputs, state.link = (proxyLoop relay.link relay.first).run inputs) ⟨[], rfl⟩ ?_ actions
  rintro state action ⟨inputs, same⟩
  rw [relayed_step, RelayState.step]
  cases state.input relay action with
  | none => exact ⟨inputs, same⟩
  | some input =>
      cases input with
      | sender input => exact ⟨inputs, same⟩
      | receiver input => exact ⟨inputs, same⟩
      | link input =>
          refine ⟨inputs ++ [input], ?_⟩
          rw [Machine.run_concat, proxyLoop_step, ← same]
          rfl

theorem queue_run (actions : List RelayAction) :
    ((relayed crc32 relay).run actions).link.pktQueue.Ordered PktSlot.order := by
  obtain ⟨inputs, same⟩ := link_run crc32 relay actions
  rw [same]
  exact ordered_run relay.link relay.first inputs

theorem acquainted_run (actions : List RelayAction) :
    Acquainted relay ((relayed crc32 relay).run actions) := by
  induction actions using List.reverseRecOn with
  | nil => exact Acquainted.start
  | append_singleton actions action ih =>
      rw [Machine.run_concat, relayed_step]
      exact ih.step (queue_run crc32 relay actions) action

theorem addr_run (actions : List RelayAction) :
    let link := ((relayed crc32 relay).run actions).link
    ∀ call ∈ link.calls, call.addr = addrFor relay.link link call.direction := by
  obtain ⟨inputs, same⟩ := link_run crc32 relay actions
  rw [same]
  exact (parties_run relay.first inputs).addr

/-! ## What a program receives -/

variable {crc32 relay}

/-- The host to which a direction leads. -/
def Relay.host (relay : Relay) : Direction → SockAddr
  | .forward => relay.link.destAddr
  | .reverse => relay.srcAddr

/-- The packets sent to a host are those that have been sent in its direction. -/
theorem inbox_run (apart : relay.srcAddr ≠ relay.link.destAddr) (actions : List RelayAction)
    (direction : Direction) :
    let state := (relayed crc32 relay).run actions
    state.inbox (relay.host direction) =
      (inDirection direction state.link.delivered).map fun parcel => parcel.2.bytes := by
  intro state
  have acquainted : Acquainted relay state := acquainted_run crc32 relay actions
  have addr : ∀ call ∈ state.link.calls, call.addr = addrFor relay.link state.link call.direction :=
    addr_run crc32 relay actions
  have same : ∀ call ∈ state.link.calls,
      call.addr = relay.host direction ↔ call.direction = direction := by
    intro call member
    have known : state.link.srcAddr = relay.srcAddr := by
      refine acquainted.known ?_
      by_contra unknown
      rw [(acquainted.unknown (Bool.eq_false_iff.mpr unknown)).2.1] at member
      exact absurd member List.not_mem_nil
    rw [addr call member]
    cases call.direction with
    | forward =>
        cases direction with
        | forward => exact ⟨fun _ => rfl, fun _ => rfl⟩
        | reverse => exact ⟨fun equal => absurd equal.symm apart, nofun⟩
    | reverse =>
        cases direction with
        | forward => exact ⟨fun equal => absurd (known.symm.trans equal) apart, nofun⟩
        | reverse => exact ⟨fun _ => rfl, fun _ => known⟩
  unfold RelayState.inbox inDirection LinkState.delivered
  rw [List.filter_map, List.filter_filter, List.map_map]
  refine congrArg _ (List.filter_congr fun call member => ?_)
  have kept : ((fun parcel : Parcel => decide (parcel.1 = direction)) ∘ SendTo.parcel) call =
      decide (call.direction = direction) := rfl
  rw [kept, ← Bool.decide_and, decide_eq_decide, same call member, and_comm]

end SelectiveRepeat.System

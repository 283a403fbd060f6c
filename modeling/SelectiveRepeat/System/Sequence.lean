import SelectiveRepeat.Foundations.Channel
import SelectiveRepeat.LinkSim.Through
import SelectiveRepeat.System.Acquaintance
import SelectiveRepeat.System.Issued

/-!
# Datagrams in sequence

Between the programs and the simulator the datagrams may get lost, but they do not
overtake one another, and no call of the two programs fails.  What is still to come in
each direction is then a list that grows at its end only.
-/

namespace SelectiveRepeat.System

open SelectiveRepeat.Foundations SelectiveRepeat.Packet SelectiveRepeat.Transport
open SelectiveRepeat.Receiver SelectiveRepeat.Sender SelectiveRepeat.LinkSim

/-! ## Places -/

/-- The places up to which the datagrams of each direction have reached the simulator, and up to
which those of the simulator have been received, with the time of the sender. -/
structure Places where
  data : ℕ
  acks : ℕ
  toReceiver : ℕ
  toSender : ℕ
  clock : ℕ

/-- What is passed over is lost. -/
def Places.note (places : Places) (_ : RelayState) : RelayAction → Places
  | .sender socket _ _ later _ =>
      match socket with
      | some (some n) => { places with toSender := n + 1, clock := later }
      | _ => { places with clock := later }
  | .receiver n _ => { places with toReceiver := n + 1 }
  | .link _ arrival _ _ _ =>
      match arrival with
      | some (.data n) => { places with data := n + 1 }
      | some (.ack n) => { places with acks := n + 1 }
      | _ => places
  | _ => places

/-- The three loops with the places. -/
def sequenced (crc32 : List UInt8 → UInt32) (relay : Relay) :
    Machine (Observed RelayState Places) RelayAction :=
  (relayed crc32 relay).observe ⟨0, 0, 0, 0, 0⟩ Places.note

/-- The action takes a datagram behind those taken before, at a later time, and no call of the
two programs fails. -/
def InSequence (seen : Observed RelayState Places) : RelayAction → Prop
  | .sender socket read now later _ =>
      socket ≠ some none ∧ (∀ n, socket = some (some n) → seen.noted.toSender ≤ n) ∧
        read ≠ some false ∧ seen.noted.clock ≤ now ∧ now ≤ later
  | .receiver n _ => seen.noted.toReceiver ≤ n
  | .link clock arrival _ _ _ =>
      (∀ time, clock = some time → seen.state.link.lastClock.order < (updateTime time).order) ∧
        (∀ n, arrival = some (.data n) → seen.noted.data ≤ n) ∧
        ∀ n, arrival = some (.ack n) → seen.noted.acks ≤ n
  | _ => True

/-! ## What is still to come -/

/-- Everything that has been sent in a direction. -/
def RelayState.issued (state : RelayState) : Direction → List Datagram
  | .forward => state.data
  | .reverse => state.acks

/-- How much of it has reached the simulator. -/
def Places.entered (places : Places) : Direction → ℕ
  | .forward => places.data
  | .reverse => places.acks

/-- How much of what the simulator has sent has been received. -/
def Places.received (places : Places) : Direction → ℕ
  | .forward => places.toReceiver
  | .reverse => places.toSender

/-- What may still be received in a direction: what the simulator has sent or will send, and then
what has not reached it. -/
def ahead (seen : Observed RelayState Places) (line : List PktSlot) (direction : Direction) :
    List Datagram :=
  ((seen.state.link.flow line direction).map fun parcel => parcel.2.bytes).drop
      (seen.noted.received direction) ++
    (seen.state.issued direction).drop (seen.noted.entered direction)

variable {crc32 : List UInt8 → UInt32} {relay : Relay} {state : RelayState}

/-! ## What reaches the simulator -/

/-- A datagram of a direction is taken as it is. -/
theorem offered_of_issued (acquainted : Acquainted relay state) (issued : Issued crc32 relay state)
    (apart : relay.srcAddr ≠ relay.link.destAddr)
    (small : ∀ chunk ∈ relay.file.chunks, chunk.length ≤ 508) {arrival : Arrival}
    {recv : RecvResult} (arrived : state.arrives relay arrival = some recv) {parcel : Parcel}
    (offer : offered relay.link state.link recv = some parcel) :
    (∃ n, arrival = .data n ∧ parcel.1 = .forward ∧ state.data[n]? = some parcel.2.bytes) ∨
      ∃ n, arrival = .ack n ∧ parcel.1 = .reverse ∧ state.acks[n]? = some parcel.2.bytes := by
  cases arrival with
  | again =>
      cases arrived
      cases offer
  | failed =>
      cases arrived
      cases offer
  | data n =>
      obtain ⟨bytes, found, rfl⟩ := Option.map_eq_some_iff.mp arrived
      have fits := issued.fits small (List.mem_append_left _ (List.mem_of_getElem? found))
      obtain ⟨-, -, -, buf, same, forward⟩ :=
        offered_forward relay.link acquainted.known fits.1
      rw [List.take_of_length_le fits.2] at same
      cases forward.symm.trans offer
      exact Or.inl ⟨n, rfl, rfl, found.trans (congrArg some same.symm)⟩
  | ack n =>
      obtain ⟨bytes, found, rfl⟩ := Option.map_eq_some_iff.mp arrived
      have member := List.mem_of_getElem? found
      have fits := issued.fits small (List.mem_append_right _ member)
      have known : state.link.hasSourceAddr = true := by
        by_contra unknown
        rw [(acquainted.unknown (Bool.eq_false_iff.mpr unknown)).1] at member
        exact absurd member List.not_mem_nil
      have source : state.link.srcAddr ≠ relay.link.destAddr := by
        rw [acquainted.known known]
        exact apart
      obtain ⟨-, buf, same, reverse⟩ := offered_reverse known source fits.1
      rw [List.take_of_length_le fits.2] at same
      cases reverse.symm.trans offer
      exact Or.inr ⟨n, rfl, rfl, found.trans (congrArg some same.symm)⟩

theorem offers_eq_some {link : Link} {state : LinkState} {event : LinkEvent} {parcel : Parcel}
    (offer : state.offers link (.woken event) = some parcel) :
    ∃ recv, event.recv = some recv ∧ offered link state recv = some parcel := by
  unfold LinkState.offers at offer
  dsimp only at offer
  split at offer
  · exact Option.bind_eq_some_iff.mp offer
  · cases offer

/-- No place is passed twice. -/
theorem Places.entered_le {seen : Observed RelayState Places} {clock : Option Timespec}
    {arrival : Option Arrival} {luck : Luck} {malloc realloc : Bool}
    (inSequence : InSequence seen (.link clock arrival luck malloc realloc))
    (direction : Direction) : seen.noted.entered direction ≤
      (seen.noted.note seen.state (.link clock arrival luck malloc realloc)).entered direction := by
  obtain ⟨-, data, acks⟩ := inSequence
  unfold Places.note
  dsimp only
  split
  · rename_i n
    cases direction with
    | forward => exact (data n rfl).trans (Nat.le_succ n)
    | reverse => exact Nat.le_refl _
  · rename_i n
    cases direction with
    | forward => exact Nat.le_refl _
    | reverse => exact (acks n rfl).trans (Nat.le_succ n)
  · exact Nat.le_refl _

/-- The packet that is taken was the next one to reach the simulator, or others before it were
lost. -/
theorem offers_ahead {seen : Observed RelayState Places} (acquainted : Acquainted relay seen.state)
    (issued : Issued crc32 relay seen.state) (apart : relay.srcAddr ≠ relay.link.destAddr)
    (small : ∀ chunk ∈ relay.file.chunks, chunk.length ≤ 508) {clock : Option Timespec}
    {arrival : Option Arrival} {luck : Luck} {malloc realloc : Bool}
    (inSequence : InSequence seen (.link clock arrival luck malloc realloc))
    (direction : Direction) :
    let event : LinkEvent :=
      ⟨clock, arrival.bind (seen.state.arrives relay), luck, malloc, realloc⟩
    let after := seen.noted.note seen.state (.link clock arrival luck malloc realloc)
    (((inDirection direction (seen.state.link.offers relay.link (.woken event)).toList).map
        fun parcel => parcel.2.bytes) ++
      (seen.state.issued direction).drop (after.entered direction)).Sublist
      ((seen.state.issued direction).drop (seen.noted.entered direction)) := by
  intro event after
  have le : seen.noted.entered direction ≤ after.entered direction :=
    Places.entered_le inSequence direction
  cases offer : seen.state.link.offers relay.link (.woken event) with
  | none => exact List.drop_sublist_drop_left _ le
  | some parcel =>
      obtain ⟨recv, received, taken⟩ := offers_eq_some offer
      obtain ⟨arrival', same, arrived⟩ := Option.bind_eq_some_iff.mp received
      subst same
      rcases offered_of_issued acquainted issued apart small arrived taken with
        ⟨n, rfl, forward, found⟩ | ⟨n, rfl, reverse, found⟩
      · cases direction with
        | forward =>
            have one : inDirection .forward (some parcel).toList = [parcel] := by
              simp [inDirection, forward]
            rw [one]
            exact cons_drop_sublist found (inSequence.2.1 n rfl)
        | reverse =>
            have none_ : inDirection .reverse (some parcel).toList = [] := by
              simp [inDirection, forward]
            rw [none_]
            exact List.Sublist.refl _
      · cases direction with
        | forward =>
            have none_ : inDirection .forward (some parcel).toList = [] := by
              simp [inDirection, reverse]
            rw [none_]
            exact List.Sublist.refl _
        | reverse =>
            have one : inDirection .reverse (some parcel).toList = [parcel] := by
              simp [inDirection, reverse]
            rw [one]
            exact cons_drop_sublist found (inSequence.2.2 n rfl)

/-- What an action in sequence says of an iteration of the simulator. -/
structure InTurn (relay : Relay) (seen : Observed RelayState Places) (after : Places)
    (input : LinkInput) : Prop where
  ticks : Ticks seen.state.link input
  clock : after.clock = seen.noted.clock
  received : ∀ direction, after.received direction = seen.noted.received direction
  entered : ∀ direction, (((inDirection direction
      (seen.state.link.offers relay.link input).toList).map fun parcel => parcel.2.bytes) ++
    (seen.state.issued direction).drop (after.entered direction)).Sublist
    ((seen.state.issued direction).drop (seen.noted.entered direction))

theorem inTurn {seen : Observed RelayState Places} (acquainted : Acquainted relay seen.state)
    (issued : Issued crc32 relay seen.state) (apart : relay.srcAddr ≠ relay.link.destAddr)
    (small : ∀ chunk ∈ relay.file.chunks, chunk.length ≤ 508) {action : RelayAction}
    {input : LinkInput} (given : seen.state.input relay action = some (.link input))
    (inSequence : InSequence seen action) :
    InTurn relay seen (seen.noted.note seen.state action) input := by
  cases action with
  | link clock arrival luck malloc realloc =>
      cases given
      have untouched : (seen.noted.note seen.state
          (.link clock arrival luck malloc realloc)).clock = seen.noted.clock ∧
          ∀ direction, (seen.noted.note seen.state
            (.link clock arrival luck malloc realloc)).received direction =
              seen.noted.received direction := by
        unfold Places.note
        dsimp only
        split
        · exact ⟨rfl, fun direction => by cases direction <;> rfl⟩
        · exact ⟨rfl, fun direction => by cases direction <;> rfl⟩
        · exact ⟨rfl, fun _ => rfl⟩
      refine ⟨?_, untouched.1, untouched.2, offers_ahead acquainted issued apart small inSequence⟩
      rintro event time ⟨⟩ now
      exact inSequence.1 time now
  | interrupted =>
      cases given
      exact ⟨(fun _ _ same => by cases same), rfl, fun _ => rfl, fun _ => List.Sublist.refl _⟩
  | selectFailed =>
      cases given
      exact ⟨(fun _ _ same => by cases same), rfl, fun _ => rfl, fun _ => List.Sublist.refl _⟩
  | sender socket read now later past => cases given
  | senderEnds => cases given
  | receiver n past =>
      obtain ⟨bytes, -, same⟩ := Option.map_eq_some_iff.mp given
      cases same
  | receiverEnds => cases given

variable (crc32) in
/-- In an iteration of the simulator nothing is added to what is to come: the flow grows by the
packet that is taken, unless it gets lost. -/
theorem InTurn.ahead {seen : Observed RelayState Places} {after : Places} {input : LinkInput}
    (inTurn : InTurn relay seen after input) {line : List PktSlot}
    (ordered : seen.state.link.pktQueue.Ordered PktSlot.order)
    (lined : Lined relay.link seen.state.link line) (steady : relay.link.jitter = 0)
    (exact_ : relay.link.errRate = 0) :
    let next := seen.state.take crc32 relay (.link input)
    ∃ line', Lined relay.link next.link line' ∧ ∀ direction,
      (System.ahead ⟨next, after⟩ line' direction).Sublist (System.ahead seen line direction) := by
  have iterates := iterate_cases relay.link seen.state.link ordered input
  obtain ⟨line', left, grows⟩ := iterates.flow inTurn.ticks steady lined
  refine ⟨line', left, fun direction => ?_⟩
  obtain ⟨carried, flow, transmits⟩ := grows direction
  have kept := transmits.sublist fun parcel altered alters => by
    rcases alters with same | ⟨corrupts, -⟩
    · exact same
    · exact absurd exact_ corrupts
  have issued : (seen.state.take crc32 relay (.link input)).issued direction =
      seen.state.issued direction := by
    cases direction with
    | forward => rfl
    | reverse => rfl
  have grown : (seen.state.take crc32 relay (.link input)).link.flow line' direction =
      seen.state.link.flow line direction ++ carried := flow
  rw [System.ahead, System.ahead, issued, inTurn.received, grown, List.map_append]
  refine ((drop_append_sublist _ _ _).append_right _).trans ?_
  rw [List.append_assoc]
  refine List.Sublist.append_left ?_ _
  exact ((kept.map _).append_right _).trans (inTurn.entered direction)

end SelectiveRepeat.System

import SelectiveRepeat.LinkSim.Through
import SelectiveRepeat.Receiver.Written
import SelectiveRepeat.Sender.Settled
import SelectiveRepeat.System.Cut
import SelectiveRepeat.System.Served

/-!
# The transfer can always be completed

From every reachable state in which the three loops run, the transfer can still come to its
end, unless a packet has been created, or will be, that is never accepted.  What is missing
is sent through the simulator again, packet after packet, and then chunk after chunk.
-/

namespace SelectiveRepeat.System

open SelectiveRepeat.Foundations SelectiveRepeat.Packet SelectiveRepeat.Transport
open SelectiveRepeat.Receiver SelectiveRepeat.Sender SelectiveRepeat.LinkSim

variable (crc32 : List UInt8 → UInt32)

/-! ## Time -/

/-- The clock that the action reads shows the time. -/
def RelayAction.Shows (time : ℕ) : RelayAction → Prop
  | .sender _ _ now later _ => now = time ∧ later = time
  | .link clock _ _ _ _ => ∀ ts, clock = some ts → ts.sec = time
  | _ => True

/-- The two programs and the simulator read the same clock. -/
inductive OnClock : ℕ → List RelayAction → ℕ → Prop where
  | nil (time : ℕ) : OnClock time [] time
  | cons {first time last : ℕ} {action : RelayAction} {rest : List RelayAction}
      (later : first ≤ time) (shows_ : action.Shows time) (goesOn : OnClock time rest last) :
      OnClock first (action :: rest) last

theorem OnClock.append {first middle last : ℕ} {before after : List RelayAction}
    (earlier : OnClock first before middle) (later : OnClock middle after last) :
    OnClock first (before ++ after) last := by
  induction earlier with
  | nil time => exact later
  | cons le shows_ goesOn ih => exact .cons le shows_ (ih later)

/-! ## Through the simulator -/

variable {relay : Relay} {state : RelayState}

/-- A datagram goes through the simulator. -/
def through (time : ℕ) (arrival : Arrival) : List RelayAction :=
  [.link (some (Timespec.whole time)) (some arrival) .spares true true,
    .link (some (Timespec.whole (time + 11))) none .spares true true]

theorem onClock_through (time : ℕ) (arrival : Arrival) :
    OnClock time (through time arrival) (time + 11) := by
  refine .cons (Nat.le_refl _) ?_ (.cons (Nat.le_add_right _ _) ?_ (.nil _))
  · rintro ts ⟨⟩
    rfl
  · rintro ts ⟨⟩
    rfl

/-- The simulator is idle and knows nobody but the sender. -/
structure Ready (relay : Relay) (link : LinkState) : Prop where
  idle : link.Idle
  known : link.hasSourceAddr = true → link.srcAddr = relay.srcAddr

/-- The datagrams sent to an address, after one call. -/
theorem inbox_of_call {addr : SockAddr} {call : SendTo} {link : LinkState}
    (calls : link.calls = state.link.calls ++ [call]) (done : call.result = .done)
    (same : call.addr = addr) : { state with link := link }.inbox addr =
      state.inbox addr ++ [call.buf.bytes] := by
  unfold RelayState.inbox
  dsimp only
  rw [calls, List.filter_append, List.map_append]
  simp [done, same]

/-- A datagram that the simulator accepts goes through. -/
theorem run_through (passable : relay.link.Passable) (idle : state.link.Idle) {arrival : Arrival}
    {recv : RecvResult} (arrives : state.arrives relay arrival = some recv) {parcel : Parcel}
    (offer : offered relay.link state.link recv = some parcel) (time : ℕ) :
    ∃ link : LinkState, link.Idle ∧ link.srcAddr = (tracked state.link recv).srcAddr ∧
      link.hasSourceAddr = (tracked state.link recv).hasSourceAddr ∧
      (∃ now, link.calls = (tracked state.link recv).calls ++
        [⟨addrFor relay.link (tracked state.link recv) parcel.1, parcel.1, parcel.2, now, .done⟩]) ∧
      (relayed crc32 relay).runFrom state (through time arrival) = { state with link := link } := by
  have wait : (Timespec.whole time).sec + 11 ≤ (Timespec.whole (time + 11)).sec := by
    simp [Timespec.whole]
  have took := idle.takes passable offer (Timespec.whole time)
  obtain ⟨still, src, has, calls⟩ := took.passes passable wait
  refine ⟨_, still, src, has, calls, ?_⟩
  rw [← arrives]
  rfl

/-- A datagram of the sender goes through. -/
theorem through_data (passable : relay.link.Passable) (ready : Ready relay state.link) {n : ℕ}
    {bytes : Datagram} (found : state.data[n]? = some bytes) (enough : minPktLen ≤ bytes.length)
    (time : ℕ) : ∃ link, Ready relay link ∧ link.hasSourceAddr = true ∧
      (relayed crc32 relay).runFrom state (through time (.data n)) = { state with link := link } ∧
      { state with link := link }.inbox relay.link.destAddr =
        state.inbox relay.link.destAddr ++ [bytes.take maxPktLen] := by
  have arrives : state.arrives relay (.data n) = some (.datagram relay.srcAddr bytes) := by
    change (state.data[n]?).map _ = _
    rw [found]
    rfl
  obtain ⟨src, has, same, buf, whole, offer⟩ :=
    offered_forward relay.link ready.known enough
  obtain ⟨link, idle, knows, knowsOne, ⟨now, calls⟩, reached⟩ :=
    run_through crc32 passable ready.idle arrives offer time
  rw [same] at calls
  refine ⟨link, ⟨idle, fun _ => knows.trans src⟩, knowsOne.trans has, reached, ?_⟩
  rw [← whole]
  exact inbox_of_call calls rfl rfl

/-- An acknowledgement goes through. -/
theorem through_ack (passable : relay.link.Passable) (ready : Ready relay state.link)
    (known : state.link.hasSourceAddr = true) (apart : relay.srcAddr ≠ relay.link.destAddr)
    {n : ℕ} {bytes : Datagram} (found : state.acks[n]? = some bytes)
    (enough : minPktLen ≤ bytes.length) (time : ℕ) : ∃ link, Ready relay link ∧
      (relayed crc32 relay).runFrom state (through time (.ack n)) = { state with link := link } ∧
      { state with link := link }.inbox relay.srcAddr =
        state.inbox relay.srcAddr ++ [bytes.take maxPktLen] := by
  have arrives : state.arrives relay (.ack n) = some (.datagram relay.link.destAddr bytes) := by
    change (state.acks[n]?).map _ = _
    rw [found]
    rfl
  have src := ready.known known
  obtain ⟨same, buf, whole, offer⟩ := offered_reverse known (src ▸ apart) enough
  obtain ⟨link, idle, knows, knowsOne, ⟨now, calls⟩, reached⟩ :=
    run_through crc32 passable ready.idle arrives offer time
  rw [same] at calls knows
  refine ⟨link, ⟨idle, fun _ => knows.trans src⟩, reached, ?_⟩
  rw [← whole]
  exact inbox_of_call calls rfl src

/-! ## The receiver -/

/-- The packet with the next number is written. -/
theorem receiver_advances {state : ReceiverState} (running : state.running = true)
    (ordered : state.Ordered) (zero : ZeroFrom maxPktLen state.buffer) {pkt : Pkt}
    (encodable : pkt.Encodable) (data : pkt.type = 1) (deliverable : Deliverable crc32 pkt)
    (number : pkt.seqnum.toNat = state.writes.length % 256) (past : Memory) :
    let after := state.iterate crc32 fullWrite
      (.readable (some ((pkt.wire crc32).take maxPktLen)) past Heap.plenty)
    after.running = true ∧ state.writes.length < after.writes.length := by
  intro after
  have expected : pkt.seqnum = state.seqnum := by
    apply UInt8.toNat_inj.mp
    rw [number, ordered.expected]
  let accepted := (state.receive crc32 (some ((pkt.wire crc32).take maxPktLen)) past
    Heap.plenty).accept fullWrite ⟨state.receptions.length, pkt.onWire crc32⟩
  have step : after = (accepted.drain fullWrite 0).sendAck crc32 := by
    unfold after
    rw [state.iterate_readable crc32 fullWrite _ past Heap.plenty running
        (decode_cut crc32 zero encodable deliverable past),
      ReceiverState.handle_of_expected crc32 fullWrite _ data expected (Int.natCast_nonneg _)]
  have writes : accepted.writes.length = state.writes.length + 1 := List.length_append
  have drained : (accepted.drain fullWrite 0).writes = accepted.writes ++ _ :=
    accepted.drain_writes fullWrite 0
  rw [step]
  constructor
  · change (accepted.drain fullWrite 0).running = true
    rw [accepted.drain_frame fullWrite 0]
    exact running
  · change state.writes.length < (accepted.drain fullWrite 0).writes.length
    rw [drained, List.length_append, writes]
    omega

/-! ## Leading on -/

section Leading

variable (relay)

/-- Actions by the clock lead from one state to the other. -/
def Leads (first : ℕ) (state : RelayState) (last : ℕ) (reached : RelayState) : Prop :=
  ∃ actions, OnClock first actions last ∧ (relayed crc32 relay).runFrom state actions = reached

/-- The three programs are in their loops, nothing waits in the simulator, and every packet
created carries a chunk. -/
structure Live (state : RelayState) : Prop where
  going : Going crc32 relay state
  sender : state.sender.Chunked state.sender.chunks
  running : state.receiver.running = true
  idle : state.link.Idle

/-- The sender has met the end of the file, and the receiver has written all of it. -/
structure Transferred (state : RelayState) : Prop where
  created : state.sender.created.length ≤ 255
  exit : state.sender.exit = some .endOfFile
  writes : state.receiver.writes.map WriteCall.output = relay.file.chunks

variable {crc32 relay}

theorem Leads.trans {first middle last : ℕ} {between reached : RelayState}
    (before : Leads crc32 relay first state middle between)
    (after : Leads crc32 relay middle between last reached) :
    Leads crc32 relay first state last reached := by
  obtain ⟨first, onClock, rfl⟩ := before
  obtain ⟨second, later, rfl⟩ := after
  exact ⟨first ++ second, onClock.append later, Machine.runFrom_append _ _ _ _⟩

theorem Leads.step (action : RelayAction) {first time : ℕ} (later : first ≤ time)
    (shows_ : action.Shows time) :
    Leads crc32 relay first state time (state.step crc32 relay action) :=
  ⟨[action], .cons later shows_ (.nil _), rfl⟩

theorem Going.leads (going : Going crc32 relay state) (intact : Intact crc32 relay)
    {first last : ℕ} {reached : RelayState} (leads : Leads crc32 relay first state last reached)
    (short : reached.sender.created.length ≤ 255) : Going crc32 relay reached := by
  obtain ⟨actions, -, rfl⟩ := leads
  exact going.runFrom intact actions short

namespace Live

variable (live : Live crc32 relay state)

include live

theorem ready : Ready relay state.link := ⟨live.idle, live.going.served.known⟩

theorem short (few : relay.file.chunks.length ≤ 255) : state.sender.created.length ≤ 255 := by
  rw [live.sender.created]
  exact live.going.sound.chunks.length_le.trans few

/-- Every packet created has a payload. -/
theorem encodable {pkt : Pkt} (created : pkt ∈ state.sender.created) : pkt.Encodable := by
  have composed := live.going.sound.composed
  have whole := live.sender.created
  rw [← composed.chunks] at whole
  have carries := List.filterMap_length_eq_length.mp whole.symm pkt created
  refine (composed.shaped pkt created).resolve_right fun bare => ?_
  rw [bare.1] at carries
  exact Bool.noConfusion carries

/-- Every packet created can be accepted. -/
theorem deliverable (uncut : ∀ chunk ∈ relay.file.chunks, Uncut crc32 chunk) {pkt : Pkt}
    (created : pkt ∈ state.sender.created) : Deliverable crc32 pkt := by
  rcases (live.encodable created).payload with ⟨chunk, payload, -⟩ | ⟨-, other⟩
  · have read : chunk ∈ state.sender.chunks := by
      rw [← live.going.sound.composed.chunks]
      exact List.mem_filterMap.mpr ⟨pkt, created, payload⟩
    exact ⟨chunk, payload, uncut chunk (live.going.sound.chunks.subset read)⟩
  · exact absurd (live.going.sound.composed.data pkt created) other

/-- Where nothing has been created, nothing is to be acknowledged. -/
theorem settled (nothing : state.receiver.writes = [])
    (nobody : state.sender.chunks.length = 0) : state.sender.Settled state.sender.chunks := by
  have lastack := live.going.sound.lastack
  rw [nothing, List.length_nil, Nat.le_zero] at lastack
  refine ⟨live.sender, lastack.trans nobody.symm, ?_⟩
  funext index
  cases held : state.sender.senderBuffer index with
  | none => rfl
  | some packet =>
      have less := live.sender.books.addr_lt held
      rw [live.sender.created, nobody] at less
      exact absurd less (Nat.not_lt_zero _)

end Live

/-! ## What is missing -/

section Missing

variable (intact : Intact crc32 relay) (passable : relay.link.Passable)
  (few : relay.file.chunks.length ≤ 255)

include intact passable few

/-- The packet with the number of the next write goes through once more and is written. -/
theorem Live.writesNext (live : Live crc32 relay state)
    (uncut : ∀ chunk ∈ relay.file.chunks, Uncut crc32 chunk)
    (behind : state.receiver.writes.length < state.sender.created.length) (time : ℕ) :
    ∃ last reached, Leads crc32 relay time state last reached ∧ Live crc32 relay reached ∧
      reached.sender = state.sender ∧
      state.receiver.writes.length < reached.receiver.writes.length := by
  have sound := live.going.sound
  have created := List.getElem?_eq_getElem behind
  generalize state.sender.created[state.receiver.writes.length] = pkt at created
  have member := List.mem_of_getElem? created
  have encodable := live.encodable member
  have deliverable := live.deliverable uncut member
  -- it is among the datagrams sent, and the simulator passes it on
  obtain ⟨n, found⟩ := List.mem_iff_getElem?.mp (live.going.served.sent pkt member)
  have enough : minPktLen ≤ (pkt.wire crc32).length := by
    rw [Pkt.length_wire, minPktLen]
    split
    · omega
    · omega
  obtain ⟨link, ready, -, passed, inbox⟩ :=
    through_data crc32 passable live.ready found enough time
  -- the receiver expects it
  obtain ⟨inputs, along, same⟩ := sound.receiver
  have ordered := ReceiverState.ordered_run crc32 fullWrite inputs
  have zero := ReceiverState.zeroFrom_run crc32 fullWrite (by decide) along
  rw [← same] at ordered zero
  have number := sound.books.numbered _ _ created
  obtain ⟨running, more⟩ := receiver_advances crc32 live.running ordered zero encodable
    (sound.composed.data pkt member) deliverable number fun _ => 0
  have at_ : (RelayState.inbox { state with link := link } relay.link.destAddr)[
      (state.inbox relay.link.destAddr).length]? = some ((pkt.wire crc32).take maxPktLen) := by
    rw [inbox, List.getElem?_concat_length]
  have takes := RelayState.step_receiver crc32 relay { state with link := link } at_ fun _ => 0
  have leads : Leads crc32 relay time state (time + 11) _ :=
    Leads.trans ⟨_, onClock_through time (.data n), passed⟩
      (Leads.step (.receiver (state.inbox relay.link.destAddr).length fun _ => 0) le_rfl
        trivial)
  rw [takes] at leads
  exact ⟨_, _, leads, ⟨live.going.leads intact leads (live.short few), live.sender, running,
    ready.idle⟩, rfl, more⟩

/-- All packets created are written. -/
theorem Live.writesAll (live : Live crc32 relay state)
    (uncut : ∀ chunk ∈ relay.file.chunks, Uncut crc32 chunk) (time : ℕ) :
    ∃ last reached, Leads crc32 relay time state last reached ∧ Live crc32 relay reached ∧
      reached.sender = state.sender ∧
      reached.receiver.writes.length = state.sender.created.length := by
  have le := live.going.sound.writes_le intact (live.short few)
  induction rest : state.sender.created.length - state.receiver.writes.length
    using Nat.strong_induction_on generalizing state time with
  | _ left ih =>
      rcases Nat.lt_or_eq_of_le le with behind | same
      · obtain ⟨middle, between, before, goesOn, sender, more⟩ :=
          live.writesNext intact passable few uncut behind time
        have still := goesOn.going.sound.writes_le intact (goesOn.short few)
        have fewer : between.sender.created.length - between.receiver.writes.length < left := by
          rw [sender]
          omega
        obtain ⟨last, reached, after, live, same, all⟩ :=
          ih _ fewer goesOn middle still rfl
        exact ⟨last, reached, before.trans after, live, same.trans sender, sender ▸ all⟩
      · exact ⟨time, state, ⟨[], .nil time, rfl⟩, live, rfl, same⟩

/-! ## The next chunk -/

omit passable in
/-- A sender whose packets are all acknowledged looks at the file: it sends the next chunk, or
meets the end. -/
theorem Live.looked (live : Live crc32 relay state) {time : ℕ} {event : SenderEvent}
    {reached : SenderState} (settled : reached.Settled state.sender.chunks)
    (iterated : state.sender.iterate crc32 secondOf relay.stdin (.polled event) =
      reached.fileBranch crc32 secondOf relay.stdin event)
    (read : event.read = some (some (relay.file.next state.sender.chunks.length)))
    (plenty : event.payloadHeap = Heap.plenty)
    (leads : Leads crc32 relay time state time
      (state.take crc32 relay (.sender (.polled event)))) :
    let after := state.take crc32 relay (.sender (.polled event))
    Live crc32 relay after ∧ after.sender.created.length = state.sender.created.length + 1 ∨
      Transferred relay after := by
  have before := live.going.sound.chunks
  generalize after_ : state.take crc32 relay (.sender (.polled event)) = after at leads ⊢
  have sender : after.sender = reached.fileBranch crc32 secondOf relay.stdin event := by
    rw [← after_, ← iterated]
    rfl
  have receiver : after.receiver = state.receiver := by
    rw [← after_]
    rfl
  have link : after.link = state.link := by
    rw [← after_]
    rfl
  by_cases more : state.sender.chunks.length < relay.file.chunks.length
  · have at_ := List.getElem?_eq_getElem more
    have next : relay.file.next state.sender.chunks.length =
        relay.file.chunks[state.sender.chunks.length] := by
      rw [File.next, at_, Option.getD_some]
    have sized := relay.file.sized _ (List.mem_of_getElem? at_)
    rw [next] at read
    have chunked := settled.reads crc32 secondOf relay.stdin read sized.1 sized.2 plenty
    rw [← sender] at chunked
    have one : after.sender.created.length = state.sender.created.length + 1 := by
      rw [chunked.created, List.length_append, live.sender.created]
      rfl
    have short : after.sender.created.length ≤ 255 := by
      rw [one, live.sender.created]
      omega
    refine Or.inl ⟨⟨live.going.leads intact leads short, ?_, receiver ▸ live.running,
      link ▸ live.idle⟩, one⟩
    rw [chunked.chunks]
    exact chunked
  · have nothing : relay.file.next state.sender.chunks.length = [] := by
      rw [File.next, List.getElem?_eq_none (Nat.not_lt.mp more), Option.getD_none]
    rw [nothing] at read
    rw [settled.ends crc32 secondOf relay.stdin read] at sender
    have short : after.sender.created.length ≤ 255 := by
      rw [sender]
      exact settled.created.trans_le (before.length_le.trans few)
    have exit : after.sender.exit = some .endOfFile := by rw [sender]
    have going := live.going.leads intact leads short
    exact Or.inr ⟨short, exit, going.sound.complete intact short exit⟩

/-- Once all packets created are written, the sender comes to look at the file. -/
theorem Live.looks (live : Live crc32 relay state) (empty : crc32 [] = 0)
    (apart : relay.srcAddr ≠ relay.link.destAddr)
    (written : state.receiver.writes.length = state.sender.created.length) (time : ℕ) :
    ∃ last reached, Leads crc32 relay time state last reached ∧
      (Live crc32 relay reached ∧
          reached.sender.created.length = state.sender.created.length + 1 ∨
        Transferred relay reached) := by
  by_cases nothing : state.receiver.writes = []
  · have settled := live.settled nothing (live.sender.created.symm.trans (written ▸ congrArg _ nothing))
    let event : SenderEvent := ⟨time, none, fun _ => 0, Heap.plenty,
      some (some (relay.file.next state.sender.chunks.length)), time, Heap.plenty⟩
    have silent : event.recv = none := rfl
    obtain ⟨reached, still, iterated⟩ :=
      settled.iterate_silent crc32 secondOf relay.stdin silent
    have leads : Leads crc32 relay time state time
        (state.take crc32 relay (.sender (.polled event))) :=
      Leads.step (.sender none (some true) time time fun _ => 0) le_rfl ⟨rfl, rfl⟩
    exact ⟨time, _, leads, live.looked intact few still iterated rfl rfl leads⟩
  · -- the number of writes has been sent
    obtain ⟨window, member⟩ := live.going.served.acked nothing
    rw [written, live.sender.created] at member
    have known : state.link.hasSourceAddr = true := by
      by_contra unknown
      rw [(live.going.served.unknown (Bool.not_eq_true _ ▸ unknown)).1] at member
      exact List.not_mem_nil member
    obtain ⟨n, found⟩ := List.mem_iff_getElem?.mp member
    obtain ⟨link, ready, passed, inbox⟩ := through_ack crc32 passable live.ready known apart found
      (by rw [length_ackDatagram]; decide) time
    rw [List.take_of_length_le (by rw [length_ackDatagram]; decide)] at inbox
    have through_ : Leads crc32 relay time state (time + 11) { state with link := link } :=
      ⟨_, onClock_through time (.ack n), passed⟩
    have goesOn : Live crc32 relay { state with link := link } :=
      ⟨live.going.leads intact through_ (live.short few), live.sender, live.running, ready.idle⟩
    let event : SenderEvent := ⟨time + 11, some (some (ackDatagram crc32 window
      (UInt8.ofNat state.sender.chunks.length))), fun _ => 0, Heap.plenty,
      some (some (relay.file.next state.sender.chunks.length)), time + 11, Heap.plenty⟩
    have received : event.recv = some (some (ackDatagram crc32 window
      (UInt8.ofNat state.sender.chunks.length))) := rfl
    obtain ⟨reached, settled, iterated⟩ := live.sender.iterate_ack crc32 secondOf relay.stdin
      (live.sender.created.symm.trans_le (live.short few)) empty received rfl
    have at_ : (RelayState.inbox { state with link := link } relay.srcAddr)[
        (state.inbox relay.srcAddr).length]? = some (ackDatagram crc32 window
          (UInt8.ofNat state.sender.chunks.length)) := by
      rw [inbox, List.getElem?_concat_length]
    have takes := RelayState.step_sender crc32 relay { state with link := link } at_
      (time + 11) (time + 11) fun _ => 0
    have looks : Leads crc32 relay (time + 11) { state with link := link } (time + 11) _ :=
      Leads.step (.sender (some (some (state.inbox relay.srcAddr).length)) (some true)
        (time + 11) (time + 11) fun _ => 0) le_rfl ⟨rfl, rfl⟩
    rw [takes] at looks
    exact ⟨_, _, through_.trans looks,
      goesOn.looked intact few settled iterated rfl rfl looks⟩

/-! ## To the end -/

/-- Chunk after chunk, the whole file is transferred. -/
theorem Live.completes (live : Live crc32 relay state) (empty : crc32 [] = 0)
    (apart : relay.srcAddr ≠ relay.link.destAddr)
    (uncut : ∀ chunk ∈ relay.file.chunks, Uncut crc32 chunk) (time : ℕ) :
    ∃ last reached, Leads crc32 relay time state last reached ∧ Transferred relay reached := by
  induction left : 256 - state.sender.created.length using Nat.strong_induction_on
    generalizing state time with
  | _ rest ih =>
      obtain ⟨middle, between, writes, goesOn, sender, written⟩ :=
        live.writesAll intact passable few uncut time
      rw [← sender] at written
      obtain ⟨later, reached, looks, ⟨next, one⟩ | done⟩ :=
        goesOn.looks intact passable few empty apart written middle
      · have short := next.short few
        have fewer : 256 - reached.sender.created.length < rest := by
          rw [one, sender] at short ⊢
          omega
        obtain ⟨last, end_, after, done⟩ := ih _ fewer next later rfl
        exact ⟨last, end_, (writes.trans looks).trans after, done⟩
      · exact ⟨later, reached, writes.trans looks, done⟩

end Missing

end Leading

/-! ## Exactly when -/

section Exactly

variable {crc32} (intact : Intact crc32 relay)

include intact

/-- Where no packet without payload has been created, the simulator becomes idle. -/
theorem Going.flushes (going : Going crc32 relay state) (passable : relay.link.Passable)
    (short : state.sender.created.length ≤ 255) (sends : state.sender.exit = none)
    (receives : state.receiver.running = true) (passes : state.link.running = true)
    (carries : ∀ pkt ∈ state.sender.created, pkt.payload ≠ none) (time : ℕ) :
    ∃ last reached, Leads crc32 relay time state last reached ∧ Live crc32 relay reached := by
  have sound := going.sound
  obtain ⟨later, le, late⟩ := exists_late state.link.pktQueue.items time
  obtain ⟨idle, -, -⟩ := iterate_flushes passable passes sound.queue late
  have created : state.sender.created.length = state.sender.chunks.length := by
    rw [← sound.composed.chunks]
    exact (List.filterMap_length_eq_length.mpr fun pkt member =>
      Option.isSome_iff_ne_none.mpr (carries pkt member)).symm
  have leads : Leads crc32 relay time state later (state.step crc32 relay
      (.link (some (Timespec.whole later)) none .spares true true)) := by
    refine Leads.step _ le ?_
    rintro ts ⟨⟩
    rfl
  exact ⟨later, _, leads, going.leads intact leads short, ⟨sends, sound.books, rfl, created⟩,
    receives, idle⟩

/-- Every packet of a transfer that was completed could be accepted. -/
theorem Transferred.deliverable (transferred : Transferred relay state)
    (sound : Sound crc32 relay state) {pkt : Pkt} (created : pkt ∈ state.sender.created) :
    Deliverable crc32 pkt := by
  obtain ⟨k, found⟩ := List.mem_iff_getElem?.mp created
  have written := sound.all_written transferred.exit (List.getElem?_eq_some_iff.mp found).1
  exact sound.deliverable_of_lt intact transferred.created written found

/-- No chunk of a file that was transferred is cut. -/
theorem Transferred.uncut (transferred : Transferred relay state) (sound : Sound crc32 relay state)
    {chunk : List UInt8} (member : chunk ∈ relay.file.chunks) : Uncut crc32 chunk := by
  rw [← sound.finished transferred.exit, ← sound.composed.chunks] at member
  obtain ⟨pkt, created, payload⟩ := List.mem_filterMap.mp member
  obtain ⟨held, same, uncut⟩ := transferred.deliverable intact sound created
  obtain rfl := Option.some.inj (same.symm.trans payload)
  exact uncut

/-- Where besides no chunk is cut, the transfer can be completed. -/
theorem Going.completes (going : Going crc32 relay state) (empty : crc32 [] = 0)
    (passable : relay.link.Passable) (apart : relay.srcAddr ≠ relay.link.destAddr)
    (few : relay.file.chunks.length ≤ 255) (short : state.sender.created.length ≤ 255)
    (sends : state.sender.exit = none) (receives : state.receiver.running = true)
    (passes : state.link.running = true)
    (carries : ∀ pkt ∈ state.sender.created, pkt.payload ≠ none)
    (uncut : ∀ chunk ∈ relay.file.chunks, Uncut crc32 chunk) (time : ℕ) :
    ∃ last reached, Leads crc32 relay time state last reached ∧ Transferred relay reached := by
  obtain ⟨middle, flushed, before, live⟩ :=
    going.flushes intact passable short sends receives passes carries time
  obtain ⟨last, reached, after, done⟩ :=
    live.completes intact passable few empty apart uncut middle
  exact ⟨last, reached, before.trans after, done⟩

end Exactly

end SelectiveRepeat.System

import SelectiveRepeat.LinkSim.Passage
import SelectiveRepeat.System.Network

/-!
# The two programs and the link simulator

The sender and the receiver exchange datagrams through the simulator only.  A datagram
that one of the three has sent may reach the next one at any time, in any order, any
number of times or never.
-/

namespace SelectiveRepeat.System

open SelectiveRepeat.Foundations SelectiveRepeat.Packet SelectiveRepeat.Transport
open SelectiveRepeat.Receiver SelectiveRepeat.Sender SelectiveRepeat.LinkSim

structure RelayState where
  sender : SenderState
  link : LinkState
  receiver : ReceiverState
  /-- Everything that the sender has sent. -/
  data : List Datagram
  /-- Everything that the receiver has sent. -/
  acks : List Datagram

/-- What the simulator's `recvfrom` returns: nothing for now, an error, or one of the datagrams
sent to it, counted from 0. -/
inductive Arrival where
  | again
  | failed
  | data (n : ℕ)
  | ack (n : ℕ)

/-- One iteration of one of the three loops.  A datagram sent by the simulator is given by its
place among those sent to the address. -/
inductive RelayAction where
  /-- `socket` is what `recvfrom` returns if the socket is readable, and `read` says whether the
  file is readable and whether `read` succeeds. -/
  | sender (socket : Option (Option ℕ)) (read : Option Bool) (now later : ℕ) (past : Memory)
  | senderEnds
  | receiver (n : ℕ) (past : Memory)
  | receiverEnds
  | interrupted
  | selectFailed
  | link (clock : Option Timespec) (arrival : Option Arrival) (luck : Luck) (malloc realloc : Bool)

/-- The input of one of the three loops. -/
inductive PartyInput where
  | sender (input : SenderInput)
  | receiver (input : ReceiverInput)
  | link (input : LinkInput)

/-- The files and the hosts: the file that is sent, the simulator, and the address from which
the sender sends. -/
structure Relay where
  stdin : Bool
  file : File
  link : Link
  srcAddr : SockAddr
  first : Timespec

namespace RelayState

variable (crc32 : List UInt8 → UInt32) (relay : Relay) (state : RelayState)

def start : RelayState where
  sender := .start
  link := .start relay.link relay.first
  receiver := .start
  data := []
  acks := []

/-- The datagrams that the simulator has sent to an address. -/
def inbox (addr : SockAddr) : List Datagram :=
  (state.link.calls.filter fun call => call.result = .done ∧ call.addr = addr).map
    fun call => call.buf.bytes

/-- What the simulator receives. -/
def arrives : Arrival → Option RecvResult
  | .again => some .again
  | .failed => some .failed
  | .data n => (state.data[n]?).map (.datagram relay.srcAddr)
  | .ack n => (state.acks[n]?).map (.datagram relay.link.destAddr)

/-- The input that an action gives to one of the three. -/
def input : RelayAction → Option PartyInput
  | .sender socket read now later past =>
      some (.sender (.polled
        { now := now
          recv := socket.bind fun result => match result with
            | none => some none
            | some n => ((state.inbox relay.srcAddr)[n]?).map some
          past := past
          heap := Heap.plenty
          read := read.map fun ok =>
            if ok then some (relay.file.next state.sender.chunks.length) else none
          later := later
          payloadHeap := Heap.plenty }))
  | .senderEnds => some (.sender .pollEnds)
  | .receiver n past =>
      ((state.inbox relay.link.destAddr)[n]?).map fun bytes =>
        .receiver (.readable (some bytes) past Heap.plenty)
  | .receiverEnds => some (.receiver .pollEnds)
  | .interrupted => some (.link .interrupted)
  | .selectFailed => some (.link .selectFailed)
  | .link clock arrival luck malloc realloc =>
      some (.link (.woken ⟨clock, arrival.bind (state.arrives relay), luck, malloc, realloc⟩))

/-- The state after one of the three has taken an input. -/
def take : PartyInput → RelayState
  | .sender input =>
      let sender := state.sender.iterate crc32 secondOf relay.stdin input
      { state with sender := sender, data := state.data ++ sender.sent }
  | .receiver input =>
      let receiver := state.receiver.iterate crc32 fullWrite input
      { state with receiver := receiver, acks := state.acks ++ receiver.sent }
  | .link input => { state with link := state.link.iterate relay.link input }

/-- One action. -/
def step (action : RelayAction) : RelayState :=
  match state.input relay action with
  | some input => state.take crc32 relay input
  | none => state

/-- The receiver takes a datagram sent to it. -/
theorem step_receiver {n : ℕ} {bytes : Datagram}
    (found : (state.inbox relay.link.destAddr)[n]? = some bytes) (past : Memory) :
    state.step crc32 relay (.receiver n past) =
      state.take crc32 relay (.receiver (.readable (some bytes) past Heap.plenty)) := by
  have input : state.input relay (.receiver n past) =
      some (.receiver (.readable (some bytes) past Heap.plenty)) := by
    change ((state.inbox relay.link.destAddr)[n]?).map _ = _
    rw [found]
    rfl
  rw [step, input]

/-- The sender takes a datagram sent to it and looks at the file. -/
theorem step_sender {n : ℕ} {bytes : Datagram}
    (found : (state.inbox relay.srcAddr)[n]? = some bytes) (now later : ℕ) (past : Memory) :
    state.step crc32 relay (.sender (some (some n)) (some true) now later past) =
      state.take crc32 relay (.sender (.polled ⟨now, some (some bytes), past, Heap.plenty,
        some (some (relay.file.next state.sender.chunks.length)), later, Heap.plenty⟩)) := by
  have recv : ((some (some n)).bind fun result => match result with
      | none => some none
      | some n => ((state.inbox relay.srcAddr)[n]?).map some) = some (some bytes) := by
    change ((state.inbox relay.srcAddr)[n]?).map some = _
    rw [found]
    rfl
  rw [step, input, recv]
  rfl

end RelayState

/-- The three loops and what lies between them. -/
def relayed (crc32 : List UInt8 → UInt32) (relay : Relay) : Machine RelayState RelayAction where
  start := .start relay
  step := RelayState.step crc32 relay

@[simp] theorem relayed_step (crc32 : List UInt8 → UInt32) (relay : Relay) :
    (relayed crc32 relay).step = RelayState.step crc32 relay := rfl

/-! ## What the three receive -/

namespace RelayState

variable {crc32 : List UInt8 → UInt32} {relay : Relay} {state : RelayState}

variable (relay) in
/-- Where the parts of an input come from. -/
inductive Sources (state : RelayState) : PartyInput → Prop where
  | senderEnds : Sources state (.sender .pollEnds)
  | sender (event : SenderEvent) (heap : event.payloadHeap = Heap.plenty)
      (recv : ∀ bytes, event.recv = some (some bytes) →
        ∃ call ∈ state.link.calls, bytes = call.buf.bytes)
      (read : ∀ bytes, event.read = some (some bytes) →
        bytes = relay.file.next state.sender.chunks.length) :
      Sources state (.sender (.polled event))
  | receiverEnds : Sources state (.receiver .pollEnds)
  | receiver (bytes : Datagram) (past : Memory)
      (recv : ∃ call ∈ state.link.calls, bytes = call.buf.bytes) :
      Sources state (.receiver (.readable (some bytes) past Heap.plenty))
  | link (input : LinkInput)
      (recv : ∀ event sender datagram, input = .woken event →
        event.recv = some (.datagram sender datagram) →
          (sender = relay.srcAddr ∧ datagram ∈ state.data) ∨
            (sender = relay.link.destAddr ∧ datagram ∈ state.acks)) :
      Sources state (.link input)

theorem mem_inbox {addr : SockAddr} {n : ℕ} {bytes : Datagram}
    (found : (state.inbox addr)[n]? = some bytes) :
    ∃ call ∈ state.link.calls, bytes = call.buf.bytes := by
  obtain ⟨call, member, rfl⟩ := List.mem_map.mp (List.mem_of_getElem? found)
  exact ⟨call, List.mem_of_mem_filter member, rfl⟩

theorem arrives_datagram {arrival : Arrival} {sender : SockAddr} {datagram : Datagram}
    (arrived : state.arrives relay arrival = some (.datagram sender datagram)) :
    (sender = relay.srcAddr ∧ datagram ∈ state.data) ∨
      (sender = relay.link.destAddr ∧ datagram ∈ state.acks) := by
  cases arrival with
  | again => cases arrived
  | failed => cases arrived
  | data n =>
      obtain ⟨found, at_, same⟩ := Option.map_eq_some_iff.mp arrived
      cases same
      exact Or.inl ⟨rfl, List.mem_of_getElem? at_⟩
  | ack n =>
      obtain ⟨found, at_, same⟩ := Option.map_eq_some_iff.mp arrived
      cases same
      exact Or.inr ⟨rfl, List.mem_of_getElem? at_⟩

theorem sources_of_input {action : RelayAction} {input : PartyInput}
    (given : state.input relay action = some input) : Sources relay state input := by
  cases action with
  | sender socket read now later past =>
      cases given
      refine .sender _ rfl (fun bytes received => ?_) fun bytes found => ?_
      · dsimp only at received
        obtain ⟨result, -, found⟩ := Option.bind_eq_some_iff.mp received
        cases result with
        | none => cases found
        | some n =>
            obtain ⟨datagram, at_, same⟩ := Option.map_eq_some_iff.mp found
            cases same
            exact mem_inbox at_
      · dsimp only at found
        obtain ⟨ok, -, same⟩ := Option.map_eq_some_iff.mp found
        split at same
        · exact (Option.some.inj same).symm
        · cases same
  | senderEnds =>
      cases given
      exact .senderEnds
  | receiver n past =>
      obtain ⟨bytes, at_, same⟩ := Option.map_eq_some_iff.mp given
      cases same
      exact .receiver bytes past (mem_inbox at_)
  | receiverEnds =>
      cases given
      exact .receiverEnds
  | interrupted =>
      cases given
      exact .link _ nofun
  | selectFailed =>
      cases given
      exact .link _ nofun
  | link clock arrival luck malloc realloc =>
      cases given
      refine .link _ fun event sender datagram same received => ?_
      cases same
      obtain ⟨found, -, arrived⟩ := Option.bind_eq_some_iff.mp received
      exact arrives_datagram arrived

end RelayState

/-! ## A relay -/

/-- The file goes through a link that loses, corrupts and delays packets in both directions. -/
def noisyRelay (file : File) : Relay where
  stdin := false
  file := file
  link :=
    { delay := 100
      jitter := 30
      errRate := 20
      lossRate := 50
      linkDirection := .bothWays
      destAddr := ⟨0, 1341⟩
      sendto := fun _ => .done
      slots := slowLink.slots }
  srcAddr := ⟨0, 1⟩
  first := epoch

def threeBytes : File := ⟨[[1, 2, 3]], by decide⟩

/-- The sender receives nothing and looks at the file. -/
def look : RelayAction := .sender none (some true) 0 0 fun _ => 0

end SelectiveRepeat.System

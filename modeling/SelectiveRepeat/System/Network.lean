import SelectiveRepeat.Receiver.InOrder
import SelectiveRepeat.Sender.Step

/-!
# The two loops and the network between them

One channel carries the datagrams of each side.  It may lose any datagram and delay
it as long as it likes, but it keeps the order.  An action is an iteration of one of
the loops or the loss of a datagram, so a list of actions is an interleaving.
-/

namespace SelectiveRepeat.System

open SelectiveRepeat.Foundations SelectiveRepeat.Packet SelectiveRepeat.Transport
open SelectiveRepeat.Receiver SelectiveRepeat.Sender

/-- A file, cut into the chunks that `read` returns. -/
structure File where
  chunks : List (List UInt8)
  sized : ∀ chunk ∈ chunks, 0 < chunk.length ∧ chunk.length ≤ maxPayloadSize

/-- What `read` returns after `n` chunks; 0 bytes at the end of the file. -/
def File.next (file : File) (n : ℕ) : List UInt8 := (file.chunks[n]?).getD []

theorem File.length_next (file : File) (n : ℕ) : (file.next n).length ≤ maxPayloadSize := by
  unfold File.next
  cases found : file.chunks[n]? with
  | none => exact Nat.zero_le _
  | some chunk => exact (file.sized chunk (List.mem_of_getElem? found)).2

theorem File.prefix_next (file : File) {chunks : List (List UInt8)} (before : chunks <+: file.chunks)
    (nonempty : 0 < (file.next chunks.length).length) :
    chunks ++ [file.next chunks.length] <+: file.chunks := by
  obtain ⟨rest, split⟩ := before
  unfold File.next at nonempty ⊢
  rw [← split, List.getElem?_append_right (Nat.le_refl _), Nat.sub_self] at nonempty ⊢
  cases rest with
  | nil => exact absurd nonempty (Nat.lt_irrefl 0)
  | cons chunk rest => exact ⟨rest, List.append_assoc chunks [chunk] rest⟩

structure SystemState where
  sender : SenderState
  receiver : ReceiverState
  /-- The datagrams under way to the receiver, oldest first. -/
  data : List Datagram
  /-- The datagrams under way to the sender, oldest first. -/
  acks : List Datagram
  clock : ℕ

inductive Action where
  /-- An iteration of `read_write_loop` with what `poll` reports of the socket and the file,
  the memory after the receive buffer, and the seconds until packets are sent again and
  from then until a packet is created. -/
  | sender (socket readable : Bool) (past : Memory) (wait work : ℕ)
  /-- `poll` ends the sender's loop. -/
  | senderEnds
  /-- An iteration of `receiver_loop` on the oldest datagram. -/
  | receiver (past : Memory)
  /-- `poll` ends the receiver's loop. -/
  | receiverEnds
  | loseData (index : ℕ)
  | loseAck (index : ℕ)

namespace SystemState

def start : SystemState where
  sender := .start
  receiver := .start
  data := []
  acks := []
  clock := 0

variable (crc32 : List UInt8 → UInt32) (stdin : Bool) (file : File) (state : SystemState)

/-- What the sender's iteration meets. -/
def event (socket readable : Bool) (past : Memory) (wait work : ℕ) : SenderEvent where
  now := state.clock + wait
  recv := if socket ∧ state.sender.exit = none then state.acks.head?.map some else none
  past := past
  heap := Heap.plenty
  read := if readable then some (some (file.next state.sender.chunks.length)) else none
  later := state.clock + wait + work
  payloadHeap := Heap.plenty

/-- The input that an action gives to the sender. -/
def senderInput : Action → Option SenderInput
  | .sender socket readable past wait work =>
      some (.polled (state.event file socket readable past wait work))
  | .senderEnds => some .pollEnds
  | _ => none

/-- The input that an action gives to the receiver. -/
def receiverInput : Action → Option ReceiverInput
  | .receiver past => state.data.head?.map fun datagram => .readable (some datagram) past Heap.plenty
  | .receiverEnds => some .pollEnds
  | _ => none

/-- The sender after an action. -/
def senderAfter (action : Action) : SenderState :=
  match state.senderInput file action with
  | some input => state.sender.iterate crc32 secondOf stdin input
  | none => state.sender

/-- The receiver after an action. -/
def receiverAfter (action : Action) : ReceiverState :=
  match state.receiverInput action with
  | some input => state.receiver.iterate crc32 fullWrite input
  | none => state.receiver

/-- One action.  A loop that was left takes nothing more from its channel. -/
def step (action : Action) : SystemState :=
  let sender := state.senderAfter crc32 stdin file action
  let receiver := state.receiverAfter crc32 action
  let after : SystemState := { state with sender := sender, receiver := receiver }
  match action with
  | .sender socket _ _ wait work =>
      { after with
        data := state.data ++ sender.sent
        acks := if socket ∧ state.sender.exit = none then state.acks.tail else state.acks
        clock := state.clock + wait + work }
  | .receiver _ =>
      if state.receiver.running ∧ state.data ≠ [] then
        { after with data := state.data.tail, acks := state.acks ++ receiver.sent }
      else after
  | .loseData index => { after with data := state.data.eraseIdx index }
  | .loseAck index => { after with acks := state.acks.eraseIdx index }
  | .senderEnds | .receiverEnds => after

end SystemState

/-- The composed system for a file. -/
def network (crc32 : List UInt8 → UInt32) (stdin : Bool) (file : File) :
    Machine SystemState Action where
  start := SystemState.start
  step := SystemState.step crc32 stdin file

variable (crc32 : List UInt8 → UInt32) (stdin : Bool) (file : File)

@[simp] theorem network_step :
    (network crc32 stdin file).step = SystemState.step crc32 stdin file := rfl

/-! ## The two loops inside a run -/

theorem SystemState.step_sender (state : SystemState) (action : Action) :
    (state.step crc32 stdin file action).sender = state.senderAfter crc32 stdin file action := by
  cases action with
  | receiver past =>
      unfold SystemState.step
      dsimp only
      split
      · rfl
      · rfl
  | _ => rfl

theorem SystemState.step_receiver (state : SystemState) (action : Action) :
    (state.step crc32 stdin file action).receiver = state.receiverAfter crc32 action := by
  cases action with
  | receiver past =>
      unfold SystemState.step
      dsimp only
      split
      · rfl
      · rfl
  | _ => rfl

/-- An iteration of the sender. -/
theorem SystemState.step_polled (state : SystemState) (socket readable : Bool) (past : Memory)
    (wait work : ℕ) :
    state.step crc32 stdin file (.sender socket readable past wait work) =
      let sender := state.sender.iterate crc32 secondOf stdin
        (.polled (state.event file socket readable past wait work))
      { state with
        sender := sender
        data := state.data ++ sender.sent
        acks := if socket ∧ state.sender.exit = none then state.acks.tail else state.acks
        clock := state.clock + wait + work } := rfl

/-- An iteration of the sender leaves the receiver alone. -/
theorem SystemState.step_sender_receiver (state : SystemState) (socket readable : Bool)
    (past : Memory) (wait work : ℕ) :
    (state.step crc32 stdin file (.sender socket readable past wait work)).receiver =
      state.receiver := rfl

/-- The iteration of the receiver on the oldest datagram. -/
theorem SystemState.step_taken (state : SystemState) {datagram : Datagram} {rest : List Datagram}
    (running : state.receiver.running = true) (queue : state.data = datagram :: rest)
    (past : Memory) : state.step crc32 stdin file (.receiver past) =
      let receiver := state.receiver.iterate crc32 fullWrite
        (.readable (some datagram) past Heap.plenty)
      { state with receiver := receiver, data := rest, acks := state.acks ++ receiver.sent } := by
  have some_data : state.data ≠ [] := by
    rw [queue]
    exact List.cons_ne_nil _ _
  have input : state.receiverInput (.receiver past) =
      some (.readable (some datagram) past Heap.plenty) := by
    unfold receiverInput
    rw [queue]
    rfl
  unfold step receiverAfter
  dsimp only
  rw [if_pos ⟨running, some_data⟩, input, queue]
  rfl

/-- An action of the receiver that takes no datagram. -/
theorem SystemState.step_idle (state : SystemState) {action : Action}
    (idle : action = .receiverEnds ∨
      ∃ past, action = .receiver past ∧ ¬ (state.receiver.running = true ∧ state.data ≠ [])) :
    ∃ sent running, state.step crc32 stdin file action =
      { state with receiver := { state.receiver with sent := sent, running := running } } := by
  rcases idle with rfl | ⟨past, rfl, notTaken⟩
  · refine ⟨[], false, ?_⟩
    have ends := state.receiver.iterate_idle crc32 fullWrite (Or.inr (Eq.refl ReceiverInput.pollEnds))
    unfold step receiverAfter receiverInput
    dsimp only
    rw [ends]
    rfl
  · unfold step receiverAfter receiverInput
    dsimp only
    rw [if_neg notTaken]
    cases queue : state.data with
    | nil => exact ⟨state.receiver.sent, state.receiver.running, rfl⟩
    | cons datagram rest =>
        have left : state.receiver.running = false := by
          rw [queue] at notTaken
          exact Bool.eq_false_iff.mpr fun running => notTaken ⟨running, List.cons_ne_nil _ _⟩
        refine ⟨[], false, ?_⟩
        rw [List.head?_cons, Option.map_some]
        dsimp only
        rw [state.receiver.iterate_idle crc32 fullWrite (Or.inl left)]
        rfl

/-- The sender takes the oldest acknowledgement, or nothing. -/
theorem SystemState.event_recv (state : SystemState) (socket readable : Bool) (past : Memory)
    (wait work : ℕ) :
    (∃ datagram rest, state.acks = datagram :: rest ∧
        (state.event file socket readable past wait work).recv = some (some datagram) ∧
        (if socket ∧ state.sender.exit = none then state.acks.tail else state.acks) = rest) ∨
      ((state.event file socket readable past wait work).recv = none ∧
        (if socket ∧ state.sender.exit = none then state.acks.tail else state.acks) =
          state.acks) := by
  unfold event
  dsimp only
  split
  · cases queue : state.acks with
    | nil => exact Or.inr ⟨rfl, rfl⟩
    | cons datagram rest => exact Or.inl ⟨datagram, rest, rfl, rfl, rfl⟩
  · exact Or.inr ⟨rfl, rfl⟩

/-- What is under way to the receiver was so before, or has just been sent. -/
theorem SystemState.mem_data_step (state : SystemState) (action : Action) {datagram : Datagram}
    (member : datagram ∈ (state.step crc32 stdin file action).data) : datagram ∈ state.data ∨
      ∃ input, state.senderInput file action = some input ∧
        datagram ∈ (state.sender.iterate crc32 secondOf stdin input).sent := by
  cases action with
  | sender socket readable past wait work =>
      rcases List.mem_append.mp member with old | new
      · exact Or.inl old
      · exact Or.inr ⟨_, rfl, new⟩
  | senderEnds => exact Or.inl member
  | receiver past =>
      unfold SystemState.step at member
      dsimp only at member
      split at member
      · exact Or.inl (List.mem_of_mem_tail member)
      · exact Or.inl member
  | receiverEnds => exact Or.inl member
  | loseData index => exact Or.inl (List.mem_of_mem_eraseIdx member)
  | loseAck index => exact Or.inl member

/-- What is under way to the sender was so before, or has just been sent. -/
theorem SystemState.mem_acks_step (state : SystemState) (action : Action) {datagram : Datagram}
    (member : datagram ∈ (state.step crc32 stdin file action).acks) : datagram ∈ state.acks ∨
      ∃ input, state.receiverInput action = some input ∧
        datagram ∈ (state.receiver.iterate crc32 fullWrite input).sent := by
  cases action with
  | sender socket readable past wait work =>
      unfold SystemState.step at member
      dsimp only at member
      split at member
      · exact Or.inl (List.mem_of_mem_tail member)
      · exact Or.inl member
  | senderEnds => exact Or.inl member
  | receiver past =>
      unfold SystemState.step at member
      dsimp only at member
      split at member
      · rename_i taken
        rcases List.mem_append.mp member with old | new
        · exact Or.inl old
        · obtain ⟨oldest, rest, queue⟩ := List.exists_cons_of_ne_nil taken.2
          have input : state.receiverInput (.receiver past) =
              some (.readable (some oldest) past Heap.plenty) := by
            unfold SystemState.receiverInput
            rw [queue]
            rfl
          refine Or.inr ⟨_, input, ?_⟩
          unfold SystemState.receiverAfter at new
          rw [input] at new
          exact new
      · exact Or.inl member
  | receiverEnds => exact Or.inl member
  | loseData index => exact Or.inl member
  | loseAck index => exact Or.inl (List.mem_of_mem_eraseIdx member)

/-- Only an iteration of the sender's loop gives it an event. -/
theorem SystemState.senderInput_event {state : SystemState} {action : Action}
    {event : SenderEvent} (input : state.senderInput file action = some (.polled event)) :
    ∃ socket readable past wait work, event = state.event file socket readable past wait work := by
  cases action with
  | sender socket readable past wait work =>
      have same := SenderInput.polled.inj (Option.some.inj input)
      exact ⟨socket, readable, past, wait, work, same.symm⟩
  | senderEnds => cases input
  | receiver past => cases input
  | receiverEnds => cases input
  | loseData index => cases input
  | loseAck index => cases input

/-- The sender receives what is under way to it. -/
theorem SystemState.senderInput_polled {state : SystemState} {action : Action}
    {event : SenderEvent} (input : state.senderInput file action = some (.polled event)) :
    event.payloadHeap = Heap.plenty ∧
      ∀ bytes, event.recv = some (some bytes) → bytes ∈ state.acks := by
  obtain ⟨socket, readable, past, wait, work, rfl⟩ := senderInput_event file input
  refine ⟨rfl, fun bytes received => ?_⟩
  unfold SystemState.event at received
  dsimp only at received
  split at received
  · obtain ⟨ack, first, same⟩ := Option.map_eq_some_iff.mp received
    rw [← Option.some.inj same]
    exact List.mem_of_head? first
  · cases received

/-- The receiver receives what is under way to it. -/
theorem SystemState.receiverInput_readable {state : SystemState} {action : Action}
    {bytes : Option Datagram} {past : Memory} {heap : Heap}
    (input : state.receiverInput action = some (.readable bytes past heap)) :
    heap = Heap.plenty ∧ ∃ datagram ∈ state.data, bytes = some datagram := by
  cases action with
  | receiver past =>
      obtain ⟨datagram, first, same⟩ := Option.map_eq_some_iff.mp input
      cases same
      exact ⟨rfl, datagram, List.mem_of_head? first, rfl⟩
  | receiverEnds => cases input
  | sender socket readable past wait work => cases input
  | senderEnds => cases input
  | loseData index => cases input
  | loseAck index => cases input

/-- The sender of a run is in a run of `read_write_loop`. -/
theorem sender_run (Allowed : SenderState → SenderInput → Prop) {actions : List Action}
    (along : (network crc32 stdin file).Along (fun state action => ∀ input,
      state.senderInput file action = some input → Allowed state.sender input) .start actions) :
    ∃ inputs, (readWriteLoop crc32 secondOf stdin).Along Allowed .start inputs ∧
      ((network crc32 stdin file).run actions).sender =
        (readWriteLoop crc32 secondOf stdin).run inputs := by
  induction actions using List.reverseRecOn with
  | nil => exact ⟨[], trivial, rfl⟩
  | append_singleton actions action ih =>
      rw [Machine.along_append] at along
      obtain ⟨inputs, allowed, same⟩ := ih along.1
      rw [Machine.run_concat, network_step, SystemState.step_sender, SystemState.senderAfter]
      cases input : ((network crc32 stdin file).run actions).senderInput file action with
      | none => exact ⟨inputs, allowed, same⟩
      | some input' =>
          have permitted := along.2.1 input' input
          change Allowed ((network crc32 stdin file).run actions).sender input' at permitted
          rw [same] at permitted
          refine ⟨inputs ++ [input'], ?_, ?_⟩
          · rw [Machine.along_append]
            exact ⟨allowed, permitted, trivial⟩
          · rw [Machine.run_concat, readWriteLoop_step, same]

/-- The receiver of a run is in a run of `receiver_loop`. -/
theorem receiver_run (actions : List Action) :
    ∃ inputs, ((network crc32 stdin file).run actions).receiver =
      (receiverLoop crc32 fullWrite).run inputs := by
  induction actions using List.reverseRecOn with
  | nil => exact ⟨[], rfl⟩
  | append_singleton actions action ih =>
      obtain ⟨inputs, same⟩ := ih
      rw [Machine.run_concat, network_step, SystemState.step_receiver, SystemState.receiverAfter]
      cases ((network crc32 stdin file).run actions).receiverInput action with
      | none => exact ⟨inputs, same⟩
      | some input =>
          refine ⟨inputs ++ [input], ?_⟩
          rw [Machine.run_concat, receiverLoop_step, same]

end SelectiveRepeat.System

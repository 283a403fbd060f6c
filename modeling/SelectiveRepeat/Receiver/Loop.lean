import SelectiveRepeat.Foundations.Machine
import SelectiveRepeat.Foundations.Slots
import SelectiveRepeat.Packet.Codec
import SelectiveRepeat.Transport.Basic

/-!
# The receiver's loop

`receiver_loop` as a machine: its state holds the variables of the function and
one input is what the operating system does during one iteration.  `receptions`
and `writes` record the whole run, `sent` the datagrams of the last iteration.
-/

namespace SelectiveRepeat.Receiver

open SelectiveRepeat.Foundations SelectiveRepeat.Packet SelectiveRepeat.Transport

/-- What one iteration meets. -/
inductive ReceiverInput where
  /-- `poll` returns 0 or -1. -/
  | pollEnds
  /-- `poll` reports something other than `POLLIN`. -/
  | notReadable
  /-- `recvfrom` returns a datagram, or -1.  `past` lies after the receive buffer and
  `heap` answers the allocations of `pkt_decode`. -/
  | readable (bytes : Option Datagram) (past : Memory) (heap : Heap)

/-- One decoding: what `recvfrom` returned, with the memory and the heap of that
moment, and what `pkt_decode` made of it. -/
structure Reception where
  bytes : Option Datagram
  past : Memory
  heap : Heap
  pkt : Pkt
  code : PktStatus

/-- One call of `write` and the value it returned. -/
structure WriteCall where
  packet : PktPtr
  size : ℤ

/-- The bytes that a call of `write` has written. -/
def WriteCall.output (call : WriteCall) : List UInt8 :=
  ((pktGetPayload call.packet.pkt).getD []).take call.size.toNat

/-- The variables of `receiver_loop`, and the record of the run. -/
structure ReceiverState where
  receiverBuffer : Slots windowSize PktPtr
  window : UInt8
  len : ℕ
  buffer : Memory
  seqnum : UInt8
  running : Bool
  receptions : List Reception
  writes : List WriteCall
  sent : List Datagram

namespace ReceiverState

/-- The state in which the loop is entered. -/
def start : ReceiverState where
  receiverBuffer := Slots.empty
  window := UInt8.ofNat windowSize
  len := maxPacketSize
  buffer := fun _ => 0
  seqnum := 0
  running := true
  receptions := []
  writes := []
  sent := []

variable (crc32 : List UInt8 → UInt32) (write : ℕ → ℕ → ℤ)

/-- The acknowledgement is encoded into the receive buffer and sent with the length
`MAX_PAYLOAD_SIZE`, not with the encoded one. -/
def sendAck (state : ReceiverState) : ReceiverState :=
  let ack := pktNew
  let ack := (pktSetType ack PType.ptypeAck.value).1
  let ack := (pktSetWindow ack state.window).1
  let ack := (pktSetSeqnum ack state.seqnum).1
  let buffer := (pktEncode crc32 ack state.buffer state.len).2.1
  let len := maxPayloadSize
  { state with
    sent := state.sent ++ [buffer.load 0 len]
    buffer := buffer.memset 0 maxPayloadSize
    len := len }

/-- The store loop stops at a slot that holds the number of the packet and at a free
slot. -/
def stopsAt (packet : PktPtr) : Option PktPtr → Bool
  | some held => pktGetSeqnum held.pkt == pktGetSeqnum packet.pkt
  | none => true

/-- The store loop: a packet with that number is left where it is, a free slot is filled. -/
def storePacket (state : ReceiverState) (packet : PktPtr) : ReceiverState :=
  match state.receiverBuffer.firstWhere (stopsAt packet) with
  | none => state
  | some index =>
      match state.receiverBuffer index with
      | some _ => state
      | none =>
          { state with
            receiverBuffer := state.receiverBuffer.put index packet
            window := state.window - 1 }

/-- `write` is given the number of earlier calls and the length asked for. -/
def writePacket (state : ReceiverState) (packet : PktPtr) : ReceiverState :=
  { state with
    writes := state.writes ++
      [⟨packet, write state.writes.length (pktGetLength packet.pkt).toNat⟩] }

/-- The body of the drain loop for a slot that holds the expected packet. -/
def deliver (state : ReceiverState) (index : Fin windowSize) (packet : PktPtr) : ReceiverState :=
  { state.writePacket write packet with
    receiverBuffer := state.receiverBuffer.clear index
    window := state.window + 1
    seqnum := incSeqnum state.seqnum }

theorem used_deliver (state : ReceiverState) {index : Fin windowSize} {packet : PktPtr}
    (held : state.receiverBuffer index = some packet) :
    (state.deliver write index packet).receiverBuffer.used + 1 = state.receiverBuffer.used :=
  Slots.used_clear held

/-- The drain loop from index `i`.  After a delivery `i` is set to 0 and then
incremented, so the scan goes on at 1. -/
def drain (state : ReceiverState) (i : ℕ) : ReceiverState :=
  if inside : i < windowSize then
    match held : state.receiverBuffer ⟨i, inside⟩ with
    | some packet =>
        if pktGetSeqnum packet.pkt = state.seqnum then
          drain (state.deliver write ⟨i, inside⟩ packet) 1
        else drain state (i + 1)
    | none => drain state (i + 1)
  else state
termination_by (state.receiverBuffer.used, windowSize - i)
decreasing_by
  · have less := used_deliver write state held
    exact Prod.Lex.left _ _ (by omega)
  · exact Prod.Lex.right _ (by omega)
  · exact Prod.Lex.right _ (by omega)

/-- The four branches on a decoded packet. -/
def handle (state : ReceiverState) (packet : PktPtr) (code : PktStatus) : ReceiverState :=
  if code = .pktOk ∧ pktGetSeqnum packet.pkt ≠ state.seqnum ∧
      pktGetType packet.pkt = PType.ptypeData.value then
    let state :=
      if (pktGetSeqnum packet.pkt).toNat < state.seqnum.toNat + state.window.toNat ∧
          state.seqnum < pktGetSeqnum packet.pkt then
        state.storePacket packet
      else state
    state.sendAck crc32
  else if code = .pktOk ∧ pktGetSeqnum packet.pkt = state.seqnum ∧
      pktGetType packet.pkt = PType.ptypeData.value then
    let state := { state with seqnum := incSeqnum state.seqnum }
    let size := write state.writes.length (pktGetLength packet.pkt).toNat
    let state := state.writePacket write packet
    if size < 0 then
      { state with running := false }
    else
      (state.drain write 0).sendAck crc32
  else if code = .pktOk ∧ pktGetType packet.pkt = PType.ptypeData.value ∧
      pktGetLength packet.pkt = 0 ∧ pktGetSeqnum packet.pkt = state.seqnum then
    { state with running := false }
  else if code ≠ .pktOk then
    state.sendAck crc32
  else
    state

/-- What `recvfrom` leaves in the buffer and returns, as `pkt_decode` takes it: -1
becomes the largest `size_t`. -/
def recvfrom (state : ReceiverState) : Option Datagram → Memory × ℕ
  | none => (state.buffer, 2 ^ 64 - 1)
  | some bytes => fill state.buffer bytes

/-- The decoding of what one `recvfrom` returns. -/
def decode (state : ReceiverState) (bytes : Option Datagram) (past : Memory) (heap : Heap) :
    Pkt × PktStatus :=
  let (buffer, size) := state.recvfrom bytes
  (pktDecode crc32 heap (followedBy buffer past) size pktNew).val

/-- The state in which a received datagram is handled: decoded, and cleared from the
buffer. -/
def receive (state : ReceiverState) (bytes : Option Datagram) (past : Memory) (heap : Heap) :
    ReceiverState :=
  let (pkt, code) := state.decode crc32 bytes past heap
  { state with
    sent := []
    buffer := (state.recvfrom bytes).1.memset 0 state.len
    receptions := state.receptions ++ [⟨bytes, past, heap, pkt, code⟩] }

/-- One iteration of the loop. -/
def iterate (state : ReceiverState) (input : ReceiverInput) : ReceiverState :=
  if state.running then
    match input with
    | .pollEnds => { state with sent := [], running := false }
    | .notReadable => { state with sent := [] }
    | .readable bytes past heap =>
        let (pkt, code) := state.decode crc32 bytes past heap
        let packet : PktPtr := ⟨state.receptions.length, pkt⟩
        (state.receive crc32 bytes past heap).handle crc32 write packet code
  else
    { state with sent := [] }

end ReceiverState

/-- `receiver_loop`. -/
def receiverLoop (crc32 : List UInt8 → UInt32) (write : ℕ → ℕ → ℤ) :
    Machine ReceiverState ReceiverInput where
  start := ReceiverState.start
  step := ReceiverState.iterate crc32 write

@[simp] theorem receiverLoop_start (crc32 : List UInt8 → UInt32) (write : ℕ → ℕ → ℤ) :
    (receiverLoop crc32 write).start = ReceiverState.start := rfl

@[simp] theorem receiverLoop_step (crc32 : List UInt8 → UInt32) (write : ℕ → ℕ → ℤ) :
    (receiverLoop crc32 write).step = ReceiverState.iterate crc32 write := rfl

/-- The bytes that the receiver has written to its output. -/
def ReceiverState.output (state : ReceiverState) : List UInt8 := state.writes.flatMap WriteCall.output

end SelectiveRepeat.Receiver

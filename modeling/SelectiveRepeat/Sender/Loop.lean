import SelectiveRepeat.Foundations.Machine
import SelectiveRepeat.Foundations.Slots
import SelectiveRepeat.Packet.Codec
import SelectiveRepeat.Transport.Basic

/-!
# The sender's loop

`read_write_loop` as a machine: its state holds the variables of the function and
one input is what the operating system does during one iteration.  `created`,
`chunks` and `freed` record the whole run, `sent` the datagrams of the last
iteration.
-/

namespace SelectiveRepeat.Sender

open SelectiveRepeat.Foundations SelectiveRepeat.Packet SelectiveRepeat.Transport

/-- The four ways out of the loop. -/
inductive Exit where
  /-- `poll` returned 0 or -1. -/
  | poll
  /-- `recvfrom` failed. -/
  | recv
  /-- `read` failed. -/
  | read
  /-- `read` returned 0 while `sender_buffer_size` was `WINDOW_SIZE`. -/
  | endOfFile
  deriving DecidableEq

/-- What one iteration meets after `poll` has returned. -/
structure SenderEvent where
  /-- `time(0)` when packets are sent again. -/
  now : ℕ
  /-- What `recvfrom` returns, if the socket is readable. -/
  recv : Option (Option Datagram)
  /-- The memory after the receive buffer. -/
  past : Memory
  /-- The allocations of `pkt_decode`. -/
  heap : Heap
  /-- What `read` returns, if the file is readable. -/
  read : Option (Option (List UInt8))
  /-- `time(0)` when a packet is created. -/
  later : ℕ
  /-- The allocation of `pkt_set_payload`. -/
  payloadHeap : Heap

inductive SenderInput where
  /-- `poll` returns 0 or -1. -/
  | pollEnds
  | polled (event : SenderEvent)

/-- The variables of `read_write_loop`, and the record of the run. -/
structure SenderState where
  senderBuffer : Slots windowSize PktPtr
  senderBufferSize : UInt8
  seqnum : UInt8
  lastack : ℕ
  count : ℕ
  ack : Pkt
  buffer1 : Memory
  exit : Option Exit
  created : List Pkt
  chunks : List (List UInt8)
  freed : List ℕ
  sent : List Datagram

namespace SenderState

/-- The state in which the loop is entered. -/
def start : SenderState where
  senderBuffer := Slots.empty
  senderBufferSize := UInt8.ofNat windowSize
  seqnum := 0
  lastack := 0
  count := 0
  ack := pktNew
  buffer1 := fun _ => 0
  exit := none
  created := []
  chunks := []
  freed := []
  sent := []

variable (crc32 : List UInt8 → UInt32) (tmSec : ℕ → UInt32) (stdin : Bool)

/-- Encode a packet, send it and clear the buffer. -/
def transmit (state : SenderState) (pkt : Pkt) : SenderState :=
  let (_, buffer1, len) := pktEncode crc32 pkt state.buffer1 maxPacketSize
  { state with
    sent := state.sent ++ [buffer1.load 0 len]
    buffer1 := buffer1.memset 0 maxPacketSize }

/-! ## Sending again -/

/-- The packet is the one that three acknowledgements in a row have asked for. -/
def fastDue (state : SenderState) (packet : PktPtr) : Prop :=
  (pktGetSeqnum packet.pkt).toNat = state.lastack

/-- The packet was sent in an earlier second of the minute. -/
def timerDue (state : SenderState) (stamp : UInt32) (packet : PktPtr) : Prop :=
  pktGetTimestamp packet.pkt < stamp ∧ pktGetSeqnum packet.pkt ≤ state.seqnum

instance (state : SenderState) (packet : PktPtr) : Decidable (state.fastDue packet) :=
  inferInstanceAs (Decidable (_ = _))

instance (state : SenderState) (stamp : UInt32) (packet : PktPtr) :
    Decidable (state.timerDue stamp packet) :=
  inferInstanceAs (Decidable (_ ∧ _))

def fastRetransmit (state : SenderState) : SenderState :=
  if 3 ≤ state.count then
    Slots.forEach senderBuffer (fun state _ packet =>
      if state.fastDue packet then { state.transmit crc32 packet.pkt with count := 0 }
      else state) state
  else state

/-- The loop under `réenvoyer`; `stamp` is the second of the minute. -/
def resend (state : SenderState) (stamp : UInt32) : SenderState :=
  if state.senderBufferSize.toNat < windowSize then
    Slots.forEach senderBuffer (fun state _ packet =>
      if state.timerDue stamp packet then state.transmit crc32 packet.pkt else state) state
  else state

/-! ## Acknowledgements -/

/-- The test of the acknowledgement loop. -/
def acknowledged (seqnum number : UInt8) (packet : PktPtr) : Bool :=
  pktGetSeqnum packet.pkt < number && number ≤ seqnum

def release (state : SenderState) (index : Fin windowSize) (packet : PktPtr) : SenderState :=
  { state with
    senderBuffer := state.senderBuffer.clear index
    senderBufferSize := state.senderBufferSize + 1
    freed := state.freed ++ [packet.addr] }

/-- The acknowledgement loop for the number of an ACK. -/
def releaseAll (state : SenderState) (number : UInt8) : SenderState :=
  Slots.forEach senderBuffer (fun state index packet =>
    if acknowledged state.seqnum number packet then state.release index packet else state) state

/-- The bookkeeping on an ACK with a given number. -/
def acknowledge (state : SenderState) (number : UInt8) : SenderState :=
  let state := if state.lastack = number.toNat then { state with count := state.count + 1 }
    else state
  releaseAll { state with lastack := number.toNat } number

/-- A received datagram is decoded into `ack`, which is never reset. -/
def receive (state : SenderState) (bytes : Datagram) (past : Memory) (heap : Heap) :
    SenderState :=
  let (buffer1, size) := fill state.buffer1 bytes
  let (ack, status) := (pktDecode crc32 heap (followedBy buffer1 past) size state.ack).val
  let state := { state with ack := ack, buffer1 := buffer1.memset 0 maxPacketSize }
  if status = .pktOk ∧ pktGetType ack = PType.ptypeAck.value then
    state.acknowledge (pktGetSeqnum ack)
  else state

def socketBranch (state : SenderState) (event : SenderEvent) : SenderState :=
  match event.recv with
  | none => state
  | some none => { state with exit := some .recv }
  | some (some bytes) => state.receive crc32 bytes event.past event.heap

/-! ## New packets -/

/-- The fields set for every new packet; `sender_buffer_size` has been decremented. -/
def newPkt (state : SenderState) (stamp : UInt32) : Pkt :=
  let pkt := pktNew
  let pkt := (pktSetType pkt PType.ptypeData.value).1
  let pkt := (pktSetSeqnum pkt state.seqnum).1
  let pkt := (pktSetTimestamp pkt stamp).1
  (pktSetWindow pkt (state.senderBufferSize - 1)).1

/-- The packet that a chunk becomes. -/
def chunkPkt (state : SenderState) (chunk : List UInt8) (stamp : UInt32) (heap : Heap) : Pkt :=
  (pktSetPayload heap (state.newPkt stamp) chunk (UInt16.ofNat chunk.length)).1

/-- The packet without payload that is sent when the file is not readable. -/
def markerPkt (state : SenderState) (stamp : UInt32) : Pkt :=
  (pktSetLength (state.newPkt stamp) 0).1

/-- Count the packet and send it. -/
def create (state : SenderState) (pkt : Pkt) : SenderState :=
  SenderState.transmit crc32
    { state with
      senderBufferSize := state.senderBufferSize - 1
      created := state.created ++ [pkt] } pkt

/-- Put the newest packet into a slot. -/
def hold (state : SenderState) (index : Fin windowSize) (packet : PktPtr) : SenderState :=
  { state with
    senderBuffer := state.senderBuffer.put index packet
    seqnum := incSeqnum state.seqnum }

/-- A chunk becomes a packet, kept in the first free slot if there is one. -/
def sendChunk (state : SenderState) (chunk : List UInt8) (stamp : UInt32) (heap : Heap) :
    SenderState :=
  let packet : PktPtr := ⟨state.created.length, state.chunkPkt chunk stamp heap⟩
  let state := { state.create crc32 packet.pkt with chunks := state.chunks ++ [chunk] }
  match state.senderBuffer.firstWhere Option.isNone with
  | some index => state.hold index packet
  | none => state

/-- The marker goes to a computed slot. -/
def sendMarker (state : SenderState) (stamp : UInt32) : SenderState :=
  let packet : PktPtr := ⟨state.created.length, state.markerPkt stamp⟩
  let index : Fin windowSize :=
    ⟨state.seqnum.toNat % (windowSize - 1), (Nat.mod_lt _ (by decide)).trans (by decide)⟩
  (state.create crc32 packet.pkt).hold index packet

/-- The guard of `read`, in plain integers. -/
def MayRead (state : SenderState) : Prop :=
  state.seqnum.toNat < state.lastack + state.senderBufferSize.toNat

instance (state : SenderState) : Decidable state.MayRead := inferInstanceAs (Decidable (_ < _))

def fileBranch (state : SenderState) (event : SenderEvent) : SenderState :=
  match event.read with
  | some result =>
      if state.MayRead then
        match result with
        | none => { state with exit := some .read }
        | some bytes =>
            let chunk := bytes.take maxPayloadSize
            if chunk.length = 0 ∧ state.senderBufferSize.toNat = windowSize then
              { state with exit := some .endOfFile }
            else if 0 < chunk.length then
              state.sendChunk crc32 chunk (tmSec event.later) event.payloadHeap
            else state
      else state
  | none =>
      if stdin = false ∧ state.senderBufferSize.toNat = windowSize then
        state.sendMarker crc32 (tmSec event.later)
      else state

/-! ## One iteration -/

/-- The state in which the file is looked at. -/
def beforeFile (state : SenderState) (event : SenderEvent) : SenderState :=
  let state := { state with sent := [] }
  let state := state.fastRetransmit crc32
  let state := state.resend crc32 (tmSec event.now)
  state.socketBranch crc32 event

/-- One iteration of the loop. -/
def iterate (state : SenderState) (input : SenderInput) : SenderState :=
  if state.exit = none then
    match input with
    | .pollEnds => { state with sent := [], exit := some .poll }
    | .polled event =>
        let state := state.beforeFile crc32 tmSec event
        if state.exit = none then state.fileBranch crc32 tmSec stdin event else state
  else
    { state with sent := [] }

end SenderState

/-- `read_write_loop`; `tmSec` is the field of `localtime` for a time and `stdin` says
whether the file is the standard input. -/
def readWriteLoop (crc32 : List UInt8 → UInt32) (tmSec : ℕ → UInt32) (stdin : Bool) :
    Machine SenderState SenderInput where
  start := SenderState.start
  step := SenderState.iterate crc32 tmSec stdin

/-- `tm_sec` of a time in seconds. -/
def secondOf (time : ℕ) : UInt32 := UInt32.ofNat (time % 60)

@[simp] theorem readWriteLoop_start (crc32 : List UInt8 → UInt32) (tmSec : ℕ → UInt32)
    (stdin : Bool) : (readWriteLoop crc32 tmSec stdin).start = SenderState.start := rfl

@[simp] theorem readWriteLoop_step (crc32 : List UInt8 → UInt32) (tmSec : ℕ → UInt32)
    (stdin : Bool) :
    (readWriteLoop crc32 tmSec stdin).step = SenderState.iterate crc32 tmSec stdin := rfl

end SelectiveRepeat.Sender

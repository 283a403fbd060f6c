import SelectiveRepeat.Foundations.Machine
import SelectiveRepeat.LinkSim.MinQueue
import SelectiveRepeat.Transport.Basic

/-!
# The link simulator

`link_sim.c` stands between the two programs and loses, corrupts and delays what they
send.  An input is a return of `select`, with everything that the iteration meets: the
time, the datagram received, what `rand` returns and whether there is memory.
-/

namespace SelectiveRepeat.LinkSim

open SelectiveRepeat.Foundations SelectiveRepeat.Transport

/-- `MIN_PKT_LEN`. -/
def minPktLen : ℕ := 12

/-- `MAX_PKT_LEN`. -/
def maxPktLen : ℕ := 524

/-! ## Times -/

/-- `struct timeval`. -/
structure Timeval where
  sec : ℤ
  usec : ℤ
  deriving DecidableEq

/-- `struct timespec`, as a clock fills it. -/
structure Timespec where
  sec : ℤ
  nsec : ℕ
  valid : nsec < 1000000000

/-- `left` is after `right`. -/
def timevalCmp (left right : Timeval) : Bool :=
  if left.sec = right.sec then right.usec < left.usec else right.sec < left.sec

/-- `a - b`.  The microseconds are left negative where borrowing a second brings the seconds
to 0. -/
def timevalDiff (a b : Timeval) : Timeval :=
  let sec := a.sec - b.sec
  let usec := a.usec - b.usec
  if usec < 0 then
    if sec - 1 ≠ 0 then ⟨sec - 1, usec + 1000000⟩ else ⟨sec - 1, usec⟩
  else ⟨sec, usec⟩

/-- `update_time`, if the clock can be read. -/
def updateTime (ts : Timespec) : Timeval := ⟨ts.sec, ts.nsec / 1000⟩

/-! ## Packets -/

/-- `struct sockaddr_in6`, as far as addresses are compared. -/
structure SockAddr where
  sin6Addr : BitVec 128
  sin6Port : UInt16
  deriving DecidableEq

/-- The two addresses differ. -/
def sockaddrCmp (a b : SockAddr) : Bool := a.sin6Addr ≠ b.sin6Addr || a.sin6Port ≠ b.sin6Port

/-- The direction of a packet. -/
inductive Direction where
  | forward
  | reverse
  deriving DecidableEq

/-- The paths on which the link is simulated. -/
inductive LinkDirection where
  | forward
  | reverse
  | bothWays
  deriving DecidableEq

/-- `LINK_FORWARD` or `LINK_REVERSE`. -/
def Direction.value : Direction → ℕ
  | .forward => 1
  | .reverse => 2

/-- The values that the options `-r` and `-R` choose from. -/
def LinkDirection.value : LinkDirection → ℕ
  | .forward => 1
  | .reverse => 2
  | .bothWays => 1 ||| 2

/-- `SAME_DIRECTION`. -/
def sameDirection (x : Direction) (y : LinkDirection) : Bool := x.value &&& y.value ≠ 0

/-- What `recvfrom` has put into `buf`, once its length is checked. -/
structure PktBuf where
  bytes : Datagram
  least : minPktLen ≤ bytes.length
  most : bytes.length ≤ maxPktLen

/-- `struct pkt_slot`. -/
structure PktSlot where
  ts : Timeval
  direction : Direction
  buf : PktBuf

/-- The first slot expires after the second. -/
def pktSlotCmp (a b : PktSlot) : Bool := timevalCmp a.ts b.ts

/-! ## The state -/

/-- What `sendto` makes of a datagram: it is sent, it may be tried again, or not. -/
inductive SendResult where
  | done
  | again
  | failed
  deriving DecidableEq

/-- A call of `sendto`: the address, the packet, the time and the result. -/
structure SendTo where
  addr : SockAddr
  direction : Direction
  buf : PktBuf
  time : Timeval
  result : SendResult

/-- What does not change in a run: the options, the host that is proxied, the results of the
calls of `sendto`, and what `malloc` leaves in the slots of the queue. -/
structure Link where
  delay : UInt32
  jitter : UInt32
  errRate : UInt32
  lossRate : UInt32
  linkDirection : LinkDirection
  destAddr : SockAddr
  sendto : ℕ → SendResult
  slots : ℕ → PktSlot

structure LinkState where
  lastClock : Timeval
  srcAddr : SockAddr
  hasSourceAddr : Bool
  pktQueue : MinQueue PktSlot
  /-- The calls of `sendto` so far. -/
  calls : List SendTo
  running : Bool

/-- What `rand` returns where the packet may be dropped and corrupted, for the byte, and for the
sign and the amount of the jitter. -/
structure Luck where
  loss : ℕ
  err : ℕ
  idx : ℕ
  sign : ℕ
  amount : ℕ

/-- What `recvfrom` returns: nothing for now, an error, or a datagram. -/
inductive RecvResult where
  | again
  | failed
  | datagram (sender : SockAddr) (bytes : Datagram)

/-- What an iteration meets after `select`. -/
structure LinkEvent where
  clock : Option Timespec
  /-- The result of `recvfrom`, if the socket is readable. -/
  recv : Option RecvResult
  luck : Luck
  malloc : Bool
  realloc : Bool

inductive LinkInput where
  | interrupted
  | selectFailed
  | woken (event : LinkEvent)

/-! ## The functions -/

variable (link : Link)

/-- The address that `write_out` chooses. -/
def addrFor (state : LinkState) : Direction → SockAddr
  | .forward => link.destAddr
  | .reverse => state.srcAddr

/-- `write_out`. -/
def writeOut (state : LinkState) (buf : PktBuf) (direction : Direction) : LinkState × SendResult :=
  let result := link.sendto state.calls.length
  let call : SendTo := ⟨addrFor link state direction, direction, buf, state.lastClock, result⟩
  ({ state with calls := state.calls ++ [call] }, result)

/-- `deliver_delayed_pkt`; `true` is `EXIT_FAILURE`. -/
def deliverDelayedPkt (state : LinkState) : LinkState × Bool :=
  match _peeked : minqPeek state.pktQueue with
  | none => (state, false)
  | some p =>
    if timevalCmp state.lastClock p.ts then
      match (writeOut link state p.buf p.direction).2 with
      | .again => ((writeOut link state p.buf p.direction).1, false)
      | .failed => ((writeOut link state p.buf p.direction).1, true)
      | .done =>
        deliverDelayedPkt { (writeOut link state p.buf p.direction).1 with
          pktQueue := minqPop pktSlotCmp state.pktQueue }
    else (state, false)
termination_by state.pktQueue.size
decreasing_by
  unfold minqPeek minqEmpty at _peeked
  unfold minqPop minqEmpty
  split at _peeked
  · cases _peeked
  · rename_i nonempty
    rw [if_neg nonempty]
    exact Nat.sub_one_lt fun zero => nonempty (decide_eq_true zero)

/-- `RAND_PERCENT`. -/
def randPercent (rand : ℕ) : UInt32 := UInt32.ofNat (rand % 101)

/-- `buf[idx] = ~buf[idx]` at a random index. -/
def corrupt (buf : PktBuf) (rand : ℕ) : PktBuf where
  bytes :=
    let idx := rand % buf.bytes.length
    buf.bytes.set idx (~~~(buf.bytes.getD idx 0))
  least := by
    rw [List.length_set]
    exact buf.least
  most := by
    rw [List.length_set]
    exact buf.most

/-- The delay in milliseconds, computed in `unsigned int`. -/
def appliedDelay (luck : Luck) : UInt32 :=
  (if link.jitter ≠ 0 then
    if 49 < randPercent luck.sign then link.delay + UInt32.ofNat luck.amount % link.jitter
    else link.delay - UInt32.ofNat luck.amount % link.jitter
  else link.delay) % 10000

/-- The expiration date: the delay is added to the time, and no second is carried over. -/
def expiration (lastClock : Timeval) (appliedDelay : UInt32) : Timeval :=
  ⟨lastClock.sec + (appliedDelay.toNat / 1000 : ℕ),
    lastClock.usec + (appliedDelay.toNat % 1000 * 1000 : ℕ)⟩

/-- Whether the packet is dropped. -/
def dropped (luck : Luck) : Bool := link.lossRate ≠ 0 && randPercent luck.loss < link.lossRate

/-- The packet as it is sent on, corrupted or not. -/
def relayed (luck : Luck) (buf : PktBuf) : PktBuf :=
  if link.errRate ≠ 0 ∧ randPercent luck.err < link.errRate then corrupt buf luck.idx else buf

/-- `simulate_link`; `true` is `EXIT_FAILURE`. -/
def simulateLink (event : LinkEvent) (state : LinkState) (buf : PktBuf) (direction : Direction) :
    LinkState × Bool :=
  if dropped link event.luck then (state, false)
  else
    let buf := relayed link event.luck buf
    if link.delay ≠ 0 then
      if event.malloc = false then (state, true)
      else
        let slot : PktSlot :=
          ⟨expiration state.lastClock (appliedDelay link event.luck), direction, buf⟩
        let pushed := minqPush pktSlotCmp event.realloc state.pktQueue slot
        ({ state with pktQueue := pushed.1 }, pushed.2 ≠ 0)
    else
      let written := writeOut link state buf direction
      (written.1, written.2 ≠ .done)

/-- The first one to send data becomes the other party. -/
def trackSource (state : LinkState) (sender : SockAddr) : LinkState :=
  if state.hasSourceAddr then state
  else { state with srcAddr := sender, hasSourceAddr := true }

/-- The direction of a packet, unless its sender is an alien. -/
def directionOf (state : LinkState) (sender : SockAddr) : Option Direction :=
  let direction := if sockaddrCmp sender link.destAddr = false then some .reverse else none
  if sockaddrCmp sender state.srcAddr = false then some .forward else direction

/-- What `process_incoming_pkt` makes of a packet of known direction. -/
def passOn (event : LinkEvent) (state : LinkState) (buf : PktBuf) (direction : Direction) :
    LinkState × Bool :=
  if sameDirection direction link.linkDirection then simulateLink link event state buf direction
  else
    let written := writeOut link state buf direction
    (written.1, written.2 ≠ .done)

/-- `process_incoming_pkt`; `true` is `EXIT_FAILURE`. -/
def processIncomingPkt (event : LinkEvent) (state : LinkState) : RecvResult → LinkState × Bool
  | .again => (state, false)
  | .failed => (state, true)
  | .datagram sender datagram =>
    let bytes := datagram.take maxPktLen
    if enough : minPktLen ≤ bytes.length then
      let buf : PktBuf := ⟨bytes, enough, List.length_take_le _ _⟩
      let state := trackSource state sender
      match directionOf link state sender with
      | none => (state, false)
      | some direction => passOn link event state buf direction
    else (state, false)

/-- `get_queue_timeout`. -/
def getQueueTimeout (state : LinkState) : Option Timeval :=
  (minqPeek state.pktQueue).map fun p =>
    let timeout := timevalDiff p.ts state.lastClock
    if timeout.sec < 0 ∨ (timeout.sec = 0 ∧ timeout.usec ≤ 0) then ⟨0, 1000⟩ else timeout

/-- What `proxy_loop` does after `select`, if the time can be read. -/
def LinkState.wake (state : LinkState) (event : LinkEvent) (clock : Timespec) : LinkState :=
  let delivered := deliverDelayedPkt link { state with lastClock := updateTime clock }
  if delivered.2 then { delivered.1 with running := false }
  else match event.recv with
    | none => delivered.1
    | some recv =>
      let processed := processIncomingPkt link event delivered.1 recv
      { processed.1 with running := !processed.2 }

/-- One iteration of `proxy_loop`. -/
def LinkState.iterate (state : LinkState) (input : LinkInput) : LinkState :=
  if state.running then
    match input with
    | .interrupted => state
    | .selectFailed => { state with running := false }
    | .woken event =>
      match event.clock with
      | none => { state with running := false }
      | some clock => state.wake link event clock
  else state

/-- The state when `proxy_loop` is called, with a new queue, and has read the clock. -/
def LinkState.start (first : Timespec) : LinkState where
  lastClock := updateTime first
  srcAddr := ⟨0, 0⟩
  hasSourceAddr := false
  pktQueue := (minqNew true true link.slots).get rfl
  calls := []
  running := true

/-- `proxy_loop`. -/
def proxyLoop (first : Timespec) : Machine LinkState LinkInput where
  start := .start link first
  step := LinkState.iterate link

@[simp] theorem proxyLoop_step (first : Timespec) :
    (proxyLoop link first).step = LinkState.iterate link := rfl

end SelectiveRepeat.LinkSim

import SelectiveRepeat.System.Sequence

/-!
# The network inside the relay

A simulator without jitter and corruption, together with the datagrams that are on their
way to it and from it, is the network of the two loops.  What the simulator drops or the
network loses is lost in the network, and the delay is time that passes.
-/

namespace SelectiveRepeat.System

open SelectiveRepeat.Foundations SelectiveRepeat.Packet SelectiveRepeat.Transport
open SelectiveRepeat.Receiver SelectiveRepeat.Sender SelectiveRepeat.LinkSim

variable (crc32 : List UInt8 → UInt32)

/-! ## Losses -/

namespace SystemState

/-- The datagrams under way in a direction. -/
def channel (state : SystemState) : Direction → List Datagram
  | .forward => state.data
  | .reverse => state.acks

/-- The oldest datagrams of a direction get lost. -/
def lose (state : SystemState) (n : ℕ) : Direction → SystemState
  | .forward => { state with data := state.data.drop n }
  | .reverse => { state with acks := state.acks.drop n }

end SystemState

/-- The oldest datagram of a direction gets lost. -/
def Action.loss : Direction → Action
  | .forward => .loseData 0
  | .reverse => .loseAck 0

theorem runFrom_loss (stdin : Bool) (file : File) (state : SystemState) (direction : Direction)
    (n : ℕ) : (network crc32 stdin file).runFrom state (List.replicate n (.loss direction)) =
      state.lose n direction := by
  induction n generalizing state with
  | zero =>
      cases direction with
      | forward => rfl
      | reverse => rfl
  | succ n ih =>
      have one : state.step crc32 stdin file (.loss direction) = state.lose 1 direction := by
        cases direction with
        | forward =>
            change { state with data := state.data.eraseIdx 0 } = { state with data := _ }
            rw [List.eraseIdx_zero, List.drop_one]
        | reverse =>
            change { state with acks := state.acks.eraseIdx 0 } = { state with acks := _ }
            rw [List.eraseIdx_zero, List.drop_one]
      rw [List.replicate_succ, Machine.runFrom_cons, network_step, one, ih]
      cases direction with
      | forward => simp [SystemState.lose]
      | reverse => simp [SystemState.lose]

/-- What the sender meets at given times. -/
theorem SystemState.event_at (state : SystemState) (file : File) (socket : Bool)
    {read : Option Bool} (reads : read ≠ some false) (past : Memory) {now later : ℕ}
    (early : state.clock ≤ now) (goes : now ≤ later) :
    state.event file socket read.isSome past (now - state.clock) (later - now) =
      ⟨now, if socket ∧ state.sender.exit = none then state.acks.head?.map some else none, past,
        Heap.plenty, read.map fun ok => if ok then some (file.next state.sender.chunks.length)
          else none, later, Heap.plenty⟩ := by
  have first : state.clock + (now - state.clock) = now := by omega
  have second : now + (later - now) = later := by omega
  unfold event
  rw [first, second]
  congr 1
  cases read with
  | none => rfl
  | some ok =>
      cases ok with
      | false => exact absurd rfl reads
      | true => rfl

/-! ## What the loops are given -/

section Gives

variable (relay : Relay) (Allowed : SenderState → SenderInput → Prop)
  (Permitted : ReceiverState → ReceiverInput → Prop)

/-- An action of the network gives the loops what is allowed. -/
def SystemState.Gives (state : SystemState) (action : Action) : Prop :=
  (∀ input, state.senderInput relay.file action = some input → Allowed state.sender input) ∧
    ∀ input, state.receiverInput action = some input → Permitted state.receiver input

/-- An action of the relay gives the loops what is allowed. -/
def RelayState.Gives (state : RelayState) (action : RelayAction) : Prop :=
  (∀ input, state.input relay action = some (.sender input) → Allowed state.sender input) ∧
    ∀ input, state.input relay action = some (.receiver input) → Permitted state.receiver input

variable {relay Allowed Permitted} in
/-- What the sender is given. -/
theorem RelayState.gives_sender {state : RelayState} {action : RelayAction} {input : SenderInput}
    (given : state.input relay action = some (.sender input))
    (allowed : Allowed state.sender input) : state.Gives relay Allowed Permitted action := by
  refine ⟨fun other same => ?_, fun other same => ?_⟩
  · rw [given] at same
    cases same
    exact allowed
  · rw [given] at same
    cases same

/-- The simulator gives the loops nothing. -/
theorem RelayState.gives_link (state : RelayState) (clock : Option Timespec)
    (arrival : Option Arrival) (luck : Luck) (malloc realloc : Bool) :
    state.Gives relay Allowed Permitted (.link clock arrival luck malloc realloc) := by
  constructor
  · rintro input ⟨⟩
  · rintro input ⟨⟩

variable {relay Allowed Permitted} in
/-- What the sender takes part in alone. -/
theorem gives_sender {state : SystemState} {action : Action}
    (silent : state.receiverInput action = none)
    (allowed : ∀ input, state.senderInput relay.file action = some input →
      Allowed state.sender input) : state.Gives relay Allowed Permitted action := by
  refine ⟨allowed, fun input taken => ?_⟩
  rw [silent] at taken
  cases taken

variable {relay Allowed Permitted} in
/-- What the receiver takes part in alone. -/
theorem gives_receiver {state : SystemState} {action : Action}
    (silent : state.senderInput relay.file action = none)
    (permitted : ∀ input, state.receiverInput action = some input →
      Permitted state.receiver input) : state.Gives relay Allowed Permitted action := by
  refine ⟨fun input taken => ?_, permitted⟩
  rw [silent] at taken
  cases taken

theorem gives_loss (state : SystemState) (direction : Direction) :
    state.Gives relay Allowed Permitted (.loss direction) := by
  cases direction with
  | forward => exact ⟨nofun, nofun⟩
  | reverse => exact ⟨nofun, nofun⟩

theorem along_loss (state : SystemState) (direction : Direction) (n : ℕ) :
    (network crc32 relay.stdin relay.file).Along (SystemState.Gives relay Allowed Permitted) state
      (List.replicate n (.loss direction)) := by
  induction n generalizing state with
  | zero => trivial
  | succ n ih => exact ⟨gives_loss relay Allowed Permitted state direction, ih _⟩

end Gives

/-! ## The states of the two -/

variable (relay : Relay)

/-- The network is in the state in which the relay is: what is still to come in a direction is
under way in it. -/
structure Mirrors (seen : Observed RelayState Places) (mirror : SystemState) : Prop where
  reached : ∃ actions, seen.state = (relayed crc32 relay).run actions
  sender : mirror.sender = seen.state.sender
  receiver : mirror.receiver = seen.state.receiver
  clock : mirror.clock ≤ seen.noted.clock
  underWay : ∃ line, Lined relay.link seen.state.link line ∧
    ∀ direction, (ahead seen line direction).Sublist (mirror.channel direction)

variable {crc32 relay} {seen : Observed RelayState Places} {mirror : SystemState}

namespace Mirrors

theorem start : Mirrors crc32 relay (sequenced crc32 relay).start .start where
  reached := ⟨[], rfl⟩
  sender := rfl
  receiver := rfl
  clock := Nat.le_refl 0
  underWay := by
    refine ⟨[], lined_start relay.link relay.first, fun direction => ?_⟩
    cases direction with
    | forward => exact List.nil_sublist _
    | reverse => exact List.nil_sublist _

theorem reached_step (mirrors : Mirrors crc32 relay seen mirror) (action : RelayAction) :
    ∃ actions, seen.state.step crc32 relay action = (relayed crc32 relay).run actions := by
  obtain ⟨actions, same⟩ := mirrors.reached
  exact ⟨actions ++ [action], by rw [Machine.run_concat, relayed_step, same]⟩

/-- A datagram that is received in sequence is the oldest one in the network after some losses,
and what is to come behind it is still under way. -/
theorem oldest (mirrors : Mirrors crc32 relay seen mirror)
    (apart : relay.srcAddr ≠ relay.link.destAddr) {direction : Direction} {n : ℕ}
    {bytes : Datagram} (found : (seen.state.inbox (relay.host direction))[n]? = some bytes)
    (le : seen.noted.received direction ≤ n) {line : List PktSlot}
    (underWay : (ahead seen line direction).Sublist (mirror.channel direction)) :
    ∃ lost later, (mirror.channel direction).drop lost = bytes :: later ∧
      (((seen.state.link.flow line direction).map fun parcel => parcel.2.bytes).drop (n + 1) ++
        (seen.state.issued direction).drop (seen.noted.entered direction)).Sublist later := by
  obtain ⟨actions, reached⟩ := mirrors.reached
  have inbox : seen.state.inbox (relay.host direction) =
      (inDirection direction seen.state.link.delivered).map fun parcel => parcel.2.bytes := by
    rw [reached]
    exact inbox_run apart actions direction
  have inside := (List.getElem?_eq_some_iff.mp found).1
  have inFlow : ((seen.state.link.flow line direction).map fun parcel => parcel.2.bytes)[n]? =
      some bytes := by
    rw [LinkState.flow, inDirection_append, List.map_append, ← inbox,
      List.getElem?_append_left inside, found]
  refine exists_drop_of_sublist (List.Sublist.trans ?_ underWay)
  rw [← List.cons_append]
  exact (cons_drop_sublist inFlow le).append_right _

end Mirrors

/-! ## One action -/

variable {Allowed : SenderState → SenderInput → Prop}
  {Permitted : ReceiverState → ReceiverInput → Prop}

variable (crc32 relay Allowed Permitted) in
/-- Some actions bring the network into the state in which the relay is then. -/
def Matches (mirror : SystemState) (next : Observed RelayState Places) : Prop :=
  ∃ actions, (network crc32 relay.stdin relay.file).Along
      (SystemState.Gives relay Allowed Permitted) mirror actions ∧
    Mirrors crc32 relay next ((network crc32 relay.stdin relay.file).runFrom mirror actions)

namespace Matches

variable {next : Observed RelayState Places}

theorem silent (mirrors : Mirrors crc32 relay next mirror) :
    Matches crc32 relay Allowed Permitted mirror next := ⟨[], trivial, mirrors⟩

theorem one (action : Action) (gives : mirror.Gives relay Allowed Permitted action)
    (mirrors : Mirrors crc32 relay next (mirror.step crc32 relay.stdin relay.file action)) :
    Matches crc32 relay Allowed Permitted mirror next := ⟨[action], ⟨gives, trivial⟩, mirrors⟩

/-- Some datagrams get lost before the action. -/
theorem afterLoss (direction : Direction) (lost : ℕ) (action : Action)
    (gives : (mirror.lose lost direction).Gives relay Allowed Permitted action)
    (mirrors : Mirrors crc32 relay next
      ((mirror.lose lost direction).step crc32 relay.stdin relay.file action)) :
    Matches crc32 relay Allowed Permitted mirror next := by
  refine ⟨List.replicate lost (.loss direction) ++ [action], ?_, ?_⟩
  · rw [Machine.along_append, runFrom_loss]
    exact ⟨along_loss crc32 relay Allowed Permitted mirror direction lost, gives, trivial⟩
  · rw [Machine.runFrom_append, runFrom_loss]
    exact mirrors

end Matches

namespace Mirrors

/-- An iteration of the simulator is a stutter of the network. -/
theorem takeLink (mirrors : Mirrors crc32 relay seen mirror) (steady : relay.link.jitter = 0)
    (exact_ : relay.link.errRate = 0) (apart : relay.srcAddr ≠ relay.link.destAddr)
    (small : ∀ chunk ∈ relay.file.chunks, chunk.length ≤ 508) {action : RelayAction}
    {input : LinkInput} (given : seen.state.input relay action = some (.link input))
    (inSequence : InSequence seen action) :
    Mirrors crc32 relay ((sequenced crc32 relay).step seen action) mirror := by
  obtain ⟨line, lined, underWay⟩ := mirrors.underWay
  obtain ⟨actions, reached⟩ := id mirrors.reached
  have ordered : seen.state.link.pktQueue.Ordered PktSlot.order :=
    reached ▸ queue_run crc32 relay actions
  have acquainted : Acquainted relay seen.state := reached ▸ acquainted_run crc32 relay actions
  have issued : Issued crc32 relay seen.state := reached ▸ issued_run actions
  have turn := inTurn acquainted issued apart small given inSequence
  obtain ⟨line', left, behind⟩ := turn.ahead crc32 ordered lined steady exact_
  have step : (sequenced crc32 relay).step seen action =
      ⟨seen.state.take crc32 relay (.link input), seen.noted.note seen.state action⟩ := by
    rw [sequenced, Machine.observe_step, relayed_step, RelayState.step, given]
  have again := mirrors.reached_step action
  rw [RelayState.step, given] at again
  rw [step]
  exact
    { reached := again
      sender := mirrors.sender
      receiver := mirrors.receiver
      clock := mirrors.clock.trans turn.clock.ge
      underWay := ⟨line', left, fun direction => (behind direction).trans (underWay direction)⟩ }

/-- Passing over datagrams leaves less to come. -/
theorem passOver (mirrors : Mirrors crc32 relay seen mirror) {places : Places}
    (received : ∀ direction, seen.noted.received direction ≤ places.received direction)
    (entered : ∀ direction, places.entered direction = seen.noted.entered direction)
    (clock : seen.noted.clock ≤ places.clock) :
    Mirrors crc32 relay ⟨seen.state, places⟩ mirror := by
  obtain ⟨line, lined, underWay⟩ := mirrors.underWay
  refine
    { reached := mirrors.reached
      sender := mirrors.sender
      receiver := mirrors.receiver
      clock := mirrors.clock.trans clock
      underWay := ⟨line, lined, fun direction => List.Sublist.trans ?_ (underWay direction)⟩ }
  rw [ahead, ahead, entered]
  exact (List.drop_sublist_drop_left _ (received direction)).append_right _

/-- A receiver that does nothing more. -/
theorem idleReceiver (mirrors : Mirrors crc32 relay seen mirror) {input : ReceiverInput}
    (idle : seen.state.receiver.running = false ∨ input = .pollEnds)
    (reached : ∃ actions, seen.state.take crc32 relay (.receiver input) =
      (relayed crc32 relay).run actions) :
    Mirrors crc32 relay ⟨seen.state.take crc32 relay (.receiver input), seen.noted⟩
      (mirror.step crc32 relay.stdin relay.file .receiverEnds) := by
  obtain ⟨line, lined, underWay⟩ := id mirrors.underWay
  have left := seen.state.receiver.iterate_idle crc32 fullWrite idle
  have ended := seen.state.receiver.iterate_idle crc32 fullWrite
    (Or.inr (Eq.refl ReceiverInput.pollEnds))
  refine
    { reached := reached
      sender := mirrors.sender
      receiver := ?_
      clock := mirrors.clock
      underWay := ⟨line, lined, fun direction => ?_⟩ }
  · change mirror.receiver.iterate crc32 fullWrite .pollEnds = _
    rw [mirrors.receiver, ended, ← left]
    rfl
  · cases direction with
    | forward => exact underWay .forward
    | reverse =>
        have nothing : (seen.state.take crc32 relay (.receiver input)).issued .reverse =
            seen.state.acks := by
          change seen.state.acks ++ (seen.state.receiver.iterate crc32 fullWrite input).sent = _
          rw [left, List.append_nil]
        rw [ahead, nothing]
        exact underWay .reverse

/-- The receiver takes the oldest datagram of the network. -/
theorem takeReceiver (mirrors : Mirrors crc32 relay seen mirror)
    (apart : relay.srcAddr ≠ relay.link.destAddr)
    (ends : ∀ receiver, Permitted receiver .pollEnds) {n : ℕ} {past : Memory}
    (le : seen.noted.toReceiver ≤ n)
    (gives : seen.state.Gives relay Allowed Permitted (.receiver n past)) :
    Matches crc32 relay Allowed Permitted mirror
      ((sequenced crc32 relay).step seen (.receiver n past)) := by
  obtain ⟨line, lined, underWay⟩ := id mirrors.underWay
  have again := mirrors.reached_step (.receiver n past)
  change Matches crc32 relay Allowed Permitted mirror
    ⟨seen.state.step crc32 relay (.receiver n past), seen.noted.note seen.state (.receiver n past)⟩
  have received : ∀ direction, seen.noted.received direction ≤
      (seen.noted.note seen.state (.receiver n past)).received direction := by
    intro direction
    cases direction with
    | forward => exact le.trans (Nat.le_succ n)
    | reverse => exact Nat.le_refl _
  have entered : ∀ direction, (seen.noted.note seen.state (.receiver n past)).entered direction =
      seen.noted.entered direction := by
    intro direction
    cases direction with
    | forward => rfl
    | reverse => rfl
  cases found : (seen.state.inbox relay.link.destAddr)[n]? with
  | none =>
      have nothing : seen.state.step crc32 relay (.receiver n past) = seen.state := by
        rw [RelayState.step, RelayState.input, found]
        rfl
      rw [nothing]
      exact .silent (mirrors.passOver received entered (Nat.le_refl _))
  | some bytes =>
      rw [seen.state.step_receiver crc32 relay found past] at again ⊢
      cases running : seen.state.receiver.running with
      | true =>
          obtain ⟨lost, later, first, behind⟩ := mirrors.oldest apart found le (underWay .forward)
          have queue : (mirror.lose lost .forward).data = bytes :: later := first
          have same : (mirror.lose lost .forward).receiver = seen.state.receiver := mirrors.receiver
          refine .afterLoss .forward lost (.receiver past) (gives_receiver rfl fun given taken => ?_) ?_
          · rw [SystemState.receiverInput, queue] at taken
            cases taken
            rw [same]
            refine gives.2 _ ?_
            rw [RelayState.input, found]
            rfl
          · rw [SystemState.step_taken crc32 relay.stdin relay.file _ (same ▸ running) queue, same]
            refine
              { reached := again
                sender := mirrors.sender
                receiver := rfl
                clock := mirrors.clock
                underWay := ⟨line, lined, fun direction => ?_⟩ }
            cases direction with
            | forward => exact behind
            | reverse => exact sublist_send (underWay .reverse)
      | false =>
          refine .one .receiverEnds (gives_receiver rfl fun given taken => ?_)
            ((mirrors.idleReceiver (Or.inl running) again).passOver received entered
              (Nat.le_refl _))
          cases taken
          exact ends _

theorem receiverEnds (mirrors : Mirrors crc32 relay seen mirror)
    (ends : ∀ receiver, Permitted receiver .pollEnds) :
    Matches crc32 relay Allowed Permitted mirror
      ((sequenced crc32 relay).step seen .receiverEnds) := by
  refine .one .receiverEnds (gives_receiver rfl fun given taken => ?_)
    (mirrors.idleReceiver (Or.inr rfl) (mirrors.reached_step .receiverEnds))
  cases taken
  exact ends _

/-- A sender that does nothing more. -/
theorem idleSender (mirrors : Mirrors crc32 relay seen mirror) {input : SenderInput}
    (idle : seen.state.sender.exit ≠ none ∨ input = .pollEnds)
    (reached : ∃ actions, seen.state.take crc32 relay (.sender input) =
      (relayed crc32 relay).run actions) :
    Mirrors crc32 relay ⟨seen.state.take crc32 relay (.sender input), seen.noted⟩
      (mirror.step crc32 relay.stdin relay.file .senderEnds) := by
  obtain ⟨line, lined, underWay⟩ := id mirrors.underWay
  obtain ⟨same, silent⟩ := seen.state.sender.iterate_idle crc32 secondOf relay.stdin idle
  refine
    { reached := reached
      sender := ?_
      receiver := mirrors.receiver
      clock := mirrors.clock
      underWay := ⟨line, lined, fun direction => ?_⟩ }
  · change mirror.sender.iterate crc32 secondOf relay.stdin .pollEnds = _
    rw [mirrors.sender, ← same]
    rfl
  · cases direction with
    | forward =>
        have nothing : (seen.state.take crc32 relay (.sender input)).issued .forward =
            seen.state.data := by
          change seen.state.data ++
            (seen.state.sender.iterate crc32 secondOf relay.stdin input).sent = _
          rw [silent, List.append_nil]
        rw [ahead, nothing]
        exact underWay .forward
    | reverse => exact underWay .reverse

/-- The sender meets the same event in both. -/
theorem polled {state : SystemState} (sender : state.sender = seen.state.sender)
    (receiver : state.receiver = seen.state.receiver) {event : SenderEvent}
    {socket readable : Bool} {past : Memory} {wait work : ℕ}
    (met : state.event relay.file socket readable past wait work = event)
    (reached : ∃ actions, seen.state.take crc32 relay (.sender (.polled event)) =
      (relayed crc32 relay).run actions) {places : Places}
    (clock : state.clock + wait + work ≤ places.clock) {line : List PktSlot}
    (lined : Lined relay.link seen.state.link line)
    (forward : (ahead ⟨seen.state, places⟩ line .forward).Sublist state.data)
    (reverse : (ahead ⟨seen.state, places⟩ line .reverse).Sublist
      (if socket ∧ state.sender.exit = none then state.acks.tail else state.acks)) :
    Mirrors crc32 relay ⟨seen.state.take crc32 relay (.sender (.polled event)), places⟩
      (state.step crc32 relay.stdin relay.file (.sender socket readable past wait work)) := by
  rw [SystemState.step_polled]
  dsimp only
  rw [met, sender]
  rw [sender] at reverse
  refine
    { reached := reached
      sender := rfl
      receiver := receiver
      clock := clock
      underWay := ⟨line, lined, fun direction => ?_⟩ }
  cases direction with
  | forward => exact sublist_send forward
  | reverse => exact reverse

/-- The sender takes the oldest acknowledgement of the network, or none. -/
theorem takeSender (mirrors : Mirrors crc32 relay seen mirror)
    (apart : relay.srcAddr ≠ relay.link.destAddr)
    (ends : ∀ sender, Allowed sender .pollEnds) {socket : Option (Option ℕ)} {read : Option Bool}
    {now later : ℕ} {past : Memory}
    (inSequence : InSequence seen (.sender socket read now later past))
    (gives : seen.state.Gives relay Allowed Permitted (.sender socket read now later past)) :
    Matches crc32 relay Allowed Permitted mirror
      ((sequenced crc32 relay).step seen (.sender socket read now later past)) := by
  obtain ⟨works, behind, reads, time, goes⟩ := inSequence
  obtain ⟨line, lined, underWay⟩ := id mirrors.underWay
  have again := mirrors.reached_step (.sender socket read now later past)
  let places := seen.noted.note seen.state (.sender socket read now later past)
  have passed : places.clock = later ∧
      (∀ direction, seen.noted.received direction ≤ places.received direction) ∧
      ∀ direction, places.entered direction = seen.noted.entered direction := by
    unfold places Places.note
    dsimp only
    split
    · rename_i n
      refine ⟨rfl, fun direction => ?_, fun direction => by cases direction <;> rfl⟩
      cases direction with
      | forward => exact Nat.le_refl _
      | reverse => exact (behind n rfl).trans (Nat.le_succ n)
    · exact ⟨rfl, fun direction => by cases direction <;> exact Nat.le_refl _,
        fun direction => by cases direction <;> rfl⟩
  obtain ⟨clock, received, entered⟩ := passed
  have less : ∀ direction, (ahead ⟨seen.state, places⟩ line direction).Sublist
      (mirror.channel direction) := by
    intro direction
    refine List.Sublist.trans ?_ (underWay direction)
    rw [ahead, ahead, entered]
    exact (List.drop_sublist_drop_left _ (received direction)).append_right _
  have early := mirrors.clock.trans time
  change Matches crc32 relay Allowed Permitted mirror
    ⟨seen.state.step crc32 relay (.sender socket read now later past), places⟩
  cases exit : seen.state.sender.exit with
  | some way =>
      have left : seen.state.sender.exit ≠ none := by
        rw [exit]
        exact Option.some_ne_none way
      refine .one .senderEnds (gives_sender rfl fun given taken => ?_)
        ((mirrors.idleSender (Or.inl left) again).passOver received entered ?_)
      · cases taken
        exact ends _
      · rw [clock]
        exact time.trans goes
  | none =>
      -- without a datagram the network's socket is not readable either
      have quiet (given : seen.state.input relay (.sender socket read now later past) =
          some (.sender (.polled ⟨now, none, past, Heap.plenty, read.map fun ok =>
            if ok then some (relay.file.next seen.state.sender.chunks.length) else none, later,
            Heap.plenty⟩))) :
          Matches crc32 relay Allowed Permitted mirror
            ⟨seen.state.step crc32 relay (.sender socket read now later past), places⟩ := by
        have met := mirror.event_at relay.file false reads past early goes
        rw [if_neg (fun both => Bool.false_ne_true both.1), mirrors.sender] at met
        rw [RelayState.step, given] at again ⊢
        refine .one (.sender false read.isSome past (now - mirror.clock) (later - now))
          (gives_sender rfl fun input taken => ?_)
          (polled mirrors.sender mirrors.receiver met again ?_ lined (less .forward) ?_)
        · rw [SystemState.senderInput, met] at taken
          cases taken
          rw [mirrors.sender]
          exact gives.1 _ given
        · rw [clock]
          omega
        · rw [if_neg fun both => Bool.false_ne_true both.1]
          exact less .reverse
      cases socket with
      | none => exact quiet rfl
      | some result =>
          cases result with
          | none => exact absurd rfl works
          | some n =>
              cases found : (seen.state.inbox relay.srcAddr)[n]? with
              | none =>
                  refine quiet ?_
                  rw [RelayState.input, Option.bind_some]
                  dsimp only
                  rw [found, Option.map_none]
              | some bytes =>
                  obtain ⟨lost, rest, first, remaining⟩ :=
                    mirrors.oldest apart found (behind n rfl) (underWay .reverse)
                  have queue : (mirror.lose lost .reverse).acks = bytes :: rest := first
                  have inLoop : (mirror.lose lost .reverse).sender.exit = none :=
                    (congrArg SenderState.exit mirrors.sender).trans exit
                  have met := (mirror.lose lost .reverse).event_at relay.file true reads past
                    early goes
                  have same : (mirror.lose lost .reverse).sender = seen.state.sender :=
                    mirrors.sender
                  have recv : some (some bytes) =
                      ((seen.state.inbox relay.srcAddr)[n]?).map some := by
                    rw [found]
                    rfl
                  rw [if_pos ⟨rfl, inLoop⟩, queue, List.head?_cons, Option.map_some, same,
                    recv] at met
                  refine .afterLoss .reverse lost
                    (.sender true read.isSome past (now - mirror.clock) (later - now))
                    (gives_sender rfl fun given taken => ?_)
                    (polled same mirrors.receiver met again ?_ lined (less .forward) ?_)
                  · have input : some (SenderInput.polled _) = some given :=
                      (congrArg (fun event => some (SenderInput.polled event)) met).symm.trans taken
                    cases input
                    rw [same]
                    exact gives.1 _ rfl
                  · have late : mirror.clock + (now - mirror.clock) + (later - now) = later := by
                      omega
                    exact (late.trans clock.symm).le
                  · rw [if_pos ⟨rfl, inLoop⟩, queue]
                    exact remaining

theorem senderEnds (mirrors : Mirrors crc32 relay seen mirror)
    (ends : ∀ sender, Allowed sender .pollEnds) :
    Matches crc32 relay Allowed Permitted mirror
      ((sequenced crc32 relay).step seen .senderEnds) := by
  refine .one .senderEnds (gives_sender rfl fun given taken => ?_)
    (mirrors.idleSender (Or.inr rfl) (mirrors.reached_step .senderEnds))
  cases taken
  exact ends _

theorem step (mirrors : Mirrors crc32 relay seen mirror) (steady : relay.link.jitter = 0)
    (exact_ : relay.link.errRate = 0) (apart : relay.srcAddr ≠ relay.link.destAddr)
    (small : ∀ chunk ∈ relay.file.chunks, chunk.length ≤ 508)
    (senderEnds : ∀ sender, Allowed sender .pollEnds)
    (receiverEnds : ∀ receiver, Permitted receiver .pollEnds) {action : RelayAction}
    (inSequence : InSequence seen action)
    (gives : seen.state.Gives relay Allowed Permitted action) :
    Matches crc32 relay Allowed Permitted mirror ((sequenced crc32 relay).step seen action) := by
  cases action with
  | sender socket read now later past =>
      exact mirrors.takeSender apart senderEnds inSequence gives
  | senderEnds => exact mirrors.senderEnds senderEnds
  | receiver n past => exact mirrors.takeReceiver apart receiverEnds inSequence gives
  | receiverEnds => exact mirrors.receiverEnds receiverEnds
  | interrupted => exact .silent (mirrors.takeLink steady exact_ apart small rfl inSequence)
  | selectFailed => exact .silent (mirrors.takeLink steady exact_ apart small rfl inSequence)
  | link clock arrival luck malloc realloc =>
      exact .silent (mirrors.takeLink steady exact_ apart small rfl inSequence)

end Mirrors

/-! ## Runs -/

/-- The network matches the relay in every run in sequence. -/
theorem mirrors_run (steady : relay.link.jitter = 0) (exact_ : relay.link.errRate = 0)
    (apart : relay.srcAddr ≠ relay.link.destAddr)
    (small : ∀ chunk ∈ relay.file.chunks, chunk.length ≤ 508)
    (senderEnds : ∀ sender, Allowed sender .pollEnds)
    (receiverEnds : ∀ receiver, Permitted receiver .pollEnds) {actions : List RelayAction}
    (along : (sequenced crc32 relay).Along (fun seen action =>
      InSequence seen action ∧ seen.state.Gives relay Allowed Permitted action)
      (sequenced crc32 relay).start actions) :
    ∃ matching, (network crc32 relay.stdin relay.file).Along
        (SystemState.Gives relay Allowed Permitted) .start matching ∧
      Mirrors crc32 relay ((sequenced crc32 relay).run actions)
        ((network crc32 relay.stdin relay.file).run matching) := by
  refine (sequenced crc32 relay).simulates (fun seen mirror action mirrors allowed => ?_)
    Mirrors.start along
  exact mirrors.step steady exact_ apart small senderEnds receiverEnds allowed.1 allowed.2

variable (Allowed Permitted) in
/-- Two programs that exchange datagrams through a simulator without jitter and corruption are
two programs on the network: for every run in sequence the network has a run that brings both
into the same states, and in which the two loops meet nothing that they have not met in the
first one, or that their `poll` ends. -/
theorem refines_network (steady : relay.link.jitter = 0) (exact_ : relay.link.errRate = 0)
    (apart : relay.srcAddr ≠ relay.link.destAddr)
    (small : ∀ chunk ∈ relay.file.chunks, chunk.length ≤ 508)
    (senderEnds : ∀ sender, Allowed sender .pollEnds)
    (receiverEnds : ∀ receiver, Permitted receiver .pollEnds) (actions : List RelayAction)
    (along : (sequenced crc32 relay).Along (fun seen action =>
      InSequence seen action ∧ seen.state.Gives relay Allowed Permitted action)
      (sequenced crc32 relay).start actions) :
    let state := (relayed crc32 relay).run actions
    ∃ matching, (network crc32 relay.stdin relay.file).Along
        (SystemState.Gives relay Allowed Permitted) .start matching ∧
      ((network crc32 relay.stdin relay.file).run matching).sender = state.sender ∧
      ((network crc32 relay.stdin relay.file).run matching).receiver = state.receiver := by
  intro state
  obtain ⟨matching, gives, mirrors⟩ :=
    mirrors_run steady exact_ apart small senderEnds receiverEnds along
  have same : ((sequenced crc32 relay).run actions).state = state :=
    (relayed crc32 relay).observe_run_state _ _ actions
  exact ⟨matching, gives, mirrors.sender.trans (congrArg _ same),
    mirrors.receiver.trans (congrArg _ same)⟩

/-! ## A chunk that is sent twice -/

/-- A link that loses packets and delays them by 100 milliseconds. -/
def steadyRelay (file : File) : Relay :=
  { noisyRelay file with link := { (noisyRelay file).link with jitter := 0, errRate := 0 } }

/-- The simulator loses the first copy of the chunk, and the second one reaches the receiver. -/
def lostFirst : List RelayAction :=
  [look, .link (some (.whole 1)) (some (.data 0)) ⟨0, 0, 0, 0, 0⟩ true true,
    .sender none none 3 3 fun _ => 0, .link (some (.whole 3)) (some (.data 1)) .spares true true,
    .link (some (.whole 14)) none .spares true true]

/-- The acknowledgement goes through, and the sender meets the end of the file. -/
def acknowledged : List RelayAction :=
  [.link (some (.whole 15)) (some (.ack 0)) .spares true true,
    .link (some (.whole 26)) none .spares true true,
    .sender (some (some 0)) (some true) 4 4 fun _ => 0]

/-- The chunk has been written, and its acknowledgement has been sent. -/
def received : RelayState :=
  let state := (relayed zlibCrc32 (steadyRelay threeBytes)).run lostFirst
  let bytes := ((state.inbox ⟨0, 1341⟩)[0]?).getD []
  let decoded := state.receiver.decode zlibCrc32 (some bytes) (fun _ => 0) Heap.plenty
  let receiver := ((state.receiver.receive zlibCrc32 (some bytes) (fun _ => 0) Heap.plenty).accept
    fullWrite ⟨state.receiver.receptions.length, decoded.1⟩).sendAck zlibCrc32
  { state with receiver := receiver, acks := receiver.sent }

theorem run_received : (relayed zlibCrc32 (steadyRelay threeBytes)).run
    (lostFirst ++ [.receiver 0 fun _ => 0]) = received := by
  rw [Machine.run_concat]
  unfold received
  generalize same : (relayed zlibCrc32 (steadyRelay threeBytes)).run lostFirst = state
  have found : (state.inbox ⟨0, 1341⟩)[0]? = some (((state.inbox ⟨0, 1341⟩)[0]?).getD []) := by
    rw [← same]
    decide +kernel
  have code : (state.receiver.decode zlibCrc32 (some (((state.inbox ⟨0, 1341⟩)[0]?).getD []))
      (fun _ => 0) Heap.plenty).2 = .pktOk := by
    rw [← same]
    decide +kernel
  have acks : state.acks = [] := by
    rw [← same]
    rfl
  rw [relayed_step, state.step_receiver zlibCrc32 (steadyRelay threeBytes) found]
  unfold RelayState.take
  dsimp only
  -- the loop that delivers buffered packets is not evaluated: there are none
  rw [state.receiver.iterate_of_expected zlibCrc32 fullWrite _ _ _ ?_ ?_ (Prod.ext rfl code) ?_ ?_
    (Int.natCast_nonneg _), acks]
  · rfl
  · rw [← same]
    decide +kernel
  · rw [← same]
    rfl
  · rw [← same]
    decide +kernel
  · rw [← same]
    decide +kernel

theorem sequenced_received : (sequenced zlibCrc32 (steadyRelay threeBytes)).run
    (lostFirst ++ [.receiver 0 fun _ => 0]) = ⟨received, 2, 0, 1, 0, 3⟩ := by
  have state := (relayed zlibCrc32 (steadyRelay threeBytes)).observe_run_state ⟨0, 0, 0, 0, 0⟩
    Places.note (lostFirst ++ [.receiver 0 fun _ => 0])
  rw [run_received] at state
  rw [← state]
  rfl

/-- The chunk is lost, sent again, written and acknowledged. -/
def lostOnce : List RelayAction := lostFirst ++ [.receiver 0 fun _ => 0] ++ acknowledged

theorem exit_lostOnce : ((relayed zlibCrc32 (steadyRelay threeBytes)).run lostOnce).sender.exit =
    some .endOfFile := by
  rw [lostOnce, Machine.run_append, run_received]
  decide +kernel

/-- The clock of the simulator goes on, and what it receives has not been passed over. -/
theorem inSequence_link {seen : Observed RelayState Places} {time : Timespec}
    {arrival : Option Arrival} {luck : Luck} {malloc realloc : Bool}
    (goesOn : seen.state.link.lastClock.order < (updateTime time).order)
    (data : ∀ n, arrival = some (.data n) → seen.noted.data ≤ n)
    (acks : ∀ n, arrival = some (.ack n) → seen.noted.acks ≤ n) :
    InSequence seen (.link (some time) arrival luck malloc realloc) := by
  refine ⟨?_, data, acks⟩
  rintro other ⟨⟩
  exact goesOn

theorem inSequence_lostOnce : (sequenced zlibCrc32 (steadyRelay threeBytes)).Along
    (fun seen action => InSequence seen action) (sequenced zlibCrc32 (steadyRelay threeBytes)).start
      lostOnce := by
  rw [lostOnce, Machine.along_append]
  constructor
  · refine ⟨⟨by decide, by rintro n ⟨⟩, by decide, by decide, by decide⟩,
      inSequence_link (by decide +kernel) (fun n _ => Nat.zero_le n) (by rintro n ⟨⟩),
      ⟨by decide, by rintro n ⟨⟩, by decide, by decide, by decide⟩,
      inSequence_link (by decide +kernel) ?_ (by rintro n ⟨⟩),
      inSequence_link (by decide +kernel) (by rintro n ⟨⟩) (by rintro n ⟨⟩),
      Nat.le_refl _, trivial⟩
    rintro n ⟨⟩
    exact Nat.le_refl 1
  · rw [← Machine.run, sequenced_received]
    exact ⟨inSequence_link (by decide +kernel) (by rintro n ⟨⟩) (fun n _ => Nat.zero_le n),
      inSequence_link (by decide +kernel) (by rintro n ⟨⟩) (by rintro n ⟨⟩),
      ⟨by decide, fun n _ => Nat.zero_le n, by decide, by decide, by decide⟩, trivial⟩

/-- What the two programs meet in this run: the sender has created at most one packet and has
room, and the receiver holds none. -/
theorem gives_lostOnce (allowed : ∀ sender event, sender.created.length ≤ 1 →
      (sender.beforeFile zlibCrc32 secondOf event).senderBufferSize ≠ 0 →
      Allowed sender (.polled event))
    (permitted : ∀ receiver input, receiver.receiverBuffer = Slots.empty →
      Permitted receiver input) :
    (sequenced zlibCrc32 (steadyRelay threeBytes)).Along
      (fun seen action => seen.state.Gives (steadyRelay threeBytes) Allowed Permitted action)
      (sequenced zlibCrc32 (steadyRelay threeBytes)).start lostOnce := by
  rw [lostOnce, Machine.along_append]
  constructor
  · refine ⟨RelayState.gives_sender rfl (allowed _ _ (by decide +kernel) (by decide +kernel)),
      RelayState.gives_link .., RelayState.gives_sender rfl (allowed _ _ (by decide +kernel)
        (by decide +kernel)), RelayState.gives_link .., RelayState.gives_link .., ⟨?_, ?_⟩, trivial⟩
    · intro input given
      obtain ⟨bytes, -, same⟩ := Option.map_eq_some_iff.mp given
      cases same
    · exact fun input _ => permitted _ _ rfl
  · rw [← Machine.run, sequenced_received]
    exact ⟨RelayState.gives_link .., RelayState.gives_link .., RelayState.gives_sender rfl
      (allowed _ _ (by decide +kernel) (by decide +kernel)), trivial⟩

/-- On the network, too, the loops meet nothing with more than one packet created or with one
buffered. -/
theorem refines_network_lostOnce :
    let state := (relayed zlibCrc32 (steadyRelay threeBytes)).run lostOnce
    let Allowed (sender : SenderState) (input : SenderInput) : Prop :=
      input = .pollEnds ∨ sender.created.length ≤ 1
    let Permitted (receiver : ReceiverState) (input : ReceiverInput) : Prop :=
      input = .pollEnds ∨ receiver.receiverBuffer = Slots.empty
    state.sender.exit = some .endOfFile ∧
      ∃ matching, (network zlibCrc32 false threeBytes).Along
          (SystemState.Gives (steadyRelay threeBytes) Allowed Permitted) .start matching ∧
        ((network zlibCrc32 false threeBytes).run matching).sender = state.sender ∧
        ((network zlibCrc32 false threeBytes).run matching).receiver = state.receiver := by
  intro state Allowed Permitted
  refine ⟨exit_lostOnce, refines_network Allowed Permitted rfl rfl (by decide) (by decide)
    (fun _ => .inl rfl) (fun _ => .inl rfl) lostOnce (inSequence_lostOnce.and ?_)⟩
  exact gives_lostOnce (fun _ _ few _ => .inr few) fun _ _ bare => .inr bare

end SelectiveRepeat.System

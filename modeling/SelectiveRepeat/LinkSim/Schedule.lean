import SelectiveRepeat.LinkSim.Passage

/-!
# Delays and timeouts

An expiration date is not normalised: the delay may bring its microseconds beyond a
million, and dates are compared by the second first.  Such a packet is due as soon as the
next second begins.  The timeouts that are given to `select` are computed from the same
dates.
-/

namespace SelectiveRepeat.LinkSim

open SelectiveRepeat.Foundations

variable (link : Link)

/-! ## Times in microseconds -/

def Timeval.micros (time : Timeval) : ℤ := time.sec * 1000000 + time.usec

/-- The time is one that the clock has shown. -/
def Timeval.Shown (time : Timeval) : Prop := ∃ clock, time = updateTime clock

theorem Timeval.Shown.usec {time : Timeval} (shown : time.Shown) :
    0 ≤ time.usec ∧ time.usec < 1000000 := by
  obtain ⟨clock, rfl⟩ := shown
  have valid := clock.valid
  unfold updateTime
  dsimp only
  omega

/-- The delay is capped to ten seconds. -/
theorem appliedDelay_lt (luck : Luck) : (appliedDelay link luck).toNat < 10000 := by
  unfold appliedDelay
  rw [UInt32.toNat_mod]
  exact Nat.mod_lt _ (by decide)

theorem expiration_micros (time : Timeval) (delay : UInt32) :
    (expiration time delay).micros = time.micros + 1000 * delay.toNat := by
  unfold expiration Timeval.micros
  dsimp only
  omega

theorem expiration_usec {time : Timeval} (shown : time.Shown) (delay : UInt32) :
    0 ≤ (expiration time delay).usec ∧ (expiration time delay).usec ≤ 1998999 := by
  have usec := shown.usec
  unfold expiration
  dsimp only
  omega

/-- The first microsecond in which a packet with this date is due. -/
def Timeval.dueFrom (ts : Timeval) : ℤ :=
  if ts.usec < 1000000 then ts.micros + 1 else (ts.sec + 1) * 1000000

theorem order_lt_iff {ts now : Timeval} (positive : 0 ≤ ts.usec) (shown : now.Shown) :
    ts.order < now.order ↔ ts.dueFrom ≤ now.micros := by
  have usec := shown.usec
  unfold Timeval.order Timeval.dueFrom Timeval.micros
  rw [Prod.Lex.toLex_lt_toLex]
  dsimp only
  split
  · omega
  · omega

/-! ## Where the dates come from -/

/-- The slot was filled in an iteration of the run, for a packet that was offered there. -/
def Admitted (first : Timespec) (inputs : List LinkInput) (slot : PktSlot) : Prop :=
  ∃ before event rest clock parcel, inputs = before ++ .woken event :: rest ∧
    event.clock = some clock ∧
    ((proxyLoop link first).run before).offers link (.woken event) = some parcel ∧
    Alters link parcel (slot.direction, slot.buf) ∧
    slot.ts = expiration (updateTime clock) (appliedDelay link event.luck)

variable {link}

theorem Admitted.append {first : Timespec} {inputs : List LinkInput} {slot : PktSlot}
    (admitted : Admitted link first inputs slot) (more : List LinkInput) :
    Admitted link first (inputs ++ more) slot := by
  obtain ⟨before, event, rest, clock, parcel, rfl, facts⟩ := admitted
  exact ⟨before, event, rest ++ more, clock, parcel, by simp, facts⟩

theorem Admitted.usec {first : Timespec} {inputs : List LinkInput} {slot : PktSlot}
    (admitted : Admitted link first inputs slot) : 0 ≤ slot.ts.usec ∧ slot.ts.usec ≤ 1998999 := by
  obtain ⟨before, event, rest, clock, parcel, split, time, offer, alters, date⟩ := admitted
  rw [date]
  exact expiration_usec ⟨clock, rfl⟩ _

variable (link)

/-- A call of `sendto` for a packet of the queue is made when the packet has expired. -/
def SendTo.Timely (first : Timespec) (inputs : List LinkInput) (call : SendTo) : Prop :=
  ∃ slot, Admitted link first inputs slot ∧
    (call.direction, call.buf) = (slot.direction, slot.buf) ∧ slot.Expired call.time

/-- The times in a state of a run. -/
structure Scheduled (first : Timespec) (inputs : List LinkInput) (state : LinkState) : Prop where
  clock : state.lastClock.Shown
  queue : ∀ slot ∈ state.pktQueue.items, Admitted link first inputs slot
  calls : ∀ call ∈ state.calls, call.time.Shown ∧
    (Parcel.Simulated link (call.direction, call.buf) → link.delay ≠ 0 →
      call.Timely link first inputs)

variable {link}

theorem Scheduled.append {first : Timespec} {inputs : List LinkInput} {state : LinkState}
    (scheduled : Scheduled link first inputs state) (more : List LinkInput) :
    Scheduled link first (inputs ++ more) state where
  clock := scheduled.clock
  queue slot member := (scheduled.queue slot member).append more
  calls call member := by
    refine ⟨(scheduled.calls call member).1, fun simulated delayed => ?_⟩
    obtain ⟨slot, admitted, same, expired⟩ := (scheduled.calls call member).2 simulated delayed
    exact ⟨slot, admitted.append more, same, expired⟩

theorem Scheduled.delivered {first : Timespec} {inputs : List LinkInput} {state : LinkState}
    (scheduled : Scheduled link first inputs state) {clock : Timespec} {after : LinkState × Bool}
    {out : List PktSlot} {last : List SendTo}
    (delivery : Delivery link (state.at clock) after out last) :
    Scheduled link first inputs after.1 where
  clock := ⟨clock, delivery.lastClock⟩
  queue slot member := by
    have items : state.pktQueue.items = _ := delivery.items
    apply scheduled.queue
    rw [items]
    exact Multiset.mem_add.mpr (Or.inr member)
  calls call member := by
    rcases delivery.call_cases member with old | ⟨slot, inQueue, result, rfl, expired⟩
    · exact scheduled.calls call old
    · exact ⟨⟨clock, rfl⟩, fun _ _ => ⟨slot, scheduled.queue slot inQueue, rfl, expired⟩⟩

theorem Scheduled.tracked {first : Timespec} {inputs : List LinkInput} {state : LinkState}
    (scheduled : Scheduled link first inputs state) (recv : RecvResult) :
    Scheduled link first inputs (tracked state recv) := by
  rw [tracked_eq]
  exact ⟨scheduled.clock, scheduled.queue, scheduled.calls⟩

theorem Passes.scheduled {event : LinkEvent} {state : LinkState} {parcel : Parcel}
    {result : LinkState × Bool} (passes : Passes link event state parcel result)
    {first : Timespec} {inputs : List LinkInput} (scheduled : Scheduled link first inputs state)
    (admitted : ∀ buf, Alters link parcel (parcel.1, buf) → Admitted link first inputs
      ⟨expiration state.lastClock (appliedDelay link event.luck), parcel.1, buf⟩) :
    Scheduled link first inputs result.1 := by
  cases passes with
  | dropped => exact scheduled
  | noMemory => exact scheduled
  | queued buf alters simulated delayed queue ordered items =>
      refine ⟨scheduled.clock, fun slot member => ?_, scheduled.calls⟩
      rw [items] at member
      rcases Multiset.mem_cons.mp member with rfl | old
      · exact admitted buf alters
      · exact scheduled.queue slot old
  | written buf alters now =>
      refine ⟨scheduled.clock, scheduled.queue, fun call member => ?_⟩
      rcases List.mem_append.mp member with old | new
      · exact scheduled.calls call old
      · rw [List.mem_singleton.mp new]
        refine ⟨scheduled.clock, fun simulated delayed => ?_⟩
        rcases now with immediate | other
        · exact absurd immediate delayed
        · exact absurd simulated other

theorem Iterates.scheduled {first : Timespec} {inputs : List LinkInput} {input : LinkInput}
    {next : LinkState} (iterates : Iterates link ((proxyLoop link first).run inputs) input next)
    (scheduled : Scheduled link first inputs ((proxyLoop link first).run inputs)) :
    Scheduled link first (inputs ++ [input]) next := by
  cases iterates with
  | idle _ running runs nothing =>
      have kept := scheduled.append [input]
      exact ⟨kept.clock, kept.queue, kept.calls⟩
  | delivered event clock time on delivery next same running ignored =>
      have sent := (scheduled.append [.woken event]).delivered delivery
      rcases same with rfl | ⟨recv, -, rfl⟩
      · exact ⟨sent.clock, sent.queue, sent.calls⟩
      · have kept := sent.tracked recv
        exact ⟨kept.clock, kept.queue, kept.calls⟩
  | taken event clock time on delivery recv _ offer passes =>
      have sent := (scheduled.append [.woken event]).delivered delivery
      have kept := passes.scheduled (sent.tracked recv) fun buf alters => by
        refine ⟨inputs, event, [], clock, _, rfl, time, offer, alters, ?_⟩
        dsimp only
        rw [tracked_eq]
        dsimp only
        rw [delivery.lastClock]
        rfl
      exact ⟨kept.clock, kept.queue, kept.calls⟩

variable (link)

theorem scheduled_run (first : Timespec) (inputs : List LinkInput) :
    Scheduled link first inputs ((proxyLoop link first).run inputs) := by
  induction inputs using List.reverseRecOn with
  | nil =>
      exact ⟨⟨first, rfl⟩, fun slot member => absurd member (Multiset.notMem_zero slot),
        fun call member => absurd member List.not_mem_nil⟩
  | append_singleton inputs input ih =>
      rw [Machine.run_concat, proxyLoop_step]
      exact (iterate_cases link _ (ordered_run link first inputs) input).scheduled ih

/-- A packet that the link delays is sent on at most 998999 microseconds before its delay is
over, and not before if the delay does not bring the microseconds of its date to a million. -/
theorem sent_when_due (first : Timespec) (inputs : List LinkInput) :
    ∀ call ∈ ((proxyLoop link first).run inputs).calls,
      sameDirection call.direction link.linkDirection = true → link.delay ≠ 0 →
      ∃ before event rest clock parcel, inputs = before ++ .woken event :: rest ∧
        event.clock = some clock ∧
        ((proxyLoop link first).run before).offers link (.woken event) = some parcel ∧
        Alters link parcel (call.direction, call.buf) ∧
        let received := updateTime clock
        let delay := (appliedDelay link event.luck).toNat
        delay < 10000 ∧ received.micros + 1000 * delay ≤ call.time.micros + 998999 ∧
          (received.usec + 1000 * (delay % 1000) < 1000000 →
            received.micros + 1000 * delay < call.time.micros) := by
  intro call member simulated delayed
  obtain ⟨shown, timely⟩ := (scheduled_run link first inputs).calls call member
  obtain ⟨slot, admitted, same, expired⟩ := timely simulated delayed
  have usec := admitted.usec
  obtain ⟨before, event, rest, clock, parcel, split, time, offer, alters, date⟩ := admitted
  refine ⟨before, event, rest, clock, parcel, split, time, offer, same ▸ alters,
    appliedDelay_lt link event.luck, ?_⟩
  have due := (order_lt_iff usec.1 shown).mp expired
  have micros := expiration_micros (updateTime clock) (appliedDelay link event.luck)
  have carry : (expiration (updateTime clock) (appliedDelay link event.luck)).usec =
      (updateTime clock).usec + 1000 * ((appliedDelay link event.luck).toNat % 1000) := by
    unfold expiration
    dsimp only
    omega
  rw [← date] at micros carry
  rw [← micros, ← carry]
  unfold Timeval.dueFrom at due
  unfold Timeval.micros at *
  split at due
  · omega
  · omega

theorem sent_when_due_slowLink : ∃ call ∈ ((proxyLoop slowLink epoch).run oneDatagram).calls,
    ∃ event clock, .woken event ∈ oneDatagram ∧ event.clock = some clock ∧
      (updateTime clock).micros + 1000 * (appliedDelay slowLink event.luck).toNat ≤
        call.time.micros + 998999 := by
  have first : Direction.forward ∈
      ((proxyLoop slowLink epoch).run oneDatagram).calls.map SendTo.direction := by
    rw [oneDatagram_sent]
    exact List.mem_singleton.mpr rfl
  obtain ⟨call, member, direction⟩ := List.mem_map.mp first
  obtain ⟨before, event, rest, clock, parcel, split, time, -, -, -, due, -⟩ :=
    sent_when_due slowLink epoch oneDatagram call member (direction ▸ rfl) (by decide)
  exact ⟨call, member, event, clock, split ▸ by simp, time, due⟩

/-! ## The timeouts of `select` -/

/-- The time that `get_queue_timeout` computes from the next expiration date. -/
theorem queueWait_spec {ts now : Timeval} (shown : now.Shown)
    (valid : 0 ≤ ts.usec ∧ ts.usec ≤ 1998999) :
    let timeout := timevalDiff ts now
    let wait : Timeval :=
      if timeout.sec < 0 ∨ (timeout.sec = 0 ∧ timeout.usec ≤ 0) then ⟨0, 1000⟩ else timeout
    0 ≤ wait.sec ∧ 0 ≤ wait.usec ∧ 0 < wait.micros ∧ (now.micros + wait.micros = ts.micros ∨
      wait = ⟨0, 1000⟩ ∧ ts.micros < now.micros + 1000000) := by
  intro timeout wait
  have usec := shown.usec
  have cases_ : timeout.micros = ts.micros - now.micros ∧ 0 ≤ timeout.usec ∧
        timeout.usec ≤ 1998999 ∨
      timeout.sec = 0 ∧ timeout.usec ≤ 0 ∧ ts.micros < now.micros + 1000000 := by
    unfold timeout timevalDiff Timeval.micros
    dsimp only
    split_ifs with borrow last
    · left
      dsimp only
      omega
    · right
      dsimp only
      omega
    · left
      dsimp only
      omega
  unfold wait
  split_ifs with late
  · refine ⟨le_rfl, by decide, by decide, Or.inr ⟨rfl, ?_⟩⟩
    unfold Timeval.micros at *
    omega
  · unfold Timeval.micros at *
    refine ⟨by omega, by omega, by omega, Or.inl (by omega)⟩

theorem micros_le_of_order {first second : Timeval} (before : first.order ≤ second.order)
    (most : first.usec ≤ 1998999) (positive : 0 ≤ second.usec) :
    first.micros ≤ second.micros + 998999 := by
  unfold Timeval.order at before
  rw [Prod.Lex.toLex_le_toLex] at before
  unfold Timeval.micros
  dsimp only at before
  omega

/-- A timeout never lets the program spin, and it is never negative.  It is the time until the
next packet expires, or a millisecond when that is less than a second away. -/
theorem queue_timeout (first : Timespec) (inputs : List LinkInput) :
    let state := (proxyLoop link first).run inputs
    match getQueueTimeout state with
    | none => state.pktQueue.items = 0
    | some timeout => 0 ≤ timeout.sec ∧ 0 ≤ timeout.usec ∧ 0 < timeout.micros ∧
        ∃ p ∈ state.pktQueue.items,
          (∀ slot ∈ state.pktQueue.items, p.ts.micros ≤ slot.ts.micros + 998999) ∧
          (state.lastClock.micros + timeout.micros = p.ts.micros ∨
            timeout = ⟨0, 1000⟩ ∧ p.ts.micros < state.lastClock.micros + 1000000) := by
  intro state
  have scheduled := scheduled_run link first inputs
  have ordered := ordered_run link first inputs
  unfold getQueueTimeout
  cases peeked : minqPeek state.pktQueue with
  | none => exact MinQueue.items_eq_zero.mpr (MinQueue.minqPeek_eq_none.mp peeked)
  | some p =>
      obtain ⟨inQueue, least⟩ := MinQueue.peek_least ordered peeked
      have usec := (scheduled.queue p inQueue).usec
      have wait := queueWait_spec scheduled.clock usec
      refine ⟨wait.1, wait.2.1, wait.2.2.1, p, inQueue, fun slot member => ?_, wait.2.2.2⟩
      exact micros_le_of_order (least slot member) usec.2 (scheduled.queue slot member).usec.1

end SelectiveRepeat.LinkSim

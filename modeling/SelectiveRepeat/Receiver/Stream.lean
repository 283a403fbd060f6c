import SelectiveRepeat.Receiver.Order
import SelectiveRepeat.Receiver.Window

/-!
# Receiving one stream of packets

The arriving packets are those of one stream, numbered modulo 256 and close to the
next one to be written.  The slots then hold packets not yet written, each number
once, unless a packet is written or stored while an older copy of it stays in a
slot.  That copy is written when its number comes round again.
-/

namespace SelectiveRepeat.Receiver

open SelectiveRepeat.Foundations SelectiveRepeat.Packet SelectiveRepeat.Transport

namespace ReceiverState

variable (crc32 : List UInt8 → UInt32) (write : ℕ → ℕ → ℤ)

/-- Taking a packet with this number leaves a copy of it behind: the number is in some
slot, and it is the expected number or the store loop meets a free slot before it. -/
def KeepsCopy (state : ReceiverState) (number : UInt8) : Prop :=
  (∃ index held, state.receiverBuffer index = some held ∧ held.pkt.seqnum = number) ∧
    (number = state.seqnum ∨
      (state.InWindow number ∧ ∃ hole, state.receiverBuffer hole = none ∧
        ∀ before < hole, ∃ held, state.receiverBuffer before = some held ∧
          held.pkt.seqnum ≠ number))

section Origin

/-! ## Packets of a stream -/

variable {Origin : ℕ → Pkt → Prop}
  (numbered : ∀ j pkt, Origin j pkt → pkt.seqnum.toNat = j % 256)
  {state : ReceiverState}

/-- Every packet has a place in the stream: those in the slots lie below the end of the
window, those written no later than where they were written. -/
structure Traced (Origin : ℕ → Pkt → Prop) (state : ReceiverState) : Prop where
  ordered : state.Ordered
  slots : ∀ index held, state.receiverBuffer index = some held →
    ∃ j, j < state.writes.length + windowSize ∧ Origin j held.pkt
  written : ∀ k call, state.writes[k]? = some call → ∃ j, j ≤ k ∧ Origin j call.packet.pkt

/-- The slots hold packets that are still to be written, each number once, and the
writes are the stream up to now. -/
structure Faithful (Origin : ℕ → Pkt → Prop) (limit : ℕ) (state : ReceiverState) : Prop where
  ordered : state.Ordered
  reached : state.writes.length ≤ limit
  near : limit ≤ state.writes.length + windowSize
  slots : ∀ index held, state.receiverBuffer index = some held →
    ∃ j, state.writes.length ≤ j ∧ j < limit ∧ Origin j held.pkt
  distinct : Distinct (fun held : PktPtr => held.pkt.seqnum) state.receiverBuffer
  written : ∀ k call, state.writes[k]? = some call → Origin k call.packet.pkt

theorem traced_start : Traced Origin start := by
  refine ⟨ordered_start, fun index held found => ?_, fun k call found => ?_⟩
  · simp [start] at found
  · simp [start] at found

theorem faithful_start : Faithful Origin 0 start := by
  refine ⟨ordered_start, Nat.le_refl _, Nat.zero_le _, fun index held found => ?_,
    fun index _ held _ found => ?_, fun k call found => ?_⟩
  · simp [start] at found
  · simp [start] at found
  · simp [start] at found

/-- A change of the other variables. -/
theorem Traced.congr (traced : Traced Origin state) {after : ReceiverState}
    (seqnum : after.seqnum = state.seqnum) (writes : after.writes = state.writes)
    (slots : after.receiverBuffer = state.receiverBuffer) : Traced Origin after := by
  refine ⟨traced.ordered.congr seqnum writes, ?_, ?_⟩
  · rw [slots, writes]
    exact traced.slots
  · rw [writes]
    exact traced.written

theorem Faithful.congr {limit : ℕ} (faithful : Faithful Origin limit state) {after : ReceiverState}
    (seqnum : after.seqnum = state.seqnum) (writes : after.writes = state.writes)
    (slots : after.receiverBuffer = state.receiverBuffer) : Faithful Origin limit after := by
  refine ⟨faithful.ordered.congr seqnum writes, ?_, ?_, ?_, ?_, ?_⟩
  · rw [writes]
    exact faithful.reached
  · rw [writes]
    exact faithful.near
  · rw [slots, writes]
    exact faithful.slots
  · rw [slots]
    exact faithful.distinct
  · rw [writes]
    exact faithful.written

/-- A weaker relation to the stream. -/
theorem Faithful.mono {Weaker : ℕ → Pkt → Prop} {limit : ℕ} (faithful : Faithful Origin limit state)
    (weaken : ∀ j pkt, Origin j pkt → Weaker j pkt) : Faithful Weaker limit state := by
  refine ⟨faithful.ordered, faithful.reached, faithful.near, fun index held found => ?_,
    faithful.distinct, fun k call found => weaken _ _ (faithful.written k call found)⟩
  obtain ⟨j, low, high, origin⟩ := faithful.slots index held found
  exact ⟨j, low, high, weaken _ _ origin⟩

/-- A larger bound, as long as it stays in the window. -/
theorem Faithful.extend {limit higher : ℕ} (faithful : Faithful Origin limit state)
    (le : limit ≤ higher) (near : higher ≤ state.writes.length + windowSize) :
    Faithful Origin higher state := by
  refine ⟨faithful.ordered, faithful.reached.trans le, near, fun index held found => ?_,
    faithful.distinct, faithful.written⟩
  obtain ⟨j, low, high, origin⟩ := faithful.slots index held found
  exact ⟨j, low, high.trans_le le, origin⟩

include numbered

/-! ## What a step keeps of the trace -/

theorem Traced.wrote (traced : Traced Origin state) {packet : PktPtr} {size : ℤ}
    (expected : packet.pkt.seqnum = state.seqnum) {j : ℕ} (origin : Origin j packet.pkt)
    (near : j < state.writes.length + windowSize) {after : ReceiverState}
    (seqnum : after.seqnum = incSeqnum state.seqnum)
    (writes : after.writes = state.writes ++ [⟨packet, size⟩])
    (kept : ∀ index held, after.receiverBuffer index = some held →
      state.receiverBuffer index = some held) : Traced Origin after := by
  have number := numbered j packet.pkt origin
  rw [expected, traced.ordered.expected] at number
  refine ⟨traced.ordered.wrote expected seqnum writes, fun index held found => ?_,
    fun k call found => ?_⟩
  · obtain ⟨i, bound, source⟩ := traced.slots index held (kept index held found)
    refine ⟨i, ?_, source⟩
    rw [writes, List.length_append]
    omega
  · rw [writes, getElem?_concat_eq_some] at found
    rcases found with old | ⟨rfl, rfl⟩
    · exact traced.written k call old
    · unfold windowSize at near
      exact ⟨j, by omega, origin⟩

theorem Traced.handle (traced : Traced Origin state) {packet : PktPtr} {code : PktStatus}
    (arrived : code = .pktOk → packet.pkt.type = 1 →
      ∃ j, j < state.writes.length + windowSize ∧ Origin j packet.pkt) :
    Traced Origin (state.handle crc32 write packet code) := by
  refine handle_preserves crc32 write (motive := Traced Origin) ?_ ?_ ?_ ?_ traced
  · intro state len buffer running sent before
    exact before.congr rfl rfl rfl
  · intro ok data _ index _ _
    refine ⟨traced.ordered.congr rfl rfl, fun other held found => ?_,
      traced.written⟩
    rcases Slots.of_put_eq_some found with ⟨-, rfl⟩ | ⟨-, old⟩
    · exact arrived ok data
    · exact traced.slots other held old
  · intro ok data expected
    obtain ⟨j, near, origin⟩ := arrived ok data
    exact traced.wrote numbered expected origin near rfl rfl fun _ _ found => found
  · intro state index packet before held expected
    obtain ⟨j, near, origin⟩ := before.slots index packet held
    exact before.wrote numbered expected origin near rfl rfl fun _ _ found =>
      (Slots.of_clear_eq_some found).2

/-! ## What a step keeps of a faithful receiver -/

theorem Faithful.wrote {limit : ℕ} (faithful : Faithful Origin limit state) {packet : PktPtr}
    {size : ℤ} (expected : packet.pkt.seqnum = state.seqnum) {j : ℕ}
    (origin : Origin j packet.pkt) (recent : state.writes.length ≤ j + 225) (below : j < limit)
    {after : ReceiverState} (seqnum : after.seqnum = incSeqnum state.seqnum)
    (writes : after.writes = state.writes ++ [⟨packet, size⟩])
    (kept : ∀ index held, after.receiverBuffer index = some held →
      state.receiverBuffer index = some held ∧ held.pkt.seqnum ≠ packet.pkt.seqnum) :
    Faithful Origin limit after := by
  have near := faithful.near
  have number := numbered j packet.pkt origin
  rw [expected, faithful.ordered.expected] at number
  unfold windowSize at near
  have here : j = state.writes.length := by omega
  have length : after.writes.length = state.writes.length + 1 := by
    rw [writes, List.length_append, List.length_singleton]
  refine ⟨faithful.ordered.wrote expected seqnum writes, by omega, ?_, fun index held found => ?_,
    faithful.distinct.shrink fun index held found => (kept index held found).1,
    fun k call found => ?_⟩
  · unfold windowSize
    omega
  · obtain ⟨old, other⟩ := kept index held found
    obtain ⟨i, low, high, source⟩ := faithful.slots index held old
    refine ⟨i, ?_, high, source⟩
    have apart : i ≠ j := by
      intro same
      apply other
      apply UInt8.toNat_inj.mp
      rw [numbered i _ source, numbered j _ origin, same]
    omega
  · rw [writes, getElem?_concat_eq_some] at found
    rcases found with old | ⟨rfl, rfl⟩
    · exact faithful.written k call old
    · rw [← here]
      exact origin

theorem Faithful.deliver {limit : ℕ} (faithful : Faithful Origin limit state)
    {index : Fin windowSize} {packet : PktPtr} (held : state.receiverBuffer index = some packet)
    (expected : packet.pkt.seqnum = state.seqnum) :
    Faithful Origin limit (state.deliver write index packet) := by
  obtain ⟨j, low, high, origin⟩ := faithful.slots index packet held
  refine faithful.wrote numbered expected origin (by omega) high rfl rfl fun other found at_ => ?_
  obtain ⟨apart, old⟩ := Slots.of_clear_eq_some at_
  exact ⟨old, fun same => apart (faithful.distinct _ _ _ _ old held same)⟩

theorem Faithful.handle {limit : ℕ} (faithful : Faithful Origin limit state)
    (accounted : state.Accounted) {packet : PktPtr} {code : PktStatus}
    (arrived : code = .pktOk → packet.pkt.type = 1 → ¬ state.KeepsCopy packet.pkt.seqnum ∧
      ∃ j, state.writes.length ≤ j + 225 ∧ j < limit ∧ Origin j packet.pkt) :
    Faithful Origin limit (state.handle crc32 write packet code) := by
  refine handle_preserves crc32 write (motive := Faithful Origin limit) ?_ ?_ ?_ ?_ faithful
  · intro state len buffer running sent before
    exact before.congr rfl rfl rfl
  · intro ok data inside hole free first
    obtain ⟨single, j, recent, below, origin⟩ := arrived ok data
    have absent : ∀ index held, state.receiverBuffer index = some held →
        held.pkt.seqnum ≠ packet.pkt.seqnum := fun index held found same =>
      single ⟨⟨index, held, found, same⟩, Or.inr ⟨inside, hole, free, first⟩⟩
    -- a number inside the window belongs to a packet still to be written
    have ahead : state.writes.length ≤ j := by
      have number := numbered j packet.pkt origin
      have expected := faithful.ordered.expected
      have near := faithful.near
      have window := accounted.window_le
      have later := UInt8.lt_iff_toNat_lt.mp inside.2
      have close := inside.1
      unfold windowSize at near window
      omega
    have added : ∀ index held, (state.keep hole packet).receiverBuffer index = some held →
        (index = hole ∧ held = packet) ∨ state.receiverBuffer index = some held :=
      fun index held found => (Slots.of_put_eq_some found).imp_right And.right
    refine ⟨faithful.ordered.congr rfl rfl, faithful.reached,
      faithful.near, fun index held found => ?_, faithful.distinct.add absent added,
      faithful.written⟩
    rcases added index held found with ⟨-, rfl⟩ | old
    · exact ⟨j, ahead, below, origin⟩
    · exact faithful.slots index held old
  · intro ok data expected
    obtain ⟨single, j, recent, below, origin⟩ := arrived ok data
    refine faithful.wrote numbered expected origin recent below rfl rfl fun index held found => ?_
    exact ⟨found, fun same => single ⟨⟨index, held, found, same⟩, Or.inl expected⟩⟩
  · intro state index packet before held expected
    exact before.deliver write numbered held expected

end Origin

end ReceiverState

end SelectiveRepeat.Receiver

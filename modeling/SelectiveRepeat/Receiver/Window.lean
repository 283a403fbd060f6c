import SelectiveRepeat.Receiver.Step

/-!
# The receive window

`window` counts the free slots of `receiver_buffer`.  The store loop and every
round of the drain loop keep the count, so its 8-bit arithmetic is exact, and a
number that passes the window test finds a slot.
-/

namespace SelectiveRepeat.Receiver

open SelectiveRepeat.Foundations SelectiveRepeat.Packet SelectiveRepeat.Transport

namespace ReceiverState

variable (crc32 : List UInt8 → UInt32) (write : ℕ → ℕ → ℤ)

/-- The advertised window and the occupied slots add up to the buffer. -/
def Accounted (state : ReceiverState) : Prop :=
  state.window.toNat + state.receiverBuffer.used = windowSize

variable {state : ReceiverState}

theorem accounted_start : start.Accounted := by
  unfold Accounted start
  rw [Slots.used_empty]
  rfl

theorem Accounted.window_le (accounted : state.Accounted) : state.window.toNat ≤ windowSize := by
  unfold Accounted at accounted
  omega

theorem Accounted.window_eq_free (accounted : state.Accounted) :
    state.window.toNat = state.receiverBuffer.free := by
  have total := state.receiverBuffer.used_add_free
  unfold Accounted at accounted
  omega

/-! ## The store loop -/

/-- Filling a free slot takes exactly one from the window. -/
theorem Accounted.put (accounted : state.Accounted) {index : Fin windowSize}
    (hole : state.receiverBuffer index = none) (packet : PktPtr) :
    (state.window - 1).toNat + 1 = state.window.toNat ∧
      (state.window - 1).toNat + (state.receiverBuffer.put index packet).used = windowSize := by
  have grown := Slots.used_put hole packet
  have bound := (state.receiverBuffer.put index packet).used_le
  unfold Accounted at accounted
  have positive : 1 ≤ state.window.toNat := by omega
  have taken : (state.window - 1).toNat = state.window.toNat - 1 :=
    UInt8.toNat_sub_of_le _ _ (UInt8.le_iff_toNat_le.mpr positive)
  omega

/-- The store loop leaves the window alone or takes exactly one from it. -/
theorem Accounted.storePacket_window (accounted : state.Accounted) (packet : PktPtr) :
    (state.storePacket packet).window = state.window ∨
      (state.storePacket packet).window.toNat + 1 = state.window.toNat := by
  have outcome := state.stored packet
  generalize state.storePacket packet = after at outcome ⊢
  cases outcome with
  | present => exact Or.inl rfl
  | placed hole first => exact Or.inr (accounted.put hole packet).1
  | full => exact Or.inl rfl

/-- A number inside the window leaves a free slot, so the store loop ends with the
number in a slot. -/
theorem Accounted.storePacket_room (accounted : state.Accounted) {packet : PktPtr}
    (inside : state.InWindow packet.pkt.seqnum) :
    ∃ index held, (state.storePacket packet).receiverBuffer index = some held ∧
      held.pkt.seqnum = packet.pkt.seqnum := by
  have outcome := state.stored packet
  generalize state.storePacket packet = after at outcome ⊢
  cases outcome with
  | present found same => exact ⟨_, _, found, same⟩
  | placed hole first => exact ⟨_, packet, Slots.put_same _ _ _, rfl⟩
  | full occupied =>
      have later := UInt8.lt_iff_toNat_lt.mp inside.2
      have near := inside.1
      unfold Accounted at accounted
      have room : state.receiverBuffer.used < windowSize := by omega
      obtain ⟨index, hole⟩ := Slots.exists_none room
      exact absurd hole (occupied index)

/-! ## The drain loop -/

/-- Emptying a slot gives exactly one back to the window. -/
theorem Accounted.clear (accounted : state.Accounted) {index : Fin windowSize} {packet : PktPtr}
    (held : state.receiverBuffer index = some packet) :
    (state.window + 1).toNat = state.window.toNat + 1 ∧
      (state.window + 1).toNat + (state.receiverBuffer.clear index).used = windowSize := by
  have shrunk := Slots.used_clear held
  unfold Accounted at accounted
  have small : state.window.toNat + 1 ≤ 31 := by
    have size : windowSize = 31 := rfl
    omega
  have given : (state.window + 1).toNat = state.window.toNat + 1 := by
    rw [UInt8.toNat_add]
    exact Nat.mod_eq_of_lt (by simp only [UInt8.toNat_one]; omega)
  omega

theorem Accounted.deliver (accounted : state.Accounted) {index : Fin windowSize} {packet : PktPtr}
    (held : state.receiverBuffer index = some packet) :
    (state.deliver write index packet).Accounted :=
  (accounted.clear held).2

/-- Every state that the drain loop passes through is accounted. -/
theorem Accounted.delivers (accounted : state.Accounted) {during : ReceiverState}
    (deliveries : Relation.ReflTransGen (Delivers write) state during) : during.Accounted := by
  induction deliveries with
  | refl => exact accounted
  | tail _ delivery ih =>
      obtain ⟨index, packet, held, -, rfl⟩ := delivery
      exact ih.deliver write held

/-! ## The whole loop -/

theorem Accounted.handle (accounted : state.Accounted) (packet : PktPtr) (code : PktStatus) :
    (state.handle crc32 write packet code).Accounted := by
  refine handle_preserves crc32 write (motive := Accounted) ?_ ?_ ?_ ?_ accounted
  · intro state len buffer running sent before
    exact before
  · intro _ _ _ index hole _
    exact (accounted.put hole packet).2
  · intro _ _ _
    exact accounted
  · intro state index packet before held _
    exact before.deliver write held

theorem accounted_iterate (accounted : state.Accounted) (input : ReceiverInput) :
    (state.iterate crc32 write input).Accounted := by
  refine state.iterate_preserves crc32 write (motive := Accounted) ?_ input ?_ accounted
  · intro sent running before
    exact before
  · intro bytes past heap pkt code _ running decoded before
    have cleared : (state.receive crc32 bytes past heap).Accounted := before
    exact cleared.handle crc32 write _ code

theorem accounted_run (inputs : List ReceiverInput) :
    ((receiverLoop crc32 write).run inputs).Accounted :=
  (receiverLoop crc32 write).invariant accounted_start
    (fun _ input before => accounted_iterate crc32 write before input) inputs

/-! ## The window never closes -/

/-- A packet is only stored while the window is 2 or more, so one place stays open. -/
theorem window_pos_handle (accounted : state.Accounted) (positive : 1 ≤ state.window.toNat)
    (packet : PktPtr) (code : PktStatus) :
    1 ≤ (state.handle crc32 write packet code).window.toNat := by
  have both : (state.handle crc32 write packet code).Accounted ∧
      1 ≤ (state.handle crc32 write packet code).window.toNat := by
    refine handle_preserves crc32 write
      (motive := fun state => state.Accounted ∧ 1 ≤ state.window.toNat) ?_ ?_ ?_ ?_
      ⟨accounted, positive⟩
    · intro state len buffer running sent before
      exact before
    · intro _ _ inside index hole _
      have taken := accounted.put hole packet
      have later := UInt8.lt_iff_toNat_lt.mp inside.2
      have near := inside.1
      refine ⟨taken.2, ?_⟩
      change 1 ≤ (state.window - 1).toNat
      omega
    · intro _ _ _
      exact ⟨accounted, positive⟩
    · rintro state index packet ⟨before, _⟩ held _
      refine ⟨before.deliver write held, ?_⟩
      change 1 ≤ (state.window + 1).toNat
      rw [(before.clear held).1]
      omega
  exact both.2

theorem window_pos_run (inputs : List ReceiverInput) :
    1 ≤ ((receiverLoop crc32 write).run inputs).window.toNat := by
  induction inputs using List.reverseRecOn with
  | nil => exact Nat.le_of_ble_eq_true rfl
  | append_singleton inputs input ih =>
      rw [Machine.run_concat]
      have accounted := accounted_run crc32 write inputs
      refine iterate_preserves crc32 write (motive := fun state => 1 ≤ state.window.toNat) _
        ?_ input ?_ ih
      · intro sent running before
        exact before
      · intro bytes past heap pkt code _ running decoded before
        have cleared : (((receiverLoop crc32 write).run inputs).receive crc32 bytes past
          heap).Accounted := accounted
        exact window_pos_handle crc32 write cleared before _ code

end ReceiverState

/-- Window accounting after every iteration and at every change of `window`, and room
for every number that passes the window test. -/
theorem window_accounting (crc32 : List UInt8 → UInt32) (write : ℕ → ℕ → ℤ)
    (inputs : List ReceiverInput) :
    let state := (receiverLoop crc32 write).run inputs
    state.window.toNat + state.receiverBuffer.used = windowSize ∧
    state.window.toNat ≤ 31 ∧ state.window.toNat < 2 ^ 5 ∧
    ∀ bytes past heap, let cleared := state.receive crc32 bytes past heap
      (∀ packet, (cleared.storePacket packet).window = cleared.window ∨
        (cleared.storePacket packet).window.toNat + 1 = cleared.window.toNat) ∧
      (∀ packet during after,
        Relation.ReflTransGen (ReceiverState.Delivers write) (cleared.accept write packet) during →
        ReceiverState.Delivers write during after →
        after.window.toNat = during.window.toNat + 1) ∧
      (∀ pkt, state.running = true → state.decode crc32 bytes past heap = (pkt, .pktOk) →
        pktGetType pkt = PType.ptypeData.value → state.InWindow (pktGetSeqnum pkt) →
        ∃ index held,
          (state.iterate crc32 write (.readable bytes past heap)).receiverBuffer index = some held ∧
            pktGetSeqnum held.pkt = pktGetSeqnum pkt) := by
  intro state
  have accounted := ReceiverState.accounted_run crc32 write inputs
  have bound : state.window.toNat ≤ 31 := accounted.window_le
  refine ⟨accounted, bound, by omega, fun bytes past heap => ?_⟩
  intro cleared
  have kept : cleared.Accounted := accounted
  refine ⟨kept.storePacket_window, ?_, ?_⟩
  · rintro packet during _ path ⟨index, found, held, -, rfl⟩
    have accepted : (cleared.accept write packet).Accounted := kept
    exact ((accepted.delivers write path).clear held).1
  · intro pkt running decoded data inside
    have type := (pktGetType_eq_data pkt).mp data
    rw [ReceiverState.iterate_readable crc32 write state bytes past heap running decoded]
    have insideCleared : cleared.InWindow pkt.seqnum := inside
    rw [cleared.handle_of_inside crc32 write type insideCleared]
    exact kept.storePacket_room insideCleared

end SelectiveRepeat.Receiver

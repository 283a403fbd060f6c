import SelectiveRepeat.System.Acquaintance
import SelectiveRepeat.System.Relayed

/-!
# What can be sent on

In every reachable state each packet created and the number of writes have been sent.
-/

namespace SelectiveRepeat.System

open SelectiveRepeat.Foundations SelectiveRepeat.Packet SelectiveRepeat.Transport
open SelectiveRepeat.Receiver SelectiveRepeat.Sender SelectiveRepeat.LinkSim

/-! ## The two programs -/

/-- A packet is sent in the iteration that creates it. -/
theorem created_sent (crc32 : List UInt8 → UInt32) (tmSec : ℕ → UInt32) (stdin : Bool)
    (state : SenderState) (input : SenderInput) :
    ∀ pkt ∈ (state.iterate crc32 tmSec stdin input).created, pkt ∈ state.created ∨
      pkt.wire crc32 ∈ (state.iterate crc32 tmSec stdin input).sent := by
  have outcome := state.iterated crc32 tmSec stdin input
  generalize state.iterate crc32 tmSec stdin input = after at outcome ⊢
  intro pkt member
  cases outcome with
  | left left => exact Or.inl member
  | pollEnds inLoop => exact Or.inl member
  | @failed event inLoop recv =>
      rw [(state.emitted_beforeFile crc32 tmSec event).created] at member
      exact Or.inl member
  | @looked event _ inLoop stays outcome =>
      rw [← (state.emitted_beforeFile crc32 tmSec event).created]
      rcases outcome.record with ⟨created, sent⟩ | ⟨pkt, read, creates⟩
      · rw [created] at member
        exact Or.inl member
      · rw [creates.created] at member
        rcases List.mem_append.mp member with old | new
        · exact Or.inl old
        · obtain rfl := List.mem_singleton.mp new
          rw [creates.sent]
          exact Or.inr (List.mem_append_right _ (List.mem_singleton.mpr rfl))

/-- An iteration that writes answers. -/
theorem wrote_answers (crc32 : List UInt8 → UInt32) (state : ReceiverState)
    (input : ReceiverInput) : (state.iterate crc32 fullWrite input).writes = state.writes ∨
      (state.iterate crc32 fullWrite input).sent ≠ [] := by
  refine state.iterate_preserves crc32 fullWrite
    (motive := fun after => after.writes = state.writes ∨ after.sent ≠ []) ?_ input ?_ (Or.inl rfl)
  · exact fun sent running before => Or.inl rfl
  · intro bytes past heap pkt code _ running decoded before
    have answers : ∀ reached : ReceiverState, (reached.sendAck crc32).sent ≠ [] :=
      fun reached => List.append_ne_nil_of_right_ne_nil _ (List.cons_ne_nil _ _)
    have outcome := (state.receive crc32 bytes past heap).handled crc32 fullWrite
      ⟨state.receptions.length, pkt⟩ code
    generalize (state.receive crc32 bytes past heap).handle crc32 fullWrite _ code = after
      at outcome ⊢
    cases outcome with
    | refused bad => exact Or.inr (answers _)
    | ignored ok other => exact Or.inl rfl
    | outside ok data unexpected out => exact Or.inr (answers _)
    | buffered ok data unexpected inside => exact Or.inr (answers _)
    | failed ok data expected error => exact absurd (Int.natCast_nonneg _) (Int.not_le.mpr error)
    | drained ok data expected success => exact Or.inr (answers _)

/-! ## What has been sent -/

variable (crc32 : List UInt8 → UInt32) (relay : Relay)

/-- Every packet created and the number of writes have been sent. -/
structure Served (state : RelayState) : Prop extends Acquainted relay state where
  sent : ∀ pkt ∈ state.sender.created, pkt.wire crc32 ∈ state.data
  acked : state.receiver.writes ≠ [] → ∃ window,
    ackDatagram crc32 window (UInt8.ofNat state.receiver.writes.length) ∈ state.acks

variable {crc32 relay} {state : RelayState}

theorem served_start : Served crc32 relay (.start relay) where
  toAcquainted := Acquainted.start
  sent _ member := absurd member List.not_mem_nil
  acked nonempty := absurd rfl nonempty

namespace Served

theorem takeSent (served : Served crc32 relay state) (input : SenderInput) :
    ∀ pkt ∈ (state.take crc32 relay (.sender input)).sender.created,
      pkt.wire crc32 ∈ (state.take crc32 relay (.sender input)).data := by
  intro pkt member
  rcases created_sent crc32 secondOf relay.stdin state.sender input pkt member with old | new
  · exact List.mem_append_left _ (served.sent pkt old)
  · exact List.mem_append_right _ new

theorem takeAcked (served : Served crc32 relay state) (sound : Sound crc32 relay state)
    (input : ReceiverInput) :
    let after := state.take crc32 relay (.receiver input)
    after.receiver.writes ≠ [] → ∃ window,
      ackDatagram crc32 window (UInt8.ofNat after.receiver.writes.length) ∈ after.acks := by
  intro after nonempty
  obtain ⟨inputs, -, reached⟩ := sound.receiver
  have clear := ReceiverState.clear_run crc32 fullWrite inputs
  have ordered := ReceiverState.ordered_run crc32 fullWrite inputs
  rw [← reached] at clear ordered
  change (state.receiver.iterate crc32 fullWrite input).writes ≠ [] at nonempty
  change ∃ window, ackDatagram crc32 window
    (UInt8.ofNat (state.receiver.iterate crc32 fullWrite input).writes.length) ∈
      state.acks ++ (state.receiver.iterate crc32 fullWrite input).sent
  rcases wrote_answers crc32 state.receiver input with same | answers
  · rw [same] at nonempty ⊢
    obtain ⟨window, member⟩ := served.acked nonempty
    exact ⟨window, List.mem_append_left _ member⟩
  · obtain ⟨datagram, member⟩ := List.exists_mem_of_ne_nil _ answers
    obtain ⟨window, rfl⟩ := SystemState.ack_of_sent crc32 clear ordered input member
    exact ⟨window, List.mem_append_right _ member⟩

theorem step (served : Served crc32 relay state) (sound : Sound crc32 relay state)
    (action : RelayAction) : Served crc32 relay (state.step crc32 relay action) := by
  have acquainted : Acquainted relay (state.step crc32 relay action) :=
    served.toAcquainted.step sound.queue action
  unfold RelayState.step at acquainted ⊢
  cases given : state.input relay action with
  | none => exact served
  | some input =>
      rw [given] at acquainted
      cases input with
      | sender input => exact ⟨acquainted, served.takeSent input, served.acked⟩
      | receiver input => exact ⟨acquainted, served.sent, served.takeAcked sound input⟩
      | link input => exact ⟨acquainted, served.sent, served.acked⟩

end Served

/-! ## Going on -/

/-- Both invariants. -/
structure Going (crc32 : List UInt8 → UInt32) (relay : Relay) (state : RelayState) : Prop where
  sound : Sound crc32 relay state
  served : Served crc32 relay state

theorem going_start : Going crc32 relay (.start relay) := ⟨sound_start, served_start⟩

/-- The invariants hold after more actions. -/
theorem Going.runFrom (going : Going crc32 relay state) (intact : Intact crc32 relay)
    (actions : List RelayAction)
    (short : ((relayed crc32 relay).runFrom state actions).sender.created.length ≤ 255) :
    Going crc32 relay ((relayed crc32 relay).runFrom state actions) := by
  induction actions using List.reverseRecOn with
  | nil => exact going
  | append_singleton actions action ih =>
      rw [Machine.runFrom_append, Machine.runFrom_cons, Machine.runFrom_nil,
        relayed_step] at short ⊢
      have before := ih ((created_prefix_step action).length_le.trans short)
      exact ⟨before.sound.step intact short, before.served.step before.sound action⟩

end SelectiveRepeat.System

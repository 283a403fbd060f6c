import SelectiveRepeat.Receiver.Corruption
import SelectiveRepeat.Sender.Step

/-!
# The end of a transfer

The sender ends a transfer with a DATA packet of length 0.  The decoder refuses every
DATA packet of length 0, and the branch that would recognise the end comes after the
one for any expected packet, so the receiver answers the marker and goes on.
-/

namespace SelectiveRepeat.System

open SelectiveRepeat.Foundations SelectiveRepeat.Packet SelectiveRepeat.Transport
open SelectiveRepeat.Receiver SelectiveRepeat.Sender

variable (crc32 : List UInt8 → UInt32) (write : ℕ → ℕ → ℤ)

/-- The receiver leaves its loop and writes nothing more. -/
def EndRecognised (before after : ReceiverState) : Prop :=
  after.running = false ∧ after.writes = before.writes

/-- The marker is a DATA packet with no payload and length 0. -/
theorem markerPkt_fields (sender : SenderState) (stamp : UInt32) :
    (sender.markerPkt stamp).type = 1 ∧ (sender.markerPkt stamp).payload = none ∧
      (sender.markerPkt stamp).length = 0 ∧
      (sender.markerPkt stamp).seqnum = sender.seqnum :=
  ⟨rfl, rfl, rfl, rfl⟩

/-- The one datagram that the end-of-transfer branch sends. -/
theorem marker_datagram {sender : SenderState} {stamp : UInt32} {datagram : Datagram}
    (sent : (sender.sendMarker crc32 stamp).sent = sender.sent ++ [datagram]) :
    datagram = (sender.markerPkt stamp).wire crc32 := by
  rw [(sender.sendMarker_creates crc32 stamp).sent] at sent
  exact (List.singleton_inj.mp (List.append_cancel_left sent)).symm

/-- Whatever state a marker is decoded in, it is refused and answered. -/
theorem marker_refused {state : ReceiverState} (clear : state.Clear)
    (running : state.running = true) {sender : SenderState} {stamp : UInt32} {datagram : Datagram}
    (sent : (sender.sendMarker crc32 stamp).sent = sender.sent ++ [datagram]) (past : Memory)
    (heap : Heap) :
    let after := state.iterate crc32 write (.readable (some datagram) past heap)
    after.running = true ∧ after.sent = [ackDatagram crc32 state.window state.seqnum] := by
  intro after
  obtain ⟨type, payload, length, -⟩ := markerPkt_fields sender stamp
  have refused := state.decode_bare crc32 type payload length past heap
  rw [← marker_datagram crc32 sent] at refused
  rcases decoded : state.decode crc32 (some datagram) past heap with ⟨pkt, code⟩
  rw [decoded] at refused
  refine ⟨?_, (clear.iterate_refused crc32 write running decoded refused).2⟩
  change (state.iterate crc32 write _).running = true
  rw [state.iterate_readable crc32 write _ past heap running decoded,
    ReceiverState.handle_of_refused crc32 write refused]
  exact running

/-- In no reachable state does the receiver recognise the marker of a sender that has come
to the same number: it goes on and acknowledges the number once more. -/
theorem end_never_recognised (inputs : List ReceiverInput)
    (running : ((receiverLoop crc32 write).run inputs).running = true) (sender : SenderState)
    (number : sender.seqnum = ((receiverLoop crc32 write).run inputs).seqnum) (stamp : UInt32)
    (datagram : Datagram)
    (sent : (sender.sendMarker crc32 stamp).sent = sender.sent ++ [datagram]) (past : Memory)
    (heap : Heap) :
    let state := (receiverLoop crc32 write).run inputs
    let after := state.iterate crc32 write (.readable (some datagram) past heap)
    ¬ EndRecognised state after ∧ after.running = true ∧
      after.sent = [ackDatagram crc32 state.window sender.seqnum] := by
  intro state after
  have clear := ReceiverState.clear_run crc32 write inputs
  obtain ⟨still, answered⟩ := marker_refused crc32 write clear running sent past heap
  rw [number]
  refine ⟨fun ended => ?_, still, answered⟩
  rw [EndRecognised, still] at ended
  exact Bool.noConfusion ended.1

/-- An empty transfer: the marker is the first datagram the receiver gets. -/
theorem end_never_recognised_start :
    let datagram := (SenderState.start.markerPkt 0).wire zlibCrc32
    (ReceiverState.start.iterate zlibCrc32 (fun _ count => count)
      (.readable (some datagram) (fun _ => 0) Heap.plenty)).running = true :=
  (end_never_recognised zlibCrc32 (fun _ count => count) [] rfl .start rfl 0 _
    (SenderState.start.sendMarker_creates zlibCrc32 0).sent (fun _ => 0) Heap.plenty).2.1

/-- Both sides are at number 0 and the marker arrives: the receiver stays in its loop. -/
theorem end_unrecognised :
    let datagram := (SenderState.start.markerPkt 0).wire zlibCrc32
    (SenderState.start.sendMarker zlibCrc32 0).sent = [datagram] ∧
      SenderState.start.seqnum = ReceiverState.start.seqnum ∧
      ¬ EndRecognised .start (ReceiverState.start.iterate zlibCrc32 (fun _ count => count)
        (.readable (some datagram) (fun _ => 0) Heap.plenty)) := by
  have sent := (SenderState.start.sendMarker_creates zlibCrc32 0).sent
  have goes_on := (marker_refused zlibCrc32 (fun _ count => count) ReceiverState.clear_start rfl
    sent (fun _ => 0) Heap.plenty).1
  refine ⟨sent, rfl, fun ended => ?_⟩
  rw [EndRecognised, goes_on] at ended
  exact Bool.noConfusion ended.1

end SelectiveRepeat.System

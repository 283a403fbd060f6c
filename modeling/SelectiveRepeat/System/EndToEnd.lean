import SelectiveRepeat.System.Transfer

/-!
# From end to end

Two programs and the simulator between them, in any order of their steps.  What arrives at
the other end is the beginning of the file, and all of it when the sender has reported so.
-/

namespace SelectiveRepeat.System

open SelectiveRepeat.Foundations SelectiveRepeat.Packet SelectiveRepeat.Transport
open SelectiveRepeat.Receiver SelectiveRepeat.Sender SelectiveRepeat.LinkSim

/-! ## A run with a corrupted packet -/

/-- The first copy of the chunk arrives with a byte inverted. -/
def corruptedFirst : List RelayAction :=
  [look, .link (some (.whole 1)) (some (.data 0)) ⟨100, 0, 13, 0, 0⟩ true true,
    .link (some (.whole 12)) none .spares true true, .receiver 0 fun _ => 0]

example : ((relayed zlibCrc32 (noisyRelay threeBytes)).run
    corruptedFirst).receiver.receptions.map Reception.code = [.eCrc] := by decide +kernel

/-- The chunk is sent again, and the file is transferred. -/
theorem transferred_threeBytes : ∃ actions, Transferred (noisyRelay threeBytes)
    ((relayed zlibCrc32 (noisyRelay threeBytes)).run (corruptedFirst ++ actions)) := by
  have small : ∀ chunk ∈ threeBytes.chunks, chunk.length ≤ 508 := by decide
  have intact := intact_noisyRelay small
  have passable : (noisyRelay threeBytes).link.Passable := ⟨by decide, by decide, fun _ => rfl⟩
  have short : ((relayed zlibCrc32 (noisyRelay threeBytes)).run
      corruptedFirst).sender.created.length ≤ 255 := by decide +kernel
  have going := going_start.runFrom intact corruptedFirst short
  obtain ⟨last, reached, ⟨actions, -, rfl⟩, done⟩ := going.completes intact zlibCrc32_nil passable
    (by decide) (by decide) short (by decide +kernel) (by decide +kernel) (by decide +kernel)
    (by decide +kernel) (fun chunk member => uncut_of_le zlibCrc32 (small chunk member)) 12
  refine ⟨actions, ?_⟩
  rw [Machine.run_append]
  exact done

/-! ## In every run -/

variable {crc32 : List UInt8 → UInt32} {relay : Relay}

/-- Whatever the simulator and the network lose, alter, delay, repeat and reorder, what the
receiver has written is the beginning of the file, as long as at most 255 packets have been
created. -/
theorem relayed_prefix (intact : Intact crc32 relay) (actions : List RelayAction)
    (short : ((relayed crc32 relay).run actions).sender.created.length ≤ 255) :
    ((relayed crc32 relay).run actions).receiver.writes.map WriteCall.output <+:
      relay.file.chunks := by
  have sound := sound_run intact actions short
  exact (sound.outputs_prefix intact short).trans sound.chunks

theorem relayed_prefix_threeBytes : ∃ actions,
    let state := (relayed zlibCrc32 (noisyRelay threeBytes)).run (corruptedFirst ++ actions)
    state.receiver.writes.length = 1 ∧
      state.receiver.writes.map WriteCall.output <+: [[1, 2, 3]] := by
  obtain ⟨actions, done⟩ := transferred_threeBytes
  have length := congrArg List.length done.writes
  rw [List.length_map] at length
  exact ⟨actions, length, relayed_prefix (intact_noisyRelay (by decide)) _ done.created⟩

/-- Where the sender then leaves its loop at the end of the file, the receiver has written the
whole file. -/
theorem relayed_complete (intact : Intact crc32 relay) (actions : List RelayAction)
    (short : ((relayed crc32 relay).run actions).sender.created.length ≤ 255)
    (finished : ((relayed crc32 relay).run actions).sender.exit = some .endOfFile) :
    ((relayed crc32 relay).run actions).receiver.writes.map WriteCall.output =
      relay.file.chunks :=
  (sound_run intact actions short).complete intact short finished

theorem relayed_complete_threeBytes : ∃ actions,
    let state := (relayed zlibCrc32 (noisyRelay threeBytes)).run (corruptedFirst ++ actions)
    state.sender.exit = some .endOfFile ∧
      state.receiver.writes.map WriteCall.output = [[1, 2, 3]] := by
  obtain ⟨actions, done⟩ := transferred_threeBytes
  exact ⟨actions, done.exit,
    relayed_complete (intact_noisyRelay (by decide)) _ done.created done.exit⟩

/-- The sender frees a packet only when its payload has been written, and the last acknowledgement
is never ahead of the writes. -/
theorem freed_written (intact : Intact crc32 relay) (actions : List RelayAction)
    (short : ((relayed crc32 relay).run actions).sender.created.length ≤ 255) :
    let state := (relayed crc32 relay).run actions
    state.sender.lastack ≤ state.receiver.writes.length ∧
      ∀ k ∈ state.sender.freed, ∃ pkt call, state.sender.created[k]? = some pkt ∧
        state.receiver.writes[k]? = some call ∧ pkt.payload = some call.output := by
  intro state
  have sound : Sound crc32 relay state := sound_run intact actions short
  refine ⟨sound.lastack, fun k freed => ?_⟩
  have found := List.getElem?_eq_getElem (sound.freed k freed)
  obtain ⟨pkt, created, payload⟩ := sound.payload_of_write intact short found
  exact ⟨pkt, _, created, found, payload⟩

theorem freed_written_threeBytes : ∃ actions,
    let state := (relayed zlibCrc32 (noisyRelay threeBytes)).run (corruptedFirst ++ actions)
    0 ∈ state.sender.freed ∧ state.sender.lastack ≤ state.receiver.writes.length ∧
      ∀ k ∈ state.sender.freed, ∃ pkt call, state.sender.created[k]? = some pkt ∧
        state.receiver.writes[k]? = some call ∧ pkt.payload = some call.output := by
  obtain ⟨actions, done⟩ := transferred_threeBytes
  have intact : Intact zlibCrc32 (noisyRelay threeBytes) := intact_noisyRelay (by decide)
  refine ⟨actions, ?_, freed_written intact _ done.created⟩
  -- the packet of the chunk has been created, and a sender at the end of the file holds none
  have sound := sound_run intact _ done.created
  refine sound.books.freed_of_empty (sound.books.empty_of_size (sound.ended done.exit)) 0 ?_
  rw [Machine.run_append]
  exact lt_of_lt_of_le (show 0 < ((relayed zlibCrc32 (noisyRelay threeBytes)).run
    corruptedFirst).sender.created.length by decide +kernel)
    (created_prefix_runFrom actions).length_le

end SelectiveRepeat.System

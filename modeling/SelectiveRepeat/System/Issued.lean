import SelectiveRepeat.Receiver.Acknowledgement
import SelectiveRepeat.Sender.Datagrams
import SelectiveRepeat.System.Relay

/-!
# What the two programs send

In every run the sender sends packets that it has created from the file, and the receiver
sends acknowledgements.
-/

namespace SelectiveRepeat.System

open SelectiveRepeat.Foundations SelectiveRepeat.Packet SelectiveRepeat.Transport
open SelectiveRepeat.Receiver SelectiveRepeat.Sender SelectiveRepeat.LinkSim

/-- The sources of everything that has been sent. -/
structure Issued (crc32 : List UInt8 → UInt32) (relay : Relay) (state : RelayState) : Prop where
  holds : state.sender.HoldsCreated
  composed : state.sender.Composed
  chunks : state.sender.chunks <+: relay.file.chunks
  finished : state.sender.exit = some .endOfFile → state.sender.chunks = relay.file.chunks
  data : ∀ datagram ∈ state.data, ∃ pkt ∈ state.sender.created, datagram = pkt.wire crc32
  clear : state.receiver.Clear
  acks : ∀ datagram ∈ state.acks, ∃ window number, datagram = ackDatagram crc32 window number

variable {crc32 : List UInt8 → UInt32} {relay : Relay} {state : RelayState}

/-! ## The sender -/

/-- An iteration adds packets to those created and takes none away. -/
theorem created_prefix_iterate {tmSec : ℕ → UInt32} {stdin : Bool} {state : SenderState}
    {input : SenderInput} : state.created <+: (state.iterate crc32 tmSec stdin input).created := by
  have outcome := state.iterated crc32 tmSec stdin input
  generalize state.iterate crc32 tmSec stdin input = after at outcome ⊢
  cases outcome with
  | left left => exact List.prefix_rfl
  | pollEnds inLoop => exact List.prefix_rfl
  | @failed event inLoop recv =>
      rw [(state.emitted_beforeFile crc32 tmSec event).created]
  | @looked event _ inLoop stays outcome =>
      rw [← (state.emitted_beforeFile crc32 tmSec event).created]
      rcases outcome.record with ⟨created, sent⟩ | ⟨pkt, read, creates⟩
      · rw [created]
      · rw [creates.created]
        exact List.prefix_append _ _

/-- A sender leaves its loop at the end of the file when `read` returns nothing. -/
theorem read_of_endOfFile {tmSec : ℕ → UInt32} {stdin : Bool} {state : SenderState}
    {input : SenderInput}
    (finished : (state.iterate crc32 tmSec stdin input).exit = some .endOfFile) :
    (state.iterate crc32 tmSec stdin input).chunks = state.chunks ∧
      (state.exit = some .endOfFile ∨ ∃ event bytes, input = .polled event ∧
        event.read = some (some bytes) ∧ (bytes.take maxPayloadSize).length = 0) := by
  have outcome := state.iterated crc32 tmSec stdin input
  generalize state.iterate crc32 tmSec stdin input = after at outcome finished ⊢
  cases outcome with
  | left left => exact ⟨rfl, Or.inl finished⟩
  | pollEnds inLoop => cases finished
  | failed inLoop recv =>
      rw [recv] at finished
      cases finished
  | @looked event _ inLoop stays outcome =>
      cases outcome with
      | idle =>
          rw [stays] at finished
          cases finished
      | failed => cases finished
      | ended read nothing size =>
          exact ⟨state.beforeFile_chunks crc32 tmSec event, Or.inr ⟨event, _, rfl, read, nothing⟩⟩
      | chunk mayRead read nonempty =>
          rw [(SenderState.sendChunk_creates crc32 _ _ _ _).exit, stays] at finished
          cases finished
      | marker size =>
          rw [(SenderState.sendMarker_creates crc32 _ _).exit, stays] at finished
          cases finished

/-- `read` returns nothing at the end of the file only. -/
theorem File.length_le_of_next (file : File) {n : ℕ}
    (nothing : ((file.next n).take maxPayloadSize).length = 0) : file.chunks.length ≤ n := by
  by_contra inside
  have at_ : file.chunks[n]? = some file.chunks[n] := List.getElem?_eq_getElem (by omega)
  have positive := (file.sized _ (List.mem_of_getElem? at_)).1
  unfold File.next at nothing
  rw [at_, Option.getD_some, List.length_take, maxPayloadSize] at nothing
  omega

namespace RelayState.Sources

variable {input : SenderInput}

theorem plentiful (sources : Sources relay state (.sender input)) :
    SenderState.Plentiful input := by
  rintro event rfl
  cases sources with
  | sender event heap recv read => exact heap

/-- The sender reads on in the file. -/
theorem chunks_prefix (sources : Sources relay state (.sender input))
    (before : state.sender.chunks <+: relay.file.chunks) :
    (state.sender.iterate crc32 secondOf relay.stdin input).chunks <+: relay.file.chunks := by
  rcases state.sender.iterate_chunks crc32 secondOf relay.stdin input with
    same | ⟨event, bytes, rfl, found, nonempty, appended⟩
  · rw [same]
    exact before
  · cases sources with
    | sender event heap recv read =>
        obtain rfl := read bytes found
        rw [List.take_of_length_le (relay.file.length_next _)] at appended nonempty
        rw [appended]
        exact relay.file.prefix_next before nonempty

/-- A sender that leaves its loop at the end of the file has read it. -/
theorem finished (sources : Sources relay state (.sender input))
    (chunks : state.sender.chunks <+: relay.file.chunks)
    (before : state.sender.exit = some .endOfFile → state.sender.chunks = relay.file.chunks)
    (ends : (state.sender.iterate crc32 secondOf relay.stdin input).exit = some .endOfFile) :
    (state.sender.iterate crc32 secondOf relay.stdin input).chunks = relay.file.chunks := by
  obtain ⟨same, left | ⟨event, bytes, rfl, found, nothing⟩⟩ := read_of_endOfFile ends
  · exact same.trans (before left)
  · cases sources with
    | sender event heap recv read =>
        obtain rfl := read bytes found
        exact same.trans (chunks.eq_of_length_le (relay.file.length_le_of_next nothing))

end RelayState.Sources

/-! ## Runs -/

namespace Issued

theorem start : Issued crc32 relay (.start relay) where
  holds := SenderState.holdsCreated_start
  composed := SenderState.composed_start
  chunks := List.nil_prefix
  finished := nofun
  data _ member := absurd member List.not_mem_nil
  clear := ReceiverState.clear_start
  acks _ member := absurd member List.not_mem_nil

theorem take (issued : Issued crc32 relay state) {input : PartyInput}
    (sources : RelayState.Sources relay state input) :
    Issued crc32 relay (state.take crc32 relay input) := by
  cases input with
  | sender input =>
      refine
        { holds := SenderState.holdsCreated_iterate crc32 secondOf relay.stdin issued.holds input
          composed := SenderState.composed_iterate crc32 secondOf relay.stdin issued.composed
            sources.plentiful
          chunks := sources.chunks_prefix issued.chunks
          finished := sources.finished issued.chunks issued.finished
          data := fun datagram member => ?_
          clear := issued.clear
          acks := issued.acks }
      rcases List.mem_append.mp member with old | new
      · obtain ⟨pkt, created, same⟩ := issued.data datagram old
        exact ⟨pkt, created_prefix_iterate.subset created, same⟩
      · exact SenderState.sent_created crc32 secondOf relay.stdin issued.holds input datagram new
  | receiver input =>
      refine { issued with
        clear := ReceiverState.clear_iterate crc32 fullWrite issued.clear input
        acks := fun datagram member => ?_ }
      rcases List.mem_append.mp member with old | new
      · exact issued.acks datagram old
      · exact ⟨_, _, ReceiverState.answered_iterate crc32 fullWrite issued.clear input datagram new⟩
  | link input => exact { issued with }

end Issued

theorem issued_run (actions : List RelayAction) :
    Issued crc32 relay ((relayed crc32 relay).run actions) := by
  refine (relayed crc32 relay).invariant (motive := Issued crc32 relay) Issued.start ?_ actions
  intro state action issued
  rw [relayed_step, RelayState.step]
  cases given : state.input relay action with
  | none => exact issued
  | some input => exact issued.take (RelayState.sources_of_input given)

/-- The datagrams are as long as the simulator's buffer allows, if every chunk leaves room for
its header and its CRC. -/
theorem Issued.fits (issued : Issued crc32 relay state)
    (small : ∀ chunk ∈ relay.file.chunks, chunk.length ≤ 508) {datagram : Datagram}
    (member : datagram ∈ state.data ++ state.acks) :
    minPktLen ≤ datagram.length ∧ datagram.length ≤ maxPktLen := by
  rcases List.mem_append.mp member with old | old
  · obtain ⟨pkt, created, rfl⟩ := issued.data datagram old
    exact issued.composed.length_wire crc32 (fun chunk read => small chunk
      (issued.chunks.subset read)) created
  · obtain ⟨window, number, rfl⟩ := issued.acks datagram old
    rw [length_ackDatagram]
    exact ⟨by decide, by decide⟩

end SelectiveRepeat.System

import SelectiveRepeat.Foundations.Observer
import SelectiveRepeat.Sender.Expiry

/-!
# The end marker

A packet of length 0 is meant to tell the receiver that the file has ended.  The
branch that creates it is entered when the file is not readable and all slots are
counted free, whether `read` has returned 0 or not, and a chunk for which
`pkt_set_payload` has no memory becomes such a packet too.
-/

namespace SelectiveRepeat.Sender

open SelectiveRepeat.Foundations SelectiveRepeat.Packet SelectiveRepeat.Transport

/-- A DATA packet of length 0. -/
def Marker (pkt : Pkt) : Prop :=
  pktGetType pkt = PType.ptypeData.value ∧ pktGetLength pkt = 0

/-- A packet with bytes of the file. -/
def CarriesData (pkt : Pkt) : Prop :=
  ∃ payload, pktGetPayload pkt = some payload ∧ payload ≠ []

/-- No packet created after a marker is a marker or has data. -/
def MarkerLast (created : List Pkt) : Prop :=
  created.Pairwise fun earlier later => Marker earlier → ¬ Marker later ∧ ¬ CarriesData later

/-- What an iteration comes to on the file. -/
inductive FileAction where
  /-- Nothing is created. -/
  | idle
  /-- `read` returns 0. -/
  | atEnd
  /-- A packet without payload is created: the file is not readable and all slots are counted
  free, or `calloc` has no block for what was read. -/
  | empty
  /-- A packet with what was read is created. -/
  | data
  deriving DecidableEq

namespace SenderState

variable (crc32 : List UInt8 → UInt32) (tmSec : ℕ → UInt32)

/-- The branch taken where the file is looked at; it is not the standard input. -/
def branchAction (state : SenderState) (event : SenderEvent) : FileAction :=
  match event.read with
  | none => if state.senderBufferSize.toNat = windowSize then .empty else .idle
  | some none => .idle
  | some (some bytes) =>
      let chunk := bytes.take maxPayloadSize
      if state.MayRead then
        if chunk.length = 0 then .atEnd
        else if event.payloadHeap.calloc chunk.length then .data else .empty
      else .idle

/-- What an iteration does with the file. -/
def fileAction (state : SenderState) : SenderInput → FileAction
  | .pollEnds => .idle
  | .polled event =>
      let reached := state.beforeFile crc32 tmSec event
      if state.exit = none ∧ reached.exit = none then reached.branchAction event else .idle

/-- The packets that an iteration creates. -/
def fresh (state : SenderState) (input : SenderInput) : List Pkt :=
  (state.iterate crc32 tmSec false input).created.drop state.created.length

/-- What each branch adds to the packets created. -/
inductive CreatedBy (created : List Pkt) : FileAction → List Pkt → Prop where
  | idle : CreatedBy created .idle created
  | atEnd : CreatedBy created .atEnd created
  | empty {pkt : Pkt} (marker : Marker pkt) : CreatedBy created .empty (created ++ [pkt])
  | data {pkt : Pkt} (carries : CarriesData pkt) (full : ¬ Marker pkt) :
      CreatedBy created .data (created ++ [pkt])

theorem markerPkt_marker (state : SenderState) (stamp : UInt32) : Marker (state.markerPkt stamp) :=
  ⟨by rfl, rfl⟩

/-- A chunk becomes a packet with its bytes, or a marker when there is no memory. -/
theorem chunkPkt_createdBy (state : SenderState) (created : List Pkt) (stamp : UInt32)
    (heap : Heap) {chunk : List UInt8} (nonempty : chunk.length ≠ 0)
    (bound : chunk.length ≤ maxPayloadSize) :
    CreatedBy created (if heap.calloc chunk.length then .data else .empty)
      (created ++ [state.chunkPkt chunk stamp heap]) := by
  have size : maxPayloadSize = 512 := rfl
  have width : (UInt16.ofNat chunk.length).toNat = chunk.length :=
    UInt16.toNat_ofNat_of_lt' (by simp only [UInt16.size]; omega)
  unfold chunkPkt pktSetPayload
  rw [width]
  cases block : heap.calloc chunk.length with
  | false => exact .empty ⟨by rfl, rfl⟩
  | true =>
      refine .data ⟨chunk, ?_, ?_⟩ ?_
      · exact congrArg some (List.take_length)
      · intro none_
        rw [none_] at nonempty
        exact nonempty rfl
      · rintro ⟨-, zero⟩
        have same := congrArg UInt16.toNat zero
        change (UInt16.ofNat chunk.length).toNat = 0 at same
        omega

theorem fileBranch_createdBy (state : SenderState) (event : SenderEvent) :
    CreatedBy state.created (state.branchAction event)
      (state.fileBranch crc32 tmSec false event).created := by
  unfold branchAction fileBranch
  cases event.read with
  | none =>
      dsimp only
      by_cases free : state.senderBufferSize.toNat = windowSize
      · rw [if_pos free, if_pos ⟨rfl, free⟩, (sendMarker_creates crc32 state _).created]
        exact .empty (markerPkt_marker state _)
      · rw [if_neg free, if_neg fun both => free both.2]
        exact .idle
  | some result =>
      cases result with
      | none =>
          dsimp only
          split
          · exact .idle
          · exact .idle
      | some bytes =>
          dsimp only
          by_cases mayRead : state.MayRead
          · rw [if_pos mayRead, if_pos mayRead]
            by_cases nothing : (bytes.take maxPayloadSize).length = 0
            · rw [if_pos nothing]
              split
              · exact .atEnd
              · rw [if_neg (Nat.not_lt.mpr nothing.le)]
                exact .atEnd
            · have goesOn : ¬ ((bytes.take maxPayloadSize).length = 0 ∧
                  state.senderBufferSize.toNat = windowSize) := fun both => nothing both.1
              rw [if_neg nothing, if_neg goesOn, if_pos (Nat.pos_of_ne_zero nothing),
                (sendChunk_creates crc32 state _ _ _).created]
              exact chunkPkt_createdBy state _ _ _ nothing (List.length_take_le _ _)
          · rw [if_neg mayRead, if_neg mayRead]
            exact .idle

theorem iterate_createdBy (state : SenderState) (input : SenderInput) :
    CreatedBy state.created (state.fileAction crc32 tmSec input)
      (state.iterate crc32 tmSec false input).created := by
  unfold fileAction
  by_cases inLoop : state.exit = none
  · cases input with
    | pollEnds =>
        unfold iterate
        rw [if_pos inLoop]
        exact .idle
    | polled event =>
        have same := (state.emitted_beforeFile crc32 tmSec event).created
        rw [iterate_polled crc32 tmSec false inLoop, ← same]
        dsimp only
        by_cases stays : (state.beforeFile crc32 tmSec event).exit = none
        · rw [if_pos stays, if_pos ⟨inLoop, stays⟩]
          exact fileBranch_createdBy crc32 tmSec _ event
        · rw [if_neg stays, if_neg fun both => stays both.2]
          exact .idle
  · unfold iterate
    rw [if_neg inLoop]
    cases input with
    | pollEnds => exact .idle
    | polled event =>
        dsimp only
        rw [if_neg fun both => inLoop both.1]
        exact .idle

end SenderState

/-- What is noted of the file: whether `read` has returned 0, and whether a packet without
payload has been created. -/
structure Ending where
  ended : Bool
  closed : Bool

def Ending.note (crc32 : List UInt8 → UInt32) (tmSec : ℕ → UInt32) (ending : Ending)
    (state : SenderState) (input : SenderInput) : Ending where
  ended := ending.ended || decide (state.fileAction crc32 tmSec input = .atEnd)
  closed := ending.closed || decide (state.fileAction crc32 tmSec input = .empty)

section Runs

variable (crc32 : List UInt8 → UInt32) (tmSec : ℕ → UInt32)

/-- `read_write_loop` on a file other than the standard input, with what is noted of the file. -/
def fileWatch : Machine (Observed SenderState Ending) SenderInput :=
  (readWriteLoop crc32 tmSec false).observe ⟨false, false⟩ (Ending.note crc32 tmSec)

theorem fileWatch_state (inputs : List SenderInput) :
    ((fileWatch crc32 tmSec).run inputs).state = (readWriteLoop crc32 tmSec false).run inputs :=
  Machine.observe_run_state _ _ _ inputs

/-- A marker is created only after `read` has returned 0, and nothing is created after it. -/
def MarksEnd (seen : Observed SenderState Ending) (input : SenderInput) : Prop :=
  ((∃ pkt ∈ seen.state.fresh crc32 tmSec input, Marker pkt) → seen.noted.ended = true) ∧
    MarkerLast (seen.state.iterate crc32 tmSec false input).created

/-- A packet without payload is due only after `read` has returned 0, and none is due after the
first. -/
def InTime (seen : Observed SenderState Ending) (input : SenderInput) : Prop :=
  (seen.state.fileAction crc32 tmSec input = .empty →
    seen.noted.ended = true ∧ seen.noted.closed = false) ∧
  (seen.state.fileAction crc32 tmSec input = .data → seen.noted.closed = false)

/-- What holds in a run whose markers were last so far. -/
structure Watched (seen : Observed SenderState Ending) : Prop where
  last : MarkerLast seen.state.created
  closed : seen.noted.closed = true ↔ ∃ pkt ∈ seen.state.created, Marker pkt

/-- One more packet after a record whose markers are last. -/
theorem markerLast_concat {created : List Pkt} (last : MarkerLast created) (pkt : Pkt) :
    MarkerLast (created ++ [pkt]) ↔
      ((∃ earlier ∈ created, Marker earlier) → ¬ Marker pkt ∧ ¬ CarriesData pkt) := by
  unfold MarkerLast at last ⊢
  rw [List.pairwise_append]
  constructor
  · rintro ⟨-, -, apart⟩ ⟨earlier, member, marker⟩
    exact apart earlier member pkt (List.mem_singleton.mpr rfl) marker
  · intro apart
    refine ⟨last, List.pairwise_singleton _ _, fun earlier member later found marker => ?_⟩
    rw [List.mem_singleton.mp found]
    exact apart ⟨earlier, member, marker⟩

theorem watched_start : Watched (fileWatch crc32 tmSec).start := by
  rw [fileWatch, Machine.observe_start]
  constructor
  · exact List.Pairwise.nil
  · constructor
    · intro closed
      cases closed
    · rintro ⟨pkt, member, -⟩
      cases member

variable {crc32 tmSec}

theorem Watched.marksEnd_iff {seen : Observed SenderState Ending} (watched : Watched seen)
    (input : SenderInput) : MarksEnd crc32 tmSec seen input ↔ InTime crc32 tmSec seen input := by
  have creation := seen.state.iterate_createdBy crc32 tmSec input
  unfold MarksEnd InTime SenderState.fresh
  generalize seen.state.fileAction crc32 tmSec input = action at creation ⊢
  generalize (seen.state.iterate crc32 tmSec false input).created = created at creation ⊢
  cases creation with
  | idle =>
      rw [List.drop_length]
      simp [watched.last]
  | atEnd =>
      rw [List.drop_length]
      simp [watched.last]
  | empty marker =>
      rw [List.drop_left, markerLast_concat watched.last, ← watched.closed]
      simp [marker]
  | data carries full =>
      rw [List.drop_left, markerLast_concat watched.last, ← watched.closed]
      simp [carries, full]

theorem Watched.step {seen : Observed SenderState Ending} (watched : Watched seen)
    {input : SenderInput} (marks : MarksEnd crc32 tmSec seen input) :
    Watched ((fileWatch crc32 tmSec).step seen input) := by
  refine ⟨marks.2, ?_⟩
  have creation := seen.state.iterate_createdBy crc32 tmSec input
  change (seen.noted.closed || decide (seen.state.fileAction crc32 tmSec input = .empty)) = true ↔
    ∃ pkt ∈ (seen.state.iterate crc32 tmSec false input).created, Marker pkt
  rw [Bool.or_eq_true, watched.closed, decide_eq_true_eq]
  generalize seen.state.fileAction crc32 tmSec input = action at creation ⊢
  generalize (seen.state.iterate crc32 tmSec false input).created = created at creation ⊢
  cases creation with
  | idle => simp
  | atEnd => simp
  | empty marker =>
      simp only [List.mem_append, List.mem_singleton, or_and_right, exists_or, exists_eq_left,
        marker]
  | data carries full =>
      simp [List.mem_append, or_and_right, exists_or, full]

/-- In a run the end marker is created only after `read` has returned 0 and is the last packet,
exactly when no packet without payload is due before and nothing is due after it. -/
theorem marker_last_iff (inputs : List SenderInput) :
    (fileWatch crc32 tmSec).Along (MarksEnd crc32 tmSec) (fileWatch crc32 tmSec).start inputs ↔
      (fileWatch crc32 tmSec).Along (InTime crc32 tmSec) (fileWatch crc32 tmSec).start inputs :=
  (fileWatch crc32 tmSec).along_congr (motive := Watched)
    (fun _ input watched => watched.marksEnd_iff input)
    (fun _ _ watched marks => watched.step marks) (watched_start crc32 tmSec) inputs

end Runs

/-- A pipe whose writer has not written anything yet, and then writes one byte. -/
theorem marker_before_data : ¬ (fileWatch zlibCrc32 secondOf).Along (MarksEnd zlibCrc32 secondOf)
    (fileWatch zlibCrc32 secondOf).start [nothingNew 0, firstChunk 0] := by
  rintro ⟨marks, -⟩
  have inTime := ((watched_start zlibCrc32 secondOf).marksEnd_iff (nothingNew 0)).mp marks
  have ended := (inTime.1 (by rfl)).1
  cases ended

end SelectiveRepeat.Sender

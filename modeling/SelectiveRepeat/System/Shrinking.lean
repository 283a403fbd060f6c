import SelectiveRepeat.Sender.Shrinking
import SelectiveRepeat.System.Completion

/-!
# How far the window lasts

The sender never frees a packet numbered 255, whatever it receives, so a run of more than
255 packets goes on with a smaller window.
-/

namespace SelectiveRepeat.System

open SelectiveRepeat.Foundations SelectiveRepeat.Packet SelectiveRepeat.Transport
open SelectiveRepeat.Sender

/-- Whatever is received, a run that does not overrun the buffer never frees a packet numbered
255 and loses a slot with every 256 packets, so it creates at most 7936 packets, and at most 255
if it ends at the end of the file. -/
theorem window_shrinks (crc32 : List UInt8 → UInt32) (tmSec : ℕ → UInt32) (stdin : Bool)
    (inputs : List SenderInput) (allowed : (readWriteLoop crc32 tmSec stdin).Along
      (fun state input => ¬ state.Overruns crc32 tmSec input) .start inputs) :
    ((readWriteLoop crc32 tmSec stdin).run inputs).LosesSlots := by
  obtain ⟨books, shrunk, ended⟩ := SenderState.shrunk_run crc32 tmSec stdin allowed
  exact shrunk.losesSlots books ended

/-- The sender of a number of rounds, which may end at the end of the file. -/
theorem sender_rounds {k : ℕ} (short : k ≤ 511) :
    ∃ inputs, (readWriteLoop zlibCrc32 secondOf true).Along
        (fun state input => ¬ state.Overruns zlibCrc32 secondOf input) .start inputs ∧
      SenderAt k k ((readWriteLoop zlibCrc32 secondOf true).run inputs) := by
  have stage := stage_rounds zlibCrc32 zlibCrc32_nil k (Nat.le_refl k) short
  have allowed := noOverrun_rounds zlibCrc32 zlibCrc32_nil (Nat.le_refl k) short
  obtain ⟨inputs, along, same⟩ := sender_run zlibCrc32 true (zeros k)
    (fun state input => ¬ state.Overruns zlibCrc32 secondOf input) allowed
  exact ⟨inputs, along, same ▸ stage.sender⟩

/-- After 300 rounds 299 packets have been freed and a slot is lost, and after two rounds the
sender ends at the end of the file. -/
theorem window_shrinks_rounds :
    (∃ inputs, ((readWriteLoop zlibCrc32 secondOf true).run inputs).created.length = 300 ∧
      ((readWriteLoop zlibCrc32 secondOf true).run inputs).lastack = 44 ∧
      ((readWriteLoop zlibCrc32 secondOf true).run inputs).LosesSlots) ∧
    ∃ inputs, ((readWriteLoop zlibCrc32 secondOf true).run inputs).exit = some .endOfFile ∧
      ((readWriteLoop zlibCrc32 secondOf true).run inputs).LosesSlots := by
  constructor
  · obtain ⟨inputs, allowed, sender⟩ := sender_rounds (show 300 ≤ 511 by omega)
    exact ⟨inputs, sender.created, sender.lastack,
      window_shrinks zlibCrc32 secondOf true inputs allowed⟩
  · obtain ⟨inputs, allowed, sender⟩ := sender_rounds (show 2 ≤ 511 by omega)
    let event : SenderEvent :=
      ⟨0, none, fun _ => 0, Heap.plenty, some (some []), 0, Heap.plenty⟩
    have ends : ((readWriteLoop zlibCrc32 secondOf true).run (inputs ++ [.polled event])).exit =
        some .endOfFile := by
      rw [Machine.run_concat, readWriteLoop_step,
        SenderState.iterate_end zlibCrc32 secondOf true sender.inLoop
          (by rw [sender.count]; decide) rfl (sender.size_eq (by omega)) sender.mayRead]
    refine ⟨inputs ++ [.polled event], ends, window_shrinks zlibCrc32 secondOf true _ ?_⟩
    rw [Machine.along_append]
    refine ⟨allowed, ?_, trivial⟩
    rintro ⟨polled, bytes, same, -, read, nonempty, -⟩
    cases same
    cases read
    exact nonempty rfl

end SelectiveRepeat.System

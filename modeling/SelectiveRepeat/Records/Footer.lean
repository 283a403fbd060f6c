import SelectiveRepeat.Foundations.Machine
import SelectiveRepeat.Records.Reading

/-!
# The uuid of a record without footer

`record_get_uuid` is documented to give 0 for a record without footer.  The flag and
the footer are two fields: `record_init` clears the flag only, and `record_read` of a
record without footer leaves the footer of the record before it.
-/

namespace SelectiveRepeat.Records

open SelectiveRepeat.Foundations

/-- A call on a structure. -/
inductive RecordCall where
  | init
  | setType (type : ℤ)
  | setPayload (malloc : ℕ → Bool) (buf : List UInt8) (n : ℕ)
  | setUuid (uuid : UInt32)
  | deleteFooter
  | read (heap : ReadHeap) (f : List UInt8)

namespace RecordCall

/-- The structure after a call. -/
def run (r : Record) : RecordCall → Record
  | .init => (recordInit r).1
  | .setType type => recordSetType r type
  | .setPayload malloc buf n => (recordSetPayload malloc r buf n).1
  | .setUuid uuid => recordSetUuid r uuid
  | .deleteFooter => recordDeleteFooter r
  | .read heap f => (recordRead heap r f).1

/-- The calls that a sequence can begin with. -/
def Begins : RecordCall → Prop
  | .init => True
  | .read _ _ => True
  | _ => False

end RecordCall

/-- Calls on one structure. -/
def recordCalls : Machine Record RecordCall where
  start := ⟨0, 0, 0, none, 0⟩
  step r call := call.run r

/-- Without footer the uuid is 0. -/
def UuidOfFooter (r : Record) : Prop := recordHasFooter r = 0 → recordGetUuid r = 0

/-- The header has the flag set, and the read buffer is not refused. -/
def StoresFooter (heap : ReadHeap) (f : List UInt8) : Prop :=
  (0 : UInt16) < headerFound f >>> 15 ∧
    (0 < (lengthFound f).toNat → heap.buffer (lengthFound f).toNat = true)

/-- A call that clears the flag, or may leave it cleared, finds a footer of 0. -/
def FooterCleared (r : Record) : RecordCall → Prop
  | .init => recordGetUuid r = 0
  | .read heap f => StoresFooter heap f ∨ recordGetUuid r = 0
  | _ => True

/-- What `record_read` leaves of the footer. -/
theorem uuidOfFooter_read (heap : ReadHeap) (r : Record) (f : List UInt8) :
    UuidOfFooter (recordRead heap r f).1 ↔ StoresFooter heap f ∨ recordGetUuid r = 0 := by
  unfold StoresFooter
  by_cases buffer : 0 < (lengthFound f).toNat → heap.buffer (lengthFound f).toNat = true
  · obtain ⟨payload, footer, result, -, -, kept⟩ := recordRead_spec r buffer
    rw [result]
    by_cases flag : (0 : UInt16) < headerFound f >>> 15
    · rw [if_pos flag]
      refine ⟨fun _ => Or.inl ⟨flag, buffer⟩, fun _ none_ => ?_⟩
      cases none_
    · rw [if_neg flag, kept flag]
      refine ⟨fun zero => Or.inr (zero rfl), fun found => ?_⟩
      rcases found with ⟨set, -⟩ | zero
      · exact absurd set flag
      · exact fun _ => zero
  · rw [Classical.not_imp, Bool.not_eq_true] at buffer
    rw [recordRead_no_buffer r buffer.1 buffer.2]
    refine ⟨fun zero => Or.inr (zero rfl), fun found => ?_⟩
    rcases found with ⟨-, granted⟩ | zero
    · rw [granted buffer.1] at buffer
      cases buffer.2
    · exact fun _ => zero

/-- A call that begins a sequence leaves a record without uuid, or with a footer, whatever the
structure held. -/
theorem uuidOfFooter_begins (r : Record) {call : RecordCall} (begins : call.Begins) :
    UuidOfFooter (call.run r) ↔ FooterCleared r call := by
  cases call with
  | init => exact ⟨fun zero => zero rfl, fun zero _ => zero⟩
  | read heap f => exact uuidOfFooter_read heap r f
  | setType type => exact begins.elim
  | setPayload malloc buf n => exact begins.elim
  | setUuid uuid => exact begins.elim
  | deleteFooter => exact begins.elim

/-- The calls that follow. -/
theorem uuidOfFooter_run {r : Record} (kept : UuidOfFooter r) (call : RecordCall) :
    UuidOfFooter (call.run r) ↔ FooterCleared r call := by
  cases call with
  | init => exact uuidOfFooter_begins r trivial
  | read heap f => exact uuidOfFooter_begins r trivial
  | setType type => exact ⟨fun _ => trivial, fun _ => kept⟩
  | setPayload malloc buf n =>
      refine ⟨fun _ => trivial, fun _ => ?_⟩
      change UuidOfFooter (recordSetPayload malloc r buf n).1
      unfold recordSetPayload
      split
      · exact kept
      · exact kept
  | setUuid uuid =>
      refine ⟨fun _ => trivial, fun _ none_ => ?_⟩
      cases none_
  | deleteFooter => exact ⟨fun _ => trivial, fun _ _ => rfl⟩

/-- In a sequence of calls that begins with `record_init` or `record_read` a record without
footer always has uuid 0, exactly when every `record_init`, and every `record_read` that stores
no footer, finds 0 in the footer of the structure. -/
theorem uuidOfFooter_iff (r : Record) {first : RecordCall} (begins : first.Begins)
    (rest : List RecordCall) :
    recordCalls.Along (fun r call => UuidOfFooter (call.run r)) r (first :: rest) ↔
      recordCalls.Along FooterCleared r (first :: rest) := by
  rw [Machine.along_cons, Machine.along_cons, uuidOfFooter_begins r begins]
  refine and_congr_right fun cleared => ?_
  exact recordCalls.along_congr (motive := UuidOfFooter)
    (fun _ call kept => uuidOfFooter_run kept call) (fun _ _ _ after => after)
    ((uuidOfFooter_begins r begins).mpr cleared) rest

/-- One byte with a footer. -/
def footedRead : RecordCall := .read .plenty [0, 128, 0, 1, 5, 7, 0, 0, 0]

/-- A footer of 9 is overwritten by that of a record read, changed, and deleted before the record
is initialised again. -/
theorem uuidOfFooter_deleted :
    recordCalls.Along (fun r call => UuidOfFooter (call.run r)) ⟨0, 0, 0, none, 9⟩
      [footedRead, .setType 3, .setUuid 8, .deleteFooter, .init] := by
  have begins : footedRead.Begins := trivial
  refine (uuidOfFooter_iff ⟨0, 0, 0, none, 9⟩ begins _).mpr ?_
  exact ⟨Or.inl ⟨by decide, fun _ => rfl⟩, trivial, trivial, trivial, rfl, trivial⟩

/-- A record without footer is read into the structure of one with uuid 7. -/
theorem uuidOfFooter_stale :
    ¬ recordCalls.Along (fun r call => UuidOfFooter (call.run r)) ⟨0, 0, 0, none, 0⟩
      [.init, .setUuid 7, .read .plenty [0, 0, 0, 0]] := by
  rintro ⟨-, -, read, -⟩
  have zero := read (by rfl)
  cases zero

end SelectiveRepeat.Records

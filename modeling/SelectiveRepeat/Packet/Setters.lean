import SelectiveRepeat.Foundations.Machine
import SelectiveRepeat.Packet.Basic

/-!
# The setters

The setters are documented to return an error code for a value outside the limits of
its field.  They store what the field keeps of it and return `PKT_OK`; only
`pkt_set_payload` can fail, for want of memory.
-/

namespace SelectiveRepeat.Packet

open SelectiveRepeat.Foundations

/-- A call of a setter with its arguments. -/
inductive SetterCall where
  | type (type : UInt32)
  | tr (tr : UInt8)
  | window (win : UInt8)
  | seqnum (seqnum : UInt8)
  | length (length : UInt16)
  | timestamp (timestamp : UInt32)
  | crc1 (crc1 : UInt32)
  | payload (heap : Heap) (data : List UInt8) (length : UInt16)
  | crc2 (crc2 : UInt32)

namespace SetterCall

/-- The packet and the status after a call. -/
def run (pkt : Pkt) : SetterCall → Pkt × PktStatus
  | .type value => pktSetType pkt value
  | .tr value => pktSetTr pkt value
  | .window value => pktSetWindow pkt value
  | .seqnum value => pktSetSeqnum pkt value
  | .length value => pktSetLength pkt value
  | .timestamp value => pktSetTimestamp pkt value
  | .crc1 value => pktSetCrc1 pkt value
  | .payload heap data size => pktSetPayload heap pkt data size
  | .crc2 value => pktSetCrc2 pkt value

/-- The value is inside the limits of its field. -/
def Fits : SetterCall → Prop
  | .type value => value = PType.ptypeData.value ∨ value = PType.ptypeAck.value ∨
      value = PType.ptypeNack.value
  | .tr value => value.toNat ≤ 1
  | .window value => value.toNat ≤ 31
  | .length value => value.toNat ≤ 512
  | .payload _ _ size => size.toNat ≤ 512
  | _ => True

/-- The getter returns the value, and every other field is as it was. -/
def Stored (before after : Pkt) : SetterCall → Prop
  | .type value => pktGetType after = value ∧ after = { before with type := after.type }
  | .tr value => pktGetTr after = value ∧ after = { before with tr := after.tr }
  | .window value => pktGetWindow after = value ∧ after = { before with window := after.window }
  | .seqnum value => pktGetSeqnum after = value ∧ after = { before with seqnum := after.seqnum }
  | .length value => pktGetLength after = value ∧ after = { before with length := after.length }
  | .timestamp value =>
      pktGetTimestamp after = value ∧ after = { before with timestamp := after.timestamp }
  | .crc1 value => pktGetCrc1 after = value ∧ after = { before with crc1 := after.crc1 }
  | .payload _ data size =>
      pktGetPayload after = some (data.take size.toNat) ∧ pktGetLength after = size ∧
        size.toNat ≤ 512 ∧ after = { before with payload := after.payload, length := after.length }
  | .crc2 value => pktGetCrc2 after = value ∧ after = { before with crc2 := after.crc2 }

end SetterCall

/-- Calls of setters on one packet. -/
def setters : Machine Pkt SetterCall where
  start := pktNew
  step pkt call := (call.run pkt).1

/-- A call that succeeds has stored its value and nothing else, and a value outside the limits
is refused and changes nothing. -/
structure StoresOrRefuses (pkt : Pkt) (call : SetterCall) : Prop where
  stores : (call.run pkt).2 = .pktOk → call.Stored pkt (call.run pkt).1
  refuses : ¬ call.Fits → (call.run pkt).2 ≠ .pktOk ∧ (call.run pkt).1 = pkt

/-- The value is inside the limits, or there is no memory for it and the packet had no payload
to lose. -/
def WithinLimits (pkt : Pkt) (call : SetterCall) : Prop :=
  call.Fits ∨ ∃ heap data size, call = .payload heap data size ∧
    heap.calloc size.toNat = false ∧ pkt.payload = none

variable {pkt : Pkt} {call : SetterCall}

/-- A setter that always succeeds must not be given a value outside the limits. -/
theorem storesOrRefuses_of_ok (ok : (call.run pkt).2 = .pktOk)
    (stored : call.Fits → call.Stored pkt (call.run pkt).1) :
    StoresOrRefuses pkt call ↔ call.Fits := by
  constructor
  · intro stores
    by_contra outside
    exact (stores.refuses outside).1 ok
  · intro fits
    exact ⟨fun _ => stored fits, fun outside => absurd fits outside⟩

theorem pktGetType_of_fits (pkt : Pkt) {value : UInt32} (fits : SetterCall.Fits (.type value)) :
    pktGetType (pktSetType pkt value).1 = value := by
  rcases fits with rfl | rfl | rfl
  · rfl
  · rfl
  · rfl

/-- A byte goes through a field that is wide enough for it. -/
theorem field_of_lt {width : ℕ} {value : UInt8} (bound : value.toNat < 2 ^ width) :
    UInt8.ofNat (BitVec.ofNat width value.toNat).toNat = value := by
  rw [BitVec.toNat_ofNat, Nat.mod_eq_of_lt bound, UInt8.ofNat_toNat]

theorem pktGetTr_of_fits (pkt : Pkt) {value : UInt8} (fits : SetterCall.Fits (.tr value)) :
    pktGetTr (pktSetTr pkt value).1 = value := by
  have bound : value.toNat < 2 ^ 1 := Nat.lt_succ_of_le fits
  exact field_of_lt bound

theorem pktGetWindow_of_fits (pkt : Pkt) {value : UInt8} (fits : SetterCall.Fits (.window value)) :
    pktGetWindow (pktSetWindow pkt value).1 = value := by
  have bound : value.toNat < 2 ^ 5 := Nat.lt_succ_of_le fits
  exact field_of_lt bound

/-- The payload is stored, or taken away when there is no memory. -/
theorem storesOrRefuses_payload (heap : Heap) (data : List UInt8) (size : UInt16) :
    StoresOrRefuses pkt (.payload heap data size) ↔
      WithinLimits pkt (.payload heap data size) := by
  cases block : heap.calloc size.toNat with
  | true =>
      have set : pktSetPayload heap pkt data size =
          ((pktSetLength { pkt with payload := some (data.take size.toNat) } size).1, .pktOk) :=
        if_pos block
      have ok : (SetterCall.run pkt (.payload heap data size)).2 = .pktOk := congrArg Prod.snd set
      rw [storesOrRefuses_of_ok ok fun fits => ?_]
      · refine ⟨Or.inl, fun within => ?_⟩
        rcases within with fits | ⟨heap, data, size, same, full, -⟩
        · exact fits
        · cases same
          rw [block] at full
          cases full
      · rw [SetterCall.run, set]
        exact ⟨rfl, rfl, fits, rfl⟩
  | false =>
      have set : pktSetPayload heap pkt data size = ({ pkt with payload := none }, .eNomem) :=
        if_neg (by rw [block]; exact Bool.false_ne_true)
      constructor
      · intro stores
        by_cases fits : SetterCall.Fits (.payload heap data size)
        · exact Or.inl fits
        · have same := (stores.refuses fits).2
          rw [SetterCall.run, set] at same
          exact Or.inr ⟨heap, data, size, rfl, block, (congrArg Pkt.payload same).symm⟩
      · intro within
        constructor
        · intro ok
          rw [SetterCall.run, set] at ok
          cases ok
        · intro outside
          rw [SetterCall.run, set]
          rcases within with fits | ⟨heap, data, size, same, full, bare⟩
          · exact absurd fits outside
          · cases same
            constructor
            · intro ok
              cases ok
            · rw [← bare]

/-- The setters that only assign their field. -/
theorem storesOrRefuses_assign (assigns : ∀ heap data size, call ≠ .payload heap data size)
    (ok : (call.run pkt).2 = .pktOk) (stored : call.Fits → call.Stored pkt (call.run pkt).1) :
    StoresOrRefuses pkt call ↔ WithinLimits pkt call := by
  rw [storesOrRefuses_of_ok ok stored]
  refine ⟨Or.inl, fun within => ?_⟩
  rcases within with fits | ⟨heap, data, size, same, -⟩
  · exact fits
  · exact absurd same (assigns heap data size)

theorem storesOrRefuses_iff (pkt : Pkt) (call : SetterCall) :
    StoresOrRefuses pkt call ↔ WithinLimits pkt call := by
  cases call with
  | payload heap data size => exact storesOrRefuses_payload heap data size
  | type value =>
      exact storesOrRefuses_assign nofun rfl fun fits => ⟨pktGetType_of_fits pkt fits, rfl⟩
  | tr value =>
      exact storesOrRefuses_assign nofun rfl fun fits => ⟨pktGetTr_of_fits pkt fits, rfl⟩
  | window value =>
      exact storesOrRefuses_assign nofun rfl fun fits => ⟨pktGetWindow_of_fits pkt fits, rfl⟩
  | seqnum value => exact storesOrRefuses_assign nofun rfl fun _ => ⟨rfl, rfl⟩
  | length value => exact storesOrRefuses_assign nofun rfl fun _ => ⟨rfl, rfl⟩
  | timestamp value => exact storesOrRefuses_assign nofun rfl fun _ => ⟨rfl, rfl⟩
  | crc1 value => exact storesOrRefuses_assign nofun rfl fun _ => ⟨rfl, rfl⟩
  | crc2 value => exact storesOrRefuses_assign nofun rfl fun _ => ⟨rfl, rfl⟩

/-- In a sequence of calls on a packet every call stores its value or refuses it, exactly when
every value is inside the limits of its field, or a payload outside them meets an exhausted
memory and a packet without payload. -/
theorem setters_iff (pkt : Pkt) (calls : List SetterCall) :
    setters.Along StoresOrRefuses pkt calls ↔ setters.Along WithinLimits pkt calls :=
  setters.along_congr (motive := fun _ => True) (fun pkt call _ => storesOrRefuses_iff pkt call)
    (fun _ _ _ _ => trivial) trivial calls

/-- A window of 32 is stored as 0. -/
theorem window_truncated : ¬ setters.Along StoresOrRefuses pktNew [.window 32] ∧
    pktSetWindow pktNew 32 = (pktNew, .pktOk) := by
  refine ⟨fun along => ?_, rfl⟩
  rcases (storesOrRefuses_iff pktNew (.window 32)).mp along.1 with fits | ⟨_, _, _, other, -⟩
  · exact absurd fits (by change ¬ (32 : UInt8).toNat ≤ 31; decide)
  · cases other

end SelectiveRepeat.Packet

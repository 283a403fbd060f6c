import SelectiveRepeat.Packet.Basic

/-!
# Records

`struct record` and its accessors.  `record_init` clears the three bit-fields only,
so the payload pointer and the footer of a structure outlive it.
-/

namespace SelectiveRepeat.Records

/-- `struct record`; a payload of `none` is the NULL pointer. -/
structure Record where
  type : BitVec 15
  f : BitVec 1
  length : UInt16
  payload : Option (List UInt8)
  footer : UInt32
  deriving DecidableEq, Repr

def recordGetType (r : Record) : ℕ := r.type.toNat
def recordGetLength (r : Record) : ℕ := r.length.toNat
def recordHasFooter (r : Record) : ℕ := r.f.toNat
def recordGetUuid (r : Record) : UInt32 := r.footer

/-- The result is 0 when the postconditions pass. -/
def recordInit (r : Record) : Record × ℕ :=
  let r := { r with type := 0, length := 0, f := 0 }
  if recordGetType r = 0 ∧ recordGetLength r = 0 ∧ recordHasFooter r = 0 then (r, 0) else (r, 1)

/-- The type is truncated to the width of its field. -/
def recordSetType (r : Record) (type : ℤ) : Record := { r with type := BitVec.ofInt 15 type }

/-- The block returned by `malloc` is stored before it is tested. -/
def recordSetPayload (malloc : ℕ → Bool) (r : Record) (buf : List UInt8) (n : ℕ) : Record × ℕ :=
  if malloc n then
    ({ r with payload := some (buf.take n), length := UInt16.ofNat n }, 0)
  else
    ({ r with payload := none }, 1)

/-- The bytes copied out of the payload, whose number the function returns; what lies past
the block is not specified. -/
def recordGetPayload (r : Record) (n : ℕ) : List UInt8 :=
  let size := if recordGetLength r < n then recordGetLength r else n
  (r.payload.getD []).takeD size 0

def recordDeleteFooter (r : Record) : Record := { r with footer := 0, f := 0 }

def recordSetUuid (r : Record) (uuid : UInt32) : Record := { r with f := 1, footer := uuid }

/-- The postconditions of `record_init` always pass. -/
theorem recordInit_eq (r : Record) :
    recordInit r = ({ r with type := 0, length := 0, f := 0 }, 0) := rfl

end SelectiveRepeat.Records

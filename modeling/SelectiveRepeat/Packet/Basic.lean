import SelectiveRepeat.Foundations.ByteOrder
import SelectiveRepeat.Foundations.Memory

/-!
# Packets

`struct pkt`, its accessors and the status codes of `packet_interface.h`.  The
three bit-fields share one byte, allocated from its low bits; multi-byte fields
are little-endian in memory.
-/

namespace SelectiveRepeat.Packet

open SelectiveRepeat.Foundations

/-- `ptypes_t`. -/
inductive PType where
  | ptypeData
  | ptypeAck
  | ptypeNack
  deriving DecidableEq, Repr

/-- The value of an enumerator. -/
def PType.value : PType → UInt32
  | .ptypeData => 1
  | .ptypeAck => 2
  | .ptypeNack => 3

/-- `pkt_status_code`. -/
inductive PktStatus where
  | pktOk
  | eType
  | eTr
  | eLength
  | eCrc
  | eWindow
  | eSeqnum
  | eNomem
  | eNoheader
  | eUnconsistent
  deriving DecidableEq, Repr

/-- `struct pkt`; a payload of `none` is the NULL pointer. -/
structure Pkt where
  window : BitVec 5
  tr : BitVec 1
  type : BitVec 2
  seqnum : UInt8
  length : UInt16
  timestamp : UInt32
  crc1 : UInt32
  payload : Option (List UInt8)
  crc2 : UInt32
  deriving DecidableEq, Repr

/-- Whether `malloc(n)` and `calloc(1, n)` return a block. -/
structure Heap where
  malloc : ℕ → Bool
  calloc : ℕ → Bool

/-- A heap that is never exhausted and gives a block of size zero too. -/
def Heap.plenty : Heap := ⟨fun _ => true, fun _ => true⟩

/-- `pkt_new`: `calloc` clears every field. -/
def pktNew : Pkt := ⟨0, 0, 0, 0, 0, 0, 0, none, 0⟩

def pktGetType (pkt : Pkt) : UInt32 := UInt32.ofNat pkt.type.toNat
def pktGetTr (pkt : Pkt) : UInt8 := UInt8.ofNat pkt.tr.toNat
def pktGetWindow (pkt : Pkt) : UInt8 := UInt8.ofNat pkt.window.toNat
@[simp] def pktGetSeqnum (pkt : Pkt) : UInt8 := pkt.seqnum
@[simp] def pktGetLength (pkt : Pkt) : UInt16 := pkt.length
@[simp] def pktGetTimestamp (pkt : Pkt) : UInt32 := pkt.timestamp
@[simp] def pktGetCrc1 (pkt : Pkt) : UInt32 := pkt.crc1
@[simp] def pktGetPayload (pkt : Pkt) : Option (List UInt8) := pkt.payload
@[simp] def pktGetCrc2 (pkt : Pkt) : UInt32 := pkt.crc2

theorem pktGetType_eq_data (pkt : Pkt) :
    pktGetType pkt = PType.ptypeData.value ↔ pkt.type = 1 := by
  have table : ∀ type : BitVec 2, UInt32.ofNat type.toNat = 1 ↔ type = 1 := by decide
  exact table pkt.type

theorem pktGetType_eq_ack (pkt : Pkt) :
    pktGetType pkt = PType.ptypeAck.value ↔ pkt.type = 2 := by
  have table : ∀ type : BitVec 2, UInt32.ofNat type.toNat = 2 ↔ type = 2 := by decide
  exact table pkt.type

theorem pktGetType_eq_nack (pkt : Pkt) :
    pktGetType pkt = PType.ptypeNack.value ↔ pkt.type = 3 := by
  have table : ∀ type : BitVec 2, UInt32.ofNat type.toNat = 3 ↔ type = 3 := by decide
  exact table pkt.type

/-- The only value of the two-bit field without an enumerator is 0. -/
theorem type_ne_zero_iff : ∀ type : BitVec 2, type ≠ 0 ↔ type = 1 ∨ type = 2 ∨ type = 3 := by
  decide

theorem pktGetTr_pos (pkt : Pkt) : 0 < pktGetTr pkt ↔ pkt.tr ≠ 0 := by
  have table : ∀ tr : BitVec 1, 0 < UInt8.ofNat tr.toNat ↔ tr ≠ 0 := by decide
  exact table pkt.tr

/-! ## Setters: the values are truncated to the width of the field -/

def pktSetType (pkt : Pkt) (type : UInt32) : Pkt × PktStatus :=
  ({ pkt with type := BitVec.ofNat 2 type.toNat }, .pktOk)

def pktSetTr (pkt : Pkt) (tr : UInt8) : Pkt × PktStatus :=
  ({ pkt with tr := BitVec.ofNat 1 tr.toNat }, .pktOk)

def pktSetWindow (pkt : Pkt) (win : UInt8) : Pkt × PktStatus :=
  ({ pkt with window := BitVec.ofNat 5 win.toNat }, .pktOk)

def pktSetSeqnum (pkt : Pkt) (seqnum : UInt8) : Pkt × PktStatus :=
  ({ pkt with seqnum := seqnum }, .pktOk)

def pktSetLength (pkt : Pkt) (length : UInt16) : Pkt × PktStatus :=
  ({ pkt with length := length }, .pktOk)

def pktSetTimestamp (pkt : Pkt) (timestamp : UInt32) : Pkt × PktStatus :=
  ({ pkt with timestamp := timestamp }, .pktOk)

def pktSetCrc1 (pkt : Pkt) (crc1 : UInt32) : Pkt × PktStatus :=
  ({ pkt with crc1 := crc1 }, .pktOk)

/-- The block returned by `calloc` is stored before it is tested. -/
def pktSetPayload (heap : Heap) (pkt : Pkt) (data : List UInt8) (length : UInt16) :
    Pkt × PktStatus :=
  if heap.calloc length.toNat then
    ((pktSetLength { pkt with payload := some (data.take length.toNat) } length).1, .pktOk)
  else
    ({ pkt with payload := none }, .eNomem)

def pktSetCrc2 (pkt : Pkt) (crc2 : UInt32) : Pkt × PktStatus :=
  ({ pkt with crc2 := crc2 }, .pktOk)

/-- Writing back the TR bit that was read. -/
theorem pktSetTr_pktGetTr (pkt other : Pkt) :
    (pktSetTr pkt (pktGetTr other)).1 = { pkt with tr := other.tr } := by
  have table : ∀ tr : BitVec 1, BitVec.ofNat 1 (UInt8.ofNat tr.toNat).toNat = tr := by decide
  simp only [pktSetTr, pktGetTr, table]

/-! ## Byte order -/

/-- `htons` on a little-endian host. -/
def htons (value : UInt16) : UInt16 := UInt16.ofNat (byteSwap 2 value.toNat)

/-- `htonl` on a little-endian host. -/
def htonl (value : UInt32) : UInt32 := UInt32.ofNat (byteSwap 4 value.toNat)

theorem htons_htons (value : UInt16) : htons (htons value) = value := by
  have swapped := byteSwap_lt 2 value.toNat
  apply UInt16.toNat_inj.mp
  rw [htons, htons, UInt16.toNat_ofNat_of_lt' (byteSwap_lt 2 _), UInt16.toNat_ofNat_of_lt' swapped,
    byteSwap_byteSwap value.toNat_lt]

theorem htonl_htonl (value : UInt32) : htonl (htonl value) = value := by
  have swapped := byteSwap_lt 4 value.toNat
  apply UInt32.toNat_inj.mp
  rw [htonl, htonl, UInt32.toNat_ofNat_of_lt' (byteSwap_lt 4 _), UInt32.toNat_ofNat_of_lt' swapped,
    byteSwap_byteSwap value.toNat_lt]

theorem htonl_injective : Function.Injective htonl :=
  Function.LeftInverse.injective htonl_htonl

/-! ## The packed header -/

/-- The byte shared by `window`, `tr` and `type`. -/
def Pkt.flags (pkt : Pkt) : UInt8 :=
  UInt8.ofNat (pkt.window.toNat + 32 * pkt.tr.toNat + 64 * pkt.type.toNat)

/-- `memcpy` of 12 bytes onto a packet. -/
def Pkt.copyHeader (pkt : Pkt) (header : List UInt8) : Pkt :=
  { pkt with
    window := BitVec.ofNat 5 (header.getD 0 0).toNat
    tr := BitVec.ofNat 1 ((header.getD 0 0).toNat / 32)
    type := BitVec.ofNat 2 ((header.getD 0 0).toNat / 64)
    seqnum := header.getD 1 0
    length := UInt16.ofNat (leValue ((header.drop 2).take 2))
    timestamp := UInt32.ofNat (leValue ((header.drop 4).take 4))
    crc1 := UInt32.ofNat (leValue ((header.drop 8).take 4)) }

theorem Pkt.flags_toNat (pkt : Pkt) :
    pkt.flags.toNat = pkt.window.toNat + 32 * pkt.tr.toNat + 64 * pkt.type.toNat := by
  have window := pkt.window.isLt
  have tr := pkt.tr.isLt
  have type := pkt.type.isLt
  rw [Pkt.flags, UInt8.toNat_ofNat_of_lt']
  simp only [UInt8.size]
  omega

theorem Pkt.window_of_flags (pkt : Pkt) : BitVec.ofNat 5 pkt.flags.toNat = pkt.window := by
  apply BitVec.eq_of_toNat_eq
  rw [BitVec.toNat_ofNat, pkt.flags_toNat]
  omega

theorem Pkt.tr_of_flags (pkt : Pkt) : BitVec.ofNat 1 (pkt.flags.toNat / 32) = pkt.tr := by
  apply BitVec.eq_of_toNat_eq
  rw [BitVec.toNat_ofNat, pkt.flags_toNat]
  omega

theorem Pkt.type_of_flags (pkt : Pkt) : BitVec.ofNat 2 (pkt.flags.toNat / 64) = pkt.type := by
  apply BitVec.eq_of_toNat_eq
  rw [BitVec.toNat_ofNat, pkt.flags_toNat]
  omega

theorem uint16_of_leBytes (value : UInt16) :
    UInt16.ofNat (leValue (leBytes 2 value.toNat)) = value := by
  have bound : value.toNat < 256 ^ 2 := value.toNat_lt
  rw [leValue_leBytes, Nat.mod_eq_of_lt bound]
  exact UInt16.ofNat_toNat

theorem uint32_of_leBytes (value : UInt32) :
    UInt32.ofNat (leValue (leBytes 4 value.toNat)) = value := by
  have bound : value.toNat < 256 ^ 4 := value.toNat_lt
  rw [leValue_leBytes, Nat.mod_eq_of_lt bound]
  exact UInt32.ofNat_toNat

end SelectiveRepeat.Packet

import SelectiveRepeat.Packet.Codec

/-!
# What the decoder accepts

The decoder runs its header checks first and its payload check only when more
than twelve bytes were received.  These lemmas give its result and the offsets
it reads in each case; later proofs use them and never open the decoder.
-/

namespace SelectiveRepeat.Packet

open SelectiveRepeat.Foundations

variable (crc32 : List UInt8 → UInt32)

/-! ## The header -/

/-- The header fields found in a memory, before `length` is swapped. -/
def headerOf (data : Memory) : Pkt := pktNew.copyHeader (data.load 0 12)

/-- The length field in host order. -/
def lengthOf (data : Memory) : UInt16 := htons (headerOf data).length

/-- The checks made before the payload is looked at. -/
structure HeaderAccepted (data : Memory) : Prop where
  tr : (headerOf data).tr ≠ 0 → (headerOf data).type = 1
  type : (headerOf data).type ≠ 0
  length : (headerOf data).type = 1 → 1 ≤ (lengthOf data).toNat ∧ (lengthOf data).toNat ≤ 512
  crc1 : htonl (crc32 (data.load 0 8)) = (headerOf data).crc1

/-- The check made on a payload. -/
def PayloadAccepted (data : Memory) : Prop :=
  htonl (crc32 (data.load 12 (lengthOf data).toNat)) =
    UInt32.ofNat (leValue (data.load (12 + (lengthOf data).toNat) 4))

/-- The packet that an accepting run leaves in the structure it was given. -/
def received (heap : Heap) (data : Memory) (len : ℕ) (pkt : Pkt) : Pkt :=
  let pkt := { pkt.copyHeader (data.load 0 12) with length := lengthOf data }
  if 12 < len then
    { pkt with
      payload := if heap.calloc (lengthOf data).toNat then
        some (data.load 12 (lengthOf data).toNat) else none
      crc2 := UInt32.ofNat (leValue (data.load (12 + (lengthOf data).toNat) 4)) }
  else pkt

section Decoder

variable (heap : Heap) {data : Memory} (len : ℕ) (pkt : Pkt)

/-- The tests that the decoder makes on the header it copied. -/
theorem headerAccepted_iff : HeaderAccepted crc32 data ↔
    ¬ (0 < pktGetTr (pkt.copyHeader (data.load 0 12)) ∧
        pktGetType (pktSetTr (pkt.copyHeader (data.load 0 12)) 0).1 ≠ PType.ptypeData.value) ∧
    ¬ (pktGetType (pktSetTr (pkt.copyHeader (data.load 0 12)) 0).1 ≠ PType.ptypeData.value ∧
        pktGetType (pktSetTr (pkt.copyHeader (data.load 0 12)) 0).1 ≠ PType.ptypeAck.value ∧
        pktGetType (pktSetTr (pkt.copyHeader (data.load 0 12)) 0).1 ≠ PType.ptypeNack.value) ∧
    ¬ (pktGetType (pktSetLength (pktSetTr (pkt.copyHeader (data.load 0 12)) 0).1
          (lengthOf data)).1 = PType.ptypeData.value ∧
        (lengthOf data ≤ 0 ∨ 512 < lengthOf data)) ∧
    ¬ htonl (crc32 (data.load 0 8)) ≠ (headerOf data).crc1 := by
  simp only [pktGetTr_pos, Ne, pktGetType_eq_data, pktGetType_eq_ack, pktGetType_eq_nack]
  change _ ↔ ¬ (¬ (headerOf data).tr = 0 ∧ ¬ (headerOf data).type = 1) ∧
    ¬ (¬ (headerOf data).type = 1 ∧ ¬ (headerOf data).type = 2 ∧ ¬ (headerOf data).type = 3) ∧
    ¬ ((headerOf data).type = 1 ∧ (lengthOf data ≤ 0 ∨ 512 < lengthOf data)) ∧ _
  rw [UInt16.le_iff_toNat_le, UInt16.lt_iff_toNat_lt]
  change _ ↔ _ ∧ _ ∧ ¬ (_ ∧ ((lengthOf data).toNat ≤ 0 ∨ 512 < (lengthOf data).toNat)) ∧ _
  constructor
  · intro accepted
    refine ⟨?_, ?_, ?_, ?_⟩
    · rintro ⟨set, other⟩
      exact other (accepted.tr set)
    · rintro ⟨notData, notAck, notNack⟩
      rcases (type_ne_zero_iff _).mp accepted.type with type | type | type
      · exact notData type
      · exact notAck type
      · exact notNack type
    · rintro ⟨isData, outside⟩
      have bound := accepted.length isData
      omega
    · exact not_not.mpr accepted.crc1
  · rintro ⟨tr, type, length, crc1⟩
    refine ⟨?_, ?_, ?_, not_not.mp crc1⟩
    · intro set
      by_contra other
      exact tr ⟨set, other⟩
    · rw [type_ne_zero_iff]
      by_contra other
      simp only [not_or] at other
      exact type other
    · intro isData
      by_contra outside
      exact length ⟨isData, by omega⟩

/-- A datagram whose header is refused is read over twelve bytes and refused. -/
theorem pktDecode_of_refused (refused : ¬ HeaderAccepted crc32 data) :
    (pktDecode crc32 heap data len pkt).val.2 ≠ .pktOk ∧
      ∀ index, index ∈ (pktDecode crc32 heap data len pkt).reads ↔ index < 12 := by
  rw [headerAccepted_iff crc32 pkt] at refused
  simp only [pktDecode, Loads.val_bind, Loads.val_pure, Loads.val_ite, Memory.val_read,
    Loads.reads_bind, Loads.reads_ite, Loads.reads_pure]
  split_ifs with tr type length crc1
  · simp
  · simp
  · simp
  · simp
    omega
  all_goals exact absurd ⟨tr, type, length, crc1⟩ refused

/-- An accepted header without further bytes is accepted. -/
theorem pktDecode_of_header (accepted : HeaderAccepted crc32 data) (short : len ≤ 12) :
    (pktDecode crc32 heap data len pkt).val = (received heap data len pkt, .pktOk) ∧
      ∀ index, index ∈ (pktDecode crc32 heap data len pkt).reads ↔ index < 12 := by
  obtain ⟨tr, type, length, crc1⟩ := (headerAccepted_iff crc32 pkt).mp accepted
  simp only [pktDecode, Loads.val_bind, Loads.val_pure, Loads.val_ite, Memory.val_read,
    Loads.reads_bind, Loads.reads_ite, Loads.reads_pure]
  split_ifs with failed failed long
  · exact absurd failed length
  · exact absurd failed crc1
  · omega
  · omega
  · omega
  · constructor
    · rw [pktSetTr_pktGetTr, received, if_neg long]
      rfl
    · simp
      omega

/-- Without a block for the payload nothing more is read. -/
theorem pktDecode_of_no_block (accepted : HeaderAccepted crc32 data) (long : 12 < len)
    (full : heap.malloc (lengthOf data).toNat = false) :
    (pktDecode crc32 heap data len pkt).val.2 = .eNomem ∧
      ∀ index, index ∈ (pktDecode crc32 heap data len pkt).reads ↔ index < 12 := by
  obtain ⟨tr, type, length, crc1⟩ := (headerAccepted_iff crc32 pkt).mp accepted
  simp only [pktDecode, Loads.val_bind, Loads.val_pure, Loads.val_ite, Memory.val_read,
    Loads.reads_bind, Loads.reads_ite, Loads.reads_pure]
  split_ifs with failed failed noBlock
  · exact absurd failed length
  · exact absurd failed crc1
  · simp
    omega
  · exact absurd full noBlock
  · exact absurd full noBlock

/-- With more than twelve bytes the payload and its CRC are read, wherever the
datagram ends. -/
theorem pktDecode_of_payload (accepted : HeaderAccepted crc32 data) (long : 12 < len)
    (block : heap.malloc (lengthOf data).toNat = true) :
    (pktDecode crc32 heap data len pkt).val.1 = received heap data len pkt ∧
      ((pktDecode crc32 heap data len pkt).val.2 = .pktOk ↔ PayloadAccepted crc32 data) ∧
      ∀ index, index ∈ (pktDecode crc32 heap data len pkt).reads ↔
        index < 16 + (lengthOf data).toNat := by
  obtain ⟨tr, type, length, crc1⟩ := (headerAccepted_iff crc32 pkt).mp accepted
  have result : (pktSetCrc2 (pktSetPayload heap
      (pktSetTr (pktSetLength (pktSetTr (pkt.copyHeader (data.load 0 12)) 0).1 (lengthOf data)).1
        (pktGetTr (pkt.copyHeader (data.load 0 12)))).1
      (data.load 12 (lengthOf data).toNat) (lengthOf data)).1
      (UInt32.ofNat (leValue (data.load (12 + (lengthOf data).toNat) 4)))).1 =
        received heap data len pkt := by
    rw [pktSetTr_pktGetTr, pktSetPayload, received, if_pos long]
    split <;> simp [pktSetCrc2, pktSetLength, pktSetTr, List.take_of_length_le]
  simp only [pktDecode, Loads.val_bind, Loads.val_pure, Loads.val_ite, Memory.val_read,
    Loads.reads_bind, Loads.reads_ite, Loads.reads_pure]
  split_ifs with failed failed noBlock crc2
  · exact absurd failed length
  · exact absurd failed crc1
  · exact absurd (block.symm.trans noBlock) (by decide)
  · refine ⟨result, ?_, ?_⟩
    · simp only [false_iff]
      exact crc2
    · intro index
      simp only [List.append_nil, List.mem_append, Memory.mem_reads_read]
      change _ ∨ _ ∨ (_ ∧ index < 12 + (lengthOf data).toNat) ∨
        (12 + (lengthOf data).toNat ≤ index ∧ index < 12 + (lengthOf data).toNat + 4) ∨
        (_ ∧ index < 12 + (lengthOf data).toNat) ↔ _
      omega
  · refine ⟨result, ?_, ?_⟩
    · simp only [true_iff]
      exact not_not.mp crc2
    · intro index
      simp only [List.append_nil, List.mem_append, Memory.mem_reads_read]
      change _ ∨ _ ∨ (_ ∧ index < 12 + (lengthOf data).toNat) ∨
        (12 + (lengthOf data).toNat ≤ index ∧ index < 12 + (lengthOf data).toNat + 4) ∨
        (_ ∧ index < 12 + (lengthOf data).toNat) ↔ _
      omega

/-- The datagrams that the decoder accepts. -/
theorem pktDecode_ok_iff : (pktDecode crc32 heap data len pkt).val.2 = .pktOk ↔
    HeaderAccepted crc32 data ∧
      (12 < len → heap.malloc (lengthOf data).toNat = true ∧ PayloadAccepted crc32 data) := by
  by_cases accepted : HeaderAccepted crc32 data
  · by_cases long : 12 < len
    · cases block : heap.malloc (lengthOf data).toNat with
      | false =>
          have refused := (pktDecode_of_no_block crc32 heap len pkt accepted long block).1
          simp [refused, long]
      | true =>
          have decided := (pktDecode_of_payload crc32 heap len pkt accepted long block).2.1
          simp [decided, accepted, long]
    · have decided := (pktDecode_of_header crc32 heap len pkt accepted (by omega)).1
      simp [decided, accepted, long]
  · have refused := (pktDecode_of_refused crc32 heap len pkt accepted).1
    simp [refused, accepted]

/-- What an accepting run leaves in the packet. -/
theorem pktDecode_packet (ok : (pktDecode crc32 heap data len pkt).val.2 = .pktOk) :
    (pktDecode crc32 heap data len pkt).val.1 = received heap data len pkt := by
  obtain ⟨accepted, body⟩ := (pktDecode_ok_iff crc32 heap len pkt).mp ok
  by_cases long : 12 < len
  · exact (pktDecode_of_payload crc32 heap len pkt accepted long (body long).1).1
  · rw [(pktDecode_of_header crc32 heap len pkt accepted (by omega)).1]

end Decoder

end SelectiveRepeat.Packet

import Mathlib.Data.BitVec

/-!
# Sequence numbers of the basic wire variant

In the basic variant the request body carries its sequence number as two words, a signed
high word and an unsigned low word.  `rmw_take_request` joins them into the 64-bit
`request_id.sequence_number` with `((int64_t)sn_high) << 32 | sn_low`, and the response
encoder splits the number again.

The join is exactly the concatenation of the two words (`joinSequenceNumber_eq_append`),
so its value is `sn_high * 2^32 + sn_low` read as a signed number, and the split undoes
it for every pair of words, negative high words and low words past `2^31` included.
-/

namespace RmwGurumdds

/-- `((int64_t)sn_high) << 32 | sn_low`: the high word sign-extended and shifted up, or'ed
with the low word, which the usual arithmetic conversions zero-extend. -/
def joinSequenceNumber (snHigh snLow : BitVec 32) : BitVec 64 :=
  (snHigh.signExtend 64 <<< 32) ||| snLow.setWidth 64

/-- Modelled from the spec: `serialize_response_basic` (in `type_support_service.cpp`,
which is not part of this source) re-injects "the original split sequence number": the
arithmetic high 32 bits as an `int32_t` and the low 32 bits as a `uint32_t`. -/
def splitSequenceNumber (sn : BitVec 64) : BitVec 32 × BitVec 32 :=
  ((sn.sshiftRight 32).setWidth 32, sn.setWidth 32)

/-- The join is the concatenation of the two words: the shifted sign extension leaves
only the high word above bit 32, and the low word fills the bits below. -/
theorem joinSequenceNumber_eq_append (snHigh snLow : BitVec 32) :
    joinSequenceNumber snHigh snLow = snHigh ++ snLow := by
  ext i
  simp only [joinSequenceNumber, BitVec.getLsbD_or, BitVec.getLsbD_shiftLeft,
    BitVec.getLsbD_signExtend, BitVec.getLsbD_setWidth, BitVec.getLsbD_append]
  have hi := i.isLt
  by_cases h : (i : ℕ) < 32
  · simp [h]
  · simp [h, BitVec.getLsbD_ge snLow i (by omega), show (i : ℕ) - 32 < 64 by omega,
      show (i : ℕ) - 32 < 32 by omega]

theorem toNat_joinSequenceNumber (snHigh snLow : BitVec 32) :
    (joinSequenceNumber snHigh snLow).toNat = snHigh.toNat * 2 ^ 32 + snLow.toNat := by
  rw [joinSequenceNumber_eq_append, BitVec.toNat_append, Nat.shiftLeft_eq, Nat.mul_comm,
    Nat.mul_add_lt_is_or snLow.isLt]

/-- The joined number is `sn_high * 2^32 + sn_low` as a signed 64-bit value. -/
theorem toInt_joinSequenceNumber (snHigh snLow : BitVec 32) :
    (joinSequenceNumber snHigh snLow).toInt = snHigh.toInt * 2 ^ 32 + snLow.toNat := by
  have hl := snLow.isLt
  have hh := snHigh.isLt
  rw [BitVec.toInt_eq_toNat_cond, BitVec.toInt_eq_toNat_cond snHigh,
    toNat_joinSequenceNumber]
  split_ifs <;> omega

/-- Splitting a joined number gives back both words. -/
theorem splitSequenceNumber_join (snHigh snLow : BitVec 32) :
    splitSequenceNumber (joinSequenceNumber snHigh snLow) = (snHigh, snLow) := by
  rw [joinSequenceNumber_eq_append]
  refine Prod.ext ?_ ?_ <;> ext i <;> have hi := i.isLt
  · simp only [splitSequenceNumber, BitVec.getLsbD_setWidth, BitVec.getLsbD_sshiftRight,
      BitVec.getLsbD_append]
    simp [hi, show ¬64 ≤ (i : ℕ) by omega, show 32 + (i : ℕ) < 64 by omega]
  · simp only [splitSequenceNumber, BitVec.getLsbD_setWidth]
    rw [BitVec.getLsbD_append]
    simp [hi]

/-- Every 64-bit sequence number is the join of its own split. -/
theorem joinSequenceNumber_split (sn : BitVec 64) :
    joinSequenceNumber (splitSequenceNumber sn).1 (splitSequenceNumber sn).2 = sn := by
  rw [joinSequenceNumber_eq_append]
  ext i
  simp only [splitSequenceNumber, BitVec.getLsbD_append, BitVec.getLsbD_setWidth,
    BitVec.getLsbD_sshiftRight]
  have hi := i.isLt
  by_cases h : (i : ℕ) < 32
  · simp [h]
  · simp [h, show (i : ℕ) - 32 < 32 by omega, show 32 + ((i : ℕ) - 32) = i by omega,
      show (i : ℕ) - 32 < 64 by omega]

end RmwGurumdds

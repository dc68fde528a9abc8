import Mathlib.Data.BitVec
import Mathlib.Data.Nat.Bitwise
import Mathlib.Tactic.Ring

/-!
# The Compact Target Encoding

`nBits` is a 32-bit floating-point number: a byte exponent in the top eight bits, a sign bit,
and a 23-bit mantissa. `arith_uint256::SetCompact` turns it into a 256-bit target and reports
two flags, and `arith_uint256::GetCompact` turns a target back into `nBits`. Neither function
is in the repository's sources; `pow.cpp` calls both on every path, so they are modelled here
from the `arith_uint256` the node links against, bit for bit, with `arith_uint256` as
`BitVec 256`.

The two directions are not inverse. `GetCompact` keeps the value's top three bytes and drops
the rest, and when the mantissa's top bit is set it gives up a further byte so that the bit is
not read back as a sign. `setCompact_getCompact` is the whole story of a round trip: the target
comes back with the bytes below the exponent cleared, and both flags come back false. Every
range argument about the difficulty rule goes through that one lemma.

`bits` follows `base_uint::bits`, scanning down from the top bit; it is written by structural
recursion so that the encoding evaluates on concrete values.

## Main definitions

* `bits`: The number of significant bits of a 256-bit value.
* `setCompact`: Decoding `nBits` into a target and the negative and overflow flags.
* `compactValue`: The number a word stands for.
* `getCompact`: Encoding a target as `nBits`.
* `byteSize`, `rawMantissa`: The byte length and mantissa `GetCompact` starts from.
* `compactSize`, `mantissa`: The exponent and mantissa it writes.

## Theorems

* `bits_le_iff`: `bits` compares with powers of two.
* `toNat_lt_two_pow_byteSize`, `two_pow_byteSize_le`: The byte length brackets the value.
* `getCompact_toNat`: The encoded word is the mantissa under the exponent.
* `mantissa_eq`: The mantissa is the value scaled to the exponent.
* `two_pow_le_mantissa`: Above exponent 3 the mantissa keeps 16 significant bits.
* `target_setCompact_lt`: No `nBits` decodes to `2^256 - 1`.
* `target_setCompact_toNat`, `setCompact_fNegative_iff`, `setCompact_fOverflow_iff`: Decoding
  gives the word's number, and its flags say whether that number is signed or too large.
* `setCompact_getCompact`: Decoding an encoded target drops its low bytes and raises no flag.
* `target_getCompact_le`: The round trip never raises a target.
* `target_getCompact_pos`: The round trip keeps a nonzero target nonzero.
* `target_getCompact_mono`: The round trip keeps order.
* `toNat_mul_le_target_getCompact`: The round trip loses less than one part in `2^15`.
* `compactSize_target_getCompact`: The round trip keeps the exponent.
* `getCompact_target_getCompact`: Every word `GetCompact` writes survives a second round trip.
-/

namespace Zclassic

/-- The scan of `base_uint::bits` from bit `i - 1` down: one more than the index of the
    highest set bit below `i`, or `0`. -/
def bitsBelow (x : BitVec 256) : Nat → Nat
  | 0 => 0
  | i + 1 => if x.getLsbD i then i + 1 else bitsBelow x i

/-- `base_uint::bits`. -/
def bits (x : BitVec 256) : Nat := bitsBelow x 256

/-- What `arith_uint256::SetCompact` produces: the target and the two flags it reports. -/
structure Compact where
  target : BitVec 256
  fNegative : Bool
  fOverflow : Bool

/-- `arith_uint256::SetCompact`. For an exponent of at most 3 the word is shifted right before
    the flags are computed, so the flags see the shifted word. -/
def setCompact (nCompact : UInt32) : Compact :=
  let nSize := nCompact.toNat >>> 24
  let nWord := nCompact.toNat &&& 0x007fffff
  let nWord := if nSize ≤ 3 then nWord >>> (8 * (3 - nSize)) else nWord
  { target := if nSize ≤ 3 then BitVec.ofNat 256 nWord
      else BitVec.ofNat 256 nWord <<< (8 * (nSize - 3))
    fNegative := nWord != 0 && (nCompact.toNat &&& 0x00800000) != 0
    fOverflow := nWord != 0 &&
      (34 < nSize || (0xff < nWord && 33 < nSize) || (0xffff < nWord && 32 < nSize)) }

/-- No `nBits` decodes to `2^256 - 1`: a shifted word has its low byte clear, and a word that
    is not shifted has at most 23 bits. So `target + 1` never wraps. -/
theorem target_setCompact_lt (nCompact : UInt32) :
    (setCompact nCompact).target.toNat < 2 ^ 256 - 1 := by
  have hw : nCompact.toNat &&& 0x007fffff ≤ 0x007fffff := Nat.and_le_right
  by_cases h3 : nCompact.toNat >>> 24 ≤ 3
  · simp only [setCompact, if_pos h3, BitVec.toNat_ofNat]
    have := Nat.mod_le ((nCompact.toNat &&& 0x007fffff) >>> (8 * (3 - nCompact.toNat >>> 24)))
      (2 ^ 256)
    rw [Nat.shiftRight_eq_div_pow] at this
    have := Nat.div_le_self (nCompact.toNat &&& 0x007fffff) (2 ^ (8 * (3 - nCompact.toNat >>> 24)))
    omega
  · simp only [setCompact, if_neg h3, BitVec.toNat_shiftLeft, BitVec.toNat_ofNat, Nat.shiftLeft_eq]
    have heven : 2 ∣ (nCompact.toNat &&& 0x007fffff) % 2 ^ 256 *
        2 ^ (8 * (nCompact.toNat >>> 24 - 3)) % 2 ^ 256 :=
      (Nat.dvd_mod_iff (dvd_pow_self 2 (by decide))).mpr
        (Dvd.dvd.mul_left (dvd_pow_self 2 (by omega)) _)
    have := Nat.mod_lt ((nCompact.toNat &&& 0x007fffff) % 2 ^ 256 *
        2 ^ (8 * (nCompact.toNat >>> 24 - 3))) (Nat.two_pow_pos 256)
    have : 2 ∣ 2 ^ 256 := dvd_pow_self 2 (by decide)
    omega

/-- The number a compact word stands for: its 23-bit mantissa times `256^(exponent - 3)`, with
    the mantissa's low bytes dropped below exponent 3. -/
def compactValue (nCompact : UInt32) : Nat :=
  let nSize := nCompact.toNat >>> 24
  let nWord := nCompact.toNat &&& 0x007fffff
  if nSize ≤ 3 then nWord >>> (8 * (3 - nSize)) else nWord * 2 ^ (8 * (nSize - 3))

/-- `SetCompact` decodes a word to its number, modulo `2^256`. -/
theorem target_setCompact_toNat (nCompact : UInt32) :
    (setCompact nCompact).target.toNat = compactValue nCompact % 2 ^ 256 := by
  have hw : nCompact.toNat &&& 0x007fffff ≤ 0x007fffff := Nat.and_le_right
  by_cases h3 : nCompact.toNat >>> 24 ≤ 3
  · simp only [setCompact, compactValue, if_pos h3, BitVec.toNat_ofNat]
  · simp only [setCompact, compactValue, if_neg h3, BitVec.toNat_shiftLeft, BitVec.toNat_ofNat,
      Nat.shiftLeft_eq, Nat.mod_eq_of_lt (show nCompact.toNat &&& 0x007fffff < 2 ^ 256 by omega)]

/-- The negative flag is the sign bit of a word whose number is not zero. -/
theorem setCompact_fNegative_iff (nCompact : UInt32) :
    (setCompact nCompact).fNegative = true ↔
      compactValue nCompact ≠ 0 ∧ nCompact.toNat &&& 0x00800000 ≠ 0 := by
  by_cases h3 : nCompact.toNat >>> 24 ≤ 3
  · simp only [setCompact, compactValue, if_pos h3, Bool.and_eq_true, bne_iff_ne, ne_eq]
  · simp only [setCompact, compactValue, if_neg h3, Bool.and_eq_true, bne_iff_ne, ne_eq,
      Nat.mul_eq_zero, pow_eq_zero_iff', OfNat.ofNat_ne_zero, false_and, or_false]

/-- The overflow flag is raised exactly when the word's number does not fit in 256 bits: the
    three exponent tests of `SetCompact` are the places where a 23-bit mantissa stops fitting. -/
theorem setCompact_fOverflow_iff (nCompact : UInt32) :
    (setCompact nCompact).fOverflow = true ↔ 2 ^ 256 ≤ compactValue nCompact := by
  have hw : nCompact.toNat &&& 0x007fffff ≤ 0x007fffff := Nat.and_le_right
  simp only [setCompact, compactValue, Bool.and_eq_true, bne_iff_ne, ne_eq, Bool.or_eq_true,
    decide_eq_true_eq]
  by_cases h3 : nCompact.toNat >>> 24 ≤ 3
  · have := Nat.div_le_self (nCompact.toNat &&& 0x007fffff) (2 ^ (8 * (3 - nCompact.toNat >>> 24)))
    rw [← Nat.shiftRight_eq_div_pow] at this
    simp only [if_pos h3]
    omega
  · simp only [if_neg h3]
    generalize nCompact.toNat &&& 0x007fffff = m at hw
    generalize nCompact.toNat >>> 24 = e at h3
    rcases (show e ≤ 32 ∨ e = 33 ∨ e = 34 ∨ 35 ≤ e by omega) with he | rfl | rfl | he
    · -- Up to exponent 32 every mantissa fits.
      have hp : 2 ^ (8 * (e - 3)) ≤ 2 ^ 232 := Nat.pow_le_pow_right (by decide) (by omega)
      have := Nat.mul_le_mul hw hp
      omega
    · norm_num; omega
    · norm_num; omega
    · -- From exponent 35 no nonzero mantissa fits.
      have hp : 2 ^ 256 ≤ 2 ^ (8 * (e - 3)) := Nat.pow_le_pow_right (by decide) (by omega)
      constructor
      · rintro ⟨hm, -⟩
        exact le_trans hp (Nat.le_mul_of_pos_left _ (Nat.pos_of_ne_zero hm))
      · intro h
        refine ⟨fun hm => ?_, .inl (.inl (by omega))⟩
        rw [hm, Nat.zero_mul] at h
        exact absurd h (by decide)

/-- `arith_uint256::GetCompact` with its default `fNegative = false`, the only way `pow.cpp`
    calls it. `GetLow64` and the assignment to the 32-bit `nCompact` truncate as in the
    source. -/
def getCompact (x : BitVec 256) : UInt32 :=
  let nSize := (bits x + 7) / 8
  let nCompact := if nSize ≤ 3 then ((x.toNat % 2 ^ 64) <<< (8 * (3 - nSize))) % 2 ^ 64 % 2 ^ 32
    else (x >>> (8 * (nSize - 3))).toNat % 2 ^ 64 % 2 ^ 32
  let (nCompact, nSize) :=
    if (nCompact &&& 0x00800000) != 0 then (nCompact >>> 8, nSize + 1) else (nCompact, nSize)
  UInt32.ofNat (nCompact ||| (nSize <<< 24))

theorem bitsBelow_le (x : BitVec 256) (i : Nat) : bitsBelow x i ≤ i := by
  induction i with
  | zero => rfl
  | succ i ih => simp only [bitsBelow]; split <;> omega

theorem lt_two_pow_bitsBelow (x : BitVec 256) (i : Nat) (h : x.toNat < 2 ^ i) :
    x.toNat < 2 ^ bitsBelow x i := by
  induction i with
  | zero => simpa [bitsBelow] using h
  | succ i ih =>
    simp only [bitsBelow]
    split
    · exact h
    · next hb =>
      apply ih
      apply Nat.lt_pow_two_of_testBit
      intro j hj
      rcases Nat.eq_or_lt_of_le hj with rfl | hj
      · simpa [BitVec.getLsbD] using hb
      · exact Nat.testBit_lt_two_pow (lt_of_lt_of_le h (Nat.pow_le_pow_right (by decide) hj))

theorem two_pow_bitsBelow_le (x : BitVec 256) (i : Nat) (h : 0 < bitsBelow x i) :
    2 ^ (bitsBelow x i - 1) ≤ x.toNat := by
  induction i with
  | zero => simp [bitsBelow] at h
  | succ i ih =>
    simp only [bitsBelow] at h ⊢
    split
    · next hb => exact Nat.testBit_implies_ge hb
    · next hb => simp only [hb] at h; exact ih (by simpa using h)

/-- `bits() > n` is the test `x ≥ 2^n`. -/
theorem bits_le_iff (x : BitVec 256) (n : Nat) : bits x ≤ n ↔ x.toNat < 2 ^ n := by
  constructor
  · intro h
    exact lt_of_lt_of_le (lt_two_pow_bitsBelow x 256 x.isLt) (Nat.pow_le_pow_right (by decide) h)
  · intro h
    by_contra hb
    have hlow := two_pow_bitsBelow_le x 256 (by unfold bits at hb; omega)
    have := Nat.pow_le_pow_right (show 0 < 2 by decide)
      (show n ≤ bitsBelow x 256 - 1 by unfold bits at hb; omega)
    omega

/-- The byte length `GetCompact` starts from, `(bits() + 7) / 8`. -/
def byteSize (x : BitVec 256) : Nat := (bits x + 7) / 8

theorem byteSize_le (x : BitVec 256) : byteSize x ≤ 32 := by
  have := bitsBelow_le x 256
  unfold byteSize bits; omega

theorem toNat_lt_two_pow_byteSize (x : BitVec 256) : x.toNat < 2 ^ (8 * byteSize x) :=
  lt_of_lt_of_le (lt_two_pow_bitsBelow x 256 x.isLt)
    (Nat.pow_le_pow_right (by decide) (by unfold byteSize bits; omega))

theorem two_pow_byteSize_le (x : BitVec 256) (hx : 0 < x.toNat) :
    2 ^ (8 * (byteSize x - 1)) ≤ x.toNat := by
  have hb : 0 < bits x := by
    rcases Nat.eq_zero_or_pos (bits x) with h | h
    · have := lt_two_pow_bitsBelow x 256 x.isLt
      simp only [bits] at h; rw [h] at this; omega
    · exact h
  exact le_trans (Nat.pow_le_pow_right (by decide) (by unfold byteSize bits at *; omega))
    (two_pow_bitsBelow_le x 256 hb)

theorem byteSize_eq_zero {x : BitVec 256} (hx : x.toNat = 0) : byteSize x = 0 := by
  rcases Nat.eq_zero_or_pos (bits x) with h | h
  · simp [byteSize, h]
  · have := two_pow_bitsBelow_le x 256 h
    rw [hx] at this
    exact absurd this (Nat.not_le.mpr (Nat.two_pow_pos _))

/-- The mantissa `GetCompact` reads before it moves a set sign bit into the exponent. -/
def rawMantissa (x : BitVec 256) : Nat :=
  if byteSize x ≤ 3 then x.toNat * 2 ^ (8 * (3 - byteSize x))
  else x.toNat / 2 ^ (8 * (byteSize x - 3))

theorem rawMantissa_lt (x : BitVec 256) : rawMantissa x < 2 ^ 24 := by
  have hx := toNat_lt_two_pow_byteSize x
  unfold rawMantissa
  split
  · calc x.toNat * 2 ^ (8 * (3 - byteSize x))
        < 2 ^ (8 * byteSize x) * 2 ^ (8 * (3 - byteSize x)) :=
          Nat.mul_lt_mul_of_pos_right hx (Nat.two_pow_pos _)
      _ = 2 ^ 24 := by rw [← pow_add]; congr 1; omega
  · rw [Nat.div_lt_iff_lt_mul (Nat.two_pow_pos _), ← pow_add]
    exact lt_of_lt_of_le hx (Nat.pow_le_pow_right (by decide) (by omega))

/-- The exponent `GetCompact` writes: the byte length, one more when the mantissa's top bit
    would read as a sign. -/
def compactSize (x : BitVec 256) : Nat :=
  if 2 ^ 23 ≤ rawMantissa x then byteSize x + 1 else byteSize x

/-- The mantissa `GetCompact` writes. -/
def mantissa (x : BitVec 256) : Nat :=
  if 2 ^ 23 ≤ rawMantissa x then rawMantissa x / 2 ^ 8 else rawMantissa x

theorem mantissa_lt (x : BitVec 256) : mantissa x < 2 ^ 23 := by
  have := rawMantissa_lt x
  unfold mantissa; split <;> omega

/-- `nCompact & 0x00800000` of a 24-bit word tests its top bit. -/
theorem and_signBit_ne_zero (r : Nat) (hr : r < 2 ^ 24) :
    ((r &&& 0x00800000) != 0) = decide (2 ^ 23 ≤ r) := by
  rw [show (0x00800000 : Nat) = 2 ^ 23 by norm_num, Nat.land_comm, Nat.two_pow_and,
    Nat.testBit_to_div_mod]
  by_cases h : 2 ^ 23 ≤ r
  · have : r / 8388608 % 2 = 1 := by omega
    simp [this]; omega
  · have : r / 8388608 % 2 = 0 := by omega
    simp [this]; omega

/-- Packing a 24-bit mantissa under an 8-bit exponent, as `nCompact |= nSize << 24` does. -/
theorem toNat_ofNat_or_shiftLeft (m s : Nat) (hm : m < 2 ^ 24) (hs : s < 2 ^ 8) :
    (UInt32.ofNat (m ||| (s <<< 24))).toNat = m + s * 2 ^ 24 := by
  have h : 2 ^ 24 * s + m < UInt32.size := by simp only [UInt32.size]; omega
  rw [Nat.shiftLeft_eq, Nat.lor_comm, Nat.mul_comm s, ← Nat.mul_add_lt_is_or hm,
    UInt32.toNat_ofNat_of_lt h]
  omega

theorem getCompact_toNat (x : BitVec 256) :
    (getCompact x).toNat = mantissa x + compactSize x * 2 ^ 24 := by
  have hb := byteSize_le x
  have hx := toNat_lt_two_pow_byteSize x
  have hraw := rawMantissa_lt x
  have hread : (if byteSize x ≤ 3 then
        ((x.toNat % 2 ^ 64) <<< (8 * (3 - byteSize x))) % 2 ^ 64 % 2 ^ 32
      else (x >>> (8 * (byteSize x - 3))).toNat % 2 ^ 64 % 2 ^ 32) = rawMantissa x := by
    unfold rawMantissa at hraw ⊢
    simp only [Nat.shiftLeft_eq, BitVec.toNat_ushiftRight, Nat.shiftRight_eq_div_pow]
    split
    · next h =>
      rw [if_pos h] at hraw
      rw [Nat.mod_eq_of_lt (lt_of_lt_of_le hx (Nat.pow_le_pow_right (by decide) (by omega)))]
      omega
    · next h =>
      rw [if_neg h] at hraw
      generalize x.toNat / 2 ^ (8 * (byteSize x - 3)) = q at hraw ⊢
      omega
  unfold getCompact
  simp only [show (bits x + 7) / 8 = byteSize x from rfl, hread, and_signBit_ne_zero _ hraw]
  unfold mantissa compactSize
  split
  · next h =>
    simp only [Nat.shiftRight_eq_div_pow]
    rw [toNat_ofNat_or_shiftLeft _ _ (by omega) (by omega)]
    simp only [decide_eq_true_eq] at h
    rw [if_pos h, if_pos h]
  · next h =>
    simp only []
    rw [toNat_ofNat_or_shiftLeft _ _ hraw (by omega)]
    simp only [decide_eq_true_eq] at h
    rw [if_neg h, if_neg h]

theorem compactSize_le (x : BitVec 256) : compactSize x ≤ 33 := by
  have := byteSize_le x
  unfold compactSize; split <;> omega

/-- Only a byte length of 32 with the top bit set reaches the exponent 33, and then the
    mantissa has lost a byte. -/
theorem mantissa_lt_of_compactSize_eq (x : BitVec 256) (h : compactSize x = 33) :
    mantissa x < 2 ^ 16 := by
  have := byteSize_le x
  have := rawMantissa_lt x
  unfold compactSize at h; unfold mantissa
  split at h <;> simp only [if_pos, *] <;> omega

theorem rawMantissa_of_le {x : BitVec 256} (hb : byteSize x ≤ 3) :
    rawMantissa x = x.toNat * 2 ^ (8 * (3 - byteSize x)) := if_pos hb

theorem rawMantissa_of_gt {x : BitVec 256} (hb : 3 < byteSize x) :
    rawMantissa x = x.toNat / 2 ^ (8 * (byteSize x - 3)) := if_neg (by omega)

/-- The mantissa is the value scaled to the exponent: exactly when the exponent is at most 3,
    and with the bytes below the exponent dropped otherwise. -/
theorem mantissa_eq (x : BitVec 256) :
    (compactSize x ≤ 3 → mantissa x = x.toNat * 2 ^ (8 * (3 - compactSize x))) ∧
    (3 < compactSize x → mantissa x = x.toNat / 2 ^ (8 * (compactSize x - 3))) := by
  unfold mantissa compactSize
  by_cases hs : 2 ^ 23 ≤ rawMantissa x
  · simp only [if_pos hs]
    by_cases hb : byteSize x ≤ 3
    · rw [rawMantissa_of_le hb]
      refine ⟨fun _ => ?_, fun _ => ?_⟩
      · rw [show 8 * (3 - byteSize x) = 8 * (3 - (byteSize x + 1)) + 8 by omega, pow_add,
          ← Nat.mul_assoc, Nat.mul_div_cancel _ (Nat.two_pow_pos 8)]
      · rw [show byteSize x = 3 by omega]; simp
    · rw [rawMantissa_of_gt (by omega), Nat.div_div_eq_div_mul, ← pow_add]
      exact ⟨fun h => absurd h (by omega), fun _ => by congr 2; omega⟩
  · simp only [if_neg hs]
    by_cases hb : byteSize x ≤ 3
    · exact ⟨fun _ => rawMantissa_of_le hb, fun h => absurd h (by omega)⟩
    · exact ⟨fun h => absurd h (by omega), fun _ => rawMantissa_of_gt (by omega)⟩

/-- Above exponent 3 the mantissa keeps at least 16 significant bits. -/
theorem two_pow_le_mantissa (x : BitVec 256) (h : 3 < compactSize x) : 2 ^ 15 ≤ mantissa x := by
  unfold mantissa
  split
  · omega
  · next hs =>
    have hb : 3 < byteSize x := by unfold compactSize at h; rwa [if_neg hs] at h
    rw [rawMantissa_of_gt hb] at hs ⊢
    have hpos : 0 < x.toNat := Nat.pos_of_ne_zero fun h0 => by
      rw [byteSize_eq_zero h0] at hb; omega
    rw [Nat.le_div_iff_mul_le (Nat.two_pow_pos _), ← pow_add]
    exact le_trans (Nat.pow_le_pow_right (by decide) (by omega)) (two_pow_byteSize_le x hpos)

/-- Decoding what `GetCompact` wrote gives the value with the bytes below the exponent
    dropped, and never raises a flag. -/
theorem setCompact_getCompact (x : BitVec 256) :
    setCompact (getCompact x) =
      { target := BitVec.ofNat 256
          (x.toNat / 2 ^ (8 * (compactSize x - 3)) * 2 ^ (8 * (compactSize x - 3)))
        fNegative := false
        fOverflow := false } := by
  have hc := getCompact_toNat x
  have hm := mantissa_lt x
  have hs := compactSize_le x
  have h33 := mantissa_lt_of_compactSize_eq x
  have hsize : (getCompact x).toNat >>> 24 = compactSize x := by
    rw [hc, Nat.shiftRight_eq_div_pow]; omega
  have hword : ((getCompact x).toNat &&& 0x007fffff) = mantissa x := by
    rw [hc, show (0x007fffff : Nat) = 2 ^ 23 - 1 by norm_num, Nat.and_pow_two_sub_one_eq_mod]
    omega
  have hsign : ((getCompact x).toNat &&& 0x00800000) = 0 := by
    rw [hc, show (0x00800000 : Nat) = 2 ^ 23 by norm_num, Nat.land_comm, Nat.two_pow_and,
      Nat.testBit_to_div_mod]
    have : (mantissa x + compactSize x * 2 ^ 24) / 2 ^ 23 % 2 = 0 := by omega
    rw [this]; simp
  obtain ⟨hle, hgt⟩ := mantissa_eq x
  unfold setCompact
  simp only [hsize, hword, hsign, Compact.mk.injEq, bne_self_eq_false, Bool.and_false, true_and,
    Bool.and_eq_false_iff, bne_eq_false_iff_eq, Bool.or_eq_false_iff, decide_eq_false_iff_not,
    not_lt]
  by_cases h3 : compactSize x ≤ 3
  · rw [hle h3, Nat.shiftRight_eq_div_pow, Nat.mul_div_cancel _ (Nat.two_pow_pos _)]
    simp only [if_pos h3, show compactSize x - 3 = 0 by omega, BitVec.ofNat_toNat,
      BitVec.setWidth_eq, mul_zero, pow_zero, Nat.div_one, mul_one, true_and]
    omega
  · rw [← hgt (by omega)]
    simp only [if_neg h3]
    refine ⟨BitVec.eq_of_toNat_eq ?_, ?_⟩
    · simp only [BitVec.toNat_shiftLeft, BitVec.toNat_ofNat, Nat.shiftLeft_eq,
        Nat.mod_eq_of_lt (show mantissa x < 2 ^ 256 by omega)]
    · by_cases h : compactSize x = 33
      · have := h33 h; omega
      · omega

set_option maxRecDepth 4000 in
example : (setCompact (getCompact ((1 <<< 243) - 1))).target = (1 <<< 243) - (1 <<< 224) := by
  decide

/-- The decoded round trip as a number: the value with the bytes below the exponent dropped. -/
theorem target_getCompact_eq (x : BitVec 256) :
    (setCompact (getCompact x)).target.toNat =
      x.toNat / 2 ^ (8 * (compactSize x - 3)) * 2 ^ (8 * (compactSize x - 3)) := by
  rw [setCompact_getCompact, BitVec.toNat_ofNat]
  exact Nat.mod_eq_of_lt (lt_of_le_of_lt (Nat.div_mul_le_self _ _) x.isLt)

/-- Up to exponent 3 the round trip is exact. -/
theorem target_getCompact_of_le {x : BitVec 256} (h : compactSize x ≤ 3) :
    (setCompact (getCompact x)).target.toNat = x.toNat := by
  simp [target_getCompact_eq, show compactSize x - 3 = 0 by omega]

/-- The round trip never raises a target: the difficulty rule's clamps survive encoding. -/
theorem target_getCompact_le (x : BitVec 256) :
    (setCompact (getCompact x)).target.toNat ≤ x.toNat := by
  rw [target_getCompact_eq]
  exact Nat.div_mul_le_self _ _

/-- The round trip keeps a nonzero target nonzero. -/
theorem target_getCompact_pos (x : BitVec 256) (hx : 0 < x.toNat) :
    0 < (setCompact (getCompact x)).target.toNat := by
  by_cases h3 : compactSize x ≤ 3
  · rwa [target_getCompact_of_le h3]
  · rw [target_getCompact_eq, ← (mantissa_eq x).2 (by omega)]
    exact Nat.mul_pos (lt_of_lt_of_le (by decide) (two_pow_le_mantissa x (by omega)))
      (Nat.two_pow_pos _)

/-- The exponent bounds the value from above: the mantissa has 23 bits. -/
theorem toNat_lt_two_pow_compactSize (x : BitVec 256) :
    x.toNat < 2 ^ (8 * compactSize x - 1) := by
  have hm := mantissa_lt x
  by_cases h3 : compactSize x ≤ 3
  · rw [(mantissa_eq x).1 h3] at hm
    refine Nat.lt_of_mul_lt_mul_right (lt_of_lt_of_le hm ?_)
    rw [← pow_add]
    exact Nat.pow_le_pow_right (by decide) (by omega)
  · rw [(mantissa_eq x).2 (by omega), Nat.div_lt_iff_lt_mul (Nat.two_pow_pos _), ← pow_add] at hm
    exact lt_of_lt_of_le hm (Nat.pow_le_pow_right (by decide) (by omega))

/-- Above exponent 3 the exponent bounds the decoded value from below, since the mantissa keeps
    16 significant bits. -/
theorem two_pow_le_target_getCompact {x : BitVec 256} (h : 3 < compactSize x) :
    2 ^ (8 * compactSize x - 9) ≤ (setCompact (getCompact x)).target.toNat := by
  rw [target_getCompact_eq, ← (mantissa_eq x).2 h]
  calc 2 ^ (8 * compactSize x - 9) = 2 ^ 15 * 2 ^ (8 * (compactSize x - 3)) := by
        rw [← pow_add]; congr 1; omega
    _ ≤ _ := Nat.mul_le_mul_right _ (two_pow_le_mantissa x h)

/-- The round trip keeps order. Within one exponent it rounds down to multiples of one power of
    two; across exponents the larger one starts above every value the smaller one holds. -/
theorem target_getCompact_mono {x y : BitVec 256} (h : x.toNat ≤ y.toNat) :
    (setCompact (getCompact x)).target.toNat ≤ (setCompact (getCompact y)).target.toNat := by
  rcases Nat.lt_trichotomy (compactSize x) (compactSize y) with hlt | heq | hgt
  · by_cases hy : compactSize y ≤ 3
    · rwa [target_getCompact_of_le (by omega), target_getCompact_of_le hy]
    · calc _ ≤ x.toNat := target_getCompact_le x
        _ ≤ 2 ^ (8 * compactSize x - 1) := (toNat_lt_two_pow_compactSize x).le
        _ ≤ 2 ^ (8 * compactSize y - 9) := Nat.pow_le_pow_right (by decide) (by omega)
        _ ≤ _ := two_pow_le_target_getCompact (by omega)
  · rw [target_getCompact_eq, target_getCompact_eq, heq]
    exact Nat.mul_le_mul_right _ (Nat.div_le_div_right h)
  · by_cases hx : compactSize x ≤ 3
    · rwa [target_getCompact_of_le hx, target_getCompact_of_le (by omega)]
    · have := calc 2 ^ (8 * compactSize x - 9) ≤ (setCompact (getCompact x)).target.toNat :=
            two_pow_le_target_getCompact (by omega)
          _ ≤ y.toNat := le_trans (target_getCompact_le x) h
          _ < 2 ^ (8 * compactSize y - 1) := toNat_lt_two_pow_compactSize y
          _ ≤ 2 ^ (8 * compactSize x - 9) := Nat.pow_le_pow_right (by decide) (by omega)
      exact absurd this (lt_irrefl _)

/-- The round trip rounds down by less than one part in `2^15`: above exponent 3 it keeps a
    mantissa of at least 16 bits and drops less than one unit of its last place. -/
theorem toNat_mul_le_target_getCompact (x : BitVec 256) :
    x.toNat * 2 ^ 15 ≤ (setCompact (getCompact x)).target.toNat * (2 ^ 15 + 1) := by
  by_cases h3 : compactSize x ≤ 3
  · rw [target_getCompact_of_le h3]
    exact Nat.mul_le_mul_left _ (by decide)
  · have hm := two_pow_le_mantissa x (by omega)
    have hmx := (mantissa_eq x).2 (by omega)
    rw [target_getCompact_eq, ← hmx]
    generalize hP : 2 ^ (8 * (compactSize x - 3)) = P at hmx
    have hx := Nat.div_add_mod x.toNat P
    have hr := Nat.mod_lt x.toNat (show 0 < P from hP ▸ Nat.two_pow_pos _)
    have hq : 2 ^ 15 * P ≤ mantissa x * P := Nat.mul_le_mul_right P hm
    rw [← hmx, Nat.mul_comm P] at hx
    omega

/-- Above exponent 3 the exponent bounds the value itself from below. -/
theorem two_pow_le_toNat_of_compactSize {x : BitVec 256} (h : 3 < compactSize x) :
    2 ^ (8 * compactSize x - 9) ≤ x.toNat :=
  le_trans (two_pow_le_target_getCompact h) (target_getCompact_le x)

/-- The exponent of what the round trip decodes is the exponent it was encoded with: the value
    lies in the same band `[2^(8c-9), 2^(8c-1))`, and the bands of different exponents above 3
    are disjoint. -/
theorem compactSize_target_getCompact (x : BitVec 256) :
    compactSize (setCompact (getCompact x)).target = compactSize x := by
  have hle := target_getCompact_le x
  have hx := toNat_lt_two_pow_compactSize x
  by_cases h3 : compactSize x ≤ 3
  · rw [BitVec.eq_of_toNat_eq (target_getCompact_of_le h3)]
  have hlo := two_pow_le_target_getCompact (x := x) (by omega)
  have hy := toNat_lt_two_pow_compactSize (setCompact (getCompact x)).target
  have hlt : ∀ a b : Nat, 2 ^ a < 2 ^ b → a < b := fun a b h =>
    (Nat.pow_lt_pow_iff_right (by decide)).mp h
  by_cases hy3 : compactSize (setCompact (getCompact x)).target ≤ 3
  · have := hlt _ _ (lt_of_le_of_lt hlo hy)
    omega
  · have hylo := two_pow_le_toNat_of_compactSize (x := (setCompact (getCompact x)).target)
      (by omega)
    have h₁ := hlt _ _ (lt_of_le_of_lt hlo hy)
    have h₂ := hlt _ _ (lt_of_le_of_lt hylo (lt_of_le_of_lt hle hx))
    omega

/-- `GetCompact` of a decoded `GetCompact` is the word it started from: every word `GetCompact`
    writes is a fixed point of decoding and encoding again. -/
theorem getCompact_target_getCompact (x : BitVec 256) :
    getCompact (setCompact (getCompact x)).target = getCompact x := by
  have hc := compactSize_target_getCompact x
  have hm : mantissa (setCompact (getCompact x)).target = mantissa x := by
    by_cases h3 : compactSize x ≤ 3
    · rw [BitVec.eq_of_toNat_eq (target_getCompact_of_le h3)]
    · rw [(mantissa_eq _).2 (by omega), (mantissa_eq x).2 (by omega), hc, target_getCompact_eq,
        Nat.mul_div_cancel _ (Nat.two_pow_pos _)]
  apply UInt32.toNat.inj
  rw [getCompact_toNat, getCompact_toNat, hc, hm]

end Zclassic

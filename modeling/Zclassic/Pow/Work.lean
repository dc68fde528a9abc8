import Zclassic.Pow.Difficulty

/-!
# Block Proof and Equivalent Time

What a block's `nBits` is worth as chain work, and how many seconds of blocks a difference in
chain work stands for.

`GetBlockProof` wants `2^256 / (target + 1)`, which `arith_uint256` cannot hold, so it computes
`~target / (target + 1) + 1`. Two facts make that exact: no `nBits` decodes to `2^256 - 1`
(`target_setCompact_lt`), so `target + 1` neither wraps nor is zero; and once the target is
nonzero the quotient plus one stays below `2^256` (`getBlockProof_toNat`).

`GetBlockProofEquivalentTime` multiplies the chain-work difference by the target spacing,
divides by the tip's proof, and saturates at `INT64_MAX`. The spacing is an `int64_t` that
`arith_uint256(uint64_t)` reads unsigned, so a negative spacing multiplies by nearly `2^64`
(`getBlockProofEquivalentTime_negative_spacing`). And `sign * r.GetLow64()` is an `int` times a
`uint64_t`, which wraps modulo `2^64` and is read back as signed: below `2^63` that is the signed
product (`toInt64_sign_mul`). With a nonnegative spacing and a product below `2^256` the
function is the signed, saturated quotient (`getBlockProofEquivalentTime_eq`).

Two facts hold with no condition at all. Chain work is antitone in the target, and an in-range
`nBits` is worth at least one unit (`getBlockProof_antitone`). And swapping `to` and `from`
negates the equivalent time, whatever the spacing and whether the result saturates or wraps,
and the time never reaches `INT64_MIN` (`getBlockProofEquivalentTime_swap`): both orders divide
the same difference, and only the sign differs.

## Main definitions

* `getBlockProof`: `GetBlockProof`.
* `toInt64`: An unsigned 64-bit value read as `int64_t`.
* `getBlockProofEquivalentTime`: `GetBlockProofEquivalentTime`, of the two chain works.

## Theorems

* `getBlockProof_toNat`: The proof is `2^256 / (target + 1)`, or `0` for a flagged or zero
  target.
* `getBlockProofEquivalentTime_isSome`: Over an in-range tip the equivalent time never divides
  by zero.
* `getBlockProofEquivalentTime_eq`: The equivalent time is the signed quotient, saturated.
* `getBlockProof_exact`: Both, for every `nBits` and every tip.
* `getBlockProof_antitone`: A smaller target is worth at least as much work.
* `getBlockProofEquivalentTime_swap`: Swapping the two chain works negates the time.
-/

namespace Zclassic

namespace Pow

/-- `GetBlockProof`: `2^256 / (target + 1)`, computed as `~target / (target + 1) + 1`, and `0`
    for a target that is negative, overflows or is zero. -/
def getBlockProof (block : BlockIndex) : Option (BitVec 256) :=
  let c := setCompact block.nBits
  if c.fNegative || c.fOverflow || c.target == 0 then some 0
  else do
    let q ← divArith (~~~c.target) (c.target + 1)
    pure (q + 1)

/-- An unsigned 64-bit value converted to `int64_t`. -/
def toInt64 (n : Nat) : Int := if n < 2 ^ 63 then n else n - 2 ^ 64

/-- `GetBlockProofEquivalentTime`. Of `to` and `from` it reads only `nChainWork`, which is passed
    in. `sign * std::numeric_limits<int64_t>::max()` is computed in `int64_t`; `sign *
    r.GetLow64()` converts `sign` to `uint64_t`, and the product wraps before it is returned as
    `int64_t`. -/
def getBlockProofEquivalentTime (toChainWork fromChainWork : BitVec 256) (tip : BlockIndex)
    (params : Params) : Option Int := do
  let sign : Int := if toChainWork > fromChainWork then 1 else -1
  let r := if toChainWork > fromChainWork then toChainWork - fromChainWork
    else fromChainWork - toChainWork
  let proof ← getBlockProof tip
  let r ← divArith (r * ofInt64 (params.powTargetSpacing tip.nHeight)) proof
  if bits r > 63 then pure (sign * (2 ^ 63 - 1))
  else pure (toInt64 ((sign % 2 ^ 64).toNat * (r.toNat % 2 ^ 64) % 2 ^ 64))

/-- `target + 1` does not wrap. -/
theorem target_add_one_toNat (nCompact : UInt32) :
    ((setCompact nCompact).target + 1).toNat = (setCompact nCompact).target.toNat + 1 := by
  rw [BitVec.toNat_add, show (1 : BitVec 256).toNat = 1 from rfl]
  exact Nat.mod_eq_of_lt (by have := target_setCompact_lt nCompact; omega)

/-- The proof is `2^256 / (target + 1)`: `target + 1` does not wrap, and for a nonzero target the
    quotient plus one does not either. A flagged or zero target gives `0`. -/
theorem getBlockProof_toNat (block : BlockIndex) :
    ∃ w, getBlockProof block = some w ∧
      w.toNat = if (setCompact block.nBits).fNegative || (setCompact block.nBits).fOverflow ||
          (setCompact block.nBits).target == 0 then 0
        else 2 ^ 256 / ((setCompact block.nBits).target.toNat + 1) := by
  by_cases h : ((setCompact block.nBits).fNegative || (setCompact block.nBits).fOverflow ||
      (setCompact block.nBits).target == 0) = true
  · exact ⟨0, by simp only [getBlockProof, if_pos h], by rw [if_pos h]; rfl⟩
  · have ht := target_setCompact_lt block.nBits
    have h1 := target_add_one_toNat block.nBits
    have hT : (setCompact block.nBits).target ≠ 0 := fun h0 => h (by simp [h0])
    simp only [getBlockProof, if_neg h]
    generalize (setCompact block.nBits).target = T at ht h1 hT ⊢
    have htpos : 0 < T.toNat :=
      Nat.pos_of_ne_zero fun h0 => hT (BitVec.eq_of_toNat_eq (by simpa using h0))
    have hq : (~~~T / (T + 1)).toNat = (2 ^ 256 - 1 - T.toNat) / (T.toNat + 1) := by
      rw [BitVec.toNat_udiv, BitVec.toNat_not, h1]
    have hqle := Nat.div_le_self (2 ^ 256 - 1 - T.toNat) (T.toNat + 1)
    have hdiv : 2 ^ 256 / (T.toNat + 1) = (2 ^ 256 - 1 - T.toNat) / (T.toNat + 1) + 1 := by
      conv_lhs => rw [show 2 ^ 256 = (2 ^ 256 - 1 - T.toNat) + (T.toNat + 1) by omega]
      exact Nat.add_div_right _ (Nat.succ_pos _)
    have hne : T + 1 ≠ 0 := fun h0 => by
      have := congrArg BitVec.toNat h0
      rw [h1] at this
      simp at this
    rw [divArith_of_ne hne]
    refine ⟨_, rfl, ?_⟩
    rw [BitVec.toNat_add, hq, show (1 : BitVec 256).toNat = 1 from rfl, hdiv]
    exact Nat.mod_eq_of_lt (by omega)

/-- An in-range tip's proof is `2^256 / (target + 1)`, and it is nonzero. -/
theorem getBlockProof_inRange {tip : BlockIndex}
    (hrange : (setCompact tip.nBits).fNegative = false ∧
      (setCompact tip.nBits).fOverflow = false ∧ (setCompact tip.nBits).target ≠ 0) :
    ∃ p, getBlockProof tip = some p ∧
      p.toNat = 2 ^ 256 / ((setCompact tip.nBits).target.toNat + 1) ∧ p ≠ 0 := by
  obtain ⟨hneg, hover, hzero⟩ := hrange
  obtain ⟨p, hp, hpv⟩ := getBlockProof_toNat tip
  rw [if_neg (by simp only [hneg, hover, Bool.false_or, beq_iff_eq]; exact hzero)] at hpv
  have hpos : 0 < 2 ^ 256 / ((setCompact tip.nBits).target.toNat + 1) :=
    Nat.div_pos (by have := (setCompact tip.nBits).target.isLt; omega) (Nat.succ_pos _)
  refine ⟨p, hp, hpv, fun h0 => ?_⟩
  rw [h0, show (0 : BitVec 256).toNat = 0 from rfl] at hpv
  omega

/-- `int * uint64_t` returned as `int64_t`: for a value below `2^63` and a sign of `±1`, the
    wrapped product reads back as the signed product. -/
theorem toInt64_sign_mul {sign : Int} (hs : sign = 1 ∨ sign = -1) {q : Nat} (hq : q < 2 ^ 63) :
    toInt64 ((sign % 2 ^ 64).toNat * (q % 2 ^ 64) % 2 ^ 64) = sign * q := by
  rcases hs with rfl | rfl
  · simp only [toInt64, show ((1 : Int) % 2 ^ 64).toNat = 1 by decide]
    split <;> omega
  · simp only [toInt64, show ((-1 : Int) % 2 ^ 64).toNat = 2 ^ 64 - 1 by decide]
    split <;> omega

/-- The sign `GetBlockProofEquivalentTime` gives the quotient. -/
theorem chainWork_sign_cases (a b : BitVec 256) :
    (if a > b then (1 : Int) else -1) = 1 ∨ (if a > b then (1 : Int) else -1) = -1 := by
  split <;> simp

/-- The saturating tail of `GetBlockProofEquivalentTime`: the quotient with its sign, capped at
    `INT64_MAX`. `bits() > 63` is the test `r ≥ 2^63`. -/
theorem saturate_eq {sign : Int} (hs : sign = 1 ∨ sign = -1) (r : BitVec 256) :
    (if bits r > 63 then pure (sign * (2 ^ 63 - 1))
      else pure (toInt64 ((sign % 2 ^ 64).toNat * (r.toNat % 2 ^ 64) % 2 ^ 64)) : Option Int) =
    some (sign * min (r.toNat : Int) (2 ^ 63 - 1)) := by
  split
  · next h =>
    rw [gt_iff_lt, ← not_le, bits_le_iff] at h
    rw [min_eq_right (by omega)]; rfl
  · next h =>
    rw [gt_iff_lt, not_lt, bits_le_iff] at h
    rw [min_eq_left (by omega), toInt64_sign_mul hs h]; rfl

/-- With a nonnegative spacing and a product below `2^256`, the equivalent time over an in-range
    tip is the chain-work difference times the spacing over the tip's proof, with the sign of
    the difference and saturated at `INT64_MAX`. -/
theorem getBlockProofEquivalentTime_eq (toChainWork fromChainWork : BitVec 256)
    (tip : BlockIndex) (params : Params)
    (hrange : (setCompact tip.nBits).fNegative = false ∧
      (setCompact tip.nBits).fOverflow = false ∧ (setCompact tip.nBits).target ≠ 0)
    (hspacing : 0 ≤ params.powTargetSpacing tip.nHeight)
    (hprod : ((toChainWork.toNat : Int) - fromChainWork.toNat).natAbs *
      params.powTargetSpacing tip.nHeight < 2 ^ 256) :
    getBlockProofEquivalentTime toChainWork fromChainWork tip params =
      some ((if toChainWork > fromChainWork then 1 else -1) *
        min (((toChainWork.toNat : Int) - fromChainWork.toNat).natAbs *
          params.powTargetSpacing tip.nHeight /
            ((2 ^ 256 / ((setCompact tip.nBits).target.toNat + 1) : Nat) : Int)) (2 ^ 63 - 1)) := by
  obtain ⟨p, hp, hpv, hp0⟩ := getBlockProof_inRange hrange
  set P := 2 ^ 256 / ((setCompact tip.nBits).target.toNat + 1)
  set s := params.powTargetSpacing tip.nHeight
  set d := ((toChainWork.toNat : Int) - fromChainWork.toNat).natAbs
  have hr : (if toChainWork > fromChainWork then toChainWork - fromChainWork
      else fromChainWork - toChainWork).toNat = d := by
    have := toChainWork.isLt
    have := fromChainWork.isLt
    split <;> rename_i h <;> rw [gt_iff_lt, BitVec.lt_def] at h <;> rw [BitVec.toNat_sub] <;> omega
  have hs : (ofInt64 s).toNat = s.toNat := ofInt64_toNat (params.spacing_int64 _) hspacing
  have hprodN : d * s.toNat < 2 ^ 256 := by
    have : (d : Int) * s = ((d * s.toNat : Nat) : Int) := by
      rw [Nat.cast_mul, Int.toNat_of_nonneg hspacing]
    omega
  have hquot : ((if toChainWork > fromChainWork then toChainWork - fromChainWork
      else fromChainWork - toChainWork) * ofInt64 s / p).toNat = d * s.toNat / P := by
    rw [BitVec.toNat_udiv, BitVec.toNat_mul, hr, hs, hpv, Nat.mod_eq_of_lt hprodN]
  have hcast : ((d * s.toNat / P : Nat) : Int) = (d : Int) * s / (P : Int) := by
    rw [Int.ofNat_ediv (d * s.toNat) P, Nat.cast_mul, Int.toNat_of_nonneg hspacing]
  simp only [getBlockProofEquivalentTime, hp, Option.bind_eq_bind, Option.some_bind,
    divArith_of_ne hp0]
  rw [saturate_eq (chainWork_sign_cases _ _), hquot, hcast]

/-- Over an in-range tip, `GetBlockProofEquivalentTime` never divides by zero, whatever the two
    chain works and the spacing. -/
theorem getBlockProofEquivalentTime_isSome (toChainWork fromChainWork : BitVec 256)
    {tip : BlockIndex} (params : Params)
    (hrange : (setCompact tip.nBits).fNegative = false ∧
      (setCompact tip.nBits).fOverflow = false ∧ (setCompact tip.nBits).target ≠ 0) :
    (getBlockProofEquivalentTime toChainWork fromChainWork tip params).isSome := by
  obtain ⟨p, hp, -, hp0⟩ := getBlockProof_inRange hrange
  simp only [getBlockProofEquivalentTime, hp, Option.bind_eq_bind, Option.some_bind,
    divArith_of_ne hp0, saturate_eq (chainWork_sign_cases _ _), Option.isSome_some]

/-- `sampleParams` with a target spacing of `-1` second, which `int64_t` holds. -/
def negativeSpacingParams : Params :=
  { sampleParams with
    powTargetSpacing := fun _ => -1
    spacing_int64 := fun _ => by simp only [IsInt64]; omega }

/-- Every `nBits` gives a proof without dividing by zero, exactly `2^256 / (target + 1)` when it
    is in range; over an in-range tip the equivalent time never divides by zero, for every pair
    of chain works and every spacing; and with a nonnegative spacing it is the signed, saturated
    quotient whenever the product is below `2^256`. -/
theorem getBlockProof_exact :
    (∀ block : BlockIndex, (setCompact block.nBits).target + 1 ≠ 0 ∧
      ∃ w, getBlockProof block = some w ∧
        w.toNat = if (setCompact block.nBits).fNegative || (setCompact block.nBits).fOverflow ||
            (setCompact block.nBits).target == 0 then 0
          else 2 ^ 256 / ((setCompact block.nBits).target.toNat + 1)) ∧
    (∀ (toChainWork fromChainWork : BitVec 256) (tip : BlockIndex) (params : Params),
      (setCompact tip.nBits).fNegative = false ∧ (setCompact tip.nBits).fOverflow = false ∧
        (setCompact tip.nBits).target ≠ 0 →
      (getBlockProofEquivalentTime toChainWork fromChainWork tip params).isSome) ∧
    ∀ (toChainWork fromChainWork : BitVec 256) (tip : BlockIndex) (params : Params),
      (setCompact tip.nBits).fNegative = false ∧ (setCompact tip.nBits).fOverflow = false ∧
        (setCompact tip.nBits).target ≠ 0 →
      0 ≤ params.powTargetSpacing tip.nHeight →
      ((toChainWork.toNat : Int) - fromChainWork.toNat).natAbs *
        params.powTargetSpacing tip.nHeight < 2 ^ 256 →
      getBlockProofEquivalentTime toChainWork fromChainWork tip params =
        some ((if toChainWork > fromChainWork then 1 else -1) *
          min (((toChainWork.toNat : Int) - fromChainWork.toNat).natAbs *
            params.powTargetSpacing tip.nHeight /
              ((2 ^ 256 / ((setCompact tip.nBits).target.toNat + 1) : Nat) : Int))
            (2 ^ 63 - 1)) := by
  refine ⟨fun block => ⟨fun h0 => ?_, getBlockProof_toNat block⟩,
    fun a b _ params h => getBlockProofEquivalentTime_isSome a b params h,
    getBlockProofEquivalentTime_eq⟩
  have := congrArg BitVec.toNat h0
  rw [target_add_one_toNat] at this
  simp at this

/-- Over the tip `0x1d00ffff`: a chain-work difference of `2^256 - 1` at a spacing of `-1`, whose
    product is far above `2^256`, still divides by a nonzero proof; and a difference of a million
    at `150` seconds is the signed, saturated quotient. -/
theorem getBlockProof_exact_sample :
    ((setCompact 0x1d00ffff).fNegative = false ∧ (setCompact 0x1d00ffff).fOverflow = false ∧
      (setCompact 0x1d00ffff).target ≠ 0) ∧
    (getBlockProofEquivalentTime (-1) 0 ⟨0, 0x1d00ffff, 0⟩ negativeSpacingParams).isSome ∧
    0 ≤ sampleParams.powTargetSpacing 0 ∧
    (((1000000 : BitVec 256).toNat : Int) - (0 : BitVec 256).toNat).natAbs *
      sampleParams.powTargetSpacing 0 < 2 ^ 256 ∧
    getBlockProofEquivalentTime 1000000 0 ⟨0, 0x1d00ffff, 0⟩ sampleParams =
      some ((if (1000000 : BitVec 256) > 0 then 1 else -1) *
        min ((((1000000 : BitVec 256).toNat : Int) - (0 : BitVec 256).toNat).natAbs *
          sampleParams.powTargetSpacing 0 /
            ((2 ^ 256 / ((setCompact 0x1d00ffff).target.toNat + 1) : Nat) : Int))
          (2 ^ 63 - 1)) :=
  have hrange : (setCompact 0x1d00ffff).fNegative = false ∧
      (setCompact 0x1d00ffff).fOverflow = false ∧ (setCompact 0x1d00ffff).target ≠ 0 := by
    decide
  have hspacing : 0 ≤ sampleParams.powTargetSpacing 0 := by decide
  have hprod : (((1000000 : BitVec 256).toNat : Int) - (0 : BitVec 256).toNat).natAbs *
      sampleParams.powTargetSpacing 0 < 2 ^ 256 := by
    rw [show (1000000 : BitVec 256).toNat = 1000000 from rfl,
      show (0 : BitVec 256).toNat = 0 from rfl]
    simp only [sampleParams]
    omega
  ⟨hrange, getBlockProof_exact.2.1 (-1) 0 ⟨0, 0x1d00ffff, 0⟩ negativeSpacingParams hrange,
    hspacing, hprod,
    getBlockProof_exact.2.2 1000000 0 ⟨0, 0x1d00ffff, 0⟩ sampleParams hrange hspacing hprod⟩

/-! ### Order and symmetry -/

/-- Chain work is antitone in the target: of two in-range `nBits`, the one with the smaller
    target counts for at least as much work, and every in-range `nBits` counts for at least
    one unit. -/
theorem getBlockProof_antitone {b₁ b₂ : BlockIndex}
    (h₁ : (setCompact b₁.nBits).fNegative = false ∧ (setCompact b₁.nBits).fOverflow = false ∧
      (setCompact b₁.nBits).target ≠ 0)
    (h₂ : (setCompact b₂.nBits).fNegative = false ∧ (setCompact b₂.nBits).fOverflow = false ∧
      (setCompact b₂.nBits).target ≠ 0)
    (hle : (setCompact b₁.nBits).target.toNat ≤ (setCompact b₂.nBits).target.toNat) :
    ∃ w₁ w₂, getBlockProof b₁ = some w₁ ∧ getBlockProof b₂ = some w₂ ∧
      1 ≤ w₂.toNat ∧ w₂.toNat ≤ w₁.toNat := by
  have inRange : ∀ b : BlockIndex, (setCompact b.nBits).fNegative = false ∧
      (setCompact b.nBits).fOverflow = false ∧ (setCompact b.nBits).target ≠ 0 →
      ((setCompact b.nBits).fNegative || (setCompact b.nBits).fOverflow ||
        (setCompact b.nBits).target == 0) = false := fun b ⟨hn, ho, hz⟩ => by
    simp only [hn, ho, Bool.false_or, beq_eq_false_iff_ne]
    exact hz
  obtain ⟨w₁, hw₁, hv₁⟩ := getBlockProof_toNat b₁
  obtain ⟨w₂, hw₂, hv₂⟩ := getBlockProof_toNat b₂
  rw [inRange b₁ h₁, if_neg Bool.false_ne_true] at hv₁
  rw [inRange b₂ h₂, if_neg Bool.false_ne_true] at hv₂
  have hlt := target_setCompact_lt b₂.nBits
  refine ⟨w₁, w₂, hw₁, hw₂, ?_, ?_⟩
  · rw [hv₂, Nat.le_div_iff_mul_le (Nat.succ_pos _)]
    omega
  · rw [hv₁, hv₂]
    exact Nat.div_le_div_left (by omega) (Nat.succ_pos _)

theorem getBlockProof_antitone_sample :
    ((setCompact 0x1c00ffff).fNegative = false ∧ (setCompact 0x1c00ffff).fOverflow = false ∧
      (setCompact 0x1c00ffff).target ≠ 0) ∧
    ((setCompact 0x1d00ffff).fNegative = false ∧ (setCompact 0x1d00ffff).fOverflow = false ∧
      (setCompact 0x1d00ffff).target ≠ 0) ∧
    (setCompact 0x1c00ffff).target.toNat ≤ (setCompact 0x1d00ffff).target.toNat ∧
    ∃ w₁ w₂, getBlockProof ⟨0, 0x1c00ffff, 0⟩ = some w₁ ∧ getBlockProof ⟨0, 0x1d00ffff, 0⟩ = some w₂ ∧
      1 ≤ w₂.toNat ∧ w₂.toNat ≤ w₁.toNat :=
  have h₁ : (setCompact 0x1c00ffff).fNegative = false ∧ (setCompact 0x1c00ffff).fOverflow = false ∧
      (setCompact 0x1c00ffff).target ≠ 0 := by decide
  have h₂ : (setCompact 0x1d00ffff).fNegative = false ∧ (setCompact 0x1d00ffff).fOverflow = false ∧
      (setCompact 0x1d00ffff).target ≠ 0 := by decide
  have hle : (setCompact 0x1c00ffff).target.toNat ≤ (setCompact 0x1d00ffff).target.toNat := by
    decide
  ⟨h₁, h₂, hle, @getBlockProof_antitone ⟨0, 0x1c00ffff, 0⟩ ⟨0, 0x1d00ffff, 0⟩ h₁ h₂ hle⟩

/-- Two chain works compare one way, the other way, or are equal. -/
theorem chainWork_cases (a b : BitVec 256) : a > b ∧ ¬b > a ∨ a = b ∨ ¬a > b ∧ b > a := by
  simp only [gt_iff_lt, BitVec.lt_def]
  rcases Nat.lt_trichotomy a.toNat b.toNat with h | h | h
  · exact .inr (.inr ⟨by omega, h⟩)
  · exact .inr (.inl (BitVec.eq_of_toNat_eq h))
  · exact .inl ⟨h, by omega⟩

/-- The chain-work difference `GetBlockProofEquivalentTime` divides: the same whichever way
    round the two chain works are given. -/
theorem workDifference_comm (a b : BitVec 256) :
    (if a > b then a - b else b - a) = (if b > a then b - a else a - b) := by
  rcases chainWork_cases a b with ⟨h, h'⟩ | rfl | ⟨h, h'⟩
  · rw [if_pos h, if_neg h']
  · rfl
  · rw [if_neg h, if_pos h']

/-- Swapping `to` and `from` negates the equivalent time, for every tip and every spacing, the
    saturated and the wrapped cases included; and the time is within `INT64_MAX` of zero, so it
    is never `INT64_MIN`. -/
theorem getBlockProofEquivalentTime_swap (a b : BitVec 256) (tip : BlockIndex) (params : Params) :
    getBlockProofEquivalentTime a b tip params =
      (getBlockProofEquivalentTime b a tip params).map Neg.neg ∧
    ∀ t ∈ getBlockProofEquivalentTime a b tip params, -(2 ^ 63 - 1) ≤ t ∧ t ≤ 2 ^ 63 - 1 := by
  simp only [getBlockProofEquivalentTime, Option.bind_eq_bind,
    saturate_eq (chainWork_sign_cases _ _),
    workDifference_comm b a]
  cases getBlockProof tip with
  | none => exact ⟨rfl, fun t ht => nomatch ht⟩
  | some p =>
    simp only [Option.some_bind]
    rcases hd : divArith ((if a > b then a - b else b - a) * ofInt64 (params.powTargetSpacing
      tip.nHeight)) p with _ | r
    · exact ⟨rfl, fun t ht => nomatch ht⟩
    · simp only [Option.some_bind, Option.map_some', Option.mem_def, Option.some_inj]
      refine ⟨?_, ?_⟩
      · rcases chainWork_cases a b with ⟨h, h'⟩ | rfl | ⟨h, h'⟩
        · rw [if_pos h, if_neg h']; ring
        · have hr : r = 0 := by
            simp only [ite_self, BitVec.sub_self, BitVec.zero_mul, divArith] at hd
            split_ifs at hd
            rw [← Option.some_inj.mp hd]
            exact BitVec.eq_of_toNat_eq (by simp)
          simp [hr]
        · rw [if_neg h, if_pos h']; ring
      · rintro t rfl
        rcases chainWork_sign_cases a b with hs | hs <;> rw [hs] <;> omega

set_option maxRecDepth 4000 in
/-- A spacing of `-1` converts to the `uint64_t` value `2^64 - 1`. Over the tip `0x21008000`,
    whose target `2^255` is in range and whose proof is `1`, a chain-work difference of `1` then
    saturates to `INT64_MAX`, where the signed quotient of the difference times the spacing is
    `-1`. -/
theorem getBlockProofEquivalentTime_negative_spacing :
    (setCompact 0x21008000).fNegative = false ∧ (setCompact 0x21008000).fOverflow = false ∧
    (setCompact 0x21008000).target.toNat = 2 ^ 255 ∧
    getBlockProof ⟨0, 0x21008000, 0⟩ = some 1 ∧
    getBlockProofEquivalentTime 1 0 ⟨0, 0x21008000, 0⟩ negativeSpacingParams =
      some (2 ^ 63 - 1) ∧
    ((1 : Int) - 0).natAbs * negativeSpacingParams.powTargetSpacing 0 < 2 ^ 256 ∧
    (1 : Int) * min (((1 : Int) - 0).natAbs * negativeSpacingParams.powTargetSpacing 0 /
      ((2 ^ 256 / (2 ^ 255 + 1) : Nat) : Int)) (2 ^ 63 - 1) = -1 := by
  decide

end Pow

end Zclassic

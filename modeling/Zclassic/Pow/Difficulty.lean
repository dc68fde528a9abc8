import Zclassic.Arith.Compact

/-!
# The Difficulty Rule

`GetNextWorkRequired` picks the `nBits` the next block must meet. It has five ways out: the
genesis limit, three emergency tiers for the first blocks after an upgrade fork, the testnet
minimum-difficulty rule, the limit again for a chain shorter than the averaging window, and
the averaged retarget of `CalculateNextWorkRequired`. Each is modelled as the source writes it,
with `arith_uint256` as `BitVec 256` and the throws of its division as `none`.

Three details of the C++ decide what the rule can return. The emergency test reads
`flag && (DIFFADJ window) || (BUTTERCUP window)`, so the flag gates only the first window
(`inUpgradeWindow`): a network with the flag off still takes the emergency tiers in the
BUTTERCUP window (`getNextWorkRequired_flag_off_buttercup`), and agrees with the rule without
them everywhere else (`getNextWorkRequired_eq_withoutUpgradeFork`). `bnNew *= nActualTimespan`
picks `base_uint::operator*=(uint32_t)` over the `arith_uint256` overload, so the timespan is
truncated to its low 32 bits. And `bnTot / params.nPowAveragingWindow` divides by a window of
zero blocks when there is one.

`getNextWorkRequired_decodesInRange` is the range half of the story: on every branch the rule
returns, and what it returns decodes without a flag to at most `powLimit`. The argument is one
lemma per branch, each ending in `decodesInRange_getCompact` on a clamped value.
`getNextWorkRequired_target_in_range` adds positivity on the retarget: an average at least the
averaging timespan gives a positive target, as long as the timespan fits in 32 bits and the
bound on `powLimit` keeps the product from wrapping. `windowTotal_toNat_le` shows the averaging
loop does not wrap when the window's blocks are in range. Without the 32-bit bound the target
can be zero, and with a zero window the rule throws: `getNextWorkRequired_wideSpan_zero_target`
exhibits both.

What the rule returns is also canonical: every branch ends in `GetCompact`, and a word that
`GetCompact` wrote comes back unchanged from decoding and encoding again
(`getCompact_target_getCompact`). So `getNextWorkRequired_canonical`: the `nBits` a header must
carry is the one encoding of its target that `GetCompact` produces.

The checks read `nBits` by its number, mantissa times `256^(exponent - 3)`. `SetCompact` flags
overflow exactly when that number does not fit in 256 bits, so `CheckProofOfWork` accepts a hash
exactly when the word's sign bit is clear, its number lies in `(0, powLimit]`, and the hash is
at most that number (`checkProofOfWork_iff`).

## Main definitions

* `Params`, `BlockIndex`, `BlockHeader`: What `pow.cpp` reads of the consensus parameters, a
  block index and a header.
* `increaseDifficultyBy`, `calculateNextWorkRequired`, `getNextWorkRequired`: The rule.
* `targetInRange`, `checkProofOfWork`: The range check and the hash check.
* `DecodesInRange`: An `nBits` that decodes without a flag to at most `powLimit`.
* `getNextWorkRequiredWithoutUpgradeFork`: The rule with the emergency block removed.
* `Canonical`: An `nBits` that decoding and encoding again give back.

## Theorems

* `windowTotal_toNat_le`: The averaging loop adds at most `powLimit` per block.
* `windowAverage_le_powLimit`: So the window's average is at most `powLimit`.
* `retargetProduct_toNat`: Within the band the retarget's product is exact.
* `calculateNextWorkRequired_pos`: The retarget of an average above the timespan is positive.
* `getNextWorkRequired_decodesInRange`: Every branch returns an in-range `nBits`.
* `getNextWorkRequired_target_in_range`: The same, with positivity on the retarget.
* `getNextWorkRequired_wideSpan_zero_target`: A timespan of `2^32` retargets to zero.
* `getNextWorkRequired_flag_off_buttercup`: With the flag off the BUTTERCUP tiers still apply.
* `getNextWorkRequired_canonical`: Every `nBits` the rule returns is canonical.
* `checkProofOfWork_iff`: The hash check in terms of the number `nBits` stands for.
-/

namespace Zclassic

namespace Pow

/-- A value of the C++ type `int64_t`. -/
def IsInt64 (v : Int) : Prop := -2 ^ 63 ≤ v ∧ v < 2 ^ 63

/-- `Consensus::Params`, the fields `pow.cpp` reads. `consensus/params.h` is not among the
    sources, so the height-indexed spacing and timespans are given functions. The three
    `int64_t` values the code converts to `uint64_t` carry their range, since that decides
    whether a conversion can give zero. -/
structure Params where
  powLimit : BitVec 256
  nPowAveragingWindow : Int
  scaleDifficultyAtUpgradeFork : Bool
  /-- `vUpgrades[UPGRADE_DIFFADJ].nActivationHeight`. -/
  diffAdjActivationHeight : Int
  /-- `vUpgrades[UPGRADE_BUTTERCUP].nActivationHeight`. -/
  buttercupActivationHeight : Int
  nPowAllowMinDifficultyBlocksAfterHeight : Option Nat
  powTargetSpacing : Int → Int
  averagingWindowTimespan : Int → Int
  minActualTimespan : Int → Int
  maxActualTimespan : Int → Int
  window_int64 : IsInt64 nPowAveragingWindow
  spacing_int64 : ∀ h, IsInt64 (powTargetSpacing h)
  averaging_int64 : ∀ h, IsInt64 (averagingWindowTimespan h)

/-- `CBlockIndex`, the fields `pow.cpp` reads. A chain is a list from a block back to genesis,
    so `pprev` is the tail. -/
structure BlockIndex where
  nHeight : Int
  nBits : UInt32
  nTime : UInt32

/-- `CBlockIndex::GetBlockTime`. -/
def BlockIndex.getBlockTime (b : BlockIndex) : Int := b.nTime.toNat

/-- `CBlockHeader`, the fields `pow.cpp` reads. `randomXHeaderHash` is the value of
    `GetRandomXHeaderHash()`, which hashes the header's other fields. -/
structure BlockHeader where
  nTime : UInt32
  nHeight : UInt32
  randomXHeaderHash : BitVec 256

/-- `CBlockHeader::GetBlockTime`. -/
def BlockHeader.getBlockTime (b : BlockHeader) : Int := b.nTime.toNat

/-- `arith_uint256(uint64_t)` applied to an `int64_t`, which is converted to `uint64_t` first. -/
def ofInt64 (v : Int) : BitVec 256 := BitVec.ofNat 256 (v % 2 ^ 64).toNat

/-- `base_uint::operator/=`; it throws `uint_error` on a zero divisor, which is `none` here. -/
def divArith (a b : BitVec 256) : Option (BitVec 256) := if b = 0 then none else some (a / b)

/-- The clamp `if (target > pow_limit) target = pow_limit`. -/
def clampToLimit (params : Params) (x : BitVec 256) : BitVec 256 :=
  if x > params.powLimit then params.powLimit else x

/-- `IncreaseDifficultyBy`. -/
def increaseDifficultyBy (nBits : UInt32) (multiplier : Int) (params : Params) : Option UInt32 := do
  let target ← divArith (setCompact nBits).target (ofInt64 multiplier)
  pure (getCompact (clampToLimit params target))

/-- The `int64_t` result of `+` or `-` on `int64_t` values: the exact value modulo `2^64`, read
    back into `[-2^63, 2^63)`, as the two's-complement targets of the code wrap it. -/
def wrapInt64 (v : Int) : Int := (v + 2 ^ 63) % 2 ^ 64 - 2 ^ 63

/-- The dampened and bounded timespan of `CalculateNextWorkRequired`, in `int64_t` arithmetic
    with C++'s truncating division. -/
def actualTimespan (params : Params) (nLastBlockTime nFirstBlockTime nextHeight : Int) : Int :=
  let averagingWindowTimespan := params.averagingWindowTimespan nextHeight
  let nActualTimespan := wrapInt64 (nLastBlockTime - nFirstBlockTime)
  let nActualTimespan := wrapInt64
    (averagingWindowTimespan + (wrapInt64 (nActualTimespan - averagingWindowTimespan)).tdiv 4)
  let nActualTimespan := if nActualTimespan < params.minActualTimespan nextHeight
    then params.minActualTimespan nextHeight else nActualTimespan
  if nActualTimespan > params.maxActualTimespan nextHeight
    then params.maxActualTimespan nextHeight else nActualTimespan

/-- `CalculateNextWorkRequired`. `bnNew *= nActualTimespan` resolves to
    `base_uint::operator*=(uint32_t)`, so the timespan is truncated to its low 32 bits. -/
def calculateNextWorkRequired (bnAvg : BitVec 256) (nLastBlockTime nFirstBlockTime : Int)
    (params : Params) (nextHeight : Int) : Option UInt32 := do
  let nActualTimespan := actualTimespan params nLastBlockTime nFirstBlockTime nextHeight
  let bnNew ← divArith bnAvg (ofInt64 (params.averagingWindowTimespan nextHeight))
  let bnNew := bnNew * BitVec.ofNat 256 (nActualTimespan % 2 ^ 32).toNat
  pure (getCompact (clampToLimit params bnNew))

/-- The window test heading `GetNextWorkRequired`. The source writes
    `flag && (DIFFADJ window) || (BUTTERCUP window)`; `&&` binds tighter, so the flag gates only
    the DIFFADJ window. -/
def inUpgradeWindow (params : Params) (nHeight : Int) : Bool :=
  (params.scaleDifficultyAtUpgradeFork &&
    (decide (params.diffAdjActivationHeight ≤ nHeight) &&
      decide (nHeight < params.diffAdjActivationHeight + params.nPowAveragingWindow))) ||
  (decide (params.buttercupActivationHeight ≤ nHeight) &&
    decide (nHeight < params.buttercupActivationHeight + params.nPowAveragingWindow))

/-- `pblock && pblock->getBlockTime() > pindexLast->getBlockTime() + spacing * k`. -/
def blockLate (pblock : Option BlockHeader) (last : BlockIndex) (spacing k : Int) : Bool :=
  match pblock with
  | some b => decide (b.getBlockTime > last.getBlockTime + spacing * k)
  | none => false

/-- The upgrade-fork emergency tiers: `some r` when one of them returns `r`. -/
def upgradeForkWork (params : Params) (last : BlockIndex) (pblock : Option BlockHeader) :
    Option (Option UInt32) :=
  let nHeight := last.nHeight + 1
  let nProofOfWorkLimit := getCompact params.powLimit
  let spacing := params.powTargetSpacing nHeight
  if inUpgradeWindow params nHeight then
    if blockLate pblock last spacing 12 then some (some nProofOfWorkLimit)
    else if blockLate pblock last spacing 6 then
      some (increaseDifficultyBy nProofOfWorkLimit 128 params)
    else if blockLate pblock last spacing 2 then
      some (increaseDifficultyBy nProofOfWorkLimit 256 params)
    else none
  else none

/-- The testnet minimum-difficulty rule. The comparison `pindexLast->nHeight >= get()` is between
    an `int` and a `uint32_t`, so the height is read as unsigned. -/
def minDifficultyApplies (params : Params) (last : BlockIndex) (pblock : Option BlockHeader) :
    Bool :=
  match params.nPowAllowMinDifficultyBlocksAfterHeight with
  | some after => decide (after ≤ (last.nHeight % 2 ^ 32).toNat) &&
      blockLate pblock last (params.powTargetSpacing (last.nHeight + 1)) 6
  | none => false

/-- The averaging loop: the sum of the decoded targets of the first `n` blocks, and where the
    walk down `pprev` stopped. -/
def windowTotal : Nat → List BlockIndex → BitVec 256 → BitVec 256 × List BlockIndex
  | 0, chain, bnTot => (bnTot, chain)
  | _ + 1, [], bnTot => (bnTot, [])
  | i + 1, b :: pprev, bnTot => windowTotal i pprev (bnTot + (setCompact b.nBits).target)

/-- The averaged retarget that ends `GetNextWorkRequired`. `GetMedianTimePast` is in `chain.h`,
    not among the sources, and is a given function of the chain below a block. -/
def averagedWork (params : Params) (medianTimePast : List BlockIndex → Int)
    (last : BlockIndex) (pprev : List BlockIndex) : Option UInt32 :=
  match windowTotal params.nPowAveragingWindow.toNat (last :: pprev) 0 with
  | (_, []) => some (getCompact params.powLimit)
  | (bnTot, pindexFirst) => do
    let bnAvg ← divArith bnTot (ofInt64 params.nPowAveragingWindow)
    calculateNextWorkRequired bnAvg (medianTimePast (last :: pprev)) (medianTimePast pindexFirst)
      params (last.nHeight + 1)

/-- `GetNextWorkRequired`, with `pindexLast` as the chain from the last block back to genesis
    (`[]` for `NULL`). `none` is the division by zero the averaging can throw. -/
def getNextWorkRequired (params : Params) (medianTimePast : List BlockIndex → Int)
    (pindexLast : List BlockIndex) (pblock : Option BlockHeader) : Option UInt32 :=
  match pindexLast with
  | [] => some (getCompact params.powLimit)
  | last :: pprev =>
    match upgradeForkWork params last pblock with
    | some r => r
    | none =>
      if minDifficultyApplies params last pblock then some (getCompact params.powLimit)
      else averagedWork params medianTimePast last pprev

/-- The range check shared by `CheckProofOfWork` and `CheckRandomXProofOfWork`. -/
def targetInRange (params : Params) (nBits : UInt32) : Bool :=
  let c := setCompact nBits
  !(c.fNegative || c.target == 0 || c.fOverflow || decide (c.target > params.powLimit))

/-- `CheckProofOfWork`. A hash equal to the target passes. -/
def checkProofOfWork (hash : BitVec 256) (nBits : UInt32) (params : Params) : Bool :=
  targetInRange params nBits && !decide (hash > (setCompact nBits).target)

/-- The Equihash parameters `(n, k)` that `CheckEquihashSolution` reads off a solution's size:
    the genesis sizes of mainnet and regtest, and two more. -/
def equihashParams (nSolSize : Nat) : Option (Nat × Nat) :=
  if nSolSize = 1344 then some (200, 9)
  else if nSolSize = 36 then some (48, 5)
  else if nSolSize = 68 then some (96, 5)
  else if nSolSize = 400 then some (192, 7)
  else none

/-- `CheckEquihashSolution`. The header's bytes without the solution (`I`, then `nNonce`), which
    the BLAKE2b state is fed, are an input, and `EhIsValidSolution` is an oracle on `n`, `k`,
    those bytes and the solution. -/
def checkEquihashSolution (ehIsValidSolution : Nat → Nat → List UInt8 → List UInt8 → Bool)
    (input nSolution : List UInt8) : Bool :=
  match equihashParams nSolution.length with
  | none => false
  | some (n, k) => ehIsValidSolution n k input nSolution

/-- A solution `CheckEquihashSolution` accepts has the length of an Equihash `(n, k)` solution,
    `2^k` indices of `n / (k + 1) + 1` bits, for the `(n, k)` it was checked against. -/
theorem checkEquihashSolution_length
    (ehIsValidSolution : Nat → Nat → List UInt8 → List UInt8 → Bool) (input nSolution : List UInt8)
    (h : checkEquihashSolution ehIsValidSolution input nSolution = true) :
    ∃ n k, equihashParams nSolution.length = some (n, k) ∧
      8 * nSolution.length = 2 ^ k * (n / (k + 1) + 1) ∧
      ehIsValidSolution n k input nSolution = true := by
  unfold checkEquihashSolution at h
  split at h
  · exact absurd h Bool.false_ne_true
  · next n k hp =>
    refine ⟨n, k, hp, ?_, h⟩
    unfold equihashParams at hp
    split_ifs at hp with h₁ h₂ h₃ h₄ <;> simp only [Option.some_inj, Prod.mk.injEq] at hp <;>
      obtain ⟨rfl, rfl⟩ := hp <;> omega

/-- What the difficulty rule promises of the `nBits` it returns: it decodes without a flag to a
    target no larger than `powLimit`. -/
def DecodesInRange (params : Params) (nBits : UInt32) : Prop :=
  (setCompact nBits).fNegative = false ∧ (setCompact nBits).fOverflow = false ∧
    (setCompact nBits).target ≤ params.powLimit

theorem decodesInRange_getCompact (params : Params) {x : BitVec 256} (hx : x ≤ params.powLimit) :
    DecodesInRange params (getCompact x) := by
  refine ⟨by rw [setCompact_getCompact], by rw [setCompact_getCompact], ?_⟩
  rw [BitVec.le_def] at hx ⊢
  exact le_trans (target_getCompact_le x) hx

theorem clampToLimit_le (params : Params) (x : BitVec 256) :
    clampToLimit params x ≤ params.powLimit := by
  unfold clampToLimit
  split
  · exact BitVec.le_refl _
  · next h => simpa [BitVec.le_def, BitVec.lt_def] using h

theorem clampToLimit_toNat (params : Params) (x : BitVec 256) :
    (clampToLimit params x).toNat = min params.powLimit.toNat x.toNat := by
  unfold clampToLimit
  split
  · next hx => rw [gt_iff_lt, BitVec.lt_def] at hx; omega
  · next hx => rw [gt_iff_lt, BitVec.lt_def] at hx; omega

theorem ofInt64_toNat {v : Int} (hv : IsInt64 v) (hpos : 0 ≤ v) :
    (ofInt64 v).toNat = v.toNat := by
  unfold ofInt64 IsInt64 at *
  rw [BitVec.toNat_ofNat, Int.emod_eq_of_lt hpos (by omega), Nat.mod_eq_of_lt (by omega)]

theorem ofInt64_ne_zero {v : Int} (hv : IsInt64 v) (h0 : v ≠ 0) : ofInt64 v ≠ 0 := by
  intro h
  have := congrArg BitVec.toNat h
  unfold IsInt64 at hv
  simp only [ofInt64, BitVec.ofNat_eq_ofNat, BitVec.toNat_ofNat, Nat.zero_mod] at this
  rw [Nat.mod_eq_of_lt (by omega)] at this
  omega

theorem divArith_of_ne {a b : BitVec 256} (hb : b ≠ 0) : divArith a b = some (a / b) := if_neg hb

theorem increaseDifficultyBy_eq (params : Params) (nBits : UInt32) {multiplier : Int}
    (hm : IsInt64 multiplier) (h0 : multiplier ≠ 0) :
    increaseDifficultyBy nBits multiplier params =
      some (getCompact (clampToLimit params ((setCompact nBits).target / ofInt64 multiplier))) := by
  simp [increaseDifficultyBy, divArith_of_ne (ofInt64_ne_zero hm h0)]

theorem calculateNextWorkRequired_eq (params : Params) (bnAvg : BitVec 256)
    (nLastBlockTime nFirstBlockTime nextHeight : Int)
    (hW : 0 < params.averagingWindowTimespan nextHeight) :
    calculateNextWorkRequired bnAvg nLastBlockTime nFirstBlockTime params nextHeight =
      some (getCompact (clampToLimit params
        (bnAvg / ofInt64 (params.averagingWindowTimespan nextHeight) *
          BitVec.ofNat 256 (actualTimespan params nLastBlockTime nFirstBlockTime nextHeight
            % 2 ^ 32).toNat))) := by
  simp [calculateNextWorkRequired,
    divArith_of_ne (ofInt64_ne_zero (params.averaging_int64 nextHeight) (by omega))]

/-- The emergency tiers return the limit or a division of it, clamped, so they stay in range. -/
theorem upgradeForkWork_decodesInRange (params : Params) (last : BlockIndex)
    (pblock : Option BlockHeader) {r : Option UInt32}
    (h : upgradeForkWork params last pblock = some r) :
    ∃ nBits, r = some nBits ∧ DecodesInRange params nBits := by
  have h128 := increaseDifficultyBy_eq params (getCompact params.powLimit) (show IsInt64 128 by
    unfold IsInt64; omega) (by decide)
  have h256 := increaseDifficultyBy_eq params (getCompact params.powLimit) (show IsInt64 256 by
    unfold IsInt64; omega) (by decide)
  simp only [upgradeForkWork] at h
  split_ifs at h <;> simp only [Option.some.injEq] at h <;> subst h
  · exact ⟨_, rfl, decodesInRange_getCompact params (BitVec.le_refl _)⟩
  · exact ⟨_, h128, decodesInRange_getCompact params (clampToLimit_le _ _)⟩
  · exact ⟨_, h256, decodesInRange_getCompact params (clampToLimit_le _ _)⟩

theorem averagedWork_decodesInRange (params : Params) (medianTimePast : List BlockIndex → Int)
    (last : BlockIndex) (pprev : List BlockIndex)
    (hW : ∀ h, 0 < params.averagingWindowTimespan h)
    (hwindow : params.nPowAveragingWindow ≠ 0) :
    ∃ nBits, averagedWork params medianTimePast last pprev = some nBits ∧
      DecodesInRange params nBits := by
  unfold averagedWork
  split
  · exact ⟨_, rfl, decodesInRange_getCompact params (BitVec.le_refl _)⟩
  · simp only [divArith_of_ne (ofInt64_ne_zero params.window_int64 hwindow), Option.bind_eq_bind,
      Option.some_bind, calculateNextWorkRequired_eq _ _ _ _ _ (hW _)]
    exact ⟨_, rfl, decodesInRange_getCompact params (clampToLimit_le _ _)⟩

/-- On an `int64_t` value the wrap changes nothing. -/
theorem wrapInt64_of_isInt64 {v : Int} (h : IsInt64 v) : wrapInt64 v = v := by
  unfold wrapInt64 IsInt64 at *
  omega

theorem actualTimespan_mem (params : Params) (nLastBlockTime nFirstBlockTime h : Int)
    (hle : params.minActualTimespan h ≤ params.maxActualTimespan h) :
    params.minActualTimespan h ≤ actualTimespan params nLastBlockTime nFirstBlockTime h ∧
      actualTimespan params nLastBlockTime nFirstBlockTime h ≤ params.maxActualTimespan h := by
  simp only [actualTimespan]
  split_ifs <;> omega

theorem target_le_of_targetInRange {params : Params} {nBits : UInt32}
    (h : targetInRange params nBits = true) : (setCompact nBits).target ≤ params.powLimit := by
  simp only [targetInRange, Bool.not_eq_true', Bool.or_eq_false_iff, decide_eq_false_iff_not] at h
  simpa [BitVec.le_def, BitVec.lt_def] using h.2

/-- The range check accepts exactly the words with the sign bit clear whose number lies in
    `(0, powLimit]`: a word whose number overflows is caught by the flag, and any other decodes
    to its number. -/
theorem targetInRange_iff (params : Params) (nBits : UInt32) :
    targetInRange params nBits = true ↔ nBits.toNat &&& 0x00800000 = 0 ∧
      0 < compactValue nBits ∧ compactValue nBits ≤ params.powLimit.toNat := by
  have hP := params.powLimit.isLt
  have htgt := target_setCompact_toNat nBits
  by_cases hv : 2 ^ 256 ≤ compactValue nBits
  · have hovf := (setCompact_fOverflow_iff nBits).mpr hv
    simp only [targetInRange, hovf, Bool.or_true, Bool.true_or, Bool.not_true, Bool.false_eq_true,
      false_iff, not_and, not_le]
    omega
  · have hovf : (setCompact nBits).fOverflow = false :=
      Bool.eq_false_iff.mpr fun h => hv ((setCompact_fOverflow_iff nBits).mp h)
    rw [Nat.mod_eq_of_lt (not_le.mp hv)] at htgt
    simp only [targetInRange, hovf, Bool.or_false, Bool.not_eq_true', Bool.eq_false_iff, ne_eq,
      Bool.or_eq_true, not_or, setCompact_fNegative_iff, beq_iff_eq, decide_eq_true_eq,
      BitVec.lt_def, BitVec.toNat_eq, htgt, BitVec.ofNat_eq_ofNat, BitVec.toNat_ofNat,
      Nat.zero_mod]
    omega

/-- `CheckProofOfWork` accepts a hash exactly when `nBits` has its sign bit clear and stands for
    a number in `(0, powLimit]`, and the hash is at most that number. -/
theorem checkProofOfWork_iff (hash : BitVec 256) (nBits : UInt32) (params : Params) :
    checkProofOfWork hash nBits params = true ↔ nBits.toNat &&& 0x00800000 = 0 ∧
      0 < compactValue nBits ∧ compactValue nBits ≤ params.powLimit.toNat ∧
      hash.toNat ≤ compactValue nBits := by
  have hP := params.powLimit.isLt
  have htgt := target_setCompact_toNat nBits
  simp only [checkProofOfWork, Bool.and_eq_true, targetInRange_iff, Bool.not_eq_true',
    decide_eq_false_iff_not, gt_iff_lt, BitVec.lt_def, not_lt, htgt]
  constructor
  · rintro ⟨⟨hs, hpos, hle⟩, hh⟩
    exact ⟨hs, hpos, hle, by rwa [Nat.mod_eq_of_lt (by omega)] at hh⟩
  · rintro ⟨hs, hpos, hle, hh⟩
    exact ⟨⟨hs, hpos, hle⟩, by rwa [Nat.mod_eq_of_lt (by omega)]⟩

/-- The averaging loop adds at most `powLimit` per block, and without wrapping while the bound
    holds. -/
theorem windowTotal_toNat_le (params : Params) :
    ∀ (n : Nat) (chain : List BlockIndex) (acc : BitVec 256),
      (∀ b ∈ chain.take n, targetInRange params b.nBits = true) →
      acc.toNat + n * params.powLimit.toNat < 2 ^ 256 →
      (windowTotal n chain acc).1.toNat ≤ acc.toNat + n * params.powLimit.toNat := by
  intro n
  induction n with
  | zero => intro chain acc _ _; cases chain <;> simp [windowTotal]
  | succ n ih =>
    intro chain acc hin hacc
    cases chain with
    | nil => simp [windowTotal]
    | cons b pprev =>
      have hb : (setCompact b.nBits).target.toNat ≤ params.powLimit.toNat :=
        BitVec.le_def.mp (target_le_of_targetInRange (hin b (by simp)))
      have hsum : (acc + (setCompact b.nBits).target).toNat =
          acc.toNat + (setCompact b.nBits).target.toNat := by
        rw [BitVec.toNat_add, Nat.mod_eq_of_lt (by rw [Nat.succ_mul] at hacc; omega)]
      have := ih pprev (acc + (setCompact b.nBits).target)
        (fun b' hb' => hin b' (by simp [hb'])) (by rw [hsum, Nat.succ_mul] at *; omega)
      simp only [windowTotal]
      rw [hsum] at this
      rw [Nat.succ_mul]
      omega

/-- The window's average, its total divided by `nPowAveragingWindow`, is at most `powLimit`
    when the window's blocks are in range and their sum cannot wrap. -/
theorem windowAverage_le_powLimit (params : Params) {chain pindexFirst : List BlockIndex}
    {bnTot : BitVec 256}
    (hwin : ∀ b ∈ chain.take params.nPowAveragingWindow.toNat,
      targetInRange params b.nBits = true)
    (hsum : params.nPowAveragingWindow * params.powLimit.toNat < 2 ^ 256)
    (hn : 0 < params.nPowAveragingWindow)
    (hloop : windowTotal params.nPowAveragingWindow.toNat chain 0 = (bnTot, pindexFirst)) :
    (bnTot / ofInt64 params.nPowAveragingWindow).toNat =
        bnTot.toNat / params.nPowAveragingWindow.toNat ∧
      bnTot / ofInt64 params.nPowAveragingWindow ≤ params.powLimit := by
  have hsumN : params.nPowAveragingWindow.toNat * params.powLimit.toNat < 2 ^ 256 := by
    have : ((params.nPowAveragingWindow.toNat * params.powLimit.toNat : Nat) : Int) =
        params.nPowAveragingWindow * params.powLimit.toNat := by
      push_cast; rw [Int.toNat_of_nonneg hn.le]
    omega
  have htot := windowTotal_toNat_le params _ _ 0 hwin (by simpa using hsumN)
  rw [hloop] at htot
  simp only [BitVec.ofNat_eq_ofNat, BitVec.toNat_ofNat, Nat.zero_mod, zero_add] at htot
  have hdiv : (bnTot / ofInt64 params.nPowAveragingWindow).toNat =
      bnTot.toNat / params.nPowAveragingWindow.toNat := by
    rw [BitVec.toNat_udiv, ofInt64_toNat params.window_int64 hn.le]
  refine ⟨hdiv, ?_⟩
  rw [BitVec.le_def, hdiv, Nat.div_le_iff_le_mul_add_pred (by omega)]
  omega

/-- Within the band the retarget's product neither wraps nor loses the timespan's high bits,
    once the average is at most `powLimit`. -/
theorem retargetProduct_toNat (params : Params) (bnAvg : BitVec 256) (h : Int) {a : Int}
    (hMin : 0 < params.minActualTimespan h)
    (hMinW : params.minActualTimespan h ≤ params.averagingWindowTimespan h)
    (hmul : (params.powLimit.toNat : Int) / params.averagingWindowTimespan h *
      params.maxActualTimespan h < 2 ^ 256)
    (hMax32 : params.maxActualTimespan h < 2 ^ 32) (havg : bnAvg ≤ params.powLimit)
    (ha : params.minActualTimespan h ≤ a ∧ a ≤ params.maxActualTimespan h) :
    (bnAvg / ofInt64 (params.averagingWindowTimespan h) *
        BitVec.ofNat 256 (a % 2 ^ 32).toNat).toNat =
      bnAvg.toNat / (params.averagingWindowTimespan h).toNat * a.toNat := by
  set W := params.averagingWindowTimespan h
  have hWn : (ofInt64 W).toNat = W.toNat := ofInt64_toNat (params.averaging_int64 h) (by omega)
  have hqP : bnAvg.toNat / W.toNat ≤ params.powLimit.toNat / W.toNat :=
    Nat.div_le_div_right (BitVec.le_def.mp havg)
  have hle : ((params.powLimit.toNat / W.toNat * a.toNat : Nat) : Int) ≤
      (params.powLimit.toNat : Int) / W * params.maxActualTimespan h := by
    push_cast
    rw [Int.toNat_of_nonneg (show 0 ≤ W by omega), Int.toNat_of_nonneg (show 0 ≤ a by omega)]
    exact Int.mul_le_mul_of_nonneg_left ha.2 (Int.ediv_nonneg (by omega) (by omega))
  rw [BitVec.toNat_mul, BitVec.toNat_udiv, hWn, BitVec.toNat_ofNat,
    Int.emod_eq_of_lt (by omega) (by omega), Nat.mod_eq_of_lt (show a.toNat < 2 ^ 256 by omega)]
  exact Nat.mod_eq_of_lt (lt_of_le_of_lt (Nat.mul_le_mul_right _ hqP) (by omega))

/-- The retarget is positive once the average reaches the averaging timespan, provided the
    timespan fits the 32 bits `operator*=` reads: the quotient is at least one, the timespan is
    at least one, and the bound on `powLimit` keeps their product from wrapping. -/
theorem calculateNextWorkRequired_pos (params : Params) (bnAvg : BitVec 256)
    (nLastBlockTime nFirstBlockTime h : Int)
    (hMin : 0 < params.minActualTimespan h)
    (hMinW : params.minActualTimespan h ≤ params.averagingWindowTimespan h)
    (hWMax : params.averagingWindowTimespan h ≤ params.maxActualTimespan h)
    (hmul : (params.powLimit.toNat : Int) / params.averagingWindowTimespan h *
      params.maxActualTimespan h < 2 ^ 256)
    (hMax32 : params.maxActualTimespan h < 2 ^ 32)
    (havg : bnAvg ≤ params.powLimit) (hW : params.averagingWindowTimespan h ≤ bnAvg.toNat) :
    ∃ nBits,
      calculateNextWorkRequired bnAvg nLastBlockTime nFirstBlockTime params h = some nBits ∧
      0 < (setCompact nBits).target.toNat := by
  have ha := actualTimespan_mem params nLastBlockTime nFirstBlockTime h (by omega)
  rw [calculateNextWorkRequired_eq _ _ _ _ _ (by omega)]
  refine ⟨_, rfl, target_getCompact_pos _ ?_⟩
  rw [clampToLimit_toNat,
    retargetProduct_toNat params bnAvg h hMin hMinW hmul hMax32 havg ha]
  have hq1 : 1 ≤ bnAvg.toNat / (params.averagingWindowTimespan h).toNat :=
    (Nat.le_div_iff_mul_le (by omega)).mpr (by omega)
  have hP := BitVec.le_def.mp havg
  exact lt_min (by omega) (Nat.mul_pos (by omega) (by omega))

/-- Every branch returns, when the window is nonzero and the averaging timespan positive, and
    what it returns decodes without a flag to at most `powLimit`. -/
theorem getNextWorkRequired_decodesInRange (params : Params)
    (medianTimePast : List BlockIndex → Int) (pindexLast : List BlockIndex)
    (pblock : Option BlockHeader)
    (hW : ∀ h, 0 < params.averagingWindowTimespan h)
    (hwindow : params.nPowAveragingWindow ≠ 0) :
    ∃ nBits, getNextWorkRequired params medianTimePast pindexLast pblock = some nBits ∧
      DecodesInRange params nBits := by
  cases pindexLast with
  | nil => exact ⟨_, rfl, decodesInRange_getCompact params (BitVec.le_refl _)⟩
  | cons last pprev =>
    rcases hu : upgradeForkWork params last pblock with _ | r
    · by_cases hm : minDifficultyApplies params last pblock
      · simp only [getNextWorkRequired, hu, hm, if_true]
        exact ⟨_, rfl, decodesInRange_getCompact params (BitVec.le_refl _)⟩
      · simp only [getNextWorkRequired, hu, hm, Bool.false_eq_true, if_false]
        exact averagedWork_decodesInRange params medianTimePast last pprev hW hwindow
    · simp only [getNextWorkRequired, hu]
      exact upgradeForkWork_decodesInRange params last pblock hu

/-- The range of every branch, and a positive target from the retarget when the window's average
    reaches the averaging timespan and the timespan fits in 32 bits. -/
theorem getNextWorkRequired_target_in_range (params : Params)
    (medianTimePast : List BlockIndex → Int) (pindexLast : List BlockIndex)
    (pblock : Option BlockHeader)
    (hspan : ∀ h, 0 < params.minActualTimespan h ∧
      params.minActualTimespan h ≤ params.averagingWindowTimespan h ∧
      params.averagingWindowTimespan h ≤ params.maxActualTimespan h)
    (hsum : params.nPowAveragingWindow * params.powLimit.toNat < 2 ^ 256)
    (hmul : ∀ h, (params.powLimit.toNat : Int) / params.averagingWindowTimespan h *
      params.maxActualTimespan h < 2 ^ 256)
    (hwin : ∀ b ∈ pindexLast.take params.nPowAveragingWindow.toNat,
      targetInRange params b.nBits = true)
    (hwindow : params.nPowAveragingWindow ≠ 0) :
    ∃ nBits, getNextWorkRequired params medianTimePast pindexLast pblock = some nBits ∧
      DecodesInRange params nBits ∧
      ∀ last pprev bnTot pindexFirst, pindexLast = last :: pprev →
        upgradeForkWork params last pblock = none →
        minDifficultyApplies params last pblock = false →
        windowTotal params.nPowAveragingWindow.toNat pindexLast 0 = (bnTot, pindexFirst) →
        pindexFirst ≠ [] →
        params.averagingWindowTimespan (last.nHeight + 1) ≤
          ((bnTot.toNat / params.nPowAveragingWindow.toNat : Nat) : Int) →
        params.maxActualTimespan (last.nHeight + 1) < 2 ^ 32 →
        0 < (setCompact nBits).target.toNat := by
  obtain ⟨nBits, hres, hrange⟩ := getNextWorkRequired_decodesInRange params medianTimePast
    pindexLast pblock (fun h => by have := hspan h; omega) hwindow
  refine ⟨nBits, hres, hrange, ?_⟩
  rintro last pprev bnTot pindexFirst rfl hu hmin hloop hfirst havg hMax32
  obtain ⟨h1, h2, h3⟩ := hspan (last.nHeight + 1)
  have hn : 0 < params.nPowAveragingWindow := by
    by_contra hle
    rw [show params.nPowAveragingWindow.toNat = 0 by omega, Nat.div_zero] at havg
    omega
  obtain ⟨hdiv, havgP⟩ := windowAverage_le_powLimit params hwin hsum hn hloop
  obtain ⟨nBits', hcalc, hpos⟩ := calculateNextWorkRequired_pos params _
    (medianTimePast (last :: pprev)) (medianTimePast pindexFirst) _ h1 h2 h3 (hmul _) hMax32 havgP
    (by rw [hdiv]; exact havg)
  obtain ⟨f, fs, rfl⟩ := List.exists_cons_of_ne_nil hfirst
  simp only [getNextWorkRequired, hu, hmin, averagedWork, hloop,
    divArith_of_ne (ofInt64_ne_zero params.window_int64 hwindow), Option.bind_eq_bind,
    Option.some_bind, hcalc, Option.some.injEq, Bool.false_eq_true, if_false] at hres
  rw [← hres]
  exact hpos

/-- Parameters of the shape the networks use: a 17-block window at 150 seconds, adjustments of
    16% up and 32% down, and the limit `2^243 - 1`. -/
def sampleParams : Params where
  powLimit := BitVec.ofNat 256 (2 ^ 243 - 1)
  nPowAveragingWindow := 17
  scaleDifficultyAtUpgradeFork := true
  diffAdjActivationHeight := 585318
  buttercupActivationHeight := 707000
  nPowAllowMinDifficultyBlocksAfterHeight := none
  powTargetSpacing := fun _ => 150
  averagingWindowTimespan := fun _ => 2550
  minActualTimespan := fun _ => 2142
  maxActualTimespan := fun _ => 3366
  window_int64 := by unfold IsInt64; omega
  spacing_int64 := fun _ => by simp only [IsInt64]; omega
  averaging_int64 := fun _ => by simp only [IsInt64]; omega

/-- A block at `sampleParams`'s limit word `0x1d00ffff`. -/
def flatBlock : BlockIndex := ⟨0, 0x1d00ffff, 0⟩

/-- Eighteen blocks at `0x1d00ffff`, one more than `sampleParams`'s window. -/
def flatChain : List BlockIndex := flatBlock :: List.replicate 17 flatBlock

/-- Under `sampleParams`, the flat chain whose median times past advance 160 seconds a block
    reaches the averaged retarget, and its target is positive. -/
theorem getNextWorkRequired_target_in_range_flat :
    (∀ h, 0 < sampleParams.minActualTimespan h ∧
      sampleParams.minActualTimespan h ≤ sampleParams.averagingWindowTimespan h ∧
      sampleParams.averagingWindowTimespan h ≤ sampleParams.maxActualTimespan h) ∧
    sampleParams.nPowAveragingWindow * sampleParams.powLimit.toNat < 2 ^ 256 ∧
    (∀ h, (sampleParams.powLimit.toNat : Int) / sampleParams.averagingWindowTimespan h *
      sampleParams.maxActualTimespan h < 2 ^ 256) ∧
    (∀ b ∈ flatChain.take sampleParams.nPowAveragingWindow.toNat,
      targetInRange sampleParams b.nBits = true) ∧
    sampleParams.nPowAveragingWindow ≠ 0 ∧
    upgradeForkWork sampleParams flatBlock none = none ∧
    minDifficultyApplies sampleParams flatBlock none = false ∧
    (windowTotal sampleParams.nPowAveragingWindow.toNat flatChain 0).2 ≠ [] ∧
    sampleParams.averagingWindowTimespan (flatBlock.nHeight + 1) ≤
      (((windowTotal sampleParams.nPowAveragingWindow.toNat flatChain 0).1.toNat /
        sampleParams.nPowAveragingWindow.toNat : Nat) : Int) ∧
    sampleParams.maxActualTimespan (flatBlock.nHeight + 1) < 2 ^ 32 ∧
    ∃ nBits, getNextWorkRequired sampleParams (fun c => 160 * c.length) flatChain none =
      some nBits ∧ DecodesInRange sampleParams nBits ∧ 0 < (setCompact nBits).target.toNat := by
  have hspan : ∀ h, 0 < sampleParams.minActualTimespan h ∧
      sampleParams.minActualTimespan h ≤ sampleParams.averagingWindowTimespan h ∧
      sampleParams.averagingWindowTimespan h ≤ sampleParams.maxActualTimespan h := by
    intro h; simp only [sampleParams]; omega
  have hsum : sampleParams.nPowAveragingWindow * sampleParams.powLimit.toNat < 2 ^ 256 := by
    simp only [sampleParams, BitVec.toNat_ofNat]; omega
  have hmul : ∀ h, (sampleParams.powLimit.toNat : Int) / sampleParams.averagingWindowTimespan h *
      sampleParams.maxActualTimespan h < 2 ^ 256 := by
    intro h; simp only [sampleParams, BitVec.toNat_ofNat]; omega
  have hwin : ∀ b ∈ flatChain.take sampleParams.nPowAveragingWindow.toNat,
      targetInRange sampleParams b.nBits = true := by decide
  have hwindow : sampleParams.nPowAveragingWindow ≠ 0 := by decide
  have hu : upgradeForkWork sampleParams flatBlock none = none := by decide
  have hmin : minDifficultyApplies sampleParams flatBlock none = false := by decide
  have hfirst : (windowTotal sampleParams.nPowAveragingWindow.toNat flatChain 0).2 ≠ [] :=
    List.cons_ne_nil flatBlock []
  have havg : sampleParams.averagingWindowTimespan (flatBlock.nHeight + 1) ≤
      (((windowTotal sampleParams.nPowAveragingWindow.toNat flatChain 0).1.toNat /
        sampleParams.nPowAveragingWindow.toNat : Nat) : Int) := by decide
  have hMax32 : sampleParams.maxActualTimespan (flatBlock.nHeight + 1) < 2 ^ 32 := by decide
  obtain ⟨nBits, hres, hrange, hpos⟩ := getNextWorkRequired_target_in_range sampleParams
    (fun c => 160 * c.length) flatChain none hspan hsum hmul hwin hwindow
  exact ⟨hspan, hsum, hmul, hwin, hwindow, hu, hmin, hfirst, havg, hMax32, nBits, hres, hrange,
    hpos flatBlock _ _ _ rfl hu hmin rfl hfirst havg hMax32⟩

/-- A 16-block window at a spacing of `2^28` seconds with no adjustment band: every timespan
    is `2^32`, one more than `uint32_t` holds. -/
def wideSpanParams : Params where
  powLimit := 1 <<< 240
  nPowAveragingWindow := 16
  scaleDifficultyAtUpgradeFork := false
  diffAdjActivationHeight := 1000000
  buttercupActivationHeight := 1000000
  nPowAllowMinDifficultyBlocksAfterHeight := none
  powTargetSpacing := fun _ => 2 ^ 28
  averagingWindowTimespan := fun _ => 2 ^ 32
  minActualTimespan := fun _ => 2 ^ 32
  maxActualTimespan := fun _ => 2 ^ 32
  window_int64 := by unfold IsInt64; omega
  spacing_int64 := fun _ => by simp only [IsInt64]; omega
  averaging_int64 := fun _ => by simp only [IsInt64]; omega

/-- The same parameters with an averaging window of zero blocks. -/
def zeroWindowParams : Params :=
  { wideSpanParams with nPowAveragingWindow := 0, window_int64 := by unfold IsInt64; omega }

/-- Seventeen blocks, each with `nBits = 0x06010000`, the target `2^40`. -/
def wideSpanChain : List BlockIndex :=
  (List.range 17).reverse.map fun i => ⟨i, 0x06010000, 0⟩

set_option maxRecDepth 8000 in
/-- Under `wideSpanParams` the window's targets are in range and average `2^40`, above the
    timespan `2^32`, yet the retarget multiplies by `2^32 mod 2^32 = 0` and returns the target
    zero; with a window of zero blocks the averaging divides by zero and throws. -/
theorem getNextWorkRequired_wideSpan_zero_target :
    (∀ b ∈ wideSpanChain.take 16, targetInRange wideSpanParams b.nBits = true) ∧
    (windowTotal 16 wideSpanChain 0).1 / 16 = 1 <<< 40 ∧
    getNextWorkRequired wideSpanParams (fun _ => 0) wideSpanChain none = some 0 ∧
    (setCompact 0).target = 0 ∧
    getNextWorkRequired zeroWindowParams (fun _ => 0) wideSpanChain none = none := by
  decide

/-! ### Canonical words -/

/-- An `nBits` that decoding and encoding again give back. -/
def Canonical (nBits : UInt32) : Prop := getCompact (setCompact nBits).target = nBits

instance (nBits : UInt32) : Decidable (Canonical nBits) :=
  inferInstanceAs (Decidable (_ = _))

theorem canonical_getCompact (x : BitVec 256) : Canonical (getCompact x) :=
  getCompact_target_getCompact x

theorem increaseDifficultyBy_canonical {nBits : UInt32} {multiplier : Int} {params : Params}
    {r : UInt32} (h : increaseDifficultyBy nBits multiplier params = some r) : Canonical r := by
  simp only [increaseDifficultyBy, Option.bind_eq_bind, Option.bind_eq_some, Option.pure_def,
    Option.some_inj] at h
  obtain ⟨_, -, rfl⟩ := h
  exact canonical_getCompact _

theorem calculateNextWorkRequired_canonical {bnAvg : BitVec 256} {t₁ t₂ : Int} {params : Params}
    {nextHeight : Int} {r : UInt32}
    (h : calculateNextWorkRequired bnAvg t₁ t₂ params nextHeight = some r) : Canonical r := by
  simp only [calculateNextWorkRequired, Option.bind_eq_bind, Option.bind_eq_some,
    Option.pure_def, Option.some_inj] at h
  obtain ⟨_, -, rfl⟩ := h
  exact canonical_getCompact _

/-- Every `nBits` that `GetNextWorkRequired` returns is canonical: it is the `GetCompact` of the
    target it decodes to, so a header whose `nBits` decodes to the same target through another
    word does not match it. -/
theorem getNextWorkRequired_canonical (params : Params) (medianTimePast : List BlockIndex → Int)
    (pindexLast : List BlockIndex) (pblock : Option BlockHeader) (nBits : UInt32)
    (h : getNextWorkRequired params medianTimePast pindexLast pblock = some nBits) :
    Canonical nBits := by
  have hlimit : Canonical (getCompact params.powLimit) := canonical_getCompact _
  cases pindexLast with
  | nil => exact Option.some_inj.mp h ▸ hlimit
  | cons last pprev =>
    simp only [getNextWorkRequired] at h
    split at h
    · next r hu =>
      simp only [upgradeForkWork] at hu
      split_ifs at hu <;> simp only [Option.some_inj] at hu <;> subst hu
      · exact Option.some_inj.mp h ▸ hlimit
      · exact increaseDifficultyBy_canonical h
      · exact increaseDifficultyBy_canonical h
    · split_ifs at h
      · exact Option.some_inj.mp h ▸ hlimit
      · unfold averagedWork at h
        split at h
        · exact Option.some_inj.mp h ▸ hlimit
        · simp only [Option.bind_eq_bind, Option.bind_eq_some] at h
          obtain ⟨_, -, h⟩ := h
          exact calculateNextWorkRequired_canonical h

/-- Two branches past genesis: a header 1000 seconds after a last block at height `706999`,
    more than six spacings late inside the BUTTERCUP window, gets the limit over 128; the flat
    chain gets the averaged retarget. Both words are canonical. -/
theorem getNextWorkRequired_canonical_retargets :
    getNextWorkRequired sampleParams (fun _ => 0) [⟨706999, 0x1d00ffff, 0⟩] (some ⟨1000, 0, 0⟩) =
      some 0x1e0ffffe ∧ Canonical 0x1e0ffffe ∧
    getNextWorkRequired sampleParams (fun c => 160 * c.length) flatChain none =
      some 0x1d010436 ∧ Canonical 0x1d010436 :=
  have hlate : getNextWorkRequired sampleParams (fun _ => 0) [⟨706999, 0x1d00ffff, 0⟩]
      (some ⟨1000, 0, 0⟩) = some 0x1e0ffffe := by decide
  have hflat : getNextWorkRequired sampleParams (fun c => 160 * c.length) flatChain none =
      some 0x1d010436 := by decide
  ⟨hlate, getNextWorkRequired_canonical sampleParams _ _ _ _ hlate,
    hflat, getNextWorkRequired_canonical sampleParams _ _ _ _ hflat⟩

/-! ### The upgrade-fork flag -/

/-- Modelled from the spec: `GetNextWorkRequired` with the upgrade-fork emergency block removed,
    the testnet minimum-difficulty rule followed by the averaged retarget. -/
def getNextWorkRequiredWithoutUpgradeFork (params : Params)
    (medianTimePast : List BlockIndex → Int) (pindexLast : List BlockIndex)
    (pblock : Option BlockHeader) : Option UInt32 :=
  match pindexLast with
  | [] => some (getCompact params.powLimit)
  | last :: pprev =>
    if minDifficultyApplies params last pblock then some (getCompact params.powLimit)
    else averagedWork params medianTimePast last pprev

/-- With the flag off, only the BUTTERCUP window opens the emergency block. -/
theorem inUpgradeWindow_of_flag_off {params : Params}
    (hflag : params.scaleDifficultyAtUpgradeFork = false) (nHeight : Int) :
    inUpgradeWindow params nHeight = (decide (params.buttercupActivationHeight ≤ nHeight) &&
      decide (nHeight < params.buttercupActivationHeight + params.nPowAveragingWindow)) := by
  simp [inUpgradeWindow, hflag]

/-- Outside the emergency windows the rule is the one without the emergency block. -/
theorem getNextWorkRequired_eq_withoutUpgradeFork (params : Params)
    (medianTimePast : List BlockIndex → Int) (last : BlockIndex) (pprev : List BlockIndex)
    (pblock : Option BlockHeader) (hwin : inUpgradeWindow params (last.nHeight + 1) = false) :
    getNextWorkRequired params medianTimePast (last :: pprev) pblock =
      getNextWorkRequiredWithoutUpgradeFork params medianTimePast (last :: pprev) pblock := by
  simp [getNextWorkRequired, getNextWorkRequiredWithoutUpgradeFork, upgradeForkWork, hwin]

/-- Inside the BUTTERCUP window a header twelve spacings late gets the limit, whatever the
    flag says. -/
theorem getNextWorkRequired_buttercup_late (params : Params)
    (medianTimePast : List BlockIndex → Int) (last : BlockIndex) (pprev : List BlockIndex)
    (b : BlockHeader)
    (hwin : params.buttercupActivationHeight ≤ last.nHeight + 1 ∧
      last.nHeight + 1 < params.buttercupActivationHeight + params.nPowAveragingWindow)
    (hlate : blockLate (some b) last (params.powTargetSpacing (last.nHeight + 1)) 12 = true) :
    getNextWorkRequired params medianTimePast (last :: pprev) (some b) =
      some (getCompact params.powLimit) := by
  have hup : inUpgradeWindow params (last.nHeight + 1) = true := by
    simp [inUpgradeWindow, hwin]
  simp [getNextWorkRequired, upgradeForkWork, hup, hlate]

/-- `sampleParams` on a network with the upgrade-fork flag off, a one-block window, and the
    BUTTERCUP upgrade at height 2. -/
def flagOffParams : Params :=
  { sampleParams with
    scaleDifficultyAtUpgradeFork := false
    nPowAveragingWindow := 1
    buttercupActivationHeight := 2
    window_int64 := by unfold IsInt64; omega }

/-- Two blocks at `nBits = 0x1d00ffff`, the later one at time 1000. -/
def flagOffChain : List BlockIndex := [⟨1, 0x1d00ffff, 1000⟩, ⟨0, 0x1d00ffff, 0⟩]

/-- With the flag off, a header at height 2 arriving at time 3000, more than twelve spacings
    after its parent, still takes the BUTTERCUP tier and gets the limit; without the emergency
    block the rule retargets the window to `0x1d00d709`. -/
theorem getNextWorkRequired_flag_off_buttercup :
    flagOffParams.scaleDifficultyAtUpgradeFork = false ∧
    getNextWorkRequired flagOffParams (fun _ => 0) flagOffChain (some ⟨3000, 2, 0⟩) =
      some (getCompact flagOffParams.powLimit) ∧
    getNextWorkRequiredWithoutUpgradeFork flagOffParams (fun _ => 0) flagOffChain
      (some ⟨3000, 2, 0⟩) = some 0x1d00d709 ∧
    getCompact flagOffParams.powLimit = 0x1f07ffff :=
  ⟨rfl, getNextWorkRequired_buttercup_late _ _ _ _ _ (by decide) (by decide), by decide,
    by decide⟩

end Pow

end Zclassic

import Zclassic.Pow.Difficulty

/-!
# The Order of the Retarget

What has to hold of the parameters before a slower window can be trusted to give an easier
target.

`CalculateNextWorkRequired` dampens the window's timespan, clamps it into
`[MinActualTimespan, MaxActualTimespan]`, multiplies the average target by it and encodes the
result. Each step keeps order on its own terms: the truncating division by 4 and the clamps are
monotone (`actualTimespan_mono`), and so is the compact round trip (`target_getCompact_mono`).
What can break order is the arithmetic between them. The timespan is computed in `int64_t`,
which wraps once the span leaves `[W - 2^63, 2^63)` for the averaging timespan `W`. `operator*=(uint32_t)` reads only the
timespan's low 32 bits, so a band that reaches `2^32` multiplies by zero at its top; and an
average above `powLimit` can make the product wrap past `2^256` before the clamp sees it.
`calculateNextWorkRequired_not_monotone` shows all three.

With the band below `2^32` and the average at most `powLimit`, the product is exact
(`retargetProduct_toNat`), the clamp is a `min`, and the code computes the spec's retarget
`R` of the dampened timespan (`calculateNextWorkRequired_eq_retarget`). Order and the bounds
`R(MinActualTimespan) ≤ target ≤ R(MaxActualTimespan)` then follow from the monotonicity of
`R` alone.

`R` is not the identity on schedule. With the span equal to the averaging timespan `W`, the
code computes `floor(bnAvg / W) * W`, which drops `bnAvg mod W`, and the encoding rounds down.
So a window of blocks at one word, each exactly on time, keeps that word only when `W` divides
its target (`calculateNextWorkRequired_on_schedule`); otherwise the next target is smaller.

## Main definitions

* `retargetTarget`: The spec's `R(a)`, the decoded `GetCompact` of
  `min(powLimit, floor(bnAvg / W) * a)`.

## Theorems

* `actualTimespan_mono`: The dampened, clamped timespan keeps the order of the spans.
* `retargetTarget_mono`: `R` is monotone.
* `calculateNextWorkRequired_eq_retarget`: The code computes `R` of the dampened timespan.
* `calculateNextWorkRequired_monotone`: The retarget is bounded by `R` at the band's ends and
  monotone in the span.
* `calculateNextWorkRequired_not_monotone`: Without the two bounds it is neither.
* `calculateNextWorkRequired_on_schedule`: Blocks on schedule keep a word only when the
  averaging timespan divides its target.
-/

namespace Zclassic

namespace Pow

/-- C++'s truncating division by 4, as floor division on each side of zero. -/
theorem tdiv_four_eq (c : Int) : c.tdiv 4 = if 0 ≤ c then c / 4 else -(-c / 4) := by
  split
  · exact Int.tdiv_eq_ediv ‹_› (by decide)
  · conv_lhs => rw [← Int.neg_neg c]
    rw [Int.neg_tdiv, Int.tdiv_eq_ediv (by omega) (by decide)]

/-- C++'s truncating division by 4 keeps order. -/
theorem tdiv_four_mono {a b : Int} (h : a ≤ b) : a.tdiv 4 ≤ b.tdiv 4 := by
  rw [tdiv_four_eq a, tdiv_four_eq b]
  split_ifs <;> omega

/-- With the span and its distance from the averaging timespan in `int64_t`, no step of the
    dampening wraps: the dampened value lies between the two. -/
theorem dampen_of_fits {W s : Int} (hW : IsInt64 W) (hs : IsInt64 s) (hsW : IsInt64 (s - W)) :
    wrapInt64 (W + (wrapInt64 (wrapInt64 s - W)).tdiv 4) = W + (s - W).tdiv 4 := by
  rw [wrapInt64_of_isInt64 hs, wrapInt64_of_isInt64 hsW]
  apply wrapInt64_of_isInt64
  have := tdiv_four_eq (s - W)
  unfold IsInt64 at *
  split_ifs at this <;> omega

/-- The dampened, clamped timespan keeps the order of the spans `nLastBlockTime -
    nFirstBlockTime` whose `int64_t` arithmetic does not wrap. -/
theorem actualTimespan_mono (params : Params) (h : Int) {l₁ f₁ l₂ f₂ : Int}
    (h₁ : IsInt64 (l₁ - f₁)) (h₁W : IsInt64 (l₁ - f₁ - params.averagingWindowTimespan h))
    (h₂ : IsInt64 (l₂ - f₂)) (h₂W : IsInt64 (l₂ - f₂ - params.averagingWindowTimespan h))
    (hspan : l₁ - f₁ ≤ l₂ - f₂) :
    actualTimespan params l₁ f₁ h ≤ actualTimespan params l₂ f₂ h := by
  have := tdiv_four_mono (show l₁ - f₁ - params.averagingWindowTimespan h ≤
    l₂ - f₂ - params.averagingWindowTimespan h by omega)
  simp only [actualTimespan, dampen_of_fits (params.averaging_int64 h) h₁ h₁W,
    dampen_of_fits (params.averaging_int64 h) h₂ h₂W]
  split_ifs <;> omega

/-- Modelled from the spec: `R(a)`, the decoded `GetCompact` of
    `min(powLimit, floor(bnAvg / W) * a)` with `W` the averaging timespan at `nextHeight`. -/
def retargetTarget (params : Params) (bnAvg : BitVec 256) (nextHeight a : Int) : Nat :=
  (setCompact (getCompact (BitVec.ofNat 256 (min params.powLimit.toNat
    (bnAvg.toNat / (params.averagingWindowTimespan nextHeight).toNat * a.toNat))))).target.toNat

/-- A value clamped to a 256-bit limit fits in 256 bits. -/
theorem toNat_ofNat_min (limit : BitVec 256) (x : Nat) :
    (BitVec.ofNat 256 (min limit.toNat x)).toNat = min limit.toNat x :=
  Nat.mod_eq_of_lt (lt_of_le_of_lt (min_le_left _ _) limit.isLt)

theorem retargetTarget_mono (params : Params) (bnAvg : BitVec 256) (nextHeight : Int) {a b : Int}
    (hab : a ≤ b) :
    retargetTarget params bnAvg nextHeight a ≤ retargetTarget params bnAvg nextHeight b := by
  apply target_getCompact_mono
  rw [toNat_ofNat_min, toNat_ofNat_min]
  exact min_le_min_left _ (Nat.mul_le_mul_left _ (Int.toNat_le_toNat hab))

/-- `R` grows with the average it starts from. -/
theorem retargetTarget_mono_avg (params : Params) (nextHeight a : Int) {x y : BitVec 256}
    (hxy : x.toNat ≤ y.toNat) :
    retargetTarget params x nextHeight a ≤ retargetTarget params y nextHeight a := by
  apply target_getCompact_mono
  rw [toNat_ofNat_min, toNat_ofNat_min]
  exact min_le_min_left _ (Nat.mul_le_mul_right _ (Nat.div_le_div_right hxy))

section Retarget

variable (params : Params) (bnAvg : BitVec 256) (h : Int)
  (hMin : 0 < params.minActualTimespan h)
  (hMinW : params.minActualTimespan h ≤ params.averagingWindowTimespan h)
  (hWMax : params.averagingWindowTimespan h ≤ params.maxActualTimespan h)
  (hmul : (params.powLimit.toNat : Int) / params.averagingWindowTimespan h *
    params.maxActualTimespan h < 2 ^ 256)
  (hMax32 : params.maxActualTimespan h < 2 ^ 32)
  (havg : bnAvg ≤ params.powLimit)
include hMin hMinW hWMax hmul hMax32 havg

/-- The code computes the spec's `R` of the dampened timespan. -/
theorem calculateNextWorkRequired_eq_retarget (nLastBlockTime nFirstBlockTime : Int) :
    ∃ nBits, calculateNextWorkRequired bnAvg nLastBlockTime nFirstBlockTime params h = some nBits ∧
      (setCompact nBits).target.toNat =
        retargetTarget params bnAvg h (actualTimespan params nLastBlockTime nFirstBlockTime h) := by
  set a := actualTimespan params nLastBlockTime nFirstBlockTime h
  have ha := actualTimespan_mem params nLastBlockTime nFirstBlockTime h (by omega)
  have hclamp : clampToLimit params (bnAvg / ofInt64 (params.averagingWindowTimespan h) *
      BitVec.ofNat 256 (a % 2 ^ 32).toNat) = BitVec.ofNat 256 (min params.powLimit.toNat
        (bnAvg.toNat / (params.averagingWindowTimespan h).toNat * a.toNat)) := by
    apply BitVec.eq_of_toNat_eq
    rw [clampToLimit_toNat, retargetProduct_toNat params bnAvg h hMin hMinW hmul hMax32 havg ha,
      toNat_ofNat_min]
  rw [calculateNextWorkRequired_eq _ _ _ _ _ (by omega), hclamp]
  exact ⟨_, rfl, rfl⟩

/-- The retarget always returns and lies between `R(MinActualTimespan)` and
    `R(MaxActualTimespan)`, and it never gives a harder target to a slower window whose
    `int64_t` arithmetic does not wrap, once the band fits in 32 bits and the average is at
    most `powLimit`. -/
theorem calculateNextWorkRequired_monotone :
    (∀ nLastBlockTime nFirstBlockTime, ∃ nBits,
      calculateNextWorkRequired bnAvg nLastBlockTime nFirstBlockTime params h = some nBits ∧
      retargetTarget params bnAvg h (params.minActualTimespan h) ≤
        (setCompact nBits).target.toNat ∧
      (setCompact nBits).target.toNat ≤
        retargetTarget params bnAvg h (params.maxActualTimespan h)) ∧
    ∀ l₁ f₁ l₂ f₂ n₁ n₂, params.averagingWindowTimespan h - 2 ^ 63 ≤ l₁ - f₁ →
      l₁ - f₁ ≤ l₂ - f₂ → l₂ - f₂ < 2 ^ 63 →
      calculateNextWorkRequired bnAvg l₁ f₁ params h = some n₁ →
      calculateNextWorkRequired bnAvg l₂ f₂ params h = some n₂ →
      (setCompact n₁).target.toNat ≤ (setCompact n₂).target.toNat := by
  have hR := calculateNextWorkRequired_eq_retarget params bnAvg h hMin hMinW hWMax hmul hMax32 havg
  refine ⟨fun l f => ?_, fun l₁ f₁ l₂ f₂ n₁ n₂ hlo hspan hhi h₁ h₂ => ?_⟩
  · obtain ⟨n, hn, ht⟩ := hR l f
    obtain ⟨ha1, ha2⟩ := actualTimespan_mem params l f h (by omega)
    refine ⟨n, hn, ?_⟩
    rw [ht]
    exact ⟨retargetTarget_mono _ _ _ ha1, retargetTarget_mono _ _ _ ha2⟩
  · obtain ⟨m₁, hm₁, ht₁⟩ := hR l₁ f₁
    obtain ⟨m₂, hm₂, ht₂⟩ := hR l₂ f₂
    rw [h₁, Option.some.injEq] at hm₁
    rw [h₂, Option.some.injEq] at hm₂
    rw [hm₁, hm₂, ht₁, ht₂]
    have hW := params.averaging_int64 h
    unfold IsInt64 at hW
    exact retargetTarget_mono _ _ _ (actualTimespan_mono params h ⟨by omega, by omega⟩
      ⟨by omega, by omega⟩ ⟨by omega, by omega⟩ ⟨by omega, by omega⟩ hspan)

end Retarget

/-- Blocks exactly on schedule leave the dampened timespan at the averaging timespan. -/
theorem actualTimespan_on_schedule (params : Params) (t h : Int)
    (hMinW : params.minActualTimespan h ≤ params.averagingWindowTimespan h)
    (hWMax : params.averagingWindowTimespan h ≤ params.maxActualTimespan h) :
    actualTimespan params (t + params.averagingWindowTimespan h) t h =
      params.averagingWindowTimespan h := by
  have hW := wrapInt64_of_isInt64 (params.averaging_int64 h)
  have h0 : wrapInt64 0 = 0 := by decide
  simp only [actualTimespan, add_sub_cancel_left, hW, sub_self, h0, Int.zero_tdiv, add_zero]
  split_ifs <;> omega

/-- A clamp that a value already meets leaves it. -/
theorem clampToLimit_of_le {params : Params} {x : BitVec 256} (hx : x ≤ params.powLimit) :
    clampToLimit params x = x :=
  if_neg fun hlt => absurd (BitVec.lt_def.mp hlt) (not_lt.mpr (BitVec.le_def.mp hx))

/-- When the blocks of a window at one canonical word came exactly on schedule, the retarget
    keeps that word if and only if the averaging timespan divides its target: the division by
    the timespan drops the remainder before the multiplication restores the scale, and the
    encoding rounds down, so otherwise the target shrinks. -/
theorem calculateNextWorkRequired_on_schedule (params : Params) (h : Int) {nBits : UInt32}
    (hMin : 0 < params.minActualTimespan h)
    (hMinW : params.minActualTimespan h ≤ params.averagingWindowTimespan h)
    (hWMax : params.averagingWindowTimespan h ≤ params.maxActualTimespan h)
    (hmul : (params.powLimit.toNat : Int) / params.averagingWindowTimespan h *
      params.maxActualTimespan h < 2 ^ 256)
    (hMax32 : params.maxActualTimespan h < 2 ^ 32)
    (hcanon : Canonical nBits) (hT : (setCompact nBits).target ≤ params.powLimit) (t : Int) :
    calculateNextWorkRequired (setCompact nBits).target (t + params.averagingWindowTimespan h) t
        params h = some nBits ↔
      (params.averagingWindowTimespan h).toNat ∣ (setCompact nBits).target.toNat := by
  set T := (setCompact nBits).target
  set W := params.averagingWindowTimespan h
  set p := T / ofInt64 W * BitVec.ofNat 256 (W % 2 ^ 32).toNat
  have hprod : p.toNat = T.toNat / W.toNat * W.toNat :=
    retargetProduct_toNat params T h hMin hMinW hmul hMax32 hT ⟨hMinW, hWMax⟩
  have hpT : p.toNat ≤ T.toNat := hprod ▸ Nat.div_mul_le_self _ _
  have hpP : p ≤ params.powLimit := BitVec.le_def.mpr (le_trans hpT (BitVec.le_def.mp hT))
  rw [calculateNextWorkRequired_eq _ _ _ _ _ (lt_of_lt_of_le hMin hMinW),
    actualTimespan_on_schedule _ _ _ hMinW hWMax, Option.some.injEq, clampToLimit_of_le hpP]
  constructor
  · intro hn
    have hle : T.toNat ≤ T.toNat / W.toNat * W.toNat := by
      have := target_getCompact_le p
      rwa [hn, hprod] at this
    have hdiv := Nat.div_add_mod' T.toNat W.toNat
    exact Nat.dvd_of_mod_eq_zero (by omega)
  · intro hdvd
    rw [show p = T from BitVec.eq_of_toNat_eq (by rw [hprod, Nat.div_mul_cancel hdvd])]
    exact hcanon

theorem calculateNextWorkRequired_monotone_sample :
    0 < sampleParams.minActualTimespan 0 ∧
    sampleParams.minActualTimespan 0 ≤ sampleParams.averagingWindowTimespan 0 ∧
    sampleParams.averagingWindowTimespan 0 ≤ sampleParams.maxActualTimespan 0 ∧
    (sampleParams.powLimit.toNat : Int) / sampleParams.averagingWindowTimespan 0 *
      sampleParams.maxActualTimespan 0 < 2 ^ 256 ∧
    sampleParams.maxActualTimespan 0 < 2 ^ 32 ∧
    (1 <<< 200 : BitVec 256) ≤ sampleParams.powLimit ∧
    ((∀ nLastBlockTime nFirstBlockTime, ∃ nBits,
      calculateNextWorkRequired (1 <<< 200) nLastBlockTime nFirstBlockTime sampleParams 0 =
        some nBits ∧
      retargetTarget sampleParams (1 <<< 200) 0 (sampleParams.minActualTimespan 0) ≤
        (setCompact nBits).target.toNat ∧
      (setCompact nBits).target.toNat ≤
        retargetTarget sampleParams (1 <<< 200) 0 (sampleParams.maxActualTimespan 0)) ∧
    ∀ l₁ f₁ l₂ f₂ n₁ n₂, sampleParams.averagingWindowTimespan 0 - 2 ^ 63 ≤ l₁ - f₁ →
      l₁ - f₁ ≤ l₂ - f₂ → l₂ - f₂ < 2 ^ 63 →
      calculateNextWorkRequired (1 <<< 200) l₁ f₁ sampleParams 0 = some n₁ →
      calculateNextWorkRequired (1 <<< 200) l₂ f₂ sampleParams 0 = some n₂ →
      (setCompact n₁).target.toNat ≤ (setCompact n₂).target.toNat) :=
  have hMin : 0 < sampleParams.minActualTimespan 0 := by decide
  have hMinW : sampleParams.minActualTimespan 0 ≤ sampleParams.averagingWindowTimespan 0 := by
    decide
  have hWMax : sampleParams.averagingWindowTimespan 0 ≤ sampleParams.maxActualTimespan 0 := by
    decide
  have hmul : (sampleParams.powLimit.toNat : Int) / sampleParams.averagingWindowTimespan 0 *
      sampleParams.maxActualTimespan 0 < 2 ^ 256 := by
    simp only [sampleParams, BitVec.toNat_ofNat]; omega
  have hMax32 : sampleParams.maxActualTimespan 0 < 2 ^ 32 := by decide
  have havg : (1 <<< 200 : BitVec 256) ≤ sampleParams.powLimit := by decide
  ⟨hMin, hMinW, hWMax, hmul, hMax32, havg,
    calculateNextWorkRequired_monotone sampleParams (1 <<< 200) 0 hMin hMinW hWMax hmul hMax32
      havg⟩

/-- The band of `wideSpanParams` widened down to one second: it meets the bounds on the band
    and on `powLimit`, but its top, `2^32`, does not fit in 32 bits. -/
def wideBandParams : Params := { wideSpanParams with minActualTimespan := fun _ => 1 }

/-- A one-second window at the limit `2^240` with the band `[1, 2]`. -/
def unitSpanParams : Params :=
  { wideSpanParams with
    averagingWindowTimespan := fun _ => 1
    minActualTimespan := fun _ => 1
    maxActualTimespan := fun _ => 2
    averaging_int64 := fun _ => by simp only [IsInt64]; omega }

set_option maxRecDepth 4000 in
/-- Both parameter sets meet the band and limit bounds, and block times in `[0, 2^32)` break
    order and the lower bound `R(MinActualTimespan)`. Under `wideBandParams`, with the average
    `2^40`, the span `0` dampens to `3 * 2^30` and retargets to `3 * 2^38`, while the span
    `2^32 - 1` dampens to `2^32`, which `operator*=` reads as `0`. Under `unitSpanParams`, with
    the average `2^255` above the limit, the span `0` retargets to the clamp `2^240`, while the
    span `5` doubles the average and wraps to `0`. And under `sampleParams`, which meets every
    bound, `int64_t` times whose span passes `2^63` wrap: the span `2^63 - 1` gets the longest
    timespan, the span `2^63 + 2550` the shortest and so a harder target. -/
theorem calculateNextWorkRequired_not_monotone :
    (0 < wideBandParams.minActualTimespan 0 ∧
      wideBandParams.minActualTimespan 0 ≤ wideBandParams.averagingWindowTimespan 0 ∧
      wideBandParams.averagingWindowTimespan 0 ≤ wideBandParams.maxActualTimespan 0 ∧
      (wideBandParams.powLimit.toNat : Int) / wideBandParams.averagingWindowTimespan 0 *
        wideBandParams.maxActualTimespan 0 < 2 ^ 256 ∧
      (1 <<< 40 : BitVec 256) ≤ wideBandParams.powLimit ∧
      calculateNextWorkRequired (1 <<< 40) 0 0 wideBandParams 0 = some 0x0600c000 ∧
      (setCompact 0x0600c000).target.toNat = 3 * 2 ^ 38 ∧
      calculateNextWorkRequired (1 <<< 40) (2 ^ 32 - 1) 0 wideBandParams 0 = some 0 ∧
      (setCompact 0).target.toNat = 0 ∧
      retargetTarget wideBandParams (1 <<< 40) 0 (wideBandParams.minActualTimespan 0) = 2 ^ 8) ∧
    (0 < unitSpanParams.minActualTimespan 0 ∧
      unitSpanParams.minActualTimespan 0 ≤ unitSpanParams.averagingWindowTimespan 0 ∧
      unitSpanParams.averagingWindowTimespan 0 ≤ unitSpanParams.maxActualTimespan 0 ∧
      (unitSpanParams.powLimit.toNat : Int) / unitSpanParams.averagingWindowTimespan 0 *
        unitSpanParams.maxActualTimespan 0 < 2 ^ 256 ∧
      calculateNextWorkRequired (1 <<< 255) 0 0 unitSpanParams 0 = some 0x1f010000 ∧
      (setCompact 0x1f010000).target.toNat = 2 ^ 240 ∧
      calculateNextWorkRequired (1 <<< 255) 5 0 unitSpanParams 0 = some 0 ∧
      retargetTarget unitSpanParams (1 <<< 255) 0 (unitSpanParams.minActualTimespan 0) =
        2 ^ 240) ∧
    (actualTimespan sampleParams (2 ^ 62 - 1) (-2 ^ 62) 0 = sampleParams.maxActualTimespan 0 ∧
      actualTimespan sampleParams (2 ^ 62 + 2550) (-2 ^ 62) 0 =
        sampleParams.minActualTimespan 0 ∧
      calculateNextWorkRequired (1 <<< 200) (2 ^ 62 - 1) (-2 ^ 62) sampleParams 0 =
        some 0x1a0151eb ∧
      calculateNextWorkRequired (1 <<< 200) (2 ^ 62 + 2550) (-2 ^ 62) sampleParams 0 =
        some 0x1a00d70a ∧
      (setCompact 0x1a00d70a).target.toNat < (setCompact 0x1a0151eb).target.toNat) := by
  decide

end Pow

end Zclassic

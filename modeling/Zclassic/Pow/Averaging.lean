import Zclassic.Pow.Retarget
import Mathlib.Data.List.MinMax
import Mathlib.Algebra.Order.BigOperators.Group.List

/-!
# The Averaging Window

`GetNextWorkRequired` ends with a loop that walks `nPowAveragingWindow` blocks down from the
last one, adding their decoded targets into `bnTot`, and stops early if it falls off genesis.
Then, if the walk fell off the chain, it returns the limit; otherwise it divides the sum by the
window and retargets from that average.

`windowTotal_eq` says what the loop computes: the sum of the first `n` targets modulo `2^256`,
and the chain below them. So the averaged retarget needs `nPowAveragingWindow + 1` blocks. On a
chain of exactly the window's length the walk ends at genesis's `pprev`, and the limit comes
back (`averagedWork_short`). On a longer chain whose window sums below `2^256`, the retarget
starts from the floor of the mean of the window's targets, which lies between the window's
smallest and largest target, and reads the median time past of the block `nPowAveragingWindow`
below the last (`averagedWork_average`). With the window's blocks in range, the result lies
between `R` of a window target at `MinActualTimespan` and `R` of a window target at
`MaxActualTimespan`, where `R(a)` is the encoded `floor(T / W) * a` (`averagedWork_within_window`).

In the steady state the retarget is not the identity. When the window's blocks all carry one
canonical word and its median times past lie exactly one averaging timespan apart, the average is
that word's target and the dampened timespan is the averaging timespan `W`, so the retarget is
`floor(T / W) * W`, rounded down by the encoding. The word comes back exactly when `W` divides its
target (`getNextWorkRequired_steady`); otherwise blocks on time make the next one harder.

## Main definitions

* `windowTargets`: The decoded targets of the first blocks of a chain.

## Theorems

* `windowTotal_eq`: The loop sums the window's targets and walks past them.
* `averagedWork_short`: A chain no longer than the window gets the limit.
* `averagedWork_eq`: On a longer chain the branch retargets from the loop's total over the
  window.
* `averagedWork_average`: A longer chain is retargeted from its window's mean.
* `averagedWork_within_window`: A retarget lies within the band around the window's targets.
* `getNextWorkRequired_steady`: A steady window keeps its word only when the averaging timespan
  divides its target.
-/

namespace Zclassic

namespace Pow

/-- The decoded targets of the first `n` blocks of `chain`, from the last block down. -/
def windowTargets (n : Nat) (chain : List BlockIndex) : List Nat :=
  (chain.take n).map fun b => (setCompact b.nBits).target.toNat

/-- The averaging loop adds the targets of the first `n` blocks, wrapping at `2^256`, and
    leaves `pindexFirst` at the chain below them. -/
theorem windowTotal_eq : ∀ (n : Nat) (chain : List BlockIndex) (acc : BitVec 256),
    (windowTotal n chain acc).1.toNat = (acc.toNat + (windowTargets n chain).sum) % 2 ^ 256 ∧
      (windowTotal n chain acc).2 = chain.drop n
  | 0, chain, acc => by simp [windowTotal, windowTargets, Nat.mod_eq_of_lt acc.isLt]
  | _ + 1, [], acc => by simp [windowTotal, windowTargets, Nat.mod_eq_of_lt acc.isLt]
  | n + 1, b :: pprev, acc => by
    obtain ⟨htot, hfirst⟩ := windowTotal_eq n pprev (acc + (setCompact b.nBits).target)
    refine ⟨?_, hfirst⟩
    rw [windowTotal, htot, BitVec.toNat_add, Nat.mod_add_mod]
    simp only [windowTargets, List.take_succ_cons, List.map_cons, List.sum_cons, Nat.add_assoc]

/-- The floor of the mean of a nonempty list lies between its least and its greatest element. -/
theorem mean_mem_bounds {l : List Nat} (hl : 0 < l.length) :
    (∃ T ∈ l, T ≤ l.sum / l.length) ∧ ∃ T ∈ l, l.sum / l.length ≤ T := by
  refine ⟨⟨_, List.minimum_of_length_pos_mem hl, ?_⟩, ⟨_, List.maximum_of_length_pos_mem hl, ?_⟩⟩
  · rw [Nat.le_div_iff_mul_le hl, Nat.mul_comm, ← smul_eq_mul]
    exact List.card_nsmul_le_sum _ _ fun x hx => List.minimum_of_length_pos_le_of_mem hx hl
  · refine Nat.div_le_of_le_mul ?_
    rw [← smul_eq_mul]
    exact List.sum_le_card_nsmul _ _ fun x hx => List.le_maximum_of_length_pos_of_mem hx hl

/-- On a chain longer than the window, the averaged branch retargets from the loop's total
    divided by the window, comparing median times past with the block `nPowAveragingWindow`
    below the last. -/
theorem averagedWork_eq (params : Params) (medianTimePast : List BlockIndex → Int)
    (last : BlockIndex) (pprev : List BlockIndex)
    (hlong : params.nPowAveragingWindow.toNat ≤ pprev.length)
    (hpos : 0 < params.nPowAveragingWindow) :
    averagedWork params medianTimePast last pprev =
      calculateNextWorkRequired
        ((windowTotal params.nPowAveragingWindow.toNat (last :: pprev) 0).1 /
          ofInt64 params.nPowAveragingWindow)
        (medianTimePast (last :: pprev))
        (medianTimePast ((last :: pprev).drop params.nPowAveragingWindow.toNat)) params
        (last.nHeight + 1) := by
  have hfirst := (windowTotal_eq params.nPowAveragingWindow.toNat (last :: pprev) 0).2
  have hne : (last :: pprev).drop params.nPowAveragingWindow.toNat ≠ [] := by
    simp only [ne_eq, List.drop_eq_nil_iff, List.length_cons]
    omega
  have hdiv := ofInt64_ne_zero params.window_int64 (by omega)
  unfold averagedWork
  rcases hw : windowTotal params.nPowAveragingWindow.toNat (last :: pprev) 0 with ⟨bnTot, first⟩
  rw [hw] at hfirst
  subst hfirst
  match hd : (last :: pprev).drop params.nPowAveragingWindow.toNat, hne with
  | _ :: _, _ => simp only [divArith_of_ne hdiv]; rfl

/-- When the window's targets sum below `2^256`, the loop's total over the window is the floor
    of their mean. -/
theorem windowAverage_toNat (params : Params) (chain : List BlockIndex)
    (hpos : 0 < params.nPowAveragingWindow)
    (hsum : (windowTargets params.nPowAveragingWindow.toNat chain).sum < 2 ^ 256) :
    ((windowTotal params.nPowAveragingWindow.toNat chain 0).1 /
        ofInt64 params.nPowAveragingWindow).toNat =
      (windowTargets params.nPowAveragingWindow.toNat chain).sum /
        params.nPowAveragingWindow.toNat := by
  have htot := (windowTotal_eq params.nPowAveragingWindow.toNat chain 0).1
  generalize windowTotal params.nPowAveragingWindow.toNat chain 0 = r at htot
  simp only [BitVec.ofNat_eq_ofNat, BitVec.toNat_ofNat, Nat.zero_mod, Nat.zero_add,
    Nat.mod_eq_of_lt hsum] at htot
  rw [BitVec.toNat_udiv, ofInt64_toNat params.window_int64 hpos.le, htot]

/-- A chain of at most `nPowAveragingWindow` blocks, genesis included, gets the limit: the walk
    falls off genesis before the window is full. -/
theorem averagedWork_short (params : Params) (medianTimePast : List BlockIndex → Int)
    (last : BlockIndex) (pprev : List BlockIndex)
    (hshort : pprev.length < params.nPowAveragingWindow.toNat) :
    averagedWork params medianTimePast last pprev = some (getCompact params.powLimit) := by
  have hfirst := (windowTotal_eq params.nPowAveragingWindow.toNat (last :: pprev) 0).2
  rw [List.drop_eq_nil_of_le (by simp only [List.length_cons]; omega)] at hfirst
  unfold averagedWork
  rcases hw : windowTotal params.nPowAveragingWindow.toNat (last :: pprev) 0 with ⟨bnTot, first⟩
  rw [hw] at hfirst
  cases hfirst
  rfl

/-- Under `sampleParams`'s 17-block window, a chain of seventeen blocks gets the limit. -/
theorem averagedWork_short_seventeen :
    (List.replicate 16 flatBlock).length < sampleParams.nPowAveragingWindow.toNat ∧
    averagedWork sampleParams (fun _ => 0) flatBlock (List.replicate 16 flatBlock) =
      some (getCompact sampleParams.powLimit) :=
  ⟨by decide, averagedWork_short sampleParams _ _ _ (by decide)⟩

/-- On a chain longer than the window, if the window's targets sum below `2^256`, the averaged
    retarget starts from the floor of their mean, which lies between the window's least and
    greatest target, and compares median times past with the block `nPowAveragingWindow`
    below the last. -/
theorem averagedWork_average (params : Params) (medianTimePast : List BlockIndex → Int)
    (last : BlockIndex) (pprev : List BlockIndex)
    (hlong : params.nPowAveragingWindow.toNat ≤ pprev.length)
    (hpos : 0 < params.nPowAveragingWindow)
    (hsum : (windowTargets params.nPowAveragingWindow.toNat (last :: pprev)).sum < 2 ^ 256) :
    ∃ bnAvg : BitVec 256,
      bnAvg.toNat = (windowTargets params.nPowAveragingWindow.toNat (last :: pprev)).sum /
        params.nPowAveragingWindow.toNat ∧
      (∃ T ∈ windowTargets params.nPowAveragingWindow.toNat (last :: pprev), T ≤ bnAvg.toNat) ∧
      (∃ T ∈ windowTargets params.nPowAveragingWindow.toNat (last :: pprev), bnAvg.toNat ≤ T) ∧
      averagedWork params medianTimePast last pprev =
        calculateNextWorkRequired bnAvg (medianTimePast (last :: pprev))
          (medianTimePast ((last :: pprev).drop params.nPowAveragingWindow.toNat)) params
          (last.nHeight + 1) := by
  have hlen : (windowTargets params.nPowAveragingWindow.toNat (last :: pprev)).length =
      params.nPowAveragingWindow.toNat := by
    simp only [windowTargets, List.length_map, List.length_take, List.length_cons]
    omega
  have havg := windowAverage_toNat params (last :: pprev) hpos hsum
  have hmean := mean_mem_bounds
    (show 0 < (windowTargets params.nPowAveragingWindow.toNat (last :: pprev)).length by omega)
  rw [hlen, ← havg] at hmean
  exact ⟨_, havg, hmean.1, hmean.2, averagedWork_eq params medianTimePast last pprev hlong hpos⟩

/-- Under `sampleParams`, a chain of eighteen blocks at one word is retargeted from that word's
    target. -/
theorem averagedWork_average_eighteen :
    sampleParams.nPowAveragingWindow.toNat ≤ (List.replicate 17 flatBlock).length ∧
    0 < sampleParams.nPowAveragingWindow ∧
    (windowTargets sampleParams.nPowAveragingWindow.toNat
      (flatBlock :: List.replicate 17 flatBlock)).sum < 2 ^ 256 ∧
    ∃ bnAvg : BitVec 256,
      bnAvg.toNat = (windowTargets sampleParams.nPowAveragingWindow.toNat
        (flatBlock :: List.replicate 17 flatBlock)).sum / sampleParams.nPowAveragingWindow.toNat ∧
      (∃ T ∈ windowTargets sampleParams.nPowAveragingWindow.toNat
        (flatBlock :: List.replicate 17 flatBlock), T ≤ bnAvg.toNat) ∧
      (∃ T ∈ windowTargets sampleParams.nPowAveragingWindow.toNat
        (flatBlock :: List.replicate 17 flatBlock), bnAvg.toNat ≤ T) ∧
      averagedWork sampleParams (fun _ => 0) flatBlock (List.replicate 17 flatBlock) =
        calculateNextWorkRequired bnAvg 0 0 sampleParams (flatBlock.nHeight + 1) :=
  ⟨by decide, by decide, by decide,
    averagedWork_average sampleParams (fun _ => 0) flatBlock _ (by decide) (by decide) (by decide)⟩

/-- The bound on the window times `powLimit`, in the natural numbers the sums live in. -/
theorem window_mul_powLimit_lt {params : Params} (hpos : 0 < params.nPowAveragingWindow)
    (hsum : params.nPowAveragingWindow * params.powLimit.toNat < 2 ^ 256) :
    params.nPowAveragingWindow.toNat * params.powLimit.toNat < 2 ^ 256 := by
  have hNw : (params.nPowAveragingWindow.toNat : Int) = params.nPowAveragingWindow :=
    Int.toNat_of_nonneg hpos.le
  have : ((params.nPowAveragingWindow.toNat * params.powLimit.toNat : Nat) : Int) < 2 ^ 256 := by
    rw [Nat.cast_mul, hNw]
    exact hsum
  omega

/-- A window of blocks at one word decodes to that word's target, once per block. -/
theorem windowTargets_of_word {n : Nat} {chain : List BlockIndex} {nBits : UInt32}
    (hlong : n ≤ chain.length) (hwin : ∀ b ∈ chain.take n, b.nBits = nBits) :
    windowTargets n chain = List.replicate n (setCompact nBits).target.toNat := by
  refine List.eq_replicate_iff.mpr ⟨by simp [windowTargets, hlong], fun x hx => ?_⟩
  obtain ⟨b, hb, rfl⟩ := List.mem_map.mp hx
  rw [hwin b hb]

/-- In the steady state, where the window's blocks all carry one canonical word and the median
    times past at its two ends lie exactly one averaging timespan apart, and neither an emergency
    tier nor the minimum-difficulty rule applies, `GetNextWorkRequired` returns that word again
    exactly when the averaging timespan divides its target. Otherwise blocks on time make the
    next target smaller. -/
theorem getNextWorkRequired_steady (params : Params) (medianTimePast : List BlockIndex → Int)
    (last : BlockIndex) (pprev : List BlockIndex) (pblock : Option BlockHeader) {nBits : UInt32}
    (hMin : 0 < params.minActualTimespan (last.nHeight + 1))
    (hMinW : params.minActualTimespan (last.nHeight + 1) ≤
      params.averagingWindowTimespan (last.nHeight + 1))
    (hWMax : params.averagingWindowTimespan (last.nHeight + 1) ≤
      params.maxActualTimespan (last.nHeight + 1))
    (hmul : (params.powLimit.toNat : Int) / params.averagingWindowTimespan (last.nHeight + 1) *
      params.maxActualTimespan (last.nHeight + 1) < 2 ^ 256)
    (hMax32 : params.maxActualTimespan (last.nHeight + 1) < 2 ^ 32)
    (hsum : params.nPowAveragingWindow * params.powLimit.toNat < 2 ^ 256)
    (hlong : params.nPowAveragingWindow.toNat ≤ pprev.length)
    (hpos : 0 < params.nPowAveragingWindow)
    (hcanon : Canonical nBits) (hT : (setCompact nBits).target ≤ params.powLimit)
    (hwin : ∀ b ∈ (last :: pprev).take params.nPowAveragingWindow.toNat, b.nBits = nBits)
    (hmtp : medianTimePast (last :: pprev) =
      medianTimePast ((last :: pprev).drop params.nPowAveragingWindow.toNat) +
        params.averagingWindowTimespan (last.nHeight + 1))
    (hu : upgradeForkWork params last pblock = none)
    (hmin : minDifficultyApplies params last pblock = false) :
    getNextWorkRequired params medianTimePast (last :: pprev) pblock = some nBits ↔
      (params.averagingWindowTimespan (last.nHeight + 1)).toNat ∣
        (setCompact nBits).target.toNat := by
  set N := params.nPowAveragingWindow.toNat with hN
  set T := (setCompact nBits).target
  have hwt := windowTargets_of_word (by simp only [List.length_cons]; omega) hwin
  have hNT : N * T.toNat < 2 ^ 256 := lt_of_le_of_lt
    (Nat.mul_le_mul_left N (BitVec.le_def.mp hT)) (window_mul_powLimit_lt hpos hsum)
  have havg : (windowTotal N (last :: pprev) 0).1 / ofInt64 params.nPowAveragingWindow = T := by
    apply BitVec.eq_of_toNat_eq
    rw [windowAverage_toNat params _ hpos (by rwa [hwt, List.sum_replicate, smul_eq_mul]), hwt,
      List.sum_replicate, smul_eq_mul, Nat.mul_div_cancel_left _ (by omega)]
  simp only [getNextWorkRequired, hu, hmin, Bool.false_eq_true, if_false]
  rw [averagedWork_eq params medianTimePast last pprev hlong hpos, ← hN, havg, hmtp]
  exact calculateNextWorkRequired_on_schedule params _ hMin hMinW hWMax hmul hMax32 hcanon hT _

/-- On a chain longer than the window whose window blocks pass the range check, the averaged
    retarget lies between `R` of some window target at `MinActualTimespan` and `R` of some window
    target at `MaxActualTimespan`: one retarget moves the target past the window's extremes by
    at most the band. -/
theorem averagedWork_within_window (params : Params) (medianTimePast : List BlockIndex → Int)
    (last : BlockIndex) (pprev : List BlockIndex)
    (hMin : 0 < params.minActualTimespan (last.nHeight + 1))
    (hMinW : params.minActualTimespan (last.nHeight + 1) ≤
      params.averagingWindowTimespan (last.nHeight + 1))
    (hWMax : params.averagingWindowTimespan (last.nHeight + 1) ≤
      params.maxActualTimespan (last.nHeight + 1))
    (hmul : (params.powLimit.toNat : Int) / params.averagingWindowTimespan (last.nHeight + 1) *
      params.maxActualTimespan (last.nHeight + 1) < 2 ^ 256)
    (hMax32 : params.maxActualTimespan (last.nHeight + 1) < 2 ^ 32)
    (hsum : params.nPowAveragingWindow * params.powLimit.toNat < 2 ^ 256)
    (hlong : params.nPowAveragingWindow.toNat ≤ pprev.length)
    (hpos : 0 < params.nPowAveragingWindow)
    (hwin : ∀ b ∈ (last :: pprev).take params.nPowAveragingWindow.toNat,
      targetInRange params b.nBits = true) :
    ∃ nBits, averagedWork params medianTimePast last pprev = some nBits ∧
      (∃ T ∈ windowTargets params.nPowAveragingWindow.toNat (last :: pprev),
        retargetTarget params (BitVec.ofNat 256 T) (last.nHeight + 1)
          (params.minActualTimespan (last.nHeight + 1)) ≤ (setCompact nBits).target.toNat) ∧
      (∃ T ∈ windowTargets params.nPowAveragingWindow.toNat (last :: pprev),
        (setCompact nBits).target.toNat ≤ retargetTarget params (BitVec.ofNat 256 T)
          (last.nHeight + 1) (params.maxActualTimespan (last.nHeight + 1))) := by
  set N := params.nPowAveragingWindow.toNat with hN
  set nh := last.nHeight + 1
  set w := windowTargets N (last :: pprev)
  have hlen : w.length = N := by
    simp only [w, windowTargets, List.length_map, List.length_take, List.length_cons]
    omega
  -- Every window target is at most `powLimit`, so the window sums without wrapping.
  have hle : ∀ T ∈ w, T ≤ params.powLimit.toNat := by
    intro T hT
    obtain ⟨b, hb, rfl⟩ := List.mem_map.mp hT
    exact BitVec.le_def.mp (target_le_of_targetInRange (hwin b hb))
  have hofNat : ∀ T ∈ w, (BitVec.ofNat 256 T).toNat = T := fun T hT => by
    rw [BitVec.toNat_ofNat, Nat.mod_eq_of_lt (lt_of_le_of_lt (hle T hT) params.powLimit.isLt)]
  have hwsum : w.sum < 2 ^ 256 := by
    have := List.sum_le_card_nsmul _ _ hle
    rw [hlen, smul_eq_mul] at this
    exact lt_of_le_of_lt this (window_mul_powLimit_lt hpos hsum)
  -- The average lies between two window targets, and the retarget between `R` of it at the
  -- band's ends.
  set bnAvg := (windowTotal N (last :: pprev) 0).1 / ofInt64 params.nPowAveragingWindow
  have havg : bnAvg.toNat = w.sum / N := windowAverage_toNat params _ hpos hwsum
  obtain ⟨⟨T₁, hT₁, h₁⟩, ⟨T₂, hT₂, h₂⟩⟩ := mean_mem_bounds (show 0 < w.length by omega)
  rw [hlen, ← havg] at h₁ h₂
  set a := actualTimespan params (medianTimePast (last :: pprev))
    (medianTimePast ((last :: pprev).drop N)) nh
  obtain ⟨ha₁, ha₂⟩ := actualTimespan_mem params (medianTimePast (last :: pprev))
    (medianTimePast ((last :: pprev).drop N)) nh (hMinW.trans hWMax)
  obtain ⟨n, hn, ht⟩ := calculateNextWorkRequired_eq_retarget params bnAvg nh hMin hMinW hWMax
    hmul hMax32 (BitVec.le_def.mpr (h₂.trans (hle T₂ hT₂))) (medianTimePast (last :: pprev))
    (medianTimePast ((last :: pprev).drop N))
  refine ⟨n, (averagedWork_eq params medianTimePast last pprev hlong hpos).trans hn,
    ⟨T₁, hT₁, ?_⟩, ⟨T₂, hT₂, ?_⟩⟩
  · calc retargetTarget params (BitVec.ofNat 256 T₁) nh (params.minActualTimespan nh)
        ≤ retargetTarget params bnAvg nh (params.minActualTimespan nh) :=
          retargetTarget_mono_avg params nh _ ((hofNat T₁ hT₁).trans_le h₁)
      _ ≤ retargetTarget params bnAvg nh a := retargetTarget_mono params bnAvg nh ha₁
      _ = (setCompact n).target.toNat := ht.symm
  · calc (setCompact n).target.toNat = retargetTarget params bnAvg nh a := ht
      _ ≤ retargetTarget params bnAvg nh (params.maxActualTimespan nh) :=
          retargetTarget_mono params bnAvg nh ha₂
      _ ≤ retargetTarget params (BitVec.ofNat 256 T₂) nh (params.maxActualTimespan nh) :=
          retargetTarget_mono_avg params nh _ (h₂.trans_eq (hofNat T₂ hT₂).symm)

/-- Under `sampleParams`, eighteen blocks at `0x1d00ffff`, at any median times past. -/
theorem averagedWork_within_window_flat :
    0 < sampleParams.minActualTimespan 1 ∧
    sampleParams.minActualTimespan 1 ≤ sampleParams.averagingWindowTimespan 1 ∧
    sampleParams.averagingWindowTimespan 1 ≤ sampleParams.maxActualTimespan 1 ∧
    (sampleParams.powLimit.toNat : Int) / sampleParams.averagingWindowTimespan 1 *
      sampleParams.maxActualTimespan 1 < 2 ^ 256 ∧
    sampleParams.maxActualTimespan 1 < 2 ^ 32 ∧
    sampleParams.nPowAveragingWindow * sampleParams.powLimit.toNat < 2 ^ 256 ∧
    sampleParams.nPowAveragingWindow.toNat ≤ (List.replicate 17 flatBlock).length ∧
    0 < sampleParams.nPowAveragingWindow ∧
    (∀ b ∈ (flatBlock :: List.replicate 17 flatBlock).take sampleParams.nPowAveragingWindow.toNat,
      targetInRange sampleParams b.nBits = true) ∧
    ∃ nBits, averagedWork sampleParams (fun _ => 0) flatBlock (List.replicate 17 flatBlock) =
        some nBits ∧
      (∃ T ∈ windowTargets sampleParams.nPowAveragingWindow.toNat
          (flatBlock :: List.replicate 17 flatBlock),
        retargetTarget sampleParams (BitVec.ofNat 256 T) (flatBlock.nHeight + 1)
          (sampleParams.minActualTimespan (flatBlock.nHeight + 1)) ≤
          (setCompact nBits).target.toNat) ∧
      (∃ T ∈ windowTargets sampleParams.nPowAveragingWindow.toNat
          (flatBlock :: List.replicate 17 flatBlock),
        (setCompact nBits).target.toNat ≤ retargetTarget sampleParams (BitVec.ofNat 256 T)
          (flatBlock.nHeight + 1) (sampleParams.maxActualTimespan (flatBlock.nHeight + 1))) :=
  have hMin : 0 < sampleParams.minActualTimespan 1 := by decide
  have hMinW : sampleParams.minActualTimespan 1 ≤ sampleParams.averagingWindowTimespan 1 := by
    decide
  have hWMax : sampleParams.averagingWindowTimespan 1 ≤ sampleParams.maxActualTimespan 1 := by
    decide
  have hmul : (sampleParams.powLimit.toNat : Int) / sampleParams.averagingWindowTimespan 1 *
      sampleParams.maxActualTimespan 1 < 2 ^ 256 := by
    simp only [sampleParams, BitVec.toNat_ofNat]; omega
  have hMax32 : sampleParams.maxActualTimespan 1 < 2 ^ 32 := by decide
  have hsum : sampleParams.nPowAveragingWindow * sampleParams.powLimit.toNat < 2 ^ 256 := by
    simp only [sampleParams, BitVec.toNat_ofNat]; omega
  have hlong : sampleParams.nPowAveragingWindow.toNat ≤ (List.replicate 17 flatBlock).length := by
    decide
  have hpos : 0 < sampleParams.nPowAveragingWindow := by decide
  have hwin : ∀ b ∈ (flatBlock :: List.replicate 17 flatBlock).take
      sampleParams.nPowAveragingWindow.toNat, targetInRange sampleParams b.nBits = true := by
    decide
  ⟨hMin, hMinW, hWMax, hmul, hMax32, hsum, hlong, hpos, hwin,
    averagedWork_within_window sampleParams (fun _ => 0) flatBlock _ hMin hMinW hWMax hmul hMax32
      hsum hlong hpos hwin⟩

/-- Under `sampleParams`, eighteen blocks at `0x1d00ffff` whose median times past advance 150
    seconds a block do not keep the word: `2550` does not divide `0xffff * 2^208`. -/
theorem getNextWorkRequired_steady_flat :
    let chain := flatBlock :: List.replicate 17 flatBlock
    let mtp : List BlockIndex → Int := fun c => 150 * c.length
    0 < sampleParams.minActualTimespan 1 ∧
    sampleParams.minActualTimespan 1 ≤ sampleParams.averagingWindowTimespan 1 ∧
    sampleParams.averagingWindowTimespan 1 ≤ sampleParams.maxActualTimespan 1 ∧
    (sampleParams.powLimit.toNat : Int) / sampleParams.averagingWindowTimespan 1 *
      sampleParams.maxActualTimespan 1 < 2 ^ 256 ∧
    sampleParams.maxActualTimespan 1 < 2 ^ 32 ∧
    sampleParams.nPowAveragingWindow * sampleParams.powLimit.toNat < 2 ^ 256 ∧
    sampleParams.nPowAveragingWindow.toNat ≤ (List.replicate 17 flatBlock).length ∧
    0 < sampleParams.nPowAveragingWindow ∧
    Canonical 0x1d00ffff ∧ (setCompact 0x1d00ffff).target ≤ sampleParams.powLimit ∧
    (∀ b ∈ chain.take sampleParams.nPowAveragingWindow.toNat, b.nBits = 0x1d00ffff) ∧
    mtp chain = mtp (chain.drop sampleParams.nPowAveragingWindow.toNat) +
      sampleParams.averagingWindowTimespan 1 ∧
    upgradeForkWork sampleParams flatBlock none = none ∧
    minDifficultyApplies sampleParams flatBlock none = false ∧
    (getNextWorkRequired sampleParams mtp chain none = some 0x1d00ffff ↔
      (sampleParams.averagingWindowTimespan 1).toNat ∣ (setCompact 0x1d00ffff).target.toNat) ∧
    ¬(sampleParams.averagingWindowTimespan 1).toNat ∣ (setCompact 0x1d00ffff).target.toNat :=
  have hMin : 0 < sampleParams.minActualTimespan 1 := by decide
  have hMinW : sampleParams.minActualTimespan 1 ≤ sampleParams.averagingWindowTimespan 1 := by
    decide
  have hWMax : sampleParams.averagingWindowTimespan 1 ≤ sampleParams.maxActualTimespan 1 := by
    decide
  have hmul : (sampleParams.powLimit.toNat : Int) / sampleParams.averagingWindowTimespan 1 *
      sampleParams.maxActualTimespan 1 < 2 ^ 256 := by
    simp only [sampleParams, BitVec.toNat_ofNat]; omega
  have hMax32 : sampleParams.maxActualTimespan 1 < 2 ^ 32 := by decide
  have hsum : sampleParams.nPowAveragingWindow * sampleParams.powLimit.toNat < 2 ^ 256 := by
    simp only [sampleParams, BitVec.toNat_ofNat]; omega
  have hlong : sampleParams.nPowAveragingWindow.toNat ≤ (List.replicate 17 flatBlock).length := by
    decide
  have hpos : 0 < sampleParams.nPowAveragingWindow := by decide
  have hcanon : Canonical 0x1d00ffff := by decide
  have hT : (setCompact 0x1d00ffff).target ≤ sampleParams.powLimit := by decide
  have hwin : ∀ b ∈ (flatBlock :: List.replicate 17 flatBlock).take
      sampleParams.nPowAveragingWindow.toNat, b.nBits = 0x1d00ffff := by decide
  have hmtp : (150 * (flatBlock :: List.replicate 17 flatBlock).length : Int) =
      150 * ((flatBlock :: List.replicate 17 flatBlock).drop
        sampleParams.nPowAveragingWindow.toNat).length + sampleParams.averagingWindowTimespan 1 := by
    decide
  have hu : upgradeForkWork sampleParams flatBlock none = none := by decide
  have hmin : minDifficultyApplies sampleParams flatBlock none = false := by decide
  ⟨hMin, hMinW, hWMax, hmul, hMax32, hsum, hlong, hpos, hcanon, hT, hwin, hmtp, hu, hmin,
    getNextWorkRequired_steady sampleParams (fun c => 150 * c.length) flatBlock _ none hMin hMinW
      hWMax hmul hMax32 hsum hlong hpos hcanon hT hwin hmtp hu hmin,
    by decide⟩

end Pow

end Zclassic

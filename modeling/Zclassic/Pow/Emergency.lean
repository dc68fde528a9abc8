import Zclassic.Pow.Difficulty

/-!
# The Emergency Tiers

For the first `nPowAveragingWindow` blocks after an upgrade fork, `GetNextWorkRequired` lets a
late header through at a fixed difficulty taken from the limit alone. A header more than twelve
spacings after the last block gets the limit itself. One more than six spacings after gets the
limit made 128 times harder, and one more than two spacings after gets it 256 times harder
(`IncreaseDifficultyBy`). A header closer than that falls through to the rest of the rule.

`emergencyTier` names the tier a header falls in and `tierWork` the `nBits` of each tier
(`upgradeForkWork_tier`). The tiers order their targets (`target_tierWork_mono`), and a later
header never falls in a lower tier (`emergencyTier_mono`), whatever the sign of the spacing. So,
among headers more than two spacings late, a later header never meets a harder target
(`getNextWorkRequired_later_easier`). The monotony stops at the bottom tier: a header less
than two spacings late gets the averaged retarget, which can be easier than the third tier.

## Main definitions

* `emergencyTier`: The tier of the emergency block a header falls in.
* `tierWork`: The `nBits` of each tier.

## Theorems

* `upgradeForkWork_tier`: Inside the window each tier returns its `nBits`.
* `target_tierWork_mono`: Higher tiers have larger targets.
* `emergencyTier_mono`: Later headers fall in higher tiers.
* `getNextWorkRequired_later_easier`: A later header never gets a harder emergency target.
-/

namespace Zclassic

namespace Pow

/-- The tier of the emergency block a header falls in: `3` more than twelve spacings after the
    last block, `2` more than six, `1` more than two, and `0` otherwise. -/
def emergencyTier (pblock : Option BlockHeader) (last : BlockIndex) (spacing : Int) : Nat :=
  if blockLate pblock last spacing 12 then 3
  else if blockLate pblock last spacing 6 then 2
  else if blockLate pblock last spacing 2 then 1
  else 0

/-- The `nBits` of each tier: the limit, and the decoded limit divided by 128 and by 256 and
    clamped, as `IncreaseDifficultyBy` computes them. -/
def tierWork (params : Params) : Nat → UInt32
  | 3 => getCompact params.powLimit
  | 2 => getCompact (clampToLimit params
      ((setCompact (getCompact params.powLimit)).target / ofInt64 128))
  | _ => getCompact (clampToLimit params
      ((setCompact (getCompact params.powLimit)).target / ofInt64 256))

/-- Inside an upgrade window, a header in a tier gets that tier's `nBits`, and one in no tier
    falls through. -/
theorem upgradeForkWork_tier (params : Params) (last : BlockIndex) (pblock : Option BlockHeader)
    (hwin : inUpgradeWindow params (last.nHeight + 1) = true) :
    upgradeForkWork params last pblock =
      if emergencyTier pblock last (params.powTargetSpacing (last.nHeight + 1)) = 0 then none
      else some (some (tierWork params
        (emergencyTier pblock last (params.powTargetSpacing (last.nHeight + 1))))) := by
  have h128 := increaseDifficultyBy_eq params (getCompact params.powLimit)
    (show IsInt64 128 by unfold IsInt64; omega) (by decide)
  have h256 := increaseDifficultyBy_eq params (getCompact params.powLimit)
    (show IsInt64 256 by unfold IsInt64; omega) (by decide)
  simp only [upgradeForkWork, hwin, if_true, emergencyTier]
  split_ifs <;> first | contradiction | (rw [h128]; rfl) | (rw [h256]; rfl) | rfl

theorem ofInt64_toNat_of_lt {v : Nat} (hv : v < 2 ^ 63) : (ofInt64 v).toNat = v := by
  rw [ofInt64_toNat (by unfold IsInt64; omega) (by omega)]
  rfl

/-- Dividing the decoded limit by less gives a larger tier target, and every tier target is at
    most the limit's own. -/
theorem target_tierWork_mono (params : Params) {i j : Nat} (hi : 1 ≤ i) (hij : i ≤ j)
    (hj : j ≤ 3) :
    (setCompact (tierWork params i)).target.toNat ≤
      (setCompact (tierWork params j)).target.toNat := by
  set L := (setCompact (getCompact params.powLimit)).target with hL
  have h256 : (clampToLimit params (L / ofInt64 256)).toNat ≤
      (clampToLimit params (L / ofInt64 128)).toNat := by
    simp only [clampToLimit_toNat, BitVec.toNat_udiv, ofInt64_toNat_of_lt (show 256 < 2 ^ 63 by
      decide), ofInt64_toNat_of_lt (show 128 < 2 ^ 63 by decide)]
    exact min_le_min_left _ (Nat.div_le_div_left (by decide) (by decide))
  have h128 : (clampToLimit params (L / ofInt64 128)).toNat ≤ params.powLimit.toNat :=
    (BitVec.le_def.mp (clampToLimit_le params _))
  have step₁ : (setCompact (tierWork params 1)).target.toNat ≤
      (setCompact (tierWork params 2)).target.toNat := target_getCompact_mono h256
  have step₂ : (setCompact (tierWork params 2)).target.toNat ≤
      (setCompact (tierWork params 3)).target.toNat := target_getCompact_mono h128
  obtain rfl | rfl | rfl : i = 1 ∨ i = 2 ∨ i = 3 := by omega
  all_goals obtain rfl | rfl | rfl : j = 1 ∨ j = 2 ∨ j = 3 := by omega
  all_goals omega

/-- A header no earlier than another falls in a tier no lower: each tier's test is passed by
    every later header, whatever the sign of the spacing. -/
theorem emergencyTier_mono {last : BlockIndex} {spacing : Int} {b₁ b₂ : BlockHeader}
    (htime : b₁.getBlockTime ≤ b₂.getBlockTime) :
    emergencyTier (some b₁) last spacing ≤ emergencyTier (some b₂) last spacing := by
  simp only [emergencyTier, blockLate, decide_eq_true_eq]
  split_ifs <;> omega

/-- Inside an upgrade window, among headers more than two spacings after the last block, a
    later header never gets a harder target: the `nBits` it must carry decodes to a target at
    least as large. -/
theorem getNextWorkRequired_later_easier (params : Params) (medianTimePast : List BlockIndex → Int)
    (last : BlockIndex) (pprev : List BlockIndex) (b₁ b₂ : BlockHeader)
    (hwin : inUpgradeWindow params (last.nHeight + 1) = true)
    (hlate : blockLate (some b₁) last (params.powTargetSpacing (last.nHeight + 1)) 2 = true)
    (htime : b₁.getBlockTime ≤ b₂.getBlockTime) :
    ∃ r₁ r₂, getNextWorkRequired params medianTimePast (last :: pprev) (some b₁) = some r₁ ∧
      getNextWorkRequired params medianTimePast (last :: pprev) (some b₂) = some r₂ ∧
      (setCompact r₁).target.toNat ≤ (setCompact r₂).target.toNat := by
  have hmono := @emergencyTier_mono last (params.powTargetSpacing (last.nHeight + 1)) _ _ htime
  have h₁ : 1 ≤ emergencyTier (some b₁) last (params.powTargetSpacing (last.nHeight + 1)) := by
    simp only [emergencyTier, hlate]
    split_ifs <;> omega
  have h₃ : emergencyTier (some b₂) last (params.powTargetSpacing (last.nHeight + 1)) ≤ 3 := by
    simp only [emergencyTier]
    split_ifs <;> omega
  have hne₁ : emergencyTier (some b₁) last (params.powTargetSpacing (last.nHeight + 1)) ≠ 0 := by
    omega
  have hne₂ : emergencyTier (some b₂) last (params.powTargetSpacing (last.nHeight + 1)) ≠ 0 := by
    omega
  refine ⟨_, _, ?_, ?_, target_tierWork_mono params h₁ hmono h₃⟩
  · simp only [getNextWorkRequired, upgradeForkWork_tier params last _ hwin, if_neg hne₁]
  · simp only [getNextWorkRequired, upgradeForkWork_tier params last _ hwin, if_neg hne₂]

/-- The first block of the BUTTERCUP window under `sampleParams`, after a block at time `0`. -/
def buttercupLast : BlockIndex := ⟨706999, 0, 0⟩

theorem getNextWorkRequired_later_easier_buttercup :
    inUpgradeWindow sampleParams (buttercupLast.nHeight + 1) = true ∧
    blockLate (some ⟨400, 707000, 0⟩) buttercupLast
      (sampleParams.powTargetSpacing (buttercupLast.nHeight + 1)) 2 = true ∧
    BlockHeader.getBlockTime ⟨400, 707000, 0⟩ ≤ BlockHeader.getBlockTime ⟨1000, 707000, 0⟩ ∧
    ∃ r₁ r₂, getNextWorkRequired sampleParams (fun _ => 0) [buttercupLast]
        (some ⟨400, 707000, 0⟩) = some r₁ ∧
      getNextWorkRequired sampleParams (fun _ => 0) [buttercupLast]
        (some ⟨1000, 707000, 0⟩) = some r₂ ∧
      (setCompact r₁).target.toNat ≤ (setCompact r₂).target.toNat :=
  ⟨by decide, by decide, by decide,
    getNextWorkRequired_later_easier sampleParams (fun _ => 0) buttercupLast [] _ _
      (by decide) (by decide) (by decide)⟩

end Pow

end Zclassic

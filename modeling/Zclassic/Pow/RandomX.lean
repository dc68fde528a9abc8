import Zclassic.Pow.Difficulty

/-!
# The RandomX Check and Its Key

`CheckRandomXProofOfWork` hashes a header's RandomX blob with a VM whose cache was initialised
from a key block, then compares the hash with the target of `nBits`. The key comes from
`GetKeyBlock`, which keeps its answer in a function-static `current_key_block`, and the cache
and its VMs live in module statics that `InitRandomXLightCache`, `KeyBlockChanged`,
`CheckIfKeyShouldChange` and `DeallocateRandomXLightCache` move between keys.

Two details of the C++ decide what the check means. The hash is a `char[32]` that the code
passes to `uint256S`, which parses a C string of hexadecimal digits: the RandomX output bytes
are read as text, and a hash whose first byte is neither a digit nor whitespace parses to zero
(`uint256S_of_not_digit`). And `GetKeyBlock` indexes the node's active chain, not the block's
ancestry, and falls back to the static when the active tip is not above the key height
(`getKeyBlock_eq`), so the key, and the verdict, can depend on what earlier calls left there.

The module statics are `RandomXState`, and the state a node can be in is `Reachable`: any
sequence of the module's entry points, each on the active chain of its time. In every reachable
state the live cache is the one `fLightCacheInited` and `key_block` describe
(`Reachable.cacheLive`), so after its first two statements `CheckRandomXProofOfWork` always
hashes with the key it asked `GetKeyBlock` for (`updateKey_live`). The cache is therefore
transparent: whatever the statics held before, the verdict is the one a freshly keyed cache
gives (`checkRandomXProofOfWork_fresh_key`).

For a block at height `h` past `SWITCH_KEY`, `GetKeyBlock` reads block
`KEY_CHANGE * ⌊(h - SWITCH_KEY - 1) / KEY_CHANGE⌋` (`getKeyBlock_epoch`): the key moves 65 blocks,
not 64, after each multiple of 2048. Fed its own answer back through the static, it answers the
same for every height of that epoch, so checks of one epoch's blocks on one chain key the cache
once and then leave the statics alone (`checks_one_epoch`).

## Main definitions

* `uint256S`: `base_blob::SetHex` on the bytes of a C string.
* `getKeyBlock`: `GetKeyBlock`, with its static passed in and returned.
* `keyEpoch`: The run of heights that share a key.
* `RandomXState`, `RandomXCall`, `Reachable`: The module statics and the runs over them.
* `checkRandomXProofOfWork`: The check, as a function of the RandomX hash function.
* `randomXVerdict`: The verdict of a cache keyed by a given block.

## Theorems

* `getKeyBlock_eq`: `GetKeyBlock` on a chain shorter than `2^31` blocks.
* `getKeyBlock_epoch`: The key moves every `KEY_CHANGE` blocks, `SWITCH_KEY + 1` past each
  multiple.
* `checks_one_epoch`: Checks within one key epoch key the cache at most once.
* `Reachable.cacheLive`: The cache statics agree in every reachable state.
* `updateKey_live`: The check hashes with the key `GetKeyBlock` returned.
* `checkRandomXProofOfWork_fresh_key`: The verdict is that of a cache keyed afresh.
* `checkRandomXProofOfWork_of_not_digit`: A hash that does not start with a hex digit or
  whitespace passes every in-range `nBits`.
* `checkRandomXProofOfWork_same_key_block`: Two nodes whose active chains hold the same key
  block agree on the verdict.
-/

namespace Zclassic

namespace Pow

/-! ### Parsing the hash -/

/-- `isspace` in the C locale. -/
def isSpace (c : UInt8) : Bool := c == 32 || (9 ≤ c && c ≤ 13)

/-- `HexDigit`: the value of a hexadecimal digit, `none` where the source returns `-1`. -/
def hexDigit (c : UInt8) : Option Nat :=
  if 48 ≤ c ∧ c ≤ 57 then some (c.toNat - 48)
  else if 97 ≤ c ∧ c ≤ 102 then some (c.toNat - 87)
  else if 65 ≤ c ∧ c ≤ 70 then some (c.toNat - 55)
  else none

/-- The fill loop of `base_blob::SetHex`: digits from the last one back, two to a byte with
    the earlier digit in the high nibble, at most `WIDTH` bytes. -/
def hexFill : Nat → List Nat → List Nat
  | 0, _ => []
  | _, [] => []
  | _ + 1, [lo] => [lo]
  | w + 1, lo :: hi :: rest => (lo ||| hi <<< 4) :: hexFill w rest

/-- `UintToArith256` of a blob given by its bytes, least significant first. -/
def leValue : List Nat → Nat
  | [] => 0
  | b :: bs => b + 256 * leValue bs

/-- `uint256S`, that is `base_blob<256>::SetHex` on a C string: skip whitespace and a `0x`,
    take the hexadecimal digits that follow, and fill the blob from the last one. The string
    ends at the first byte that is not a digit, or at the end of the list, which stands for
    the terminator a `char[32]` does not have. -/
def uint256S (psz : List UInt8) : BitVec 256 :=
  let psz := psz.dropWhile isSpace
  let psz := match psz with
    | c :: x :: rest => if c = 48 ∧ (x = 120 ∨ x = 88) then rest else psz
    | _ => psz
  let digits := (psz.takeWhile fun c => (hexDigit c).isSome).filterMap hexDigit
  BitVec.ofNat 256 (leValue (hexFill 32 digits.reverse))

/-- A string that starts with a byte that is neither whitespace nor a digit parses to zero. -/
theorem uint256S_of_not_digit {c : UInt8} (rest : List UInt8) (hs : isSpace c = false)
    (hd : hexDigit c = none) : uint256S (c :: rest) = 0 := by
  have h48 : c ≠ 48 := by rintro rfl; simp [hexDigit] at hd
  cases rest <;> simp [uint256S, hs, hd, h48, hexFill, leValue]

/-! ### The key block -/

/-- `KEY_CHANGE`: the key moves every 2048 blocks. -/
def keyChange : Nat := 2048

/-- `SWITCH_KEY`: how many blocks past a boundary the new key takes over. -/
def switchKey : Nat := 64

/-- `CChain::Height()` of the active chain, given as its block hashes by height. -/
def chainHeight (chainActive : List (BitVec 256)) : Int := chainActive.length - 1

/-- `chainActive[nHeight]->GetBlockHash()`. `CChain::operator[]` returns `NULL` off the chain,
    and the dereference of that `NULL` is `none`. -/
def blockHashAt (chainActive : List (BitVec 256)) (nHeight : Int) : Option (BitVec 256) :=
  if nHeight < 0 then none else chainActive[nHeight.toNat]?

/-- The conversion of a `uint32_t` to the `int` parameter of `CChain::operator[]`. -/
def toInt32 (v : Nat) : Int := if v < 2 ^ 31 then v else v - 2 ^ 32

/-- The height `GetKeyBlock` reads: `first_check` once `SWITCH_KEY` blocks are past the
    boundary, else `second_check`, in `uint32_t` arithmetic. -/
def keyCheck (nHeight : UInt32) : Nat :=
  let remainer := nHeight.toNat % keyChange
  let firstCheck := nHeight.toNat - remainer
  let secondCheck := (nHeight.toNat + 2 ^ 32 - keyChange - remainer) % 2 ^ 32
  if nHeight.toNat > (firstCheck + switchKey) % 2 ^ 32 then firstCheck else secondCheck

/-- `GetKeyBlock(nHeight)`, with the static `current_key_block` passed in; the result is also
    the static's new value. `chainActive.Height()` is converted to `uint32_t` to be compared. -/
def getKeyBlock (chainActive : List (BitVec 256)) (currentKeyBlock : BitVec 256)
    (nHeight : UInt32) : Option (BitVec 256) := do
  let currentKeyBlock ← if (chainHeight chainActive % 2 ^ 32).toNat > keyCheck nHeight then
      blockHashAt chainActive (toInt32 (keyCheck nHeight))
    else some currentKeyBlock
  if currentKeyBlock = 0 then blockHashAt chainActive 0 else some currentKeyBlock

/-- The key height a block at height `h` is scheduled to use: the last multiple of
    `KEY_CHANGE` once `SWITCH_KEY` blocks are past it, else the one before. -/
def scheduledKeyHeight (h : Nat) : Int :=
  if h % keyChange > switchKey then (keyChange * (h / keyChange) : Nat)
  else (keyChange * (h / keyChange) : Nat) - keyChange

/-- On a chain of fewer than `2^31` blocks, `GetKeyBlock` reads the active chain exactly when its
    tip is above the scheduled key height. -/
theorem keyCheck_lt_iff {chainActive : List (BitVec 256)} (hne : chainActive ≠ [])
    (hlen : chainActive.length < 2 ^ 31) (nHeight : UInt32) :
    keyCheck nHeight < (chainHeight chainActive % 2 ^ 32).toNat ↔
      0 ≤ scheduledKeyHeight nHeight.toNat ∧
        scheduledKeyHeight nHeight.toNat < chainHeight chainActive := by
  have hpos := List.length_pos.mpr hne
  have hh : nHeight.toNat < 2 ^ 32 := nHeight.val.isLt
  simp only [keyCheck, scheduledKeyHeight, chainHeight, keyChange, switchKey]
  split_ifs <;> omega

/-- Where it reads the active chain, it reads it at the scheduled height. -/
theorem toInt32_keyCheck {nHeight : UInt32} (h0 : 0 ≤ scheduledKeyHeight nHeight.toNat)
    (h31 : scheduledKeyHeight nHeight.toNat < 2 ^ 31) :
    toInt32 (keyCheck nHeight) = scheduledKeyHeight nHeight.toNat := by
  have hh : nHeight.toNat < 2 ^ 32 := nHeight.val.isLt
  simp only [toInt32, keyCheck, scheduledKeyHeight, keyChange, switchKey] at *
  split_ifs at * <;> omega

/-- `GetKeyBlock` on a chain it can index: the active chain's hash at the scheduled height when
    the tip is above it, else the static, and the genesis hash in place of zero. -/
theorem getKeyBlock_eq {chainActive : List (BitVec 256)} (hne : chainActive ≠ [])
    (hlen : chainActive.length < 2 ^ 31) (currentKeyBlock : BitVec 256) (nHeight : UInt32) :
    getKeyBlock chainActive currentKeyBlock nHeight =
      let k := scheduledKeyHeight nHeight.toNat
      let v := if 0 ≤ k ∧ k < chainHeight chainActive then chainActive.getD k.toNat 0
        else currentKeyBlock
      some (if v = 0 then chainActive.headD 0 else v) := by
  obtain ⟨g, c, rfl⟩ := List.exists_cons_of_ne_nil hne
  simp only [getKeyBlock, gt_iff_lt, keyCheck_lt_iff hne hlen]
  by_cases hin : 0 ≤ scheduledKeyHeight nHeight.toNat ∧
      scheduledKeyHeight nHeight.toNat < chainHeight (g :: c)
  · have hlt : (scheduledKeyHeight nHeight.toNat).toNat < (g :: c).length := by
      simp only [chainHeight] at hin; omega
    rw [if_pos hin, if_pos hin, toInt32_keyCheck hin.1 (by simp only [chainHeight] at hin; omega)]
    simp [blockHashAt, not_lt.mpr hin.1, List.getD_eq_getElem?_getD,
      List.getElem?_eq_getElem hlt, apply_ite some]
  · rw [if_neg hin, if_neg hin]
    simp [blockHashAt, apply_ite some]

/-- With the active chain's key block above zero and below its tip, `GetKeyBlock` returns it
    whatever the static held. -/
theorem getKeyBlock_of_scheduled {chainActive : List (BitVec 256)}
    (hlen : chainActive.length < 2 ^ 31) {nHeight : UInt32} {key : BitVec 256} (hkey : key ≠ 0)
    (h0 : 0 ≤ scheduledKeyHeight nHeight.toNat)
    (htip : scheduledKeyHeight nHeight.toNat < chainHeight chainActive)
    (hat : chainActive[(scheduledKeyHeight nHeight.toNat).toNat]? = some key)
    (currentKeyBlock : BitVec 256) :
    getKeyBlock chainActive currentKeyBlock nHeight = some key := by
  have hne : chainActive ≠ [] := by rintro rfl; simp at hat
  rw [getKeyBlock_eq hne hlen]
  simp [h0, htip, List.getD_eq_getElem?_getD, hat]
  exact fun h => (hkey h).elim

/-- Past `SWITCH_KEY`, the scheduled key height is the last multiple of `KEY_CHANGE` at least
    `SWITCH_KEY + 1` below the block. -/
theorem scheduledKeyHeight_of_lt {h : Nat} (hh : switchKey < h) :
    scheduledKeyHeight h = (keyChange * ((h - switchKey - 1) / keyChange) : Nat) := by
  simp only [scheduledKeyHeight, keyChange, switchKey] at *
  split_ifs <;> omega

/-- Up to `SWITCH_KEY` the scheduled key height lies below genesis. -/
theorem scheduledKeyHeight_neg {h : Nat} (hh : h ≤ switchKey) : scheduledKeyHeight h < 0 := by
  simp only [scheduledKeyHeight, keyChange, switchKey] at *
  split_ifs <;> omega

/-- The key `GetKeyBlock` gives a block at height `h` above `SWITCH_KEY` is the hash of block
    `KEY_CHANGE * ⌊(h - SWITCH_KEY - 1) / KEY_CHANGE⌋` of the active chain, once its tip is above
    that block: the key moves every 2048 blocks, at 65 blocks past each multiple. Otherwise, and
    at every height up to `SWITCH_KEY`, the static is kept, and the genesis hash stands in for a
    zero key. -/
theorem getKeyBlock_epoch {chainActive : List (BitVec 256)} (hne : chainActive ≠ [])
    (hlen : chainActive.length < 2 ^ 31) (currentKeyBlock : BitVec 256) (nHeight : UInt32) :
    getKeyBlock chainActive currentKeyBlock nHeight =
      let k := keyChange * ((nHeight.toNat - switchKey - 1) / keyChange)
      let v := if switchKey < nHeight.toNat ∧ (k : Int) < chainHeight chainActive
        then chainActive.getD k 0 else currentKeyBlock
      some (if v = 0 then chainActive.headD 0 else v) := by
  rw [getKeyBlock_eq hne hlen]
  by_cases hh : switchKey < nHeight.toNat
  · simp only [scheduledKeyHeight_of_lt hh, Int.toNat_ofNat, Int.natCast_nonneg, true_and, hh]
  · have := scheduledKeyHeight_neg (not_lt.mp hh)
    simp only [hh, false_and, if_false, show ¬0 ≤ scheduledKeyHeight nHeight.toNat by omega]

/-- On a three-block chain, a block at height 70 takes its key from genesis. -/
theorem getKeyBlock_epoch_seventy :
    ([5, 6, 7] : List (BitVec 256)) ≠ [] ∧ ([5, 6, 7] : List (BitVec 256)).length < 2 ^ 31 ∧
    getKeyBlock [5, 6, 7] 9 70 =
      let k := keyChange * (((70 : UInt32).toNat - switchKey - 1) / keyChange)
      let v := if switchKey < (70 : UInt32).toNat ∧ (k : Int) < chainHeight [5, 6, 7]
        then ([5, 6, 7] : List (BitVec 256)).getD k 0 else 9
      some (if v = 0 then ([5, 6, 7] : List (BitVec 256)).headD 0 else v) :=
  ⟨by decide, by decide, getKeyBlock_epoch (by decide) (by decide) 9 70⟩

/-! ### The module statics -/

/-- The statics of the RandomX part of `pow.cpp`: `key_block`, `fLightCacheInited`, the key the
    live cache and its two VMs were initialised with (`none` once they are released), and the
    static `current_key_block` of `GetKeyBlock`. -/
structure RandomXState where
  keyBlock : BitVec 256
  fLightCacheInited : Bool
  cacheKey : Option (BitVec 256)
  currentKeyBlock : BitVec 256
  deriving DecidableEq, Repr

/-- The statics at start-up, all zero. -/
def RandomXState.init : RandomXState := ⟨0, false, none, 0⟩

/-- `InitRandomXLightCache(height)`. -/
def initRandomXLightCache (chainActive : List (BitVec 256)) (s : RandomXState)
    (height : UInt32) : Option RandomXState :=
  if s.fLightCacheInited then some s else do
    let k ← getKeyBlock chainActive s.currentKeyBlock height
    some { keyBlock := k, fLightCacheInited := true, cacheKey := some k, currentKeyBlock := k }

/-- `DeallocateRandomXLightCache()`. -/
def deallocateRandomXLightCache (s : RandomXState) : RandomXState :=
  if !s.fLightCacheInited then s else { s with cacheKey := none, fLightCacheInited := false }

/-- `KeyBlockChanged(new_block)`. -/
def keyBlockChanged (s : RandomXState) (newBlock : BitVec 256) : RandomXState :=
  let s := deallocateRandomXLightCache { s with keyBlock := newBlock }
  { s with cacheKey := some s.keyBlock, fLightCacheInited := true }

/-- `CheckIfKeyShouldChange(check_block)`. -/
def checkIfKeyShouldChange (s : RandomXState) (checkBlock : BitVec 256) : RandomXState :=
  if checkBlock ≠ s.keyBlock then keyBlockChanged s checkBlock else s

/-- The first two statements of `CheckRandomXProofOfWork`: bring the cache up, then move it to
    the key `GetKeyBlock` names for the block. -/
def updateKey (chainActive : List (BitVec 256)) (s : RandomXState) (nHeight : UInt32) :
    Option RandomXState := do
  let s ← if !s.fLightCacheInited then initRandomXLightCache chainActive s nHeight else some s
  let k ← getKeyBlock chainActive s.currentKeyBlock nHeight
  return checkIfKeyShouldChange { s with currentKeyBlock := k } k

/-- `CheckRandomXProofOfWork(block, nBits, params)`, for a RandomX hash function of the cache
    key and the input. The state is the one after the call. -/
def checkRandomXProofOfWork (randomxCalculateHash : BitVec 256 → BitVec 256 → List UInt8)
    (chainActive : List (BitVec 256)) (s : RandomXState) (block : BlockHeader) (nBits : UInt32)
    (params : Params) : Option (Bool × RandomXState) := do
  let s ← updateKey chainActive s block.nHeight
  if !targetInRange params nBits then return (false, s)
  let vm ← s.cacheKey
  let hash := randomxCalculateHash vm block.randomXHeaderHash
  return (decide (uint256S hash < (setCompact nBits).target), s)

/-- The entry points of the module. `CheckRandomXProofOfWork` changes the statics through
    `updateKey` alone, so its call carries only the block's height. -/
inductive RandomXCall
  | getKeyBlock (nHeight : UInt32)
  | initRandomXLightCache (height : UInt32)
  | keyBlockChanged (newBlock : BitVec 256)
  | checkIfKeyShouldChange (checkBlock : BitVec 256)
  | deallocateRandomXLightCache
  | checkRandomXProofOfWork (nHeight : UInt32)

/-- One call on the active chain of its time; `none` is a null dereference. -/
def RandomXCall.apply (chainActive : List (BitVec 256)) (s : RandomXState) :
    RandomXCall → Option RandomXState
  | .getKeyBlock n =>
    (Pow.getKeyBlock chainActive s.currentKeyBlock n).map fun k => { s with currentKeyBlock := k }
  | .initRandomXLightCache h => Pow.initRandomXLightCache chainActive s h
  | .keyBlockChanged b => some (Pow.keyBlockChanged s b)
  | .checkIfKeyShouldChange b => some (Pow.checkIfKeyShouldChange s b)
  | .deallocateRandomXLightCache => some (Pow.deallocateRandomXLightCache s)
  | .checkRandomXProofOfWork n => updateKey chainActive s n

/-- The statics a node can hold: any sequence of calls from start-up, each on any active
    chain. -/
inductive Reachable : RandomXState → Prop
  | init : Reachable RandomXState.init
  | step {s s' : RandomXState} (chainActive : List (BitVec 256)) (call : RandomXCall) :
      Reachable s → call.apply chainActive s = some s' → Reachable s'

/-- The live cache and VMs exist exactly while `fLightCacheInited`, built from `key_block`. -/
def RandomXState.CacheLive (s : RandomXState) : Prop :=
  s.cacheKey = if s.fLightCacheInited then some s.keyBlock else none

@[simp] theorem keyBlockChanged_keyBlock (s : RandomXState) (b : BitVec 256) :
    (keyBlockChanged s b).keyBlock = b := by
  simp only [keyBlockChanged, deallocateRandomXLightCache]; split <;> rfl

@[simp] theorem keyBlockChanged_cacheKey (s : RandomXState) (b : BitVec 256) :
    (keyBlockChanged s b).cacheKey = some b := by
  simp only [keyBlockChanged, deallocateRandomXLightCache]; split <;> rfl

@[simp] theorem keyBlockChanged_fLightCacheInited (s : RandomXState) (b : BitVec 256) :
    (keyBlockChanged s b).fLightCacheInited = true := rfl

@[simp] theorem checkIfKeyShouldChange_keyBlock (s : RandomXState) (b : BitVec 256) :
    (checkIfKeyShouldChange s b).keyBlock = b := by
  unfold checkIfKeyShouldChange
  split_ifs with h
  · exact keyBlockChanged_keyBlock s b
  · exact (not_not.mp h).symm

/-- A state whose cache is up, built from `key_block`. -/
theorem cacheLive_of_live {s : RandomXState} (hi : s.fLightCacheInited = true)
    (hc : s.cacheKey = some s.keyBlock) : s.CacheLive := by
  simp [RandomXState.CacheLive, hi, hc]

/-- `InitRandomXLightCache` leaves the cache up, on `key_block`. -/
theorem initRandomXLightCache_live {chainActive : List (BitVec 256)} {s s' : RandomXState}
    {height : UInt32} (hs : s.CacheLive)
    (h : initRandomXLightCache chainActive s height = some s') :
    s'.fLightCacheInited = true ∧ s'.cacheKey = some s'.keyBlock := by
  unfold initRandomXLightCache at h
  split at h
  · cases h; simpa [RandomXState.CacheLive, *] using hs
  · obtain ⟨_, _, h⟩ := Option.bind_eq_some.mp h
    cases h
    exact ⟨rfl, rfl⟩

/-- The guard in `CheckRandomXProofOfWork` repeats the one inside `InitRandomXLightCache`. -/
theorem updateKey_eq (chainActive : List (BitVec 256)) (s : RandomXState) (nHeight : UInt32) :
    updateKey chainActive s nHeight =
      (initRandomXLightCache chainActive s nHeight).bind fun s =>
        (getKeyBlock chainActive s.currentKeyBlock nHeight).bind fun k =>
          some (checkIfKeyShouldChange { s with currentKeyBlock := k } k) := by
  cases h : s.fLightCacheInited <;> simp [updateKey, initRandomXLightCache, h]

/-- Past its first two statements the check holds a live cache on the key `GetKeyBlock`
    returned for the block, from some value of the static. -/
theorem updateKey_live {chainActive : List (BitVec 256)} {s s' : RandomXState}
    {nHeight : UInt32} (hs : s.CacheLive) (h : updateKey chainActive s nHeight = some s') :
    s'.fLightCacheInited = true ∧ s'.cacheKey = some s'.keyBlock ∧
      ∃ cur, getKeyBlock chainActive cur nHeight = some s'.keyBlock := by
  rw [updateKey_eq, Option.bind_eq_some] at h
  obtain ⟨s₁, h₁, h⟩ := h
  obtain ⟨k, hk, h⟩ := Option.bind_eq_some.mp h
  cases h
  obtain ⟨hi, hc⟩ := initRandomXLightCache_live hs h₁
  unfold checkIfKeyShouldChange
  split_ifs with hne
  · simpa using ⟨_, hk⟩
  · simp only [not_not] at hne
    subst hne
    exact ⟨hi, hc, _, hk⟩

/-- On a chain it can index, the first two statements of the check do not fail. -/
theorem updateKey_isSome {chainActive : List (BitVec 256)} (hne : chainActive ≠ [])
    (hlen : chainActive.length < 2 ^ 31) (s : RandomXState) (nHeight : UInt32) :
    (updateKey chainActive s nHeight).isSome := by
  simp only [updateKey, initRandomXLightCache, getKeyBlock_eq hne hlen]
  cases s.fLightCacheInited <;> simp

/-- Every call keeps the cache statics in agreement. -/
theorem cacheLive_apply {chainActive : List (BitVec 256)} {s s' : RandomXState}
    (call : RandomXCall) (hs : s.CacheLive) (h : call.apply chainActive s = some s') :
    s'.CacheLive := by
  cases call with
  | getKeyBlock n =>
    simp only [RandomXCall.apply, Option.map_eq_some'] at h
    obtain ⟨_, _, rfl⟩ := h
    exact hs
  | initRandomXLightCache n =>
    obtain ⟨hi, hc⟩ := initRandomXLightCache_live hs h
    exact cacheLive_of_live hi hc
  | keyBlockChanged b =>
    simp only [RandomXCall.apply, Option.some.injEq] at h
    subst h; simp [RandomXState.CacheLive]
  | checkIfKeyShouldChange b =>
    simp only [RandomXCall.apply, Option.some.injEq] at h
    subst h; unfold checkIfKeyShouldChange
    split_ifs
    · simp [RandomXState.CacheLive]
    · exact hs
  | deallocateRandomXLightCache =>
    simp only [RandomXCall.apply, Option.some.injEq] at h
    subst h; unfold deallocateRandomXLightCache
    split_ifs with hi
    · exact hs
    · simp [RandomXState.CacheLive]
  | checkRandomXProofOfWork n =>
    obtain ⟨hi, hc, -⟩ := updateKey_live hs h
    exact cacheLive_of_live hi hc

/-- The cache statics agree in every reachable state. -/
theorem Reachable.cacheLive {s : RandomXState} (h : Reachable s) : s.CacheLive := by
  induction h with
  | init => rfl
  | step _ call _ hstep ih => exact cacheLive_apply call ih hstep

/-! ### Within a key epoch -/

/-- The key epoch of a height: heights up to `SWITCH_KEY` keep the static, and past it epoch `e`
    runs from `e * KEY_CHANGE + SWITCH_KEY + 1` to `(e + 1) * KEY_CHANGE + SWITCH_KEY`. -/
def keyEpoch (h : Nat) : Option Nat :=
  if switchKey < h then some ((h - switchKey - 1) / keyChange) else none

theorem scheduledKeyHeight_congr {a b : Nat} (h : keyEpoch a = keyEpoch b) :
    scheduledKeyHeight a = scheduledKeyHeight b := by
  by_cases ha : switchKey < a <;> by_cases hb : switchKey < b <;>
    simp only [keyEpoch, ha, hb, if_true, if_false, Option.some.injEq] at h
  · rw [scheduledKeyHeight_of_lt ha, scheduledKeyHeight_of_lt hb, h]
  · cases h
  · cases h
  · simp only [scheduledKeyHeight, keyChange, switchKey] at *
    split_ifs <;> omega

/-- `GetKeyBlock` gives every height of one key epoch the same key. -/
theorem getKeyBlock_congr {chainActive : List (BitVec 256)} (hne : chainActive ≠ [])
    (hlen : chainActive.length < 2 ^ 31) (cur : BitVec 256) {a b : UInt32}
    (h : keyEpoch a.toNat = keyEpoch b.toNat) :
    getKeyBlock chainActive cur a = getKeyBlock chainActive cur b := by
  rw [getKeyBlock_eq hne hlen, getKeyBlock_eq hne hlen, scheduledKeyHeight_congr h]

/-- Fed back the key it returned, `GetKeyBlock` returns it again. -/
theorem getKeyBlock_static {chainActive : List (BitVec 256)} (hne : chainActive ≠ [])
    (hlen : chainActive.length < 2 ^ 31) {cur k : BitVec 256} {n : UInt32}
    (h : getKeyBlock chainActive cur n = some k) : getKeyBlock chainActive k n = some k := by
  rw [getKeyBlock_eq hne hlen, Option.some.injEq] at h
  rw [getKeyBlock_eq hne hlen, Option.some.injEq]
  by_cases hC : 0 ≤ scheduledKeyHeight n.toNat ∧
      scheduledKeyHeight n.toNat < chainHeight chainActive
  · simpa only [if_pos hC] using h
  · -- The static was kept: a nonzero one comes back, and zero became the genesis hash.
    simp only [if_neg hC] at h ⊢
    subst h
    split_ifs with hc <;> simp [hc]

@[simp] theorem checkIfKeyShouldChange_currentKeyBlock (s : RandomXState) (b : BitVec 256) :
    (checkIfKeyShouldChange s b).currentKeyBlock = s.currentKeyBlock := by
  simp only [checkIfKeyShouldChange, keyBlockChanged, deallocateRandomXLightCache]
  split_ifs <;> rfl

/-- After a check, the check of a block of the same key epoch on the same chain changes
    nothing. -/
theorem updateKey_stable {chainActive : List (BitVec 256)} (hne : chainActive ≠ [])
    (hlen : chainActive.length < 2 ^ 31) {s s₁ : RandomXState} {a b : UInt32} (hs : s.CacheLive)
    (hu : updateKey chainActive s a = some s₁) (hab : keyEpoch b.toNat = keyEpoch a.toNat) :
    updateKey chainActive s₁ b = some s₁ := by
  obtain ⟨hi, -, -⟩ := updateKey_live hs hu
  obtain ⟨s₀, -, hu⟩ := Option.bind_eq_some.mp ((updateKey_eq _ _ _).symm.trans hu)
  obtain ⟨k, hk, hs₁⟩ := Option.bind_eq_some.mp hu
  have hcur : s₁.currentKeyBlock = k := by
    rw [← Option.some.inj hs₁, checkIfKeyShouldChange_currentKeyBlock]
  have hkey : s₁.keyBlock = k := by rw [← Option.some.inj hs₁, checkIfKeyShouldChange_keyBlock]
  have hkb : getKeyBlock chainActive s₁.currentKeyBlock b = some k := by
    rw [hcur, getKeyBlock_congr hne hlen k hab]
    exact getKeyBlock_static hne hlen hk
  have hsame : { s₁ with currentKeyBlock := k } = s₁ := by rw [← hcur]
  have hinit : initRandomXLightCache chainActive s₁ b = some s₁ := by
    simp [initRandomXLightCache, hi]
  rw [updateKey_eq, hinit, Option.some_bind, hkb, Option.some_bind, hsame, checkIfKeyShouldChange,
    if_neg (not_not.mpr hkey.symm)]

/-- Checks of blocks of one key epoch, one after another on one active chain from any reachable
    state, leave the statics where the first check put them: the cache is built or rebuilt at
    most once per epoch. -/
theorem checks_one_epoch {chainActive : List (BitVec 256)} (hne : chainActive ≠ [])
    (hlen : chainActive.length < 2 ^ 31) {s : RandomXState} (hs : Reachable s) (n : UInt32)
    (rest : List UInt32) (hrest : ∀ m ∈ rest, keyEpoch m.toNat = keyEpoch n.toNat) :
    ((n :: rest).map RandomXCall.checkRandomXProofOfWork).foldlM (RandomXCall.apply chainActive) s =
      updateKey chainActive s n := by
  obtain ⟨s₁, hs₁⟩ := Option.isSome_iff_exists.mp (updateKey_isSome hne hlen s n)
  have hfix : ∀ l : List UInt32, (∀ m ∈ l, keyEpoch m.toNat = keyEpoch n.toNat) →
      (l.map RandomXCall.checkRandomXProofOfWork).foldlM (RandomXCall.apply chainActive) s₁ =
        some s₁ := by
    intro l hl
    induction l with
    | nil => rfl
    | cons m l ih =>
      simp only [List.map_cons, List.foldlM_cons, RandomXCall.apply,
        updateKey_stable hne hlen hs.cacheLive hs₁ (hl m (.head _)), Option.some_bind]
      exact ih fun m' hm' => hl m' (.tail _ hm')
  simp only [List.map_cons, List.foldlM_cons, RandomXCall.apply, hs₁, Option.some_bind]
  exact hfix rest hrest

/-- From start-up on a three-block chain, checks at heights 70, 100 and 2000, all of epoch 0,
    key the cache once, by the genesis hash `5`, and leave it there. -/
theorem checks_one_epoch_genesis :
    ([5, 6, 7] : List (BitVec 256)) ≠ [] ∧ ([5, 6, 7] : List (BitVec 256)).length < 2 ^ 31 ∧
    Reachable RandomXState.init ∧
    (∀ m ∈ ([100, 2000] : List UInt32), keyEpoch m.toNat = keyEpoch (70 : UInt32).toNat) ∧
    (([70, 100, 2000] : List UInt32).map RandomXCall.checkRandomXProofOfWork).foldlM
        (RandomXCall.apply [5, 6, 7]) RandomXState.init =
      updateKey [5, 6, 7] RandomXState.init 70 ∧
    updateKey [5, 6, 7] RandomXState.init 70 = some ⟨5, true, some 5, 5⟩ :=
  ⟨by decide, by decide, .init, by decide,
    checks_one_epoch (by decide) (by decide) .init 70 [100, 2000] (by decide), by decide⟩

/-! ### The verdict -/

/-- The verdict the check computes once its VM is keyed by `key`: the range check on `nBits`,
    then the RandomX hash of the blob under `key`, read by `uint256S`, below the target. -/
def randomXVerdict (randomxCalculateHash : BitVec 256 → BitVec 256 → List UInt8)
    (key blob : BitVec 256) (nBits : UInt32) (params : Params) : Bool :=
  targetInRange params nBits &&
    decide (uint256S (randomxCalculateHash key blob) < (setCompact nBits).target)

/-- From a reachable state, the check hashes with the key block `GetKeyBlock` returned. -/
theorem checkRandomXProofOfWork_eq {randomxCalculateHash : BitVec 256 → BitVec 256 → List UInt8}
    {chainActive : List (BitVec 256)} {s s' : RandomXState} (hs : Reachable s)
    (block : BlockHeader) (h : updateKey chainActive s block.nHeight = some s') (nBits : UInt32)
    (params : Params) :
    checkRandomXProofOfWork randomxCalculateHash chainActive s block nBits params =
      some (targetInRange params nBits &&
        decide (uint256S (randomxCalculateHash s'.keyBlock block.randomXHeaderHash) <
          (setCompact nBits).target), s') := by
  obtain ⟨-, hc, -⟩ := updateKey_live hs.cacheLive h
  cases hr : targetInRange params nBits <;> simp [checkRandomXProofOfWork, h, hr, hc]

/-- The cache is transparent. From every reachable state, `CheckRandomXProofOfWork` brings the
    cache up if it is down, asks `GetKeyBlock` for the block's key `k`, and hashes with a cache
    keyed by `k`, which it leaves up on `key_block = k`: its verdict is that of a VM freshly
    keyed by `k`, whatever the earlier calls did to the cache. -/
theorem checkRandomXProofOfWork_fresh_key
    (randomxCalculateHash : BitVec 256 → BitVec 256 → List UInt8)
    {chainActive : List (BitVec 256)} {s s₁ : RandomXState} (hs : Reachable s)
    (block : BlockHeader) (nBits : UInt32) (params : Params) {k : BitVec 256}
    (hinit : initRandomXLightCache chainActive s block.nHeight = some s₁)
    (hk : getKeyBlock chainActive s₁.currentKeyBlock block.nHeight = some k) :
    ∃ s', checkRandomXProofOfWork randomxCalculateHash chainActive s block nBits params =
        some (randomXVerdict randomxCalculateHash k block.randomXHeaderHash nBits params, s') ∧
      s'.fLightCacheInited = true ∧ s'.keyBlock = k ∧ s'.cacheKey = some k := by
  have hu : updateKey chainActive s block.nHeight =
      some (checkIfKeyShouldChange { s₁ with currentKeyBlock := k } k) := by
    simp [updateKey_eq, hinit, hk]
  obtain ⟨hi, hc, -⟩ := updateKey_live hs.cacheLive hu
  have hkey := checkIfKeyShouldChange_keyBlock { s₁ with currentKeyBlock := k } k
  refine ⟨_, ?_, hi, hkey, hc.trans (congrArg some hkey)⟩
  rw [checkRandomXProofOfWork_eq hs block hu, hkey]
  rfl

/-- A RandomX output that reads as `0` under the key `1` and as `1` under any other key. -/
def keyedHash (key _ : BitVec 256) : List UInt8 := if key = 1 then [0x30] else [0x31]

/-- A node whose cache `KeyBlockChanged(7)` moved to the key `7`, and the same node after
    `DeallocateRandomXLightCache`, check a header at height 0 on a one-block chain with genesis
    hash `1`. Both times the check keys its VM by `1`, under which the header's hash reads as
    `0` and passes the target `1`; under the stale key `7` it would read as `1` and fail. -/
theorem checkRandomXProofOfWork_fresh_key_rekeyed :
    Reachable (keyBlockChanged RandomXState.init 7) ∧
    initRandomXLightCache [1] (keyBlockChanged RandomXState.init 7) 0 =
      some (keyBlockChanged RandomXState.init 7) ∧
    getKeyBlock [1] (keyBlockChanged RandomXState.init 7).currentKeyBlock 0 = some 1 ∧
    (∃ s', checkRandomXProofOfWork keyedHash [1] (keyBlockChanged RandomXState.init 7) ⟨0, 0, 0⟩
        0x01010000 sampleParams =
        some (randomXVerdict keyedHash 1 0 0x01010000 sampleParams, s') ∧
      s'.fLightCacheInited = true ∧ s'.keyBlock = 1 ∧ s'.cacheKey = some 1) ∧
    Reachable (deallocateRandomXLightCache (keyBlockChanged RandomXState.init 7)) ∧
    initRandomXLightCache [1] (deallocateRandomXLightCache (keyBlockChanged RandomXState.init 7))
      0 = some ⟨1, true, some 1, 1⟩ ∧
    getKeyBlock [1] 1 0 = some 1 ∧
    (∃ s', checkRandomXProofOfWork keyedHash [1]
        (deallocateRandomXLightCache (keyBlockChanged RandomXState.init 7)) ⟨0, 0, 0⟩ 0x01010000
        sampleParams = some (randomXVerdict keyedHash 1 0 0x01010000 sampleParams, s') ∧
      s'.fLightCacheInited = true ∧ s'.keyBlock = 1 ∧ s'.cacheKey = some 1) ∧
    randomXVerdict keyedHash 1 0 0x01010000 sampleParams = true ∧
    randomXVerdict keyedHash 7 0 0x01010000 sampleParams = false :=
  have hr : Reachable (keyBlockChanged RandomXState.init 7) :=
    .step [] (.keyBlockChanged 7) .init rfl
  have hr' : Reachable (deallocateRandomXLightCache (keyBlockChanged RandomXState.init 7)) :=
    .step [] .deallocateRandomXLightCache hr rfl
  have hinit : initRandomXLightCache [1] (keyBlockChanged RandomXState.init 7) 0 =
      some (keyBlockChanged RandomXState.init 7) := by decide
  have hk : getKeyBlock [1] (keyBlockChanged RandomXState.init 7).currentKeyBlock 0 = some 1 := by
    decide
  have hinit' : initRandomXLightCache [1]
      (deallocateRandomXLightCache (keyBlockChanged RandomXState.init 7)) 0 =
      some ⟨1, true, some 1, 1⟩ := by decide
  have hk' : getKeyBlock [1] 1 0 = some 1 := by decide
  ⟨hr, hinit, hk, checkRandomXProofOfWork_fresh_key keyedHash hr ⟨0, 0, 0⟩ 0x01010000
      sampleParams hinit hk, hr', hinit', hk',
    checkRandomXProofOfWork_fresh_key keyedHash hr' ⟨0, 0, 0⟩ 0x01010000 sampleParams hinit' hk',
    by decide, by decide⟩

/-- Every hash whose first byte is neither whitespace nor a hexadecimal digit passes the check
    for every in-range `nBits`, from every reachable state. -/
theorem checkRandomXProofOfWork_of_not_digit
    (randomxCalculateHash : BitVec 256 → BitVec 256 → List UInt8)
    {chainActive : List (BitVec 256)} (hne : chainActive ≠ [])
    (hlen : chainActive.length < 2 ^ 31) {s : RandomXState} (hs : Reachable s)
    (block : BlockHeader) (c : UInt8) (hsp : isSpace c = false) (hd : hexDigit c = none)
    (hhash : ∀ key, ∃ rest, randomxCalculateHash key block.randomXHeaderHash = c :: rest)
    (nBits : UInt32) (params : Params) (hr : targetInRange params nBits = true) :
    ∃ s', checkRandomXProofOfWork randomxCalculateHash chainActive s block nBits params =
      some (true, s') := by
  obtain ⟨s', hs'⟩ := Option.isSome_iff_exists.mp (updateKey_isSome hne hlen s block.nHeight)
  obtain ⟨rest, hrest⟩ := hhash s'.keyBlock
  have hpos : (setCompact nBits).target ≠ 0 := by
    simp only [targetInRange, Bool.not_eq_true', Bool.or_eq_false_iff, beq_eq_false_iff_ne] at hr
    exact hr.1.1.2
  refine ⟨s', ?_⟩
  rw [checkRandomXProofOfWork_eq hs block hs', hrest, uint256S_of_not_digit rest hsp hd, hr]
  simpa [BitVec.lt_def, BitVec.toNat_eq] using Nat.pos_of_ne_zero
    (fun h => hpos (BitVec.eq_of_toNat_eq (by simpa using h)))

/-- A RandomX output of 32 bytes `0xff`, whatever the key and input. -/
def allOnesHash (_ _ : BitVec 256) : List UInt8 := List.replicate 32 0xff

/-- With a one-block active chain and `nBits = 0x1f07ffff`, a target in range below the
    limit `2^243 - 1`, the check accepts the header from start-up although its hash, read as
    a number, is `2^256 - 1`. -/
theorem checkRandomXProofOfWork_accepts_all_ones :
    (checkRandomXProofOfWork allOnesHash [1] RandomXState.init ⟨0, 0, 0⟩ 0x1f07ffff
      sampleParams).map Prod.fst = some true ∧
    (setCompact 0x1f07ffff).target.toNat ≤ leValue ((allOnesHash 0 0).map UInt8.toNat) := by
  obtain ⟨s', h⟩ := checkRandomXProofOfWork_of_not_digit allOnesHash (List.cons_ne_nil 1 [])
    (by simp) Reachable.init ⟨0, 0, 0⟩ 0xff (by decide) (by decide) (fun _ => ⟨_, rfl⟩)
    0x1f07ffff sampleParams (by decide)
  exact ⟨by rw [h]; rfl, by decide⟩

/-! ### Agreement between nodes -/

/-- Two nodes whose active chains both hold the same nonzero block at the scheduled key height,
    below their tips, return that block from `GetKeyBlock` whatever their earlier calls, and
    reach the same verdict on every header at that height. -/
theorem checkRandomXProofOfWork_same_key_block
    (randomxCalculateHash : BitVec 256 → BitVec 256 → List UInt8) (params : Params)
    (block : BlockHeader) (nBits : UInt32) {c₁ c₂ : List (BitVec 256)}
    {s₁ s₂ : RandomXState}
    (hs₁ : Reachable s₁) (hs₂ : Reachable s₂) (hlen₁ : c₁.length < 2 ^ 31)
    (hlen₂ : c₂.length < 2 ^ 31) {key : BitVec 256} (hkey : key ≠ 0)
    (h0 : 0 ≤ scheduledKeyHeight block.nHeight.toNat)
    (htip₁ : scheduledKeyHeight block.nHeight.toNat < chainHeight c₁)
    (htip₂ : scheduledKeyHeight block.nHeight.toNat < chainHeight c₂)
    (hat₁ : c₁[(scheduledKeyHeight block.nHeight.toNat).toNat]? = some key)
    (hat₂ : c₂[(scheduledKeyHeight block.nHeight.toNat).toNat]? = some key) :
    getKeyBlock c₁ s₁.currentKeyBlock block.nHeight = some key ∧
    getKeyBlock c₂ s₂.currentKeyBlock block.nHeight = some key ∧
    ∃ verdict,
      (checkRandomXProofOfWork randomxCalculateHash c₁ s₁ block nBits params).map Prod.fst =
        some verdict ∧
      (checkRandomXProofOfWork randomxCalculateHash c₂ s₂ block nBits params).map Prod.fst =
        some verdict := by
  have hk₁ := getKeyBlock_of_scheduled hlen₁ hkey h0 htip₁ hat₁
  have hk₂ := getKeyBlock_of_scheduled hlen₂ hkey h0 htip₂ hat₂
  have hne₁ : c₁ ≠ [] := by rintro rfl; simp at hat₁
  have hne₂ : c₂ ≠ [] := by rintro rfl; simp at hat₂
  obtain ⟨s₁', hu₁⟩ :=
    Option.isSome_iff_exists.mp (updateKey_isSome hne₁ hlen₁ s₁ block.nHeight)
  obtain ⟨s₂', hu₂⟩ :=
    Option.isSome_iff_exists.mp (updateKey_isSome hne₂ hlen₂ s₂ block.nHeight)
  obtain ⟨-, -, cur₁, hcur₁⟩ := updateKey_live hs₁.cacheLive hu₁
  obtain ⟨-, -, cur₂, hcur₂⟩ := updateKey_live hs₂.cacheLive hu₂
  have e₁ : s₁'.keyBlock = key := Option.some.inj ((hcur₁.symm.trans (hk₁ cur₁)))
  have e₂ : s₂'.keyBlock = key := Option.some.inj ((hcur₂.symm.trans (hk₂ cur₂)))
  refine ⟨hk₁ _, hk₂ _, targetInRange params nBits &&
    decide (uint256S (randomxCalculateHash key block.randomXHeaderHash) <
      (setCompact nBits).target), ?_, ?_⟩
  · simp [checkRandomXProofOfWork_eq hs₁ block hu₁, e₁]
  · simp [checkRandomXProofOfWork_eq hs₂ block hu₂, e₂]

/-- An active chain of 3000 blocks, the block at height `i` with hash `i + 1`. -/
def countingChain : List (BitVec 256) := (List.range 3000).map fun i => BitVec.ofNat 256 (i + 1)

theorem countingChain_length : countingChain.length = 3000 := by simp [countingChain]

theorem countingChain_getElem? {i : Nat} (hi : i < 3000) :
    countingChain[i]? = some (BitVec.ofNat 256 (i + 1)) := by
  simp [countingChain, List.getElem?_map, List.getElem?_range hi]

/-- A fresh node on the 3000-block chain and a node on its first 2500 blocks whose cache was
    moved to key `7`: both read the key block at height 2048 for a header at height 2148. -/
theorem checkRandomXProofOfWork_same_key_block_sample :
    Reachable RandomXState.init ∧ Reachable (keyBlockChanged RandomXState.init 7) ∧
    countingChain.length < 2 ^ 31 ∧ (countingChain.take 2500).length < 2 ^ 31 ∧
    (2049 : BitVec 256) ≠ 0 ∧ 0 ≤ scheduledKeyHeight (2148 : UInt32).toNat ∧
    scheduledKeyHeight (2148 : UInt32).toNat < chainHeight countingChain ∧
    scheduledKeyHeight (2148 : UInt32).toNat < chainHeight (countingChain.take 2500) ∧
    countingChain[(scheduledKeyHeight (2148 : UInt32).toNat).toNat]? = some 2049 ∧
    (countingChain.take 2500)[(scheduledKeyHeight (2148 : UInt32).toNat).toNat]? = some 2049 ∧
    (getKeyBlock countingChain RandomXState.init.currentKeyBlock 2148 = some 2049 ∧
    getKeyBlock (countingChain.take 2500) (keyBlockChanged RandomXState.init 7).currentKeyBlock
      2148 = some 2049 ∧
    ∃ verdict,
      (checkRandomXProofOfWork keyedHash countingChain RandomXState.init ⟨0, 2148, 0⟩ 0x01010000
        sampleParams).map Prod.fst = some verdict ∧
      (checkRandomXProofOfWork keyedHash (countingChain.take 2500)
        (keyBlockChanged RandomXState.init 7) ⟨0, 2148, 0⟩ 0x01010000 sampleParams).map
          Prod.fst = some verdict) := by
  have hk : scheduledKeyHeight (2148 : UInt32).toNat = 2048 := by decide
  have hr : Reachable (keyBlockChanged RandomXState.init 7) :=
    Reachable.step [] (.keyBlockChanged 7) Reachable.init rfl
  have hlen₁ : countingChain.length < 2 ^ 31 := by simp [countingChain_length]
  have hlen₂ : (countingChain.take 2500).length < 2 ^ 31 := by simp [countingChain_length]
  have h0 : 0 ≤ scheduledKeyHeight (2148 : UInt32).toNat := by rw [hk]; decide
  have htip₁ : scheduledKeyHeight (2148 : UInt32).toNat < chainHeight countingChain := by
    rw [hk]; simp [chainHeight, countingChain_length]
  have htip₂ : scheduledKeyHeight (2148 : UInt32).toNat <
      chainHeight (countingChain.take 2500) := by
    rw [hk]; simp [chainHeight, countingChain_length]
  have hat₁ : countingChain[(scheduledKeyHeight (2148 : UInt32).toNat).toNat]? = some 2049 := by
    rw [hk]; exact countingChain_getElem? (by decide)
  have hat₂ : (countingChain.take 2500)[(scheduledKeyHeight (2148 : UInt32).toNat).toNat]? =
      some 2049 := by
    rw [hk, List.getElem?_take_of_lt (by decide)]; exact countingChain_getElem? (by decide)
  exact ⟨Reachable.init, hr, hlen₁, hlen₂, by decide, h0, htip₁, htip₂, hat₁, hat₂,
    checkRandomXProofOfWork_same_key_block keyedHash sampleParams ⟨0, 2148, 0⟩ 0x01010000
      Reachable.init hr hlen₁ hlen₂ (by decide) h0 htip₁ htip₂ hat₁ hat₂⟩

/-- The statics after one `GetKeyBlock(2148)` on `countingChain`. -/
def keyedState : RandomXState := { RandomXState.init with currentKeyBlock := 2049 }

/-- Two nodes on the same active chain of 3000 blocks, one fresh and one after a single
    `GetKeyBlock(2148)`, get different keys for a header at height 4196, whose key height 4096
    is above their tip, and opposite verdicts for the target `1` (`nBits = 0x01010000`). -/
theorem checkRandomXProofOfWork_depends_on_history :
    (RandomXCall.getKeyBlock 2148).apply countingChain RandomXState.init = some keyedState ∧
    getKeyBlock countingChain RandomXState.init.currentKeyBlock 4196 = some 1 ∧
    getKeyBlock countingChain keyedState.currentKeyBlock 4196 = some 2049 ∧
    (checkRandomXProofOfWork keyedHash countingChain RandomXState.init ⟨0, 4196, 0⟩ 0x01010000
      sampleParams).map Prod.fst = some true ∧
    (checkRandomXProofOfWork keyedHash countingChain keyedState ⟨0, 4196, 0⟩ 0x01010000
      sampleParams).map Prod.fst = some false := by
  have hne : countingChain ≠ [] := List.ne_nil_of_length_pos (by simp [countingChain_length])
  have hlen : countingChain.length < 2 ^ 31 := by simp [countingChain_length]
  have hhead : countingChain.headD 0 = 1 := by
    rw [List.headD_eq_head?_getD, List.head?_eq_getElem?, countingChain_getElem? (by decide)]; rfl
  have hheight : chainHeight countingChain = 2999 := by simp [chainHeight, countingChain_length]
  have hfar : ∀ cur, getKeyBlock countingChain cur 4196 = some (if cur = 0 then 1 else cur) := by
    intro cur
    have hk : scheduledKeyHeight (4196 : UInt32).toNat = 4096 := by decide
    rw [getKeyBlock_eq hne hlen, hhead]
    simp only [hk, hheight]
    simp
  have hnear : getKeyBlock countingChain 0 2148 = some 2049 :=
    getKeyBlock_of_scheduled hlen (by decide) (by decide)
      (by rw [(by decide : scheduledKeyHeight (2148 : UInt32).toNat = 2048), hheight]; decide)
      (countingChain_getElem? (by decide)) 0
  have hstep : (RandomXCall.getKeyBlock 2148).apply countingChain RandomXState.init =
      some keyedState := by
    simp only [RandomXCall.apply]
    rw [show RandomXState.init.currentKeyBlock = 0 from rfl, hnear]; rfl
  have hu₁ : updateKey countingChain RandomXState.init 4196 = some ⟨1, true, some 1, 1⟩ := by
    simp [updateKey_eq, initRandomXLightCache, hfar, RandomXState.init, checkIfKeyShouldChange]
  have hu₂ :
      updateKey countingChain keyedState 4196 = some ⟨2049, true, some 2049, 2049⟩ := by
    simp [updateKey_eq, initRandomXLightCache, hfar, keyedState, RandomXState.init,
      checkIfKeyShouldChange]
  have hrange : targetInRange sampleParams 0x01010000 = true := by decide
  have htarget : (setCompact 0x01010000).target = 1 := by decide
  refine ⟨hstep, hfar 0, hfar 2049, ?_, ?_⟩
  · rw [checkRandomXProofOfWork_eq Reachable.init ⟨0, 4196, 0⟩ hu₁, hrange, htarget]; decide
  · rw [checkRandomXProofOfWork_eq (Reachable.step _ _ Reachable.init hstep) ⟨0, 4196, 0⟩
      hu₂, hrange, htarget]
    decide

end Pow

end Zclassic

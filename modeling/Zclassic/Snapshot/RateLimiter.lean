import Mathlib.Data.List.Range
import Mathlib.Logic.Function.Basic

/-!
# The Snapshot Rate Limiter

`CSnapshotRateLimiter` is the server's guard on snapshot chunk requests. Per peer address it
keeps a `PeerRequestInfo`: the times of recent admitted requests (a deque trimmed to the last
60 seconds), when each chunk was last served, the time of the last admitted request, and a
ban. Globally it counts the transfers under way and holds the configurable limits.

The model is the class with the clock passed to each method. `AllowRequest` reads and writes
one peer's entry through `mapPeerRequests[addr]`, which creates a fresh entry on first use;
its per-peer part is `admitPeer`, and the wrapper writes the entry back and counts the admitted
transfer. A run is a list of calls, each with the time it is made at.

Three facts about single calls carry the results below. `admitPeer` never touches the served
chunks (`admitPeer_servedChunks`). It admits only below the global cap (`admitPeer_allowed`)
and then appends the time to the trimmed deque. And with the deque no longer than the
per-minute limit and that limit below the ban threshold, it never bans
(`admitPeer_of_not_banned`). `admitPeer_cases` says once everything one `AllowRequest` can do
to an entry, and `RateLimiter.info_step` what any call does to it.

From these: the transfer count is exact and within its cap in every state a well-behaved
server reaches (`Serving.active_eq`); a `RecordServed` suppresses the same request until the
window closes as long as no `Cleanup` runs in between (`allowRequest_rejected_after_served`);
with the default limits no peer is ever banned (`BanFree.after`). Without `RecordServed` the
duplicate window is not enforced (`allowRequest_twice_unserved`), and a flood of requests is
rejected for the per-minute limit, never with a ban (`isBanned_after_flood`). A ban, once set,
is lifted by no call before it ends: `AllowRequest` refuses as banned without touching the
entry, `RecordServed` stamps only the served chunks and `Cleanup` keeps banned entries
(`allowRequest_ban_holds`).

## Main definitions

* `PeerRequestInfo`, `Limits`, `RateLimiter`: The state of `CSnapshotRateLimiter`.
* `Rejection`: The reasons `AllowRequest` gives, with their `strError` texts.
* `admitPeer`, `RateLimiter.allowRequest`, `RateLimiter.recordServed`,
  `RateLimiter.completeTransfer`, `RateLimiter.isBanned`, `RateLimiter.cleanup`,
  `RateLimiter.setLimits`: The methods.
* `Call`, `RateLimiter.step`, `RateLimiter.outputs`, `RateLimiter.after`: Runs.
* `Serving`: The states reached when transfers are completed after their admission.
* `BannedUntil`: A peer banned until a given time.

## Theorems

* `admitPeer_cases`: What one `AllowRequest` does to a peer's entry.
* `RateLimiter.info_step`: What one call does to a peer's entry.
* `Serving.active_eq`: `nActiveTransfers` counts the transfers under way, within the cap.
* `allowRequest_rejected_after_served`: No second admission within the duplicate window.
* `BanFree.after`: Default limits never ban.
* `allowRequest_ban_holds`: A ban holds for its whole duration, whatever the calls in between.
-/

namespace Zclassic

namespace Snapshot

/-- `CSnapshotRateLimiter::PeerRequestInfo`. The deque `requestTimes` has its front first. -/
structure PeerRequestInfo where
  requestTimes : List Int
  servedChunks : Nat → Option Int
  nLastRequestTime : Int
  bIsBanned : Bool
  nBanUntil : Int

/-- `PeerRequestInfo()`, the entry `mapPeerRequests[addr]` creates. -/
def PeerRequestInfo.empty : PeerRequestInfo := ⟨[], fun _ => none, 0, false, 0⟩

/-- The configurable limits of `CSnapshotRateLimiter`. -/
structure Limits where
  nMaxChunksPerPeerPerMinute : UInt32
  nMaxConcurrentTransfers : UInt32
  nMinSecondsBetweenRequests : UInt32
  nDuplicateChunkWindowSec : UInt32
  nBanThreshold : UInt32
  nBanDurationSec : UInt32
  deriving DecidableEq, Repr

/-- The limits the constructor sets. -/
def Limits.default : Limits := ⟨30, 25, 2, 300, 100, 300⟩

/-- `CSnapshotRateLimiter`, for peer addresses of type `Addr`. -/
structure RateLimiter (Addr : Type) where
  mapPeerRequests : Addr → Option PeerRequestInfo
  nActiveTransfers : UInt32
  /-- `nTotalBytesServed`, as the `uint64_t` that `GetTotalBytesServed` returns. -/
  nTotalBytesServed : Nat
  nLastResetTime : Int
  limits : Limits

/-- Why `AllowRequest` refuses, with what it puts in `strError`. -/
inductive Rejection
  | banned (nBanUntil : Int)
  | atCapacity (nMaxConcurrentTransfers : UInt32)
  | tooFast (wait : Int)
  | alreadyServed (nChunk : Nat) (timeSinceServed : Int)
  | rateLimit (nMaxChunksPerPeerPerMinute : UInt32)
  deriving DecidableEq, Repr

/-- The text `AllowRequest` writes to `strError`. -/
def Rejection.strError : Rejection → String
  | .banned t => s!"Peer banned until {t}"
  | .atCapacity n => s!"Server at capacity ({n} concurrent transfers)"
  | .tooFast w => s!"Too fast - wait {w} seconds between requests"
  | .alreadyServed c t => s!"Already served chunk {c} to you {t} seconds ago"
  | .rateLimit n => s!"Rate limit: max {n} chunks per minute"

/-- What `AllowRequest` returns: `true`, or `false` with a reason. -/
inductive Verdict
  | allowed
  | rejected (r : Rejection)
  deriving DecidableEq, Repr

/-- The trimming loop of `AllowRequest`: pop the front while it is more than 60 seconds old. -/
def trimRequestTimes (nNow : Int) : List Int → List Int
  | [] => []
  | t :: ts => if nNow - t > 60 then trimRequestTimes nNow ts else t :: ts

/-- The duplicate check: how long ago `nChunk` was served, if that is within `window`. -/
def PeerRequestInfo.servedWithin (info : PeerRequestInfo) (nChunk : Nat) (nNow window : Int) :
    Option Int :=
  match info.servedChunks nChunk with
  | some t => if nNow - t < window then some (nNow - t) else none
  | none => none

/-- Lifting an expired ban: the flag, the time and the deque are cleared. -/
def PeerRequestInfo.unban (info : PeerRequestInfo) : PeerRequestInfo :=
  if info.bIsBanned then { info with bIsBanned := false, nBanUntil := 0, requestTimes := [] }
  else info

/-- The per-minute check of `AllowRequest`, on the deque trimmed at `nNow`, with the ban a peer
    far over the limit gets. -/
def admitWithinRate (lim : Limits) (info : PeerRequestInfo) (nNow : Int) :
    Verdict × PeerRequestInfo :=
  let info := { info with requestTimes := trimRequestTimes nNow info.requestTimes }
  if lim.nMaxChunksPerPeerPerMinute.toNat ≤ info.requestTimes.length then
    (.rejected (.rateLimit lim.nMaxChunksPerPeerPerMinute),
      if lim.nBanThreshold.toNat ≤ info.requestTimes.length then
        { info with bIsBanned := true, nBanUntil := nNow + lim.nBanDurationSec.toNat }
      else info)
  else (.allowed,
    { info with requestTimes := info.requestTimes ++ [nNow], nLastRequestTime := nNow })

/-- The per-peer part of `AllowRequest`: the verdict and the peer's entry after it, given the
    limits and the number of active transfers it reads. -/
def admitPeer (lim : Limits) (nActiveTransfers : UInt32) (info : PeerRequestInfo) (nChunk : Nat)
    (nNow : Int) : Verdict × PeerRequestInfo :=
  if info.bIsBanned ∧ nNow < info.nBanUntil then (.rejected (.banned info.nBanUntil), info) else
  let info := info.unban
  if lim.nMaxConcurrentTransfers ≤ nActiveTransfers then
    (.rejected (.atCapacity lim.nMaxConcurrentTransfers), info) else
  if 0 < info.nLastRequestTime ∧
      nNow - info.nLastRequestTime < lim.nMinSecondsBetweenRequests.toNat then
    (.rejected (.tooFast (lim.nMinSecondsBetweenRequests.toNat - (nNow - info.nLastRequestTime))),
      info) else
  match info.servedWithin nChunk nNow lim.nDuplicateChunkWindowSec.toNat with
  | some ago => (.rejected (.alreadyServed nChunk ago), info)
  | none => admitWithinRate lim info nNow

namespace RateLimiter

variable {Addr : Type}

/-- `CSnapshotRateLimiter()` at time `nNow`. -/
def init (nNow : Int) : RateLimiter Addr :=
  ⟨fun _ => none, 0, 0, nNow, Limits.default⟩

/-- `mapPeerRequests[addr]`: the entry, or the one it would create. -/
def info (s : RateLimiter Addr) (addr : Addr) : PeerRequestInfo :=
  (s.mapPeerRequests addr).getD .empty

/-- `CompleteTransfer()`. -/
def completeTransfer (s : RateLimiter Addr) : RateLimiter Addr :=
  if 0 < s.nActiveTransfers then { s with nActiveTransfers := s.nActiveTransfers - 1 } else s

/-- `IsBanned(addr)` at time `nNow`. -/
def isBanned (s : RateLimiter Addr) (addr : Addr) (nNow : Int) : Bool :=
  match s.mapPeerRequests addr with
  | none => false
  | some info => info.bIsBanned && decide (nNow < info.nBanUntil)

/-- Whether `Cleanup` at `nNow` keeps an entry: seen in the last 10 minutes, or banned. -/
def keepsEntry (nNow : Int) (info : PeerRequestInfo) : Bool :=
  !(decide (nNow - info.nLastRequestTime > 600) && !info.bIsBanned)

/-- `Cleanup()` at time `nNow`. -/
def cleanup (s : RateLimiter Addr) (nNow : Int) : RateLimiter Addr :=
  let s := { s with mapPeerRequests := fun a => (s.mapPeerRequests a).filter (keepsEntry nNow) }
  if nNow - s.nLastResetTime > 3600 then { s with nTotalBytesServed := 0, nLastResetTime := nNow }
  else s

/-- `SetLimits(maxChunksPerMin, maxConcurrent, minSecBetween)`. -/
def setLimits (s : RateLimiter Addr) (maxChunksPerMin maxConcurrent minSecBetween : UInt32) :
    RateLimiter Addr :=
  let lim := s.limits
  { s with limits := { lim with nMaxChunksPerPeerPerMinute := maxChunksPerMin
                                nMaxConcurrentTransfers := maxConcurrent
                                nMinSecondsBetweenRequests := minSecBetween } }

variable [DecidableEq Addr]

/-- Write the entry of `addr`. -/
def setInfo (s : RateLimiter Addr) (addr : Addr) (info : PeerRequestInfo) : RateLimiter Addr :=
  { s with mapPeerRequests := Function.update s.mapPeerRequests addr (some info) }

/-- `AllowRequest(addr, nChunk, strError)` at time `nNow`. -/
def allowRequest (s : RateLimiter Addr) (addr : Addr) (nChunk : Nat) (nNow : Int) :
    Verdict × RateLimiter Addr :=
  let r := admitPeer s.limits s.nActiveTransfers (s.info addr) nChunk nNow
  let s' := s.setInfo addr r.2
  (r.1, { s' with
    nActiveTransfers := if r.1 = .allowed then s.nActiveTransfers + 1 else s.nActiveTransfers })

/-- `RecordServed(addr, nChunk, nBytes)` at time `nNow`. -/
def recordServed (s : RateLimiter Addr) (addr : Addr) (nChunk nBytes : Nat) (nNow : Int) :
    RateLimiter Addr :=
  let info := s.info addr
  let s' := s.setInfo addr
    { info with servedChunks := Function.update info.servedChunks nChunk (some nNow) }
  { s' with nTotalBytesServed := (s.nTotalBytesServed + nBytes) % UInt64.size }

end RateLimiter

/-- A call on the rate limiter. -/
inductive Call (Addr : Type)
  | allowRequest (addr : Addr) (nChunk : Nat)
  | recordServed (addr : Addr) (nChunk nBytes : Nat)
  | completeTransfer
  | isBanned (addr : Addr)
  | cleanup
  | setLimits (maxChunksPerMin maxConcurrent minSecBetween : UInt32)

/-- What a call returns. -/
inductive Output
  | verdict (v : Verdict)
  | banned (b : Bool)
  | done
  deriving DecidableEq, Repr

/-- Whether a call is `Cleanup`. -/
def Call.isCleanup {Addr : Type} : Call Addr → Bool
  | .cleanup => true
  | _ => false

/-- Whether a call is `SetLimits`. -/
def Call.setsLimits {Addr : Type} : Call Addr → Bool
  | .setLimits .. => true
  | _ => false

namespace RateLimiter

variable {Addr : Type}

@[simp] theorem info_init (t : Int) (a : Addr) : (init t : RateLimiter Addr).info a = .empty := rfl

/-- `IsBanned` reads the entry `mapPeerRequests[addr]` would give. -/
theorem isBanned_eq (s : RateLimiter Addr) (a : Addr) (nNow : Int) :
    s.isBanned a nNow = ((s.info a).bIsBanned && decide (nNow < (s.info a).nBanUntil)) := by
  unfold isBanned info
  cases s.mapPeerRequests a <;> rfl

theorem cleanup_mapPeerRequests (s : RateLimiter Addr) (t : Int) :
    (s.cleanup t).mapPeerRequests = fun a => (s.mapPeerRequests a).filter (keepsEntry t) := by
  unfold cleanup; dsimp only; split_ifs <;> rfl

/-- What `Cleanup` leaves of an entry. -/
theorem info_cleanup (s : RateLimiter Addr) (t : Int) (a : Addr) :
    (s.cleanup t).info a = if keepsEntry t (s.info a) then s.info a else .empty := by
  unfold info
  rw [cleanup_mapPeerRequests]
  cases h : s.mapPeerRequests a with
  | none => simp [h, keepsEntry, PeerRequestInfo.empty]
  | some i => by_cases hk : keepsEntry t i <;> simp [h, Option.filter, hk]

@[simp] theorem cleanup_limits (s : RateLimiter Addr) (t : Int) :
    (s.cleanup t).limits = s.limits := by
  unfold cleanup; dsimp only; split_ifs <;> rfl

@[simp] theorem cleanup_nActiveTransfers (s : RateLimiter Addr) (t : Int) :
    (s.cleanup t).nActiveTransfers = s.nActiveTransfers := by
  unfold cleanup; dsimp only; split_ifs <;> rfl

@[simp] theorem setLimits_info (s : RateLimiter Addr) (m c t : UInt32) :
    (s.setLimits m c t).info = s.info := rfl

@[simp] theorem setLimits_nMaxChunksPerPeerPerMinute (s : RateLimiter Addr) (m c t : UInt32) :
    (s.setLimits m c t).limits.nMaxChunksPerPeerPerMinute = m := rfl

@[simp] theorem setLimits_nBanDurationSec (s : RateLimiter Addr) (m c t : UInt32) :
    (s.setLimits m c t).limits.nBanDurationSec = s.limits.nBanDurationSec := rfl

@[simp] theorem completeTransfer_info (s : RateLimiter Addr) :
    s.completeTransfer.info = s.info := by
  unfold completeTransfer; split_ifs <;> rfl

@[simp] theorem completeTransfer_limits (s : RateLimiter Addr) :
    s.completeTransfer.limits = s.limits := by
  unfold completeTransfer; split_ifs <;> rfl

variable [DecidableEq Addr]

/-- One call at time `nNow`. -/
def step (s : RateLimiter Addr) (nNow : Int) : Call Addr → RateLimiter Addr × Output
  | .allowRequest a c => ((s.allowRequest a c nNow).2, .verdict (s.allowRequest a c nNow).1)
  | .recordServed a c b => (s.recordServed a c b nNow, .done)
  | .completeTransfer => (s.completeTransfer, .done)
  | .isBanned a => (s, .banned (s.isBanned a nNow))
  | .cleanup => (s.cleanup nNow, .done)
  | .setLimits m c t => (s.setLimits m c t, .done)

/-- The outputs of a run, one per call. -/
def outputs (s : RateLimiter Addr) : List (Int × Call Addr) → List Output
  | [] => []
  | (t, c) :: evs => (s.step t c).2 :: (s.step t c).1.outputs evs

/-- The state after a run. -/
def after (s : RateLimiter Addr) : List (Int × Call Addr) → RateLimiter Addr
  | [] => s
  | (t, c) :: evs => (s.step t c).1.after evs

@[simp] theorem after_nil (s : RateLimiter Addr) : s.after [] = s := rfl

@[simp] theorem after_cons (s : RateLimiter Addr) (t : Int) (c : Call Addr)
    (evs : List (Int × Call Addr)) : s.after ((t, c) :: evs) = (s.step t c).1.after evs := rfl

theorem after_append (s : RateLimiter Addr) (evs evs' : List (Int × Call Addr)) :
    s.after (evs ++ evs') = (s.after evs).after evs' := by
  induction evs generalizing s with
  | nil => rfl
  | cons e evs ih => exact ih _

/-! ### Entries -/

@[simp] theorem info_setInfo (s : RateLimiter Addr) (a b : Addr) (i : PeerRequestInfo) :
    (s.setInfo a i).info b = if b = a then i else s.info b := by
  by_cases h : b = a <;> simp [info, setInfo, h, Function.update_noteq]

@[simp] theorem setInfo_limits (s : RateLimiter Addr) (a : Addr) (i : PeerRequestInfo) :
    (s.setInfo a i).limits = s.limits := rfl

@[simp] theorem setInfo_nActiveTransfers (s : RateLimiter Addr) (a : Addr) (i : PeerRequestInfo) :
    (s.setInfo a i).nActiveTransfers = s.nActiveTransfers := rfl

end RateLimiter

/-! ### One admission -/

/-- Trimming drops a prefix of times more than 60 seconds old. -/
theorem trimRequestTimes_split (t : Int) (l : List Int) :
    ∃ P, l = P ++ trimRequestTimes t l ∧ ∀ x ∈ P, t - x > 60 := by
  induction l with
  | nil => exact ⟨[], rfl, by simp⟩
  | cons x l ih =>
    unfold trimRequestTimes
    split_ifs with h
    · obtain ⟨P, hP, hold⟩ := ih
      exact ⟨x :: P, by simp [← hP], by simpa [h] using hold⟩
    · exact ⟨[], rfl, by simp⟩

theorem length_trimRequestTimes_le (t : Int) (l : List Int) :
    (trimRequestTimes t l).length ≤ l.length := by
  obtain ⟨P, hP, -⟩ := trimRequestTimes_split t l
  conv_rhs => rw [hP]
  simp

theorem mem_of_mem_trimRequestTimes {t x : Int} {l : List Int} (h : x ∈ trimRequestTimes t l) :
    x ∈ l := by
  obtain ⟨P, hP, -⟩ := trimRequestTimes_split t l
  rw [hP]; exact List.mem_append_right P h

@[simp] theorem unban_servedChunks (info : PeerRequestInfo) :
    info.unban.servedChunks = info.servedChunks := by
  unfold PeerRequestInfo.unban; split <;> rfl

theorem unban_of_not_banned {info : PeerRequestInfo} (h : info.bIsBanned = false) :
    info.unban = info := by
  simp [PeerRequestInfo.unban, h]

@[simp] theorem unban_bIsBanned (info : PeerRequestInfo) : info.unban.bIsBanned = false := by
  unfold PeerRequestInfo.unban; split <;> simp_all

@[simp] theorem unban_nLastRequestTime (info : PeerRequestInfo) :
    info.unban.nLastRequestTime = info.nLastRequestTime := by
  unfold PeerRequestInfo.unban; split <;> rfl

theorem mem_of_mem_unban {info : PeerRequestInfo} {τ : Int} (h : τ ∈ info.unban.requestTimes) :
    τ ∈ info.requestTimes := by
  unfold PeerRequestInfo.unban at h; split at h
  · simp at h
  · exact h

@[simp] theorem admitWithinRate_servedChunks (lim : Limits) (info : PeerRequestInfo) (t : Int) :
    (admitWithinRate lim info t).2.servedChunks = info.servedChunks := by
  unfold admitWithinRate; dsimp only; split_ifs <;> rfl

/-- The per-minute check admits below the limit, appending the time to the trimmed deque. -/
theorem admitWithinRate_allowed {lim : Limits} {info : PeerRequestInfo} {t : Int}
    (h : (admitWithinRate lim info t).1 = .allowed) :
    (trimRequestTimes t info.requestTimes).length < lim.nMaxChunksPerPeerPerMinute.toNat ∧
    (admitWithinRate lim info t).2 = { info with
      requestTimes := trimRequestTimes t info.requestTimes ++ [t], nLastRequestTime := t } := by
  unfold admitWithinRate at *
  dsimp only at h ⊢
  split_ifs at h ⊢ with h₁
  exact ⟨by omega, rfl⟩

/-- Below the ban threshold the per-minute check admits, or refuses with the deque trimmed. -/
theorem admitWithinRate_of_lt {lim : Limits} {info : PeerRequestInfo} {t : Int}
    (hlen : info.requestTimes.length < lim.nBanThreshold.toNat) :
    (admitWithinRate lim info t).1 = .allowed ∨
      (admitWithinRate lim info t).1 ≠ .allowed ∧ (admitWithinRate lim info t).2 =
        { info with requestTimes := trimRequestTimes t info.requestTimes } := by
  have htrim := length_trimRequestTimes_le t info.requestTimes
  unfold admitWithinRate
  dsimp only
  split_ifs with h₁ h₂
  · omega
  · exact .inr ⟨by simp, rfl⟩
  · exact .inl rfl

/-- `AllowRequest` never touches the served chunks. -/
@[simp] theorem admitPeer_servedChunks (lim : Limits) (n : UInt32) (info : PeerRequestInfo)
    (c : Nat) (t : Int) : (admitPeer lim n info c t).2.servedChunks = info.servedChunks := by
  unfold admitPeer
  dsimp only
  split_ifs
  · rfl
  · simp
  · simp
  · split <;> simp

/-- An admission happens below the global cap, past the per-peer checks, and appends its time
    to the trimmed deque. -/
theorem admitPeer_allowed {lim : Limits} {n : UInt32} {info : PeerRequestInfo} {c : Nat} {t : Int}
    (h : (admitPeer lim n info c t).1 = .allowed) :
    n < lim.nMaxConcurrentTransfers ∧
    (trimRequestTimes t info.unban.requestTimes).length < lim.nMaxChunksPerPeerPerMinute.toNat ∧
    (admitPeer lim n info c t).2 = { info.unban with
      requestTimes := trimRequestTimes t info.unban.requestTimes ++ [t]
      nLastRequestTime := t } := by
  unfold admitPeer at *
  dsimp only at h ⊢
  split_ifs at h ⊢ with h₁ h₂
  split at h
  · cases h
  · exact ⟨by simpa using h₂, admitWithinRate_allowed h⟩

/-- A request for a chunk served within the duplicate window is refused. -/
theorem admitPeer_rejected_of_servedWithin {lim : Limits} {n : UInt32} {info : PeerRequestInfo}
    {c : Nat} {t : Int}
    (hs : info.servedWithin c t lim.nDuplicateChunkWindowSec.toNat ≠ none) :
    (admitPeer lim n info c t).1 ≠ .allowed := by
  have hs' : info.unban.servedWithin c t lim.nDuplicateChunkWindowSec.toNat ≠ none := by
    simpa [PeerRequestInfo.servedWithin] using hs
  unfold admitPeer
  dsimp only
  split_ifs
  · simp
  · simp
  · simp
  · split
    · simp
    · contradiction

/-- With the deque below the ban threshold and not banned, `AllowRequest` keeps the peer
    unbanned: it admits and appends, or leaves the entry with the deque at most trimmed. -/
theorem admitPeer_of_not_banned (lim : Limits) (n : UInt32) {info : PeerRequestInfo} (c : Nat)
    (t : Int) (hb : info.bIsBanned = false)
    (hlen : info.requestTimes.length < lim.nBanThreshold.toNat) :
    ((admitPeer lim n info c t).1 = .allowed ∧
      (trimRequestTimes t info.requestTimes).length < lim.nMaxChunksPerPeerPerMinute.toNat ∧
      (admitPeer lim n info c t).2 = { info with
        requestTimes := trimRequestTimes t info.requestTimes ++ [t], nLastRequestTime := t }) ∨
    ((admitPeer lim n info c t).1 ≠ .allowed ∧
      ((admitPeer lim n info c t).2 = info ∨
        (admitPeer lim n info c t).2 =
          { info with requestTimes := trimRequestTimes t info.requestTimes })) := by
  by_cases ha : (admitPeer lim n info c t).1 = .allowed
  · have := admitPeer_allowed ha
    rw [unban_of_not_banned hb] at this
    exact .inl ⟨ha, this.2⟩
  refine .inr ⟨ha, ?_⟩
  unfold admitPeer at ha ⊢
  simp only [hb, Bool.false_eq_true, false_and, if_false, unban_of_not_banned hb] at ha ⊢
  split_ifs at ha ⊢
  · exact .inl rfl
  · exact .inl rfl
  · split
    · exact .inl rfl
    · rename_i heq
      simp only [heq] at ha
      have h := ((admitWithinRate_of_lt hlen).resolve_left ha).2
      rw [hb] at h
      exact .inr h

/-- A banned peer is refused, and its entry left as it is, until the ban ends. -/
theorem admitPeer_of_banned {lim : Limits} {n : UInt32} {info : PeerRequestInfo} (c : Nat)
    {t : Int} (hb : info.bIsBanned = true) (ht : t < info.nBanUntil) :
    admitPeer lim n info c t = (.rejected (.banned info.nBanUntil), info) := by
  rw [admitPeer, if_pos ⟨hb, ht⟩]

/-- Everything `AllowRequest` can do to an entry. Under a ban still running it refuses and
    leaves the entry. Otherwise it works on the entry with any expired ban lifted: it admits and
    appends the time to the trimmed deque, or it refuses and leaves that entry, trims its deque,
    or trims its deque and bans the peer for `nBanDurationSec` from the time of the call. -/
theorem admitPeer_cases (lim : Limits) (n : UInt32) (info : PeerRequestInfo) (c : Nat) (t : Int) :
    (info.bIsBanned = true ∧ t < info.nBanUntil ∧
      admitPeer lim n info c t = (.rejected (.banned info.nBanUntil), info)) ∨
    ¬(info.bIsBanned = true ∧ t < info.nBanUntil) ∧
      (((admitPeer lim n info c t).1 = .allowed ∧
        (trimRequestTimes t info.unban.requestTimes).length <
          lim.nMaxChunksPerPeerPerMinute.toNat ∧
        (admitPeer lim n info c t).2 = { info.unban with
          requestTimes := trimRequestTimes t info.unban.requestTimes ++ [t]
          nLastRequestTime := t }) ∨
      ((admitPeer lim n info c t).1 ≠ .allowed ∧
        ((admitPeer lim n info c t).2 = info.unban ∨
          (admitPeer lim n info c t).2 =
            { info.unban with requestTimes := trimRequestTimes t info.unban.requestTimes } ∨
          (admitPeer lim n info c t).2 =
            { info.unban with
              requestTimes := trimRequestTimes t info.unban.requestTimes
              bIsBanned := true
              nBanUntil := t + lim.nBanDurationSec.toNat }))) := by
  by_cases hb : info.bIsBanned = true ∧ t < info.nBanUntil
  · exact .inl ⟨hb.1, hb.2, admitPeer_of_banned c hb.1 hb.2⟩
  refine .inr ⟨hb, ?_⟩
  by_cases ha : (admitPeer lim n info c t).1 = .allowed
  · exact .inl ⟨ha, (admitPeer_allowed ha).2⟩
  refine .inr ⟨ha, ?_⟩
  unfold admitPeer at ha ⊢
  rw [if_neg hb] at ha ⊢
  dsimp only at ha ⊢
  split_ifs at ha ⊢
  · exact .inl rfl
  · exact .inl rfl
  split
  · exact .inl rfl
  rename_i heq
  simp only [heq] at ha
  unfold admitWithinRate at ha ⊢
  dsimp only at ha ⊢
  split_ifs at ha ⊢
  · exact .inr (.inr rfl)
  · exact .inr (.inl rfl)
  · exact absurd rfl ha

/-! ### Steps -/

theorem uint32_lt_iff {a b : UInt32} : a < b ↔ a.toNat < b.toNat := by
  rw [UInt32.lt_def, BitVec.lt_def]; rfl

theorem uint32_le_iff {a b : UInt32} : a ≤ b ↔ a.toNat ≤ b.toNat := by
  rw [UInt32.le_def, BitVec.le_def]; rfl

theorem uint32_toNat_add_one {a b : UInt32} (h : a < b) : (a + 1).toNat = a.toNat + 1 := by
  have hb := b.toNat_lt_size
  rw [uint32_lt_iff] at h
  show (a.toBitVec + 1#32).toNat = a.toNat + 1
  rw [BitVec.toNat_add, BitVec.toNat_ofNat]
  simp only [UInt32.size] at hb
  exact Nat.mod_eq_of_lt (by simp only [UInt32.toNat] at h hb ⊢; omega)

namespace RateLimiter

variable {Addr : Type} [DecidableEq Addr]

/-- The entry `AllowRequest` leaves, and the count of active transfers. -/
theorem allowRequest_eq (s : RateLimiter Addr) (a : Addr) (c : Nat) (t : Int) :
    (s.allowRequest a c t).2 =
      { s.setInfo a (admitPeer s.limits s.nActiveTransfers (s.info a) c t).2 with
        nActiveTransfers := if (admitPeer s.limits s.nActiveTransfers (s.info a) c t).1 = .allowed
          then s.nActiveTransfers + 1 else s.nActiveTransfers } := rfl

@[simp] theorem allowRequest_limits (s : RateLimiter Addr) (a : Addr) (c : Nat) (t : Int) :
    (s.allowRequest a c t).2.limits = s.limits := rfl

@[simp] theorem info_allowRequest (s : RateLimiter Addr) (a b : Addr) (c : Nat) (t : Int) :
    (s.allowRequest a c t).2.info b =
      if b = a then (admitPeer s.limits s.nActiveTransfers (s.info a) c t).2 else s.info b := by
  rw [allowRequest_eq]; exact info_setInfo _ _ _ _

@[simp] theorem info_recordServed (s : RateLimiter Addr) (a b : Addr) (c n : Nat) (t : Int) :
    (s.recordServed a c n t).info b = if b = a then { s.info a with
      servedChunks := Function.update (s.info a).servedChunks c (some t) } else s.info b :=
  info_setInfo _ _ _ _

@[simp] theorem recordServed_limits (s : RateLimiter Addr) (a : Addr) (c n : Nat) (t : Int) :
    (s.recordServed a c n t).limits = s.limits := rfl

@[simp] theorem recordServed_nActiveTransfers (s : RateLimiter Addr) (a : Addr) (c n : Nat)
    (t : Int) : (s.recordServed a c n t).nActiveTransfers = s.nActiveTransfers := rfl

/-- Every call but `SetLimits` keeps the limits, and none changes the duplicate window. -/
theorem step_limits (s : RateLimiter Addr) (t : Int) (c : Call Addr) (hc : c.setsLimits = false) :
    (s.step t c).1.limits = s.limits := by
  cases c <;> simp_all [step, Call.setsLimits]

theorem step_nDuplicateChunkWindowSec (s : RateLimiter Addr) (t : Int) (c : Call Addr) :
    (s.step t c).1.limits.nDuplicateChunkWindowSec = s.limits.nDuplicateChunkWindowSec := by
  cases c <;> simp [step, setLimits]

/-- What one call does to the entry of `b`: nothing, the checks of an `AllowRequest` from `b`,
    the stamp of a `RecordServed` for `b`, or the erasure by `Cleanup` of an entry it does not
    keep. -/
theorem info_step (s : RateLimiter Addr) (t : Int) (c : Call Addr) (b : Addr) :
    (s.step t c).1.info b = s.info b ∨
    (∃ k, c = .allowRequest b k ∧
      (s.step t c).1.info b = (admitPeer s.limits s.nActiveTransfers (s.info b) k t).2) ∨
    (∃ k n, c = .recordServed b k n ∧ (s.step t c).1.info b =
      { s.info b with servedChunks := Function.update (s.info b).servedChunks k (some t) }) ∨
    (c = .cleanup ∧ keepsEntry t (s.info b) = false ∧ (s.step t c).1.info b = .empty) := by
  cases c with
  | allowRequest a k =>
    by_cases h : b = a
    · subst h; exact .inr (.inl ⟨k, rfl, by simp [step]⟩)
    · exact .inl (by simp [step, h])
  | recordServed a k n =>
    by_cases h : b = a
    · subst h; exact .inr (.inr (.inl ⟨k, n, rfl, by simp [step]⟩))
    · exact .inl (by simp [step, h])
  | completeTransfer => exact .inl (by simp [step])
  | isBanned a => exact .inl rfl
  | cleanup =>
    rw [show (s.step t .cleanup).1 = s.cleanup t from rfl, info_cleanup]
    split_ifs with hk
    · exact .inl rfl
    · exact .inr (.inr (.inr ⟨rfl, Bool.eq_false_iff.mpr hk, rfl⟩))
  | setLimits m k r => exact .inl rfl

end RateLimiter

/-! ### Transfers under way -/

/-- The number of transfers under way after a call: one more for an admission, one fewer for
    a completion. -/
def Call.pending {Addr : Type} : Call Addr → Output → Nat → Nat
  | .allowRequest .., .verdict .allowed, n => n + 1
  | .completeTransfer, _, n => n - 1
  | _, _, n => n

/-- What the server's caller promises: `CompleteTransfer` ends a transfer under way, and
    `SetLimits` leaves room for the transfers under way. -/
def Call.Respects {Addr : Type} : Call Addr → Nat → Prop
  | .completeTransfer, n => 0 < n
  | .setLimits _ maxConcurrent _, n => n ≤ maxConcurrent.toNat
  | _, _ => True

variable {Addr : Type}

section

variable [DecidableEq Addr]

/-- The states a server reaches, with the number of admitted transfers not yet completed, when
    its caller keeps `Call.Respects`. -/
inductive Serving : RateLimiter Addr → Nat → Prop
  | init (t : Int) : Serving (RateLimiter.init t) 0
  | step {s : RateLimiter Addr} {n : Nat} (t : Int) (c : Call Addr) :
      Serving s n → c.Respects n → Serving (s.step t c).1 (c.pending (s.step t c).2 n)

/-- One call keeps the count of active transfers exact and within the cap. -/
theorem active_step {s : RateLimiter Addr} {n : Nat} (t : Int) (c : Call Addr)
    (hs : s.nActiveTransfers.toNat = n ∧ n ≤ s.limits.nMaxConcurrentTransfers.toNat)
    (hc : c.Respects n) :
    (s.step t c).1.nActiveTransfers.toNat = c.pending (s.step t c).2 n ∧
      c.pending (s.step t c).2 n ≤ (s.step t c).1.limits.nMaxConcurrentTransfers.toNat := by
  obtain ⟨rfl, hle⟩ := hs
  cases c with
  | allowRequest a k =>
    have hv : (s.allowRequest a k t).1 =
      (admitPeer s.limits s.nActiveTransfers (s.info a) k t).1 := rfl
    simp only [RateLimiter.step, RateLimiter.allowRequest_eq, hv]
    cases hr : (admitPeer s.limits s.nActiveTransfers (s.info a) k t).1 with
    | allowed =>
      have hlt := (admitPeer_allowed hr).1
      simp only [if_true, Call.pending, RateLimiter.setInfo_limits]
      exact ⟨uint32_toNat_add_one hlt, by rw [uint32_lt_iff] at hlt; omega⟩
    | rejected r => simpa [Call.pending] using hle
  | completeTransfer =>
    have h0 : 0 < s.nActiveTransfers := by rw [uint32_lt_iff]; exact hc
    have h1 : 1 ≤ s.nActiveTransfers := by rw [uint32_le_iff]; exact hc
    simp only [RateLimiter.step, RateLimiter.completeTransfer, h0, if_true, Call.pending]
    exact ⟨UInt32.toNat_sub_of_le _ _ h1, by omega⟩
  | setLimits m c' r => exact ⟨rfl, hc⟩
  | recordServed a k b => exact ⟨rfl, hle⟩
  | isBanned a => exact ⟨rfl, hle⟩
  | cleanup =>
    exact ⟨by simp [RateLimiter.step, Call.pending], by simpa [RateLimiter.step] using hle⟩

/-- In every state a server reaches, `nActiveTransfers` is the number of admitted transfers not
    yet completed, and that number is within `nMaxConcurrentTransfers`. -/
theorem Serving.active_eq {s : RateLimiter Addr} {n : Nat} (h : Serving s n) :
    s.nActiveTransfers.toNat = n ∧ n ≤ s.limits.nMaxConcurrentTransfers.toNat := by
  induction h with
  | init t => exact ⟨rfl, Nat.zero_le _⟩
  | step t c _ hc ih => exact active_step t c ih hc

/-- From start-up: peer `0` is admitted at 1000, `SetLimits(30, 1, 2)` lowers the cap to the
    one transfer under way, that transfer completes, and peer `1` is admitted at 1003. -/
def servedRun : RateLimiter Nat :=
  ((((RateLimiter.init 0 : RateLimiter Nat).step 1000 (.allowRequest 0 0)).1.step 1001
    (.setLimits 30 1 2)).1.step 1002 .completeTransfer).1.step 1003 (.allowRequest 1 0) |>.1

/-- After that run one transfer is under way, at the lowered cap. -/
theorem serving_after_setLimits :
    Serving servedRun 1 ∧ servedRun.nActiveTransfers.toNat = 1 ∧
      1 ≤ servedRun.limits.nMaxConcurrentTransfers.toNat :=
  have h : Serving servedRun 1 :=
    .step 1003 (.allowRequest 1 0) (.step 1002 .completeTransfer
      (.step 1001 (.setLimits 30 1 2) (.step 1000 (.allowRequest 0 0) (.init 0) trivial)
        (by show _ ≤ _; decide)) (by show 0 < _; decide)) trivial
  ⟨h, Serving.active_eq h⟩

/-! ### Duplicate requests -/

/-- Chunk `c` was served to `p` at `σ` or later. -/
def ServedSince (p : Addr) (c : Nat) (σ : Int) (s : RateLimiter Addr) : Prop :=
  ∃ σ', (s.info p).servedChunks c = some σ' ∧ σ ≤ σ'

/-- Every call at a time from `σ` on, except `Cleanup`, keeps the record of a chunk served. -/
theorem servedSince_step {p : Addr} {c : Nat} {σ : Int} {s : RateLimiter Addr} (t : Int)
    (call : Call Addr) (ht : σ ≤ t) (hc : call.isCleanup = false) (h : ServedSince p c σ s) :
    ServedSince p c σ (s.step t call).1 := by
  obtain ⟨σ', hσ', hle⟩ := h
  rcases RateLimiter.info_step s t call p with
    he | ⟨k, -, he⟩ | ⟨k, n, -, he⟩ | ⟨rfl, -, -⟩
  · exact ⟨σ', he ▸ hσ', hle⟩
  · exact ⟨σ', by rw [he, admitPeer_servedChunks]; exact hσ', hle⟩
  · rw [ServedSince, he]
    by_cases hk : c = k
    · subst hk; exact ⟨t, by simp, ht⟩
    · exact ⟨σ', by simpa [Function.update_noteq hk] using hσ', hle⟩
  · cases hc

theorem servedSince_after {p : Addr} {c : Nat} {σ : Int} {s : RateLimiter Addr}
    {evs : List (Int × Call Addr)} (htimes : ∀ e ∈ evs, σ ≤ e.1)
    (hclean : ∀ e ∈ evs, e.2.isCleanup = false) (h : ServedSince p c σ s) :
    ServedSince p c σ (s.after evs) := by
  induction evs generalizing s with
  | nil => exact h
  | cons e evs ih =>
    obtain ⟨t, call⟩ := e
    exact ih (fun e he => htimes e (.tail _ he)) (fun e he => hclean e (.tail _ he))
      (servedSince_step t call (htimes _ (.head _)) (hclean _ (.head _)) h)

theorem after_nDuplicateChunkWindowSec (s : RateLimiter Addr) (evs : List (Int × Call Addr)) :
    (s.after evs).limits.nDuplicateChunkWindowSec = s.limits.nDuplicateChunkWindowSec := by
  induction evs generalizing s with
  | nil => rfl
  | cons e evs ih => exact (ih _).trans (RateLimiter.step_nDuplicateChunkWindowSec _ _ _)

/-- After `RecordServed(p, c)` at time `σ`, and any calls at times from `σ` on none of which is
    `Cleanup`, `AllowRequest(p, c)` is refused until the duplicate window has passed. -/
theorem allowRequest_rejected_after_served (s : RateLimiter Addr) (p : Addr) (c nBytes : Nat)
    (σ : Int) (evs : List (Int × Call Addr)) (t : Int) (htimes : ∀ e ∈ evs, σ ≤ e.1)
    (hclean : ∀ e ∈ evs, e.2.isCleanup = false)
    (hwin : t < σ + s.limits.nDuplicateChunkWindowSec.toNat) :
    (((s.recordServed p c nBytes σ).after evs).allowRequest p c t).1 ≠ .allowed := by
  obtain ⟨σ', hσ', hle⟩ := servedSince_after htimes hclean
    (⟨σ, by simp, Int.le_refl σ⟩ : ServedSince p c σ (s.recordServed p c nBytes σ))
  have hdup := after_nDuplicateChunkWindowSec (s.recordServed p c nBytes σ) evs
  rw [RateLimiter.recordServed_limits] at hdup
  apply admitPeer_rejected_of_servedWithin
  simp only [PeerRequestInfo.servedWithin, hσ', hdup]
  rw [if_pos (by omega)]
  simp

/-- A peer served at time 100 and asking again at 150 is refused. -/
theorem allowRequest_rejected_after_served_sample :
    (∀ e ∈ ([(120, .completeTransfer)] : List (Int × Call Nat)), 100 ≤ e.1) ∧
    (∀ e ∈ ([(120, .completeTransfer)] : List (Int × Call Nat)), e.2.isCleanup = false) ∧
    150 < 100 +
      ((RateLimiter.init 0 : RateLimiter Nat).limits.nDuplicateChunkWindowSec.toNat : Int) ∧
    ((((RateLimiter.init 0 : RateLimiter Nat).recordServed 0 7 1 100).after
      [(120, .completeTransfer)]).allowRequest 0 7 150).1 ≠ .allowed := by
  have h₁ : ∀ e ∈ ([(120, .completeTransfer)] : List (Int × Call Nat)), 100 ≤ e.1 := by
    simp
  have h₂ : ∀ e ∈ ([(120, .completeTransfer)] : List (Int × Call Nat)),
      e.2.isCleanup = false := by
    simp [Call.isCleanup]
  have h₃ : 150 < 100 +
      ((RateLimiter.init 0 : RateLimiter Nat).limits.nDuplicateChunkWindowSec.toNat : Int) := by
    decide
  exact ⟨h₁, h₂, h₃, allowRequest_rejected_after_served _ 0 7 1 100 _ 150 h₁ h₂ h₃⟩

/-- Without a `RecordServed`, one peer is admitted for the same chunk twice, two seconds
    apart, from start-up. -/
theorem allowRequest_twice_unserved :
    (RateLimiter.init 0 : RateLimiter Nat).outputs
      [(1000, .allowRequest 0 0), (1002, .allowRequest 0 0)] =
      [.verdict .allowed, .verdict .allowed] := by
  decide

end

/-! ### Bans -/

/-- No peer is banned, every deque is within the per-minute limit, and that limit is below the
    ban threshold. -/
structure BanFree (s : RateLimiter Addr) : Prop where
  not_banned : ∀ a, (s.info a).bIsBanned = false
  length_le : ∀ a, (s.info a).requestTimes.length ≤ s.limits.nMaxChunksPerPeerPerMinute.toNat
  max_lt : s.limits.nMaxChunksPerPeerPerMinute.toNat < s.limits.nBanThreshold.toNat

theorem BanFree.init (t : Int) : BanFree (RateLimiter.init t : RateLimiter Addr) :=
  ⟨fun _ => rfl, fun _ => Nat.zero_le _,
    (by decide :
      Limits.default.nMaxChunksPerPeerPerMinute.toNat < Limits.default.nBanThreshold.toNat)⟩

theorem BanFree.of_eq {s s' : RateLimiter Addr} (h : BanFree s) (hi : s'.info = s.info)
    (hl : s'.limits = s.limits) : BanFree s' :=
  ⟨hi ▸ h.not_banned, hi ▸ hl ▸ h.length_le, hl ▸ h.max_lt⟩

/-- A server free of bans never reports a peer banned. -/
theorem BanFree.isBanned_eq_false {s : RateLimiter Addr} (h : BanFree s) (a : Addr) (t : Int) :
    s.isBanned a t = false := by
  simp [RateLimiter.isBanned_eq, h.not_banned a]

section

variable [DecidableEq Addr]

/-- An entry that is not banned and within the limit stays so through `AllowRequest`. -/
theorem admitPeer_banFree (lim : Limits) (n : UInt32) {info : PeerRequestInfo} (c : Nat) (t : Int)
    (hb : info.bIsBanned = false)
    (hlen : info.requestTimes.length ≤ lim.nMaxChunksPerPeerPerMinute.toNat)
    (hmax : lim.nMaxChunksPerPeerPerMinute.toNat < lim.nBanThreshold.toNat) :
    (admitPeer lim n info c t).2.bIsBanned = false ∧
      (admitPeer lim n info c t).2.requestTimes.length ≤
        lim.nMaxChunksPerPeerPerMinute.toNat := by
  have htrim := length_trimRequestTimes_le t info.requestTimes
  rcases admitPeer_of_not_banned lim n c t hb (by omega) with
    ⟨-, hlt, heq⟩ | ⟨-, heq | heq⟩ <;> rw [heq]
  · exact ⟨hb, by simp only [List.length_append, List.length_singleton]; omega⟩
  · exact ⟨hb, hlen⟩
  · exact ⟨hb, by dsimp only; omega⟩

/-- Every call but `SetLimits` keeps the server free of bans. -/
theorem BanFree.step {s : RateLimiter Addr} (h : BanFree s) (t : Int) (c : Call Addr)
    (hc : c.setsLimits = false) : BanFree (s.step t c).1 := by
  have hlim := RateLimiter.step_limits s t c hc
  have entry : ∀ b, ((s.step t c).1.info b).bIsBanned = false ∧
      ((s.step t c).1.info b).requestTimes.length ≤
        s.limits.nMaxChunksPerPeerPerMinute.toNat := by
    intro b
    rcases RateLimiter.info_step s t c b with
      he | ⟨k, -, he⟩ | ⟨k, n, -, he⟩ | ⟨-, -, he⟩ <;> rw [he]
    · exact ⟨h.not_banned b, h.length_le b⟩
    · exact admitPeer_banFree _ _ k t (h.not_banned b) (h.length_le b) h.max_lt
    · exact ⟨h.not_banned b, h.length_le b⟩
    · exact ⟨rfl, Nat.zero_le _⟩
  exact ⟨fun b => (entry b).1, fun b => hlim ▸ (entry b).2, hlim ▸ h.max_lt⟩

/-- Along any run without `SetLimits`, the server stays free of bans. -/
theorem BanFree.after {s : RateLimiter Addr} (h : BanFree s) {evs : List (Int × Call Addr)}
    (hevs : ∀ e ∈ evs, e.2.setsLimits = false) : BanFree (s.after evs) := by
  induction evs generalizing s with
  | nil => exact h
  | cons e evs ih =>
    obtain ⟨t, c⟩ := e
    exact ih (h.step t c (hevs _ (.head _))) (fun e he => hevs e (.tail _ he))

/-- A hundred requests from one peer in the same second, from start-up: the peer is not
    banned afterwards. -/
theorem isBanned_after_flood :
    ((RateLimiter.init 1000 : RateLimiter Nat).after
      (List.replicate 100 (1000, .allowRequest 0 0))).isBanned 0 1000 = false :=
  ((BanFree.init 1000).after (fun e he => by
    rw [List.eq_of_mem_replicate he]; rfl)).isBanned_eq_false 0 1000

end

/-! ### Bans that hold -/

/-- The per-minute check bans only with its own time and duration. -/
theorem admitWithinRate_nBanUntil {lim : Limits} {info : PeerRequestInfo} {t : Int}
    (hb : info.bIsBanned = false) (h : (admitWithinRate lim info t).2.bIsBanned = true) :
    (admitWithinRate lim info t).2.nBanUntil = t + lim.nBanDurationSec.toNat := by
  unfold admitWithinRate at h ⊢
  dsimp only at h ⊢
  split_ifs at h ⊢ <;> simp_all

/-- A ban `AllowRequest` sets on a peer not banned at `t` runs until `t + nBanDurationSec`. -/
theorem admitPeer_nBanUntil {lim : Limits} {n : UInt32} {info : PeerRequestInfo} {c : Nat}
    {t : Int} (hfree : ¬(info.bIsBanned ∧ t < info.nBanUntil))
    (h : (admitPeer lim n info c t).2.bIsBanned = true) :
    (admitPeer lim n info c t).2.nBanUntil = t + lim.nBanDurationSec.toNat := by
  unfold admitPeer at h ⊢
  rw [if_neg hfree] at h ⊢
  dsimp only at h ⊢
  split_ifs at h ⊢
  · simp at h
  · simp at h
  · split
    · rename_i heq; simp [heq] at h
    · rename_i heq
      simp only [heq] at h
      exact admitWithinRate_nBanUntil (unban_bIsBanned info) h

/-- Peer `p` is banned until `u`. -/
def BannedUntil (p : Addr) (u : Int) (s : RateLimiter Addr) : Prop :=
  (s.info p).bIsBanned = true ∧ (s.info p).nBanUntil = u

section

variable [DecidableEq Addr]

/-- Every call before `u` keeps a ban until `u`: `AllowRequest` refuses as banned, `RecordServed`
    stamps only the served chunks, and `Cleanup` keeps banned entries. -/
theorem bannedUntil_step {p : Addr} {u : Int} {s : RateLimiter Addr} (t : Int) (c : Call Addr)
    (ht : t < u) (h : BannedUntil p u s) : BannedUntil p u (s.step t c).1 := by
  obtain ⟨hb, hu⟩ := h
  rcases RateLimiter.info_step s t c p with he | ⟨k, -, he⟩ | ⟨k, n, -, he⟩ | ⟨-, hk, -⟩
  · rw [BannedUntil, he]; exact ⟨hb, hu⟩
  · rw [BannedUntil, he, admitPeer_of_banned k hb (hu ▸ ht)]; exact ⟨hb, hu⟩
  · rw [BannedUntil, he]; exact ⟨hb, hu⟩
  · simp [RateLimiter.keepsEntry, hb] at hk

theorem bannedUntil_after {p : Addr} {u : Int} {s : RateLimiter Addr}
    {evs : List (Int × Call Addr)} (htimes : ∀ e ∈ evs, e.1 < u) (h : BannedUntil p u s) :
    BannedUntil p u (s.after evs) := by
  induction evs generalizing s with
  | nil => exact h
  | cons e evs ih =>
    obtain ⟨t, c⟩ := e
    exact ih (fun e he => htimes e (.tail _ he)) (bannedUntil_step t c (htimes _ (.head _)) h)

/-- An `AllowRequest` at `tb` that bans a peer not banned before bans it until
    `tb + nBanDurationSec`. -/
theorem bannedUntil_allowRequest {s : RateLimiter Addr} {p : Addr} {c : Nat} {tb : Int}
    (hfree : s.isBanned p tb = false) (hban : (s.allowRequest p c tb).2.isBanned p tb = true) :
    BannedUntil p (tb + s.limits.nBanDurationSec.toNat) (s.allowRequest p c tb).2 := by
  rw [RateLimiter.isBanned_eq, RateLimiter.info_allowRequest, if_pos rfl] at hban
  rw [RateLimiter.isBanned_eq] at hfree
  have hb := (Bool.and_eq_true _ _).mp hban |>.1
  rw [BannedUntil, RateLimiter.info_allowRequest, if_pos rfl]
  exact ⟨hb, admitPeer_nBanUntil (by simpa using hfree) hb⟩

/-- Once `AllowRequest` bans a peer at `tb`, every call made before `tb + nBanDurationSec` leaves
    the ban in place: until then `AllowRequest` from the peer is refused as banned and
    `IsBanned` reports it, whatever the calls in between, `SetLimits` and `Cleanup` included. -/
theorem allowRequest_ban_holds (s : RateLimiter Addr) (p : Addr) (c₀ : Nat) (tb : Int)
    (hfree : s.isBanned p tb = false)
    (hban : (s.allowRequest p c₀ tb).2.isBanned p tb = true)
    (evs : List (Int × Call Addr)) (t : Int) (htimes : ∀ e ∈ evs, e.1 ≤ t)
    (ht : t < tb + s.limits.nBanDurationSec.toNat) (c : Nat) :
    (((s.allowRequest p c₀ tb).2.after evs).allowRequest p c t).1 =
      .rejected (.banned (tb + s.limits.nBanDurationSec.toNat)) ∧
    ((s.allowRequest p c₀ tb).2.after evs).isBanned p t = true := by
  obtain ⟨hb, hu⟩ := bannedUntil_after (fun e he => Int.lt_of_le_of_lt (htimes e he) ht)
    (bannedUntil_allowRequest hfree hban)
  refine ⟨?_, ?_⟩
  · show (admitPeer _ _ _ c t).1 = _
    rw [admitPeer_of_banned c hb (hu ▸ ht), hu]
  · rw [RateLimiter.isBanned_eq, hb, hu]
    simpa using ht

/-- A peer with a hundred requests in the last minute: one more bans it for five minutes. -/
def floodedAt (t : Int) : RateLimiter Nat :=
  { (RateLimiter.init 0 : RateLimiter Nat) with
    mapPeerRequests := fun _ => some { PeerRequestInfo.empty with
      requestTimes := List.replicate 100 t } }

/-- The ban set at 1000 on a flooded peer still holds at 1299, after a `Cleanup` and a
    `SetLimits` at 1200. -/
theorem allowRequest_ban_holds_flooded :
    (floodedAt 1000).isBanned 0 1000 = false ∧
    ((floodedAt 1000).allowRequest 0 0 1000).2.isBanned 0 1000 = true ∧
    (((floodedAt 1000).allowRequest 0 0 1000).2.after
      [(1200, .cleanup), (1200, .setLimits 1000 1000 0)]).isBanned 0 1299 = true :=
  have hfree : (floodedAt 1000).isBanned 0 1000 = false := rfl
  have hban : ((floodedAt 1000).allowRequest 0 0 1000).2.isBanned 0 1000 = true := by decide
  ⟨hfree, hban, (allowRequest_ban_holds _ 0 0 1000 hfree hban
    [(1200, .cleanup), (1200, .setLimits 1000 1000 0)] 1299 (by decide) (by decide) 0).2⟩

end

end Snapshot

end Zclassic

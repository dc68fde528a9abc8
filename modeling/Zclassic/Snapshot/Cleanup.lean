import Zclassic.Snapshot.RateLimiter

/-!
# What Cleanup Forgets

`Cleanup` erases the entry of every peer that is not banned and has not been admitted for more
than 600 seconds. An erased entry comes back as `PeerRequestInfo()` on the peer's next request:
an empty deque, no last-request time, and no served chunks. Whether a later call can tell the
difference depends on what the entry still held.

Its deque cannot matter: in a state reached with a nondecreasing clock every time in a deque is
at most the peer's last-request time (`Clocked.dequeBounded`), so all of them are more than 60
seconds old and the next `AllowRequest` trims them all away. Its last-request time cannot
matter while the minimum interval is at most 600 seconds. Its served chunks do matter: a chunk
recorded as served within the duplicate window, long after the peer's last admission, keeps the
peer from being served it again, and `Cleanup` forgets that (`cleanup_observable`).

The equivalence is a relation on entries, `Agree`, that no `AllowRequest` or `IsBanned` from the
cleanup time on can see through, and its lift `Equiv` to whole states. Each call keeps `Equiv`
and gives the same output on both sides (`Equiv.step`), so whole runs give the same outputs
(`Equiv.outputs`).

## Main definitions

* `Clocked`: The states reached from start-up by calls at nondecreasing times.
* `Agree`, `Equiv`: Entries and states that later calls cannot tell apart.

## Theorems

* `Clocked.dequeBounded`: Deque times never pass the last-request time, nor that the clock.
* `Agree.admitPeer`: Agreeing entries get the same verdict and stay in agreement.
* `Equiv.outputs`: Equivalent states give the same outputs along any run without `Cleanup` or
  `SetLimits` from the cleanup time on.
* `cleanup_unobservable`: `Cleanup` changes no later output when no entry it erases holds a
  chunk served within the duplicate window.
* `cleanup_observable`: A chunk served late is served again after `Cleanup`.
-/

namespace Zclassic

namespace Snapshot

/-! ### Deques in reachable states -/

/-- Every time in the deque is at most the last-request time, which is at most `now`. -/
def PeerRequestInfo.Bounded (now : Int) (info : PeerRequestInfo) : Prop :=
  ∀ τ ∈ info.requestTimes, τ ≤ info.nLastRequestTime ∧ info.nLastRequestTime ≤ now

theorem PeerRequestInfo.Bounded.mono {info : PeerRequestInfo} {now t : Int}
    (h : info.Bounded now) (ht : now ≤ t) : info.Bounded t :=
  fun τ hτ => ⟨(h τ hτ).1, Int.le_trans (h τ hτ).2 ht⟩

/-- `AllowRequest` keeps the last-request time and some of the deque, or sets the last-request
    time to the time of the call and adds that time to some of the deque. -/
theorem admitPeer_requestTimes (lim : Limits) (n : UInt32) (info : PeerRequestInfo) (c : Nat)
    (t : Int) :
    ((admitPeer lim n info c t).2.nLastRequestTime = info.nLastRequestTime ∧
      ∀ τ ∈ (admitPeer lim n info c t).2.requestTimes, τ ∈ info.requestTimes) ∨
    ((admitPeer lim n info c t).2.nLastRequestTime = t ∧
      ∀ τ ∈ (admitPeer lim n info c t).2.requestTimes,
        τ ∈ info.requestTimes ∨ τ = t) := by
  have hunban : info.unban.nLastRequestTime = info.nLastRequestTime ∧
      ∀ τ ∈ info.unban.requestTimes, τ ∈ info.requestTimes :=
    ⟨unban_nLastRequestTime info, fun _ => mem_of_mem_unban⟩
  unfold admitPeer
  dsimp only
  split_ifs
  · exact .inl ⟨rfl, fun _ => id⟩
  · exact .inl hunban
  · exact .inl hunban
  split
  · exact .inl hunban
  unfold admitWithinRate
  dsimp only
  split_ifs
  · exact .inl ⟨hunban.1, fun τ h => mem_of_mem_unban (mem_of_mem_trimRequestTimes h)⟩
  · exact .inl ⟨hunban.1, fun τ h => mem_of_mem_unban (mem_of_mem_trimRequestTimes h)⟩
  · refine .inr ⟨rfl, fun τ h => ?_⟩
    rcases List.mem_append.mp h with h | h
    · exact .inl (mem_of_mem_unban (mem_of_mem_trimRequestTimes h))
    · exact .inr (List.mem_singleton.mp h)

theorem PeerRequestInfo.Bounded.admitPeer {info : PeerRequestInfo} {now t : Int}
    (h : info.Bounded now) (ht : now ≤ t) (lim : Limits) (n : UInt32) (c : Nat) :
    (Snapshot.admitPeer lim n info c t).2.Bounded t := by
  intro τ hτ
  rcases admitPeer_requestTimes lim n info c t with ⟨hl, hm⟩ | ⟨hl, hm⟩ <;> rw [hl]
  · exact (h.mono ht) τ (hm τ hτ)
  · rcases hm τ hτ with hm | rfl
    · exact ⟨Int.le_trans (h τ hm).1 (Int.le_trans (h τ hm).2 ht), Int.le_refl t⟩
    · exact ⟨Int.le_refl τ, Int.le_refl τ⟩

variable {Addr : Type}

/-- Every deque of the state is bounded by its last-request time and `now`. -/
def RateLimiter.DequeBounded (s : RateLimiter Addr) (now : Int) : Prop :=
  ∀ a, (s.info a).Bounded now

section

variable [DecidableEq Addr]

/-- The states reached from start-up at time `t₀` by calls at nondecreasing times, with the
    time of the last call. -/
inductive Clocked : RateLimiter Addr → Int → Prop
  | init (t₀ : Int) : Clocked (RateLimiter.init t₀) t₀
  | step {s : RateLimiter Addr} {now : Int} (t : Int) (c : Call Addr) :
      Clocked s now → now ≤ t → Clocked (s.step t c).1 t

theorem RateLimiter.DequeBounded.step {s : RateLimiter Addr} {now : Int} (h : s.DequeBounded now)
    {t : Int} (ht : now ≤ t) (c : Call Addr) : (s.step t c).1.DequeBounded t := by
  intro b
  rcases RateLimiter.info_step s t c b with
    he | ⟨k, -, he⟩ | ⟨k, n, -, he⟩ | ⟨-, -, he⟩ <;> rw [he]
  · exact (h b).mono ht
  · exact (h b).admitPeer ht _ _ _
  · exact (h b).mono ht
  · intro τ hτ; cases hτ

/-- In a state reached with a nondecreasing clock, no deque time passes the peer's last-request
    time, and no last-request time of a peer with a nonempty deque passes the clock. -/
theorem Clocked.dequeBounded {s : RateLimiter Addr} {now : Int} (h : Clocked s now) :
    s.DequeBounded now := by
  induction h with
  | init t₀ => intro a τ hτ; simp [PeerRequestInfo.empty] at hτ
  | step t c _ ht ih => exact ih.step ht c

/-- No served stamp of the state passes `now`. -/
def RateLimiter.StampsBefore (s : RateLimiter Addr) (now : Int) : Prop :=
  ∀ a c σ, (s.info a).servedChunks c = some σ → σ ≤ now

theorem RateLimiter.StampsBefore.step {s : RateLimiter Addr} {now : Int}
    (h : s.StampsBefore now) {t : Int} (ht : now ≤ t) (c : Call Addr) :
    (s.step t c).1.StampsBefore t := by
  intro b k σ hσ
  have old : (s.info b).servedChunks k = some σ → σ ≤ t :=
    fun hb => Int.le_trans (h b k σ hb) ht
  rcases RateLimiter.info_step s t c b with
    he | ⟨k', -, he⟩ | ⟨k', n, -, he⟩ | ⟨-, -, he⟩ <;>
    rw [he] at hσ
  · exact old hσ
  · exact old (by rwa [admitPeer_servedChunks] at hσ)
  · by_cases hk : k = k'
    · subst hk
      simp only [Function.update_same, Option.some.injEq] at hσ
      exact hσ ▸ Int.le_refl t
    · exact old (by simpa [Function.update_noteq hk] using hσ)
  · cases hσ

/-- In a state reached with a nondecreasing clock, no chunk is recorded as served later than the
    last call. -/
theorem Clocked.stampsBefore {s : RateLimiter Addr} {now : Int} (h : Clocked s now) :
    s.StampsBefore now := by
  induction h with
  | init t₀ => intro a c σ hσ; cases hσ
  | step t c _ ht ih => exact ih.step ht c

end

/-! ### Entries that later calls cannot tell apart -/

/-- A last-request time that no `AllowRequest` from `u` on finds too recent. -/
def Idle (lim : Limits) (u last : Int) : Prop :=
  last ≤ 0 ∨ last + lim.nMinSecondsBetweenRequests.toNat ≤ u

/-- A served stamp that no `AllowRequest` from `u` on finds within the duplicate window. -/
def Expired (lim : Limits) (u : Int) (stamp : Option Int) : Prop :=
  ∀ σ, stamp = some σ → σ + lim.nDuplicateChunkWindowSec.toNat ≤ u

/-- Two entries that `AllowRequest` and `IsBanned`, under the limits `lim` and at times from `u`
    on, cannot tell apart: the same ban, and deques, last-request times and served stamps that
    are equal or both too old to count. -/
structure Agree (lim : Limits) (u : Int) (e₁ e₂ : PeerRequestInfo) : Prop where
  banned : e₁.bIsBanned = e₂.bIsBanned
  banUntil : e₁.bIsBanned = true → e₁.nBanUntil = e₂.nBanUntil
  times : e₁.requestTimes = e₂.requestTimes ∨
    (∀ τ ∈ e₁.requestTimes, τ + 60 < u) ∧ ∀ τ ∈ e₂.requestTimes, τ + 60 < u
  last : e₁.nLastRequestTime = e₂.nLastRequestTime ∨
    Idle lim u e₁.nLastRequestTime ∧ Idle lim u e₂.nLastRequestTime
  served : ∀ c, e₁.servedChunks c = e₂.servedChunks c ∨
    Expired lim u (e₁.servedChunks c) ∧ Expired lim u (e₂.servedChunks c)

namespace Agree

variable {lim : Limits} {u t : Int} {e₁ e₂ : PeerRequestInfo}

theorem refl (lim : Limits) (u : Int) (e : PeerRequestInfo) : Agree lim u e e :=
  ⟨rfl, fun _ => rfl, .inl rfl, .inl rfl, fun _ => .inl rfl⟩

theorem banCheck_iff (h : Agree lim u e₁ e₂) :
    (e₁.bIsBanned ∧ t < e₁.nBanUntil) ↔ (e₂.bIsBanned ∧ t < e₂.nBanUntil) := by
  constructor
  · rintro ⟨hb, hlt⟩; exact ⟨h.banned ▸ hb, h.banUntil hb ▸ hlt⟩
  · rintro ⟨hb, hlt⟩
    have hb₁ : e₁.bIsBanned = true := h.banned ▸ hb
    exact ⟨hb₁, (h.banUntil hb₁).symm ▸ hlt⟩

theorem unban (h : Agree lim u e₁ e₂) : Agree lim u e₁.unban e₂.unban := by
  unfold PeerRequestInfo.unban
  rw [h.banned]
  split
  · exact ⟨rfl, fun _ => rfl, .inl rfl, h.last, h.served⟩
  · exact h

/-- A last-request time recent enough to refuse at `t ≥ u` is the same on both sides. -/
theorem last_eq_of_recent (ht : u ≤ t) (h : Agree lim u e₁ e₂)
    (hr : (0 < e₁.nLastRequestTime ∧
        t - e₁.nLastRequestTime < lim.nMinSecondsBetweenRequests.toNat) ∨
      (0 < e₂.nLastRequestTime ∧
        t - e₂.nLastRequestTime < lim.nMinSecondsBetweenRequests.toNat)) :
    e₁.nLastRequestTime = e₂.nLastRequestTime := by
  rcases h.last with heq | ⟨i₁, i₂⟩
  · exact heq
  · unfold Idle at i₁ i₂; omega

theorem servedWithin_eq (ht : u ≤ t) (h : Agree lim u e₁ e₂) (c : Nat) :
    e₁.servedWithin c t lim.nDuplicateChunkWindowSec.toNat =
      e₂.servedWithin c t lim.nDuplicateChunkWindowSec.toNat := by
  have expired : ∀ e : PeerRequestInfo, Expired lim u (e.servedChunks c) →
      e.servedWithin c t lim.nDuplicateChunkWindowSec.toNat = none := by
    intro e he
    unfold PeerRequestInfo.servedWithin
    cases hc : e.servedChunks c with
    | none => rfl
    | some σ => have := he σ hc; dsimp only; rw [if_neg (by omega)]
  unfold PeerRequestInfo.servedWithin
  rcases h.served c with heq | ⟨x₁, x₂⟩
  · rw [heq]
  · exact (expired e₁ x₁).trans (expired e₂ x₂).symm

/-- Deques that agree are trimmed to the same deque from `u` on. -/
theorem trim_eq (ht : u ≤ t) (h : Agree lim u e₁ e₂) :
    trimRequestTimes t e₁.requestTimes = trimRequestTimes t e₂.requestTimes := by
  have stale : ∀ l : List Int, (∀ τ ∈ l, τ + 60 < u) → trimRequestTimes t l = [] := by
    intro l hl
    induction l with
    | nil => rfl
    | cons τ l ih =>
      have hτ := hl τ (.head l)
      rw [trimRequestTimes, if_pos (by omega)]
      exact ih fun x hx => hl x (.tail τ hx)
  rcases h.times with heq | ⟨s₁, s₂⟩
  · rw [heq]
  · rw [stale _ s₁, stale _ s₂]

theorem admitWithinRate (ht : u ≤ t) (h : Agree lim u e₁ e₂) :
    (Snapshot.admitWithinRate lim e₁ t).1 = (Snapshot.admitWithinRate lim e₂ t).1 ∧
      Agree lim u (Snapshot.admitWithinRate lim e₁ t).2
        (Snapshot.admitWithinRate lim e₂ t).2 := by
  unfold Snapshot.admitWithinRate
  dsimp only
  rw [h.trim_eq ht]
  split_ifs
  · exact ⟨rfl, rfl, fun _ => rfl, .inl rfl, h.last, h.served⟩
  · exact ⟨rfl, h.banned, h.banUntil, .inl rfl, h.last, h.served⟩
  · exact ⟨rfl, h.banned, h.banUntil, .inl rfl, .inl rfl, h.served⟩

/-- Agreeing entries get the same verdict from `AllowRequest` at any time from `u` on, and
    agree after it. -/
theorem admitPeer (ht : u ≤ t) (h : Agree lim u e₁ e₂) (n : UInt32) (c : Nat) :
    (Snapshot.admitPeer lim n e₁ c t).1 = (Snapshot.admitPeer lim n e₂ c t).1 ∧
      Agree lim u (Snapshot.admitPeer lim n e₁ c t).2 (Snapshot.admitPeer lim n e₂ c t).2 := by
  unfold Snapshot.admitPeer
  dsimp only
  by_cases hb₁ : e₁.bIsBanned ∧ t < e₁.nBanUntil
  · rw [if_pos hb₁, if_pos (h.banCheck_iff.mp hb₁), h.banUntil hb₁.1]
    exact ⟨rfl, h⟩
  rw [if_neg hb₁, if_neg (mt h.banCheck_iff.mpr hb₁)]
  have hu := h.unban
  rw [hu.servedWithin_eq ht]
  split_ifs with hcap hr₁ hr₂ hr₂
  · exact ⟨rfl, hu⟩
  · rw [hu.last_eq_of_recent ht (.inl hr₁)]; exact ⟨rfl, hu⟩
  · exact absurd (hu.last_eq_of_recent ht (.inl hr₁) ▸ hr₁) hr₂
  · exact absurd (hu.last_eq_of_recent ht (.inr hr₂) ▸ hr₂) hr₁
  split
  · exact ⟨rfl, hu⟩
  · exact hu.admitWithinRate ht

theorem isBanned_eq (h : Agree lim u e₁ e₂) (t : Int) :
    (e₁.bIsBanned && decide (t < e₁.nBanUntil)) =
      (e₂.bIsBanned && decide (t < e₂.nBanUntil)) := by
  cases hb : e₁.bIsBanned
  · rw [← h.banned, hb]; rfl
  · rw [← h.banned, hb, h.banUntil hb]

/-- `RecordServed` of the same chunk at the same time keeps two entries in agreement. -/
theorem recordServed (h : Agree lim u e₁ e₂) (k : Nat) (t : Int) :
    Agree lim u { e₁ with servedChunks := Function.update e₁.servedChunks k (some t) }
      { e₂ with servedChunks := Function.update e₂.servedChunks k (some t) } := by
  refine ⟨h.banned, h.banUntil, h.times, h.last, fun c => ?_⟩
  by_cases hc : c = k
  · subst hc; simp
  · simpa [Function.update_noteq hc] using h.served c

end Agree

/-- Two states that no call but `Cleanup` and `SetLimits` tells apart from `u` on. -/
structure Equiv (u : Int) (s₁ s₂ : RateLimiter Addr) : Prop where
  limits : s₁.limits = s₂.limits
  active : s₁.nActiveTransfers = s₂.nActiveTransfers
  agree : ∀ a, Agree s₁.limits u (s₁.info a) (s₂.info a)

theorem Equiv.completeTransfer {u : Int} {s₁ s₂ : RateLimiter Addr} (h : Equiv u s₁ s₂) :
    Equiv u s₁.completeTransfer s₂.completeTransfer := by
  refine ⟨by simpa using h.limits, ?_, by simpa using h.agree⟩
  unfold RateLimiter.completeTransfer
  rw [h.active]
  split_ifs <;> simp [h.active]

namespace Equiv

variable [DecidableEq Addr] {u t : Int} {s₁ s₂ : RateLimiter Addr}

theorem allowRequest (h : Equiv u s₁ s₂) (ht : u ≤ t) (a : Addr) (k : Nat) :
    (s₁.allowRequest a k t).1 = (s₂.allowRequest a k t).1 ∧
      Equiv u (s₁.allowRequest a k t).2 (s₂.allowRequest a k t).2 := by
  have h₂ : admitPeer s₂.limits s₂.nActiveTransfers =
      admitPeer s₁.limits s₁.nActiveTransfers := by
    rw [h.limits, h.active]
  obtain ⟨hv, ha⟩ := (h.agree a).admitPeer ht s₁.nActiveTransfers k
  have hv' : (s₁.allowRequest a k t).1 = (s₂.allowRequest a k t).1 := by
    show (admitPeer _ _ _ k t).1 = (admitPeer _ _ _ k t).1
    rw [h₂, hv]
  refine ⟨hv', h.limits, ?_, fun b => ?_⟩
  · show (if (s₁.allowRequest a k t).1 = .allowed then _ else _) =
      (if (s₂.allowRequest a k t).1 = .allowed then _ else _)
    rw [hv', h.active]
  · simp only [RateLimiter.allowRequest_limits, RateLimiter.info_allowRequest, h₂]
    split_ifs
    exacts [ha, h.agree b]

theorem recordServed (h : Equiv u s₁ s₂) (a : Addr) (k n : Nat) (t : Int) :
    Equiv u (s₁.recordServed a k n t) (s₂.recordServed a k n t) := by
  refine ⟨h.limits, h.active, fun b => ?_⟩
  simp only [RateLimiter.recordServed_limits, RateLimiter.info_recordServed]
  split_ifs
  exacts [(h.agree a).recordServed k t, h.agree b]

/-- One call other than `Cleanup` and `SetLimits`, at a time from `u` on, gives the same output
    on equivalent states and keeps them equivalent. -/
theorem step (h : Equiv u s₁ s₂) (ht : u ≤ t) (c : Call Addr)
    (hc : c.isCleanup = false ∧ c.setsLimits = false) :
    (s₁.step t c).2 = (s₂.step t c).2 ∧ Equiv u (s₁.step t c).1 (s₂.step t c).1 := by
  cases c with
  | allowRequest a k =>
    obtain ⟨hv, he⟩ := h.allowRequest ht a k
    exact ⟨congrArg Output.verdict hv, he⟩
  | recordServed a k n => exact ⟨rfl, h.recordServed a k n t⟩
  | completeTransfer => exact ⟨rfl, h.completeTransfer⟩
  | isBanned a =>
    refine ⟨congrArg Output.banned ?_, h⟩
    simp only [RateLimiter.isBanned_eq]
    exact (h.agree a).isBanned_eq t
  | cleanup => cases hc.1
  | setLimits m k r => cases hc.2

/-- Equivalent states give the same outputs along any run without `Cleanup` or `SetLimits` at
    times from `u` on. -/
theorem outputs (h : Equiv u s₁ s₂) (evs : List (Int × Call Addr))
    (hc : ∀ e ∈ evs, e.2.isCleanup = false ∧ e.2.setsLimits = false)
    (ht : ∀ e ∈ evs, u ≤ e.1) :
    s₁.outputs evs = s₂.outputs evs := by
  induction evs generalizing s₁ s₂ with
  | nil => rfl
  | cons e evs ih =>
    obtain ⟨t, c⟩ := e
    obtain ⟨hout, hstep⟩ := h.step (ht _ (.head _)) c (hc _ (.head _))
    simp only [RateLimiter.outputs, hout]
    rw [ih hstep (fun e he => hc e (.tail _ he)) (fun e he => ht e (.tail _ he))]

end Equiv

/-- An entry `Cleanup` at `u` erases agrees with the one a later request creates, when its deque
    is bounded by its last-request time, the minimum interval is at most 600 seconds, and its
    served stamps are out of the duplicate window at `u`. -/
theorem agree_empty_of_erased {lim : Limits} {e : PeerRequestInfo} {now u : Int}
    (hb : e.Bounded now) (hk : RateLimiter.keepsEntry u e = false)
    (hmin : lim.nMinSecondsBetweenRequests.toNat ≤ 600)
    (hserved : ∀ c σ, e.servedChunks c = some σ →
      σ + lim.nDuplicateChunkWindowSec.toNat ≤ u) :
    Agree lim u .empty e := by
  simp only [RateLimiter.keepsEntry, Bool.not_eq_false', Bool.and_eq_true, decide_eq_true_eq,
    Bool.not_eq_true'] at hk
  have hnone : ∀ {α : Type} {x : α}, (none : Option α) ≠ some x := Option.noConfusion
  refine ⟨hk.2.symm, fun h => absurd h Bool.false_ne_true, .inr ⟨fun _ h => absurd h
    (List.not_mem_nil _), fun τ hτ => ?_⟩, .inr ⟨.inl (Int.le_refl 0), .inr (by omega)⟩,
    fun c => .inr ⟨fun _ h => absurd h hnone, hserved c⟩⟩
  have := (hb τ hτ).1
  omega

/-- `Cleanup` at `u` leaves a state equivalent to the one it ran on, under the conditions of
    `agree_empty_of_erased`. -/
theorem equiv_cleanup {s : RateLimiter Addr} {now u : Int} (hs : s.DequeBounded now)
    (hmin : s.limits.nMinSecondsBetweenRequests.toNat ≤ 600)
    (hserved : ∀ a c σ, RateLimiter.keepsEntry u (s.info a) = false →
      (s.info a).servedChunks c = some σ → σ + s.limits.nDuplicateChunkWindowSec.toNat ≤ u) :
    Equiv u (s.cleanup u) s := by
  refine ⟨RateLimiter.cleanup_limits s u, RateLimiter.cleanup_nActiveTransfers s u, fun a => ?_⟩
  rw [RateLimiter.cleanup_limits, RateLimiter.info_cleanup]
  split_ifs with hk
  · exact Agree.refl _ _ _
  · have hk := Bool.eq_false_iff.mpr hk
    exact agree_empty_of_erased (hs a) hk hmin (hserved a · · hk)

section

variable [DecidableEq Addr]

/-- In a state reached with a nondecreasing clock, a `Cleanup` at any time `u` changes no output
    of any later run of `AllowRequest`, `IsBanned`, `RecordServed` and `CompleteTransfer` calls
    at times from `u` on, provided the minimum interval between requests is at most 600 seconds
    and no entry it erases holds a chunk served within the duplicate window at `u`. -/
theorem cleanup_unobservable {s : RateLimiter Addr} {now : Int} (hs : Clocked s now) (u : Int)
    (hmin : s.limits.nMinSecondsBetweenRequests.toNat ≤ 600)
    (hserved : ∀ a c σ, RateLimiter.keepsEntry u (s.info a) = false →
      (s.info a).servedChunks c = some σ → σ + s.limits.nDuplicateChunkWindowSec.toNat ≤ u)
    (evs : List (Int × Call Addr))
    (hc : ∀ e ∈ evs, e.2.isCleanup = false ∧ e.2.setsLimits = false)
    (ht : ∀ e ∈ evs, u ≤ e.1) :
    (s.cleanup u).outputs evs = s.outputs evs :=
  (equiv_cleanup hs.dequeBounded hmin hserved).outputs evs hc ht

end

/-- A peer admitted at 1000 and served chunk `0` at 1001. -/
def servedEarly : RateLimiter Nat :=
  (RateLimiter.init 0).after [(1000, .allowRequest 0 0), (1001, .recordServed 0 0 1)]

/-- `Cleanup` at 1700 erases that peer, its chunk out of the duplicate window, and a request at
    1702 is admitted either way. -/
theorem cleanup_unobservable_servedEarly :
    Clocked servedEarly 1001 ∧
    servedEarly.limits.nMinSecondsBetweenRequests.toNat ≤ 600 ∧
    (∀ a c σ, RateLimiter.keepsEntry 1700 (servedEarly.info a) = false →
      (servedEarly.info a).servedChunks c = some σ →
      σ + servedEarly.limits.nDuplicateChunkWindowSec.toNat ≤ 1700) ∧
    (∀ e ∈ ([(1702, .allowRequest 0 0)] : List (Int × Call Nat)),
      e.2.isCleanup = false ∧ e.2.setsLimits = false) ∧
    (∀ e ∈ ([(1702, .allowRequest 0 0)] : List (Int × Call Nat)), 1700 ≤ e.1) ∧
    (servedEarly.cleanup 1700).outputs [(1702, .allowRequest 0 0)] =
      servedEarly.outputs [(1702, .allowRequest 0 0)] := by
  have hs : Clocked servedEarly 1001 :=
    .step 1001 _ (.step 1000 _ (.init 0) (by decide)) (by decide)
  have hmin : servedEarly.limits.nMinSecondsBetweenRequests.toNat ≤ 600 := by decide
  have hserved : ∀ a c σ, RateLimiter.keepsEntry 1700 (servedEarly.info a) = false →
      (servedEarly.info a).servedChunks c = some σ →
      σ + servedEarly.limits.nDuplicateChunkWindowSec.toNat ≤ 1700 := by
    have hdup : servedEarly.limits.nDuplicateChunkWindowSec.toNat = 300 := by decide
    intro a c σ _ h
    have := hs.stampsBefore a c σ h
    omega
  have hc : ∀ e ∈ ([(1702, .allowRequest 0 0)] : List (Int × Call Nat)),
      e.2.isCleanup = false ∧ e.2.setsLimits = false := by decide
  have ht : ∀ e ∈ ([(1702, .allowRequest 0 0)] : List (Int × Call Nat)), 1700 ≤ e.1 := by
    decide
  exact ⟨hs, hmin, hserved, hc, ht, cleanup_unobservable hs 1700 hmin hserved _ hc ht⟩

/-- A peer admitted at 1000 and served chunk `0` at 1700 is refused the chunk again at 1702;
    after a `Cleanup` at 1701 it is served it again. -/
theorem cleanup_observable :
    (RateLimiter.init 0 : RateLimiter Nat).outputs
      [(1000, .allowRequest 0 0), (1700, .recordServed 0 0 1), (1701, .cleanup),
        (1702, .allowRequest 0 0)] =
      [.verdict .allowed, .done, .done, .verdict .allowed] ∧
    (RateLimiter.init 0 : RateLimiter Nat).outputs
      [(1000, .allowRequest 0 0), (1700, .recordServed 0 0 1), (1702, .allowRequest 0 0)] =
      [.verdict .allowed, .done, .verdict (.rejected (.alreadyServed 0 2))] :=
  ⟨by decide, by decide⟩

end Snapshot

end Zclassic

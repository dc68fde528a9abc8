import Zclassic.Snapshot.RateLimiter

/-!
# The Per-Peer Window

Every 60-second window holds at most `nMaxChunksPerPeerPerMinute` admitted requests of one
peer, over every run from construction with the limits a `SetLimits` at start-up chose, a
nondecreasing clock, and any interleaving of the other calls: bans, their lifting, and
`Cleanup` erasing entries included. `SetLimits(30, 25, 2)` gives the constructor's limits back,
so the default limits are one case.

The deque `requestTimes` is not the history of admissions: `AllowRequest` trims it, `Cleanup`
erases the whole entry, and lifting an expired ban clears it. The proof keeps the history `H` of
a peer's admission times as a ghost and relates the two (`WindowInv`): `H` is an old part, every
time of which is more than 60 seconds in the past, followed by the deque. At an admission at `τ`
the requests of `H` in `[τ - 60, τ]` are then all still in the trimmed deque, which is below the
limit (`countP_minute_le`), and a window holding `τ` holds only requests of that minute
(`window_append`).

Each way of losing the deque loses only old times. `Cleanup` erases only entries idle for ten
minutes. A ban is set by a refused request, after every admission so far, and runs for
`nBanDurationSec`, 300 seconds, which `SetLimits` leaves alone. It is lifted no earlier than its
end, when every admission is more than 60 seconds old (`WindowInv.split_unban`), so clearing the
deque then forgets nothing a window could still count.

## Main definitions

* `inMinute`: A time in the closed window `[t, t + 60]`.
* `RateLimiter.admitted`: The times of a peer's admitted requests along a run.
* `WindowInv`: The ghost history against the server's entry.

## Theorems

* `WindowInv.split_unban`: Lifting an expired ban forgets only old times.
* `WindowInv.step`: Every call but `SetLimits` keeps the invariant.
* `admitted_per_minute_le`: The window bound over every run from construction.
-/

namespace Zclassic

namespace Snapshot

/-- `τ` lies in the closed window `[t, t + 60]`. -/
def inMinute (t τ : Int) : Bool := decide (t ≤ τ ∧ τ ≤ t + 60)

/-- Whether a call is an `AllowRequest` from `p` that returned `true`. -/
def Call.admits {Addr : Type} [DecidableEq Addr] (p : Addr) : Call Addr → Output → Bool
  | .allowRequest a _, .verdict .allowed => decide (a = p)
  | _, _ => false

/-- A history within the limit in every window stays so when `τ` is added after it, if the
    minute before `τ` held fewer than the limit. -/
theorem window_append {H : List Int} {τ : Int} {max : Nat}
    (hW : ∀ t, H.countP (inMinute t) ≤ max) (hle : ∀ x ∈ H, x ≤ τ)
    (hlt : H.countP (inMinute (τ - 60)) < max) (t : Int) :
    (H ++ [τ]).countP (inMinute t) ≤ max := by
  rw [List.countP_append]
  by_cases hτ : inMinute t τ
  · have hsub : H.countP (inMinute t) ≤ H.countP (inMinute (τ - 60)) := by
      refine List.countP_mono_left fun x hx hin => ?_
      have := hle x hx
      simp only [inMinute, decide_eq_true_eq] at hin hτ ⊢
      omega
    simp only [List.countP_singleton, hτ, if_true]
    omega
  · simp only [List.countP_singleton, hτ]
    simpa using hW t

/-- A history that is an old part, more than 60 seconds before `τ`, followed by the deque, holds
    in the minute before `τ` only times the deque keeps after trimming at `τ`. -/
theorem countP_minute_le {H D : List Int} {τ : Int}
    (hs : ∃ P, H = P ++ D ∧ ∀ x ∈ P, x + 60 < τ) :
    H.countP (inMinute (τ - 60)) ≤ (trimRequestTimes τ D).length := by
  obtain ⟨P, rfl, hold⟩ := hs
  obtain ⟨Q, hQ, hdrop⟩ := trimRequestTimes_split τ D
  have hP : P.countP (inMinute (τ - 60)) = 0 := List.countP_eq_zero.mpr fun x hx => by
    have := hold x hx
    simp only [inMinute, decide_eq_true_eq]; omega
  have hQ0 : Q.countP (inMinute (τ - 60)) = 0 := List.countP_eq_zero.mpr fun x hx => by
    have := hdrop x hx
    simp only [inMinute, decide_eq_true_eq]; omega
  have hD : D.countP (inMinute (τ - 60)) =
      (trimRequestTimes τ D).countP (inMinute (τ - 60)) := by
    conv_lhs => rw [hQ]
    rw [List.countP_append, hQ0, Nat.zero_add]
  rw [List.countP_append, hP, Nat.zero_add, hD]
  exact List.countP_le_length _

/-- Trimming at `τ` moves only times more than 60 seconds before `τ` into the old part. -/
theorem split_trim {H D : List Int} {τ : Int} (hs : ∃ P, H = P ++ D ∧ ∀ x ∈ P, x + 60 < τ) :
    ∃ P, H = P ++ trimRequestTimes τ D ∧ ∀ x ∈ P, x + 60 < τ := by
  obtain ⟨P, rfl, hold⟩ := hs
  obtain ⟨Q, hQ, hdrop⟩ := trimRequestTimes_split τ D
  refine ⟨P ++ Q, ?_, fun x hx => ?_⟩
  · conv_lhs => rw [hQ]
    rw [List.append_assoc]
  · rcases List.mem_append.mp hx with hx | hx
    · exact hold x hx
    · have := hdrop x hx; omega

variable {Addr : Type}

/-- A peer's admission history `H` against the server's state at time `now`: bans outlast a
    minute; every window of `H` is within the limit; `H` is an old part, every time more than 60
    seconds past, followed by the deque; the deque ends at the last admission; and a ban ends
    more than 60 seconds after every admission. -/
structure WindowInv (p : Addr) (H : List Int) (now : Int) (s : RateLimiter Addr) : Prop where
  banLong : 60 < s.limits.nBanDurationSec.toNat
  window : ∀ t, H.countP (inMinute t) ≤ s.limits.nMaxChunksPerPeerPerMinute.toNat
  le_now : ∀ τ ∈ H, τ ≤ now
  split : ∃ P, H = P ++ (s.info p).requestTimes ∧ ∀ τ ∈ P, τ + 60 < now
  le_last : ∀ τ ∈ (s.info p).requestTimes, τ ≤ (s.info p).nLastRequestTime
  ban_old : (s.info p).bIsBanned = true → ∀ τ ∈ H, τ + 60 < (s.info p).nBanUntil

namespace WindowInv

variable {p : Addr} {H : List Int} {now τ : Int} {s : RateLimiter Addr}

/-- The invariant holds from construction and a `SetLimits` with any limits, at any time. -/
theorem init (p : Addr) (t now : Int) (m c n : UInt32) :
    WindowInv p [] now ((RateLimiter.init t).setLimits m c n) :=
  ⟨show 60 < Limits.default.nBanDurationSec.toNat by decide, fun _ => Nat.zero_le _, by simp,
    ⟨[], by simp [PeerRequestInfo.empty]⟩, by simp [PeerRequestInfo.empty],
    by simp [PeerRequestInfo.empty]⟩

/-- A call that keeps the history and the limits keeps the invariant at a later time, given
    what it leaves of the peer's entry. -/
theorem of_entry {s' : RateLimiter Addr} (h : WindowInv p H now s) (hτ : now ≤ τ)
    (hl : s'.limits = s.limits)
    (hsplit : ∃ P, H = P ++ (s'.info p).requestTimes ∧ ∀ x ∈ P, x + 60 < τ)
    (hlast : ∀ x ∈ (s'.info p).requestTimes, x ≤ (s'.info p).nLastRequestTime)
    (hban : (s'.info p).bIsBanned = true → ∀ x ∈ H, x + 60 < (s'.info p).nBanUntil) :
    WindowInv p H τ s' :=
  ⟨hl ▸ h.banLong, hl ▸ h.window, fun x hx => Int.le_trans (h.le_now x hx) hτ, hsplit, hlast,
    hban⟩

/-- A call that leaves the limits and the peer's entry as they were keeps the invariant. -/
theorem of_info_eq {s' : RateLimiter Addr} (h : WindowInv p H now s) (hl : s'.limits = s.limits)
    (he : s'.info p = s.info p) : WindowInv p H now s' :=
  h.of_entry (Int.le_refl now) hl (he ▸ h.split) (he ▸ h.le_last) (he ▸ h.ban_old)

/-- The invariant only weakens as time passes. -/
theorem mono (h : WindowInv p H now s) (hτ : now ≤ τ) : WindowInv p H τ s := by
  obtain ⟨P, hP, hold⟩ := h.split
  exact h.of_entry hτ rfl ⟨P, hP, fun x hx => Int.lt_of_lt_of_le (hold x hx) hτ⟩ h.le_last
    h.ban_old

/-- Against the entry with an expired ban lifted, the history is still an old part followed by
    the deque: a ban is lifted no earlier than its end, when every admission is more than 60
    seconds old, and lifting it clears the deque. -/
theorem split_unban (h : WindowInv p H now s) (hτ : now ≤ τ)
    (hfree : ¬((s.info p).bIsBanned = true ∧ τ < (s.info p).nBanUntil)) :
    ∃ P, H = P ++ (s.info p).unban.requestTimes ∧ ∀ x ∈ P, x + 60 < τ := by
  cases hb : (s.info p).bIsBanned
  · obtain ⟨P, hP, hold⟩ := (h.mono hτ).split
    exact ⟨P, by rwa [unban_of_not_banned hb], hold⟩
  · have hend : (s.info p).nBanUntil ≤ τ := Int.not_lt.mp fun hlt => hfree ⟨hb, hlt⟩
    refine ⟨H, by simp [PeerRequestInfo.unban, hb], fun x hx => ?_⟩
    have := h.ban_old hb x hx
    omega

section

variable [DecidableEq Addr]

/-- `AllowRequest` from the peer itself keeps the invariant, with the time added to the history
    when it admits. -/
theorem allowRequest_self (h : WindowInv p H now s) (hτ : now ≤ τ) (k : Nat) :
    WindowInv p (H ++ if (s.allowRequest p k τ).1 = .allowed then [τ] else []) τ
      (s.allowRequest p k τ).2 := by
  have hinfo : (s.allowRequest p k τ).2.info p =
      (admitPeer s.limits s.nActiveTransfers (s.info p) k τ).2 := by simp
  have hrun :
      (s.allowRequest p k τ).1 = (admitPeer s.limits s.nActiveTransfers (s.info p) k τ).1 :=
    rfl
  have hl : (s.allowRequest p k τ).2.limits = s.limits := rfl
  rcases admitPeer_cases s.limits s.nActiveTransfers (s.info p) k τ with
    ⟨-, -, heq⟩ | ⟨hfree, hcase⟩
  · -- Under a running ban the entry stays as it is.
    rw [if_neg (by rw [hrun, heq]; simp), List.append_nil]
    exact (h.mono hτ).of_info_eq hl (by rw [hinfo, heq])
  have hs := h.split_unban hτ hfree
  have hback : ∀ x ∈ (s.info p).unban.requestTimes, x ≤ τ := fun x hx => by
    obtain ⟨P, hP, -⟩ := hs
    exact Int.le_trans (h.le_now x (hP ▸ List.mem_append_right P hx)) hτ
  rcases hcase with ⟨ha, hlen, heq⟩ | ⟨ha, heq⟩
  · -- An admission: the time joins the history and the trimmed deque.
    rw [if_pos (hrun ▸ ha)]
    obtain ⟨P, hP, hold⟩ := split_trim hs
    refine ⟨hl ▸ h.banLong, fun t => ?_, fun x hx => ?_, ⟨P, ?_, hold⟩, ?_, ?_⟩
    · exact hl ▸ window_append h.window (fun x hx => Int.le_trans (h.le_now x hx) hτ)
        (Nat.lt_of_le_of_lt (countP_minute_le hs) hlen) t
    · rcases List.mem_append.mp hx with hx | hx
      · exact Int.le_trans (h.le_now x hx) hτ
      · obtain rfl := List.mem_singleton.mp hx; exact Int.le_refl _
    · rw [hinfo, heq, hP, List.append_assoc]
    · rw [hinfo, heq]
      intro x hx
      rcases List.mem_append.mp hx with hx | hx
      · exact hback x (mem_of_mem_trimRequestTimes hx)
      · obtain rfl := List.mem_singleton.mp hx; exact Int.le_refl _
    · rw [hinfo, heq]; simp
  · -- A refusal keeps the history; the entry is unbanned and perhaps trimmed or banned anew.
    rw [if_neg (hrun ▸ ha), List.append_nil]
    have hlast : ∀ x ∈ trimRequestTimes τ (s.info p).unban.requestTimes,
        x ≤ (s.info p).unban.nLastRequestTime := fun x hx => by
      rw [unban_nLastRequestTime]
      exact h.le_last x (mem_of_mem_unban (mem_of_mem_trimRequestTimes hx))
    rcases heq with heq | heq | heq <;> refine h.of_entry hτ hl ?_ ?_ ?_ <;> rw [hinfo, heq]
    · exact hs
    · exact fun x hx => by
        rw [unban_nLastRequestTime]; exact h.le_last x (mem_of_mem_unban hx)
    · simp
    · exact split_trim hs
    · exact hlast
    · simp
    · exact split_trim hs
    · exact hlast
    · intro _ x hx
      have := h.le_now x hx
      have := h.banLong
      simp only [hl] at this ⊢
      omega

/-- Every call but `SetLimits`, at a time from `now` on, keeps the invariant, with the time
    added to the history when the call admits a request of the peer. -/
theorem step (h : WindowInv p H now s) (hτ : now ≤ τ) (c : Call Addr) (hc : c.setsLimits = false) :
    WindowInv p (H ++ if c.admits p (s.step τ c).2 then [τ] else []) τ (s.step τ c).1 := by
  have hl := RateLimiter.step_limits s τ c hc
  by_cases hpk : ∃ k, c = .allowRequest p k
  · obtain ⟨k, rfl⟩ := hpk
    have := h.allowRequest_self hτ k
    cases hv : (s.allowRequest p k τ).1 <;> simpa [RateLimiter.step, Call.admits, hv] using this
  have hadm : c.admits p (s.step τ c).2 = false := by
    cases c with
    | allowRequest a k =>
      have hap : a ≠ p := fun hap => hpk ⟨k, hap ▸ rfl⟩
      simp only [RateLimiter.step]
      cases (s.allowRequest a k τ).1 <;> simp [Call.admits, hap]
    | _ => rfl
  rw [hadm, if_neg Bool.false_ne_true, List.append_nil]
  have h' := h.mono hτ
  rcases RateLimiter.info_step s τ c p with
    he | ⟨k, rfl, -⟩ | ⟨k, n, -, he⟩ | ⟨-, hk, he⟩
  · exact h'.of_info_eq hl he
  · exact absurd ⟨k, rfl⟩ hpk
  · -- `RecordServed` changes only the served stamps.
    exact h'.of_entry (Int.le_refl τ) hl (by rw [he]; exact h'.split) (by rw [he]; exact h'.le_last)
      (by rw [he]; exact h'.ban_old)
  · -- `Cleanup` erases only an entry idle for ten minutes, so all of `H` is old
    have hidle : (s.info p).nLastRequestTime + 600 < τ := by
      simp [RateLimiter.keepsEntry] at hk
      omega
    obtain ⟨P, hP, hold⟩ := h.split
    refine h.of_entry hτ hl ⟨H, by simp [he, PeerRequestInfo.empty], fun x hx => ?_⟩
      (by simp [he, PeerRequestInfo.empty]) (by simp [he, PeerRequestInfo.empty])
    rw [hP] at hx
    rcases List.mem_append.mp hx with hx | hx
    · exact Int.lt_of_lt_of_le (hold x hx) hτ
    · have := h.le_last x hx; omega

end

end WindowInv

variable [DecidableEq Addr]

/-- The times at which `AllowRequest(p, ·)` returned `true` along a run. -/
def RateLimiter.admitted (s : RateLimiter Addr) (p : Addr) : List (Int × Call Addr) → List Int
  | [] => []
  | (t, c) :: evs =>
    (if c.admits p (s.step t c).2 then [t] else []) ++ (s.step t c).1.admitted p evs

/-- Along a run with a nondecreasing clock from `now` and no `SetLimits`, every window of the
    history, extended by the run's admissions, stays within the limit. -/
theorem WindowInv.admitted {p : Addr} {H : List Int} {now : Int} {s : RateLimiter Addr}
    (h : WindowInv p H now s) {evs : List (Int × Call Addr)}
    (hmono : (evs.map Prod.fst).Chain (· ≤ ·) now)
    (hlim : ∀ e ∈ evs, e.2.setsLimits = false)
    (t : Int) :
    (H ++ s.admitted p evs).countP (inMinute t) ≤ s.limits.nMaxChunksPerPeerPerMinute.toNat := by
  induction evs generalizing H now s with
  | nil => simpa [RateLimiter.admitted] using h.window t
  | cons e evs ih =>
    obtain ⟨τ, c⟩ := e
    rw [List.map_cons, List.chain_cons] at hmono
    have hc := hlim _ (.head _)
    have := ih (h.step hmono.1 c hc) hmono.2 (fun e he => hlim e (.tail _ he))
    rwa [RateLimiter.step_limits s τ c hc, List.append_assoc] at this

/-- Over every run from construction, with the limits a `SetLimits` at start-up chose, a
    nondecreasing clock and no later `SetLimits`, every closed window `[t, t + 60]` holds at most
    `nMaxChunksPerPeerPerMinute` admitted requests of any one peer, bans and their lifting
    included. -/
theorem admitted_per_minute_le (t₀ : Int) (maxChunksPerMin maxConcurrent minSecBetween : UInt32)
    (evs : List (Int × Call Addr)) (hmono : (evs.map Prod.fst).Chain' (· ≤ ·))
    (hlim : ∀ e ∈ evs, e.2.setsLimits = false) (p : Addr) (t : Int) :
    (((RateLimiter.init t₀ : RateLimiter Addr).setLimits maxChunksPerMin maxConcurrent
      minSecBetween).admitted p evs).countP (inMinute t) ≤ maxChunksPerMin.toNat := by
  cases evs with
  | nil => simp [RateLimiter.admitted]
  | cons e evs =>
    have hchain : ((e :: evs).map Prod.fst).Chain (· ≤ ·) e.1 := by
      simpa [List.chain_cons] using hmono
    simpa using (WindowInv.init p t₀ e.1 maxChunksPerMin maxConcurrent minSecBetween).admitted
      hchain hlim t

/-- A hundred and one requests of peer `0` at time 1000, and one more at 1300. -/
def banCycle : List (Int × Call Nat) :=
  List.replicate 101 (1000, .allowRequest 0 0) ++ [(1300, .allowRequest 0 0)]

set_option maxRecDepth 20000 in
/-- With `SetLimits(100, 1000, 0)` at start-up, the first hundred requests of `banCycle` are
    admitted and fill the per-minute limit, the hundred and first is refused and bans the peer
    until 1300, and the request at 1300 lifts the ban, clears the deque and is admitted. The
    window `[1000, 1060]` holds a hundred admissions. -/
theorem admitted_per_minute_le_banCycle :
    (banCycle.map Prod.fst).Chain' (· ≤ ·) ∧ (∀ e ∈ banCycle, e.2.setsLimits = false) ∧
    (((RateLimiter.init 0 : RateLimiter Nat).setLimits 100 1000 0).after
      (List.replicate 101 (1000, .allowRequest 0 0))).isBanned 0 1000 = true ∧
    ((RateLimiter.init 0 : RateLimiter Nat).setLimits 100 1000 0).admitted 0 banCycle =
      List.replicate 100 1000 ++ [1300] ∧
    (((RateLimiter.init 0 : RateLimiter Nat).setLimits 100 1000 0).admitted 0 banCycle).countP
      (inMinute 1000) ≤ (100 : UInt32).toNat := by
  have h₁ : (banCycle.map Prod.fst).Chain' (· ≤ ·) := by
    rw [List.chain'_iff_pairwise, banCycle, List.map_append, List.map_replicate]
    simp only [List.pairwise_append, List.pairwise_replicate, List.mem_replicate, List.map_cons,
      List.map_nil, List.mem_singleton, List.pairwise_singleton]
    exact ⟨.inr (Int.le_refl _), trivial, fun a ha b hb => by omega⟩
  have h₂ : ∀ e ∈ banCycle, e.2.setsLimits = false := by
    simp [banCycle, List.mem_replicate, Call.setsLimits]
  exact ⟨h₁, h₂, by decide, by decide, admitted_per_minute_le 0 100 1000 0 banCycle h₁ h₂ 0 1000⟩

end Snapshot

end Zclassic

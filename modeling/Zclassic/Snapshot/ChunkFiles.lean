import Zclassic.Snapshot.Store

/-!
# The Chunk Files over a Run

After `Initialize` the store's manifest stays as it is (`SaveManifest` is called only from
`Initialize`), and the chunk files change only by `SaveChunk` and `CleanupChunks`.
`StoreCall` is one of those calls and `storeAfter` the directory after a run of them.

`SaveChunk` checks the bytes it is given with `VerifyChunk` before it opens the file, and
`CleanupChunks` only removes files, also when it throws part way. A run from a directory whose
chunk files pass `VerifyChunk` therefore leaves in each file a prefix of bytes that
`VerifyChunk` accepted for that chunk's number, and, when every write reaches the disk whole,
exactly such bytes (`chunkFiles_after`).

That is what `ExtractSnapshot` relies on without checking it. After such a run with whole
writes, a true `ExtractSnapshot` has unpacked the part that reached the combined file of chunks
joined in order, each of which passes `VerifyChunk` (`extractSnapshot_after`), and a node for
which `CanServeSnapshots` holds keeps a file that passes `VerifyChunk` for every chunk of the
manifest (`canServeSnapshots_after`). A write cut short breaks both
(`saveChunk_partial_write`).

## Main definitions

* `StoreCall`, `StoreCall.run`, `storeAfter`: Runs of the store.
* `FilesSatisfy`: Every chunk file meets a condition on its number and bytes.
* `PrefixOfVerified`: A prefix of bytes that `VerifyChunk` accepts.

## Theorems

* `FilesSatisfy.after`: A run keeps a condition its writes keep.
* `chunkFiles_after`: What the chunk files hold after a run.
* `extractSnapshot_after`: What a true `ExtractSnapshot` has unpacked after a run.
* `canServeSnapshots_after`: A node that can serve holds every chunk, verified.
-/

namespace Zclassic

namespace Snapshot

variable {D : Type}

/-- A call of the store that changes the chunk files. -/
inductive StoreCall
  /-- `SaveChunk(nChunk, vData)`, the write going as `w` says. -/
  | saveChunk (w : FileWrite) (nChunk : Nat) (vData : List UInt8)
  /-- `CleanupChunks()`, `remove_all` throwing after the files in `removed` when `throws`. -/
  | cleanupChunks (throws : Bool) (removed : Nat → Bool)

/-- The directory after one call, for the store's manifest. -/
def StoreCall.run (sha256 : List UInt8 → Fin 32 → UInt8) (manifest : Manifest) (env : Env D) :
    StoreCall → Env D
  | .saveChunk w nChunk vData => (Snapshot.saveChunk sha256 manifest env w nChunk vData).2
  | .cleanupChunks throws removed => (Snapshot.cleanupChunks env throws removed).2

/-- The directory after a run. -/
def storeAfter (sha256 : List UInt8 → Fin 32 → UInt8) (manifest : Manifest) (env : Env D)
    (calls : List StoreCall) : Env D :=
  calls.foldl (fun env call => call.run sha256 manifest env) env

/-- Whether a call's write, if it makes one, reaches the disk whole. -/
def StoreCall.writesWhole : StoreCall → Bool
  | .saveChunk w _ vData => decide (vData.length ≤ w.nWritten)
  | .cleanupChunks _ _ => true

/-- Every chunk file holds bytes that `P` accepts for its number. -/
def FilesSatisfy (P : Nat → List UInt8 → Prop) (env : Env D) : Prop :=
  ∀ i bytes, env.chunkFile i = some bytes → P i bytes

/-- A prefix of bytes that `VerifyChunk` accepts for chunk `i`. -/
def PrefixOfVerified (sha256 : List UInt8 → Fin 32 → UInt8) (manifest : Manifest) (i : Nat)
    (bytes : List UInt8) : Prop :=
  ∃ vData, verifyChunk sha256 manifest i vData = true ∧ bytes <+: vData

/-- What a call must write for `P` to hold of the file it writes. -/
def StoreCall.Keeps (sha256 : List UInt8 → Fin 32 → UInt8) (manifest : Manifest)
    (P : Nat → List UInt8 → Prop) : StoreCall → Prop
  | .saveChunk w nChunk vData =>
    verifyChunk sha256 manifest nChunk vData = true → P nChunk (vData.take w.nWritten)
  | .cleanupChunks _ _ => True

/-- A stand-in for SHA-256 in the examples below: output byte `i` is the sum of the input
    bytes and `i`. -/
def byteSum (vData : List UInt8) (i : Fin 32) : UInt8 :=
  vData.foldl (· + ·) i.val.toUInt8

/-- A manifest of two chunks, `[7]` and `[8, 9]`, with their sizes and hashes. -/
def pairManifest : Manifest :=
  ⟨1, 0, 3, [⟨0, chunkHash byteSum [7], 1⟩, ⟨1, chunkHash byteSum [8, 9], 2⟩]⟩

/-- A snapshot directory that holds chunk `0` of `pairManifest`, a combined file that takes up
    to three bytes, and a `tar` that unpacks the archive as the new data directory and exits
    with `0`. -/
def chunkZeroDirEnv : Env (List UInt8) where
  chunkFile i := if i = 0 then some [7] else none
  openChunk _ := true
  combined := ⟨true, 3⟩
  tar archive _ := (0, archive)
  removeThrows := false

/-- Fetching chunk `1` of `pairManifest`: bad data that `VerifyChunk` rejects, a write cut short
    after one byte, a `CleanupChunks` that throws after removing chunk file `1`, and a whole
    write. -/
def tornRefetch : List StoreCall :=
  [.saveChunk ⟨true, 3⟩ 1 [1, 2, 3], .saveChunk ⟨true, 1⟩ 1 [8, 9],
    .cleanupChunks true (· = 1), .saveChunk ⟨true, 2⟩ 1 [8, 9]]

/-- Fetching chunk `1` of `pairManifest` with whole writes: bad data, then the chunk. -/
def wholeRefetch : List StoreCall :=
  [.saveChunk ⟨true, 3⟩ 1 [1, 2, 3], .saveChunk ⟨true, 2⟩ 1 [8, 9]]

theorem chunkZeroDirEnv_verified :
    FilesSatisfy (fun i bytes => verifyChunk byteSum pairManifest i bytes = true)
      chunkZeroDirEnv := by
  intro i bytes hi
  simp only [chunkZeroDirEnv] at hi
  split_ifs at hi with h
  cases hi
  subst h
  decide

section Runs

variable {sha256 : List UInt8 → Fin 32 → UInt8} {manifest : Manifest}
  {P : Nat → List UInt8 → Prop}

theorem FilesSatisfy.cleanupChunks {env : Env D} (h : FilesSatisfy P env) (throws : Bool)
    (removed : Nat → Bool) : FilesSatisfy P (Snapshot.cleanupChunks env throws removed).2 := by
  intro i bytes hi
  simp only [Snapshot.cleanupChunks, removeAllLeaves] at hi
  split_ifs at hi
  exact h i bytes hi

theorem FilesSatisfy.saveChunk {env : Env D} (h : FilesSatisfy P env) {w : FileWrite}
    {nChunk : Nat} {vData : List UInt8}
    (hw : verifyChunk sha256 manifest nChunk vData = true → P nChunk (vData.take w.nWritten)) :
    FilesSatisfy P (Snapshot.saveChunk sha256 manifest env w nChunk vData).2 := by
  obtain ⟨hfalse, htrue⟩ := saveChunk_spec sha256 manifest env w nChunk vData
  cases hr : (Snapshot.saveChunk sha256 manifest env w nChunk vData).1
  · rw [hfalse hr]
    exact h
  · obtain ⟨-, hv, he⟩ := htrue hr
    intro i bytes hi
    rw [he] at hi
    dsimp only at hi
    by_cases hn : i = nChunk
    · subst hn
      simp only [Function.update_same, Option.some_inj] at hi
      exact hi ▸ hw hv
    · rw [Function.update_noteq hn] at hi
      exact h i bytes hi

/-- A run keeps a condition on the chunk files that each of its writes keeps. -/
theorem FilesSatisfy.after {env : Env D} (h : FilesSatisfy P env) {calls : List StoreCall}
    (hcalls : ∀ call ∈ calls, call.Keeps sha256 manifest P) :
    FilesSatisfy P (storeAfter sha256 manifest env calls) := by
  induction calls generalizing env with
  | nil => exact h
  | cons call rest ih =>
    refine ih ?_ fun c hc => hcalls c (List.mem_cons_of_mem _ hc)
    have hcall := hcalls call (List.mem_cons_self _ _)
    cases call with
    | saveChunk w nChunk vData => exact h.saveChunk hcall
    | cleanupChunks throws removed => exact h.cleanupChunks throws removed

theorem StoreCall.keeps_prefixOfVerified (call : StoreCall) :
    call.Keeps sha256 manifest (PrefixOfVerified sha256 manifest) := by
  cases call with
  | saveChunk w nChunk vData => exact fun hv => ⟨vData, hv, List.take_prefix _ _⟩
  | cleanupChunks => trivial

/-- A write that reaches the disk whole leaves bytes that `VerifyChunk` accepted. -/
theorem StoreCall.keeps_verified {call : StoreCall} (h : call.writesWhole = true) :
    call.Keeps sha256 manifest fun i bytes => verifyChunk sha256 manifest i bytes = true := by
  cases call with
  | saveChunk w nChunk vData =>
    simp only [StoreCall.writesWhole, decide_eq_true_eq] at h
    exact fun hv => by rwa [List.take_of_length_le h]
  | cleanupChunks => trivial

/-- After every run from a directory whose chunk files pass `VerifyChunk`, each chunk file
    holds a prefix of bytes that `VerifyChunk` accepts for its number, and, when every write
    of the run reached the disk whole, bytes that `VerifyChunk` accepts. -/
theorem chunkFiles_after (env : Env D) (calls : List StoreCall)
    (h0 : FilesSatisfy (fun i bytes => verifyChunk sha256 manifest i bytes = true) env) :
    FilesSatisfy (PrefixOfVerified sha256 manifest) (storeAfter sha256 manifest env calls) ∧
    ((∀ call ∈ calls, call.writesWhole = true) →
      FilesSatisfy (fun i bytes => verifyChunk sha256 manifest i bytes = true)
        (storeAfter sha256 manifest env calls)) :=
  ⟨FilesSatisfy.after (fun i bytes hi => ⟨bytes, h0 i bytes hi, List.prefix_refl _⟩)
    fun call _ => call.keeps_prefixOfVerified,
    fun hw => FilesSatisfy.after h0 fun _ hc => StoreCall.keeps_verified (hw _ hc)⟩

theorem chunkFiles_after_refetch :
    FilesSatisfy (fun i bytes => verifyChunk byteSum pairManifest i bytes = true)
      chunkZeroDirEnv ∧
    FilesSatisfy (PrefixOfVerified byteSum pairManifest)
      (storeAfter byteSum pairManifest chunkZeroDirEnv tornRefetch) ∧
    (storeAfter byteSum pairManifest chunkZeroDirEnv (tornRefetch.take 2)).chunkFile 1 = some [8] ∧
    FilesSatisfy (PrefixOfVerified byteSum pairManifest)
      (storeAfter byteSum pairManifest chunkZeroDirEnv (tornRefetch.take 2)) ∧
    (∀ call ∈ wholeRefetch, call.writesWhole = true) ∧
    FilesSatisfy (fun i bytes => verifyChunk byteSum pairManifest i bytes = true)
      (storeAfter byteSum pairManifest chunkZeroDirEnv wholeRefetch) :=
  ⟨chunkZeroDirEnv_verified,
    (chunkFiles_after chunkZeroDirEnv tornRefetch chunkZeroDirEnv_verified).1, by decide,
    (chunkFiles_after chunkZeroDirEnv (tornRefetch.take 2) chunkZeroDirEnv_verified).1,
    by decide,
    (chunkFiles_after chunkZeroDirEnv wholeRefetch chunkZeroDirEnv_verified).2 (by decide)⟩

/-- A call touches nothing but the chunk files. -/
theorem StoreCall.run_frame (call : StoreCall) (env : Env D) :
    (call.run sha256 manifest env).combined = env.combined ∧
      (call.run sha256 manifest env).tar = env.tar := by
  cases call with
  | saveChunk w nChunk vData =>
    show (Snapshot.saveChunk sha256 manifest env w nChunk vData).2.combined = env.combined ∧
      (Snapshot.saveChunk sha256 manifest env w nChunk vData).2.tar = env.tar
    unfold Snapshot.saveChunk
    split_ifs <;> exact ⟨rfl, rfl⟩
  | cleanupChunks throws removed => exact ⟨rfl, rfl⟩

/-- A run touches nothing but the chunk files: the combined file's write and `tar` stay what
    they were. -/
theorem storeAfter_frame (env : Env D) (calls : List StoreCall) :
    (storeAfter sha256 manifest env calls).combined = env.combined ∧
      (storeAfter sha256 manifest env calls).tar = env.tar := by
  induction calls generalizing env with
  | nil => exact ⟨rfl, rfl⟩
  | cons call rest ih =>
    obtain ⟨h₁, h₂⟩ := ih (call.run sha256 manifest env)
    obtain ⟨h₃, h₄⟩ := call.run_frame env
    exact ⟨h₁.trans h₃, h₂.trans h₄⟩

/-- A true `ExtractSnapshot` found every chunk file loading and ran `tar`, with exit code `0`,
    on what reached the combined file of the chunk files joined in order. -/
theorem extractSnapshot_true {env : Env D} {dataDir : D}
    (h : (extractSnapshot manifest env dataDir).1 = true) :
    (∀ i < manifest.getChunkCount, env.Loads i) ∧
      env.tar (combinedBytes manifest env) dataDir =
        (0, (extractSnapshot manifest env dataDir).2) := by
  rw [extractSnapshot_eq] at h ⊢
  split_ifs at h ⊢ with hc
  simp only [Bool.and_eq_true, beq_iff_eq] at h
  exact ⟨hc.1, Prod.ext h.1 rfl⟩

/-- After every run of whole writes from a directory whose chunk files pass `VerifyChunk`, a
    true `ExtractSnapshot` has run `tar`, with exit code `0`, on the part that reached the
    combined file of chunks `0` to `GetChunkCount() - 1` joined in order, each of which passes
    `VerifyChunk`, and leaves the data directory that `tar` made of it. -/
theorem extractSnapshot_after (env : Env D) (calls : List StoreCall) (dataDir : D)
    (h0 : FilesSatisfy (fun i bytes => verifyChunk sha256 manifest i bytes = true) env)
    (hw : ∀ call ∈ calls, call.writesWhole = true)
    (hx : (extractSnapshot manifest (storeAfter sha256 manifest env calls) dataDir).1 = true) :
    ∃ vChunks : List (List UInt8), vChunks.length = manifest.getChunkCount ∧
      (∀ i (hi : i < vChunks.length), verifyChunk sha256 manifest i vChunks[i] = true) ∧
      env.tar (vChunks.flatten.take env.combined.nWritten) dataDir =
        (0, (extractSnapshot manifest (storeAfter sha256 manifest env calls) dataDir).2) := by
  have hv := FilesSatisfy.after h0 fun _ hc => StoreCall.keeps_verified (hw _ hc)
  obtain ⟨hall, htar⟩ := extractSnapshot_true hx
  obtain ⟨hcomb, htar'⟩ : (storeAfter sha256 manifest env calls).combined = env.combined ∧
      (storeAfter sha256 manifest env calls).tar = env.tar := storeAfter_frame env calls
  rw [combinedBytes, hcomb, htar'] at htar
  refine ⟨(List.range manifest.getChunkCount).map fun i =>
    ((storeAfter sha256 manifest env calls).chunkFile i).getD [], by simp, fun i hi => ?_, htar⟩
  rw [List.length_map, List.length_range] at hi
  obtain ⟨bytes, hb⟩ := Option.isSome_iff_exists.mp (hall i hi).1
  simpa [hb] using hv i bytes hb

theorem extractSnapshot_after_refetch :
    FilesSatisfy (fun i bytes => verifyChunk byteSum pairManifest i bytes = true)
      chunkZeroDirEnv ∧ (∀ call ∈ wholeRefetch, call.writesWhole = true) ∧
    (extractSnapshot pairManifest
      (storeAfter byteSum pairManifest chunkZeroDirEnv wholeRefetch) [5]).1 = true ∧
    (extractSnapshot pairManifest
      (storeAfter byteSum pairManifest chunkZeroDirEnv wholeRefetch) [5]).2 = [7, 8, 9] ∧
    ∃ vChunks : List (List UInt8), vChunks.length = pairManifest.getChunkCount ∧
      (∀ i (hi : i < vChunks.length), verifyChunk byteSum pairManifest i vChunks[i] = true) ∧
      chunkZeroDirEnv.tar (vChunks.flatten.take chunkZeroDirEnv.combined.nWritten) [5] =
        (0, (extractSnapshot pairManifest
          (storeAfter byteSum pairManifest chunkZeroDirEnv wholeRefetch) [5]).2) :=
  ⟨chunkZeroDirEnv_verified, by decide, by decide, by decide,
    extractSnapshot_after chunkZeroDirEnv wholeRefetch [5] chunkZeroDirEnv_verified (by decide)
      (by decide)⟩

/-- After every run of whole writes from a directory whose chunk files pass `VerifyChunk`, a
    node for which `CanServeSnapshots` holds keeps, for every chunk of the manifest, a file
    whose bytes pass `VerifyChunk`. -/
theorem canServeSnapshots_after (env : Env D) (calls : List StoreCall) (listen : Bool)
    (h0 : FilesSatisfy (fun i bytes => verifyChunk sha256 manifest i bytes = true) env)
    (hw : ∀ call ∈ calls, call.writesWhole = true)
    (hc : canServeSnapshots (some (manifest, storeAfter sha256 manifest env calls)) listen) :
    ∀ i < manifest.getChunkCount, ∃ bytes,
      (storeAfter sha256 manifest env calls).chunkFile i = some bytes ∧
        verifyChunk sha256 manifest i bytes = true := by
  intro i hi
  simp only [canServeSnapshots, Bool.and_eq_true, List.all_eq_true, List.mem_range] at hc
  have hhas := hc.1 i hi
  simp only [hasChunk, Bool.and_eq_true, decide_eq_true_eq] at hhas
  obtain ⟨bytes, hb⟩ := Option.isSome_iff_exists.mp hhas.2
  exact ⟨bytes, hb, FilesSatisfy.after h0 (fun _ hc => StoreCall.keeps_verified (hw _ hc)) i
    bytes hb⟩

theorem canServeSnapshots_after_refetch :
    FilesSatisfy (fun i bytes => verifyChunk byteSum pairManifest i bytes = true)
      chunkZeroDirEnv ∧ (∀ call ∈ wholeRefetch, call.writesWhole = true) ∧
    canServeSnapshots (some (pairManifest,
      storeAfter byteSum pairManifest chunkZeroDirEnv wholeRefetch)) true = true ∧
    ∀ i < pairManifest.getChunkCount, ∃ bytes,
      (storeAfter byteSum pairManifest chunkZeroDirEnv wholeRefetch).chunkFile i = some bytes ∧
        verifyChunk byteSum pairManifest i bytes = true :=
  ⟨chunkZeroDirEnv_verified, by decide, by decide,
    canServeSnapshots_after chunkZeroDirEnv wholeRefetch true chunkZeroDirEnv_verified
      (by decide) (by decide)⟩

end Runs

end Snapshot

end Zclassic

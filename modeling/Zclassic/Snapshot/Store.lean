import Zclassic.Pow.RandomX

/-!
# The Snapshot Store

`CSnapshotStore` keeps the chunks of a chainstate snapshot as files `chunk-%03d.dat` in the
snapshot directory, checks each against the manifest with `VerifyChunk` when `SaveChunk`
writes it, and `ExtractSnapshot` joins them into `snapshot-combined.tar.gz` and has the
system's `tar` unpack that archive into the data directory.

The file system and the external command are an `Env`: what each chunk file holds (or that it
is absent), whether the streams open, what `tar` does to the data directory for a given
archive (any exit code, any output), and whether removing the combined file throws. The data
directory is a value of any type `D`, changed only by `tar`. A write is a `FileWrite`: whether
the file opens, and how many bytes reach it before a write or the close fails.

`ExtractSnapshot` checks that each chunk file exists (`HasChunk`), never that its bytes pass
`VerifyChunk`, although its comment says it verifies that all chunks are present and valid. It
never checks the combined file's stream after `write` or `close`, so `tar` unpacks whatever
prefix of the joined chunks reached the disk. And it extracts straight into the data
directory, so a failed `tar`, or a `remove` that throws after a good one, returns `false` with
the directory already changed. `extractSnapshot_eq` says exactly what it does: one `tar` run
on the bytes of the chunk files joined in order that reached the combined file, when all
exist and open, and nothing to the data directory otherwise.

`SaveChunk` writes into the chunk file itself and never looks at the stream after `write` or
`close`. A false result leaves every file as it was, and a true one comes only for a chunk in
range whose bytes `VerifyChunk` accepts (`saveChunk_spec`); but a write that fails part way
returns `true` with the file holding what reached it (`saveChunk_partial_write`).

## Main definitions

* `ChunkInfo`, `Manifest`: `CSnapshotChunkInfo` and `CSnapshotManifest`, with `IsValid`.
* `Env`, `FileWrite`: The snapshot directory, the system calls, and the outcome of a write.
* `hasChunk`, `loadChunk`, `verifyChunk`, `saveChunk`, `extractSnapshot`: The store's methods.

## Theorems

* `combineChunks_eq`: The concatenation loop joins every chunk file, or fails.
* `extractSnapshot_eq`: What `ExtractSnapshot` does to the data directory.
* `extractSnapshot_unverified_chunk`: It extracts a chunk that `VerifyChunk` rejects, changes
  the data directory and returns `false`, and unpacks a cut-short archive.
* `saveChunk_spec`: What a true and a false `SaveChunk` say about the chunk files.
* `saveChunk_partial_write`: A write cut short still returns `true`.
-/

namespace Zclassic

namespace Snapshot

/-- `CSnapshotChunkInfo`: the chunk's number, the `uint256` of its hash, and its size. -/
structure ChunkInfo where
  nChunkNumber : UInt32
  hashChunk : BitVec 256
  nSize : UInt64
  deriving DecidableEq, Repr

/-- `CSnapshotManifest`. -/
structure Manifest where
  nBlockHeight : UInt32
  nTimestamp : UInt64
  nTotalSize : UInt64
  vChunks : List ChunkInfo
  deriving DecidableEq, Repr

/-- `CSnapshotManifest()`. -/
def Manifest.empty : Manifest := ⟨0, 0, 0, []⟩

/-- `CSnapshotManifest::GetChunkCount`, the size of `vChunks` as a `uint32_t`. -/
def Manifest.getChunkCount (m : Manifest) : Nat := m.vChunks.length % UInt32.size

/-- `CSnapshotManifest::IsValid`: a height, a chunk, a size, and chunk `i` numbered `i`. -/
def Manifest.isValid (m : Manifest) : Bool :=
  m.nBlockHeight != 0 && !m.vChunks.isEmpty && m.nTotalSize != 0 &&
    m.vChunks.enum.all fun (i, info) => info.nChunkNumber.toNat == i

/-- What the file system does when a file is written whole: whether it opens for writing,
    which creates the file or empties the one there, and how many of the bytes written reach
    it before a write or the close fails. -/
structure FileWrite where
  opens : Bool
  nWritten : Nat

/-- The snapshot directory and the system as `ExtractSnapshot` meets them. -/
structure Env (D : Type) where
  /-- The bytes of `chunk-%03d.dat`, `none` when it does not exist. -/
  chunkFile : Nat → Option (List UInt8)
  /-- Whether `boost::filesystem::ifstream` opens the chunk file. -/
  openChunk : Nat → Bool
  /-- How the `boost::filesystem::ofstream` of `snapshot-combined.tar.gz` goes: whether it
      opens, and how many of the bytes written reach the file before a write or the close
      fails. -/
  combined : FileWrite
  /-- `system("tar -xzf ...")`: its exit code and the data directory after it, from the
      archive's bytes and the data directory before. -/
  tar : List UInt8 → D → Int × D
  /-- Whether `boost::filesystem::remove` of the combined file throws. -/
  removeThrows : Bool

variable {D : Type}

/-- `CSnapshotStore::HasChunk`. -/
def hasChunk (manifest : Manifest) (env : Env D) (nChunk : Nat) : Bool :=
  nChunk < manifest.getChunkCount && (env.chunkFile nChunk).isSome

/-- `CSnapshotStore::LoadChunk`: the file's bytes, `none` where the source returns `false`. -/
def loadChunk (manifest : Manifest) (env : Env D) (nChunk : Nat) : Option (List UInt8) :=
  if manifest.getChunkCount ≤ nChunk then none
  else match env.chunkFile nChunk with
    | none => none
    | some bytes => if env.openChunk nChunk then some bytes else none

/-- The `uint256` that `VerifyChunk` builds from the 32 bytes `CSHA256::Finalize` writes:
    byte `i` of the blob is output byte `31 - i`. -/
def chunkHash (sha256 : List UInt8 → Fin 32 → UInt8) (vData : List UInt8) : BitVec 256 :=
  BitVec.ofNat 256 (Pow.leValue (List.ofFn fun i => (sha256 vData i.rev).toNat))

/-- `CSnapshotStore::VerifyChunk`, for a single SHA-256 given as a function to its output
    bytes. -/
def verifyChunk (sha256 : List UInt8 → Fin 32 → UInt8) (manifest : Manifest) (nChunk : Nat)
    (vData : List UInt8) : Bool :=
  match manifest.vChunks[nChunk]? with
  | none => false
  | some info => vData.length == info.nSize.toNat && chunkHash sha256 vData == info.hashChunk

/-- `CSnapshotStore::SaveChunk(nChunk, vData)`: the result and the directory after it, when
    writing the chunk file goes as `w` says. The stream is not checked after `write` or
    `close`, and a failing `std::ofstream` throws nothing, so the `catch` is never taken. -/
def saveChunk (sha256 : List UInt8 → Fin 32 → UInt8) (manifest : Manifest) (env : Env D)
    (w : FileWrite) (nChunk : Nat) (vData : List UInt8) : Bool × Env D :=
  if manifest.getChunkCount ≤ nChunk then (false, env)
  else if !verifyChunk sha256 manifest nChunk vData then (false, env)
  else if !w.opens then (false, env)
  else (true, { env with
    chunkFile := Function.update env.chunkFile nChunk (some (vData.take w.nWritten)) })

/-- The concatenation loop of `ExtractSnapshot` over chunks `0` to `n - 1`, which gives up at
    the first `LoadChunk` that fails. -/
def combineChunks (manifest : Manifest) (env : Env D) : Nat → Option (List UInt8)
  | 0 => some []
  | n + 1 => do
    let archive ← combineChunks manifest env n
    let vData ← loadChunk manifest env n
    return archive ++ vData

/-- `CSnapshotStore::ExtractSnapshot(dataDir)`: the result and the data directory after it.
    Neither `outFile.write` nor `outFile.close` is checked, so `tar` reads the bytes that reached
    the combined file. -/
def extractSnapshot (manifest : Manifest) (env : Env D) (dataDir : D) : Bool × D :=
  if !(List.range manifest.getChunkCount).all (hasChunk manifest env) then (false, dataDir)
  else if !env.combined.opens then (false, dataDir)
  else match combineChunks manifest env manifest.getChunkCount with
    | none => (false, dataDir)
    | some archive =>
      let (result, dataDir) := env.tar (archive.take env.combined.nWritten) dataDir
      if result ≠ 0 then (false, dataDir)
      else if env.removeThrows then (false, dataDir)
      else (true, dataDir)

/-- What `remove_all` of the snapshot directory leaves of one file in it: nothing, unless it
    threw (`throws`) before it reached that file (`removed` false). -/
def removeAllLeaves {α : Type} (throws removed : Bool) (file : Option α) : Option α :=
  if !throws || removed then none else file

/-- `CSnapshotStore::CleanupChunks`: `remove_all` of the snapshot directory. When it throws,
    which it may part way, the result is `false` and only the chunk files in `removed` are
    gone; otherwise every chunk file is. -/
def cleanupChunks (env : Env D) (throws : Bool) (removed : Nat → Bool) : Bool × Env D :=
  (!throws, { env with
    chunkFile := fun i => removeAllLeaves throws (removed i) (env.chunkFile i) })

/-- `CanServeSnapshots()`, for the store `psnapshotstore` points to and the `-listen` flag: a
    store, every chunk of its manifest present (`HasChunk`), and a node that accepts
    connections. -/
def canServeSnapshots (psnapshotstore : Option (Manifest × Env D)) (listen : Bool) : Bool :=
  match psnapshotstore with
  | none => false
  | some (manifest, env) =>
    (List.range manifest.getChunkCount).all (hasChunk manifest env) && listen

/-- The chunk files `0` to `n - 1` joined in order, an absent one as empty. -/
def chunkBytes (env : Env D) (n : Nat) : List UInt8 :=
  ((List.range n).map fun i => (env.chunkFile i).getD []).flatten

/-- Chunk `i` of the manifest exists and opens. -/
def Env.Loads (env : Env D) (i : Nat) : Prop := (env.chunkFile i).isSome ∧ env.openChunk i = true

instance (env : Env D) (i : Nat) : Decidable (env.Loads i) :=
  inferInstanceAs (Decidable (_ ∧ _))

theorem loadChunk_eq {manifest : Manifest} (env : Env D) {i : Nat}
    (hi : i < manifest.getChunkCount) :
    loadChunk manifest env i = if env.Loads i then env.chunkFile i else none := by
  unfold loadChunk
  rw [if_neg (Nat.not_le.mpr hi)]
  split <;> simp_all [Env.Loads]

/-- The loop joins every chunk file below `n`, or fails if one of them does not load. -/
theorem combineChunks_eq {manifest : Manifest} (env : Env D) {n : Nat}
    (hn : n ≤ manifest.getChunkCount) :
    combineChunks manifest env n =
      if ∀ i < n, env.Loads i then some (chunkBytes env n) else none := by
  induction n with
  | zero => simp [combineChunks, chunkBytes]
  | succ n ih =>
    have hsucc : (∀ i < n + 1, env.Loads i) ↔ (∀ i < n, env.Loads i) ∧ env.Loads n := by
      refine ⟨fun h => ⟨fun i hi => h i (by omega), h n (by omega)⟩,
        fun ⟨h, hn⟩ i hi => ?_⟩
      rcases Nat.lt_succ_iff_lt_or_eq.mp hi with hi | rfl
      exacts [h i hi, hn]
    rw [combineChunks, ih (by omega), loadChunk_eq env (by omega)]
    simp only [hsucc]
    by_cases hall : ∀ i < n, env.Loads i
    · by_cases hn' : env.Loads n
      · obtain ⟨bytes, hb⟩ := Option.isSome_iff_exists.mp hn'.1
        rw [if_pos hall, if_pos hn', if_pos ⟨hall, hn'⟩, hb]
        simp [chunkBytes, List.range_succ, hb]
      · rw [if_pos hall, if_neg hn', if_neg (not_and_of_not_right _ hn')]
        rfl
    · rw [if_neg hall, if_neg (not_and_of_not_left _ hall)]
      rfl

/-- The bytes of the chunk files joined in order that reach the combined file. -/
def combinedBytes (manifest : Manifest) (env : Env D) : List UInt8 :=
  (chunkBytes env manifest.getChunkCount).take env.combined.nWritten

/-- `ExtractSnapshot` runs `tar` once, on the part of the chunk files joined in order that
    reached the combined file, exactly when every chunk file exists and opens and the combined
    file can be created; otherwise it returns `false` and leaves the data directory as it was.
    It returns `true` when `tar` exits with `0` and the combined file is removed. `VerifyChunk`
    plays no part. -/
theorem extractSnapshot_eq (manifest : Manifest) (env : Env D) (dataDir : D) :
    extractSnapshot manifest env dataDir =
      if (∀ i < manifest.getChunkCount, env.Loads i) ∧ env.combined.opens = true then
        ((env.tar (combinedBytes manifest env) dataDir).1 == 0 && !env.removeThrows,
          (env.tar (combinedBytes manifest env) dataDir).2)
      else (false, dataDir) := by
  have hhas : (List.range manifest.getChunkCount).all (hasChunk manifest env) = true ↔
      ∀ i < manifest.getChunkCount, (env.chunkFile i).isSome := by
    simp +contextual [List.all_eq_true, hasChunk]
  unfold extractSnapshot combinedBytes
  rw [combineChunks_eq env le_rfl]
  by_cases hall : ∀ i < manifest.getChunkCount, env.Loads i
  · have hsome := hhas.mpr fun i hi => (hall i hi).1
    simp only [if_pos hall, hsome, Bool.not_true, Bool.false_eq_true, if_false]
    cases hc : env.combined.opens
    · simp
    · rw [if_pos (And.intro hall rfl)]
      cases env.removeThrows <;>
        by_cases hr : (env.tar ((chunkBytes env manifest.getChunkCount).take
          env.combined.nWritten) dataDir).1 = 0 <;> simp [hr]
  · rw [if_neg hall, if_neg (not_and_of_not_left _ hall)]
    split_ifs <;> rfl

/-- A manifest of one chunk of one byte. -/
def oneByteManifest : Manifest := ⟨1, 0, 1, [⟨0, 0, 1⟩]⟩

/-- A snapshot directory whose chunk file `0` holds `bytes`, a combined file that takes
    `nWritten` bytes, and a `tar` that unpacks the archive as the new data directory and exits
    with `code`. -/
def chunkZeroEnv (bytes : List UInt8) (nWritten : Nat) (code : Int) (removeThrows : Bool) :
    Env (List UInt8) where
  chunkFile i := if i = 0 then some bytes else none
  openChunk _ := true
  combined := ⟨true, nWritten⟩
  tar archive _ := (code, archive)
  removeThrows := removeThrows

/-- A manifest of one chunk: the byte `7`, with its size and its hash. -/
def sevenManifest (sha256 : List UInt8 → Fin 32 → UInt8) : Manifest :=
  ⟨1, 0, 1, [⟨0, chunkHash sha256 [7], 1⟩]⟩

/-- A chunk file of the wrong size fails `VerifyChunk` for every hash function, yet
    `ExtractSnapshot` unpacks it into the data directory and returns `true`; with `tar`
    failing after its output, or `remove` throwing, it returns `false` with the data directory
    changed. And when the write of the combined file fails before any byte of a chunk that
    passes `VerifyChunk` reaches it, `tar` unpacks the empty archive and the result is
    `true`. -/
theorem extractSnapshot_unverified_chunk :
    (∀ sha256, verifyChunk sha256 oneByteManifest 0 [1, 2] = false) ∧
    extractSnapshot oneByteManifest (chunkZeroEnv [1, 2] 2 0 false) [] = (true, [1, 2]) ∧
    extractSnapshot oneByteManifest (chunkZeroEnv [1, 2] 2 2 false) [] = (false, [1, 2]) ∧
    extractSnapshot oneByteManifest (chunkZeroEnv [1, 2] 2 0 true) [] = (false, [1, 2]) ∧
    ∀ sha256, verifyChunk sha256 (sevenManifest sha256) 0 [7] = true ∧
      extractSnapshot (sevenManifest sha256) (chunkZeroEnv [7] 0 0 false) [5] = (true, []) := by
  refine ⟨fun _ => rfl, by decide, by decide, by decide, fun sha256 => ⟨?_, ?_⟩⟩
  · simp [verifyChunk, sevenManifest]
  · have hload : ∀ i < (sevenManifest sha256).getChunkCount,
        (chunkZeroEnv [7] 0 0 false).Loads i := by
      intro i hi
      have : i = 0 := by simpa [sevenManifest, Manifest.getChunkCount] using hi
      subst this
      exact ⟨rfl, rfl⟩
    rw [extractSnapshot_eq, if_pos ⟨hload, rfl⟩]
    rfl

/-- A false `SaveChunk` leaves the directory as it was. A true one comes only for a chunk in
    range whose bytes `VerifyChunk` accepts, and changes only that chunk file, to the bytes
    that reached it. -/
theorem saveChunk_spec (sha256 : List UInt8 → Fin 32 → UInt8) (manifest : Manifest)
    (env : Env D) (w : FileWrite) (nChunk : Nat) (vData : List UInt8) :
    ((saveChunk sha256 manifest env w nChunk vData).1 = false →
      (saveChunk sha256 manifest env w nChunk vData).2 = env) ∧
    ((saveChunk sha256 manifest env w nChunk vData).1 = true →
      nChunk < manifest.getChunkCount ∧ verifyChunk sha256 manifest nChunk vData = true ∧
      (saveChunk sha256 manifest env w nChunk vData).2 =
        { env with chunkFile :=
            Function.update env.chunkFile nChunk (some (vData.take w.nWritten)) }) := by
  unfold saveChunk
  split_ifs with hn hv ho
  · exact ⟨fun _ => rfl, nofun⟩
  · exact ⟨fun _ => rfl, nofun⟩
  · exact ⟨fun _ => rfl, nofun⟩
  · exact ⟨nofun, fun _ => ⟨by omega, by simpa using hv, rfl⟩⟩

/-- Saving the one chunk when the file opens but no byte reaches it, as on a full disk,
    returns `true` and leaves the chunk file empty, whatever the directory held before. -/
theorem saveChunk_partial_write :
    ∀ (sha256 : List UInt8 → Fin 32 → UInt8) (env : Env Unit),
      (saveChunk sha256 (sevenManifest sha256) env ⟨true, 0⟩ 0 [7]).1 = true ∧
      (saveChunk sha256 (sevenManifest sha256) env ⟨true, 0⟩ 0 [7]).2.chunkFile 0 = some [] := by
  intro sha256 env
  simp [saveChunk, verifyChunk, sevenManifest, Manifest.getChunkCount]

end Snapshot

end Zclassic

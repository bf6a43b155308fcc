import RadarAim.Reflection.Context

/-! Resolving an FName (`ue4r_resolve_name`): a direct-mapped cache over three ways to find the entry. -/

namespace RadarAim

/-- The text of a wide entry: the low bytes of its 256 units. -/
def wideText (wideBuf : Buf) : Str := cstr ((List.range 256).map fun i => wideBuf (i * 2))

def readEntry (entryPtr : UInt64) : Read (Option Str) := do
  let (flags, ok) ← rmReadU16 (entryPtr + 8)
  if ok && flags &&& 1 != 0 then
    match ← rmRead (entryPtr + 0x0c) 512 with
    | none => pure none
    | some wideBuf => pure (if wideText wideBuf = [] then none else some (wideText wideBuf))
  else do
    let (read, s) ← rmReadString (entryPtr + 0x0c) 1024
    pure (if read ∧ s ≠ [] then some s else none)

def readChunkEntry (chunkPtr : UInt64) (offsetInChunk : Nat) : Read (Option Str) :=
  if rmValidatePtr chunkPtr then do
    let entryPtr ← rmReadPtr (chunkPtr + .ofNat offsetInChunk * 8)
    if rmValidatePtr entryPtr then readEntry entryPtr else pure none
  else pure none

/-- The chunk pointer at `chunkIdx`, read at most once as long as it is not null. -/
def cachedChunk (chunkIdx : Nat) : Walker UInt64 := do
  let ctx ← get
  if ctx.cachedChunks chunkIdx = 0 then do
    let chunkPtr ← rmReadPtr (ctx.gnameChunkTable + .ofNat chunkIdx * 8)
    modify fun c => { c with cachedChunks := Function.update c.cachedChunks chunkIdx chunkPtr }
    pure chunkPtr
  else pure (ctx.cachedChunks chunkIdx)

/-- Strategy A: the `TNameEntryArray` behind `gname_chunk_table`. -/
def resolveChunked (compIndex : Nat) : Walker (Option Str) := do
  let ctx ← get
  if rmValidatePtr ctx.gnameChunkTable ∧ compIndex / 16384 < 32 then do
    let chunkPtr ← cachedChunk (compIndex / 16384)
    readChunkEntry chunkPtr (compIndex % 16384)
  else pure none

def resolveTables (compIndex : Nat) : List UInt64 → Read (Option Str)
  | [] => pure none
  | table :: tables =>
    if rmValidatePtr table then do
      let chunkPtr ← rmReadPtr (table + .ofNat (compIndex / 16384) * 8)
      match ← readChunkEntry chunkPtr (compIndex % 16384) with
      | some s => pure (some s)
      | none => resolveTables compIndex tables
    else resolveTables compIndex tables

/-- Strategy B: the `FNamePool` of UE 4.23 and later. It reads no more than fits the caller's buffer. -/
def resolvePool (gnamepool : UInt64) (compIndex max : Nat) : Read (Option Str) := do
  let blockIndex := compIndex / 2 ^ fnameBlockOffsetBits
  let offsetInBlock := compIndex % 2 ^ fnameBlockOffsetBits
  let blockPtr ← rmReadPtr (gnamepool + fnamepoolBlocksOffset + .ofNat blockIndex * 8)
  if rmValidatePtr blockPtr then do
    let entryAddr := blockPtr + .ofNat offsetInBlock * fnameEntryStride
    let (header, ok) ← rmReadU16 entryAddr
    let len := (header >>> fnameentryHeaderLenShift).toNat
    if ok ∧ 0 < len ∧ len ≤ 1024 ∧ header &&& fnameentryHeaderWideMask = 0 then do
      let nameCap := min (if len < max - 1 then len else max - 1) 1023
      match ← rmRead (entryAddr + fnameentryHeaderSize) nameCap with
      | none => pure none
      | some nameBuf => pure (some (cstr (nameBuf.bytes nameCap)))
    else pure none
  else pure none

/-- The contents of `name_buf` once resolved, past the cache. -/
def resolveSlow (compIndex max : Nat) : Walker (Option Str) := do
  match ← resolveChunked compIndex with
  | some s => pure (some s)
  | none => do
    let ctx ← get
    let table₁ ← rmReadPtr ctx.gnamepool
    let table₂ ← rmReadPtr (ctx.gnamepool + 8)
    match ← resolveTables compIndex [ctx.gnamepool, table₁, table₂] with
    | some s => pure (some s)
    | none => resolvePool ctx.gnamepool compIndex max

/-- The text that `"_%d"` prints for an FName number. -/
def numberSuffix (number : Int) : Str := if number > 0 then lit "_" ++ decimal (number - 1).toNat else []

/-- The suffix is left off when it would not fit `name_buf`. -/
def appendNumber (nameBuf : Str) (number : Int) : Str :=
  if nameBuf.length + (numberSuffix number).length < 1024 then nameBuf ++ numberSuffix number else nameBuf

def cacheName (compIndex : Nat) (nameBuf : Str) (c : Ue4rCtx) : Ue4rCtx :=
  { c with nameCache := Function.update c.nameCache (compIndex % nameCacheSize) ⟨compIndex, nameBuf.take 59⟩ }

def resolveIndex (compIndex : Nat) (number : Int) (max : Nat) : Walker (Bool × Str) := do
  let cached := (← get).nameCache (compIndex % nameCacheSize)
  if cached.compIndex = compIndex ∧ cached.name ≠ [] then
    pure (true, snprintf max (cached.name ++ numberSuffix number))
  else do
    match ← resolveSlow compIndex max with
    | none => pure (false, [])
    | some nameBuf => do
      modify (cacheName compIndex nameBuf)
      pure (true, snprintf max (appendNumber nameBuf number))

def ue4rResolveName (fnameAddr : UInt64) (max : Nat) : Walker (Bool × Str) :=
  if max = 0 ∨ !rmValidatePtr fnameAddr then pure (false, [])
  else do
    let (compIndex, ok) ← rmReadI32 (fnameAddr + offFnameIndex)
    if ok ∧ 0 ≤ compIndex then do
      let (number, ok) ← rmReadI32 (fnameAddr + offFnameNumber)
      resolveIndex compIndex.toNat (if ok then number else 0) max
    else pure (false, [])

def resolveObjectName (objAddr : UInt64) (max : Nat) : Walker (Bool × Str) :=
  if rmValidatePtr objAddr then ue4rResolveName (objAddr + offUobjectName) max else pure (false, [])

end RadarAim

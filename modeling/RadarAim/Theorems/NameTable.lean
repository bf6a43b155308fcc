import RadarAim.Theorems.Names

/-! Names out of a UE 4.18 name table. The reader knows 32 chunks of the table and 256 characters of a wide entry;
    past the chunks, a name is found only where the fallbacks happen to lead. -/

namespace RadarAim
namespace NameTable
open Names

/-! ### The table -/

/-- The entry that a table of chunk pointers leads to. -/
def entryAt (m : Memory) (table : UInt64) (compIndex : Nat) : Option UInt64 :=
  let chunkPtr := m.ptr (table + .ofNat (compIndex / 16384) * 8)
  let entryPtr := m.ptr (chunkPtr + .ofNat (compIndex % 16384) * 8)
  if rmValidatePtr table ∧ rmValidatePtr chunkPtr ∧ rmValidatePtr entryPtr then some entryPtr else none

/-- The entry at `e` has the text `s`, with one byte or with two bytes for a character. -/
structure EntryHolds (m : Memory) (e : UInt64) (wide : Bool) (s : Str) : Prop where
  readable : ∀ i < 12 + 1024, (m (e + .ofNat i)).isSome
  flag : (m.u16 (e + 8)).1 &&& 1 ≠ 0 ↔ wide = true
  narrowText : wide = false → ∀ i ≤ s.length, m (e + .ofNat (12 + i)) = some (s.getD i 0)
  wideText : wide = true → ∀ i ≤ s.length,
    m (e + .ofNat (12 + i * 2)) = some (s.getD i 0) ∧ m (e + .ofNat (13 + i * 2)) = some 0

structure AsciiName (s : Str) : Prop where
  nonempty : 1 ≤ s.length
  short : s.length ≤ 1000
  ascii : ∀ c ∈ s, c ≠ 0 ∧ c < 0x80

structure FNameAt (m : Memory) (fnameAddr : UInt64) (compIndex number : Nat) : Prop where
  valid : rmValidatePtr fnameAddr = true
  index : m.i32 (fnameAddr + offFnameIndex) = ((compIndex : Int), true)
  number : m.i32 (fnameAddr + offFnameNumber) = ((number : Int), true)

/-- The text of an FName. -/
def fullName (s : Str) (number : Nat) : Str := if number = 0 then s else s ++ (lit "_" ++ decimal (number - 1))

/-! ### The reader -/

section Entry
variable {m : Memory} {e : UInt64} {wide : Bool} {s : Str}

theorem AsciiName.nonzero (h : AsciiName s) : ∀ c ∈ s, c ≠ 0 := fun c hc => (h.ascii c hc).1

/-- A NUL-terminated text is the string in every buffer that holds it. -/
theorem cstr_of_units {b : Buf} {n : Nat} (hs : ∀ c ∈ s, c ≠ 0) (hlen : s.length < n)
    (hb : ∀ i ≤ s.length, b i = s.getD i 0) : cstr (b.bytes n) = s := by
  obtain ⟨rest, hrest⟩ := Nat.exists_eq_add_of_lt hlen
  have htext : b.bytes s.length = s := by
    refine List.ext_getElem (b.length_bytes _) fun i hi hi' => ?_
    simp [Buf.bytes, hb i hi'.le, hi']
  have hnul : b s.length = 0 := by
    rw [hb _ le_rfl]
    simp
  rw [hrest, Nat.add_assoc, Buf.bytes_add, htext, cstr_append_of_nonzero hs]
  simp [Buf.bytes, List.range_succ_eq_map, cstr, hnul]

theorem validPtr_lt (h : rmValidatePtr e = true) : e.toNat < 2 ^ 48 := by
  unfold rmValidatePtr at h
  by_contra hge
  have hbig : e ≥ 0x0001000000000000 := UInt64.le_iff_toNat_le.mpr (Nat.not_lt.mp hge)
  simp [hbig] at h

theorem EntryHolds.read (h : EntryHolds m e wide s) (hvalid : rmValidatePtr e = true) {i n : Nat} (hn : 0 < n)
    (hi : i + n ≤ 12 + 1024) : m.read (e + .ofNat i) n = some fun j => (m (e + .ofNat (i + j))).getD 0 := by
  have hend : e.toNat + (12 + 1024) ≤ 2 ^ 64 := by
    have := validPtr_lt hvalid
    omega
  exact m.read_part e _ ((m.read_eq_some e _).mpr ⟨⟨hend, h.readable⟩, rfl⟩) hn hi

theorem run_readEntry (h : EntryHolds m e wide s) (hs : AsciiName s) (hvalid : rmValidatePtr e = true) :
    (readEntry e).run m.host = some (if wide then s.take 256 else s) := by
  have hlen : s.length < 1023 := hs.short.trans_lt (by decide)
  have hok : (m.u16 (e + 8)).2 = true := by
    have hread := h.read hvalid (i := 8) (n := 2) (by decide) (by decide)
    rw [Memory.u16, show e + 8 = e + .ofNat 8 from rfl, hread]
    rfl
  have hne : s ≠ [] := List.ne_nil_of_length_pos hs.nonempty
  rw [readEntry, Prog.run_bind, Memory.run_rmReadU16]
  simp only [hok, Bool.true_and, bne_iff_ne, h.flag]
  cases hwide : wide with
  | false =>
    have hread := h.read hvalid (i := 12) (n := 1023) (by decide) (by decide)
    have hunits : ∀ i ≤ s.length, (m (e + .ofNat (12 + i))).getD 0 = s.getD i 0 := fun i hi => by
      rw [h.narrowText hwide i hi, Option.getD_some]
    have htext := cstr_of_units hs.nonzero hlen hunits
    have hstring : (rmReadString (e + 0x0c) 1024).run m.host = _ := m.run_rmReadString _ hread (by decide)
    rw [if_neg (by simp), Prog.run_bind, hstring, htext]
    simp [hne]
  | true =>
    have hread := h.read hvalid (i := 12) (n := 512) (by decide) (by decide)
    have hunits : ∀ i ≤ s.length, (m (e + .ofNat (12 + i * 2))).getD 0 = s.getD i 0 := fun i hi => by
      rw [(h.wideText hwide i hi).1, Option.getD_some]
    have htext := cstr_of_units hs.nonzero hlen hunits
    -- Of a wide entry 256 units are read at most.
    have hcut : wideText (fun j => (m (e + .ofNat (12 + j))).getD 0) = s.take 256 := by
      rw [← htext, ← cstr_take, Buf.take_bytes _ (by decide)]
      rfl
    have hcutne : s.take 256 ≠ [] := by simp [hne]
    rw [if_pos rfl, Prog.run_bind, Memory.run_rmRead, Memory.bytes, if_neg (by decide),
      show e + 0x0c = e + .ofNat 12 from rfl, hread]
    simp only [hcut, if_neg hcutne, Prog.run_pure, if_true]

end Entry

/-! ### The fallbacks -/

section Fallbacks
variable (m : Memory) (gnamepool : UInt64) (compIndex : Nat)

/-- The text of the first table that leads to an entry with one. -/
def firstText (tables : List UInt64) : Option Str :=
  tables.findSome? fun table => (entryAt m table compIndex).bind fun e => (readEntry e).run m.host

/-- The text that the memory at `gnamepool` has for an index, read as a table, as a pointer to one, or as the name
    pool of a later engine. -/
def fallbackText : Option Str :=
  (firstText m compIndex [gnamepool, m.ptr gnamepool, m.ptr (gnamepool + 8)]).or
    ((resolvePool gnamepool compIndex 1025).run m.host)

theorem run_tableEntry (table : UInt64) :
    (if rmValidatePtr table = true then
      (readChunkEntry (m.ptr (table + .ofNat (compIndex / 16384) * 8)) (compIndex % 16384)).run m.host
    else none) = (entryAt m table compIndex).bind fun e => (readEntry e).run m.host := by
  unfold entryAt readChunkEntry
  by_cases htable : rmValidatePtr table = true
  · rw [if_pos htable]
    by_cases hchunk : rmValidatePtr (m.ptr (table + .ofNat (compIndex / 16384) * 8)) = true
    · rw [if_pos hchunk, Prog.run_bind, Memory.run_rmReadPtr, Prog.run_ite]
      by_cases hentry : rmValidatePtr (m.ptr (m.ptr (table + .ofNat (compIndex / 16384) * 8) +
          .ofNat (compIndex % 16384) * 8)) = true
      · simp [htable, hchunk, hentry]
      · simp [hentry]
    · simp [hchunk]
  · simp [htable]

theorem run_resolveTables (tables : List UInt64) :
    (resolveTables compIndex tables).run m.host = firstText m compIndex tables := by
  induction tables with
  | nil => rfl
  | cons table tables ih =>
    have hhead := run_tableEntry m compIndex table
    rw [firstText, List.findSome?_cons, ← hhead, resolveTables]
    by_cases htable : rmValidatePtr table = true
    · rw [if_pos htable, if_pos htable, Prog.run_bind, Prog.run_bind, Memory.run_rmReadPtr]
      cases (readChunkEntry (m.ptr (table + .ofNat (compIndex / 16384) * 8)) (compIndex % 16384)).run m.host with
      | some s => rfl
      | none => exact ih
    · rw [if_neg htable, if_neg htable]
      exact ih

/-- A smaller buffer cuts the text of a pool entry short. -/
theorem resolvePool_take {s : Str} (h : (resolvePool gnamepool compIndex 1025).run m.host = some s) {max : Nat}
    (hmax : 1 < max) : (resolvePool gnamepool compIndex max).run m.host = some (s.take (max - 1)) := by
  have hpool := run_resolvePool m ⟨gnamepool, 0⟩ compIndex
  simp only at hpool
  rw [hpool] at h ⊢
  have hblock : rmValidatePtr (poolBlock m ⟨gnamepool, 0⟩ compIndex) = true := by
    by_contra hno
    rw [if_neg hno] at h
    cases h
  rw [if_pos hblock] at h ⊢
  obtain ⟨hentry, hread⟩ := Option.ite_none_right_eq_some.mp h
  have hpos := hentry.2.1
  have hle := hentry.2.2.1
  rw [if_pos hentry]
  generalize poolLen m ⟨gnamepool, 0⟩ compIndex = len at hread hpos hle ⊢
  have hfull : min (if len < 1025 - 1 then len else 1025 - 1) 1023 = min len 1023 := by split <;> omega
  have hcut : min (if len < max - 1 then len else max - 1) 1023 = min (min len 1023) (max - 1) := by
    split <;> omega
  rw [hfull] at hread
  obtain ⟨b, hb, htext⟩ := Option.map_eq_some_iff.mp hread
  have hshort := length_cstr_le (b.bytes (min len 1023))
  rw [htext, b.length_bytes] at hshort
  rw [Memory.bytes, if_neg (by omega)] at hb
  have hpart := m.read_part _ _ (i := 0) (k := min (min len 1023) (max - 1)) hb (by omega) (by omega)
  have hzero : UInt64.ofNat 0 = 0 := rfl
  simp only [hzero, UInt64.add_zero, Nat.zero_add] at hpart
  rw [hcut, Memory.bytes, if_neg (by omega), hpart, Option.map_some, ← Buf.take_bytes b (Nat.min_le_left _ _),
    cstr_take, htext, min_comm, ← List.take_take, List.take_of_length_le hshort]

/-- A pool entry with the text `s` has it for every buffer with room for `s`. -/
theorem resolvePool_of_room {s : Str} (h : (resolvePool gnamepool compIndex 1025).run m.host = some s) {max : Nat}
    (hs : s ≠ []) (hmax : s.length < max) : (resolvePool gnamepool compIndex max).run m.host = some s := by
  have hlen : 0 < s.length := List.length_pos_iff.mpr hs
  rw [resolvePool_take m gnamepool compIndex h (by omega), List.take_of_length_le (by omega)]

end Fallbacks

/-! ### The full name -/

section FullName
variable {s : Str} {number : Nat}

theorem fullName_eq (s : Str) (number : Nat) : fullName s number = s ++ numberSuffix number := by
  unfold fullName numberSuffix
  by_cases hzero : number = 0
  · simp [hzero]
  · have hpos : (number : Int) > 0 := by omega
    have hpred : ((number : Int) - 1).toNat = number - 1 := by omega
    rw [if_neg hzero, if_pos hpos, hpred]

variable (hs : AsciiName s) (hnumber : number < 2 ^ 31)
include hs hnumber

theorem length_fullName_le : (fullName s number).length ≤ 1011 := by
  have hsuffix := length_numberSuffix_le (by omega : (number : Int) < 2 ^ 31)
  have := hs.short
  rw [fullName_eq, List.length_append]
  omega

theorem appendNumber_eq : appendNumber s number = fullName s number := by
  have hsuffix := length_numberSuffix_le (by omega : (number : Int) < 2 ^ 31)
  have := hs.short
  rw [fullName_eq, appendNumber, if_pos (by omega)]

/-- A large buffer tells the texts apart. -/
theorem snprintf_appendNumber_iff {s' : Str} :
    snprintf 1025 (appendNumber s' number) = fullName s number ↔ s' = s := by
  have hsuffix := length_numberSuffix_le (by omega : (number : Int) < 2 ^ 31)
  have hfull := length_fullName_le hs hnumber
  constructor
  · intro h
    have hlen := congrArg List.length h
    simp only [snprintf, List.length_take] at hlen
    rw [snprintf, List.take_of_length_le (by omega)] at h
    unfold appendNumber at h
    split at h
    · rw [fullName_eq] at h
      exact List.append_cancel_right h
    · rename_i hlong
      have hshort := hs.short
      rw [h, fullName_eq, List.length_append] at hlong
      omega
  · rintro rfl
    rw [appendNumber_eq hs hnumber, snprintf, List.take_of_length_le (by omega)]

end FullName

/-! ### Lookups on a fresh context -/

section Lookup
variable {m : Memory} {c : Ue4rCtx} {fnameAddr e : UInt64} {compIndex number : Nat} {wide : Bool} {s : Str}

theorem exec_ue4rResolveName_fresh (c : Ue4rCtx) (fnameAddr : UInt64) {max : Nat} (hmax : max ≠ 0) :
    (m.exec (ue4rResolveName fnameAddr max) (freshCtx c)).1 = uncached m (tables c) fnameAddr max := by
  cases hindex : nameIndex m fnameAddr with
  | none => rw [exec_ue4rResolveName_of_none m hindex, uncached_of_none m hindex]
  | some compIndex =>
    have hchunks : ChunksOk m (freshCtx c) := fun _ => Or.inl rfl
    rw [exec_ue4rResolveName_of_index m hmax hindex, uncached_of_index m hmax hindex]
    exact exec_resolveIndex_of_miss hchunks (fun hhit => hhit.2 rfl) _ max

theorem FNameAt.nameIndex (h : FNameAt m fnameAddr compIndex number) : nameIndex m fnameAddr = some compIndex := by
  simp [Names.nameIndex, h.valid, h.index]

theorem FNameAt.nameNumber (h : FNameAt m fnameAddr compIndex number) : nameNumber m fnameAddr = number := by
  simp [Names.nameNumber, h.number]

theorem FNameAt.number_lt (h : FNameAt m fnameAddr compIndex number) : number < 2 ^ 31 := by
  have hlt := nameNumber_lt m fnameAddr
  rw [h.nameNumber] at hlt
  omega

/-- The reader gets to the whole text of the entry. -/
def Reached (m : Memory) (gnamepool : UInt64) (compIndex : Nat) (wide : Bool) (s : Str) : Prop :=
  if compIndex / 16384 < 32 then wide = true → s.length ≤ 256 else fallbackText m gnamepool compIndex = some s

/-- What is found is found with every buffer that has room for it. -/
theorem nameText_of_room (hs : AsciiName s) (h : nameText m (tables c) compIndex 1025 = some s)
    {max : Nat} (hmax : s.length < max) :
    nameText m (tables c) compIndex max = some s := by
  rw [nameText] at h ⊢
  cases htable : tableText m (tables c) compIndex with
  | some s' =>
    rw [htable, Option.some_or] at h
    rw [Option.some_or, h]
  | none =>
    rw [htable, Option.none_or] at h
    rw [Option.none_or]
    exact resolvePool_of_room m _ _ h (List.ne_nil_of_length_pos hs.nonempty) hmax

section Table
variable (hentry : entryAt m c.gnameChunkTable compIndex = some e) (hholds : EntryHolds m e wide s)
  (hs : AsciiName s)
include hentry hholds hs

theorem chunkedText_eq : chunkedText m (tables c) compIndex =
    if compIndex / 16384 < 32 then some (if wide then s.take 256 else s) else none := by
  have hread := run_tableEntry m compIndex c.gnameChunkTable
  obtain ⟨⟨htable, -, hvalid⟩, heq⟩ := Option.ite_none_right_eq_some.mp hentry
  obtain rfl := Option.some.inj heq
  rw [if_pos htable, hentry, Option.bind_some, run_readEntry hholds hs hvalid] at hread
  rw [chunkedText, hread]
  by_cases hlt : compIndex / 16384 < 32
  · rw [if_pos ⟨htable, hlt⟩, if_pos hlt]
  · rw [if_neg fun h => hlt h.2, if_neg hlt]

/-- The text that a lookup finds, with a buffer that cuts nothing off. -/
theorem nameText_eq : nameText m (tables c) compIndex 1025 =
    if compIndex / 16384 < 32 then some (if wide then s.take 256 else s)
    else fallbackText m c.gnamepool compIndex := by
  rw [nameText, tableText, chunkedText_eq hentry hholds hs, run_resolveTables]
  by_cases hlt : compIndex / 16384 < 32
  · simp [hlt]
  · simp [hlt, fallbackText]

theorem nameText_eq_iff :
    nameText m (tables c) compIndex 1025 = some s ↔ Reached m c.gnamepool compIndex wide s := by
  rw [nameText_eq hentry hholds hs, Reached]
  by_cases hlt : compIndex / 16384 < 32
  · cases wide <;> simp [hlt]
  · simp [hlt]

end Table

/-- A name of the table is resolved exactly when the reader gets to its whole text. -/
theorem ue4rResolveName_iff (hname : FNameAt m fnameAddr compIndex number)
    (hentry : entryAt m c.gnameChunkTable compIndex = some e) (hholds : EntryHolds m e wide s) (hs : AsciiName s) :
    (∀ max, (fullName s number).length < max →
      (m.exec (ue4rResolveName fnameAddr max) (freshCtx c)).1 = (true, fullName s number)) ↔
      Reached m c.gnamepool compIndex wide s := by
  rw [← nameText_eq_iff hentry hholds hs]
  constructor
  · intro h
    have hroom := length_fullName_le hs hname.number_lt
    have hresult := h 1025 (by omega)
    rw [exec_ue4rResolveName_fresh c fnameAddr (by decide), uncached_of_index m (by decide) hname.nameIndex,
      hname.nameNumber] at hresult
    cases htext : nameText m (tables c) compIndex 1025 with
    | none =>
      rw [answer_of_none m _ htext] at hresult
      cases hresult
    | some s' =>
      rw [answer_of_some m _ htext] at hresult
      rw [(snprintf_appendNumber_iff hs hname.number_lt).mp (congrArg Prod.snd hresult)]
  · intro h max hmax
    have hlen : s.length < max := by
      rw [fullName_eq, List.length_append] at hmax
      omega
    rw [exec_ue4rResolveName_fresh c fnameAddr (by omega), uncached_of_index m (by omega) hname.nameIndex,
      hname.nameNumber, answer_of_some m _ (nameText_of_room hs h hlen), appendNumber_eq hs hname.number_lt, snprintf,
      List.take_of_length_le (by omega)]

end Lookup

/-! ### A wide name -/

/-- A table at 0x30000 with one name, `n` wide characters long; the FName at 0x60000 is that name. -/
def wideMemory (n : UInt64) : Memory := fun a => some <|
  if a = 0x30002 then 4 else if a = 0x40002 then 5 else if a = 0x50008 then 1
  else if 0x5000c ≤ a ∧ a < 0x5000c + 2 * n ∧ a % 2 = 0 then 0x61 else 0

def wideCtx : Ue4rCtx := .initial 0x10000 0x20000 0x30000

theorem asciiName_replicate {n : Nat} (hpos : 1 ≤ n) (hshort : n ≤ 1000) : AsciiName (List.replicate n 0x61) where
  nonempty := by rwa [List.length_replicate]
  short := by rwa [List.length_replicate]
  ascii c hc := by
    rw [List.eq_of_mem_replicate hc]
    decide

theorem ue4rResolveName_iff_wide : ((wideMemory 4).exec (ue4rResolveName 0x60000 64) (freshCtx wideCtx)).1 =
    (true, fullName (List.replicate 4 0x61) 0) := by
  have hname : FNameAt (wideMemory 4) 0x60000 0 0 := ⟨by decide, by decide +kernel, by decide +kernel⟩
  have hentry : entryAt (wideMemory 4) wideCtx.gnameChunkTable 0 = some 0x50000 := by decide +kernel
  have hholds : EntryHolds (wideMemory 4) 0x50000 true (List.replicate 4 0x61) :=
    ⟨fun _ _ => rfl, by decide +kernel, fun h => Bool.noConfusion h, fun _ => by decide +kernel⟩
  have hs := asciiName_replicate (by decide : 1 ≤ 4) (by decide)
  exact (ue4rResolveName_iff hname hentry hholds hs).mpr (fun _ => by decide) 64 (by decide)

/-- Of a wide name with 300 characters, the reader returns 256. -/
theorem wide_name_cut : ¬∀ (m : Memory) (c : Ue4rCtx) (fnameAddr e : UInt64) (compIndex number : Nat) (wide : Bool)
    (s : Str) (max : Nat), FNameAt m fnameAddr compIndex number →
      entryAt m c.gnameChunkTable compIndex = some e → EntryHolds m e wide s → AsciiName s →
      (fullName s number).length < max →
        (m.exec (ue4rResolveName fnameAddr max) (freshCtx c)).1 = (true, fullName s number) := by
  intro h
  have hresult := h (wideMemory 300) wideCtx 0x60000 0x50000 0 0 true (List.replicate 300 0x61) 1024
    ⟨by decide, by decide +kernel, by decide +kernel⟩ (by decide +kernel)
    ⟨fun _ _ => rfl, by decide +kernel, fun h => Bool.noConfusion h, fun _ => by decide +kernel⟩
    (asciiName_replicate (by decide) (by decide)) (by decide +kernel)
  revert hresult
  decide +kernel

end NameTable
end RadarAim

import RadarAim.Lib.Utf8
import RadarAim.Theorems.Metaclass
import RadarAim.Theorems.RoundTrip
import RadarAim.Theorems.Strings

/-! The encoding of the dump. Of a wide name the reader takes the low bytes of its units: the strings of the dump are
    UTF-8 as long as these are ASCII in every name that a record shows. -/

namespace RadarAim
namespace Encoding
open Names NameTable Objects Contexts FailedLookup Metaclass Utf8 JsonText Dump RoundTrip

/-! ### Text in the memory -/

/-- The bytes of `s` are in the memory from `a` on, and none of them is NUL. -/
def TextAt (m : Memory) (a : UInt64) (s : Str) : Prop :=
  ∀ i, ∀ hi : i < s.length, m (a + .ofNat i) = some s[i] ∧ s[i] ≠ 0

/-- The units of a wide text and its NUL are in the memory from `a` on. -/
structure WideAt (m : Memory) (a : UInt64) (units : List UInt16) : Prop where
  nonzero : ∀ u ∈ units, u ≠ 0
  units : ∀ i ≤ units.length, m.u16 (a + .ofNat (i * 2)) = (units.getD i 0, true)

/-- The low bytes of the units that the reader looks at. -/
def lowText (units : List UInt16) : Str := (cstr (units.map UInt16.toUInt8)).take 256

section Text
variable {m : Memory} {a : UInt64} {s s' : Str}

theorem TextAt.nil : TextAt m a [] := fun _ hi => absurd hi (Nat.not_lt_zero _)

theorem TextAt.append (h : TextAt m a s) (h' : TextAt m (a + .ofNat s.length) s') : TextAt m a (s ++ s') := by
  intro i hi
  rcases Nat.lt_or_ge i s.length with hlt | hge
  · rw [List.getElem_append_left hlt]
    exact h i hlt
  · obtain ⟨j, rfl⟩ := Nat.exists_eq_add_of_le hge
    rw [List.length_append] at hi
    obtain ⟨hbyte, hne⟩ := h' j (by omega)
    rw [Strings.add_ofNat_add] at hbyte
    simp only [List.getElem_append_right hge, Nat.add_sub_cancel_left]
    exact ⟨hbyte, hne⟩

theorem TextAt.of_string (h : TextAt m a s) (hs : Strings.StringAt m a s') : s = s'.take s.length := by
  have hle : s.length ≤ s'.length := by
    by_contra hlong
    obtain ⟨hbyte, hne⟩ := h s'.length (by omega)
    have hnul := hs.bytes s'.length le_rfl
    rw [hbyte] at hnul
    simp at hnul
    exact hne hnul
  refine List.ext_getElem (List.length_take_of_le hle).symm fun i hi hi' => ?_
  have hbyte := (h i hi).1.symm.trans (hs.bytes i (by omega))
  have hlt : i < s'.length := by omega
  simpa [hlt] using hbyte

/-- What a read returns as a string is text of the memory. -/
theorem textAt_of_read {n : Nat} {b : Buf} (h : m.read a n = some b) : TextAt m a (cstr (b.bytes n)) := by
  obtain ⟨⟨-, hall⟩, hb⟩ := (m.read_eq_some a n).mp h
  intro i hi
  have hpart : cstr (b.bytes n) <+: b.bytes n := List.takeWhile_prefix _
  have hlt : i < n := by
    have hlen := hpart.length_le
    rw [b.length_bytes] at hlen
    omega
  have hget : (cstr (b.bytes n))[i] = b i := by
    rw [hpart.getElem hi]
    simp [Buf.bytes]
  obtain ⟨c, hc⟩ := Option.isSome_iff_exists.mp (hall i hlt)
  refine ⟨?_, nonzero_of_mem_cstr (List.getElem_mem hi)⟩
  rw [hget, ← hb]
  simp only [hc, Option.getD_some]

theorem run_rmReadStringLoop_text (max fuel : Nat) (h : TextAt m a s) :
    TextAt m a ((rmReadStringLoop a max fuel s).run m.host).2 := by
  induction fuel generalizing s with
  | zero => exact h
  | succ fuel ih =>
    rw [rmReadStringLoop]
    split
    · rename_i hlt
      have hpos : min 64 (max - 1 - s.length) ≠ 0 := by omega
      simp only [Prog.run_bind, Memory.run_rmRead, Memory.bytes, if_neg hpos]
      cases hread : m.read (a + .ofNat s.length) (min 64 (max - 1 - s.length)) with
      | none => exact h
      | some b =>
        have hmore := h.append (textAt_of_read hread)
        dsimp only
        split
        · exact hmore
        · exact ih hmore
    · exact h

theorem run_rmReadString_text (max : Nat) : TextAt m a ((rmReadString a max).run m.host).2 := by
  unfold rmReadString
  split
  · exact .nil
  · exact run_rmReadStringLoop_text max max .nil

end Text

/-! ### Entries -/

/-- The tables that are searched for an index, in their order. -/
def searched (m : Memory) (t : NameTables) (compIndex : Nat) : List UInt64 :=
  (if compIndex / 16384 < 32 then [t.gnameChunkTable] else []) ++
    [t.gnamepool, m.ptr t.gnamepool, m.ptr (t.gnamepool + 8)]

/-- The entry that gives an index its text: of the tables, the first with one that has a text. -/
def textEntry (m : Memory) (t : NameTables) (compIndex : Nat) : Option UInt64 :=
  (searched m t compIndex).findSome? fun table =>
    (entryAt m table compIndex).filter fun e => ((readEntry e).run m.host).isSome

def isWide (m : Memory) (e : UInt64) : Bool := (m.u16 (e + 8)).2 && (m.u16 (e + 8)).1 &&& 1 != 0

/-- Where the pool has the text of an index. -/
def poolText (m : Memory) (t : NameTables) (compIndex : Nat) : UInt64 :=
  poolBlock m t compIndex + .ofNat (compIndex % 2 ^ fnameBlockOffsetBits) * fnameEntryStride + fnameentryHeaderSize

/-- Narrow entries are ASCII, and wide ones UTF-16. -/
structure TextTable (m : Memory) (t : NameTables) : Prop where
  narrow : ∀ compIndex < 2 ^ 31, ∀ e, textEntry m t compIndex = some e → isWide m e = false →
    ∀ s, TextAt m (e + 0x0c) s → Ascii s
  wide : ∀ compIndex < 2 ^ 31, ∀ e, textEntry m t compIndex = some e → isWide m e = true →
    ∃ units, WideAt m (e + 0x0c) units ∧ utf16 units = true
  pool : ∀ compIndex < 2 ^ 31, textEntry m t compIndex = none → rmValidatePtr (poolBlock m t compIndex) = true →
    PoolNarrow m t compIndex → ∀ s, TextAt m (poolText m t compIndex) s → s.length ≤ poolLen m t compIndex → Ascii s

/-- What the lookup `l`, of an FName with some context, takes of a wide entry is ASCII: the cache has 59 bytes of it,
    and the buffer of the caller room for 255. -/
def Plain (m : Memory) (t : NameTables) (l : UInt64 × Ue4rCtx) : Prop :=
  ∀ compIndex ∈ nameIndex m l.1, ∀ e, textEntry m t compIndex = some e → isWide m e = true →
    ∀ units, WideAt m (e + 0x0c) units → Ascii ((lowText units).take (if Hit l.2 compIndex then 59 else 255))

section Entries
variable {m : Memory} {t : NameTables} {compIndex : Nat} {e : UInt64}

theorem byte_of_u16 {a : UInt64} {u : UInt16} (h : m.u16 a = (u, true)) : m a = some u.toUInt8 := by
  unfold Memory.u16 at h
  cases hread : m.read a 2 with
  | none =>
    rw [hread] at h
    cases h
  | some b =>
    obtain ⟨⟨-, hall⟩, rfl⟩ := (m.read_eq_some a 2).mp hread
    rw [hread] at h
    obtain ⟨c, hc⟩ := Option.isSome_iff_exists.mp (hall 0 (Nat.zero_lt_two))
    have hzero : a + UInt64.ofNat 0 = a := UInt64.add_zero a
    rw [hzero] at hc
    obtain rfl := (Prod.mk.inj h).1
    rw [hc]
    refine congrArg some (UInt8.toNat_inj.mp ?_)
    have hfirst : m (a + UInt64.ofNat 0) = some c := by rwa [hzero]
    simp only [le16, leNat, hfirst, Option.getD_some, UInt16.toNat_toUInt8, UInt16.toNat_ofNat']
    have hlt := c.toNat_lt
    omega

theorem cstr_append_nul (s s' : Str) : cstr (s ++ 0 :: s') = cstr s := by
  induction s with
  | nil => rfl
  | cons c s ih =>
    unfold cstr at ih ⊢
    rw [List.cons_append, List.takeWhile_cons, List.takeWhile_cons, ih]

/-- What the reader makes of a wide text. -/
theorem WideAt.wideText {a : UInt64} {units : List UInt16} (h : WideAt m a units) {b : Buf}
    (hb : m.read a 512 = some b) : RadarAim.wideText b = lowText units := by
  obtain ⟨-, rfl⟩ := (m.read_eq_some a 512).mp hb
  have hunits : Buf.bytes (fun i => (m (a + .ofNat (i * 2))).getD 0) units.length = units.map UInt16.toUInt8 := by
    refine List.ext_getElem (by simp [Buf.length_bytes]) fun i hi hi' => ?_
    rw [Buf.length_bytes] at hi
    have hbyte := byte_of_u16 (h.units i hi.le)
    rw [List.getElem_map]
    simp only [Buf.bytes, List.getElem_map, List.getElem_range, hbyte, Option.getD_some]
    simp [hi]
  have hnul : (m (a + .ofNat (units.length * 2))).getD 0 = 0 := by
    have hbyte := byte_of_u16 (h.units _ le_rfl)
    rw [hbyte]
    simp
  have hall : cstr (Buf.bytes (fun i => (m (a + .ofNat (i * 2))).getD 0) (units.length + (1 + 256))) =
      cstr (units.map UInt16.toUInt8) := by
    rw [Buf.bytes_add, Buf.bytes_add, hunits]
    have hone : Buf.bytes (fun k => (m (a + .ofNat ((units.length + k) * 2))).getD 0) 1 = [0] := by
      simpa [Buf.bytes] using hnul
    rw [hone]
    exact cstr_append_nul _ _
  rw [lowText, ← hall, ← cstr_take, Buf.take_bytes _ (by omega)]
  rfl

/-- The text of the tables is that of the one entry. -/
theorem tableText_eq : tableText m t compIndex = (textEntry m t compIndex).bind fun e => (readEntry e).run m.host := by
  have hfirst : ∀ tables, firstText m compIndex tables =
      (tables.findSome? fun table => (entryAt m table compIndex).filter fun e => ((readEntry e).run m.host).isSome).bind
        fun e => (readEntry e).run m.host := by
    intro tables
    induction tables with
    | nil => rfl
    | cons table tables ih =>
      unfold firstText at ih ⊢
      rw [List.findSome?_cons, List.findSome?_cons, ih]
      cases entryAt m table compIndex with
      | none => rfl
      | some e => cases h : (readEntry e).run m.host <;> simp [Option.filter, h]
  have hchunked : chunkedText m t compIndex =
      firstText m compIndex (if compIndex / 16384 < 32 then [t.gnameChunkTable] else []) := by
    have hread := run_tableEntry m compIndex t.gnameChunkTable
    unfold chunkedText
    by_cases hlt : compIndex / 16384 < 32
    · simp only [hlt, and_true, if_true]
      rw [hread, firstText, List.findSome?_singleton]
    · simp only [hlt, and_false, if_false]
      rfl
  rw [textEntry, ← hfirst, searched, tableText, hchunked, run_resolveTables]
  unfold firstText
  rw [List.findSome?_append]

theorem run_readEntry_text {s : Str} (h : (readEntry e).run m.host = some s) :
    if isWide m e then ∀ units, WideAt m (e + 0x0c) units → s = lowText units else TextAt m (e + 0x0c) s := by
  rw [readEntry, Prog.run_bind, Memory.run_rmReadU16] at h
  unfold isWide
  dsimp only at h ⊢
  split
  · rename_i hwide
    rw [if_pos hwide, Prog.run_bind, Memory.run_rmRead, Memory.bytes, if_neg (by decide)] at h
    intro units hunits
    cases hread : m.read (e + 0x0c) 512 with
    | none =>
      rw [hread] at h
      cases h
    | some b =>
      rw [hread] at h
      simp only [hunits.wideText hread, Prog.run_pure] at h
      obtain ⟨-, hs⟩ := Option.ite_none_left_eq_some.mp h
      exact (Option.some.inj hs).symm
  · rename_i hnarrow
    rw [if_neg hnarrow, Prog.run_bind] at h
    have htext := @run_rmReadString_text m (e + 0x0c) 1024
    generalize (rmReadString (e + 0x0c) 1024).run m.host = r at h htext
    obtain ⟨read, s'⟩ := r
    obtain ⟨-, hs⟩ := Option.ite_none_right_eq_some.mp h
    exact Option.some.inj hs ▸ htext

/-- The text of a name is ASCII as far as it is so in its wide entry. -/
theorem nameText_ascii (htext : TextTable m t) (hlt : compIndex < 2 ^ 31) {n : Nat}
    (hlow : ∀ e, textEntry m t compIndex = some e → isWide m e = true → ∀ units, WideAt m (e + 0x0c) units →
      Ascii ((lowText units).take n)) {max : Nat} {s : Str} (h : nameText m t compIndex max = some s) :
    Ascii (s.take n) := by
  rw [nameText, tableText_eq] at h
  cases hentry : textEntry m t compIndex with
  | none =>
    -- No table has an entry, so the text is the one of the pool.
    rw [hentry, Option.bind_none, Option.none_or, run_resolvePool] at h
    obtain ⟨hblock, h⟩ := Option.ite_none_right_eq_some.mp h
    obtain ⟨⟨-, hpos, -, hnarrow⟩, h⟩ := Option.ite_none_right_eq_some.mp h
    obtain ⟨b, hb, rfl⟩ := Option.map_eq_some_iff.mp h
    unfold Memory.bytes at hb
    obtain ⟨-, hb⟩ := Option.ite_none_left_eq_some.mp hb
    refine Ascii.take ?_ n
    refine htext.pool compIndex hlt hentry hblock hnarrow _ (textAt_of_read hb) ?_
    refine (length_cstr_le _).trans ?_
    rw [b.length_bytes]
    split <;> omega
  | some e =>
    have hread : ((readEntry e).run m.host).isSome = true := by
      obtain ⟨table, -, hfound⟩ := List.exists_of_findSome?_eq_some hentry
      obtain ⟨-, hsome⟩ := Option.filter_eq_some_iff.mp hfound
      exact hsome
    obtain ⟨s', hs'⟩ := Option.isSome_iff_exists.mp hread
    rw [hentry, Option.bind_some, hs', Option.some_or] at h
    obtain rfl := Option.some.inj h
    have hkind := run_readEntry_text hs'
    cases hwide : isWide m e with
    | true =>
      -- The text of a wide entry is made of the low bytes of its units.
      obtain ⟨units, hunits, -⟩ := htext.wide compIndex hlt e hentry hwide
      rw [hwide, if_pos rfl] at hkind
      rw [hkind units hunits]
      exact hlow e hentry hwide units hunits
    | false =>
      rw [hwide, if_neg Bool.false_ne_true] at hkind
      exact (htext.narrow compIndex hlt e hentry hwide s' hkind).take n

end Entries

/-! ### The names that a record shows -/

section Lookups
variable (m : Memory)

/-- The lookups of a path, each with the context before it. -/
def pathLookups : (left : Nat) → UInt64 → Ue4rCtx → List (UInt64 × Ue4rCtx)
  | 0, _, _ => []
  | left + 1, objAddr, c =>
    if rmValidatePtr objAddr then
      (objAddr + offUobjectName, c) ::
        if rmValidatePtr (m.ptr (objAddr + offUobjectOuter)) then
          pathLookups left (m.ptr (objAddr + offUobjectOuter)) (m.exec (resolveObjectName objAddr 256) c).2
        else []
    else []

/-- The lookups of the type and the name of a property; of a node that is none, nothing is shown. -/
def propertyLookups (propPtr : UInt64) (c : Ue4rCtx) : List (UInt64 × Ue4rCtx) :=
  let uclass := m.ptr (propPtr + offUobjectClass)
  if rmValidatePtr uclass then
    let r := m.exec (ue4rResolveName (uclass + offUobjectName) 256) c
    if r.1.1 ∧ strstr r.1.2 (lit "Property") then [(uclass + offUobjectName, c), (propPtr + offUobjectName, r.2)]
    else []
  else
    let fclass := m.ptr (propPtr + offFfieldClass)
    (propPtr + offFfieldName, c) ::
      if rmValidatePtr fclass then
        [(fclass + offFfieldclassName, (m.exec (ue4rResolveName (propPtr + offFfieldName) 256) c).2)]
      else []

/-- The lookup of the name of a function. -/
def functionLookups (child : UInt64) (c : Ue4rCtx) : List (UInt64 × Ue4rCtx) :=
  let r := m.exec (readChildClass (m.ptr (child + offUobjectClass))) c
  if r.1 = lit "Function" then [(child + offUobjectName, r.2)] else []

def listLookups {α : Type} (node : UInt64 → Walker (Option α × UInt64)) (add : ListWalk α → Option α → ListWalk α)
    (lookups : UInt64 → Ue4rCtx → List (UInt64 × Ue4rCtx)) :
    (fuel : Nat) → UInt64 → ListWalk α → Ue4rCtx → List (UInt64 × Ue4rCtx)
  | 0, _, _, _ => []
  | fuel + 1, ptr, w, c =>
    if rmValidatePtr ptr ∧ w.count < maxListWalk then
      lookups ptr c ++
        listLookups node add lookups fuel (m.exec (node ptr) c).1.2 (add w (m.exec (node ptr) c).1.1)
          (m.exec (node ptr) c).2
    else []

/-- The lookups whose answers go into the record of the class `obj`. -/
def classLookups (fuel : Nat) (obj : UInt64) (c : Ue4rCtx) : List (UInt64 × Ue4rCtx) :=
  let afterName := (m.exec (buildPathName (maxPathDepth + 1) obj 512) c).2
  let superPtr := (validOr (m.ptr (obj + offUstructSuper)) (obj + offUstructSuper425)).run m.host
  let afterSuper := (m.exec (readSuperName superPtr) afterName).2
  let propPtr := (m.exec (firstProperty obj) afterSuper).1
  let afterProperties := (m.exec (readProperties fuel obj) afterSuper).2
  let child := (validOr (m.ptr (obj + offUstructChildren)) (obj + offUstructChildren425)).run m.host
  pathLookups m (maxPathDepth + 1) obj c ++ (pathLookups m (maxPathDepth + 1) superPtr afterName ++
    (listLookups m readPropertyNode ListWalk.addProperty (propertyLookups m) fuel propPtr .start afterSuper ++
      listLookups m readFunctionNode ListWalk.addFunction (functionLookups m) fuel child .start afterProperties))

end Lookups

/-- If the walker hands on a record of the object `v`, to which it comes with some context, the names that the record
    shows are plain. -/
def HandsPlain (m : Memory) (t : NameTables) (fuel : Nat) (v : UInt64 × Ue4rCtx) : Prop :=
  (m.exec (isUclass v.1) v.2).1 = true → (m.exec (readClass fuel v.1) (m.exec (isUclass v.1) v.2).2).1.isSome →
    ∀ l ∈ classLookups m fuel v.1 (m.exec (isUclass v.1) v.2).2, Plain m t l

/-! ### Strings of the walker -/

/-- The strings of a record are all in `X`. -/
structure RecordText (X : Str → Prop) (r : Ue4Class) : Prop where
  name : X r.name
  superName : X r.superName
  properties : ∀ p ∈ r.properties, X p.name ∧ X p.type
  functions : ∀ f ∈ r.functions, X f.name

theorem ascii_lit {s : String} (h : (lit s).all (· < 0x80) = true) : Ascii (lit s) := fun c hc =>
  of_decide_eq_true (List.all_eq_true.mp h c hc)

theorem ascii_decimal (n : Nat) : Ascii (decimal n) := by
  intro c hc
  have hdigit := (numeral_decimal n).digits c hc
  simp only [isDigit, Bool.and_eq_true, decide_eq_true_eq] at hdigit
  have hle := UInt8.le_iff_toNat_le.mp hdigit.2
  exact UInt8.lt_iff_toNat_lt.mpr (Nat.lt_of_le_of_lt hle (by decide))

theorem ascii_numberSuffix (number : Int) : Ascii (numberSuffix number) := by
  unfold numberSuffix
  split
  · exact (ascii_lit rfl).append (ascii_decimal _)
  · exact .nil

theorem ascii_snprintf {s : Str} (h : Ascii s) (max : Nat) : Ascii (snprintf max s) := h.take _

theorem ascii_named {r : Bool × Str} (h : Ascii r.2) {s : String} (hs : (lit s).all (· < 0x80) = true) :
    Ascii (if r.1 then r.2 else lit s) := by
  split
  · exact h
  · exact ascii_lit hs

theorem nameIndex_lt {m : Memory} {fnameAddr : UInt64} {compIndex : Nat} (h : nameIndex m fnameAddr = some compIndex) :
    compIndex < 2 ^ 31 := by
  obtain ⟨-, hsame⟩ := Option.ite_none_right_eq_some.mp h
  have hlt := i32_lt m (fnameAddr + offFnameIndex)
  have heq := Option.some.inj hsame
  omega

theorem cut_stays {m : Memory} {t : NameTables} (fnameAddr : UInt64) :
    Stays m (Holds m (Cut m) t) (ue4rResolveName fnameAddr 256) := resolveName_stays cut_of_text t fnameAddr

section Walker
variable {m : Memory} {t : NameTables} {c : Ue4rCtx} (htext : TextTable m t) (h : Holds m (Cut m) t c)
include htext h

theorem exec_resolveName_ascii {fnameAddr : UInt64} (hplain : Plain m t (fnameAddr, c)) :
    Ascii (m.exec (ue4rResolveName fnameAddr 256) c).1.2 := by
  obtain ⟨hok, rfl⟩ := h
  cases hindex : nameIndex m fnameAddr with
  | none =>
    rw [exec_ue4rResolveName_of_none m hindex]
    exact .nil
  | some compIndex =>
    have hlt := nameIndex_lt hindex
    have hlow := hplain compIndex hindex
    rw [exec_ue4rResolveName_of_index m (by decide) hindex]
    by_cases hhit : Hit c compIndex
    · rw [if_pos hhit] at hlow
      obtain ⟨max, full, hfull, hslot⟩ := hok.cache _ compIndex hhit.1 hhit.2
      rw [exec_resolveIndex_hit m c hhit, hslot]
      exact ascii_snprintf ((nameText_ascii htext hlt hlow hfull).append (ascii_numberSuffix _)) 256
    · rw [if_neg hhit] at hlow
      rw [exec_resolveIndex_of_miss hok.chunks hhit]
      cases hname : nameText m (tables c) compIndex 256 with
      | none =>
        rw [answer_of_none m _ hname]
        exact .nil
      | some s =>
        have hs := nameText_ascii htext hlt hlow hname
        rw [answer_of_some m _ hname]
        show Ascii ((appendNumber s _).take 255)
        rw [Children.take_appendNumber s (length_numberSuffix_le (nameNumber_lt m fnameAddr))]
        exact (hs.append (ascii_numberSuffix _)).take 255

theorem exec_resolveObjectName_ascii {objAddr : UInt64}
    (hplain : rmValidatePtr objAddr = true → Plain m t (objAddr + offUobjectName, c)) :
    Ascii (m.exec (resolveObjectName objAddr 256) c).1.2 := by
  rw [resolveObjectName]
  split
  · rename_i hobj
    exact exec_resolveName_ascii htext h (hplain hobj)
  · exact .nil

theorem exec_buildPathName_ascii (left : Nat) {objAddr : UInt64} (max : Nat)
    (hplain : ∀ l ∈ pathLookups m left objAddr c, Plain m t l) :
    Ascii (m.exec (buildPathName left objAddr max) c).1 := by
  induction left generalizing objAddr max c with
  | zero => exact ascii_snprintf (ascii_lit rfl) max
  | succ left ih =>
    rw [buildPathName]
    rw [pathLookups] at hplain
    split
    · rename_i hobj
      rw [if_pos hobj] at hplain
      obtain ⟨hhere, houter⟩ := List.forall_mem_cons.mp hplain
      have hname := ascii_named (exec_resolveObjectName_ascii htext h fun _ => hhere) (s := "<unknown>") rfl
      have hstays := resolveObjectName_stays cut_stays objAddr c h
      simp only [Memory.exec_bind, Memory.exec_lift, Memory.run_rmReadPtr]
      generalize (if (m.exec (resolveObjectName objAddr 256) c).1.1 = true then
        (m.exec (resolveObjectName objAddr 256) c).1.2 else lit "<unknown>") = name at hname ⊢
      split
      · rename_i hvalid
        rw [if_pos hvalid] at houter
        rw [Memory.exec_bind]
        exact ascii_snprintf (((ih hstays 512 houter).append (ascii_lit rfl)).append hname) max
      · split
        · exact ascii_snprintf hname max
        · exact ascii_snprintf ((ascii_lit rfl).append hname) max
    · exact ascii_snprintf (ascii_lit rfl) max

theorem exec_readPropertyNode_ascii {propPtr : UInt64} (hplain : ∀ l ∈ propertyLookups m propPtr c, Plain m t l) :
    ∀ p ∈ (m.exec (readPropertyNode propPtr) c).1.1, Ascii p.name ∧ Ascii p.type := by
  rw [readPropertyNode, Memory.exec_bind, Memory.exec_lift, Memory.run_rmReadPtr]
  rw [propertyLookups] at hplain
  dsimp only at hplain ⊢
  generalize m.ptr (propPtr + offUobjectClass) = uclass at hplain ⊢
  split
  · -- The node is a UProperty, whose type was resolved before its name.
    rename_i hclass
    rw [if_pos hclass] at hplain
    have hstays := cut_stays (uclass + offUobjectName) c h
    have htype := @exec_resolveName_ascii m t c htext h (uclass + offUobjectName)
    rw [Memory.exec_bind]
    generalize m.exec (ue4rResolveName (uclass + offUobjectName) 256) c = r at hplain hstays htype ⊢
    obtain ⟨⟨resolved, typeBuf⟩, c'⟩ := r
    dsimp only at hplain hstays htype ⊢
    split
    · rename_i hproperty
      rw [if_pos hproperty] at hplain
      obtain ⟨htypePlain, hrest⟩ := List.forall_mem_cons.mp hplain
      have hname := ascii_named (exec_resolveName_ascii htext hstays (List.forall_mem_singleton.mp hrest))
        (s := "<unknown>") rfl
      simp only [Memory.exec_bind, Memory.exec_lift, Memory.exec_pure, readUProperty, Option.mem_some_iff]
      rintro p rfl
      exact ⟨hname, htype htypePlain⟩
    · simp
  · -- The node is an FField, whose name is resolved before its type.
    rename_i hclass
    rw [if_neg hclass] at hplain
    obtain ⟨hnamePlain, htypePlain⟩ := List.forall_mem_cons.mp hplain
    have hname := ascii_named (exec_resolveName_ascii htext h hnamePlain) (s := "<unknown>") rfl
    have hstays := cut_stays (propPtr + offFfieldName) c h
    have htype : Ascii (m.exec (readFieldType (m.ptr (propPtr + offFfieldClass)))
        (m.exec (ue4rResolveName (propPtr + offFfieldName) 256) c).2).1.2 := by
      rw [readFieldType]
      split
      · rename_i hfclass
        rw [if_pos hfclass] at htypePlain
        exact exec_resolveName_ascii htext hstays (List.forall_mem_singleton.mp htypePlain)
      · exact .nil
    have hshown := ascii_named htype (s := "Unknown") rfl
    simp only [Memory.exec_bind, Memory.exec_lift, Memory.exec_pure, Memory.run_rmReadPtr,
      readFProperty, Option.mem_some_iff]
    rintro p rfl
    exact ⟨hname, hshown⟩

theorem exec_readFunctionNode_ascii {child : UInt64} (hplain : ∀ l ∈ functionLookups m child c, Plain m t l) :
    ∀ f ∈ (m.exec (readFunctionNode child) c).1.1, Ascii f.name := by
  rw [readFunctionNode, Memory.exec_bind, Memory.exec_lift, Memory.run_rmReadPtr, Memory.exec_bind]
  have hstays := readChildClass_stays cut_stays (m.ptr (child + offUobjectClass)) c h
  rw [functionLookups] at hplain
  dsimp only at hplain ⊢
  generalize m.exec (readChildClass (m.ptr (child + offUobjectClass))) c = r at hplain hstays ⊢
  obtain ⟨className, c'⟩ := r
  dsimp only at hplain hstays ⊢
  rw [readIfFunction]
  split
  · rename_i hfunction
    rw [if_pos hfunction] at hplain
    have hname := ascii_named (exec_resolveObjectName_ascii htext hstays fun _ => List.forall_mem_singleton.mp hplain)
      (s := "<unknown>") rfl
    simp only [Memory.exec_bind, Memory.exec_lift, Memory.exec_pure, Memory.exec_map, readUFunction,
      Option.mem_some_iff]
    rintro f rfl
    exact hname
  · simp

omit htext h in
/-- Over a list the items of a walk are in `X` if those of its nodes are. -/
theorem list_items {α : Type} {node : UInt64 → Walker (Option α × UInt64)} {add : ListWalk α → Option α → ListWalk α}
    {loop : Nat → UInt64 → ListWalk α → Walker (Option (ListWalk α))} (hloop : Lists.GoesOver m node add loop)
    {lookups : UInt64 → Ue4rCtx → List (UInt64 × Ue4rCtx)} {X : α → Prop}
    (hstays : ∀ ptr, Stays m (Holds m (Cut m) t) (node ptr))
    (hnode : ∀ {ptr c}, Holds m (Cut m) t c → (∀ l ∈ lookups ptr c, Plain m t l) → ∀ a ∈ (m.exec (node ptr) c).1.1, X a)
    (hadd : ∀ w a, (∀ b ∈ w.items, X b) → (∀ b ∈ a, X b) → ∀ b ∈ (add w a).items, X b)
    (fuel : Nat) {ptr : UInt64} {w : ListWalk α} (h : Holds m (Cut m) t c)
    (hplain : ∀ l ∈ listLookups m node add lookups fuel ptr w c, Plain m t l) (hw : ∀ a ∈ w.items, X a) :
    ∀ w' ∈ (m.exec (loop fuel ptr w) c).1, ∀ a ∈ w'.items, X a := by
  induction fuel generalizing ptr w c with
  | zero =>
    rw [hloop.zero]
    exact fun w' hw' => by cases hw'
  | succ fuel ih =>
    rw [hloop.succ]
    rw [listLookups] at hplain
    split
    · rename_i hgo
      rw [if_pos hgo] at hplain
      obtain ⟨hhere, hrest⟩ := List.forall_mem_append.mp hplain
      exact ih (hstays ptr c h) hrest (hadd w _ hw (hnode h hhere))
    · rintro w' hw'
      rwa [← Option.mem_some.mp hw']

/-- A record that shows plain names only has ASCII strings. -/
theorem exec_readClass_ascii (fuel : Nat) {obj : UInt64} (hplain : ∀ l ∈ classLookups m fuel obj c, Plain m t l) :
    ∀ r ∈ (m.exec (readClass fuel obj) c).1, RecordText Ascii r := by
  rw [classLookups] at hplain
  simp only [List.forall_mem_append] at hplain
  obtain ⟨hpath, hsup, hprops, hfuncs⟩ := hplain
  have hname := exec_buildPathName_ascii htext h (maxPathDepth + 1) 512 hpath
  -- Each part of the record is read with the context that the one before it leaves.
  have hafterName := buildPathName_stays cut_stays (maxPathDepth + 1) obj 512 c h
  simp only [readClass, Memory.exec_bind, Memory.exec_lift, Memory.run_rmReadPtr]
  generalize m.exec (buildPathName (maxPathDepth + 1) obj 512) c = named at hname hafterName hsup hprops hfuncs ⊢
  generalize (validOr (m.ptr (obj + offUstructSuper)) _).run m.host = superPtr at hsup hprops hfuncs ⊢
  have hsuper : Ascii (m.exec (readSuperName superPtr) named.2).1 := by
    rw [readSuperName]
    split
    · exact exec_buildPathName_ascii htext hafterName _ 512 hsup
    · exact .nil
  have hafterSuper := readSuperName_stays cut_stays superPtr _ hafterName
  generalize m.exec (readSuperName superPtr) named.2 = superNamed at hsuper hafterSuper hprops hfuncs ⊢
  have hitems : ∀ w ∈ (m.exec (readProperties fuel obj) superNamed.2).1,
      ∀ p ∈ w.items, Ascii p.name ∧ Ascii p.type := by
    -- No name is resolved to find the first property.
    have hfirst : ∀ c, (m.exec (firstProperty obj) c).2 = c := fun c => by simp [firstProperty]
    rw [readProperties, Memory.exec_bind, hfirst]
    refine list_items (Lists.readPropertiesLoop_goesOver m) (readPropertyNode_stays cut_stays)
      (fun hc => exec_readPropertyNode_ascii htext hc) ?_ fuel hafterSuper hprops fun p hp => absurd hp List.not_mem_nil
    intro w p hw hp
    cases p with
    | none => exact hw
    | some p => exact List.forall_mem_append.mpr ⟨hw, List.forall_mem_singleton.mpr (hp p rfl)⟩
  have hafterProperties := readProperties_stays cut_stays fuel obj _ hafterSuper
  generalize m.exec (readProperties fuel obj) superNamed.2 = read at hitems hafterProperties hfuncs ⊢
  obtain ⟨properties, afterProperties⟩ := read
  cases properties with
  | none => exact fun r hr => by cases hr
  | some properties =>
    have hfitems : ∀ w ∈ (m.exec (readFunctions fuel obj) afterProperties).1, ∀ f ∈ w.items, Ascii f.name := by
      simp only [readFunctions, Memory.exec_bind, Memory.exec_lift, Memory.run_rmReadPtr]
      refine list_items (Lists.readFunctionsLoop_goesOver m) (readFunctionNode_stays cut_stays)
        (fun hc => exec_readFunctionNode_ascii htext hc) ?_ fuel hafterProperties hfuncs
        fun f hf => absurd hf List.not_mem_nil
      exact fun w f hw hf => List.forall_mem_append.mpr ⟨hw, fun g hg => hf g (Option.mem_toList.mp hg)⟩
    dsimp only
    rw [Memory.exec_bind]
    generalize m.exec (readFunctions fuel obj) afterProperties = read at hfitems ⊢
    obtain ⟨functions, c'⟩ := read
    cases functions with
    | none => exact fun r hr => by cases hr
    | some functions =>
      rintro r hr
      rw [← Option.mem_some.mp hr]
      exact ⟨hname, hsuper, hitems properties rfl, hfitems functions rfl⟩

end Walker

/-! ### The document -/

section Document

theorem valid_lit {s : String} (h : (lit s).all (· < 0x80) = true) : Valid (lit s) := (ascii_lit h).valid

theorem valid_decimalInt (n : Int) : Valid (decimalInt n) := by
  unfold decimalInt
  split
  · exact (valid_lit rfl).append (ascii_decimal _).valid
  · exact (ascii_decimal _).valid

theorem valid_separator (last : Bool) : Valid (separator last) := by
  cases last
  · exact valid_lit rfl
  · exact .nil

theorem hexDigit_ascii : ∀ n < 16, hexDigit n < 0x80 := by decide

theorem escapeByte_ascii {c : UInt8} (hc : c < 0x80) : Ascii (escapeByte c) := by
  unfold escapeByte
  repeat' first
    | exact ascii_lit rfl
    | split
  · rename_i hcontrol
    have hlt : c.toNat < 32 := UInt8.lt_iff_toNat_lt.mp hcontrol
    refine (ascii_lit rfl).append ?_
    simp only [Ascii, List.forall_mem_cons, List.not_mem_nil, false_implies, implies_true, and_true]
    exact ⟨hexDigit_ascii _ (by omega), hexDigit_ascii _ (by omega)⟩
  · exact List.forall_mem_singleton.mpr hc

theorem escapeByte_high {c : UInt8} (hc : c ≥ 0x80) : escapeByte c = [c] := by
  have hne : c ∉ lettered := by
    intro hmem
    have hlow : lettered.all (· < 0x80) = true := rfl
    have hlt := of_decide_eq_true (List.all_eq_true.mp hlow c hmem)
    exact absurd (UInt8.lt_iff_toNat_lt.mp hlt) (Nat.not_lt.mpr (UInt8.le_iff_toNat_le.mp hc))
  rw [escapeByte_other hne, if_neg]
  intro hlt
  have hle := UInt8.le_iff_toNat_le.mp hc
  exact absurd ((UInt8.lt_iff_toNat_lt.mp hlt).trans (by decide : (32 : Nat) < 128)) (Nat.not_lt.mpr hle)

theorem valid_escaped {s : Str} (h : Valid s) : Valid (escaped s) :=
  (valid_lit rfl).append ((h.replace (fun _ hc => (escapeByte_ascii hc).valid) fun _ hc => escapeByte_high hc).append
    (valid_lit rfl))

theorem valid_listText {α : Type} {text : α → Bool → Str} {l : List α} (h : ∀ x ∈ l, ∀ last, Valid (text x last)) :
    Valid (listText text l) := by
  induction l with
  | nil => exact .nil
  | cons x l ih =>
    obtain ⟨hx, hl⟩ := List.forall_mem_cons.mp h
    exact (hx _).append (ih hl)

theorem valid_propertyText {p : Ue4Property} (hname : Valid p.name) (htype : Valid p.type) (last : Bool) :
    Valid (propertyText p last) := by
  unfold propertyText
  refine .append (valid_lit rfl) (.append (valid_lit rfl) (.append (valid_escaped hname) (.append (valid_lit rfl)
    (.append (valid_escaped htype) ?_))))
  refine .append (.append (valid_lit rfl) (valid_decimalInt _)) (.append (.append (valid_lit rfl) (valid_decimalInt _))
    (.append (.append (valid_lit rfl) (valid_decimalInt _)) (.append (.append (.append ?_ ?_) ?_) .nil)))
  · exact valid_lit rfl
  · exact valid_separator last
  · exact valid_lit rfl

theorem valid_functionText {f : Ue4Function} (hname : Valid f.name) (last : Bool) : Valid (functionText f last) := by
  unfold functionText
  refine .append (valid_lit rfl) (.append (valid_lit rfl) (.append (valid_escaped hname) ?_))
  refine .append (.append (valid_lit rfl) (ascii_decimal _).valid) (.append
    (.append (valid_lit rfl) (ascii_decimal _).valid) (.append (.append (.append ?_ ?_) ?_) .nil))
  · exact valid_lit rfl
  · exact valid_separator last
  · exact valid_lit rfl

theorem valid_classText {r : Ue4Class} (h : RecordText Valid r) (last : Bool) : Valid (classText r last) := by
  have hproperties : Valid (listText propertyText r.properties) :=
    valid_listText fun p hp => valid_propertyText (h.properties p hp).1 (h.properties p hp).2
  have hfunctions : Valid (listText functionText r.functions) :=
    valid_listText fun f hf => valid_functionText (h.functions f hf)
  unfold classText
  refine .append (valid_lit rfl) (.append (valid_lit rfl) (.append (valid_escaped h.name) (.append (valid_lit rfl)
    (.append (valid_lit rfl) (.append (valid_escaped h.superName) (.append (valid_lit rfl) ?_))))))
  refine .append (.append (.append (valid_lit rfl) (valid_decimalInt _)) (valid_lit rfl)) (.append (valid_lit rfl)
    (.append hproperties (.append (valid_lit rfl) (.append (valid_lit rfl) (.append hfunctions (.append (valid_lit rfl)
      (.append (.append (.append ?_ ?_) ?_) .nil)))))))
  · exact valid_lit rfl
  · exact valid_separator last
  · exact valid_lit rfl

theorem valid_documentText {records : List Ue4Class} (h : ∀ r ∈ records, RecordText Valid r) :
    Valid (documentText records) := by
  have hheader : Valid (headerText jsonHeader) := by
    refine Ascii.valid fun c hc => ?_
    have hall : (headerText jsonHeader).all (· < 0x80) = true := by
      unfold jsonHeader
      rfl
    exact of_decide_eq_true (List.all_eq_true.mp hall c hc)
  have hclasses : ∀ count, Valid (classesText count records) := by
    induction records with
    | nil => exact fun _ => .nil
    | cons r records ih =>
      obtain ⟨hr, hrecords⟩ := List.forall_mem_cons.mp h
      intro count
      have hcomma : Valid (commaText count) := by
        unfold commaText
        split
        · exact valid_lit rfl
        · exact .nil
      exact (hcomma.append (valid_classText hr true)).append (ih hrecords _)
  have hfooter : Valid jsonFooter := by
    unfold jsonFooter
    exact valid_lit rfl
  exact (hheader.append (hclasses 0)).append hfooter

end Document

/-! ### The dump -/

/-- The walk gives the record `r` to its callback, before it ends or without ever ending. -/
def Handed (m : Memory) (fuel : Nat) (c : Ue4rCtx) (r : Ue4Class) : Prop :=
  ∃ objects count, (getObjectsInfo c.guobjectarray).run m.host = some (objects, count) ∧
    ∃ n records k, (afterVisits m fuel (fun rs r => rs ++ [r]) []
      ((visited m objects (min count maxObjects)).take n) c).1 = some (records, k) ∧ r ∈ records

theorem RecordText.imp {X Y : Str → Prop} {r : Ue4Class} (h : RecordText X r) (hXY : ∀ s, X s → Y s) : RecordText Y r :=
  ⟨hXY _ h.name, hXY _ h.superName, fun p hp => ⟨hXY _ (h.properties p hp).1, hXY _ (h.properties p hp).2⟩,
    fun f hf => hXY _ (h.functions f hf)⟩

section Dump
variable {m : Memory} {t : NameTables} {c : Ue4rCtx} {ω : Type} {cb : ω → Ue4Class → ω}

/-- What is handed to the callback has only valid text, when the walker shows plain names of every object it comes to.
    -/
theorem visitAll_valid (htext : TextTable m t) (fuel : Nat) (objs : List UInt64) (h : Holds m (Cut m) t c)
    (hplain : ∀ v ∈ visits m fuel objs c, HandsPlain m t fuel v) {s s' : ω × Int}
    (hs' : (m.exec (visitAll (iterateBody fuel cb) objs s) c).1 = some s') :
    ∃ records : List Ue4Class, (∀ r ∈ records, RecordText Valid r) ∧ s'.1 = records.foldl cb s.1 := by
  induction objs generalizing s c with
  | nil =>
    obtain rfl := Option.some.inj hs'
    exact ⟨[], fun r hr => absurd hr List.not_mem_nil, rfl⟩
  | cons obj objs ih =>
    rw [visits] at hplain
    obtain ⟨hhere, hrest⟩ := List.forall_mem_cons.mp hplain
    have htest := isUclass_stays cut_stays (fun c cls hc => hc.meta cls) obj c h
    rw [visitAll, Memory.exec_bind, exec_iterateBody] at hs'
    by_cases hclass : (m.exec (isUclass obj) c).1 = true
    · rw [if_pos hclass] at hs' hrest
      have hread := readClass_stays cut_stays fuel obj _ htest
      have hvalid : ∀ r ∈ (m.exec (readClass fuel obj) (m.exec (isUclass obj) c).2).1, RecordText Valid r := fun r hr =>
        (exec_readClass_ascii htext htest fuel (hhere hclass (Option.isSome_iff_exists.mpr ⟨r, hr⟩)) r hr).imp
          fun _ hs => hs.valid
      generalize m.exec (readClass fuel obj) (m.exec (isUclass obj) c).2 = read at hs' hrest hread hvalid
      obtain ⟨r, c'⟩ := read
      cases r with
      | none => cases hs'
      | some r =>
        obtain ⟨records, hrecords, hsame⟩ := ih hread hrest hs'
        exact ⟨r :: records, List.forall_mem_cons.mpr ⟨hvalid r rfl, hrecords⟩, hsame⟩
    · rw [if_neg hclass] at hs' hrest
      exact ih htest hrest hs'

theorem foldl_append (records acc : List Ue4Class) : records.foldl (fun rs r => rs ++ [r]) acc = acc ++ records := by
  induction records generalizing acc with
  | nil => exact (List.append_nil acc).symm
  | cons r records ih => rw [List.foldl_cons, ih, List.append_assoc, List.singleton_append]

end Dump

/-- A class at 0x80000 named `Class`, and one at 0x81000 with a wide name of one unit, 0xc9 or 0x41. -/
def wideNamed (accent : Bool) : Memory := .ofSegments
  [(0x10000, leBytes 16 0 ++ leBytes 8 0x70000 ++ leBytes 12 0 ++ leBytes 4 2),
   (0x70000, leBytes 24 0x80000 ++ leBytes 24 0x81000),
   (0x80000, leBytes 16 0 ++ leBytes 8 0x80000 ++ leBytes 8 1 ++ leBytes 64 0),
   (0x81000, leBytes 16 0 ++ leBytes 8 0x80000 ++ leBytes 8 2 ++ leBytes 64 0),
   (0x100000, leBytes 8 0x200000), (0x200000, leBytes 8 0 ++ leBytes 8 0x400000 ++ leBytes 8 0x410000),
   (0x300000, leBytes 8 0 ++ leBytes 8 0x100000),
   (0x400000, leBytes 12 0 ++ lit "Class" ++ leBytes 60 0),
   (0x410000, leBytes 8 0 ++ leBytes 4 1 ++ leBytes 512 (if accent then 0xc9 else 0x41))]

def wideNamedCtx : Ue4rCtx :=
  { Ue4rCtx.initial 0x10000 0x300000 0x100000 with
    uclassClass := 0x80000
    cachedChunks := Function.update (fun _ => 0) 0 0x200000
    nameCache := Function.update emptyNameCache 1 ⟨1, lit "Class"⟩ }

section WideNamed
variable (accent : Bool)

theorem wideNamed_init : (ue4rInit 0 0 0x10000 0x300000).run (wideNamed accent).host = some wideNamedCtx := by
  rw [wideNamed, Memory.ofSegments_eq]
  cases accent <;> rfl

theorem wideNamed_info :
    (getObjectsInfo wideNamedCtx.guobjectarray).run (wideNamed accent).host = some (0x70000, 2) := by
  rw [wideNamed, Memory.ofSegments_eq]
  cases accent <;> decide +kernel

/-- The pointers from 0x100000 on, up to the entries. -/
theorem wideNamed_ptr {a : UInt64} (hlo : 0x100000 ≤ a.toNat) (hhi : a.toNat < 0x400000) (haligned : a.toNat % 8 = 0) :
    (wideNamed accent).ptr a = if a = 0x100000 then 0x200000 else if a = 0x200008 then 0x400000
      else if a = 0x200010 then 0x410000 else if a = 0x300008 then 0x100000 else 0 := by
  by_cases hmem : a = 0x100000 ∨ a = 0x200000 ∨ a = 0x200008 ∨ a = 0x200010 ∨ a = 0x300000 ∨ a = 0x300008
  · rw [wideNamed, Memory.ofSegments_eq]
    rcases hmem with rfl | rfl | rfl | rfl | rfl | rfl <;> cases accent <;> decide +kernel
  · have hout : wideNamed accent a = none := by
      simp only [not_or, ← UInt64.toNat_inj, UInt64.reduceToNat] at hmem
      refine Memory.ofSegments_none ?_
      simp only [List.forall_mem_cons, List.not_mem_nil, false_implies, implies_true, and_true, List.length_append,
        length_leBytes, UInt64.toNat_sub, UInt64.reduceToNat]
      have hclass : (lit "Class").length = 5 := rfl
      omega
    have hzero : (wideNamed accent).ptr a = 0 := by
      refine Memory.ptr_of_missing _ _ (Nat.zero_lt_succ 7) ?_
      rw [show a + UInt64.ofNat 0 = a from UInt64.add_zero a]
      exact hout
    simp only [not_or] at hmem
    simp [hzero, hmem]

/-- The pointers of the name pool, of the table and of its chunk. -/
theorem wideNamed_slot {base : UInt64} (hbase : base = 0x100000 ∨ base = 0x200000 ∨ base = 0x300000) {k : Nat}
    (hk : k < 2 ^ 17) (hvalid : rmValidatePtr ((wideNamed accent).ptr (base + .ofNat k * 8)) = true) :
    (base = 0x100000 ∧ (wideNamed accent).ptr (base + .ofNat k * 8) = 0x200000) ∨
      (base = 0x200000 ∧ ((wideNamed accent).ptr (base + .ofNat k * 8) = 0x400000 ∨
        (wideNamed accent).ptr (base + .ofNat k * 8) = 0x410000)) ∨
      (base = 0x300000 ∧ k = 1 ∧ (wideNamed accent).ptr (base + .ofNat k * 8) = 0x100000) := by
  have hmul : UInt64.ofNat k * 8 = .ofNat (k * 8) := (UInt64.ofNat_mul k 8).symm
  have hplace : (base + .ofNat k * 8).toNat = base.toNat + k * 8 := by
    rw [hmul, toNat_add_ofNat]
    rcases hbase with rfl | rfl | rfl <;> simp only [UInt64.reduceToNat] <;> omega
  have hptr := @wideNamed_ptr accent (base + .ofNat k * 8)
  rw [hplace] at hptr
  simp only [← UInt64.toNat_inj, hplace] at hptr
  generalize (wideNamed accent).ptr (base + .ofNat k * 8) = p at hvalid hptr ⊢
  have hne : p.toNat ≠ 0 := by
    intro hzero
    obtain rfl : p = 0 := UInt64.toNat_inj.mp hzero
    exact absurd hvalid (by decide)
  simp only [← UInt64.toNat_inj]
  rcases hbase with rfl | rfl | rfl
  all_goals
    simp only [UInt64.reduceToNat, apply_ite UInt64.toNat, true_and] at hptr ⊢
    have hsame := hptr (by omega) (by omega) (by omega)
    split_ifs at hsame <;> omega

/-- The names come from two entries only. -/
theorem wideNamed_entry {compIndex : Nat} (hlt : compIndex < 2 ^ 31) {e : UInt64}
    (h : textEntry (wideNamed accent) (tables wideNamedCtx) compIndex = some e) : e = 0x400000 ∨ e = 0x410000 := by
  have hpool : (wideNamed accent).ptr 0x300000 = 0 := wideNamed_ptr accent (by decide) (by decide) (by decide)
  have htable : (wideNamed accent).ptr (0x300000 + 8) = 0x100000 :=
    wideNamed_ptr accent (by decide) (by decide) (by decide)
  -- What a table can lead to is one of the two names, or the chunk.
  have hentry : ∀ table, table = 0x100000 ∨ table = 0x300000 → ∀ e,
      entryAt (wideNamed accent) table compIndex = some e →
      e = 0x400000 ∨ e = 0x410000 ∨ e = 0x200000 := by
    intro table htable e he
    obtain ⟨⟨-, hchunk, hvalid⟩, hsame⟩ := Option.ite_none_right_eq_some.mp he
    obtain rfl := Option.some.inj hsame
    have hchunks := @wideNamed_slot accent table (htable.imp id Or.inr) _ (by omega) hchunk
    generalize (wideNamed accent).ptr (table + .ofNat (compIndex / 16384) * 8) = chunk at hchunks hvalid ⊢
    have hbase : chunk = 0x100000 ∨ chunk = 0x200000 ∨ chunk = 0x300000 := by
      rcases hchunks with ⟨-, h⟩ | ⟨h, -⟩ | ⟨-, -, h⟩
      · exact Or.inr (Or.inl h)
      · rcases htable with rfl | rfl <;> cases h
      · exact Or.inl h
    rcases wideNamed_slot accent hbase (by omega) hvalid with ⟨-, h⟩ | ⟨-, h | h⟩ | ⟨h, -⟩
    · exact Or.inr (Or.inr h)
    · exact Or.inl h
    · exact Or.inr (Or.inl h)
    · rcases hchunks with ⟨-, h'⟩ | ⟨h', -⟩ | ⟨-, -, h'⟩
      · cases h.symm.trans h'
      · rcases htable with rfl | rfl <;> cases h'
      · cases h.symm.trans h'
  obtain ⟨table, hmem, hfound⟩ := List.exists_of_findSome?_eq_some h
  obtain ⟨he, hsome⟩ := Option.filter_eq_some_iff.mp hfound
  have htables : table = 0x100000 ∨ table = 0x300000 := by
    have hall : table = 0x100000 ∨ table = 0x300000 ∨ table = 0 := by
      simp only [searched, wideNamedCtx, Ue4rCtx.initial, hpool, htable, List.mem_append, List.mem_cons,
        List.not_mem_nil, or_false] at hmem
      rcases hmem with hmem | rfl | rfl | rfl
      · split at hmem
        · exact Or.inl (List.mem_singleton.mp hmem)
        · cases hmem
      · exact Or.inr (Or.inl rfl)
      · exact Or.inr (Or.inr rfl)
      · exact Or.inl rfl
    rcases hall with h | h | rfl
    · exact Or.inl h
    · exact Or.inr h
    · simp [entryAt] at he
  rcases hentry table htables e he with h | h | rfl
  · exact Or.inl h
  · exact Or.inr h
  · -- 0x200000 is a chunk, and what is there is no entry.
    have hnone : (readEntry 0x200000).run (wideNamed accent).host = none := by
      rw [wideNamed, Memory.ofSegments_eq]
      cases accent <;> decide +kernel
    rw [hnone] at hsome
    cases hsome

theorem wideNamed_isWide : isWide (wideNamed accent) 0x400000 = false ∧ isWide (wideNamed accent) 0x410000 = true := by
  rw [wideNamed, Memory.ofSegments_eq]
  cases accent <;> decide +kernel

theorem wideNamed_text : TextTable (wideNamed accent) (tables wideNamedCtx) where
  narrow compIndex hlt e he hnarrow s hs := by
    rcases wideNamed_entry accent hlt he with rfl | rfl
    · have hclass : Strings.StringAt (wideNamed accent) (0x400000 + 0x0c) (lit "Class") := by
        refine ⟨by decide, lit_nonzero (by decide), ?_⟩
        have hbytes : ∀ i < 6, wideNamed accent (0x400000 + 0x0c + .ofNat i) = some ((lit "Class").getD i 0) := by
          rw [wideNamed, Memory.ofSegments_eq]
          cases accent <;> decide +kernel
        exact fun i hi => hbytes i (Nat.lt_succ_of_le hi)
      rw [hs.of_string hclass]
      exact (ascii_lit rfl).take _
    · rw [(wideNamed_isWide accent).2] at hnarrow
      cases hnarrow
  wide compIndex hlt e he hwide := by
    rcases wideNamed_entry accent hlt he with rfl | rfl
    · rw [(wideNamed_isWide accent).1] at hwide
      cases hwide
    · refine ⟨[if accent then 0xc9 else 0x41], ⟨List.forall_mem_singleton.mpr (by cases accent <;> decide), ?_⟩,
        by cases accent <;> decide⟩
      have hunits : ∀ i < 2, (wideNamed accent).u16 (0x410000 + 0x0c + .ofNat (i * 2)) =
          ([if accent then 0xc9 else 0x41].getD i 0, true) := by
        rw [wideNamed, Memory.ofSegments_eq]
        cases accent <;> decide +kernel
      exact fun i hi => hunits i (Nat.lt_succ_of_le hi)
  pool compIndex hlt hnone hvalid := by
    have hplace : fnamepoolBlocksOffset + .ofNat (compIndex / 2 ^ 16) * 8 =
        .ofNat (compIndex / 2 ^ 16 + 8) * (8 : UInt64) := by
      rw [UInt64.ofNat_add, UInt64.add_mul, UInt64.add_comm]
      rfl
    unfold poolBlock fnameBlockOffsetBits at hvalid
    rw [UInt64.add_assoc, hplace] at hvalid
    -- The blocks of the pool begin at slot 8, where its base has nothing.
    rcases wideNamed_slot accent (Or.inr (Or.inr rfl)) (by omega) hvalid with ⟨hbase, -⟩ | ⟨hbase, -⟩ | ⟨-, hone, -⟩
    · cases hbase
    · cases hbase
    · omega

theorem wideNamed_visited : visited (wideNamed accent) 0x70000 (min 2 maxObjects) = [0x80000, 0x81000] := by
  rw [wideNamed, Memory.ofSegments_eq]
  cases accent <;> decide +kernel

/-- Both classes are given to the callback. -/
theorem wideNamed_handed : ∃ r, Handed (wideNamed accent) 1 wideNamedCtx r ∧
    r.name = lit "/" ++ [if accent then 0xc9 else 0x41] := by
  have hnames : (afterVisits (wideNamed accent) 1 (fun rs r => rs ++ [r]) [] [0x80000, 0x81000] wideNamedCtx).1.map
      (fun s => s.1.map Ue4Class.name) = some [lit "/Class", lit "/" ++ [if accent then 0xc9 else 0x41]] := by
    rw [wideNamed, Memory.ofSegments_eq]
    cases accent <;> decide +kernel
  obtain ⟨⟨records, k⟩, hvisits, hmap⟩ := Option.map_eq_some_iff.mp hnames
  obtain ⟨r, hr, hname⟩ : ∃ r ∈ records, r.name = lit "/" ++ [if accent then 0xc9 else 0x41] := by
    have hmem : lit "/" ++ [if accent then 0xc9 else 0x41] ∈ records.map Ue4Class.name := by
      rw [hmap]
      exact List.mem_cons_of_mem _ List.mem_cons_self
    exact List.mem_map.mp hmem
  refine ⟨r, ⟨0x70000, 2, wideNamed_info accent, 2, records, k, ?_, hr⟩, hname⟩
  rw [wideNamed_visited, List.take_of_length_le (by decide)]
  exact hvisits

end WideNamed

end Encoding
end RadarAim

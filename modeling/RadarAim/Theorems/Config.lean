import RadarAim.Config

/-! The two parsers of the configuration file. A line that sets a key for both sets it to one value, but a blank
    before the `=` hides the key from the live reader, and white space other than blanks before the key hides it
    from the schema dump. The file has one meaning when such lines, after the last common one, balance. -/

namespace RadarAim
namespace ConfigFile
open Scanf

/-! ### The kinds of lines -/

/-- What stands before the first `=` of a line, and what stands after it. -/
def nameOf (line : Str) : Str := line.takeWhile (· != 0x3d)

def textOf (line : Str) : Str := (line.dropWhile (· != 0x3d)).drop 1

/-- A number that is set apart from its `0x`. -/
def scanApart (bare : Bool) (text : Str) : Option UInt64 := (scanLit (lit "0x") text).bind (scanHex bare)

inductive Party where
  | both
  | dump
  | live
  deriving DecidableEq

/-- The value that a line gives to `key`, and for whom: for both after blanks at most, for the live reader alone
    after other white space, for the schema dump alone before blanks or with a number set apart from its `0x`. -/
def setting (bare : Bool) (key line : Str) : Option (Party × UInt64) :=
  let name := (nameOf line).dropWhile isBlank
  if 0x3d ∉ line then none
  else if name = key then
    ((scanHex bare (textOf line)).map fun v => (.both, v)).or
      ((scanApart bare (textOf line)).map fun v => (.dump, v))
  else if (nameOf line).dropWhile isSpace = key then (scanHex bare (textOf line)).map fun v => (.live, v)
  else if name.rdropWhile isBlank = key ∧ name.length ≤ 127 then
    ((scanHex bare (textOf line)).or (scanApart bare (textOf line))).map fun v => (.dump, v)
  else none

/-- The last value for `party` among `later`, which are not for both; otherwise the common one. -/
def lastOf (party : Party) (later : List (Party × UInt64)) (common : UInt64) : UInt64 :=
  ((later.find? (·.1 = party)).map Prod.snd).getD common

/-- The settings of a key, the last one first. After the last common one, what the schema dump alone reads and
    what the live reader alone reads come to the same. -/
def Balanced (settings : List (Party × UInt64)) : Prop :=
  let later := settings.takeWhile (·.1 ≠ .both)
  let common := ((settings.find? (·.1 = .both)).map Prod.snd).getD 0
  lastOf .dump later common = lastOf .live later common

instance (settings : List (Party × UInt64)) : Decidable (Balanced settings) := inferInstanceAs (Decidable (_ = _))

def settings (bare : Bool) (key contents : Str) : List (Party × UInt64) :=
  ((fgetsLines 256 [] contents).map cstr).reverse.filterMap (setting bare key)

def keys : List Str := [lit "guobjectarray", lit "gnamepool"]

def OneMeaning (bare : Bool) (contents : Str) : Prop := ∀ key ∈ keys, Balanced (settings bare key contents)

instance (bare : Bool) (contents : Str) : Decidable (OneMeaning bare contents) :=
  inferInstanceAs (Decidable (∀ key ∈ keys, _))

/-! ### White space -/

theorem isSpace_of_isBlank {c : UInt8} (h : isBlank c = true) : isSpace c = true := by
  simp only [isBlank, Bool.or_eq_true, beq_iff_eq] at h
  obtain rfl | rfl := h <;> rfl

theorem dropWhile_isSpace_isBlank (s : Str) : (s.dropWhile isBlank).dropWhile isSpace = s.dropWhile isSpace := by
  induction s with
  | nil => rfl
  | cons c s ih =>
    cases hc : isBlank c with
    | false => simp [hc]
    | true => simp [hc, isSpace_of_isBlank hc, ih]

section Lead
variable {q : UInt8 → Bool}

/-- Dropping a prefix without `=` leaves the text and drops from the name. -/
theorem nameOf_dropWhile (hq : q 0x3d = false) (line : Str) :
    nameOf (line.dropWhile q) = (nameOf line).dropWhile q ∧ textOf (line.dropWhile q) = textOf line ∧
      (0x3d ∈ line.dropWhile q ↔ 0x3d ∈ line) := by
  induction line with
  | nil => exact ⟨rfl, rfl, Iff.rfl⟩
  | cons c s ih =>
    cases hc : q c with
    | false =>
      rw [List.dropWhile_cons_of_neg (by simp [hc])]
      refine ⟨?_, rfl, Iff.rfl⟩
      by_cases heq : c = 0x3d <;> simp [nameOf, heq, hc]
    | true =>
      have heq : c ≠ 0x3d := by
        rintro rfl
        exact absurd (hc.symm.trans hq) (by simp)
      rw [List.dropWhile_cons_of_pos hc]
      obtain ⟨hname, htext, hmem⟩ := ih
      refine ⟨?_, ?_, ?_⟩
      · simpa [nameOf, heq, hc] using hname
      · simpa [textOf, heq] using htext
      · simpa [heq.symm] using hmem

theorem scanEntry_eq (bare : Bool) (pre s : Str) :
    scanEntry bare pre s =
      if 0x3d ∈ s ∧ nameOf s ≠ [] ∧ (nameOf s).length ≤ 127 then
        ((scanLit pre (textOf s)).bind (scanHex bare)).map fun val => (nameOf s, val)
      else none := by
  rw [scanEntry, scanUntil_eq]
  split
  · rename_i hnone
    split at hnone
    · cases hnone
    · rename_i hcond
      exact (if_neg hcond).symm
  · rename_i key rest hsome
    split at hsome
    · rename_i hcond
      cases hsome
      exact (if_pos hcond).symm
    · cases hsome

theorem scanEntry_dropWhile (hq : q 0x3d = false) (bare : Bool) (pre line : Str) :
    scanEntry bare pre (line.dropWhile q) =
      if 0x3d ∈ line ∧ (nameOf line).dropWhile q ≠ [] ∧ ((nameOf line).dropWhile q).length ≤ 127 then
        ((scanLit pre (textOf line)).bind (scanHex bare)).map fun val => ((nameOf line).dropWhile q, val)
      else none := by
  obtain ⟨hname, htext, hmem⟩ := nameOf_dropWhile hq line
  simp only [scanEntry_eq, hname, htext, hmem]

end Lead

/-! ### What each parser makes of a line -/

def assigned (key : Str) (entry : Option (Str × UInt64)) : Option UInt64 :=
  entry.bind fun e => if e.1 = key then some e.2 else none

theorem assigned_map (key name : Str) (v : Option UInt64) :
    assigned key (v.map fun val => (name, val)) = if name = key then v else none := by
  cases v <;> simp [assigned]

structure ProperKey (key : Str) : Prop where
  nonempty : key ≠ []
  short : key.length ≤ 127
  spaces : ∀ c ∈ key, isSpace c = false
  comment : key.head? ≠ some 0x23

theorem properKey_of_mem {key : Str} (h : key ∈ keys) : ProperKey key := by
  have spaces {k : Str} (hk : (k.all fun c => !isSpace c) = true) : ∀ c ∈ k, isSpace c = false := fun c hc =>
    (Bool.not_eq_true' _).mp (List.all_eq_true.mp hk c hc)
  simp only [keys, List.mem_cons, List.not_mem_nil, or_false] at h
  obtain rfl | rfl := h
  · exact ⟨by decide, by decide, spaces rfl, by decide⟩
  · exact ⟨by decide, by decide, spaces rfl, by decide⟩

section Line
variable {key : Str} (hkey : ProperKey key)
include hkey

theorem ProperKey.dropWhile_append (s : Str) : (key ++ s).dropWhile isSpace = key ++ s := by
  obtain ⟨c, cs, rfl⟩ := List.exists_cons_of_ne_nil hkey.nonempty
  exact List.dropWhile_cons_of_neg (by simp [hkey.spaces c List.mem_cons_self])

theorem ProperKey.rdropWhile : key.rdropWhile isBlank = key := by
  rw [List.rdropWhile_eq_self_iff]
  intro hne hblank
  have hspace := hkey.spaces _ (List.getLast_mem hne)
  rw [isSpace_of_isBlank hblank] at hspace
  cases hspace

/-- The dump skips no line in which the name is the key once trimmed. -/
theorem ProperKey.head (line : Str) (hmem : 0x3d ∈ line) (h : (nameOf line).rdropWhile isBlank = key) :
    ¬(line = [] ∨ line.head? = some 0x0a ∨ line.head? = some 0x23) := by
  obtain ⟨c, cs, hcs⟩ := List.exists_cons_of_ne_nil hkey.nonempty
  obtain ⟨gap, hgap⟩ : (nameOf line).rdropWhile isBlank <+: nameOf line := List.rdropWhile_prefix isBlank _
  rw [h, hcs] at hgap
  cases line with
  | nil => cases hmem
  | cons d s =>
    by_cases hd : d = 0x3d
    · simp [hd]
    · have hhead : c = d := by
        rw [nameOf, List.takeWhile_cons_of_pos (by simpa using hd)] at hgap
        exact (List.cons.inj hgap).1
      have hspace := hkey.spaces c (hcs ▸ List.mem_cons_self)
      have hcomment := hkey.comment
      rw [hcs, List.head?_cons] at hcomment
      rw [← hhead]
      rintro (hnil | hnl | hhash)
      · cases hnil
      · rw [List.head?_cons, Option.some.injEq] at hnl
        rw [hnl] at hspace
        cases hspace
      · exact hcomment hhash

theorem read_assigned (bare : Bool) (line : Str) : assigned key (readConfigLine bare line) =
    if 0x3d ∈ line ∧ (nameOf line).dropWhile isSpace = key then scanHex bare (textOf line) else none := by
  rw [readConfigLine, scanEntry_dropWhile rfl]
  by_cases hline : 0x3d ∈ line ∧ (nameOf line).dropWhile isSpace = key
  · obtain ⟨hmem, hname⟩ := hline
    rw [hname, if_pos ⟨hmem, hkey.nonempty, hkey.short⟩, if_pos ⟨hmem, rfl⟩, assigned_map, if_pos rfl]
    rfl
  · rw [if_neg hline]
    split
    · rename_i hcond
      rw [assigned_map, if_neg (fun h => hline ⟨hcond.1, h⟩)]
    · rfl

theorem parse_assigned (bare : Bool) (line : Str) : assigned key (parseConfigLine bare line) =
    if 0x3d ∈ line ∧ ((nameOf line).dropWhile isBlank).rdropWhile isBlank = key ∧
        ((nameOf line).dropWhile isBlank).length ≤ 127 then
      (scanHex bare (textOf line)).or (scanApart bare (textOf line))
    else none := by
  obtain ⟨hname, -, hmem⟩ := nameOf_dropWhile (q := isBlank) rfl line
  rw [parseConfigLine]
  split
  · rename_i hskip
    refine (if_neg ?_).symm
    rintro ⟨hline, htrim, -⟩
    exact hkey.head _ (hmem.mpr hline) (hname ▸ htrim) hskip
  · rw [scanEntry_dropWhile rfl, scanEntry_dropWhile rfl]
    by_cases hcond : 0x3d ∈ line ∧ (nameOf line).dropWhile isBlank ≠ [] ∧ ((nameOf line).dropWhile isBlank).length ≤ 127
    · rw [if_pos hcond, if_pos hcond, ← Option.map_or, Option.map_map]
      refine (assigned_map key _ _).trans ?_
      by_cases htrim : ((nameOf line).dropWhile isBlank).rdropWhile isBlank = key
      · rw [if_pos htrim, if_pos ⟨hcond.1, htrim, hcond.2.2⟩]
        rfl
      · rw [if_neg htrim, if_neg (fun h => htrim h.2.1)]
    · rw [if_neg hcond, if_neg hcond, if_neg]
      · rfl
      rintro ⟨hline, htrim, hlen⟩
      refine hcond ⟨hline, fun hnil => hkey.nonempty ?_, hlen⟩
      rw [← htrim, hnil, List.rdropWhile_nil]

/-- The schema dump takes the settings that are not for the live reader alone. -/
theorem parse_setting (bare : Bool) (line : Str) : assigned key (parseConfigLine bare line) =
    (setting bare key line).bind fun e => if e.1 = .live then none else some e.2 := by
  rw [parse_assigned hkey, setting]
  by_cases hline : 0x3d ∈ line
  swap
  · simp [hline]
  by_cases hname : (nameOf line).dropWhile isBlank = key
  · rw [hname, hkey.rdropWhile]
    cases scanHex bare (textOf line) <;> cases scanApart bare (textOf line) <;> simp [hline, hkey.short]
  by_cases hspace : (nameOf line).dropWhile isSpace = key
  · -- A name that starts with other white space is not the key once trimmed.
    have htrim : ((nameOf line).dropWhile isBlank).rdropWhile isBlank ≠ key := by
      intro htrim
      obtain ⟨gap, hgap⟩ : _ <+: (nameOf line).dropWhile isBlank := List.rdropWhile_prefix isBlank _
      rw [htrim] at hgap
      have hsame := dropWhile_isSpace_isBlank (nameOf line)
      rw [← hgap, hkey.dropWhile_append, hspace] at hsame
      exact hname (hgap.symm.trans hsame)
    cases scanHex bare (textOf line) <;> simp [hline, hname, hspace, htrim]
  · by_cases htrim : ((nameOf line).dropWhile isBlank).rdropWhile isBlank = key ∧
        ((nameOf line).dropWhile isBlank).length ≤ 127
    · cases scanHex bare (textOf line) <;> cases scanApart bare (textOf line) <;>
        simp [hline, hname, hspace, htrim]
    · simp [hline, hname, hspace, htrim]

/-- The live reader takes the settings that are not for the schema dump alone. -/
theorem read_setting (bare : Bool) (line : Str) : assigned key (readConfigLine bare line) =
    (setting bare key line).bind fun e => if e.1 = .dump then none else some e.2 := by
  rw [read_assigned hkey, setting]
  by_cases hline : 0x3d ∈ line
  swap
  · simp [hline]
  by_cases hname : (nameOf line).dropWhile isBlank = key
  · have hspace : (nameOf line).dropWhile isSpace = key := by
      have hsame := hkey.dropWhile_append []
      rw [← dropWhile_isSpace_isBlank, hname]
      rwa [List.append_nil] at hsame
    cases scanHex bare (textOf line) <;> cases scanApart bare (textOf line) <;> simp [hline, hname, hspace]
  by_cases hspace : (nameOf line).dropWhile isSpace = key
  · cases scanHex bare (textOf line) <;> simp [hline, hname, hspace]
  · by_cases htrim : ((nameOf line).dropWhile isBlank).rdropWhile isBlank = key ∧
        ((nameOf line).dropWhile isBlank).length ≤ 127
    · cases scanHex bare (textOf line) <;> cases scanApart bare (textOf line) <;>
        simp [hline, hname, hspace, htrim]
    · simp [hline, hname, hspace, htrim]

end Line

/-! ### The whole file -/

def get (c : Config) (key : Str) : UInt64 := if key = lit "guobjectarray" then c.guobjectarray else c.gnamepool

theorem config_eq_iff {c d : Config} : c = d ↔ ∀ key ∈ keys, get c key = get d key := by
  have hget : ∀ e : Config, get e (lit "guobjectarray") = e.guobjectarray ∧ get e (lit "gnamepool") = e.gnamepool :=
    fun e => ⟨if_pos rfl, if_neg (by decide)⟩
  constructor
  · rintro rfl key -
    rfl
  · intro h
    have hobjects := h (lit "guobjectarray") List.mem_cons_self
    have hnames := h (lit "gnamepool") (List.mem_cons_of_mem _ List.mem_cons_self)
    rw [(hget c).1, (hget d).1] at hobjects
    rw [(hget c).2, (hget d).2] at hnames
    cases c
    cases d
    exact congrArg₂ Config.mk hobjects hnames

theorem get_set (c : Config) (k : Str) (v : UInt64) {key : Str} (h : key ∈ keys) :
    get (c.set k v) key = if k = key then v else get c key := by
  simp only [keys, List.mem_cons, List.not_mem_nil, or_false] at h
  obtain rfl | rfl := h
  · by_cases hk : k = lit "guobjectarray"
    · simp [get, Config.set, hk]
    · rw [if_neg hk, Config.set, if_neg hk]
      split <;> rfl
  · have hne : lit "gnamepool" ≠ lit "guobjectarray" := by decide
    by_cases hk : k = lit "gnamepool"
    · simp [get, Config.set, hk, hne]
    · rw [if_neg hk, Config.set, if_neg hk]
      split <;> rfl

section Fold
variable {parse : Str → Option (Str × UInt64)} {key : Str} (hmem : key ∈ keys)
include hmem

theorem get_applyLine (c : Config) (line : Str) :
    get (applyLine parse c line) key = (assigned key (parse line)).getD (get c key) := by
  rw [applyLine]
  cases parse line with
  | none => rfl
  | some e =>
    refine (get_set c e.1 e.2 hmem).trans ?_
    by_cases hk : e.1 = key <;> simp [assigned, hk]

/-- The last line that sets the key decides. -/
theorem get_foldl (lines : List Str) (c : Config) : get (lines.foldl (applyLine parse) c) key =
    (lines.reverse.findSome? fun line => assigned key (parse line)).getD (get c key) := by
  induction lines generalizing c with
  | nil => rfl
  | cons line lines ih =>
    rw [List.foldl_cons, ih, get_applyLine hmem, List.reverse_cons, List.findSome?_append]
    cases lines.reverse.findSome? fun line => assigned key (parse line) <;> simp

end Fold

/-- What the parser that skips the settings for `other` alone is left with. -/
theorem getD_findSome? {party other : Party} (hparty : party ≠ .both) (hother : other ≠ .both) (hne : party ≠ other)
    (l : List (Party × UInt64)) :
    (l.findSome? fun e => if e.1 = other then none else some e.2).getD 0 =
      lastOf party (l.takeWhile (·.1 ≠ .both)) (((l.find? (·.1 = .both)).map Prod.snd).getD 0) := by
  induction l with
  | nil => rfl
  | cons e l ih =>
    obtain ⟨who, v⟩ := e
    by_cases hboth : who = .both
    · subst hboth
      simp [lastOf, hother.symm]
    · by_cases hwho : who = other
      · subst hwho
        simpa [lastOf, hboth, hne.symm] using ih
      · have hparty : who = party := by
          cases who <;> cases party <;> cases other <;> simp_all
        subst hparty
        simp [lastOf, hboth, hwho]

theorem get_config (party other : Party) {parse : Str → Option (Str × UInt64)} {bare : Bool} {contents key : Str}
    {n : Nat} (hn : 251 < n) (hshort : ∀ l ∈ contents.splitOn 0x0a, l.length ≤ 250) (hmem : key ∈ keys)
    (hparty : party ≠ .both) (hother : other ≠ .both) (hne : party ≠ other)
    (hparse : ∀ line, assigned key (parse line) =
      (setting bare key line).bind fun e => if e.1 = other then none else some e.2) :
    get (((fgetsLines n [] contents).map cstr).foldl (applyLine parse) ⟨0, 0⟩) key =
      lastOf party ((settings bare key contents).takeWhile (·.1 ≠ .both))
        ((((settings bare key contents).find? (·.1 = .both)).map Prod.snd).getD 0) := by
  have hlines : fgetsLines n [] contents = fgetsLines 256 [] contents := by
    refine fgetsLines_congr hn (by decide) contents fun l hl => ?_
    cases hsplit : contents.splitOn 0x0a with
    | nil => exact absurd hsplit (List.splitOn_ne_nil _ _)
    | cons t ts => exact hshort l (by simpa [hsplit] using hl)
  have hzero : get ⟨0, 0⟩ key = 0 := by
    rw [get]
    split <;> rfl
  rw [get_foldl hmem, hzero, hlines, ← getD_findSome? hparty hother hne, settings, ← List.head?_filterMap,
    ← List.head?_filterMap, List.filterMap_filterMap]
  simp only [hparse]

/-- The file has one meaning for both programs just when the settings of each key balance. -/
theorem same_meaning_iff (bare : Bool) (contents : Str) (hshort : ∀ l ∈ contents.splitOn 0x0a, l.length ≤ 250) :
    parseConfig bare (some contents) = readConfig bare (some contents) ↔ OneMeaning bare contents := by
  rw [config_eq_iff]
  refine forall₂_congr fun key hmem => ?_
  have hkey := properKey_of_mem hmem
  have hdump := get_config .dump .live (n := 512) (by decide) hshort hmem (by decide) (by decide) (by decide)
    (parse_setting hkey bare)
  have hlive := get_config .live .dump (n := 256) (by decide) hshort hmem (by decide) (by decide) (by decide)
    (read_setting hkey bare)
  rw [parseConfig, readConfig, hdump, hlive]
  rfl

/-- Only the second line for the object array counts, and both parsers read it. -/
def tidyFile : Str := lit "# offsets\nguobjectarray = 0x10\nguobjectarray=0x20\n\tgnamepool=30\n"

theorem same_meaning_iff_tidy :
    parseConfig true (some tidyFile) = readConfig true (some tidyFile) ↔ OneMeaning true tidyFile :=
  same_meaning_iff true tidyFile (by decide +kernel)

/-- A blank before the `=` hides the key from the live reader, which is left with zero. -/
theorem spaced_key_differs : (∀ l ∈ (lit "guobjectarray = 0x10\n").splitOn 0x0a, l.length ≤ 250) ∧
    readConfig true (some (lit "guobjectarray = 0x10\n")) = ⟨0, 0⟩ ∧
      parseConfig true (some (lit "guobjectarray = 0x10\n")) ≠ readConfig true
        (some (lit "guobjectarray = 0x10\n")) := by
  decide +kernel

end ConfigFile
end RadarAim

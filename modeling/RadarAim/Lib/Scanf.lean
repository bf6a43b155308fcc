import RadarAim.Lib.Bytes

/-! Formatted input of the C library: lines by `fgets`, and the directives of `sscanf`, each of which takes
    what it matches off the head of the string. -/

namespace RadarAim.Scanf

def isSpace (c : UInt8) : Bool := c == 0x20 || 0x09 ≤ c && c ≤ 0x0d

/-- The blanks of a line. -/
def isBlank (c : UInt8) : Bool := c == 0x20 || c == 0x09

/-! ### Lines -/

/-- What the calls of `fgets` with a buffer of `size` bytes read, after `line` of the first of them. -/
def fgetsLines (size : Nat) : (line : Str) → Str → List Str
  | line, [] => if line = [] then [] else [line]
  | line, c :: s =>
    if c = 0x0a ∨ line.length + 2 = size then (line ++ [c]) :: fgetsLines size [] s
    else fgetsLines size (line ++ [c]) s

/-- Buffers that hold every line of the file make no difference. -/
theorem fgetsLines_congr {n m k : Nat} (hn : k + 1 < n) (hm : k + 1 < m) (s : Str) {line : Str}
    (h : ∀ l ∈ (s.splitOn 0x0a).modifyHead (line ++ ·), l.length ≤ k) :
    fgetsLines n line s = fgetsLines m line s := by
  induction s generalizing line with
  | nil => rfl
  | cons c s ih =>
    rw [List.splitOn_cons_eq_if_modifyHead] at h
    rw [fgetsLines, fgetsLines]
    split at h
    · rename_i hc
      have hrest : ∀ l ∈ (s.splitOn 0x0a).modifyHead ([] ++ ·), l.length ≤ k := by
        intro l hl
        have hmem : l ∈ s.splitOn 0x0a := by
          cases hsplit : s.splitOn 0x0a with
          | nil => exact absurd hsplit (List.splitOn_ne_nil _ _)
          | cons t ts => simpa [hsplit] using hl
        exact h l (by simp [hmem])
      have hnl : c = 0x0a := by simpa using hc
      rw [if_pos (Or.inl hnl), if_pos (Or.inl hnl), ih hrest]
    · rename_i hc
      have hnl : c ≠ 0x0a := by simpa using hc
      cases hsplit : s.splitOn 0x0a with
      | nil => exact absurd hsplit (List.splitOn_ne_nil _ _)
      | cons l ls =>
        rw [hsplit, List.modifyHead_cons, List.modifyHead_cons] at h
        have hlen := h _ List.mem_cons_self
        simp only [List.length_append, List.length_cons] at hlen
        -- The line is shorter than either buffer, so only a newline ends it.
        have hbuf : ∀ size, k + 1 < size → ¬(c = 0x0a ∨ line.length + 2 = size) := by
          intro size hsize
          simp only [hnl, false_or]
          omega
        rw [if_neg (hbuf n hn), if_neg (hbuf m hm)]
        refine ih fun t ht => ?_
        rw [hsplit, List.modifyHead_cons] at ht
        simp only [List.append_assoc, List.singleton_append] at ht
        exact h t ht

/-! ### Directives -/

/-- The directive `%<max>[^c]` and a `c` after it. -/
def scanUntil (max : Nat) (c : UInt8) (s : Str) : Option (Str × Str) :=
  let field := (s.take max).takeWhile (· != c)
  if field = [] then none
  else match s.drop field.length with
    | [] => none
    | d :: rest => if d = c then some (field, rest) else none

theorem takeWhile_ne_append {c : UInt8} {t : Str} (h : c ∉ t) (u : Str) :
    (t ++ c :: u).takeWhile (· != c) = t ∧ (t ++ c :: u).dropWhile (· != c) = c :: u := by
  have hne : ∀ b ∈ t, (b != c) = true := by
    intro b hb
    simp only [bne_iff_ne]
    rintro rfl
    exact h hb
  rw [List.takeWhile_append_of_pos hne, List.dropWhile_append_of_pos hne]
  simp

/-- The field is all that stands before the first `c`. -/
theorem scanUntil_eq (max : Nat) (c : UInt8) (s : Str) :
    scanUntil max c s =
      if c ∈ s ∧ s.takeWhile (· != c) ≠ [] ∧ (s.takeWhile (· != c)).length ≤ max then
        some (s.takeWhile (· != c), (s.dropWhile (· != c)).drop 1)
      else none := by
  by_cases hc : c ∈ s
  · obtain ⟨t, u, rfl, ht⟩ := List.eq_append_cons_of_mem hc
    obtain ⟨htake, hdrop⟩ := takeWhile_ne_append ht u
    rw [scanUntil, ← List.take_takeWhile, htake, hdrop]
    by_cases hlen : t.length ≤ max
    · rw [List.take_of_length_le hlen, List.drop_left]
      by_cases hnil : t = [] <;> simp [hnil, hlen]
    · -- The field ends inside `t`, before a byte that is not `c`.
      have hmax : (t.take max).length = max := List.length_take_of_le (by omega)
      have hrest : (t ++ c :: u).drop max = t.drop max ++ c :: u := List.drop_append_of_le_length (by omega)
      obtain ⟨d, ds, hds⟩ := List.exists_cons_of_ne_nil (l := t.drop max) (by simpa using hlen)
      have hd : d ≠ c := by
        rintro rfl
        exact ht (List.mem_of_mem_drop (hds ▸ List.mem_cons_self))
      rw [hmax, hrest, hds]
      simp [hd, hlen]
  · rw [if_neg (fun h : c ∈ s ∧ _ => hc h.1), scanUntil]
    split
    · rfl
    split
    · rfl
    · rename_i d rest hrest
      have hd : d ≠ c := by
        rintro rfl
        exact hc (List.mem_of_mem_drop (hrest ▸ List.mem_cons_self))
      exact if_neg hd

/-- Characters of the format that stand for themselves. -/
def scanLit (t s : Str) : Option Str := if t.isPrefixOf s then some (s.drop t.length) else none

def isHexDigit (c : UInt8) : Bool := (hexValue c).isSome

/-- The value of a numeral, which is at most that of the type. -/
def hexNumeral (negative : Bool) (digits : Str) : UInt64 :=
  let n := digits.foldl (fun n c => 16 * n + (hexValue c).getD 0) 0
  if 2 ^ 64 ≤ n then .ofNat (2 ^ 64 - 1) else if negative then 0 - .ofNat n else .ofNat n

def scanDigits (negative : Bool) (s : Str) : Option UInt64 :=
  if s.takeWhile isHexDigit = [] then none else some (hexNumeral negative (s.takeWhile isHexDigit))

/-- A numeral after its sign. Libraries differ in what they make of `0x` with no digit after it: the standard has
    it fail, in others (`bare`) it is read as 0. -/
def scanPrefixed (bare negative : Bool) (s : Str) : Option UInt64 :=
  match s with
  | z :: x :: t =>
    if z = 0x30 ∧ (x = 0x78 ∨ x = 0x58) then
      (scanDigits negative t).or (if bare then some 0 else none)
    else scanDigits negative s
  | _ => scanDigits negative s

/-- The directive `%llx`. -/
def scanHex (bare : Bool) (s : Str) : Option UInt64 :=
  match s.dropWhile isSpace with
  | [] => none
  | c :: t =>
    if c = 0x2d then scanPrefixed bare true t
    else if c = 0x2b then scanPrefixed bare false t
    else scanPrefixed bare false (c :: t)

end RadarAim.Scanf

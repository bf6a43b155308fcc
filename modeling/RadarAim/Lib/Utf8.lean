import RadarAim.Lib.Bytes

/-! Text encodings. A byte string is UTF-8 when it is the encoding of a list of characters; UTF-16 is checked on the
    code units themselves. -/

namespace RadarAim.Utf8

def Ascii (s : Str) : Prop := ∀ c ∈ s, c < 0x80

/-- The bytes of a list of characters. -/
def Valid (s : Str) : Prop := ∃ chars : List Char, s = chars.flatMap String.utf8EncodeChar

instance Ascii.decidable (s : Str) : Decidable (Ascii s) := inferInstanceAs (Decidable (∀ c ∈ s, c < 0x80))

section Ascii
variable {s t : Str}

theorem Ascii.nil : Ascii [] := fun _ hc => absurd hc List.not_mem_nil

theorem Ascii.append (h : Ascii s) (h' : Ascii t) : Ascii (s ++ t) := fun c hc =>
  (List.mem_append.mp hc).elim (h c) (h' c)

theorem Ascii.sublist (h : Ascii t) (hs : s.Sublist t) : Ascii s := fun c hc => h c (hs.subset hc)

theorem Ascii.take (h : Ascii s) (n : Nat) : Ascii (s.take n) := h.sublist (List.take_sublist n s)

end Ascii

section Valid
variable {s t : Str}

theorem Valid.nil : Valid [] := ⟨[], rfl⟩

theorem Valid.append (h : Valid s) (h' : Valid t) : Valid (s ++ t) := by
  obtain ⟨chars, rfl⟩ := h
  obtain ⟨chars', rfl⟩ := h'
  exact ⟨chars ++ chars', List.flatMap_append.symm⟩

theorem Valid.flatMap {α : Type} {l : List α} {f : α → Str} (h : ∀ x ∈ l, Valid (f x)) : Valid (l.flatMap f) := by
  induction l with
  | nil => exact .nil
  | cons x l ih =>
    obtain ⟨hx, hl⟩ := List.forall_mem_cons.mp h
    exact hx.append (ih hl)

/-- A byte below 0x80 is a character of its own. -/
theorem valid_singleton {c : UInt8} (hc : c < 0x80) : Valid [c] := by
  have hlt : c.toNat < 128 := UInt8.lt_iff_toNat_lt.mp hc
  refine ⟨[Char.ofNat c.toNat], ?_⟩
  have hval : (Char.ofNat c.toNat).val.toNat = c.toNat := by
    rw [Char.ofNat, dif_pos (Or.inl (by omega))]
    rfl
  simp only [List.flatMap_cons, List.flatMap_nil, List.append_nil, String.utf8EncodeChar, hval]
  rw [if_pos (by omega), UInt8.ofNat_toNat]

theorem Ascii.valid (h : Ascii s) : Valid s := by
  induction s with
  | nil => exact .nil
  | cons c s ih =>
    obtain ⟨hc, hs⟩ := List.forall_mem_cons.mp h
    exact (valid_singleton hc).append (ih hs)

/-- The bytes of a character are one byte below 0x80, or none of them is. -/
theorem utf8EncodeChar_cases (c : Char) :
    (∃ b, String.utf8EncodeChar c = [b] ∧ b < 0x80) ∨ ∀ b ∈ String.utf8EncodeChar c, 0x80 ≤ b := by
  have hhigh : ∀ n k, 0x80 ≤ k → k ≤ 0xf0 → n + k < 0x100 → (0x80 : UInt8) ≤ UInt8.ofNat (n + k) := by
    intro n k hlo hhi hlt
    rw [UInt8.le_iff_toNat_le, UInt8.toNat_ofNat', Nat.mod_eq_of_lt hlt]
    exact Nat.le_trans hlo (Nat.le_add_left k n)
  unfold String.utf8EncodeChar
  dsimp only
  split
  · rename_i hlt
    refine Or.inl ⟨_, rfl, ?_⟩
    rw [UInt8.lt_iff_toNat_lt, UInt8.toNat_ofNat', Nat.mod_eq_of_lt (by omega)]
    exact Nat.lt_succ_of_le hlt
  · refine Or.inr ?_
    split
    · intro b hb
      rcases List.mem_pair.mp hb with rfl | rfl
      · exact hhigh _ 0xc0 (by omega) (by omega) (by omega)
      · exact hhigh _ 0x80 (by omega) (by omega) (by omega)
    split
    · simp only [List.forall_mem_cons, List.not_mem_nil, false_implies, implies_true, and_true]
      exact ⟨hhigh _ 0xe0 (by omega) (by omega) (by omega), hhigh _ 0x80 (by omega) (by omega) (by omega),
        hhigh _ 0x80 (by omega) (by omega) (by omega)⟩
    · simp only [List.forall_mem_cons, List.not_mem_nil, false_implies, implies_true, and_true]
      exact ⟨hhigh _ 0xf0 (by omega) (by omega) (by omega), hhigh _ 0x80 (by omega) (by omega) (by omega),
        hhigh _ 0x80 (by omega) (by omega) (by omega), hhigh _ 0x80 (by omega) (by omega) (by omega)⟩

/-- A change of bytes below 0x80 to text leaves text of text. -/
theorem Valid.replace (h : Valid s) {f : UInt8 → Str} (hlow : ∀ c < 0x80, Valid (f c)) (hhigh : ∀ c ≥ 0x80, f c = [c]) :
    Valid (s.flatMap f) := by
  obtain ⟨chars, rfl⟩ := h
  rw [List.flatMap_assoc]
  refine Valid.flatMap fun c _ => ?_
  rcases utf8EncodeChar_cases c with ⟨b, hb, hlt⟩ | hall
  · rw [hb, List.flatMap_cons, List.flatMap_nil, List.append_nil]
    exact hlow b hlt
  · have hsame : (String.utf8EncodeChar c).flatMap f = String.utf8EncodeChar c := by
      have hmap : (String.utf8EncodeChar c).flatMap f = (String.utf8EncodeChar c).flatMap fun b => [b] := by
        refine List.flatMap_congr fun b hb => hhigh b (hall b hb)
      rw [hmap, List.flatMap_singleton']
    rw [hsame]
    exact ⟨[c], by simp⟩

/-- Text does not end with the first byte of a longer character. -/
theorem Valid.last_lt (h : Valid s) {b : UInt8} (hb : s.getLast? = some b) : b < 0xc0 := by
  obtain ⟨chars, rfl⟩ := h
  induction chars using List.reverseRecOn with
  | nil => cases hb
  | append_singleton chars c ih =>
    have hne : String.utf8EncodeChar c ≠ [] := String.utf8EncodeChar_ne_nil
    rw [List.flatMap_append, List.flatMap_cons, List.flatMap_nil, List.append_nil,
      List.getLast?_append_of_ne_nil _ hne] at hb
    have hcont : ∀ n, UInt8.ofNat (n % 0x40 + 0x80) < 0xc0 := by
      intro n
      rw [UInt8.lt_iff_toNat_lt, UInt8.toNat_ofNat', Nat.mod_eq_of_lt (by omega)]
      show _ < 192
      omega
    unfold String.utf8EncodeChar at hb
    dsimp only at hb
    split at hb
    · rename_i hlt
      obtain rfl := Option.some.inj hb
      rw [List.getLast_singleton, UInt8.lt_iff_toNat_lt, UInt8.toNat_ofNat', Nat.mod_eq_of_lt (by omega)]
      show _ < 192
      omega
    split at hb
    · obtain rfl := Option.some.inj hb
      exact hcont _
    split at hb
    · obtain rfl := Option.some.inj hb
      exact hcont _
    · obtain rfl := Option.some.inj hb
      exact hcont _

end Valid

/-! ### UTF-16 -/

def isHigh (u : UInt16) : Bool := 0xd800 ≤ u && u < 0xdc00

def isLow (u : UInt16) : Bool := 0xdc00 ≤ u && u < 0xe000

/-- Every high surrogate is followed by a low one, and there are no others. -/
def utf16 : List UInt16 → Bool
  | [] => true
  | u :: us =>
    if isHigh u then
      match us with
      | [] => false
      | v :: us => isLow v && utf16 us
    else !isLow u && utf16 us

end RadarAim.Utf8

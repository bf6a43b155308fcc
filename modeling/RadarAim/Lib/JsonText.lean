import RadarAim.Lib.Bytes
import Mathlib.Algebra.Group.Int.Defs
import Mathlib.Tactic.IntervalCases

/-! JSON texts (RFC 8259) over bytes: a parser of the whole grammar, in which a byte from 0x80 on is an
    ordinary character of a string, and what it makes of texts that are put together from others. -/

namespace RadarAim
namespace JsonText

/-- A number is `mantissa * 10 ^ exponent`. -/
inductive Json where
  | null
  | bool (b : Bool)
  | number (mantissa exponent : Int)
  | string (s : Str)
  | array (items : List Json)
  | object (members : List (Str × Json))

def isWs (c : UInt8) : Bool := c == 0x20 || c == 0x09 || c == 0x0a || c == 0x0d

def skipWs (s : Str) : Str := s.dropWhile isWs

/-! ### Strings -/

/-- A character that stands for itself in a string. -/
def plain (c : UInt8) : Bool := 0x20 ≤ c && c != 0x22 && c != 0x5c

def escapeValue (e : UInt8) : Option UInt8 :=
  if e = 0x22 ∨ e = 0x5c ∨ e = 0x2f then some e
  else if e = 0x62 then some 0x08
  else if e = 0x66 then some 0x0c
  else if e = 0x6e then some 0x0a
  else if e = 0x72 then some 0x0d
  else if e = 0x74 then some 0x09
  else none

def hexUnit (a b c d : UInt8) : Option Nat :=
  match hexValue a, hexValue b, hexValue c, hexValue d with
  | some a, some b, some c, some d => some (((a * 16 + b) * 16 + c) * 16 + d)
  | _, _, _, _ => none

def hex4 : Str → Option (Nat × Str)
  | a :: b :: c :: d :: s => (hexUnit a b c d).map fun unit => (unit, s)
  | _ => none

def utf8 (n : Nat) : Str :=
  if n < 0x80 then [.ofNat n]
  else if n < 0x800 then [.ofNat (0xc0 + n / 0x40), .ofNat (0x80 + n % 0x40)]
  else if n < 0x10000 then
    [.ofNat (0xe0 + n / 0x1000), .ofNat (0x80 + n / 0x40 % 0x40), .ofNat (0x80 + n % 0x40)]
  else
    [.ofNat (0xf0 + n / 0x40000), .ofNat (0x80 + n / 0x1000 % 0x40), .ofNat (0x80 + n / 0x40 % 0x40),
      .ofNat (0x80 + n % 0x40)]

def lowSurrogate : Str → Option (Nat × Str)
  | e :: u :: s => if e = 0x5c ∧ u = 0x75 then (hex4 s).filter fun r => 0xdc00 ≤ r.1 && r.1 < 0xe000 else none
  | _ => none

/-- The code unit `unit` and what follows it. A surrogate without its partner keeps its own number. -/
def codeUnit (unit : Nat) (s : Str) : Str × Str :=
  if 0xd800 ≤ unit ∧ unit < 0xdc00 then
    match lowSurrogate s with
    | some r => (utf8 (0x10000 + (unit - 0xd800) * 0x400 + (r.1 - 0xdc00)), r.2)
    | none => (utf8 unit, s)
  else (utf8 unit, s)

/-- The character at the head of `s`, inside a string. -/
def char : Str → Option (Str × Str)
  | [] => none
  | c :: s =>
    if c = 0x5c then
      match s with
      | [] => none
      | e :: s => if e = 0x75 then (hex4 s).map fun r => codeUnit r.1 r.2 else (escapeValue e).map fun b => ([b], s)
    else if plain c then some ([c], s)
    else none

/-- The rest of a string whose opening quote has been read. -/
def chars : (n : Nat) → Str → Option (Str × Str)
  | 0, _ => none
  | _, [] => none
  | n + 1, c :: s =>
    if c = 0x22 then some ([], s)
    else match char (c :: s) with
      | none => none
      | some r => (chars n r.2).map fun q => (r.1 ++ q.1, q.2)

/-! ### Numbers -/

def isDigit (c : UInt8) : Bool := 0x30 ≤ c && c ≤ 0x39

def natOf (digits : Str) : Nat := digits.foldl (fun n c => 10 * n + (c.toNat - 0x30)) 0

/-- One digit or more. -/
def digits (s : Str) : Option (Str × Str) :=
  if s.takeWhile isDigit = [] then none else some (s.takeWhile isDigit, s.dropWhile isDigit)

def leadingZero : Str → Bool
  | c :: _ :: _ => c == 0x30
  | _ => false

def fraction : Str → Option (Str × Str)
  | [] => some ([], [])
  | c :: s => if c = 0x2e then digits s else some ([], c :: s)

def signOf : Str → Int × Str
  | [] => (1, [])
  | c :: s => if c = 0x2b then (1, s) else if c = 0x2d then (-1, s) else (1, c :: s)

def exponent : Str → Option (Int × Str)
  | [] => some (0, [])
  | c :: s =>
    if c = 0x65 ∨ c = 0x45 then (digits (signOf s).2).map fun r => ((signOf s).1 * natOf r.1, r.2)
    else some (0, c :: s)

def unsigned (sign : Int) (s : Str) : Option (Json × Str) :=
  match digits s with
  | none => none
  | some i =>
    if leadingZero i.1 then none
    else match fraction i.2 with
      | none => none
      | some f => (exponent f.2).map fun e => (.number (sign * natOf (i.1 ++ f.1)) (e.1 - f.1.length), e.2)

def number : Str → Option (Json × Str)
  | [] => none
  | c :: s => if c = 0x2d then unsigned (-1) s else unsigned 1 (c :: s)

/-! ### Values -/

section Items
variable {α : Type}

/-- The items up to `close`, each read by `p`, of a list that is not empty. -/
def items (close : UInt8) (p : Str → Option (α × Str)) : (n : Nat) → Str → Option (List α × Str)
  | 0, _ => none
  | n + 1, s =>
    match p s with
    | none => none
    | some r =>
      match skipWs r.2 with
      | [] => none
      | c :: s =>
        if c = 0x2c then (items close p n s).map fun q => (r.1 :: q.1, q.2)
        else if c = close then some ([r.1], s)
        else none

def itemsUntil (close : UInt8) (p : Str → Option (α × Str)) (s : Str) : Option (List α × Str) :=
  match skipWs s with
  | [] => none
  | c :: rest => if c = close then some ([], rest) else items close p s.length s

end Items

def member (p : Str → Option (Json × Str)) (s : Str) : Option ((Str × Json) × Str) :=
  match skipWs s with
  | [] => none
  | c :: s =>
    if c = 0x22 then
      match chars s.length s with
      | none => none
      | some key =>
        match skipWs key.2 with
        | [] => none
        | c :: s => if c = 0x3a then (p s).map fun r => ((key.1, r.1), r.2) else none
    else none

def literal (word : Str) (v : Json) (s : Str) : Option (Json × Str) :=
  if word.isPrefixOf s then some (v, s.drop word.length) else none

/-- The value at the head of `s`, with fewer than `depth` others around it. -/
def value : (depth : Nat) → Str → Option (Json × Str)
  | 0, _ => none
  | depth + 1, s =>
    match skipWs s with
    | [] => none
    | c :: s =>
      if c = 0x22 then (chars s.length s).map fun r => (.string r.1, r.2)
      else if c = 0x5b then (itemsUntil 0x5d (value depth) s).map fun r => (.array r.1, r.2)
      else if c = 0x7b then (itemsUntil 0x7d (member (value depth)) s).map fun r => (.object r.1, r.2)
      else if c = 0x74 then literal (lit "true") (.bool true) (c :: s)
      else if c = 0x66 then literal (lit "false") (.bool false) (c :: s)
      else if c = 0x6e then literal (lit "null") .null (c :: s)
      else number (c :: s)

/-- The value of a whole text. -/
def parse (s : Str) : Option Json :=
  match value s.length s with
  | none => none
  | some r => if skipWs r.2 = [] then some r.1 else none

example : parse (lit "[1, -2.5e3 ,\x7b\"a\\u00e9\\n\" : []\x7d]") =
    some (.array [.number 1 0, .number (-25) 2, .object [([0x61, 0xc3, 0xa9, 0x0a], .array [])]]) := rfl

/-! ### White space -/

theorem blank {w : Str} (h : w.all isWs = true) : ∀ c ∈ w, isWs c = true := List.all_eq_true.mp h

theorem skipWs_append {ws : Str} (h : ∀ c ∈ ws, isWs c = true) (s : Str) : skipWs (ws ++ s) = skipWs s :=
  List.dropWhile_append_of_pos h

theorem skipWs_cons {c : UInt8} (h : isWs c = false) (s : Str) : skipWs (c :: s) = c :: s :=
  List.dropWhile_cons_of_neg (by simp [h])

theorem skipWs_ws_cons {ws : Str} (hws : ∀ c ∈ ws, isWs c = true) {c : UInt8} (hc : isWs c = false) (s : Str) :
    skipWs (ws ++ c :: s) = c :: s := (skipWs_append hws _).trans (skipWs_cons hc s)

/-! ### Characters that are read back -/

theorem char_plain {c : UInt8} (h : plain c = true) (s : Str) : char (c :: s) = some ([c], s) := by
  have hc : c ≠ 0x5c := by
    rintro rfl
    cases h
  simp [char, hc, h]

theorem char_escape {e b : UInt8} (h : escapeValue e = some b) (s : Str) :
    char (0x5c :: e :: s) = some ([b], s) := by
  have he : e ≠ 0x75 := by
    rintro rfl
    cases h
  simp [char, he, h]

theorem char_unicode {b d₁ d₂ d₃ d₄ : UInt8} (h : hexUnit d₁ d₂ d₃ d₄ = some b.toNat) (hb : b < 0x80) (s : Str) :
    char (0x5c :: 0x75 :: d₁ :: d₂ :: d₃ :: d₄ :: s) = some ([b], s) := by
  have hlow : b.toNat < 0x80 := UInt8.lt_iff_toNat_lt.mp hb
  have hsurrogate : ¬(0xd800 ≤ b.toNat ∧ b.toNat < 0xdc00) := fun h => by omega
  simp [char, hex4, h, codeUnit, hsurrogate, utf8, hlow]

theorem char_quote (s : Str) : char (0x22 :: s) = none := rfl

theorem char_nil : char [] = none := rfl

/-- A string whose characters are written by `E`, each so that it is read back. -/
theorem chars_flatMap {E : UInt8 → Str} {s : Str} (h : ∀ c ∈ s, ∀ rest, char (E c ++ rest) = some ([c], rest))
    (rest : Str) {n : Nat} (hn : s.length < n) : chars n (s.flatMap E ++ 0x22 :: rest) = some (s, rest) := by
  induction s generalizing n with
  | nil =>
    cases n with
    | zero => cases hn
    | succ n => rfl
  | cons c s ih =>
    cases n with
    | zero => cases hn
    | succ n =>
      have hchar := h c List.mem_cons_self (s.flatMap E ++ 0x22 :: rest)
      have hrest := ih (fun d hd => h d (List.mem_cons_of_mem c hd)) (Nat.lt_of_succ_lt_succ hn)
      rw [List.flatMap_cons, List.append_assoc]
      -- The first byte of the character is not the closing quote, since a character is read from it.
      cases hE : E c ++ (s.flatMap E ++ 0x22 :: rest) with
      | nil =>
        rw [hE, char_nil] at hchar
        cases hchar
      | cons b t =>
        rw [hE] at hchar
        have hb : b ≠ 0x22 := by
          rintro rfl
          rw [char_quote] at hchar
          cases hchar
        rw [chars, if_neg hb, hchar]
        simp [hrest]

theorem chars_plain {s : Str} (h : ∀ c ∈ s, plain c = true) (rest : Str) {n : Nat} (hn : s.length < n) :
    chars n (s ++ 0x22 :: rest) = some (s, rest) := by
  have hchars := chars_flatMap (E := fun c => [c]) (fun c hc rest => char_plain (h c hc) rest) rest hn
  rwa [List.flatMap_singleton'] at hchars

theorem length_le_flatMap {E : UInt8 → Str} {s : Str} (h : ∀ c ∈ s, E c ≠ []) :
    s.length ≤ (s.flatMap E).length := by
  induction s with
  | nil => exact Nat.le_refl 0
  | cons c s ih =>
    have hc : 0 < (E c).length := List.length_pos_iff.mpr (h c List.mem_cons_self)
    have hs := ih fun d hd => h d (List.mem_cons_of_mem c hd)
    rw [List.flatMap_cons, List.length_append, List.length_cons]
    omega

/-! ### Numbers that are read back -/

def inNumber (c : UInt8) : Bool := isDigit c || c == 0x2e || c == 0x65 || c == 0x45

/-- A number ends where `s` starts. -/
def Stops : Str → Prop
  | [] => True
  | c :: _ => inNumber c = false

theorem inNumber_of_isWs {c : UInt8} (h : isWs c = true) : inNumber c = false := by
  simp only [isWs, Bool.or_eq_true, beq_iff_eq] at h
  obtain ((rfl | rfl) | rfl) | rfl := h <;> rfl

theorem Stops.ws {ws : Str} (hws : ∀ c ∈ ws, isWs c = true) : Stops ws := by
  cases ws with
  | nil => trivial
  | cons w ws => exact inNumber_of_isWs (hws w List.mem_cons_self)

theorem Stops.ws_cons {ws : Str} (hws : ∀ c ∈ ws, isWs c = true) {c : UInt8} (hc : inNumber c = false) (s : Str) :
    Stops (ws ++ c :: s) := by
  cases ws with
  | nil => exact hc
  | cons w ws => exact inNumber_of_isWs (hws w List.mem_cons_self)

section Stops
variable {s ds : Str}

theorem Stops.isDigit {c : UInt8} (h : Stops (c :: s)) : isDigit c = false := by
  simp only [Stops, inNumber, Bool.or_eq_false_iff] at h
  exact h.1.1.1

theorem digits_append (hnonempty : ds ≠ []) (hdigits : ∀ c ∈ ds, isDigit c = true) (h : Stops s) :
    digits (ds ++ s) = some (ds, s) := by
  have hspan : s.takeWhile JsonText.isDigit = [] ∧ s.dropWhile JsonText.isDigit = s := by
    cases s with
    | nil => exact ⟨rfl, rfl⟩
    | cons c s => simp [h.isDigit]
  rw [digits, List.takeWhile_append_of_pos hdigits, List.dropWhile_append_of_pos hdigits, hspan.1, hspan.2,
    List.append_nil, if_neg hnonempty]

theorem fraction_stops (h : Stops s) : fraction s = some ([], s) := by
  cases s with
  | nil => rfl
  | cons c s =>
    have hc : c ≠ 0x2e := by
      rintro rfl
      cases h
    simp [fraction, hc]

theorem exponent_stops (h : Stops s) : exponent s = some (0, s) := by
  cases s with
  | nil => rfl
  | cons c s =>
    have hc : ¬(c = 0x65 ∨ c = 0x45) := by
      rintro (rfl | rfl) <;> cases h
    simp [exponent, hc]

theorem unsigned_digits (sign : Int) (hnonempty : ds ≠ []) (hdigits : ∀ c ∈ ds, isDigit c = true)
    (hzero : leadingZero ds = false) (h : Stops s) :
    unsigned sign (ds ++ s) = some (.number (sign * natOf ds) 0, s) := by
  simp [unsigned, digits_append hnonempty hdigits h, hzero, fraction_stops h, exponent_stops h]

end Stops

theorem digitChar_byte {d : Nat} (h : d < 10) : UInt8.ofNat (Nat.digitChar d).toNat = .ofNat (0x30 + d) := by
  interval_cases d <;> rfl

theorem ne_of_isDigit {c d : UInt8} (h : isDigit c = true) (hd : isDigit d = false) : c ≠ d := by
  rintro rfl
  cases h.symm.trans hd

theorem isWs_of_isDigit {c : UInt8} (h : isDigit c = true) : isWs c = false := by
  simp only [isWs, Bool.or_eq_false_iff, beq_eq_false_iff_ne]
  exact ⟨⟨⟨ne_of_isDigit h rfl, ne_of_isDigit h rfl⟩, ne_of_isDigit h rfl⟩, ne_of_isDigit h rfl⟩

/-- The last digit comes off the end. -/
theorem decimal_eq (n : Nat) :
    decimal n = (if n < 10 then [] else decimal (n / 10)) ++ [.ofNat (0x30 + n % 10)] := by
  simp only [decimal, lit, Nat.toString_eq_ofList_toDigits, String.toList_ofList]
  rw [Nat.toDigits_eq_if (by omega)]
  split
  · rename_i hlt
    simp [digitChar_byte hlt, Nat.mod_eq_of_lt hlt]
  · simp [digitChar_byte (Nat.mod_lt n (Nat.succ_pos 9))]

structure Numeral (n : Nat) (ds : Str) : Prop where
  nonempty : ds ≠ []
  digits : ∀ c ∈ ds, isDigit c = true
  value : natOf ds = n
  zero : leadingZero ds = false
  head : 0 < n → ds.head? ≠ some 0x30

theorem digit_facts : ∀ d < 10, isDigit (.ofNat (0x30 + d)) = true ∧ (UInt8.ofNat (0x30 + d)).toNat - 0x30 = d ∧
    (0 < d → UInt8.ofNat (0x30 + d) ≠ 0x30) := by decide

theorem Numeral.digit {d : Nat} (h : d < 10) : Numeral d [.ofNat (0x30 + d)] := by
  obtain ⟨hdigit, hvalue, hzero⟩ := digit_facts d h
  refine ⟨List.cons_ne_nil _ _, by simpa using hdigit, ?_, rfl, fun hpos => by simpa using hzero hpos⟩
  rw [natOf, List.foldl_cons, List.foldl_nil, hvalue, Nat.mul_zero, Nat.zero_add]

theorem Numeral.append {n d : Nat} {ds : Str} (hn : Numeral n ds) (hpos : 0 < n) (hd : d < 10) :
    Numeral (10 * n + d) (ds ++ [.ofNat (0x30 + d)]) := by
  obtain ⟨hdigit, hvalue, -⟩ := digit_facts d hd
  obtain ⟨hnonempty, hdigits, hval, -, hhead⟩ := hn
  obtain ⟨c, cs, rfl⟩ := List.exists_cons_of_ne_nil hnonempty
  have hc : c ≠ 0x30 := fun hc => hhead hpos (congrArg some hc)
  refine ⟨by simp, fun b hb => ?_, ?_, ?_, fun _ => by simpa using hc⟩
  · rw [List.mem_append, List.mem_singleton] at hb
    obtain hb | rfl := hb
    · exact hdigits b hb
    · exact hdigit
  · rw [natOf, List.foldl_append, ← natOf, hval, List.foldl_cons, List.foldl_nil, hvalue]
  · cases cs <;> simpa [leadingZero] using hc

theorem numeral_decimal (n : Nat) : Numeral n (decimal n) := by
  induction n using Nat.strong_induction_on with
  | _ n ih =>
    rw [decimal_eq]
    split
    · rename_i hlt
      rw [Nat.mod_eq_of_lt hlt]
      exact .digit hlt
    · have hpos : 0 < n / 10 := by omega
      have hdiv : 10 * (n / 10) + n % 10 = n := Nat.div_add_mod n 10
      have happend := (ih (n / 10) (by omega)).append hpos (Nat.mod_lt n (Nat.succ_pos 9))
      rwa [hdiv] at happend

/-! ### Texts put together -/

section Reads
variable {α : Type} {p : Str → Option (α × Str)}

/-- `p` reads `v` from `t` before anything that does not continue a number. -/
def Reads (p : Str → Option (α × Str)) (t : Str) (v : α) : Prop := ∀ s, Stops s → p (t ++ s) = some (v, s)

def Skips (p : Str → Option (α × Str)) : Prop := ∀ ws s, (∀ c ∈ ws, isWs c = true) → p (ws ++ s) = p s

theorem Reads.ws {w t : Str} {v : α} (h : Reads p t v) (hp : Skips p) (hws : ∀ c ∈ w, isWs c = true) :
    Reads p (w ++ t) v := fun s hs => by rw [List.append_assoc, hp w _ hws, h s hs]

theorem Skips.skipWs (hp : Skips p) (s : Str) : p (skipWs s) = p s := by
  have hsplit : s.takeWhile isWs ++ JsonText.skipWs s = s := List.takeWhile_append_dropWhile
  have hws : ∀ c ∈ s.takeWhile isWs, isWs c = true := fun c hc => List.mem_takeWhile_imp hc
  rw [← hp _ _ hws, hsplit]

theorem value_skips (depth : Nat) : Skips (value depth) := by
  intro ws s hws
  cases depth with
  | zero => rfl
  | succ depth => rw [value, value, skipWs_append hws]

theorem member_skips (p : Str → Option (Json × Str)) : Skips (member p) := by
  intro ws s hws
  rw [member, member, skipWs_append hws]

/-- A parser for the items of a list that ends with `close`. -/
structure ItemParser (close : UInt8) (p : Str → Option (α × Str)) : Prop where
  skips : Skips p
  nil : p [] = none
  closed : ∀ s, p (close :: s) = none
  bracket : close = 0x5d ∨ close = 0x7d

theorem value_itemParser (depth : Nat) : ItemParser 0x5d (value depth) := by
  refine ⟨value_skips depth, ?_, fun s => ?_, Or.inl rfl⟩ <;> cases depth <;> rfl

theorem member_itemParser (p : Str → Option (Json × Str)) : ItemParser 0x7d (member p) :=
  ⟨member_skips p, rfl, fun _ => rfl, Or.inr rfl⟩

/-- `t` has the texts of `vs`, with commas between them and then `close`. -/
inductive Listed (close : UInt8) (p : Str → Option (α × Str)) : List α → Str → Prop where
  | last {v : α} {t w : Str} (hv : Reads p t v) (hws : ∀ c ∈ w, isWs c = true) :
    Listed close p [v] (t ++ (w ++ [close]))
  | more {v : α} {t w : Str} {vs : List α} {ts : Str} (hv : Reads p t v) (hws : ∀ c ∈ w, isWs c = true)
    (hvs : Listed close p vs ts) : Listed close p (v :: vs) (t ++ (w ++ 0x2c :: ts))

section Listed
variable {close : UInt8} {vs : List α} {t : Str}

theorem Listed.ws {w : Str} (h : Listed close p vs t) (hp : Skips p) (hws : ∀ c ∈ w, isWs c = true) :
    Listed close p vs (w ++ t) := by
  cases h with
  | last hv hws' =>
    rw [← List.append_assoc]
    exact .last (hv.ws hp hws) hws'
  | more hv hws' hvs =>
    rw [← List.append_assoc]
    exact .more (hv.ws hp hws) hws' hvs

theorem Listed.length_le (h : Listed close p vs t) : vs.length ≤ t.length := by
  induction h with
  | last =>
    simp only [List.length_cons, List.length_append]
    omega
  | more _ _ _ ih =>
    simp only [List.length_cons, List.length_append]
    omega

theorem Listed.items (h : Listed close p vs t) (hp : ItemParser close p) (s : Str) {n : Nat} (hn : vs.length ≤ n) :
    items close p n (t ++ s) = some (vs, s) := by
  induction h generalizing n with
  | last hv hws =>
    cases n with
    | zero => cases hn
    | succ n =>
      have hclose : isWs close = false ∧ inNumber close = false ∧ close ≠ 0x2c := by
        obtain rfl | rfl := hp.bracket <;> decide
      have hitem := hv _ (Stops.ws_cons hws hclose.2.1 s)
      simp [JsonText.items, List.append_assoc, hitem, skipWs_ws_cons hws hclose.1, hclose.2.2]
  | @more v t ws vs ts hv hws _ ih =>
    cases n with
    | zero => cases hn
    | succ n =>
      have hitem := hv _ (Stops.ws_cons (c := 0x2c) hws rfl (ts ++ s))
      have hrest := ih (Nat.le_of_succ_le_succ hn)
      simp [JsonText.items, List.append_assoc, hitem, skipWs_ws_cons (c := 0x2c) hws rfl, hrest]

/-- The list does not start with `close`. -/
theorem Listed.itemsUntil (h : Listed close p vs t) (hp : ItemParser close p) (s : Str) :
    itemsUntil close p (t ++ s) = some (vs, s) := by
  have hle : vs.length ≤ (t ++ s).length := h.length_le.trans (by simp)
  have hfirst : p (t ++ s) ≠ none := by
    intro hnone
    have hitems := h.items hp s hle
    cases hlen : (t ++ s).length with
    | zero => rw [hlen] at hitems; cases hitems
    | succ n => rw [hlen, JsonText.items, hnone] at hitems; cases hitems
  rw [← hp.skips.skipWs] at hfirst
  unfold JsonText.itemsUntil
  split
  · rename_i hnil
    rw [hnil] at hfirst
    exact absurd hp.nil hfirst
  · rename_i c rest hcons
    rw [hcons] at hfirst
    have hc : c ≠ close := by
      rintro rfl
      exact hfirst (hp.closed rest)
    rw [if_neg hc, h.items hp s hle]

/-- A list after its opening bracket. -/
inductive Enclosed (close : UInt8) (p : Str → Option (α × Str)) : List α → Str → Prop where
  | empty {ws : Str} (hws : ∀ c ∈ ws, isWs c = true) : Enclosed close p [] (ws ++ [close])
  | listed {vs : List α} {t : Str} (h : Listed close p vs t) : Enclosed close p vs t

theorem Enclosed.itemsUntil (h : Enclosed close p vs t) (hp : ItemParser close p) (s : Str) :
    itemsUntil close p (t ++ s) = some (vs, s) := by
  cases h with
  | empty hws =>
    have hclose : isWs close = false := by obtain rfl | rfl := hp.bracket <;> rfl
    simp [JsonText.itemsUntil, skipWs_ws_cons hws hclose]
  | listed h => exact h.itemsUntil hp s

end Listed

theorem reads_array {depth : Nat} {vs : List Json} {t : Str} (h : Enclosed 0x5d (value depth) vs t) :
    Reads (value (depth + 1)) (0x5b :: t) (.array vs) := fun s _ => by
  simp [value, skipWs_cons (c := 0x5b) rfl, h.itemsUntil (value_itemParser depth)]

theorem reads_object {depth : Nat} {vs : List (Str × Json)} {t : Str} (h : Enclosed 0x7d (member (value depth)) vs t) :
    Reads (value (depth + 1)) (0x7b :: t) (.object vs) := fun s _ => by
  simp [value, skipWs_cons (c := 0x7b) rfl, h.itemsUntil (member_itemParser _)]

theorem reads_string {E : UInt8 → Str} {s : Str} (h : ∀ c ∈ s, ∀ rest, char (E c ++ rest) = some ([c], rest))
    (depth : Nat) : Reads (value (depth + 1)) (0x22 :: (s.flatMap E ++ [0x22])) (.string s) := fun rest _ => by
  have hlen : s.length ≤ (s.flatMap E).length := length_le_flatMap fun c hc hE => by
    have hchar := h c hc []
    rw [hE] at hchar
    cases hchar
  have hlong : s.length < (s.flatMap E ++ 0x22 :: rest).length := by
    rw [List.length_append, List.length_cons]
    omega
  have hchars := chars_flatMap h rest hlong
  rw [List.cons_append, List.append_assoc, value, skipWs_cons rfl]
  simp only [if_true, List.singleton_append, hchars, Option.map_some]

theorem reads_plain {s : Str} (h : ∀ c ∈ s, plain c = true) (depth : Nat) :
    Reads (value (depth + 1)) (0x22 :: (s ++ [0x22])) (.string s) := by
  have hstring := reads_string (E := fun c => [c]) (fun c hc rest => char_plain (h c hc) rest) depth
  rwa [List.flatMap_singleton'] at hstring

theorem reads_decimal (n depth : Nat) : Reads (value (depth + 1)) (decimal n) (.number n 0) := fun s hs => by
  obtain ⟨hnonempty, hdigits, hvalue, hzero, -⟩ := numeral_decimal n
  obtain ⟨c, ds, hds⟩ := List.exists_cons_of_ne_nil hnonempty
  rw [hds] at hnonempty hdigits hvalue hzero ⊢
  have hunsigned := unsigned_digits 1 hnonempty hdigits hzero hs
  rw [hvalue, Int.one_mul, List.cons_append] at hunsigned
  have hc := hdigits c List.mem_cons_self
  have hne : ∀ d, isDigit d = false → c ≠ d := fun d hd => ne_of_isDigit hc hd
  rw [List.cons_append, value, skipWs_cons (isWs_of_isDigit hc)]
  simp [hne 0x22 rfl, hne 0x5b rfl, hne 0x7b rfl, hne 0x74 rfl, hne 0x66 rfl, hne 0x6e rfl, number, hne 0x2d rfl,
    hunsigned]

theorem reads_negative (n depth : Nat) :
    Reads (value (depth + 1)) (0x2d :: decimal n) (.number (-n) 0) := fun s hs => by
  obtain ⟨hnonempty, hdigits, hvalue, hzero, -⟩ := numeral_decimal n
  have hunsigned := unsigned_digits (-1) hnonempty hdigits hzero hs
  rw [hvalue, Int.neg_one_mul] at hunsigned
  rw [List.cons_append, value, skipWs_cons rfl]
  simp [number, hunsigned]

end Reads

/-! ### Members -/

/-- A member of an object, with the text of its value. -/
structure Field where
  key : Str
  text : Str
  value : Json

structure Field.Good (depth : Nat) (f : Field) : Prop where
  key : ∀ c ∈ f.key, plain c = true
  reads : Reads (JsonText.value depth) f.text f.value

def Field.write (lead : Str) (f : Field) : Str := lead ++ 0x22 :: (f.key ++ 0x22 :: 0x3a :: f.text)

def Field.member (f : Field) : Str × Json := (f.key, f.value)

theorem Field.Good.member {depth : Nat} {f : Field} (h : f.Good depth) {lead : Str}
    (hlead : ∀ c ∈ lead, isWs c = true) :
    Reads (JsonText.member (JsonText.value depth)) (f.write lead) f.member := by
  refine Reads.ws (fun s hs => ?_) (member_skips _) hlead
  have hlong : f.key.length < (f.key ++ 0x22 :: 0x3a :: (f.text ++ s)).length := by
    rw [List.length_append, List.length_cons]
    omega
  simp only [List.cons_append, List.append_assoc, JsonText.member, skipWs_cons (c := 0x22) rfl, if_true,
    chars_plain h.key _ hlong, skipWs_cons (c := 0x3a) rfl, h.reads s hs, Option.map_some]
  rfl

/-- The fields, each after `lead`, and then `tail`. -/
def fieldsText (lead tail : Str) : List Field → Str
  | [] => tail ++ [0x7d]
  | [f] => f.write lead ++ (tail ++ [0x7d])
  | f :: fs => f.write lead ++ 0x2c :: fieldsText lead tail fs

theorem reads_fields {depth : Nat} {lead tail : Str} (hlead : ∀ c ∈ lead, isWs c = true)
    (htail : ∀ c ∈ tail, isWs c = true) {fs : List Field} (h : ∀ f ∈ fs, f.Good depth) :
    Reads (value (depth + 1)) (0x7b :: fieldsText lead tail fs) (.object (fs.map Field.member)) := by
  refine reads_object ?_
  cases fs with
  | nil => exact .empty htail
  | cons f fs =>
    refine .listed ?_
    induction fs generalizing f with
    | nil => exact .last ((h f List.mem_cons_self).member hlead) htail
    | cons g fs ih =>
      have hrest := ih g fun k hk => h k (List.mem_cons_of_mem f hk)
      exact .more (w := []) ((h f List.mem_cons_self).member hlead) (List.forall_mem_nil _) hrest

theorem parse_reads {t ws : Str} {v : Json} {d : Nat} (h : ∀ n, Reads (value (n + d)) t v)
    (hdepth : d ≤ t.length) (hws : ∀ c ∈ ws, isWs c = true) : parse (t ++ ws) = some v := by
  have hlong : d ≤ (t ++ ws).length := by
    rw [List.length_append]
    omega
  obtain ⟨n, hn⟩ := Nat.exists_eq_add_of_le' hlong
  have hskip : skipWs ws = [] := List.dropWhile_eq_nil_iff.mpr hws
  rw [parse, hn, h n ws (Stops.ws hws)]
  exact if_pos hskip

end JsonText
end RadarAim

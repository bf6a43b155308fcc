import RadarAim.Lib.Prog
import RadarAim.Lib.Bytes

/-! Reading the memory of the game process (`remote_memory.c`). A read is a call of the kernel; what the
    daemon does with it is a program over such calls, so that the same code can be run on a memory that
    never changes and on a process that dies half-way. -/

namespace RadarAim

/-- What `mach_vm_read_overwrite` returns with `KERN_SUCCESS`. -/
structure VmReply where
  outsize : Nat
  data : Buf

inductive HostCall where
  | mach_vm_read_overwrite (address : UInt64) (size : Nat)

/-- The calls that reading makes. The reply is `none` for every other `kern_return_t`. -/
def Host : Sig where
  Call := HostCall
  Reply
    | .mach_vm_read_overwrite .. => Option VmReply

abbrev Read := Prog Host

def machVmReadOverwrite (address : UInt64) (size : Nat) : Read (Option VmReply) :=
  @Prog.ask Host (.mach_vm_read_overwrite address size)

def rmRead (addr : UInt64) (len : Nat) : Read (Option Buf) :=
  if len = 0 then pure none
  else do
    match ← machVmReadOverwrite addr len with
    | none => pure none
    | some r => pure (if r.outsize = len then some r.data else none)

def rmReadPtr (addr : UInt64) : Read UInt64 := do
  match ← rmRead addr 8 with
  | none => pure 0
  | some b => pure (le64 b 0)

def rmReadI32 (addr : UInt64) : Read (Int × Bool) := do
  match ← rmRead addr 4 with
  | none => pure (0, false)
  | some b => pure (leI32 b 0, true)

def rmReadU16 (addr : UInt64) : Read (UInt16 × Bool) := do
  match ← rmRead addr 2 with
  | none => pure (0, false)
  | some b => pure (le16 b 0, true)

/-- The loop of `rm_read_string` with `buf` read so far. Every round but the last adds a byte, so that
    `fuel = max` is never used up. -/
def rmReadStringLoop (addr : UInt64) (max : Nat) : Nat → Str → Read (Bool × Str)
  | 0, buf => pure (true, buf)
  | fuel + 1, buf =>
    if buf.length < max - 1 then do
      let toRead := min 64 (max - 1 - buf.length)
      match ← rmRead (addr + .ofNat buf.length) toRead with
      | none => pure (buf.length != 0, buf)
      | some tmp =>
        let s := cstr (tmp.bytes toRead)
        if s.length < toRead then pure (true, buf ++ s)
        else rmReadStringLoop addr max fuel (buf ++ s)
    else pure (true, buf)

def rmReadString (addr : UInt64) (max : Nat) : Read (Bool × Str) :=
  if max = 0 then pure (false, []) else rmReadStringLoop addr max max []

def rmValidatePtr (ptr : UInt64) : Bool :=
  if ptr = 0 then false
  else if ptr ≤ 0x1000 then false
  else if ptr ≥ 0x0001000000000000 then false
  else true

@[simp] theorem rmValidatePtr_zero : rmValidatePtr 0 = false := rfl

/-! ### A memory that does not change -/

/-- The readable bytes of a process. -/
abbrev Memory := UInt64 → Option UInt8

namespace Memory

/-- The `n` bytes from `a` on, when all of them are readable. -/
def read (m : Memory) (a : UInt64) (n : Nat) : Option Buf :=
  if a.toNat + n ≤ 2 ^ 64 ∧ ∀ i < n, (m (a + .ofNat i)).isSome then some fun i => (m (a + .ofNat i)).getD 0
  else none

/-- The kernel reading the memory of a process that does not run. -/
def host (m : Memory) : Handler Host
  | .mach_vm_read_overwrite a n => (m.read a n).map fun b => ⟨n, b⟩

/-- A successful `rm_read`, as a value. -/
def bytes (m : Memory) (a : UInt64) (n : Nat) : Option Buf := if n = 0 then none else m.read a n

def ptr (m : Memory) (a : UInt64) : UInt64 := (m.read a 8).elim 0 (le64 · 0)
def i32 (m : Memory) (a : UInt64) : Int × Bool := (m.read a 4).elim (0, false) fun b => (leI32 b 0, true)
def u16 (m : Memory) (a : UInt64) : UInt16 × Bool := (m.read a 2).elim (0, false) fun b => (le16 b 0, true)

variable (m : Memory) (a : UInt64) (n : Nat)

@[simp] theorem run_machVmReadOverwrite :
    (machVmReadOverwrite a n).run m.host = (m.read a n).map (VmReply.mk n) := rfl

@[simp] theorem run_rmRead : (rmRead a n).run m.host = m.bytes a n := by
  unfold rmRead bytes
  split
  · rfl
  · rw [Prog.run_bind, run_machVmReadOverwrite]
    cases m.read a n <;> simp

@[simp] theorem run_rmReadPtr : (rmReadPtr a).run m.host = m.ptr a := by
  unfold rmReadPtr ptr
  rw [Prog.run_bind, run_rmRead]
  cases h : m.read a 8 <;> simp [bytes, h]

@[simp] theorem run_rmReadI32 : (rmReadI32 a).run m.host = m.i32 a := by
  unfold rmReadI32 i32
  rw [Prog.run_bind, run_rmRead]
  cases h : m.read a 4 <;> simp [bytes, h]

@[simp] theorem run_rmReadU16 : (rmReadU16 a).run m.host = m.u16 a := by
  unfold rmReadU16 u16
  rw [Prog.run_bind, run_rmRead]
  cases h : m.read a 2 <;> simp [bytes, h]

theorem read_eq_some {b : Buf} :
    m.read a n = some b ↔ (a.toNat + n ≤ 2 ^ 64 ∧ ∀ i < n, (m (a + .ofNat i)).isSome) ∧
      (fun i => (m (a + .ofNat i)).getD 0) = b := by
  unfold read
  split
  · rename_i h
    simp only [Option.some.injEq, and_iff_right h]
  · rename_i h
    simp only [reduceCtorEq, false_iff]
    exact fun hr => h hr.1

theorem read_part {b : Buf} {i k : Nat} (h : m.read a n = some b) (hk : 0 < k) (hi : i + k ≤ n) :
    m.read (a + .ofNat i) k = some fun j => b (i + j) := by
  obtain ⟨⟨hle, hall⟩, rfl⟩ := (m.read_eq_some a n).mp h
  have ha : a.toNat < 2 ^ 64 := a.toNat_lt
  have shift : ∀ j, a + .ofNat i + .ofNat j = a + .ofNat (i + j) := fun j => by
    rw [UInt64.ofNat_add, UInt64.add_assoc]
  have base : (a + .ofNat i).toNat = a.toNat + i := toNat_add_ofNat (by omega)
  refine (m.read_eq_some _ k).mpr ⟨⟨by omega, fun j hj => ?_⟩, funext fun j => ?_⟩
  · rw [shift]
    exact hall (i + j) (by omega)
  · show (m _).getD 0 = (m _).getD 0
    rw [shift]

/-- Reading bytes that are all there. -/
theorem read_of_bytes {f : Nat → UInt8} (hfit : a.toNat + n ≤ 2 ^ 64) (h : ∀ i < n, m (a + .ofNat i) = some (f i)) :
    ∃ b, m.read a n = some b ∧ ∀ i < n, b i = f i := by
  refine ⟨_, (m.read_eq_some a n).mpr ⟨⟨hfit, fun i hi => ?_⟩, rfl⟩, fun i hi => ?_⟩
  · rw [h i hi]
    rfl
  · rw [h i hi, Option.getD_some]

theorem read_of_missing {i : Nat} (hi : i < n) (h : m (a + .ofNat i) = none) : m.read a n = none := by
  refine if_neg fun hall => ?_
  have hsome := hall.2 i hi
  rw [h] at hsome
  cases hsome

theorem ptr_of_missing {i : Nat} (hi : i < 8) (h : m (a + .ofNat i) = none) : m.ptr a = 0 := by
  rw [ptr, m.read_of_missing a 8 hi h]
  rfl

theorem run_rmReadStringLoop {b : Buf} {max : Nat} (h : m.read a (max - 1) = some b) (fuel : Nat) {k : Nat}
    (hk : k ≤ max - 1) (hfuel : max - 1 < fuel + k) (hnul : ∀ c ∈ b.bytes k, c ≠ 0) :
    (rmReadStringLoop a max fuel (b.bytes k)).run m.host = (true, cstr (b.bytes (max - 1))) := by
  induction fuel generalizing k with
  | zero => omega
  | succ fuel ih =>
    rw [rmReadStringLoop, b.length_bytes]
    by_cases hlt : k < max - 1
    · rw [if_pos hlt]
      generalize hn : min 64 (max - 1 - k) = n
      have hread : m.bytes (a + .ofNat k) n = some fun j => b (k + j) := by
        rw [bytes, if_neg (by omega), m.read_part a _ h (by omega) (by omega)]
      -- the bytes up to the end of this round, and those after it
      obtain ⟨rest, hrest⟩ := Nat.exists_eq_add_of_le (show k + n ≤ max - 1 by omega)
      have hall : b.bytes (max - 1) = b.bytes (k + n) ++ Buf.bytes (fun j => b (k + n + j)) rest := by
        rw [hrest, Buf.bytes_add]
      have hround : cstr (b.bytes (k + n)) = b.bytes k ++ cstr (Buf.bytes (fun j => b (k + j)) n) := by
        rw [Buf.bytes_add, cstr_append_of_nonzero hnul]
      simp only [Prog.run_bind, run_rmRead, hread]
      by_cases hend : (cstr (Buf.bytes (fun j => b (k + j)) n)).length < n
      · have hshort : (cstr (b.bytes (k + n))).length < (b.bytes (k + n)).length := by
          rw [hround, List.length_append, b.length_bytes, b.length_bytes]
          omega
        rw [if_pos hend, Prog.run_pure, hall, cstr_append_of_short hshort, hround]
      · have hfull : cstr (Buf.bytes (fun j => b (k + j)) n) = Buf.bytes (fun j => b (k + j)) n :=
          cstr_of_full (by rw [Buf.length_bytes]; omega)
        rw [if_neg hend, hfull, ← Buf.bytes_add]
        refine ih (by omega) (by omega) fun c hc => ?_
        rw [hfull, ← Buf.bytes_add] at hround
        exact nonzero_of_mem_cstr (hround ▸ hc)
    · have hend : k = max - 1 := by omega
      subst hend
      rw [if_neg hlt, Prog.run_pure, cstr_of_nonzero hnul]

/-- From readable bytes, `rm_read_string` reads the string that starts there. -/
theorem run_rmReadString {b : Buf} {max : Nat} (h : m.read a (max - 1) = some b) (hmax : max ≠ 0) :
    (rmReadString a max).run m.host = (true, cstr (b.bytes (max - 1))) := by
  rw [rmReadString, if_neg hmax]
  exact m.run_rmReadStringLoop a h max (Nat.zero_le _) (by omega) (by simp [Buf.bytes])

def dying (m : Memory) (n : Nat) : Nat → Handler Host := fun k =>
  if k < n then m.host
  else fun
    | .mach_vm_read_overwrite .. => none

/-- The memory in which exactly the bytes of `segments` are readable. -/
def ofSegments (segments : List (UInt64 × List UInt8)) : Memory := fun a =>
  segments.findSome? fun s => s.2[(a - s.1).toNat]?

/-- `ofSegments` in the form to evaluate: no segment is walked for an address outside it. -/
def ofBounds (segments : List (UInt64 × List UInt8)) : Memory := fun a =>
  segments.findSome? fun s => bif (a - s.1).toNat.blt s.2.length then s.2[(a - s.1).toNat]? else none

theorem ofSegments_eq : ofSegments = ofBounds := by
  funext segments a
  refine congrArg (List.findSome? · segments) (funext fun s => ?_)
  cases h : (a - s.1).toNat.blt s.2.length with
  | true => rfl
  | false =>
    refine List.getElem?_eq_none (Nat.not_lt.mp fun hlt => ?_)
    rw [Nat.blt_eq.mpr hlt] at h
    cases h

theorem ofSegments_none {segments : List (UInt64 × List UInt8)} {a : UInt64}
    (h : ∀ s ∈ segments, s.2.length ≤ (a - s.1).toNat) : ofSegments segments a = none :=
  List.findSome?_eq_none_iff.mpr fun s hs => List.getElem?_eq_none (h s hs)

end Memory

theorem eval_rmRead_snd (h : Nat → Handler Host) (k : Nat) (a : UInt64) {n : Nat} (hn : n ≠ 0) :
    ((rmRead a n).eval h k).2 = k + 1 := by
  rw [rmRead, if_neg hn, Prog.eval_bind]
  show (Prog.eval h (k + 1) _).2 = k + 1
  split <;> rfl

theorem eval_rmReadPtr_snd (h : Nat → Handler Host) (k : Nat) (a : UInt64) :
    ((rmReadPtr a).eval h k).2 = k + 1 := by
  rw [rmReadPtr, Prog.eval_bind, eval_rmRead_snd h k a (by decide)]
  split <;> rfl

theorem eval_rmReadPtr_dead (m : Memory) {n k : Nat} (hk : n ≤ k) (a : UInt64) :
    ((rmReadPtr a).eval (m.dying n) k).1 = 0 := by
  have hread : ((rmRead a 8).eval (m.dying n) k).1 = none := by
    rw [rmRead, if_neg (by decide), Prog.eval_bind]
    have hdead : ((machVmReadOverwrite a 8).eval (m.dying n) k).1 = none := by
      show m.dying n k (.mach_vm_read_overwrite a 8) = none
      rw [Memory.dying, if_neg (Nat.not_lt.mpr hk)]
    rw [hdead]
    rfl
  rw [rmReadPtr, Prog.eval_bind, hread]
  rfl

end RadarAim

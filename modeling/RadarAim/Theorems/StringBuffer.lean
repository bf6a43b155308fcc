import RadarAim.RemoteBuffer
import RadarAim.Theorems.Strings

/-! What `rm_read_string` leaves in the buffer of its caller: bytes of the process up to the first NUL, the end of the
    buffer or a chunk that cannot be read, and nothing behind the buffer. -/

namespace RadarAim
namespace StringBuffer
open Strings

section Scan

/-- What the scan of `n` bytes of `tmp` from `i` on leaves, when it began with `pos`. -/
structure Scanned (tmp : Buf) (n i pos : Nat) (buf : Buf) (found : Bool) (pos' : Nat) (buf' : Buf) : Prop where
  le : pos ≤ pos'
  before : ∀ j < pos, buf' j = buf j
  copied : ∀ j, pos + j < pos' → buf' (pos + j) = tmp (i + j) ∧ tmp (i + j) ≠ 0
  behind : ∀ j, pos + n ≤ j → buf' j = buf j
  stopped : found = true → pos' < pos + n ∧ tmp (i + (pos' - pos)) = 0 ∧ buf' pos' = 0
  done : found = false → pos' = pos + n

theorem scanned (tmp buf : Buf) (n i pos : Nat) : ∃ found pos' buf', scanChunk tmp n i pos buf = (found, pos', buf') ∧
    Scanned tmp n i pos buf found pos' buf' := by
  induction n generalizing i pos buf with
  | zero =>
    exact ⟨false, pos, buf, rfl, le_rfl, fun _ _ => rfl, fun j hj => absurd hj (by omega), fun _ _ => rfl,
      fun hfound => Bool.noConfusion hfound, fun _ => rfl⟩
  | succ n ih =>
    rw [scanChunk]
    by_cases hnul : tmp i = 0
    · -- The terminator is written too, and ends the scan.
      refine ⟨true, pos, Function.update buf pos (tmp i), if_pos hnul, le_rfl, ?_, ?_, ?_, ?_, ?_⟩
      · exact fun j hj => Function.update_of_ne (Nat.ne_of_lt hj) _ _
      · exact fun j hj => absurd hj (by omega)
      · exact fun j hj => Function.update_of_ne (by omega) _ _
      · refine fun _ => ⟨by omega, ?_, ?_⟩
        · rwa [Nat.sub_self, Nat.add_zero]
        · rw [Function.update_self, hnul]
      · exact fun hfound => Bool.noConfusion hfound
    · obtain ⟨found, pos', buf', heq, hle, hbefore, hcopied, hbehind, hstopped, hdone⟩ :=
        ih (Function.update buf pos (tmp i)) (i + 1) (pos + 1)
      refine ⟨found, pos', buf', (if_neg hnul).trans heq, by omega, ?_, ?_, ?_, ?_, ?_⟩
      · intro j hj
        rw [hbefore j (by omega), Function.update_of_ne (Nat.ne_of_lt hj)]
      · intro j hj
        cases j with
        | zero =>
          -- This byte was copied before the rest, which leaves it as it is.
          rw [Nat.add_zero, Nat.add_zero, hbefore pos (Nat.lt_succ_self pos), Function.update_self]
          exact ⟨rfl, hnul⟩
        | succ j =>
          have hnext := hcopied j (by omega)
          rwa [Nat.add_right_comm pos, Nat.add_right_comm i] at hnext
      · intro j hj
        rw [hbehind j (by omega), Function.update_of_ne (by omega)]
      · intro hfound
        obtain ⟨hlt, hzero, hend⟩ := hstopped hfound
        refine ⟨by omega, ?_, hend⟩
        rwa [show i + 1 + (pos' - (pos + 1)) = i + (pos' - pos) by omega] at hzero
      · intro hfound
        rw [hdone hfound]
        omega

theorem Scanned.le_add {tmp buf buf' : Buf} {n i pos pos' : Nat} {found : Bool}
    (h : Scanned tmp n i pos buf found pos' buf') : pos' ≤ pos + n := by
  cases found with
  | true => exact (h.stopped rfl).1.le
  | false => exact (h.done rfl).le

/-- A scan leaves what was there, and adds bytes of the chunk, none of them NUL. -/
theorem Scanned.split {tmp buf buf' : Buf} {n pos pos' : Nat} {found : Bool}
    (h : Scanned tmp n 0 pos buf found pos' buf') {P : Nat → UInt8 → Prop} (hbefore : ∀ i < pos, P i (buf i))
    (hcopied : ∀ j, pos + j < pos' → tmp j ≠ 0 → P (pos + j) (tmp j)) : ∀ i < pos', P i (buf' i) := by
  intro i hi
  rcases Nat.lt_or_ge i pos with hlo | hhi
  · rw [h.before i hlo]
    exact hbefore i hlo
  · obtain ⟨j, rfl⟩ := Nat.exists_eq_add_of_le hhi
    obtain ⟨hcopy, hne⟩ := h.copied j hi
    rw [Nat.zero_add] at hcopy hne
    rw [hcopy]
    exact hcopied j hi hne

end Scan

/-! ### What is in the buffer -/

section Loop
variable {m : Memory} {addr : UInt64} {max : Nat} {start buf : Buf}

/-- The first `pos` bytes are those of the process, and the memory behind the buffer is untouched. -/
structure Upto (m : Memory) (addr : UInt64) (max : Nat) (start : Buf) (pos : Nat) (buf : Buf) : Prop where
  text : ∀ i < pos, buf i ≠ 0 ∧ m (addr + .ofNat i) = some (buf i)
  frame : ∀ i, max ≤ i → buf i = start i

/-- The size of the chunk at `k`. -/
def chunk (max k : Nat) : Nat := min 64 (max - 1 - k)

/-- A string of `k` bytes with its terminator, and why it ends there. -/
structure Ends (m : Memory) (addr : UInt64) (max k : Nat) (buf : Buf) : Prop where
  le : k ≤ max - 1
  nul : buf k = 0
  reason : m (addr + .ofNat k) = some 0 ∨ k = max - 1 ∨
    0 < k ∧ k % 64 = 0 ∧ m.read (addr + .ofNat k) (chunk max k) = none

theorem byte_of_read {k n : Nat} {tmp : Buf} (h : m.read (addr + .ofNat k) n = some tmp) {j : Nat} (hj : j < n) :
    m (addr + .ofNat (k + j)) = some (tmp j) := by
  obtain ⟨⟨-, hall⟩, rfl⟩ := (m.read_eq_some _ n).mp h
  obtain ⟨c, hc⟩ := Option.isSome_iff_exists.mp (hall j hj)
  rw [← add_ofNat_add]
  simp only [hc, Option.getD_some]

/-- A chunk is not empty, and leaves room for the terminator. -/
theorem chunk_bounds {pos : Nat} (h : pos < max - 1) : 0 < chunk max pos ∧ pos + chunk max pos ≤ max - 1 := by
  unfold chunk
  omega

theorem chunk_eq (max pos : Nat) : (if 64 > max - 1 - pos then max - 1 - pos else 64) = chunk max pos := by
  unfold chunk
  split <;> omega

/-- The terminator is set behind the text. -/
theorem Upto.terminate {pos : Nat} (h : Upto m addr max start pos buf) (hpos : pos < max) :
    Upto m addr max start pos (Function.update buf pos 0) := by
  refine ⟨fun i hi => ?_, fun i hi => ?_⟩
  · rw [Function.update_of_ne (Nat.ne_of_lt hi)]
    exact h.text i hi
  · rw [Function.update_of_ne (Nat.ne_of_gt (hpos.trans_le hi))]
    exact h.frame i hi

theorem Upto.scan {tmp buf' : Buf} {n pos pos' : Nat} {found : Bool} (h : Upto m addr max start pos buf)
    (hscan : Scanned tmp n 0 pos buf found pos' buf') (hread : m.read (addr + .ofNat pos) n = some tmp)
    (hroom : pos + n ≤ max) : Upto m addr max start pos' buf' := by
  refine ⟨?_, fun i hi => ?_⟩
  · refine hscan.split (P := fun i c => c ≠ 0 ∧ m (addr + .ofNat i) = some c) h.text fun j hj hne => ⟨hne, ?_⟩
    exact byte_of_read hread (Nat.lt_of_add_lt_add_left (hj.trans_le hscan.le_add))
  · rw [hscan.behind i (hroom.trans hi)]
    exact h.frame i hi

/-- The loop from a position at which a chunk begins. -/
theorem run_readChunks (fuel : Nat) {pos : Nat} (hfuel : max - 1 < fuel + pos) (hpos : pos ≤ max - 1) (hmax : 1 < max)
    (hchunk : pos % 64 = 0 ∨ pos = max - 1) (hzero : pos = 0 → buf 0 = 0) (h : Upto m addr max start pos buf) :
    ∃ ok buf', (readChunks addr max fuel pos buf).run m.host = (ok, buf') ∧
      (ok = true → ∃ k, Upto m addr max start k buf' ∧ Ends m addr max k buf') ∧
      (ok = false → Upto m addr max start 0 buf' ∧ buf' 0 = 0 ∧ m.read addr (chunk max 0) = none) := by
  induction fuel generalizing pos buf with
  | zero => omega
  | succ fuel ih =>
    rw [readChunks]
    by_cases hlt : pos < max - 1
    · obtain ⟨hsize, hroom⟩ := chunk_bounds hlt
      rw [if_pos hlt]
      simp only [Prog.run_bind, Memory.run_rmRead, Memory.bytes, chunk_eq, if_neg hsize.ne']
      cases hread : m.read (addr + .ofNat pos) (chunk max pos) with
      | none =>
        by_cases hfirst : pos = 0
        · -- Nothing has been read, so the call fails.
          subst hfirst
          refine ⟨false, buf, by simp, fun hok => Bool.noConfusion hok, fun _ => ⟨h, hzero rfl, ?_⟩⟩
          rwa [show addr + .ofNat 0 = addr from UInt64.add_zero addr] at hread
        · -- What was read before stays, cut off here.
          refine ⟨true, Function.update buf pos 0, by simp [hfirst], fun _ => ⟨pos, h.terminate (by omega), ?_⟩,
            fun hok => Bool.noConfusion hok⟩
          exact ⟨hpos, Function.update_self .., Or.inr (Or.inr ⟨by omega, by omega, hread⟩)⟩
      | some tmp =>
        obtain ⟨found, pos', buf', heq, hscan⟩ := scanned tmp buf (chunk max pos) 0 pos
        have hle := hscan.le_add
        have hupto : Upto m addr max start pos' buf' := h.scan hscan hread (by omega)
        simp only [heq]
        cases hfound : found with
        | true =>
          obtain ⟨hlt', hnul, hend⟩ := hscan.stopped hfound
          refine ⟨true, buf', rfl, fun _ => ⟨pos', hupto, by omega, hend, Or.inl ?_⟩, fun hok => Bool.noConfusion hok⟩
          obtain ⟨j, rfl⟩ := Nat.exists_eq_add_of_le hscan.le
          rw [byte_of_read hread (by omega)]
          rw [Nat.zero_add, Nat.add_sub_cancel_left] at hnul
          rw [hnul]
        | false =>
          -- There is no terminator in this chunk, so the text goes on in the next one.
          have hnext := hscan.done hfound
          have hround : pos' % 64 = 0 ∨ pos' = max - 1 := by
            unfold chunk at hnext
            omega
          exact ih (by omega) (by omega) hround (fun h0 => by omega) hupto
    · obtain rfl : pos = max - 1 := by omega
      rw [if_neg hlt]
      refine ⟨true, _, rfl, fun _ => ⟨max - 1, h.terminate (by omega), ?_⟩, fun hok => Bool.noConfusion hok⟩
      exact ⟨hpos, Function.update_self .., Or.inr (Or.inl rfl)⟩

end Loop

/-! ### The string that its callers see -/

section Text
variable {max : Nat}

theorem cstr_bytes {b : Buf} {k n : Nat} (htext : ∀ i < k, b i ≠ 0) (hnul : b k = 0) (hk : k < n) :
    cstr (b.bytes n) = b.bytes k := by
  refine NameTable.cstr_of_units (fun c hc => ?_) (by rwa [b.length_bytes]) fun i hi => ?_
  · obtain ⟨i, hi, rfl⟩ := List.mem_map.mp hc
    exact htext i (List.mem_range.mp hi)
  · rw [b.length_bytes] at hi
    rcases Nat.lt_or_eq_of_le hi with hlt | rfl
    · simp [Buf.bytes, hlt]
    · simp [Buf.bytes, hnul]

theorem bytes_congr {b b' : Buf} {n : Nat} (h : ∀ i < n, b i = b' i) : b.bytes n = b'.bytes n :=
  List.map_congr_left fun i hi => h i (List.mem_range.mp hi)

theorem bytes_nonzero {b : Buf} {n : Nat} (h : ∀ i < n, b i ≠ 0) : ∀ c ∈ b.bytes n, c ≠ 0 := by
  intro c hc
  obtain ⟨i, hi, rfl⟩ := List.mem_map.mp hc
  exact h i (List.mem_range.mp hi)

/-- The bytes that a scan has copied. -/
theorem Scanned.bytes {tmp buf buf' : Buf} {n pos pos' : Nat} {found : Bool}
    (h : Scanned tmp n 0 pos buf found pos' buf') : buf'.bytes pos' = buf.bytes pos ++ tmp.bytes (pos' - pos) := by
  obtain ⟨k, rfl⟩ := Nat.exists_eq_add_of_le h.le
  rw [Buf.bytes_add, Nat.add_sub_cancel_left, bytes_congr h.before]
  refine congrArg (buf.bytes pos ++ ·) (bytes_congr fun i hi => ?_)
  rw [(h.copied i (by omega)).1, Nat.zero_add]

/-- Against any process, the loop over the buffer makes the reads of the loop over strings, and ends alike. -/
theorem eval_readChunks (addr : UInt64) (h : Nat → Handler Host) (n fuel pos : Nat) (buf : Buf)
    (hfuel : max - 1 < fuel + pos) (hpos : pos ≤ max - 1) (hmax : 1 < max) (hzero : pos = 0 → buf 0 = 0)
    (htext : ∀ i < pos, buf i ≠ 0) :
    ((readChunks addr max fuel pos buf).eval h n).2 = ((rmReadStringLoop addr max fuel (buf.bytes pos)).eval h n).2 ∧
      ((readChunks addr max fuel pos buf).eval h n).1.1 =
        ((rmReadStringLoop addr max fuel (buf.bytes pos)).eval h n).1.1 ∧
      cstr (((readChunks addr max fuel pos buf).eval h n).1.2.bytes max) =
        ((rmReadStringLoop addr max fuel (buf.bytes pos)).eval h n).1.2 := by
  induction fuel generalizing n pos buf with
  | zero => omega
  | succ fuel ih =>
    -- A buffer that is cut off at `pos` holds the text read so far.
    have hcut : ∀ b' : Buf, (∀ i < pos, b' i = buf i) → b' pos = 0 → cstr (b'.bytes max) = buf.bytes pos := by
      intro b' hb hnul
      rw [cstr_bytes (fun i hi => by rw [hb i hi]; exact htext i hi) hnul (by omega), bytes_congr hb]
    rw [readChunks, rmReadStringLoop, buf.length_bytes]
    by_cases hlt : pos < max - 1
    · rw [if_pos hlt, if_pos hlt]
      simp only [Prog.eval_bind, chunk_eq]
      rw [show min 64 (max - 1 - pos) = chunk max pos from rfl]
      generalize (rmRead (addr + .ofNat pos) (chunk max pos)).eval h n = reply
      obtain ⟨reply, calls⟩ := reply
      cases reply with
      | none =>
        by_cases hfirst : pos = 0
        · subst hfirst
          exact ⟨rfl, rfl, hcut buf (fun _ _ => rfl) (hzero rfl)⟩
        · -- A read that fails after the first chunk cuts the text off there.
          simp only [if_neg hfirst]
          refine ⟨rfl, ?_, hcut _ (fun i hi => Function.update_of_ne (Nat.ne_of_lt hi) _ _) (Function.update_self ..)⟩
          exact (bne_iff_ne.mpr hfirst).symm
      | some tmp =>
        obtain ⟨found, pos', buf', heq, hscan⟩ := scanned tmp buf (chunk max pos) 0 pos
        obtain ⟨hsize, hroom⟩ := chunk_bounds hlt
        have hback := hscan.le
        have hnonzero : ∀ i < pos' - pos, tmp i ≠ 0 := by
          intro i hi
          have hne := (hscan.copied i (by omega)).2
          rwa [Nat.zero_add] at hne
        have htext' : ∀ i < pos', buf' i ≠ 0 := hscan.split (P := fun _ c => c ≠ 0) htext fun _ _ hne => hne
        simp only [heq]
        cases hfound : found with
        | true =>
          -- The terminator is in this chunk, which ends both loops.
          obtain ⟨hend, hnul, hlast⟩ := hscan.stopped hfound
          rw [Nat.zero_add] at hnul
          have hs : cstr (tmp.bytes (chunk max pos)) = tmp.bytes (pos' - pos) := cstr_bytes hnonzero hnul (by omega)
          have hshort : (tmp.bytes (pos' - pos)).length < chunk max pos := by
            rw [tmp.length_bytes]
            omega
          simp only [hs, if_pos hshort]
          exact ⟨rfl, rfl, (cstr_bytes htext' hlast (by omega)).trans hscan.bytes⟩
        | false =>
          -- The chunk is full of text, and both loops go on after it.
          have hnext := hscan.done hfound
          have hs : cstr (tmp.bytes (chunk max pos)) = tmp.bytes (chunk max pos) :=
            cstr_of_nonzero (bytes_nonzero fun i hi => hnonzero i (by omega))
          have hbytes : buf.bytes pos ++ tmp.bytes (chunk max pos) = buf'.bytes pos' := by
            rw [hscan.bytes, hnext, Nat.add_sub_cancel_left]
          simp only [hs, tmp.length_bytes, if_neg (Nat.lt_irrefl _), hbytes]
          exact ih _ _ _ (by omega) (by omega) (fun h0 => by omega) htext'
    · -- The buffer is full, and its last byte becomes the terminator.
      obtain rfl : pos = max - 1 := by omega
      rw [if_neg hlt, if_neg hlt]
      exact ⟨rfl, rfl, hcut _ (fun i hi => Function.update_of_ne (Nat.ne_of_lt hi) _ _) (Function.update_self ..)⟩

/-- With a buffer, the function returns what its callers are told, and leaves the string there. -/
theorem eval_rmReadStringInto (addr : UInt64) {h : Nat → Handler Host} {n : Nat} {buf : Buf} (hmax : 0 < max) :
    ∃ b, ((rmReadStringInto addr (some buf) max).eval h n).1 = (((rmReadString addr max).eval h n).1.1, some b) ∧
      cstr (b.bytes max) = ((rmReadString addr max).eval h n).1.2 := by
  have hempty : cstr (Buf.bytes (Function.update buf 0 0) max) = [] :=
    cstr_bytes (k := 0) (fun i hi => absurd hi (Nat.not_lt_zero i)) (Function.update_self ..) hmax
  simp only [rmReadStringInto, rmReadString, if_neg (Nat.ne_of_gt hmax)]
  rcases Nat.eq_or_lt_of_le hmax with hone | hmore
  · subst hone
    exact ⟨_, rfl, hempty⟩
  · rw [if_neg (by omega)]
    obtain ⟨-, hok, htext⟩ := eval_readChunks addr h n max 0 (Function.update buf 0 0) (by omega) (Nat.zero_le _) hmore
      (fun _ => Function.update_self ..) fun i hi => absurd hi (Nat.not_lt_zero i)
    refine ⟨_, ?_, htext⟩
    rw [Prog.eval_bind, Prog.eval_pure, hok]
    rfl

end Text

/-- What `rm_read_string` returns and leaves. A string is text of the process, and it ends at a NUL, at the end of the
    buffer or before a chunk that could not be read; without one, the first chunk could not be read or the arguments
    were rejected. Nothing behind the buffer is written. -/
theorem rmReadStringInto_text (m : Memory) (addr : UInt64) (max : Nat) (buf : Option Buf) :
    ∃ ok buf', (rmReadStringInto addr buf max).run m.host = (ok, buf') ∧
      (ok = true → ∃ start b k, buf = some start ∧ buf' = some b ∧ Upto m addr max start k b ∧ Ends m addr max k b) ∧
      (ok = false → (buf = none ∨ max = 0) ∧ buf' = buf ∨
        ∃ start b, buf = some start ∧ buf' = some b ∧ (∀ i, max ≤ i → b i = start i) ∧ b 0 = 0 ∧
          m.read addr (chunk max 0) = none) := by
  cases buf with
  | none => exact ⟨false, none, rfl, fun hok => Bool.noConfusion hok, fun _ => Or.inl ⟨Or.inl rfl, rfl⟩⟩
  | some start =>
    rw [rmReadStringInto]
    by_cases hmax : max = 0
    · rw [if_pos hmax]
      exact ⟨false, some start, rfl, fun hok => Bool.noConfusion hok, fun _ => Or.inl ⟨Or.inr hmax, rfl⟩⟩
    · have hupto : Upto m addr max start 0 (Function.update start 0 0) :=
        ⟨fun i hi => absurd hi (Nat.not_lt_zero i), fun i hi => Function.update_of_ne (by omega) _ _⟩
      rw [if_neg hmax]
      by_cases hone : max = 1
      · rw [if_pos hone]
        refine ⟨true, _, rfl, fun _ => ⟨start, _, 0, rfl, rfl, hupto, ?_⟩, fun hok => Bool.noConfusion hok⟩
        exact ⟨Nat.zero_le _, Function.update_self .., Or.inr (Or.inl (by omega))⟩
      · rw [if_neg hone]
        obtain ⟨ok, b, hrun, htrue, hfalse⟩ := run_readChunks max (by omega) (Nat.zero_le _) (by omega)
          (Or.inl rfl) (fun _ => Function.update_self ..) hupto
        refine ⟨ok, some b, ?_, fun hok => ?_, fun hok => Or.inr ?_⟩
        · rw [Prog.run_bind, hrun]
          rfl
        · obtain ⟨k, hk, hend⟩ := htrue hok
          exact ⟨start, b, k, rfl, rfl, hk, hend⟩
        · obtain ⟨hk, hnul, hread⟩ := hfalse hok
          exact ⟨start, b, rfl, rfl, hk.frame, hnul, hread⟩

end StringBuffer
end RadarAim

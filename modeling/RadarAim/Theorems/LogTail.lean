import RadarAim.App.ReadTail
import RadarAim.Lib.Lines

/-! The last lines of a log, and what `read_tail` shows of them. The newline at the end of a small file is counted as
    a line of its own, the first byte of the file is not looked at, and the last byte of a large file is not read. -/

namespace RadarAim
namespace App
open Lines

section Scan
variable {buf : List UInt8} {k : Nat}

/-- The loop finds `k` newlines behind the first byte, or gives up at the first byte. -/
theorem tailStart_cases (p c : Nat) (hp : p < buf.length) (hc : c < k) :
    tailStart buf k p c = 0 ∧ c + (buf.take (p + 1)).tail.count newline < k ∨
    ∃ head rest, buf.take (p + 1) = head ++ newline :: rest ∧ head ≠ [] ∧ c + rest.count newline + 1 = k ∧
      tailStart buf k p c = head.length + 1 := by
  induction p generalizing c with
  | zero =>
    refine Or.inl ⟨rfl, ?_⟩
    cases buf with
    | nil => simpa using hc
    | cons b buf => simpa using hc
  | succ p ih =>
    have htake : buf.take (p + 2) = buf.take (p + 1) ++ [buf.getD (p + 1) 0] := by
      rw [List.take_succ_eq_append_getElem hp, List.getD_eq_getElem?_getD, List.getElem?_eq_getElem hp,
        Option.getD_some]
    have hne : buf.take (p + 1) ≠ [] := by
      rw [← List.length_pos_iff, List.length_take]
      omega
    have htail : (buf.take (p + 2)).tail = (buf.take (p + 1)).tail ++ [buf.getD (p + 1) 0] := by
      rw [htake, List.tail_append_of_ne_nil hne]
    rw [tailStart]
    split
    · -- With this newline `k` are found, or the search goes on before it.
      rename_i hnl
      rw [hnl] at htake htail
      split
      · rename_i hlast
        refine Or.inr ⟨buf.take (p + 1), [], htake, hne, by simp; omega, ?_⟩
        rw [List.length_take]
        omega
      · rename_i hmore
        rcases ih (c + 1) (by omega) (by omega) with ⟨hzero, hcount⟩ | ⟨head, rest, hsplit, hhead, hcount, hstart⟩
        · refine Or.inl ⟨hzero, ?_⟩
          rw [htail, List.count_append, List.count_singleton_self]
          omega
        · refine Or.inr ⟨head, rest ++ [newline], by rw [htake, hsplit, List.append_assoc]; rfl, hhead, ?_, hstart⟩
          rw [List.count_append, List.count_singleton_self]
          omega
    · -- Any other byte leaves the count as it is.
      rename_i hnl
      have hcount : [buf.getD (p + 1) 0].count newline = 0 := List.count_eq_zero.mpr (by simpa using Ne.symm hnl)
      rcases ih c (by omega) hc with ⟨hzero, hlt⟩ | ⟨head, rest, hsplit, hhead, hlt, hstart⟩
      · refine Or.inl ⟨hzero, ?_⟩
        rw [htail, List.count_append, hcount]
        exact hlt
      · refine Or.inr ⟨head, rest ++ [buf.getD (p + 1) 0], by rw [htake, hsplit, List.append_assoc]; rfl, hhead, ?_,
          hstart⟩
        rw [List.count_append, hcount]
        exact hlt

/-- What is shown of the buffer, before it is cut to the size of the output. -/
def shown (buf : List UInt8) (k : Nat) : List UInt8 := buf.drop (tailStart buf k (buf.length - 1) 0)

/-- A newline behind the first byte is in the tail, with all that are behind it. -/
theorem count_tail_split {head rest : List UInt8} (hhead : head ≠ []) :
    rest.count newline < (head ++ newline :: rest).tail.count newline := by
  rw [List.tail_append_of_ne_nil hhead, List.count_append, List.count_cons_self]
  omega

theorem shown_cases (hbuf : buf ≠ []) (hk : 1 ≤ k) :
    buf.tail.count newline < k ∧ shown buf k = buf ∨
    ∃ head rest, buf = head ++ newline :: rest ∧ head ≠ [] ∧ rest.count newline + 1 = k ∧ shown buf k = rest := by
  have hlen := List.length_pos_iff.mpr hbuf
  have htake : buf.take (buf.length - 1 + 1) = buf := by
    rw [Nat.sub_add_cancel hlen, List.take_length]
  rcases tailStart_cases (buf.length - 1) 0 (Nat.sub_lt hlen Nat.one_pos) hk with ⟨hzero, hcount⟩ |
    ⟨head, rest, hsplit, hhead, hcount, hstart⟩
  · rw [htake, Nat.zero_add] at hcount
    exact Or.inl ⟨hcount, by rw [shown, hzero, List.drop_zero]⟩
  · rw [htake] at hsplit
    refine Or.inr ⟨head, rest, hsplit, hhead, by omega, ?_⟩
    rw [shown, hstart]
    conv_lhs => rw [hsplit]
    rw [← List.drop_drop, List.drop_left]
    rfl

end Scan

section File
variable {file : List UInt8} {k maxOut : Nat}

/-- The text of the last lines. -/
abbrev lastLines (k : Nat) (file : List UInt8) : List UInt8 := Lines.lastLines newline k file

theorem snprintf_of_short {s : List UInt8} (h : s.length < maxOut) : snprintf maxOut s = s :=
  List.take_of_length_le (by omega)

theorem readTail_eq (hnul : ∀ c ∈ file, c ≠ 0) (hne : tailWindow file ≠ []) :
    readTail (some file) k maxOut = snprintf maxOut (shown (tailWindow file) k) := by
  have hlen : (tailWindow file).length ≠ 0 := by simpa using hne
  have hcstr : cstr (shown (tailWindow file) k) = shown (tailWindow file) k :=
    cstr_of_nonzero fun c hc => hnul c (List.mem_of_mem_drop (List.mem_of_mem_take (List.mem_of_mem_drop hc)))
  simp only [readTail, if_neg hlen]
  rw [← shown, hcstr]

theorem tailWindow_small (h : file.length < tailBuffer) : tailWindow file = file := by
  rw [tailWindow, if_neg (by omega), List.drop_zero]
  exact List.take_of_length_le (by omega)

/-- A file that fills the buffer: its window ends before its last byte. -/
theorem tailWindow_large (init : List UInt8) (z : UInt8) (h : tailBuffer ≤ (init ++ [z]).length) :
    tailWindow (init ++ [z]) = init.drop (init.length + 1 - tailBuffer) := by
  have hlen : (init ++ [z]).length = init.length + 1 := by simp
  have hoff : (if tailBuffer < (init ++ [z]).length then (init ++ [z]).length - tailBuffer else 0) =
      init.length + 1 - tailBuffer := by
    split <;> omega
  have hpos : 0 < tailBuffer := by decide
  rw [tailWindow, hoff, List.drop_append_of_le_length (by omega), List.take_append_of_le_length]
  · exact List.take_of_length_le (by rw [List.length_drop]; omega)
  · rw [List.length_drop]
    omega

/-- From the size of the buffer on, the last byte is lost. -/
theorem readTail_large (hnul : ∀ c ∈ file, c ≠ 0) (hk : 1 ≤ k) (hlarge : tailBuffer ≤ file.length)
    (hfit : (lastLines k file).length < tailBuffer - 1) (hout : (lastLines k file).length < maxOut) :
    ∃ init z, lastLines k file = init ++ [z] ∧ readTail (some file) k maxOut = init := by
  obtain rfl | ⟨init, z, rfl⟩ := List.eq_nil_or_concat' file
  · exact absurd hlarge (by decide)
  · rcases lastLines_cases newline hk init z with ⟨-, hall⟩ | ⟨head, rest, rfl, hcount, hlast⟩
    · rw [lastLines, hall] at hfit
      omega
    · rw [lastLines, hlast] at hfit hout
      simp only [List.length_append, List.length_cons, List.length_nil] at hfit hout hlarge
      have hoff : (head ++ newline :: rest).length + 1 - tailBuffer < head.length := by
        simp only [List.length_append, List.length_cons]
        omega
      have hwindow := tailWindow_large (head ++ newline :: rest) z (by simp; omega)
      rw [List.drop_append_of_le_length hoff.le] at hwindow
      generalize hhead : head.drop ((head ++ newline :: rest).length + 1 - tailBuffer) = before at hwindow
      have hbefore : before ≠ [] := by
        rw [← hhead, ← List.length_pos_iff, List.length_drop]
        omega
      have hshown : shown (before ++ newline :: rest) k = rest := by
        have hwhole : before ++ newline :: rest ≠ [] := List.append_ne_nil_of_left_ne_nil hbefore _
        rcases shown_cases hwhole hk with ⟨hlt, -⟩ | ⟨head', rest', hsplit, -, hcount', hshown⟩
        · have hcut : rest.count newline < _ := count_tail_split hbefore
          omega
        · rw [hshown]
          exact (split_unique hsplit (by omega)).2.symm
      refine ⟨rest, z, hlast, ?_⟩
      rw [readTail_eq hnul (by rw [hwindow]; simp), hwindow, hshown]
      exact snprintf_of_short (by omega)

/-- What the last lines of a file must be like to be shown. -/
def Shown (k maxOut : Nat) (file : List UInt8) : Prop :=
  file = [] ∧ maxOut = 1 ∨
  file ≠ [] ∧ file.length < tailBuffer ∧
    if file.getLast? = some newline then file.tail.count newline < k
    else ¬(file.head? = some newline ∧ file.count newline = k)

theorem readTail_small (hnul : ∀ c ∈ file, c ≠ 0) (hne : file ≠ []) (hsmall : file.length < tailBuffer) :
    readTail (some file) k maxOut = snprintf maxOut (shown file k) := by
  have hwindow := tailWindow_small hsmall
  rw [readTail_eq hnul (by rwa [hwindow]), hwindow]

/-- A text of several lines that ends in a newline loses one of its last lines. -/
theorem small_newline {init : List UInt8} (hk : 1 ≤ k) (hout : (lastLines k (init ++ [newline])).length < maxOut) :
    snprintf maxOut (shown (init ++ [newline]) k) = lastLines k (init ++ [newline]) ↔
      (init ++ [newline]).tail.count newline < k := by
  have hlast := lastLines_cases newline hk init newline
  have hwhole : init ++ [newline] ≠ [] := List.concat_ne_nil newline init
  rcases shown_cases hwhole hk with ⟨hlt, hshown⟩ | ⟨head, rest, hsplit, hhead, hcount, hshown⟩
  · refine iff_of_true ?_ hlt
    have hinit : init.count newline < k := by
      cases init with
      | nil =>
        rw [List.count_nil]
        exact hk
      | cons c init =>
        rw [List.cons_append, List.tail_cons, List.count_append, List.count_singleton_self] at hlt
        have := List.count_cons (a := newline) (b := c) (l := init)
        split at this <;> omega
    rcases hlast with ⟨-, hall⟩ | ⟨head, rest, rfl, hcount, -⟩
    · rw [lastLines, hall] at hout ⊢
      rw [hshown, snprintf_of_short hout]
    · rw [List.count_append, List.count_cons_self] at hinit
      omega
  · have hge : ¬(init ++ [newline]).tail.count newline < k := by
      have hcut : rest.count newline < _ := count_tail_split hhead
      rw [hsplit]
      omega
    refine iff_of_false (fun heq => ?_) hge
    -- the text shown has a newline less than the last lines
    have hshort : (snprintf maxOut (shown (init ++ [newline]) k)).count newline < k := by
      rw [hshown]
      have := (List.take_sublist (maxOut - 1) rest).count_le newline
      rw [snprintf]
      omega
    rw [heq] at hshort
    rcases hlast with ⟨-, hall⟩ | ⟨head', rest', -, hcount', hlast'⟩
    · rw [lastLines, hall, hsplit, List.count_append, List.count_cons_self] at hshort
      omega
    · rw [lastLines, hlast', List.count_append, List.count_singleton_self] at hshort
      omega

/-- An empty first line that is shown is one too many. -/
theorem snprintf_newline_ne {rest : List UInt8} {z : UInt8} (hz : z ≠ newline) (hout : (rest ++ [z]).length < maxOut) :
    snprintf maxOut (newline :: rest ++ [z]) ≠ rest ++ [z] := by
  intro heq
  have hkept : newline :: rest <+: snprintf maxOut (newline :: rest ++ [z]) := by
    rw [List.length_append, List.length_singleton] at hout
    rw [snprintf, List.take_append, List.take_of_length_le (Nat.le_sub_one_of_lt (by rwa [List.length_cons]))]
    exact List.prefix_append _ _
  have hcount := hkept.sublist.count_le newline
  rw [heq, List.count_cons_self, List.count_append, List.count_singleton, if_neg (by simpa using hz)] at hcount
  omega

/-- Without a newline at the end, the lines are right unless an empty first line has to be left out. -/
theorem small_plain {init : List UInt8} {z : UInt8} (hz : z ≠ newline) (hk : 1 ≤ k)
    (hout : (lastLines k (init ++ [z])).length < maxOut) :
    snprintf maxOut (shown (init ++ [z]) k) = lastLines k (init ++ [z]) ↔
      ¬((init ++ [z]).head? = some newline ∧ (init ++ [z]).count newline = k) := by
  have hlast := lastLines_cases newline hk init z
  have hzero : [z].count newline = 0 := List.count_eq_zero.mpr (by simpa using Ne.symm hz)
  have hcountz : (init ++ [z]).count newline = init.count newline := by
    rw [List.count_append, hzero, Nat.add_zero]
  have hwhole : init ++ [z] ≠ [] := List.concat_ne_nil z init
  rcases shown_cases hwhole hk with ⟨hlt, hshown⟩ | ⟨head, rest, hsplit, hhead, hcount, hshown⟩
  · rw [hshown]
    rcases hlast with ⟨hinit, hall⟩ | ⟨head, rest, rfl, hcount, hlast⟩
    · rw [lastLines, hall] at hout
      rw [lastLines, hall, snprintf_of_short hout, hcountz]
      exact iff_of_true rfl fun h => by omega
    · -- the newline before the last lines is the first byte
      have hnil : head = [] := by
        by_contra hhead
        have hcut : (rest ++ [z]).count newline < (head ++ newline :: (rest ++ [z])).tail.count newline :=
          count_tail_split hhead
        rw [List.append_assoc, List.cons_append] at hlt
        rw [List.count_append] at hcut
        omega
      subst hnil
      rw [List.nil_append] at hlast hout ⊢
      have hfirst : (newline :: rest ++ [z]).head? = some newline := rfl
      have hall : (newline :: rest ++ [z]).count newline = k := by
        rw [List.count_append, List.count_cons_self, hzero]
        omega
      refine iff_of_false ?_ fun h => h ⟨hfirst, hall⟩
      rw [lastLines, hlast] at hout ⊢
      exact snprintf_newline_ne hz hout
  · -- There is a byte before the newline of the cut, so the first byte is not the `k`-th newline from the end.
    have hhead' : ¬((init ++ [z]).head? = some newline ∧ (init ++ [z]).count newline = k) := by
      rintro ⟨hfirst, hall⟩
      obtain ⟨c, head, rfl⟩ := List.exists_cons_of_ne_nil hhead
      rw [hsplit] at hfirst hall
      obtain rfl : c = newline := by simpa using hfirst
      rw [List.count_append, List.count_cons_self, List.count_cons_self] at hall
      omega
    refine iff_of_true ?_ hhead'
    rcases hlast with ⟨hinit, -⟩ | ⟨head', rest', rfl, hcount', hlast⟩
    · rw [hsplit, List.count_append, List.count_cons_self] at hcountz
      omega
    · have hcut : head' ++ newline :: (rest' ++ [z]) = head ++ newline :: rest := by
        rw [← hsplit, List.append_assoc]
        rfl
      -- Both cuts leave the same number of lines, so they are one.
      have hsame : rest' ++ [z] = rest := by
        refine (split_unique hcut ?_).2
        rw [List.count_append, hzero]
        omega
      rw [lastLines, hlast] at hout ⊢
      rw [hshown, ← hsame]
      exact snprintf_of_short hout

/-- When the last lines of a file fit in the buffer and in the output, they are shown exactly if the file is smaller
    than the buffer and neither a newline at its end nor one at its start has been miscounted. -/
theorem readTail_iff (hnul : ∀ c ∈ file, c ≠ 0) (hk : 1 ≤ k) (hfit : (lastLines k file).length < tailBuffer - 1)
    (hout : (lastLines k file).length < maxOut) :
    readTail (some file) k maxOut = lastLines k file ↔ Shown k maxOut file := by
  by_cases hne : file = []
  · -- For an empty file the source has a text of its own.
    subst hne
    have hempty : readTail (some []) k maxOut = (lit "[Empty file]").take (maxOut - 1) := rfl
    have hnil : lastLines k [] = [] := lastLines_nil k
    rw [hnil, List.length_nil] at hout
    rw [hempty, hnil, List.take_eq_nil_iff]
    simp only [Shown, true_and, ne_eq, not_true_eq_false, false_and, or_false]
    have hlit : lit "[Empty file]" ≠ [] := by decide
    simp only [hlit, or_false]
    omega
  · rcases Nat.lt_or_ge file.length tailBuffer with hsmall | hlarge
    · rw [readTail_small hnul hne hsmall]
      simp only [Shown, hne, false_and, false_or, ne_eq, not_false_eq_true, true_and, hsmall]
      obtain rfl | ⟨init, z, rfl⟩ := List.eq_nil_or_concat' file
      · exact absurd rfl hne
      · rw [List.getLast?_concat]
        by_cases hz : z = newline
        · subst hz
          rw [if_pos rfl]
          exact small_newline hk hout
        · rw [if_neg (by simpa using hz)]
          exact small_plain hz hk hout
    · obtain ⟨init, z, hlast, hshown⟩ := readTail_large hnul hk hlarge hfit hout
      refine iff_of_false ?_ ?_
      · rw [hlast, hshown]
        intro heq
        have := congrArg List.length heq
        simp at this
      · rintro (⟨rfl, -⟩ | ⟨-, hsmall, -⟩)
        · exact hne rfl
        · omega

end File

/-- The last line of a log of two lines. -/
theorem readTail_iff_plain :
    (readTail (some (lit "one\ntwo")) 1 1024 = lastLines 1 (lit "one\ntwo") ↔ Shown 1 1024 (lit "one\ntwo")) :=
  readTail_iff (lit_nonzero (by decide)) (by decide) (by decide) (by decide)

/-- The last line of a log is not shown if it is finished. -/
theorem readTail_finishedLine : ¬∀ (file : List UInt8) (k maxOut : Nat), (∀ c ∈ file, c ≠ 0) → 1 ≤ k →
    (lastLines k file).length < tailBuffer - 1 → (lastLines k file).length < maxOut →
      readTail (some file) k maxOut = lastLines k file := by
  intro h
  have heq := h (lit "one\ntwo\n") 1 1024 (lit_nonzero (by decide)) (by decide) (by decide) (by decide)
  revert heq
  decide

end App
end RadarAim

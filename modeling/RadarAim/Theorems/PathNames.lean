import Mathlib.Data.List.Iterate
import RadarAim.Reflection.Classes

/-! The path that `build_path_name` gives an object: the names along the chain of its outers, cut once. -/

namespace RadarAim
namespace PathNames

/-- What `build_path_name` takes for the name of an object. -/
def objectName (objAddr : UInt64) : Walker Str := do
  let (resolved, name) ← resolveObjectName objAddr 256
  pure (if resolved then name else lit "<unknown>")

/-- `build_path_name` as it counts its depth; `none` when `fuel` calls are not enough. Nothing is written to an empty
    buffer. -/
def buildPathNameAt : (fuel : Nat) → (objAddr : UInt64) → (max depth : Nat) → Walker (Option Str)
  | 0, _, _, _ => pure none
  | fuel + 1, objAddr, max, depth =>
    if max = 0 then pure (some [])
    else if depth > maxPathDepth then pure (some (snprintf max (lit "...")))
    else if rmValidatePtr objAddr then do
      let name ← objectName objAddr
      let outer ← rmReadPtr (objAddr + offUobjectOuter)
      if rmValidatePtr outer then do
        match ← buildPathNameAt fuel outer 512 (depth + 1) with
        | none => pure none
        | some outerPath => pure (some (snprintf max (outerPath ++ lit "." ++ name)))
      else if name.head? = some 0x2f then pure (some (snprintf max name))
      else pure (some (snprintf max (lit "/" ++ name)))
    else pure (some (snprintf max (lit "<null>")))

/-! ### The chain of outers -/

def outer (m : Memory) (obj : UInt64) : UInt64 := m.ptr (obj + offUobjectOuter)

/-- The chain of the outers of `obj`, from `obj` itself to the object without a valid outer. -/
inductive Outers (m : Memory) : UInt64 → List UInt64 → Prop where
  | top {obj : UInt64} (h : rmValidatePtr (outer m obj) = false) : Outers m obj [obj]
  | inner {obj : UInt64} {objs : List UInt64} (h : rmValidatePtr (outer m obj) = true)
      (hobjs : Outers m (outer m obj) objs) : Outers m obj (obj :: objs)

/-- The names of the objects, outermost first, when they are resolved from the innermost on. -/
def names (m : Memory) (c : Ue4rCtx) (objs : List UInt64) : List Str := (m.exec (objs.mapM objectName) c).1.reverse

/-- The full path of a chain with these names. -/
def fullPath (names : List Str) : Str :=
  (if names.head?.bind List.head? = some 0x2f then [] else lit "/") ++ (lit ".").intercalate names

/-- The full path of the innermost objects of a chain that is too long. -/
def cutPath (names : List Str) : Str := lit "..." ++ lit "." ++ (lit ".").intercalate names

section Chain
variable {m : Memory} {obj : UInt64}

theorem ptr_outer : m.ptr (obj + offUobjectOuter) = outer m obj := rfl

theorem Outers.ne_nil {objs : List UInt64} (h : Outers m obj objs) : objs ≠ [] := by
  cases h <;> exact List.cons_ne_nil _ _

/-- A chain either ends within `k` objects or goes on for more. -/
theorem outers_or_valid (k : Nat) (hobj : rmValidatePtr obj = true) :
    (∃ objs, Outers m obj objs ∧ objs.length ≤ k) ∨ ∀ i ≤ k, rmValidatePtr ((outer m)^[i] obj) = true := by
  induction k generalizing obj with
  | zero =>
    refine .inr fun i hi => ?_
    rw [Nat.le_zero.mp hi]
    exact hobj
  | succ k ih =>
    by_cases houter : rmValidatePtr (outer m obj) = true
    · rcases ih houter with ⟨objs, hobjs, hlen⟩ | hvalid
      · exact .inl ⟨obj :: objs, .inner houter hobjs, Nat.succ_le_succ hlen⟩
      · refine .inr fun i hi => ?_
        cases i with
        | zero => exact hobj
        | succ i => exact hvalid i (Nat.le_of_succ_le_succ hi)
    · exact .inl ⟨[obj], .top (Bool.eq_false_iff.mpr houter), Nat.le_add_left 1 k⟩

end Chain

/-! ### Joining and cutting -/

section Join
variable {α : Type} (sep : List α)

theorem intercalate_concat {xs : List (List α)} (hxs : xs ≠ []) (x : List α) :
    sep.intercalate (xs ++ [x]) = sep.intercalate xs ++ sep ++ x := by
  induction xs with
  | nil => exact absurd rfl hxs
  | cons y ys ih =>
    cases ys with
    | nil => simp
    | cons z zs =>
      rw [List.cons_append,
        List.intercalate_cons_of_ne_nil (List.append_ne_nil_of_left_ne_nil (List.cons_ne_nil z zs) _),
        ih (List.cons_ne_nil z zs), List.intercalate_cons_cons]
      simp only [List.append_assoc]

/-- What is cut off before something is appended is cut off in the end. -/
theorem take_take_append {k n : Nat} (hk : k ≤ n) (s t : List α) : (s.take n ++ t).take k = (s ++ t).take k := by
  rcases Nat.le_total s.length n with hs | hs
  · rw [List.take_of_length_le hs]
  · have hcut : (s.take n).length = n := List.length_take_of_le hs
    rw [List.take_append_of_le_length (hcut.symm ▸ hk), List.take_take, Nat.min_eq_left hk,
      List.take_append_of_le_length (le_trans hk hs)]

end Join

theorem snprintf_snprintf_append {max n : Nat} (hmax : max ≤ n) (s t : Str) :
    snprintf max (snprintf n s ++ t) = snprintf max (s ++ t) :=
  take_take_append (Nat.sub_le_sub_right hmax 1) s t

/-- An object in a chain is added to the end of its outer's path. -/
theorem fullPath_concat {names : List Str} (hnames : names ≠ []) (name : Str) :
    fullPath (names ++ [name]) = fullPath names ++ lit "." ++ name := by
  obtain ⟨top, names, rfl⟩ := List.exists_cons_of_ne_nil hnames
  rw [fullPath, fullPath, intercalate_concat _ hnames, List.cons_append, List.head?_cons, List.head?_cons]
  simp only [List.append_assoc]

theorem fullPath_singleton (name : Str) :
    fullPath [name] = if name.head? = some 0x2f then name else lit "/" ++ name := by
  rw [fullPath, List.intercalate_singleton, List.head?_cons, Option.bind_some]
  exact apply_ite (· ++ name) _ _ _

theorem cutPath_eq {names : List Str} (hnames : names ≠ []) :
    cutPath names = (lit ".").intercalate (lit "..." :: names) := by
  rw [cutPath, List.intercalate_cons_of_ne_nil hnames]

/-! ### One object -/

section Object
variable (m : Memory) (c : Ue4rCtx)

theorem exec_objectName (obj : UInt64) : m.exec (objectName obj) c =
    (if (m.exec (resolveObjectName obj 256) c).1.1 then (m.exec (resolveObjectName obj 256) c).1.2 else lit "<unknown>",
      (m.exec (resolveObjectName obj 256) c).2) := by
  rw [objectName, Memory.exec_bind]
  rfl

theorem names_cons (obj : UInt64) (objs : List UInt64) :
    names m c (obj :: objs) = names m (m.exec (objectName obj) c).2 objs ++ [(m.exec (objectName obj) c).1] := by
  simp only [names, List.mapM_cons, Memory.exec_bind, Memory.exec_pure, List.reverse_cons]

theorem exec_mapM_cons (obj : UInt64) (objs : List UInt64) :
    (m.exec ((obj :: objs).mapM objectName) c).2 = (m.exec (objs.mapM objectName) (m.exec (objectName obj) c).2).2 := by
  simp only [List.mapM_cons, Memory.exec_bind, Memory.exec_pure]

theorem names_ne_nil {objs : List UInt64} (hobjs : objs ≠ []) : names m c objs ≠ [] := by
  obtain ⟨obj, objs, rfl⟩ := List.exists_cons_of_ne_nil hobjs
  rw [names_cons]
  exact List.append_ne_nil_of_right_ne_nil _ (List.cons_ne_nil _ _)

variable {m c} {obj : UInt64}

theorem exec_buildPathName_top (hobj : rmValidatePtr obj = true) (houter : rmValidatePtr (outer m obj) = false)
    (left max : Nat) : m.exec (buildPathName (left + 1) obj max) c =
      (snprintf max (fullPath [(m.exec (objectName obj) c).1]), (m.exec (objectName obj) c).2) := by
  rw [buildPathName, if_pos hobj, exec_objectName, fullPath_singleton]
  simp only [Memory.exec_bind, Memory.exec_lift, Memory.run_rmReadPtr, ptr_outer, houter, Bool.false_eq_true, if_false,
    Memory.exec_ite, Memory.exec_pure]
  exact (apply_ite (fun path => (snprintf max path, _)) _ _ _).symm

theorem exec_buildPathName_inner (hobj : rmValidatePtr obj = true) (houter : rmValidatePtr (outer m obj) = true)
    (left max : Nat) : m.exec (buildPathName (left + 1) obj max) c =
      (snprintf max ((m.exec (buildPathName left (outer m obj) 512) (m.exec (objectName obj) c).2).1 ++ lit "." ++
          (m.exec (objectName obj) c).1),
        (m.exec (buildPathName left (outer m obj) 512) (m.exec (objectName obj) c).2).2) := by
  rw [buildPathName, if_pos hobj, exec_objectName]
  simp only [Memory.exec_bind, Memory.exec_lift, Memory.run_rmReadPtr, ptr_outer, houter, if_true, Memory.exec_pure]

/-- Counting the depth up and the calls down is the same recursion. -/
theorem exec_buildPathNameAt {fuel left depth max : Nat} (hmax : 0 < max) (hdepth : depth + left = maxPathDepth + 1)
    (hfuel : left < fuel) : m.exec (buildPathNameAt fuel obj max depth) c =
      (some (m.exec (buildPathName left obj max) c).1, (m.exec (buildPathName left obj max) c).2) := by
  induction left generalizing fuel obj max depth c with
  | zero =>
    obtain ⟨fuel, rfl⟩ := Nat.exists_eq_add_of_lt hfuel
    rw [Nat.zero_add, buildPathNameAt, if_neg (Nat.pos_iff_ne_zero.mp hmax), if_pos (by omega), buildPathName]
    rfl
  | succ left ih =>
    obtain ⟨fuel, rfl⟩ := Nat.exists_eq_succ_of_ne_zero (Nat.ne_zero_of_lt hfuel)
    have hle : ¬depth > maxPathDepth := by omega
    rw [buildPathNameAt, if_neg (Nat.pos_iff_ne_zero.mp hmax), if_neg hle]
    by_cases hobj : rmValidatePtr obj = true
    · rw [if_pos hobj]
      by_cases houter : rmValidatePtr (outer m obj) = true
      · have hrest := @ih (m.exec (objectName obj) c).2 (outer m obj) fuel (depth + 1) 512 (Nat.zero_lt_succ 511)
          (by omega) (Nat.lt_of_succ_lt_succ hfuel)
        rw [exec_buildPathName_inner hobj houter]
        simp only [Memory.exec_bind, Memory.exec_lift, Memory.run_rmReadPtr, ptr_outer, houter, if_true, hrest,
          Memory.exec_pure]
      · have hbool : rmValidatePtr (outer m obj) = false := Bool.eq_false_iff.mpr houter
        rw [exec_buildPathName_top hobj hbool, fullPath_singleton]
        simp only [Memory.exec_bind, Memory.exec_lift, Memory.run_rmReadPtr, ptr_outer, hbool,
          Bool.false_eq_true, if_false, Memory.exec_ite, Memory.exec_pure]
        exact (apply_ite (fun path => (some (snprintf max path), _)) _ _ _).symm
    · rw [if_neg hobj, buildPathName, if_neg hobj]
      rfl

end Object

/-! ### A chain of objects -/

section Joined
variable {m : Memory} {c : Ue4rCtx} {obj : UInt64}

/-- A chain that ends in time gives the path of all its names. -/
theorem exec_buildPathName_of_outers {objs : List UInt64} (h : Outers m obj objs) (hobj : rmValidatePtr obj = true)
    {left max : Nat} (hleft : objs.length ≤ left) (hmax : max ≤ 512) :
    m.exec (buildPathName left obj max) c =
      (snprintf max (fullPath (names m c objs)), (m.exec (objs.mapM objectName) c).2) := by
  induction h generalizing left max c with
  | top houter =>
    obtain ⟨left, rfl⟩ := Nat.exists_eq_succ_of_ne_zero (Nat.ne_zero_of_lt hleft)
    rw [exec_buildPathName_top hobj houter, names_cons, exec_mapM_cons]
    rfl
  | @inner obj objs houter hobjs ih =>
    obtain ⟨left, rfl⟩ := Nat.exists_eq_succ_of_ne_zero (Nat.ne_zero_of_lt hleft)
    have hrest := ih (c := (m.exec (objectName obj) c).2) houter (Nat.le_of_succ_le_succ hleft) (le_refl 512)
    rw [exec_buildPathName_inner hobj houter, hrest, List.append_assoc, snprintf_snprintf_append hmax, names_cons,
      exec_mapM_cons, fullPath_concat (names_ne_nil m _ hobjs.ne_nil), List.append_assoc]

/-- A chain that goes on for more than `left` objects gives the path of as many names behind three dots. -/
theorem exec_buildPathName_of_valid {left max : Nat}
    (hvalid : ∀ i ≤ left, rmValidatePtr ((outer m)^[i] obj) = true) (hmax : max ≤ 512) :
    m.exec (buildPathName left obj max) c =
      (snprintf max ((lit ".").intercalate (lit "..." :: names m c (.iterate (outer m) obj left))),
        (m.exec ((List.iterate (outer m) obj left).mapM objectName) c).2) := by
  induction left generalizing obj max c with
  | zero => rfl
  | succ left ih =>
    have hrest := @ih (m.exec (objectName obj) c).2 (outer m obj) 512
      (fun i hi => hvalid (i + 1) (Nat.succ_le_succ hi)) (le_refl 512)
    have hobj : rmValidatePtr obj = true := hvalid 0 (Nat.zero_le _)
    have houter : rmValidatePtr (outer m obj) = true := hvalid 1 (Nat.le_add_left 1 left)
    rw [exec_buildPathName_inner hobj houter, hrest, List.append_assoc, snprintf_snprintf_append hmax, List.iterate,
      names_cons, exec_mapM_cons, ← List.cons_append, intercalate_concat _ (List.cons_ne_nil _ _), List.append_assoc]

/-- The call returns. A chain of at most 11 objects gives the path of its names, any other one that of the 11 innermost
    names behind three dots; either is cut once. -/
theorem buildPathNameAt_joined (m : Memory) (c : Ue4rCtx) (obj : UInt64) (max : Nat) :
    ∃ path, (∀ fuel, maxPathDepth + 2 ≤ fuel → (m.exec (buildPathNameAt fuel obj max 0) c).1 = some path) ∧
      (rmValidatePtr obj = true → max ≤ 512 →
        (∀ objs, Outers m obj objs → objs.length ≤ 11 → path = (fullPath (names m c objs)).take (max - 1)) ∧
        ((¬∃ objs, Outers m obj objs ∧ objs.length ≤ 11) →
          path = (cutPath (names m c (List.iterate (outer m) obj 11))).take (max - 1))) := by
  rcases Nat.eq_zero_or_pos max with rfl | hpos
  · refine ⟨[], fun fuel hfuel => ?_, fun _ _ => ⟨fun _ _ _ => rfl, fun _ => rfl⟩⟩
    obtain ⟨fuel, rfl⟩ := Nat.exists_eq_succ_of_ne_zero (Nat.ne_zero_of_lt hfuel)
    rfl
  · refine ⟨(m.exec (buildPathName 11 obj max) c).1, fun fuel hfuel => ?_, fun hobj hmax => ⟨?_, ?_⟩⟩
    · have hdepth : 0 + 11 = maxPathDepth + 1 := rfl
      rw [exec_buildPathNameAt hpos hdepth (Nat.lt_of_succ_le hfuel)]
    · intro objs hobjs hlen
      rw [exec_buildPathName_of_outers hobjs hobj hlen hmax]
      rfl
    · intro hlong
      have hvalid := (outers_or_valid 11 hobj).resolve_left hlong
      rw [exec_buildPathName_of_valid hvalid hmax, List.iterate, cutPath_eq (names_ne_nil m c (List.cons_ne_nil _ _))]
      rfl

end Joined

/-! ### An object that is its own outer -/

def ownOuter : Memory := .ofSegments [(0x2020, [0x00, 0x20, 0, 0, 0, 0, 0, 0])]

theorem buildPathNameAt_joined_ownOuter :
    (ownOuter.exec (buildPathNameAt 12 0x2000 20 0) (.initial 0 0 0)).1 = some (lit "....<unknown>.<unkn") := by
  obtain ⟨path, hpath, hjoined⟩ := buildPathNameAt_joined ownOuter (.initial 0 0 0) 0x2000 20
  have houter : outer ownOuter 0x2000 = 0x2000 := by
    rw [ownOuter, Memory.ofSegments_eq]
    decide +kernel
  have hlong : ¬∃ objs, Outers ownOuter 0x2000 objs ∧ objs.length ≤ 11 := by
    rintro ⟨objs, hobjs, -⟩
    induction objs with
    | nil => exact hobjs.ne_nil rfl
    | cons _ objs ih =>
      cases hobjs with
      | top h => rw [houter] at h; exact absurd h (by decide)
      | inner _ h => rw [houter] at h; exact ih h
  rw [hpath 12 (le_refl 12), (hjoined (by decide) (by decide)).2 hlong, ownOuter, Memory.ofSegments_eq]
  decide +kernel

end PathNames
end RadarAim

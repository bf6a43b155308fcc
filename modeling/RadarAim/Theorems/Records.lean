import RadarAim.Theorems.Lists
import RadarAim.Reflection.Classes

/-! Records and the nodes they are read from. Where a field is zero at its offset of UE 4.18, the reader takes what
    lies at another offset, which in 4.18 belongs to something else. -/

namespace RadarAim
namespace Records

/-! ### The nodes of a walk -/

/-- The records of a list walk, each with its node. `step` is what a round adds to the counter of the loop. -/
def walkTrace {α : Type} (m : Memory) (node : UInt64 → Walker (Option α × UInt64)) (step : Option α → Nat) :
    (fuel : Nat) → UInt64 → (count : Nat) → Ue4rCtx → List (UInt64 × α)
  | 0, _, _, _ => []
  | fuel + 1, ptr, count, c =>
    if rmValidatePtr ptr ∧ count < maxListWalk then
      let ((x, next), c') := m.exec (node ptr) c
      (x.map fun x => (ptr, x)).toList ++ walkTrace m node step fuel next (count + step x) c'
    else []

section Walk
variable (m : Memory)

/-- Only a property moves the counter on. -/
abbrev propertyTrace := walkTrace m readPropertyNode fun p => p.toList.length

abbrev functionTrace := walkTrace m readFunctionNode fun _ => 1

section Step
variable {α : Type} {node : UInt64 → Walker (Option α × UInt64)} {step : Option α → Nat} {fuel : Nat} {ptr : UInt64}
  {count : Nat} {c : Ue4rCtx}

theorem walkTrace_step (h : rmValidatePtr ptr = true ∧ count < maxListWalk) :
    walkTrace m node step (fuel + 1) ptr count c =
      ((m.exec (node ptr) c).1.1.map fun x => (ptr, x)).toList ++
        walkTrace m node step fuel (m.exec (node ptr) c).1.2 (count + step (m.exec (node ptr) c).1.1)
          (m.exec (node ptr) c).2 := by
  rw [walkTrace, if_pos h]

theorem walkTrace_end (h : ¬(rmValidatePtr ptr = true ∧ count < maxListWalk)) :
    walkTrace m node step (fuel + 1) ptr count c = [] := by
  rw [walkTrace, if_neg h]

end Step

theorem mem_walkTrace {α : Type} {node : UInt64 → Walker (Option α × UInt64)} {step : Option α → Nat} {fuel : Nat}
    {ptr : UInt64} {count : Nat} {c : Ue4rCtx} {e : UInt64 × α} (h : e ∈ walkTrace m node step fuel ptr count c) :
    ∃ c', (m.exec (node e.1) c').1.1 = some e.2 := by
  induction fuel generalizing ptr count c with
  | zero => cases h
  | succ fuel ih =>
    by_cases hgo : rmValidatePtr ptr = true ∧ count < maxListWalk
    · rw [walkTrace_step m hgo] at h
      rcases List.mem_append.mp h with hhere | hlater
      · obtain ⟨x, hx, rfl⟩ := Option.map_eq_some_iff.mp (Option.mem_toList.mp hhere)
        exact ⟨c, hx⟩
      · exact ih hlater
    · rw [walkTrace_end m hgo] at h
      cases h

/-- What a loop over a list adds to its items are the records of the nodes. -/
theorem items_of_loop {α : Type} {node : UInt64 → Walker (Option α × UInt64)} {step : Option α → Nat}
    {add : ListWalk α → Option α → ListWalk α} {loop : Nat → UInt64 → ListWalk α → Walker (Option (ListWalk α))}
    (hloop : Lists.GoesOver m node add loop)
    (hitems : ∀ w x, (add w x).items = w.items ++ x.toList) (hcount : ∀ w x, (add w x).count = w.count + step x)
    {fuel : Nat} {ptr : UInt64} {w w' : ListWalk α} {c : Ue4rCtx} (h : (m.exec (loop fuel ptr w) c).1 = some w') :
    w'.items = w.items ++ (walkTrace m node step fuel ptr w.count c).map Prod.snd := by
  induction fuel generalizing ptr w c with
  | zero =>
    rw [hloop.zero] at h
    cases h
  | succ fuel ih =>
    rw [hloop.succ] at h
    by_cases hgo : rmValidatePtr ptr = true ∧ w.count < maxListWalk
    · rw [if_pos hgo] at h
      rw [walkTrace_step m hgo, ih h, hitems, hcount]
      cases (m.exec (node ptr) c).1.1 <;> simp
    · rw [if_neg hgo] at h
      obtain rfl := Option.some.inj h
      simp [walkTrace_end m hgo]

theorem readPropertiesLoop_trace {fuel : Nat} {ptr : UInt64} {w w' : ListWalk Ue4Property} {c : Ue4rCtx}
    (h : (m.exec (readPropertiesLoop fuel ptr w) c).1 = some w') :
    w'.items = w.items ++ (propertyTrace m fuel ptr w.count c).map Prod.snd := by
  refine items_of_loop m (Lists.readPropertiesLoop_goesOver m) (fun w p => ?_) (fun w p => ?_) h
  · cases p <;> simp [ListWalk.addProperty]
  · cases p <;> simp

theorem readFunctionsLoop_trace {fuel : Nat} {ptr : UInt64} {w w' : ListWalk Ue4Function} {c : Ue4rCtx}
    (h : (m.exec (readFunctionsLoop fuel ptr w) c).1 = some w') :
    w'.items = w.items ++ (functionTrace m fuel ptr w.count c).map Prod.snd := by
  refine items_of_loop m (Lists.readFunctionsLoop_goesOver m) (fun w f => ?_) (fun _ _ => rfl) h
  cases f <;> simp [ListWalk.addFunction]

end Walk

/-! ### One record -/

section Node
variable {m : Memory} {c : Ue4rCtx} {node : UInt64}

/-- A node whose class pointer is valid is a UField: its class says whether it is a property. -/
theorem exec_readPropertyNode (h : rmValidatePtr (m.ptr (node + offUobjectClass)) = true) :
    m.exec (readPropertyNode node) c =
      let ((resolved, typeBuf), c') := m.exec (ue4rResolveName (m.ptr (node + offUobjectClass) + offUobjectName) 256) c
      if resolved ∧ strstr typeBuf (lit "Property") then
        ((some (m.exec (readUProperty node typeBuf) c').1, m.ptr (node + offUfieldNext)),
          (m.exec (readUProperty node typeBuf) c').2)
      else ((none, m.ptr (node + offUfieldNext)), c') := by
  simp only [readPropertyNode, Memory.exec_bind, Memory.exec_lift, Memory.run_rmReadPtr, Memory.exec_ite,
    Memory.exec_pure, if_pos h]

theorem exec_readFunctionNode (node : UInt64) (c : Ue4rCtx) : m.exec (readFunctionNode node) c =
    let (className, c') := m.exec (readChildClass (m.ptr (node + offUobjectClass))) c
    if className = lit "Function" then
      ((some (m.exec (readUFunction node) c').1, m.ptr (node + offUfieldNext)), (m.exec (readUFunction node) c').2)
    else ((none, m.ptr (node + offUfieldNext)), c') := by
  simp only [readFunctionNode, readIfFunction, Memory.exec_bind, Memory.exec_lift, Memory.run_rmReadPtr]
  split <;> simp

/-- The value at one offset, and what stands at the other when it is zero. -/
def orElse {α : Type} [OfNat α 0] [DecidableEq α] (value other : α) : α := if value = 0 then other else value

theorem orElse_eq_iff {α : Type} [OfNat α 0] [DecidableEq α] {value other : α} :
    orElse value other = value ↔ (value = 0 → other = 0) := by
  unfold orElse
  by_cases hzero : value = 0
  · simp [hzero]
  · simp [hzero]

theorem run_readUPropertyOffset (propPtr : UInt64) :
    (readUPropertyOffset propPtr).run m.host = orElse (m.i32 (propPtr + 0x44)).1 (m.i32 (propPtr + 0x4c)).1 := by
  simp only [readUPropertyOffset, Prog.run_bind, Memory.run_rmReadI32, Prog.run_ite, Prog.run_map, Prog.run_pure,
    orElse]

/-- An unreadable number is 0. -/
theorem i32_unreadable (a : UInt64) (h : (m.i32 a).2 = false) : (m.i32 a).1 = 0 := by
  unfold Memory.i32 at h ⊢
  cases hread : m.read a 4 with
  | none => rfl
  | some b => rw [hread] at h; cases h

theorem u16_unreadable (a : UInt64) (h : (m.u16 a).2 = false) : (m.u16 a).1 = 0 := by
  unfold Memory.u16 at h ⊢
  cases hread : m.read a 2 with
  | none => rfl
  | some b => rw [hread] at h; cases h

theorem run_readFallback {α : Type} [OfNat α 0] [DecidableEq α] {read : UInt64 → Read (α × Bool)}
    {value : UInt64 → α × Bool} (hrun : ∀ a, (read a).run m.host = value a)
    (hzero : ∀ a, (value a).2 = false → (value a).1 = 0) {at418 : UInt64} (h : (value at418).2 = true)
    (at425 : UInt64) :
    (readFallback read at418 at425).run m.host = orElse (value at418).1 (value at425).1 := by
  rw [readFallback, Prog.run_bind, hrun, orElse]
  by_cases hval : (value at418).1 = 0
  · cases hok : (value at425).2 with
    | true => simp [h, hval, hrun, hok]
    | false => simp [h, hval, hrun, hok, hzero at425 hok]
  · simp [h, hval]

theorem offset_readUProperty (typeBuf : Str) : (m.exec (readUProperty node typeBuf) c).1.offset =
    orElse (m.i32 (node + 0x44)).1 (m.i32 (node + 0x4c)).1 := by
  simp only [readUProperty, Memory.exec_bind, Memory.exec_lift, Memory.exec_pure, run_readUPropertyOffset]

theorem flags_readUFunction (h : (m.i32 (node + offUfuncFlags418)).2 = true) :
    (m.exec (readUFunction node) c).1.flags =
      .ofInt (orElse (m.i32 (node + offUfuncFlags418)).1 (m.i32 (node + offUfuncFlags425)).1) := by
  simp only [readUFunction, Memory.exec_bind, Memory.exec_lift, Memory.exec_pure,
    run_readFallback m.run_rmReadI32 i32_unreadable h]

theorem parmsSize_readUFunction (h : (m.u16 (node + offUfuncParmsSize418)).2 = true) :
    (m.exec (readUFunction node) c).1.parmsSize =
      orElse (m.u16 (node + offUfuncParmsSize418)).1 (m.u16 (node + offUfuncParmsSize425)).1 := by
  simp only [readUFunction, Memory.exec_bind, Memory.exec_lift, Memory.exec_pure,
    run_readFallback m.run_rmReadU16 u16_unreadable h]

end Node

/-! ### The record of a class -/

section Class
variable (m : Memory) (c : Ue4rCtx) (fuel : Nat) (obj : UInt64)

/-- What `readClass` reads before the lists. -/
def classHead (obj : UInt64) : Walker (Str × Str × Int) := do
  let name ← buildPathName (maxPathDepth + 1) obj 512
  let superPtr ← rmReadPtr (obj + offUstructSuper)
  let superPtr ← validOr superPtr (obj + offUstructSuper425)
  let superName ← readSuperName superPtr
  let structSize ← readFallback rmReadI32 (obj + offUstructPropsSize) (obj + offUstructPropsSize425)
  pure (name, superName, structSize)

/-- The context that the property walk of the class starts with, and the one of the function walk. -/
def propertyCtx : Ue4rCtx := (m.exec (classHead obj) c).2

def functionCtx : Ue4rCtx := (m.exec (readProperties fuel obj) (propertyCtx m c obj)).2

def firstFunction (classAddr : UInt64) : Read UInt64 := do
  let child ← rmReadPtr (classAddr + offUstructChildren)
  validOr child (classAddr + offUstructChildren425)

/-- The properties and the functions of the class record, each with its node. -/
def propertyRecords : List (UInt64 × Ue4Property) :=
  propertyTrace m fuel (m.exec (firstProperty obj) (propertyCtx m c obj)).1 0
    (m.exec (firstProperty obj) (propertyCtx m c obj)).2

def functionRecords : List (UInt64 × Ue4Function) :=
  functionTrace m fuel ((firstFunction obj).run m.host) 0 (functionCtx m c fuel obj)

variable {m c fuel obj}

/-- The lists of a class record are the records of the two walks. -/
theorem records_of_readClass {r : Ue4Class} (h : (m.exec (readClass fuel obj) c).1 = some r) :
    r.structSize = (readFallback rmReadI32 (obj + offUstructPropsSize) (obj + offUstructPropsSize425)).run m.host ∧
      r.properties = (propertyRecords m c fuel obj).map Prod.snd ∧
      r.functions = (functionRecords m c fuel obj).map Prod.snd := by
  have hctx : propertyCtx m c obj = (m.exec (classHead obj) c).2 := rfl
  simp only [classHead, Memory.exec_bind, Memory.exec_lift, Memory.exec_pure] at hctx
  simp only [readClass, Memory.exec_bind, Memory.exec_lift, ← hctx] at h
  cases hprops : (m.exec (readProperties fuel obj) (propertyCtx m c obj)).1 with
  | none => rw [hprops] at h; cases h
  | some props =>
    simp only [hprops, Memory.exec_bind] at h
    cases hfuns : (m.exec (readFunctions fuel obj) (functionCtx m c fuel obj)).1 with
    | none =>
      unfold functionCtx at hfuns
      rw [hfuns] at h
      cases h
    | some funs =>
      unfold functionCtx at hfuns
      rw [hfuns] at h
      obtain rfl := Option.some.inj h
      refine ⟨rfl, ?_, ?_⟩
      · rw [readProperties, Memory.exec_bind] at hprops
        simpa [ListWalk.start, propertyRecords] using readPropertiesLoop_trace m hprops
      · simp only [readFunctions, Memory.exec_bind, Memory.exec_lift, Memory.run_rmReadPtr] at hfuns
        simpa [ListWalk.start, functionRecords, firstFunction, functionCtx] using readFunctionsLoop_trace m hfuns

end Class

/-! ### Zeros -/

/-- The fields of UE 4.18 can be read: of the class, of the properties, which are UFields, and of the functions. -/
structure Readable418 (m : Memory) (obj : UInt64) (props : List (UInt64 × Ue4Property))
    (funs : List (UInt64 × Ue4Function)) : Prop where
  structSize : (m.i32 (obj + offUstructPropsSize)).2 = true
  properties : ∀ e ∈ props, rmValidatePtr (m.ptr (e.1 + offUobjectClass)) = true ∧ (m.i32 (e.1 + 0x44)).2 = true
  functions : ∀ e ∈ funs, (m.i32 (e.1 + offUfuncFlags418)).2 = true ∧ (m.u16 (e.1 + offUfuncParmsSize418)).2 = true

/-- The class record and the records in it carry the values at the offsets of UE 4.18. -/
structure Genuine (m : Memory) (obj : UInt64) (r : Ue4Class) (props : List (UInt64 × Ue4Property))
    (funs : List (UInt64 × Ue4Function)) : Prop where
  structSize : r.structSize = (m.i32 (obj + offUstructPropsSize)).1
  properties : r.properties = props.map Prod.snd ∧ ∀ e ∈ props, e.2.offset = (m.i32 (e.1 + 0x44)).1
  functions : r.functions = funs.map Prod.snd ∧ ∀ e ∈ funs,
    e.2.flags = .ofInt (m.i32 (e.1 + offUfuncFlags418)).1 ∧ e.2.parmsSize = (m.u16 (e.1 + offUfuncParmsSize418)).1

/-- Where a field is zero, so is what lies at the other offset, or it cannot be read. -/
structure ZeroToo (m : Memory) (obj : UInt64) (props : List (UInt64 × Ue4Property))
    (funs : List (UInt64 × Ue4Function)) : Prop where
  structSize : (m.i32 (obj + offUstructPropsSize)).1 = 0 → (m.i32 (obj + offUstructPropsSize425)).1 = 0
  offset : ∀ e ∈ props, (m.i32 (e.1 + 0x44)).1 = 0 → (m.i32 (e.1 + 0x4c)).1 = 0
  flags : ∀ e ∈ funs, (m.i32 (e.1 + offUfuncFlags418)).1 = 0 → (m.i32 (e.1 + offUfuncFlags425)).1 = 0
  parmsSize : ∀ e ∈ funs, (m.u16 (e.1 + offUfuncParmsSize418)).1 = 0 → (m.u16 (e.1 + offUfuncParmsSize425)).1 = 0

section Zeros
variable {m : Memory} {c : Ue4rCtx} {fuel : Nat} {obj : UInt64}

theorem i32_eq_zero_of_ofInt {a : UInt64} (h : UInt32.ofInt (m.i32 a).1 = 0) : (m.i32 a).1 = 0 := by
  obtain ⟨b, hb⟩ : ∃ b : BitVec 32, (m.i32 a).1 = b.toInt := by
    unfold Memory.i32
    cases m.read a 4 with
    | none => exact ⟨0, rfl⟩
    | some buf => exact ⟨_, rfl⟩
  rw [hb] at h ⊢
  have hlt := b.isLt
  have hmod : (b.toInt % 2 ^ 32).toNat % 2 ^ 32 = 0 := congrArg UInt32.toNat h
  rw [BitVec.toInt_eq_toNat_cond] at hmod ⊢
  omega

theorem flags_eq_iff {a a' : UInt64} :
    UInt32.ofInt (orElse (m.i32 a).1 (m.i32 a').1) = .ofInt (m.i32 a).1 ↔ ((m.i32 a).1 = 0 → (m.i32 a').1 = 0) := by
  constructor
  · intro h hzero
    rw [orElse, if_pos hzero, hzero] at h
    exact i32_eq_zero_of_ofInt h
  · intro h
    rw [orElse_eq_iff.mpr h]

/-- A property record has the offset that its node gives. -/
theorem offset_of_mem {e : UInt64 × Ue4Property} (h : e ∈ propertyRecords m c fuel obj)
    (hvalid : rmValidatePtr (m.ptr (e.1 + offUobjectClass)) = true) :
    e.2.offset = orElse (m.i32 (e.1 + 0x44)).1 (m.i32 (e.1 + 0x4c)).1 := by
  obtain ⟨c', hnode⟩ := mem_walkTrace m h
  rw [exec_readPropertyNode hvalid] at hnode
  split at hnode
  split at hnode
  · obtain hrec := Option.some.inj hnode
    rw [← hrec, offset_readUProperty]
  · cases hnode

theorem fields_of_mem {e : UInt64 × Ue4Function} (h : e ∈ functionRecords m c fuel obj)
    (hflags : (m.i32 (e.1 + offUfuncFlags418)).2 = true) (hparms : (m.u16 (e.1 + offUfuncParmsSize418)).2 = true) :
    e.2.flags = .ofInt (orElse (m.i32 (e.1 + offUfuncFlags418)).1 (m.i32 (e.1 + offUfuncFlags425)).1) ∧
      e.2.parmsSize = orElse (m.u16 (e.1 + offUfuncParmsSize418)).1 (m.u16 (e.1 + offUfuncParmsSize425)).1 := by
  obtain ⟨c', hnode⟩ := mem_walkTrace m h
  rw [exec_readFunctionNode] at hnode
  split at hnode
  split at hnode
  · obtain hrec := Option.some.inj hnode
    rw [← hrec]
    exact ⟨flags_readUFunction hflags, parmsSize_readUFunction hparms⟩
  · cases hnode

/-- A zero survives exactly where the other offset has one as well. -/
theorem genuine_iff {r : Ue4Class} (h : (m.exec (readClass fuel obj) c).1 = some r)
    (h418 : Readable418 m obj (propertyRecords m c fuel obj) (functionRecords m c fuel obj)) :
    Genuine m obj r (propertyRecords m c fuel obj) (functionRecords m c fuel obj) ↔
      ZeroToo m obj (propertyRecords m c fuel obj) (functionRecords m c fuel obj) := by
  obtain ⟨hsize, hprops, hfuns⟩ := records_of_readClass h
  rw [run_readFallback m.run_rmReadI32 i32_unreadable h418.structSize] at hsize
  constructor
  · intro hg
    have hfields := fun e he => fields_of_mem he (h418.functions e he).1 (h418.functions e he).2
    refine ⟨orElse_eq_iff.mp (hsize.symm.trans hg.structSize), fun e he => ?_, fun e he => ?_, fun e he => ?_⟩
    · have hoffset := offset_of_mem he (h418.properties e he).1
      exact orElse_eq_iff.mp (hoffset.symm.trans (hg.properties.2 e he))
    · exact flags_eq_iff.mp ((hfields e he).1.symm.trans (hg.functions.2 e he).1)
    · exact orElse_eq_iff.mp ((hfields e he).2.symm.trans (hg.functions.2 e he).2)
  · intro hz
    refine ⟨hsize.trans (orElse_eq_iff.mpr hz.structSize), ⟨hprops, fun e he => ?_⟩, hfuns, fun e he => ?_⟩
    · rw [offset_of_mem he (h418.properties e he).1]
      exact orElse_eq_iff.mpr (hz.offset e he)
    · obtain ⟨hflags, hparms⟩ := fields_of_mem he (h418.functions e he).1 (h418.functions e he).2
      exact ⟨hflags.trans (flags_eq_iff.mpr (hz.flags e he)), hparms.trans (orElse_eq_iff.mpr (hz.parmsSize e he))⟩

end Zeros

/-- A class at 0x10000 with an `IntProperty` at offset 0 and a `Function` without flags and parameters. -/
def zeroFields : Memory := .ofSegments
  [(0x10000, leBytes 56 0 ++ leBytes 8 0x11000 ++ leBytes 64 0),
   (0x11000, leBytes 16 0 ++ leBytes 8 0x13000 ++ leBytes 16 0 ++ leBytes 8 0x12000 ++ leBytes 64 0),
   (0x12000, leBytes 16 0 ++ leBytes 8 0x14000 ++ leBytes 256 0),
   (0x13000, leBytes 24 0 ++ leBytes 8 1), (0x14000, leBytes 24 0 ++ leBytes 8 2),
   (0x20000, leBytes 8 0 ++ leBytes 8 0x30000), (0x30000, leBytes 8 0x40000),
   (0x40000, leBytes 8 0 ++ leBytes 8 0x50000 ++ leBytes 8 0x51000),
   (0x50000, leBytes 12 0 ++ lit "IntProperty" ++ leBytes 60 0),
   (0x51000, leBytes 12 0 ++ lit "Function" ++ leBytes 60 0)]

theorem genuine_iff_zero :
    ∃ r, r.properties.map Ue4Property.offset = [0] ∧ r.functions.map Ue4Function.parmsSize = [0] ∧
    Genuine zeroFields 0x10000 r (propertyRecords zeroFields (.initial 0 0x20000 0x30000) 3 0x10000)
      (functionRecords zeroFields (.initial 0 0x20000 0x30000) 3 0x10000) := by
  have hread : (zeroFields.exec (readClass 3 0x10000) (.initial 0 0x20000 0x30000)).1 =
      some ⟨lit "/<unknown>", [], 0, [⟨lit "<unknown>", lit "IntProperty", 0, 0, 0⟩], [⟨lit "<unknown>", 0, 0⟩]⟩ := by
    rw [zeroFields, Memory.ofSegments_eq]
    decide +kernel
  have hprops : (propertyRecords zeroFields (.initial 0 0x20000 0x30000) 3 0x10000).map Prod.fst = [0x11000] := by
    rw [zeroFields, Memory.ofSegments_eq]
    decide +kernel
  have hfuns : (functionRecords zeroFields (.initial 0 0x20000 0x30000) 3 0x10000).map Prod.fst = [0x12000] := by
    rw [zeroFields, Memory.ofSegments_eq]
    decide +kernel
  have hprop : ∀ e ∈ propertyRecords zeroFields (.initial 0 0x20000 0x30000) 3 0x10000, e.1 = 0x11000 := fun e he =>
    List.mem_singleton.mp (hprops ▸ List.mem_map_of_mem he)
  have hfun : ∀ e ∈ functionRecords zeroFields (.initial 0 0x20000 0x30000) 3 0x10000, e.1 = 0x12000 := fun e he =>
    List.mem_singleton.mp (hfuns ▸ List.mem_map_of_mem he)
  have hclass : zeroFields.i32 (0x10000 + offUstructPropsSize) = (0, true) ∧
      zeroFields.i32 (0x10000 + offUstructPropsSize425) = (0, true) := by
    rw [zeroFields, Memory.ofSegments_eq]
    decide +kernel
  have hnode : rmValidatePtr (zeroFields.ptr (0x11000 + offUobjectClass)) = true ∧
      zeroFields.i32 (0x11000 + 0x44) = (0, true) ∧ zeroFields.i32 (0x11000 + 0x4c) = (0, true) := by
    rw [zeroFields, Memory.ofSegments_eq]
    decide +kernel
  have hchild : zeroFields.i32 (0x12000 + offUfuncFlags418) = (0, true) ∧
      zeroFields.i32 (0x12000 + offUfuncFlags425) = (0, true) ∧
      zeroFields.u16 (0x12000 + offUfuncParmsSize418) = (0, true) ∧
      zeroFields.u16 (0x12000 + offUfuncParmsSize425) = (0, true) := by
    rw [zeroFields, Memory.ofSegments_eq]
    decide +kernel
  -- Each field is zero in both layouts, so it does not matter which one is read.
  refine ⟨_, rfl, rfl, (genuine_iff hread ⟨by rw [hclass.1], fun e he => ?_, fun e he => ?_⟩).mpr
    ⟨fun _ => by rw [hclass.2], fun e he _ => ?_, fun e he _ => ?_, fun e he _ => ?_⟩⟩
  · rw [hprop e he, hnode.2.1]
    exact ⟨hnode.1, rfl⟩
  · rw [hfun e he, hchild.1, hchild.2.2.1]
    exact ⟨rfl, rfl⟩
  · rw [hprop e he, hnode.2.2]
  · rw [hfun e he, hchild.2.1]
  · rw [hfun e he, hchild.2.2.2]

/-- A class at 0x10000 with PropertiesSize 0 and the word `x` at the offset of UE 4.25. -/
def sizeMemory (x : UInt8) : Memory := fun a => some (if a = 0x10058 then x else 0)

/-- A PropertiesSize of 0 gives way to what lies at the offset of UE 4.25. -/
theorem zero_size_lost : ¬∀ (m : Memory) (c : Ue4rCtx) (fuel : Nat) (obj : UInt64) (r : Ue4Class),
    (m.exec (readClass fuel obj) c).1 = some r →
      Readable418 m obj (propertyRecords m c fuel obj) (functionRecords m c fuel obj) →
        Genuine m obj r (propertyRecords m c fuel obj) (functionRecords m c fuel obj) := by
  intro h
  have hgenuine := h (sizeMemory 7) (.initial 0 0 0) 1 0x10000 ⟨lit "/<unknown>", [], 7, [], []⟩ (by decide +kernel)
    ⟨by decide +kernel, (fun e he => by cases he), (fun e he => by cases he)⟩
  have hsize := hgenuine.structSize
  revert hsize
  decide +kernel

end Records
end RadarAim

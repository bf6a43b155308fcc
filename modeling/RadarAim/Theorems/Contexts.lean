import RadarAim.Reflection.Classes
import RadarAim.Reflection.Instances
import RadarAim.Theorems.FailedLookup

/-! The contexts that the functions of the walker leave. A slot of the name cache holds no more of a name than there was
    room for, in the slot and in the buffer of the caller that filled it, and later callers are answered from it. -/

namespace RadarAim
namespace Contexts
open Names FailedLookup

/-! ### What a program leaves of the context -/

section Stays
variable {α β : Type} {m : Memory} {P : Ue4rCtx → Prop}

/-- On a memory that does not change, `p` leaves a context of `P` in `P`. -/
def Stays (m : Memory) (P : Ue4rCtx → Prop) (p : Walker α) : Prop := ∀ c, P c → P (m.exec p c).2

theorem Stays.pure (a : α) : Stays m P (pure a) := fun _ hc => hc

theorem Stays.lift (p : Read α) : Stays m P (liftM p) := fun c hc => by
  rw [Memory.exec_lift]
  exact hc

theorem Stays.bind {p : Walker α} {f : α → Walker β} (hp : Stays m P p) (hf : ∀ a, Stays m P (f a)) :
    Stays m P (p >>= f) := fun c hc => by
  rw [Memory.exec_bind]
  exact hf _ _ (hp c hc)

theorem Stays.map {p : Walker α} (f : α → β) (hp : Stays m P p) : Stays m P (f <$> p) := fun c hc => by
  rw [Memory.exec_map]
  exact hp c hc

theorem Stays.get : Stays m P get := fun _ hc => hc

theorem Stays.modify {f : Ue4rCtx → Ue4rCtx} (hf : ∀ c, P c → P (f c)) : Stays m P (modify f) := fun c hc => by
  rw [Memory.exec_modify]
  exact hf c hc

theorem Stays.ite {b : Prop} [Decidable b] {p q : Walker α} (hp : Stays m P p) (hq : Stays m P q) :
    Stays m P (if b then p else q) := by
  split
  · exact hp
  · exact hq

end Stays

/-! ### What a slot of the name cache holds -/

/-- A name as the walker itself looks it up, cut to the size of a slot. -/
def Stored (m : Memory) (t : NameTables) (compIndex : Nat) (s : Str) : Prop :=
  ∃ full, nameText m t compIndex 256 = some full ∧ s = full.take 59

/-- A name as a caller with a buffer of any size looks it up, cut to the size of a slot. -/
def Cut (m : Memory) (t : NameTables) (compIndex : Nat) (s : Str) : Prop :=
  ∃ max full, nameText m t compIndex max = some full ∧ s = full.take 59

/-- If the name cache answers for the FName at `fnameAddr`, it tells rightly whether the name is `name`. -/
def Tells (m : Memory) (c : Ue4rCtx) (fnameAddr : UInt64) (name : Str) : Prop :=
  ∀ compIndex ∈ nameIndex m fnameAddr, Hit c compIndex →
    (snprintf 256 ((c.nameCache (compIndex % nameCacheSize)).name ++ numberSuffix (nameNumber m fnameAddr)) = name ↔
      uncached m (tables c) fnameAddr 256 = (true, name))

instance (m : Memory) (c : Ue4rCtx) (fnameAddr : UInt64) (name : Str) : Decidable (Tells m c fnameAddr name) :=
  inferInstanceAs (Decidable (∀ compIndex ∈ nameIndex m fnameAddr, _ → _))

section Slots
variable {m : Memory} {t : NameTables} {c : Ue4rCtx} {fnameAddr : UInt64} {name : Str}

theorem stored_of_text (t : NameTables) (compIndex : Nat) (s : Str) (h : nameText m t compIndex 256 = some s) :
    Stored m t compIndex (s.take 59) := ⟨s, h, rfl⟩

theorem cut_of_text {max : Nat} (t : NameTables) (compIndex : Nat) (s : Str) (h : nameText m t compIndex max = some s) :
    Cut m t compIndex (s.take 59) := ⟨max, s, h, rfl⟩

theorem Stored.cut {compIndex : Nat} {s : Str} (h : Stored m t compIndex s) : Cut m t compIndex s := by
  obtain ⟨full, hfull, hs⟩ := h
  exact ⟨256, full, hfull, hs⟩

/-- A lookup is right about a name exactly when the cache is. -/
theorem tells_iff (h : ChunksOk m c) : Tells m c fnameAddr name ↔
    ((m.exec (ue4rResolveName fnameAddr 256) c).1 = (true, name) ↔
      uncached m (tables c) fnameAddr 256 = (true, name)) := by
  unfold Tells
  cases hindex : nameIndex m fnameAddr with
  | none =>
    rw [exec_ue4rResolveName_of_none m hindex, uncached_of_none m hindex]
    simp
  | some compIndex =>
    rw [exec_ue4rResolveName_of_index m (by decide) hindex]
    by_cases hhit : Hit c compIndex
    · rw [exec_resolveIndex_hit m c hhit]
      simp [hhit]
    · rw [exec_resolveIndex_of_miss h hhit, uncached_of_index m (by decide) hindex]
      simp [hhit]

/-- Of a name in the tables that a slot has room for the cache holds all. -/
theorem tells_of_whole (h : CacheOk m (Cut m) c) {compIndex : Nat} (hindex : nameIndex m fnameAddr = some compIndex)
    {text : Str} (htext : tableText m (tables c) compIndex = some text) (hlen : text.length ≤ 59) :
    Tells m c fnameAddr name := by
  intro i hi hhit
  obtain rfl := Option.some.inj (hindex.symm.trans hi)
  have hname : ∀ max, nameText m (tables c) compIndex max = some text :=
    fun max => by rw [nameText, htext, Option.some_or]
  obtain ⟨max, full, hfull, hslot⟩ := h.cache _ compIndex hhit.1 hhit.2
  obtain rfl := Option.some.inj ((hname max).symm.trans hfull)
  rw [hslot, List.take_of_length_le hlen, uncached_of_index m (by decide) hindex, answer_of_some m _ (hname 256),
    appendNumber_of_short hlen (nameNumber_lt m fnameAddr), Prod.mk.injEq, eq_self, true_and]

section Kept
variable {P : NameTables → Nat → Str → Prop}

theorem tables_of_kept {c' : Ue4rCtx} (h : CachesKept m P c c') : tables c' = tables c := by
  obtain ⟨chunks, cache, rfl⟩ := h.same
  rfl

/-- A lookup leaves texts in the cache that are as those it stores. -/
theorem exec_resolveName_kept (h : CacheOk m P c) {max : Nat}
    (hstore : ∀ t compIndex s, nameText m t compIndex max = some s → P t compIndex (s.take 59)) (fnameAddr : UInt64) :
    CachesKept m P c (m.exec (ue4rResolveName fnameAddr max) c).2 :=
  (@exec_ue4rResolveName m c P h fnameAddr max fun compIndex s _ hs => hstore _ compIndex s hs).1

/-- The caches, and the tables that the names come from. -/
def Holds (m : Memory) (P : NameTables → Nat → Str → Prop) (t : NameTables) (c : Ue4rCtx) : Prop :=
  CacheOk m P c ∧ tables c = t

theorem resolveName_stays {max : Nat}
    (hstore : ∀ t compIndex s, nameText m t compIndex max = some s → P t compIndex (s.take 59)) (t : NameTables)
    (fnameAddr : UInt64) : Stays m (Holds m P t) (ue4rResolveName fnameAddr max) := by
  rintro c ⟨hok, htables⟩
  have hkept := exec_resolveName_kept hok hstore fnameAddr
  exact ⟨hkept.ok, (tables_of_kept hkept).trans htables⟩

theorem Holds.meta {c : Ue4rCtx} (h : Holds m P t c) (cls : UInt64) : Holds m P t { c with uclassClass := cls } :=
  ⟨⟨h.1.chunks, h.1.cache⟩, h.2⟩

end Kept

end Slots

/-! ### The walker -/

section Walker
variable {m : Memory} {P : Ue4rCtx → Prop} (hname : ∀ fnameAddr, Stays m P (ue4rResolveName fnameAddr 256))
include hname

theorem resolveObjectName_stays (objAddr : UInt64) : Stays m P (resolveObjectName objAddr 256) :=
  .ite (hname _) (.pure _)

theorem buildPathName_stays (left : Nat) (objAddr : UInt64) (max : Nat) :
    Stays m P (buildPathName left objAddr max) := by
  induction left generalizing objAddr max with
  | zero => exact .pure _
  | succ left ih =>
    refine .ite (.bind (resolveObjectName_stays hname objAddr) ?_) (.pure _)
    rintro ⟨resolved, name⟩
    refine .bind (.lift _) fun outer => ?_
    refine .ite (.bind (ih outer 512) fun outerPath => .pure _) ?_
    exact .ite (.pure _) (.pure _)

theorem readUProperty_stays (propPtr : UInt64) (typeBuf : Str) : Stays m P (readUProperty propPtr typeBuf) := by
  refine .bind (hname _) ?_
  rintro ⟨resolved, name⟩
  exact .bind (.lift _) fun arrayDim => .bind (.lift _) fun elementSize => .bind (.lift _) fun offset => .pure _

theorem readFProperty_stays (propPtr : UInt64) : Stays m P (readFProperty propPtr) := by
  refine .bind (hname _) ?_
  rintro ⟨resolved, name⟩
  refine .bind (.lift _) fun fclass => .bind (.ite (hname _) (.pure _)) ?_
  rintro ⟨typed, type⟩
  exact .bind (.lift _) fun arrayDim => .bind (.lift _) fun elementSize => .bind (.lift _) fun offset => .pure _

theorem readPropertyNode_stays (propPtr : UInt64) : Stays m P (readPropertyNode propPtr) := by
  refine .bind (.lift _) fun uclass => .ite (.bind (hname _) ?_) ?_
  · rintro ⟨resolved, typeBuf⟩
    refine .ite (.bind (readUProperty_stays hname propPtr typeBuf) fun p => ?_) ?_
    · exact .bind (.lift _) fun next => .pure _
    · exact .bind (.lift _) fun next => .pure _
  · exact .bind (readFProperty_stays hname propPtr) fun p => .bind (.lift _) fun next => .pure _

theorem readChildClass_stays (childClass : UInt64) : Stays m P (readChildClass childClass) :=
  .ite (.map _ (resolveObjectName_stays hname childClass)) (.pure _)

theorem readUFunction_stays (child : UInt64) : Stays m P (readUFunction child) := by
  refine .bind (resolveObjectName_stays hname child) ?_
  rintro ⟨resolved, name⟩
  exact .bind (.lift _) fun flags => .bind (.lift _) fun parmsSize => .pure _

theorem readFunctionNode_stays (child : UInt64) : Stays m P (readFunctionNode child) := by
  refine .bind (.lift _) fun childClass => .bind (readChildClass_stays hname childClass) fun className => ?_
  refine .bind (.ite (.map _ (readUFunction_stays hname child)) (.pure _)) fun f => ?_
  exact .bind (.lift _) fun next => .pure _

theorem readPropertiesLoop_stays (fuel : Nat) (propPtr : UInt64) (w : ListWalk Ue4Property) :
    Stays m P (readPropertiesLoop fuel propPtr w) := by
  induction fuel generalizing propPtr w with
  | zero => exact .pure _
  | succ fuel ih =>
    refine .ite (.bind (readPropertyNode_stays hname propPtr) ?_) (.pure _)
    rintro ⟨p, next⟩
    exact ih next _

theorem readFunctionsLoop_stays (fuel : Nat) (child : UInt64) (w : ListWalk Ue4Function) :
    Stays m P (readFunctionsLoop fuel child w) := by
  induction fuel generalizing child w with
  | zero => exact .pure _
  | succ fuel ih =>
    refine .ite (.bind (readFunctionNode_stays hname child) ?_) (.pure _)
    rintro ⟨f, next⟩
    exact ih next _

theorem readSuperName_stays (superPtr : UInt64) : Stays m P (readSuperName superPtr) :=
  .ite (buildPathName_stays hname _ superPtr 512) (.pure _)

theorem readProperties_stays (fuel : Nat) (classAddr : UInt64) : Stays m P (readProperties fuel classAddr) := by
  refine .bind ?_ fun propPtr => readPropertiesLoop_stays hname fuel propPtr _
  exact .bind (.lift _) fun ptr => .bind (.lift _) fun ptr' => .lift _

theorem readFunctions_stays (fuel : Nat) (classAddr : UInt64) : Stays m P (readFunctions fuel classAddr) :=
  .bind (.lift _) fun _ => .bind (.lift _) fun child => readFunctionsLoop_stays hname fuel child _

/-- Reading a class changes the context by its lookups of names only. -/
theorem readClass_stays (fuel : Nat) (obj : UInt64) : Stays m P (readClass fuel obj) := by
  refine .bind (buildPathName_stays hname _ obj 512) fun name => .bind (.lift _) fun _ =>
    .bind (.lift _) fun superPtr => ?_
  refine .bind (readSuperName_stays hname superPtr) fun superName => .bind (.lift _) fun structSize => ?_
  refine .bind (readProperties_stays hname fuel obj) fun properties => ?_
  cases properties with
  | none => exact .pure _
  | some properties =>
    refine .bind (readFunctions_stays hname fuel obj) fun functions => ?_
    cases functions with
    | none => exact .pure _
    | some functions => exact .pure _

variable (hmeta : ∀ c cls, P c → P { c with uclassClass := cls })
include hmeta

/-- The test of an object may also note the metaclass. -/
theorem isUclass_stays (obj : UInt64) : Stays m P (isUclass obj) := by
  refine .bind (.lift _) fun cls => .bind .get fun ctx =>
    .ite (.pure _) (.ite (.bind (resolveObjectName_stays hname cls) ?_) (.pure _))
  rintro ⟨resolved, clsName⟩
  refine .ite (.bind (.modify fun c hc => ?_) fun _ => .pure _) (.pure _)
  split
  · exact hmeta c cls hc
  · exact hc

omit hname hmeta in
theorem forWindows_stays {σ : Type} {body : UInt64 → σ → Walker (Option σ)} (hbody : ∀ obj s, Stays m P (body obj s))
    (objects : UInt64) (windows numElems b : Nat) (s : σ) :
    Stays m P (forWindows objects body windows numElems b s) := by
  have hwindow : ∀ (fetch : Nat → Read UInt64) (todo k : Nat) (s : σ), Stays m P (forWindow fetch body todo k s) := by
    intro fetch todo
    induction todo with
    | zero => exact fun k s => .pure _
    | succ todo ih =>
      refine fun k s => .bind (.lift _) fun obj => .bind (.ite (hbody obj s) (.pure _)) fun r => ?_
      cases r with
      | none => exact .pure _
      | some s => exact ih (k + 1) s
  induction windows generalizing b s with
  | zero => exact .pure _
  | succ windows ih =>
    refine .bind (.lift _) fun batch => .bind (hwindow _ _ 0 s) fun r => ?_
    cases r with
    | none => exact .pure _
    | some s => exact ih _ s

theorem visit_stays {α : Type} (fuel : Nat) (obj : UInt64) {given : Option Ue4Class → Walker α} {passed : Walker α}
    (hgiven : ∀ r, Stays m P (given r)) (hpassed : Stays m P passed) :
    Stays m P (isUclass obj >>= fun isClass => if isClass then readClass fuel obj >>= given else passed) :=
  .bind (isUclass_stays hname hmeta obj) fun _ => .ite (.bind (readClass_stays hname fuel obj) hgiven) hpassed

theorem ue4rWalkClasses_stays (fuel : Nat) : Stays m P (ue4rWalkClasses fuel) := by
  refine .bind .get fun ctx => .bind (.lift _) fun info => ?_
  cases info with
  | none => exact .pure _
  | some info =>
    refine forWindows_stays (fun obj list => visit_stays hname hmeta fuel obj (fun r => ?_) (.pure _)) _ _ _ _ _
    cases r <;> exact .pure _

theorem ue4rIterateClasses_stays {ω : Type} (fuel : Nat) (cb : ω → Ue4Class → ω) (userdata : ω) :
    Stays m P (ue4rIterateClasses fuel cb userdata) := by
  refine .bind .get fun ctx => .bind (.lift _) fun info => ?_
  cases info with
  | none => exact .pure _
  | some info =>
    refine forWindows_stays (fun obj s => visit_stays hname hmeta fuel obj (fun r => ?_) (.pure _)) _ _ _ _ _
    cases r <;> exact .pure _

end Walker

/-! ### The search for instances -/

section Finder
variable {m : Memory} {P : Ue4rCtx → Prop} (hname : ∀ obj, Stays m P (resolveObjectName obj 256))
  (hlookup : ∀ c keys isMatch cls name, P c → P { c with
    lookupKeys := keys, lookupMatches := isMatch, lookupClass := cls, lookupName := name })
include hlookup

theorem classMatches_stays (cls : UInt64) : Stays m P (classMatches cls) :=
  .bind .get fun _ => .ite (.bind (.lift _) fun _ => .bind (.modify fun c => hlookup c _ _ _ _) fun _ =>
    .pure _) (.pure _)

theorem startLookup_stays (name : Str) (cursor : Nat) : Stays m P (startLookup name cursor) :=
  .bind .get fun _ => .ite (.bind (.modify fun c => hlookup c _ _ _ _) fun _ => .pure _) (.pure _)

include hname

theorem findBody_stays (name : Str) (obj : UInt64) : Stays m P (findBody name obj) := by
  refine .bind (.lift _) fun header => ?_
  cases header with
  | none => exact .pure _
  | some header =>
    refine .bind .get fun ctx => .ite (.ite (.pure _) (.bind (hname obj) ?_)) ?_
    · rintro ⟨resolved, candidate⟩
      exact .ite (.bind (.modify fun c => hlookup c _ _ _ _) fun _ => .pure _) (.pure _)
    · exact .ite (.bind (classMatches_stays hlookup _) fun isMatch => .pure _) (.pure _)

theorem findLoop_stays (fetch : Nat → Read UInt64) (count : Nat) (name : Str) (budget cursor : Nat) :
    Stays m P (findLoop fetch count (fun obj (u : Unit) => return (← findBody name obj, u)) budget cursor ()) := by
  induction budget generalizing cursor with
  | zero => exact .pure _
  | succ budget ih =>
    refine .ite (.bind (.lift _) fun obj => .ite ?_ (ih _)) (.pure _)
    refine .bind (.bind (findBody_stays hname hlookup name obj) fun step => .pure _) ?_
    rintro ⟨step, u⟩
    cases step with
    | next => exact ih _
    | rewind => exact ih _
    | found => exact .pure _

/-- The search for instances changes the context by its lookups of names, and in what it notes about the class. -/
theorem ue4rFindInstance_stays (name : Str) (cursor : Int) : Stays m P (ue4rFindInstance name cursor) := by
  refine .bind .get fun ctx => .ite (.pure _) (.bind (.lift _) fun info => ?_)
  cases info with
  | none => exact .pure _
  | some info =>
    obtain ⟨objects, count⟩ := info
    refine .ite (.pure _) (.bind (startLookup_stays hlookup name _) fun start => ?_)
    refine .bind (.lift _) fun batch => .bind (findLoop_stays hname hlookup _ count name _ start) ?_
    rintro ⟨obj, cursor, u⟩
    exact .pure _

end Finder

/-! ### Contexts -/

/-- A context of `ue4r_init`, after any calls of the functions that take one. -/
inductive Left (m : Memory) : Ue4rCtx → Prop where
  | init {imageBase slide guobjOff gnamesOff : UInt64} {c : Ue4rCtx}
      (h : (ue4rInit imageBase slide guobjOff gnamesOff).run m.host = some c) : Left m c
  | resolve {c : Ue4rCtx} (h : Left m c) (fnameAddr : UInt64) (max : Nat) :
      Left m (m.exec (ue4rResolveName fnameAddr max) c).2
  | find {c : Ue4rCtx} (h : Left m c) (name : Str) (cursor : Int) : Left m (m.exec (ue4rFindInstance name cursor) c).2
  | walk {c : Ue4rCtx} (h : Left m c) (fuel : Nat) : Left m (m.exec (ue4rWalkClasses fuel) c).2
  | iterate {c : Ue4rCtx} (h : Left m c) (fuel : Nat) {ω : Type} (cb : ω → Ue4Class → ω) (userdata : ω) :
      Left m (m.exec (ue4rIterateClasses fuel cb userdata) c).2

end Contexts
end RadarAim

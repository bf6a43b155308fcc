import RadarAim.Theorems.Contexts
import RadarAim.Theorems.Level
import RadarAim.Theorems.Reader

/-! The types of the classes. What `classify_class` answers is kept for the class, or for as many classes as there is
    room for. A class with a name is typed by that name and by the name of its super class; one without is typed by the
    actor that it was met with. -/

namespace RadarAim
namespace Classes
open Prog Names Contexts Level Reader

/-! ### Contexts of the reader -/

/-- A context that `ue4r_init` and the lookups of the reader have left. -/
inductive Serves (m : Memory) : Ue4rCtx → Prop where
  | init {imageBase slide guobjOff gnamesOff : UInt64} {c : Ue4rCtx}
      (h : (ue4rInit imageBase slide guobjOff gnamesOff).run m.host = some c) : Serves m c
  | find {c : Ue4rCtx} (h : Serves m c) (name : Str) (cursor : Int) :
      Serves m (m.exec (ue4rFindInstance name cursor) c).2
  | name {c : Ue4rCtx} (h : Serves m c) (fnameAddr : UInt64) : Serves m (m.exec (ue4rResolveName fnameAddr 128) c).2

/-- The text is the whole name for the lookups of the reader, if it fits them. -/
def Short (m : Memory) (t : NameTables) (compIndex : Nat) (s : Str) : Prop :=
  Fits m t compIndex 128 → nameText m t compIndex 128 = some s

section Contexts
variable {m : Memory} {c : Ue4rCtx}

theorem exec_resolveName_short (h : CacheOk m (Short m) c) (fnameAddr : UInt64) :
    CachesKept m (Short m) c (m.exec (ue4rResolveName fnameAddr 128) c).2 ∧
      (FitsAt m (tables c) fnameAddr 128 →
        (m.exec (ue4rResolveName fnameAddr 128) c).1 = uncached m (tables c) fnameAddr 128) := by
  obtain ⟨hkept, hanswer⟩ := @exec_ue4rResolveName m c (Short m) h fnameAddr 128
    fun compIndex s _ hs hfits => nameText_of_stored hs (Or.inr hfits) hfits
  refine ⟨hkept, fun hfits => hanswer.elim id ?_⟩
  rintro ⟨compIndex, s, hindex, -, hshort, hanswer⟩
  have htext := hshort (hfits compIndex hindex)
  rw [hanswer, uncached_of_index m (by decide) hindex, answer_of_some m _ htext,
    appendNumber_of_short ((hfits compIndex hindex).slot s htext) (nameNumber_lt m fnameAddr)]

theorem short_of_stored {t : NameTables} {compIndex : Nat} {s : Str} (hs : nameText m t compIndex 256 = some s) :
    Short m t compIndex (s.take 59) := fun hfits => nameText_of_stored hs (Or.inl rfl) hfits

theorem Serves.ok (h : Serves m c) : CacheOk m (Short m) c := by
  induction h with
  | init h => exact (run_ue4rInit (fun _ _ _ hs => short_of_stored hs) h).1
  | find _ name cursor ih =>
    refine ue4rFindInstance_stays (P := CacheOk m (Short m)) ?_ ?_ name cursor _ ih
    · exact fun obj c hc => (exec_resolveObjectName (fun _ _ _ hs => short_of_stored hs) hc obj).ok
    · exact fun c _ _ _ _ hc => ⟨hc.chunks, hc.cache⟩
  | name _ fnameAddr ih => exact (exec_resolveName_short ih fnameAddr).1.ok

end Contexts

/-! ### The type of a class -/

/-- The name of an object, looked up without the cache. -/
def nameOf (m : Memory) (t : Option NameTables) (object : UInt64) : Option Str :=
  t.bind fun t =>
    if (uncached m t (object + offUobjectName) 128).1 then some (uncached m t (object + offUobjectName) 128).2 else none

/-- The name of the object fits the name cache. -/
def NameFits (m : Memory) (t : Option NameTables) (object : UInt64) : Prop :=
  ∀ t' ∈ t, FitsAt m t' (object + offUobjectName) 128

def superOf (m : Memory) (cls : UInt64) : UInt64 := (ptr cls 0x30).run m.host

/-- The type that the names of a class and of its super class decide. -/
def typeOf (m : Memory) (t : Option NameTables) (cls : UInt64) : ClsType :=
  match classOfName ((nameOf m t cls).getD []) with
  | some type => type
  | none => if superOf m cls ≠ 0 then (nameOf m t (superOf m cls)).elim .ignore classOfSuperName else .ignore

/-- The class has a name, and the names that its type depends on fit the name cache. -/
structure Proper (m : Memory) (t : Option NameTables) (cls : UInt64) : Prop where
  nonnull : cls ≠ 0
  named : (nameOf m t cls).isSome = true
  fits : NameFits m t cls
  superFits : superOf m cls ≠ 0 → NameFits m t (superOf m cls)

/-- The classes have been emptied; the reader has a context with the names of `t`, or none. -/
structure Emptied (m : Memory) (t : Option NameTables) (r : Radar) : Prop where
  classes : r.gClasses = []
  tables : r.reflection.map tables = t
  serves : ∀ c ∈ r.reflection, Serves m c

/-- The caches of the reader are right. -/
structure Ready (m : Memory) (t : Option NameTables) (r : Radar) : Prop where
  tables : r.reflection.map Names.tables = t
  names : ∀ c ∈ r.reflection, CacheOk m (Short m) c
  classes : ∀ e ∈ r.gClasses, Proper m t e.classPtr → e.type = typeOf m t e.classPtr

theorem Emptied.ready {m : Memory} {t : Option NameTables} {r : Radar} (h : Emptied m t r) : Ready m t r := by
  refine ⟨h.tables, fun c hc => (h.serves c hc).ok, fun e he => ?_⟩
  rw [h.classes] at he
  cases he

section Classify
variable {m : Memory} {t : Option NameTables} {r : Radar}

/-- A lookup of the reader keeps its caches right; a name that fits is found as it is. -/
theorem exec_resolveNameOf (h : Ready m t r) (object : UInt64) :
    Ready m t (exec m.host (resolveNameOf object) r).2 ∧
      (NameFits m t object → (exec m.host (resolveNameOf object) r).1 = nameOf m t object) := by
  cases hctx : r.reflection with
  | none =>
    rw [exec_resolveNameOf_none hctx]
    have ht : t = none := by
      rw [← h.tables, hctx]
      rfl
    subst ht
    exact ⟨h, fun _ => rfl⟩
  | some c =>
    have ht : t = some (tables c) := by
      rw [← h.tables, hctx]
      rfl
    subst ht
    obtain ⟨hkept, hfits⟩ := exec_resolveName_short (h.names c hctx) (object + offUobjectName)
    rcases hres : m.exec (ue4rResolveName (object + offUobjectName) 128) c with ⟨⟨resolved, name⟩, ctx⟩
    rw [hres] at hkept hfits
    rw [exec_resolveNameOf_some hctx hres]
    refine ⟨?_, fun hobject => ?_⟩
    · obtain ⟨chunks, cache, rfl⟩ := hkept.same
      refine ⟨rfl, fun c' hc' => ?_, h.classes⟩
      rw [← Option.mem_some.mp hc']
      exact hkept.ok
    · have hname := hfits (hobject _ rfl)
      rw [nameOf, Option.bind_some, ← hname]

theorem Ready.use (h : Ready m t r) (recordedIn : UInt64) : Ready m t (r.use recordedIn) :=
  ⟨h.tables, h.names, h.classes⟩

/-- The type of a class is added to the cache, if there is room. -/
theorem Ready.addClass (h : Ready m t r) {cls : UInt64} {type : ClsType}
    (htype : Proper m t cls → type = typeOf m t cls) (name : Str) : Ready m t (r.addClass cls type name) := by
  unfold Radar.addClass
  split
  · refine ⟨h.tables, h.names, fun e he => ?_⟩
    rcases List.mem_append.mp he with he | he
    · exact h.classes e he
    · rw [List.mem_singleton.mp he]
      exact htype
  · exact h

theorem exec_sampleName (h : Ready m t r) (cls actorSample : UInt64) :
    Ready m t (exec m.host (sampleName cls actorSample) r).2 ∧
      (Proper m t cls → some (exec m.host (sampleName cls actorSample) r).1 = nameOf m t cls) := by
  obtain ⟨hready, hname⟩ := exec_resolveNameOf h cls
  rw [sampleName, exec_bind]
  generalize exec m.host (resolveNameOf cls) r = res at hready hname
  obtain ⟨found, r'⟩ := res
  cases found with
  | some name => exact ⟨hready, fun hproper => hname hproper.fits⟩
  | none =>
    have hno : ¬Proper m t cls := by
      intro hproper
      have hnamed := hproper.named
      rw [← hname hproper.fits] at hnamed
      cases hnamed
    refine ⟨?_, fun hproper => absurd hproper hno⟩
    dsimp only
    split
    · rw [exec_bind]
      exact (exec_resolveNameOf hready actorSample).1
    · exact hready

theorem exec_typeOfClass (h : Ready m t r) (cls : UInt64) (name : Str) :
    Ready m t (exec m.host (typeOfClass cls name) r).2 ∧
      (Proper m t cls → some name = nameOf m t cls → (exec m.host (typeOfClass cls name) r).1 = typeOf m t cls) := by
  unfold typeOfClass typeOf
  cases hclass : classOfName name with
  | some type =>
    refine ⟨h, fun _ hname => ?_⟩
    rw [← hname, Option.getD_some, hclass]
    rfl
  | none =>
    dsimp only
    rw [exec_bind, exec_lift, ← superOf]
    dsimp only
    by_cases hsuper : superOf m cls ≠ 0
    · obtain ⟨hready, hname⟩ := exec_resolveNameOf h (superOf m cls)
      rw [if_pos hsuper, if_pos hsuper, exec_bind]
      refine ⟨hready, fun hproper hcls => ?_⟩
      rw [← hcls, Option.getD_some, hclass, hname (hproper.superFits hsuper)]
      rfl
    · rw [if_neg hsuper, if_neg hsuper]
      refine ⟨h, fun _ hcls => ?_⟩
      rw [← hcls, Option.getD_some, hclass]
      rfl

/-- A class with a name gets the type that the names decide, whatever the caches hold and with whichever actor. -/
theorem exec_classifyClass (h : Ready m t r) (cls actorSample : UInt64) :
    Ready m t (exec m.host (classifyClass cls actorSample) r).2 ∧
      (Proper m t cls → (exec m.host (classifyClass cls actorSample) r).1 = typeOf m t cls) := by
  unfold classifyClass
  by_cases hcls : cls = 0
  · rw [if_pos hcls]
    exact ⟨h, fun hproper => absurd hcls hproper.nonnull⟩
  rw [if_neg hcls, exec_bind, exec_get]
  dsimp only
  cases hfind : r.gClasses.find? fun e => e.classPtr = cls with
  | some e =>
    refine ⟨h.use e.recordedIn, fun hproper => ?_⟩
    have hmem := List.mem_of_find?_eq_some hfind
    have hsame : e.classPtr = cls := by simpa using List.find?_some hfind
    rw [← hsame] at hproper ⊢
    exact h.classes e hmem hproper
  | none =>
    obtain ⟨hready, hname⟩ := exec_sampleName h cls actorSample
    obtain ⟨hready', htype⟩ := exec_typeOfClass hready cls (exec m.host (sampleName cls actorSample) r).1
    have hall : Proper m t cls → (exec m.host (typeOfClass cls (exec m.host (sampleName cls actorSample) r).1)
        (exec m.host (sampleName cls actorSample) r).2).1 = typeOf m t cls :=
          fun hproper => htype hproper (hname hproper)
    simp only [exec_bind, exec_modify, exec_pure]
    exact ⟨hready'.addClass hall _, hall⟩

/-- So does every actor of a run. -/
theorem classified_types (h : Ready m t r) (actors : List UInt64) :
    ∀ a ∈ (classified m actors r).1, Proper m t (classOf m a.1) → a.2 = typeOf m t (classOf m a.1) := by
  induction actors generalizing r with
  | nil => exact fun a ha => absurd ha List.not_mem_nil
  | cons actor actors ih =>
    obtain ⟨hready, htype⟩ := exec_classifyClass h (classOf m actor) actor
    exact List.forall_mem_cons.mpr ⟨htype, ih hready⟩

end Classify

/-- In two runs, over actors in any order, with any number of classes, a class with a name has one type, and so it has
    within a run. -/
theorem classify_order {m : Memory} {t : Option NameTables} {r r' : Radar} (h : Emptied m t r) (h' : Emptied m t r')
    (actors actors' : List UInt64) :
    ∀ a ∈ (classified m actors r).1, ∀ a' ∈ (classified m actors' r').1, classOf m a.1 = classOf m a'.1 →
      Proper m t (classOf m a.1) → a.2 = a'.2 := by
  intro a ha a' ha' hsame hproper
  have htype := classified_types h.ready actors a ha hproper
  have htype' := classified_types h'.ready actors' a' ha' (hsame ▸ hproper)
  rw [htype, htype', hsame]

/-! A level with two actors of a class without a name, and one of a class that is named `Vehicle`. -/

def namelessClass : Memory := .ofSegments
  [(0x10000, leBytes 16 0 ++ leBytes 8 0x70000 ++ leBytes 12 0 ++ leBytes 4 1),
   (0x20000, leBytes 8 0 ++ leBytes 8 0x30000), (0x30000, leBytes 8 0x40000),
   (0x40000, leBytes 8 0 ++ leBytes 8 0x50000 ++ leBytes 8 0x51000 ++ leBytes 8 0x52000 ++ leBytes 64 0),
   (0x50000, leBytes 12 0 ++ lit "Class" ++ leBytes 60 0),
   (0x51000, leBytes 12 0 ++ lit "PlayerPawn" ++ leBytes 60 0),
   (0x52000, leBytes 12 0 ++ lit "Vehicle" ++ leBytes 60 0),
   (0x70000, leBytes 24 0x80000),
   (0x80000, leBytes 16 0 ++ leBytes 8 0x80000 ++ leBytes 8 1 ++ leBytes 64 0),
   (0x81000, leBytes 16 0 ++ leBytes 8 0x80000 ++ leBytes 8 9 ++ leBytes 64 0),
   (0x82000, leBytes 16 0 ++ leBytes 8 0x81000 ++ leBytes 8 2 ++ leBytes 64 0),
   (0x83000, leBytes 16 0 ++ leBytes 8 0x81000 ++ leBytes 8 3 ++ leBytes 64 0),
   (0x84000, leBytes 16 0 ++ leBytes 8 0x80000 ++ leBytes 8 3 ++ leBytes 64 0),
   (0x85000, leBytes 16 0 ++ leBytes 8 0x84000 ++ leBytes 8 2 ++ leBytes 64 0)]

def namelessCtx : Ue4rCtx :=
  { Ue4rCtx.initial 0x10000 0x20000 0x30000 with
    uclassClass := 0x80000
    cachedChunks := Function.update (fun _ => 0) 0 0x40000
    nameCache := Function.update emptyNameCache 1 ⟨1, lit "Class"⟩ }

def namelessRadar : Radar := { Radar.zero with reflection := some namelessCtx }

theorem nameless_init : (ue4rInit 0 0 0x10000 0x20000).run namelessClass.host = some namelessCtx := by
  rw [namelessClass, Memory.ofSegments_eq]
  rfl

theorem nameless_emptied : Emptied namelessClass (some (tables namelessCtx)) namelessRadar := by
  refine ⟨rfl, rfl, fun c hc => ?_⟩
  rw [← Option.mem_some.mp hc]
  exact .init nameless_init

/-- Two actors of different names, of a class without one: the first of them decides the type of both. -/
theorem nameless_order :
    ¬∀ (m : Memory) (t : Option NameTables) (r : Radar), Emptied m t r →
      ∀ actors actors' : List UInt64, actors.Perm actors' →
        ∀ (actor : UInt64) (type type' : ClsType), (actor, type) ∈ (classified m actors r).1 →
          (actor, type') ∈ (classified m actors' r).1 → type = type' := by
  intro h
  have hplayers : (classified namelessClass [0x82000, 0x83000] namelessRadar).1 =
      [(0x82000, .player), (0x83000, .player)] := by
    rw [namelessClass, Memory.ofSegments_eq]
    decide +kernel
  have hvehicles : (classified namelessClass [0x83000, 0x82000] namelessRadar).1 =
      [(0x83000, .vehicle), (0x82000, .vehicle)] := by
    rw [namelessClass, Memory.ofSegments_eq]
    decide +kernel
  have hsame := h namelessClass _ namelessRadar nameless_emptied [0x82000, 0x83000] [0x83000, 0x82000]
    (.swap 0x83000 0x82000 []) 0x82000 .player .vehicle
  rw [hplayers, hvehicles] at hsame
  cases hsame (.head _) (.tail _ (.head _))

theorem nameless_vehicle : nameText namelessClass (tables namelessCtx) 3 128 = some (lit "Vehicle") := by
  rw [namelessClass, Memory.ofSegments_eq]
  decide +kernel

theorem nameless_proper : Proper namelessClass (some (tables namelessCtx)) 0x84000 := by
  have hindex : nameIndex namelessClass (0x84000 + offUobjectName) = some 3 := by
    rw [namelessClass, Memory.ofSegments_eq]
    decide +kernel
  have hsuper : superOf namelessClass 0x84000 = 0 := by
    rw [namelessClass, Memory.ofSegments_eq]
    decide +kernel
  have htable : tableText namelessClass (tables namelessCtx) 3 ≠ none := by
    rw [namelessClass, Memory.ofSegments_eq]
    decide +kernel
  refine ⟨by decide, ?_, fun t ht compIndex hcomp => ?_, fun hnonnull => absurd hsuper hnonnull⟩
  · rw [nameOf, Option.bind_some, uncached_of_index _ (by decide) hindex, answer_of_some _ _ nameless_vehicle]
    rfl
  · obtain rfl := Option.mem_some.mp ht
    obtain rfl := Option.some.inj (hindex.symm.trans hcomp)
    refine ⟨fun s hs => ?_, fun hnone => absurd hnone htable⟩
    obtain rfl := Option.some.inj (nameless_vehicle.symm.trans hs)
    decide

theorem classify_order_vehicle :
    ((classified namelessClass [0x85000, 0x82000] namelessRadar).1.getD 0 (0, .ignore)).2 =
      ((classified namelessClass [0x82000, 0x85000] namelessRadar).1.getD 1 (0, .ignore)).2 := by
  have hfirst : (classified namelessClass [0x85000, 0x82000] namelessRadar).1 =
      [(0x85000, .vehicle), (0x82000, .player)] := by
    rw [namelessClass, Memory.ofSegments_eq]
    decide +kernel
  have hlast : (classified namelessClass [0x82000, 0x85000] namelessRadar).1 =
      [(0x82000, .player), (0x85000, .vehicle)] := by
    rw [namelessClass, Memory.ofSegments_eq]
    decide +kernel
  have hclass : classOf namelessClass 0x85000 = 0x84000 := by
    rw [namelessClass, Memory.ofSegments_eq]
    decide +kernel
  refine classify_order nameless_emptied nameless_emptied [0x85000, 0x82000] [0x82000, 0x85000] _ ?_ _ ?_ ?_ ?_
  · rw [hfirst]
    exact .head _
  · rw [hlast]
    exact .tail _ (.head _)
  · rw [hfirst, hlast]
    rfl
  · rw [hfirst]
    change Proper _ _ (classOf _ 0x85000)
    rw [hclass]
    exact nameless_proper

end Classes
end RadarAim

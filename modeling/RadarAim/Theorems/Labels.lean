import Mathlib.Data.List.Find
import Mathlib.Data.List.Nodup
import RadarAim.Theorems.Reader

/-! The labels of items and of vehicles. A table of keywords is tried row by row, and the first row with a keyword in
    the name decides: no keyword is to stand behind one that it contains, and a name that was cut is to have lost none
    that decides. -/

namespace RadarAim
namespace Labels
open Prog Ieee Reader

theorem mentions_iff {s : Str} {keywords : List String} :
    mentions s keywords = true ↔ ∃ k ∈ keywords, lit k <:+: s := by
  simp [mentions, strstr_iff]

/-! ### Items -/

/-- `k` is in the name, and every keyword of the table that is in the name is in `k`. -/
structure Governs (k : String) (aname : Str) : Prop where
  occurs : lit k <:+: aname
  others : ∀ row ∈ actorNameRows, ∀ k' ∈ row.1, lit k' <:+: aname → lit k' <:+: lit k

/-- The rows that the name matches are those that the keyword matches. -/
theorem Governs.mentions {k : String} {aname : Str} (h : Governs k aname) {row : List String × String × UInt8}
    (hrow : row ∈ actorNameRows) : mentions aname row.1 = mentions (lit k) row.1 := by
  rw [Bool.eq_iff_iff, mentions_iff, mentions_iff]
  constructor
  · rintro ⟨k', hk', hfound⟩
    exact ⟨k', hk', h.others row hrow k' hk' hfound⟩
  · rintro ⟨k', hk', hfound⟩
    exact ⟨k', hk', hfound.trans h.occurs⟩

theorem Governs.resolve {k : String} {aname : Str} (h : Governs k aname) (max : Nat) :
    resolveItemFromActorName aname max = resolveItemFromActorName (lit k) max := by
  rw [resolveItemFromActorName, resolveItemFromActorName, List.find?_congr fun row hrow => h.mentions hrow]

/-- A keyword finds its own row, but for the one whose row stands behind that of `M24`. -/
theorem find?_keyword : ∀ row ∈ actorNameRows, ∀ k ∈ row.1, k ≠ "M249" →
    (actorNameRows.find? fun row' => mentions (lit k) row'.1) = some row := by
  decide +kernel

/-- A name gets the label and the category of the row of the keyword that governs it, unless that is `M249`: `M24`
    is tried before. -/
theorem resolve_own_row_iff {row : List String × String × UInt8} (hrow : row ∈ actorNameRows) {k : String}
    (hk : k ∈ row.1) {aname : Str} (h : Governs k aname) (max : Nat) :
    resolveItemFromActorName aname max = some (snprintf max (lit row.2.1), row.2.2) ↔ k ≠ "M249" ∨ max ≤ 4 := by
  rw [h.resolve, resolveItemFromActorName]
  by_cases hM249 : k = "M249"
  · subst hM249
    have hown : ∀ row ∈ actorNameRows, "M249" ∈ row.1 → row = (["M249"], "M249", 1) := by decide +kernel
    have hfind : (actorNameRows.find? fun row => mentions (lit "M249") row.1) = some (["M24"], "M24", 1) := by
      decide +kernel
    have hlonger : lit "M249" = lit "M24" ++ [0x39] := by decide
    rw [hown row hrow hk, hfind, hlonger]
    simp only [Option.map_some, Option.some_inj, Prod.mk.injEq, and_true, ne_eq, not_true_eq_false, false_or, snprintf]
    constructor
    · intro heq
      have hlength := congrArg List.length heq
      simp [lit] at hlength
      omega
    · intro hmax
      have hfits : max - 1 ≤ (lit "M24").length := Nat.sub_le_iff_le_add.mpr hmax
      rw [List.take_append_of_le_length hfits]
  · rw [find?_keyword row hrow k hk hM249]
    exact iff_of_true rfl (Or.inl hM249)

theorem resolve_own_row_akm : resolveItemFromActorName (lit "BP_Rifle_AKM_C") 32 = some (lit "AKM", 1) := by
  have hrow : (["AKM"], "AKM", 1) ∈ actorNameRows := by decide
  refine (resolve_own_row_iff hrow (List.mem_singleton_self "AKM") ⟨?_, ?_⟩ 32).mpr (Or.inl (by decide))
  · decide +kernel
  · decide +kernel

/-- The row of `M249` never decides. -/
theorem m249_shadowed :
    ¬∀ row ∈ actorNameRows, ∀ k ∈ row.1, ∀ aname : Str, Governs k aname →
      resolveItemFromActorName aname 32 = some (snprintf 32 (lit row.2.1), row.2.2) := by
  intro h
  have hgoverns : Governs "M249" (lit "BP_MachineGun_M249_C") := ⟨by decide +kernel, by decide +kernel⟩
  have hlabel := h (["M249"], "M249", 1) (by decide) "M249" (List.mem_singleton_self _) _ hgoverns
  revert hlabel
  decide +kernel

/-! ### Vehicles -/

section Tables
variable {α : Type}

/-- A table that is tried with a stricter test has the same first row, if that row passes it. -/
theorem find?_eq_iff {p q : α → Bool} {l : List α} (h : ∀ x ∈ l, q x = true → p x = true) :
    l.find? q = l.find? p ↔ ∀ x, l.find? p = some x → q x = true := by
  constructor
  · intro heq x hx
    rw [← heq] at hx
    exact List.find?_some hx
  · intro hq
    cases hp : l.find? p with
    | none =>
      rw [List.find?_eq_none] at hp ⊢
      exact fun x hx hqx => hp x hx (h x hx hqx)
    | some x =>
      obtain ⟨-, before, after, rfl, hbefore⟩ := List.find?_eq_some_iff_append.mp hp
      refine List.find?_eq_some_iff_append.mpr ⟨hq x hp, before, after, rfl, fun y hy => ?_⟩
      have hnot := hbefore y hy
      cases hqy : q y with
      | false => rfl
      | true =>
        rw [h y (List.mem_append_left _ hy) hqy] at hnot
        cases hnot

/-- What is in the first `n` elements ends among them. -/
theorem infix_take_iff {s t : List α} {n : Nat} :
    t <:+: s.take n ↔ ∃ before after, s = before ++ t ++ after ∧ (before ++ t).length ≤ n := by
  constructor
  · rintro ⟨before, after, htake⟩
    refine ⟨before, after ++ s.drop n, ?_, ?_⟩
    · rw [← List.append_assoc, htake, List.take_append_drop]
    · have hlength := congrArg List.length htake
      rw [List.length_append, List.length_take] at hlength
      omega
  · rintro ⟨before, after, rfl, hlength⟩
    refine ⟨before, after.take (n - (before ++ t).length), ?_⟩
    rw [List.take_append, List.take_of_length_le hlength]

end Tables

/-- The row that decides the label of a vehicle. -/
def vehicleRow (clsName : Str) : Option (List String × String) := vehicleRows.find? fun row => mentions clsName row.1

def rowLabel (row : Option (List String × String)) : Str := snprintf 32 (lit (row.elim "Vehicle" Prod.snd))

theorem resolveVehicleName_eq (clsName : Str) : resolveVehicleName clsName 32 = rowLabel (vehicleRow clsName) := by
  rw [resolveVehicleName, vehicleRow]
  cases vehicleRows.find? fun row => mentions clsName row.1 <;> rfl

theorem vehicleRow_mem (clsName : Str) : vehicleRow clsName ∈ none :: vehicleRows.map some := by
  cases hrow : vehicleRow clsName with
  | none => exact .head _
  | some row => exact .tail _ (List.mem_map_of_mem (List.mem_of_find?_eq_some hrow))

/-- No two rows have one label. -/
theorem rowLabel_nodup : ((none :: vehicleRows.map some).map rowLabel).Nodup := by
  decide +kernel

/-- The first row with a keyword in the name has one that ends within the first 31 bytes. -/
def KeywordKept (clsName : Str) : Prop :=
  ∀ before row after, vehicleRows = before ++ row :: after → (∀ row' ∈ before, mentions clsName row'.1 = false) →
    mentions clsName row.1 = true →
      ∃ k ∈ row.1, ∃ front back, clsName = front ++ lit k ++ back ∧ (front ++ lit k).length ≤ 31

theorem keywordKept_iff {clsName : Str} :
    KeywordKept clsName ↔ ∀ row, vehicleRow clsName = some row → mentions (snprintf 32 clsName) row.1 = true := by
  have hcut : ∀ row : List String × String, mentions (snprintf 32 clsName) row.1 = true ↔
      ∃ k ∈ row.1, ∃ front back, clsName = front ++ lit k ++ back ∧ (front ++ lit k).length ≤ 31 := by
    intro row
    simp only [mentions_iff, snprintf, infix_take_iff]
  constructor
  · intro hkept row hrow
    obtain ⟨hfound, before, after, hsplit, hbefore⟩ := List.find?_eq_some_iff_append.mp hrow
    exact (hcut row).mpr (hkept before row after hsplit (fun row' hmem => by simpa using hbefore row' hmem) hfound)
  · intro hfirst before row after hsplit hbefore hfound
    refine (hcut row).mp (hfirst row (List.find?_eq_some_iff_append.mpr ⟨hfound, before, after, hsplit, ?_⟩))
    exact fun row' hmem => by simpa using hbefore row' hmem

theorem label_cut_iff (clsName : Str) :
    resolveVehicleName (snprintf 32 clsName) 32 = resolveVehicleName clsName 32 ↔ KeywordKept clsName := by
  have hlabels : resolveVehicleName (snprintf 32 clsName) 32 = resolveVehicleName clsName 32 ↔
      vehicleRow (snprintf 32 clsName) = vehicleRow clsName := by
    rw [resolveVehicleName_eq, resolveVehicleName_eq]
    exact ⟨fun heq => List.inj_on_of_nodup_map rowLabel_nodup (vehicleRow_mem _) (vehicleRow_mem _) heq,
      fun heq => by rw [heq]⟩
  rw [hlabels, keywordKept_iff]
  refine find?_eq_iff fun row _ hcut => ?_
  obtain ⟨k, hk, hfound⟩ := mentions_iff.mp hcut
  exact mentions_iff.mpr ⟨k, hk, hfound.trans (List.take_prefix _ _).isInfix⟩

/-! ### The class cache -/

section Cached
variable {h : Handler Host} {r : Radar} {cls : UInt64} {name : Str}

def Uncached (r : Radar) (cls : UInt64) : Prop := (r.gClasses.find? fun e => e.classPtr = cls) = none

/-- The class is found in the class cache, stored with the name. -/
def CachedAs (r : Radar) (cls : UInt64) (name : Str) : Prop :=
  ∃ e, (r.gClasses.find? fun e => e.classPtr = cls) = some e ∧ e.name = snprintf 32 name

/-- A lookup of the name of the class answers with the name. -/
def Resolves (h : Handler Host) (r : Radar) (cls : UInt64) (name : Str) : Prop :=
  (exec h (resolveNameOf cls) r).1 = some name

/-- A lookup depends on the context of the reader, and changes no more than that. -/
theorem exec_resolveNameOf (h : Handler Host) (object : UInt64) (r : Radar) :
    ∃ answer ctx, ∀ r', r'.reflection = r.reflection →
      exec h (resolveNameOf object) r' = (answer, { r' with reflection := ctx }) := by
  cases hctx : r.reflection with
  | none =>
    refine ⟨none, none, fun r' hr' => ?_⟩
    rw [exec_resolveNameOf_none hr', ← hr']
  | some c =>
    rcases hres : ((ue4rResolveName (object + offUobjectName) 128).run c).run h with ⟨⟨resolved, name⟩, ctx⟩
    exact ⟨_, _, fun r' hr' => exec_resolveNameOf_some hr' hres⟩

theorem Resolves.of_same {r' : Radar} (hname : Resolves h r cls name) (hr' : r'.reflection = r.reflection) :
    Resolves h r' cls name := by
  obtain ⟨answer, ctx, hexec⟩ := exec_resolveNameOf h cls r
  rw [Resolves, hexec r rfl] at hname
  rw [Resolves, hexec r' hr']
  exact hname

theorem exec_resolveClassName (hcls : cls ≠ 0) (hname : Resolves h r cls name) {r' : Radar}
    (hr' : r'.reflection = r.reflection) :
    (exec h (vehicleClassName.resolveClassName cls) r').1 = name ∧
      (exec h (vehicleClassName.resolveClassName cls) r').2.frame = r'.frame := by
  obtain ⟨answer, ctx, hexec⟩ := exec_resolveNameOf h cls r
  have hanswer : answer = some name := by
    rw [← hname, hexec r rfl]
  rw [vehicleClassName.resolveClassName, if_pos hcls, exec_bind, hexec r' hr', hanswer]
  exact ⟨rfl, rfl⟩

theorem exec_vehicleClassName_uncached (hcls : cls ≠ 0) (huncached : Uncached r cls) (hname : Resolves h r cls name) :
    (exec h (vehicleClassName cls) r).1 = name ∧ (exec h (vehicleClassName cls) r).2.frame = r.frame := by
  rw [vehicleClassName, exec_bind, exec_get]
  dsimp only
  rw [huncached]
  exact exec_resolveClassName hcls hname rfl

/-- A stored name that is not empty is taken as it is. -/
theorem exec_vehicleClassName_cached (hcls : cls ≠ 0) (hcached : CachedAs r cls name)
    (hname : name = [] → Resolves h r cls []) :
    (exec h (vehicleClassName cls) r).1 = snprintf 32 name ∧ (exec h (vehicleClassName cls) r).2.frame = r.frame := by
  obtain ⟨e, hfind, hstored⟩ := hcached
  rw [vehicleClassName, exec_bind, exec_get]
  dsimp only
  rw [hfind]
  simp only [exec_bind, exec_modify]
  by_cases hempty : e.name ≠ []
  · rw [if_pos hempty, exec_pure, hstored]
    exact ⟨rfl, rfl⟩
  · rw [if_neg hempty]
    rw [hstored, snprintf, ne_eq, not_not, List.take_eq_nil_iff, or_iff_right (by decide)] at hempty
    subst hempty
    exact exec_resolveClassName hcls (hname rfl) rfl

theorem exec_typeOfClass_classes (h : Handler Host) (cls : UInt64) (name : Str) (r : Radar) :
    (exec h (typeOfClass cls name) r).2.gClasses = r.gClasses := by
  unfold typeOfClass
  split
  · rfl
  · rw [exec_bind, exec_lift]
    dsimp only
    split
    · obtain ⟨answer, ctx, hexec⟩ := exec_resolveNameOf h ((ptr cls 0x30).run h) r
      rw [exec_bind, hexec r rfl]
      rfl
    · rfl

/-- `classify_class` stores a class with the name that it has found. -/
theorem classifyClass_caches (hcls : cls ≠ 0) (huncached : Uncached r cls) (hroom : r.gClasses.length < classCacheSize)
    (hname : Resolves h r cls name) (actorSample : UInt64) :
    CachedAs (exec h (classifyClass cls actorSample) r).2 cls name := by
  obtain ⟨answer, ctx, hexec⟩ := exec_resolveNameOf h cls r
  have hanswer : answer = some name := by
    rw [← hname, hexec r rfl]
  have hsample : exec h (sampleName cls actorSample) r = (name, { r with reflection := ctx }) := by
    rw [sampleName, exec_bind, hexec r rfl, hanswer]
    rfl
  rw [classifyClass, if_neg hcls, exec_bind, exec_get]
  dsimp only
  rw [huncached]
  simp only [exec_bind, hsample, exec_modify, exec_pure]
  have hclasses := exec_typeOfClass_classes h cls name { r with reflection := ctx }
  generalize exec h (typeOfClass cls name) { r with reflection := ctx } = typed at hclasses
  dsimp only at hclasses
  rw [Radar.addClass, if_pos (by rw [hclasses]; exact hroom)]
  refine ⟨⟨cls, typed.1, snprintf 32 name, typed.2.world⟩, ?_, rfl⟩
  change List.find? _ (typed.2.gClasses ++ _) = _
  rw [hclasses, List.find?_append, huncached, Option.none_or, List.find?_singleton, if_pos (by simp)]

end Cached

section Vehicles
variable {h : Handler Host} {ar : Arith} {head : TickHead} {c : Candidate} {r r' : Radar} {cls : UInt64} {name : Str}

/-- The vehicle has a class and is no further away than 800 m. -/
structure Shown (h : Handler Host) (ar : Arith) (head : TickHead) (actor cls : UInt64) : Prop where
  isActor : actor ≠ 0
  isClass : cls ≠ 0
  link : (ptr actor 0x10).run h = cls
  near : ∃ pos, (position actor).run h = some pos ∧ F32.lt 0x44480000 (distanceTo ar pos head.cameraPos) = false

/-- The labels and the air-vehicle flags of the vehicles that are added to the frame. -/
def labels (h : Handler Host) (ar : Arith) (head : TickHead) (c : Candidate) (r : Radar) : List (Str × UInt8) :=
  ((exec h (processVehicle ar head c) r).2.frame.vehicles.drop r.frame.vehicles.length).map fun v =>
    (v.name, v.canBoost)

/-- The flag is that of the actor but for the labels of what flies. -/
def flagOf (h : Handler Host) (actor : UInt64) (label : Str) : UInt8 :=
  if mentions label ["Airplane", "Glider", "Helicopter"] then 1 else (readU8 (actor + 0x1978) 0).run h

theorem labels_of_name (hshown : Shown h ar head c.actor cls) {clsName : Str}
    (hname : (exec h (vehicleClassName cls) (r.use c.recordedIn)).1 = clsName)
    (hframe : (exec h (vehicleClassName cls) (r.use c.recordedIn)).2.frame = r.frame) :
    labels h ar head c r = [(resolveVehicleName clsName 32, flagOf h c.actor (resolveVehicleName clsName 32))] := by
  obtain ⟨pos, hpos, hnear⟩ := hshown.near
  rw [labels, processVehicle, if_neg hshown.isActor]
  simp only [exec_bind, exec_modify, exec_lift, hpos, hnear, Bool.false_eq_true, if_false,
    hshown.link, exec_pure, hname]
  rw [Radar.pushVehicle, hframe]
  simp only [List.drop_left, List.map_cons, List.map_nil]
  rfl

/-- The label and the flag from the class cache are those from the name of the class, if its keyword was not cut off. -/
theorem labels_cached_iff (hshown : Shown h ar head c.actor cls) (hcached : CachedAs r cls name)
    (hempty : name = [] → Resolves h r cls []) (huncached : Uncached r' cls) (hname : Resolves h r' cls name) :
    labels h ar head c r = labels h ar head c r' ↔ KeywordKept name := by
  obtain ⟨hcut, hframe⟩ := exec_vehicleClassName_cached (r := r.use c.recordedIn) hshown.isClass hcached
    fun hnil => (hempty hnil).of_same rfl
  obtain ⟨hfull, hframe'⟩ := exec_vehicleClassName_uncached (r := r'.use c.recordedIn) hshown.isClass huncached
    (hname.of_same rfl)
  rw [labels_of_name hshown hcut hframe, labels_of_name hshown hfull hframe', ← label_cut_iff]
  constructor
  · intro heq
    exact congrArg Prod.fst (List.cons.inj heq).1
  · intro heq
    rw [heq]

end Vehicles

/-! A helicopter and a car, whose classes have long names. -/

def garage : Memory := .ofSegments
  [(0x20000, leBytes 8 0 ++ leBytes 8 0x30000), (0x30000, leBytes 8 0x40000),
   (0x40000, leBytes 8 0 ++ leBytes 8 0x50000 ++ leBytes 8 0x51000),
   (0x50000, leBytes 12 0 ++ lit "VH_Winter_Season_Decorated_Skin_Helicopter_C" ++ leBytes 60 0),
   (0x51000, leBytes 12 0 ++ lit "VH_Dacia_Decorated_Winter_Season_C" ++ leBytes 60 0),
   (0x80000, leBytes 24 0 ++ leBytes 8 1), (0x81000, leBytes 24 0 ++ leBytes 8 2),
   (0x82000, leBytes 16 0 ++ leBytes 8 0x80000 ++ leBytes 496 0 ++ leBytes 8 0x90000),
   (0x83000, leBytes 16 0 ++ leBytes 8 0x81000 ++ leBytes 496 0 ++ leBytes 8 0x90000),
   (0x901e4, leBytes 12 0)]

def garageRadar : Radar := { Radar.zero with reflection := some (.initial 0x10000 0x20000 0x30000) }

theorem garage_car : Shown garage.host smallArith ⟨0, .zero, false⟩ 0x83000 0x81000 := by
  rw [garage, Memory.ofSegments_eq]
  exact ⟨by decide, by decide, by decide +kernel, .zero, by decide +kernel, by decide +kernel⟩

theorem garage_helicopter : Shown garage.host smallArith ⟨0, .zero, false⟩ 0x82000 0x80000 := by
  rw [garage, Memory.ofSegments_eq]
  exact ⟨by decide, by decide, by decide +kernel, .zero, by decide +kernel, by decide +kernel⟩

/-- The car loses the end of its name in the class cache, and is labelled as it would be without it. -/
theorem labels_cached_car :
    labels garage.host smallArith ⟨0, .zero, false⟩ ⟨0x83000, 0⟩
        (exec garage.host (classifyClass 0x81000 0x83000) garageRadar).2 =
      labels garage.host smallArith ⟨0, .zero, false⟩ ⟨0x83000, 0⟩ garageRadar := by
  have hname : Resolves garage.host garageRadar 0x81000 (lit "VH_Dacia_Decorated_Winter_Season_C") := by
    rw [Resolves, garage, Memory.ofSegments_eq]
    decide +kernel
  have hnone : Uncached garageRadar 0x81000 := rfl
  refine (labels_cached_iff garage_car (classifyClass_caches (by decide) hnone (by decide) hname 0x83000)
    (fun hempty => absurd hempty (by decide)) hnone hname).mpr ?_
  rw [keywordKept_iff]
  intro row hrow
  have hdacia : vehicleRow (lit "VH_Dacia_Decorated_Winter_Season_C") = some (["Dacia"], "Dacia") := by
    decide +kernel
  obtain rfl := Option.some.inj (hdacia.symm.trans hrow)
  decide +kernel

/-- The helicopter loses its label and its flag in the class cache. -/
theorem helicopter_cut :
    ¬∀ (h : Handler Host) (ar : Arith) (head : TickHead) (c : Candidate) (r r' : Radar) (cls : UInt64) (name : Str),
      name.length ≤ 127 → Shown h ar head c.actor cls → CachedAs r cls name → (name = [] → Resolves h r cls []) →
        Uncached r' cls → Resolves h r' cls name → labels h ar head c r = labels h ar head c r' := by
  intro hall
  have hname : Resolves garage.host garageRadar 0x80000 (lit "VH_Winter_Season_Decorated_Skin_Helicopter_C") := by
    rw [Resolves, garage, Memory.ofSegments_eq]
    decide +kernel
  have hnone : Uncached garageRadar 0x80000 := rfl
  have hcached := classifyClass_caches (by decide) hnone (by decide) hname 0x82000
  have hsame := hall garage.host smallArith ⟨0, .zero, false⟩ ⟨0x82000, 0⟩ _ garageRadar 0x80000 _ (by decide)
    garage_helicopter hcached (fun hempty => absurd hempty (by decide)) hnone hname
  have hlost : (labels garage.host smallArith ⟨0, .zero, false⟩ ⟨0x82000, 0⟩
      (exec garage.host (classifyClass 0x80000 0x82000) garageRadar).2).map Prod.fst = [lit "Vehicle"] := by
    rw [garage, Memory.ofSegments_eq]
    decide +kernel
  have hkept : (labels garage.host smallArith ⟨0, .zero, false⟩ ⟨0x82000, 0⟩ garageRadar).map Prod.fst =
      [lit "Helicopter"] := by
    rw [garage, Memory.ofSegments_eq]
    decide +kernel
  rw [hsame, hkept] at hlost
  revert hlost
  decide

end Labels
end RadarAim

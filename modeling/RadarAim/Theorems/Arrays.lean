import RadarAim.Lib.Simulation
import RadarAim.Theorems.Frames

/-! The reader over its arrays refines the model over lists. A list is what the slots in use hold, and a name is the
    string in its field; then every run of the one is a run of the other, with the same frames. -/

namespace RadarAim
namespace Arrays
open Prog Ieee

/-! ### What the lists are -/

def playerText (p : RadarPlayer) : RadarPlayer := { p with name := cstr p.name }
def vehicleText (v : RadarVehicle) : RadarVehicle := { v with name := cstr v.name }
def itemText (i : RadarItem) : RadarItem := { i with name := cstr i.name }
def playerMetaText (e : PlayerMetaCache) : PlayerMetaCache := { e with name := cstr e.name }
def itemMetaText (e : ItemMetaCache) : ItemMetaCache := { e with name := cstr e.name }

def SharedFrame.text (f : SharedFrame) : RadarFrame where
  header := f.header
  players := f.players.list.map playerText
  vehicles := f.vehicles.list.map vehicleText
  items := f.items.list.map itemText

/-- The state of the model over lists. -/
def Mem.radar (m : Mem) : Radar :=
  { m.vars with
    frame := m.frame.text, gClasses := m.gClasses.list, characters := m.characters.list, vehicles := m.vehicles.list
    items := m.items.list, gPlayerMeta := m.gPlayerMeta.list.map playerMetaText
    gItemMeta := m.gItemMeta.list.map itemMetaText, published := m.published.map SharedFrame.text }

/-! ### Parts that use no list -/

/-- The variables of `r` with the lists of `l`. -/
def withLists (r l : Radar) : Radar :=
  { r with
    frame := { l.frame with header := r.frame.header }, gClasses := l.gClasses, characters := l.characters
    vehicles := l.vehicles, items := l.items, gPlayerMeta := l.gPlayerMeta, gItemMeta := l.gItemMeta
    published := l.published }

def SameVars (l l' s t : Radar) : Prop := ∃ v, s = withLists v l ∧ t = withLists v l'

/-- Whatever the lists are, `p` and `q` come to results of `X` and leave the lists as they are. -/
def Alike {α β : Type} (p : RadarReader α) (q : RadarReader β) (X : α → β → Prop) : Prop :=
  ∀ l l', Simulates (SameVars l l') p q fun a b s t => X a b ∧ SameVars l l' s t

abbrev UsesNoList {α : Type} (p : RadarReader α) : Prop := Alike p p Eq

namespace UsesNoList
variable {α β : Type}

theorem pure (a : α) : UsesNoList (Pure.pure a) := fun _ _ => Simulates.pure fun _ _ h => ⟨rfl, h⟩

theorem lift (p : Read α) : UsesNoList (liftM p) := fun _ _ => Simulates.lift p

theorem bind {p : RadarReader β} {f : β → RadarReader α} (hp : UsesNoList p) (hf : ∀ b, UsesNoList (f b)) :
    UsesNoList (p >>= f) := fun l l' => (hp l l').bindSame fun b => hf b l l'

theorem modify {f : Radar → Radar} (hf : ∀ v l, f (withLists v l) = withLists (f v) l) : UsesNoList (modify f) := by
  intro l l'
  refine Simulates.modify fun s t h => ?_
  obtain ⟨v, rfl, rfl⟩ := h
  exact ⟨rfl, f v, hf v l, hf v l'⟩

theorem bindGet {f : Radar → RadarReader α} (hf : ∀ v l, f (withLists v l) = f v) (h : ∀ v, UsesNoList (f v)) :
    UsesNoList (MonadState.get >>= f) := by
  intro l l'
  refine Simulates.bindGet fun s t hst => ?_
  obtain ⟨v, rfl, rfl⟩ := hst
  rw [hf v l, hf v l']
  refine (h v l l').imp (fun s t hst => ?_) fun _ _ _ _ h => h
  exact ⟨v, hst.1, hst.2⟩

theorem ite {c : Prop} [Decidable c] {p q : RadarReader α} (hp : UsesNoList p) (hq : UsesNoList q) :
    UsesNoList (if c then p else q) := by
  split
  · exact hp
  · exact hq

end UsesNoList

section Parts
open UsesNoList

theorem usesNoList_onReflection {α : Type} (p : Walker α) : UsesNoList (onReflection p) := by
  refine bindGet (fun _ _ => rfl) fun v => ?_
  cases v.reflection with
  | none => exact pure none
  | some ctx => exact bind (lift _) fun res => bind (modify fun _ _ => rfl) fun _ => pure _

theorem usesNoList_resolveNameOf (object : UInt64) : UsesNoList (resolveNameOf object) := by
  refine bind (usesNoList_onReflection _) fun res => ?_
  split <;> exact pure _

theorem usesNoList_sampleName (cls actorSample : UInt64) : UsesNoList (sampleName cls actorSample) := by
  refine bind (usesNoList_resolveNameOf cls) fun res => ?_
  cases res with
  | some name => exact pure name
  | none => exact ite (bind (usesNoList_resolveNameOf _) fun _ => pure _) (pure _)

theorem usesNoList_typeOfClass (cls : UInt64) (name : Str) : UsesNoList (typeOfClass cls name) := by
  rw [typeOfClass]
  cases classOfName name with
  | some type => exact pure type
  | none =>
    exact bind (lift _) fun superCls => ite (bind (usesNoList_resolveNameOf _) fun _ => pure _) (pure _)

theorem usesNoList_use (recordedIn : UInt64) : UsesNoList (modify (Radar.use recordedIn)) := modify fun _ _ => rfl

theorem usesNoList_loseLocalPlayer : UsesNoList (modify Radar.loseLocalPlayer) := by
  refine modify fun v l => ?_
  rw [Radar.loseLocalPlayer, Radar.loseLocalPlayer, apply_ite (withLists · l)]
  rfl

theorem usesNoList_searchLocalPlayer (b : Nat) : UsesNoList (searchLocalPlayer b) := by
  induction b with
  | zero => exact pure ()
  | succ b ih =>
    refine bindGet (fun _ _ => rfl) fun v => ite ?_ (pure ())
    refine bind (usesNoList_onReflection _) fun res => ?_
    cases res with
    | none => exact pure ()
    | some res =>
      refine bind (modify fun _ _ => rfl) fun _ => ite ?_ ih
      refine bind (lift _) fun viewport => bind (lift _) fun w => bind (lift _) fun pc =>
        bind (lift _) fun backlink => ?_
      exact ite (modify fun _ _ => rfl) ih

theorem usesNoList_lookupWorld (ar : Arith) (input : TickInput) : UsesNoList (lookupWorld ar input) := by
  refine bind (modify fun _ _ => rfl) fun _ => bindGet (fun _ _ => rfl) fun v => ite (pure ()) ?_
  refine bind (modify fun _ _ => rfl) fun _ => bind ?_ fun ready => ite ?_ (pure ())
  · refine bindGet (fun _ _ => rfl) fun v => ?_
    cases v.reflection with
    | some ctx => exact pure true
    | none =>
      refine bind (lift _) fun res => ?_
      cases res with
      | none => exact pure false
      | some ctx => exact ite (bind (modify fun _ _ => rfl) fun _ => pure true) (pure false)
  · exact ite (modify fun _ _ => rfl) (usesNoList_searchLocalPlayer 64)

theorem usesNoList_readView (pawn camera : UInt64) : UsesNoList (readView pawn camera) := by
  refine bind (lift _) fun localPos => bind (lift _) fun cameraPos => bind (lift _) fun localRot => ?_
  exact bind (lift _) fun fov => bind (modify fun _ _ => rfl) fun _ => pure _

theorem usesNoList_setLocalTeam (team : UInt32) : UsesNoList (modify (Radar.setLocalTeam team)) := by
  refine modify fun v l => ?_
  rw [Radar.setLocalTeam, Radar.setLocalTeam, apply_ite (withLists · l)]
  rfl

theorem usesNoList_teamFallback : UsesNoList (modify Radar.teamFallback) := by
  refine modify fun v l => ?_
  rw [Radar.teamFallback, Radar.teamFallback, apply_ite (withLists · l)]
  rfl

theorem usesNoList_resolveClassName (cls : UInt64) : UsesNoList (vehicleClassName.resolveClassName cls) :=
  ite (bind (usesNoList_resolveNameOf _) fun _ => pure _) (pure _)

end Parts

theorem onVars_simulates {α β : Type} {F : Radar → Radar} (hF : ∀ v l, F (withLists v l) = withLists v (F l))
    {P : Mem → Prop} (hP : Blind P) {X : α → β → Prop} {p : RadarReader α} {q : RadarReader β} (hpq : Alike p q X) :
    Simulates (fun m r => P m ∧ r = F m.radar) (onVars p) q fun a b m r => X a b ∧ P m ∧ r = F m.radar := by
  rintro m _ ⟨hm, rfl⟩ h n
  have hradar : F m.radar = withLists m.vars (F m.radar) := hF m.vars m.radar
  obtain ⟨hcalls, hX, v, hp, hq⟩ := hpq m.vars (F m.radar) m.vars (F m.radar) ⟨m.vars, rfl, hradar⟩ h n
  have hrun : (onVars p).run m = p.run m.vars >>= fun res => pure (res.1, { m with vars := res.2 }) := by simp [onVars]
  rw [hrun, eval_bind]
  refine ⟨hcalls, hX, hP _ _ hm, ?_⟩
  rw [hq]
  show _ = F (withLists ((p.run m.vars).eval h n).1.2 m.radar)
  rw [hp]
  exact (hF v m.radar).symm

/-! ### The arrays -/

/-- The record of indices is apart from the rest. -/
def Mem.withIndices (m : Mem) (is : List (Static × Nat)) : Mem := { m with indices := is }

/-- Its part of the memory is apart from the record of indices. -/
structure Lawful {α : Type} (a : Ref α) : Prop where
  get_withIndices : ∀ m is, a.get (m.withIndices is) = a.get m
  set_withIndices : ∀ c m is, a.set c (m.withIndices is) = (a.set c m).withIndices is
  set_get : ∀ m, a.set (a.get m) m = m

/-- What `addIfRoom` and `store` make of an array. -/
def added {α : Type} (size : Nat) (x : α) (c : Counted α) : Counted α := if c.count < size then c.push x else c

def stored {α : Type} (size : Nat) (same : α → Bool) (x : α) (c : Counted α) : Counted α :=
  (c.index same).elim (added size x c) (c.put · x)

section Run
variable {α : Type} {a : Ref α} (ha : Lawful a)
include ha

theorem read_run (i : Nat) (m : Mem) : ∃ is, (a.read i).run m = pure ((a.get m).slot i, m.withIndices is) := by
  have hrun : (a.read i).run m = pure ((a.get (m.withIndices (m.indices ++ [(a.static, i)]))).slot i,
    m.withIndices (m.indices ++ [(a.static, i)])) := rfl
  rw [ha.get_withIndices] at hrun
  exact ⟨_, hrun⟩

theorem write_run (i : Nat) (x : α) (m : Mem) :
    ∃ is, (a.write i x).run m = pure ((), (a.set ((a.get m).put i x) m).withIndices is) := by
  have hrun : (a.write i x).run m = pure ((), a.set ((a.get (m.withIndices (m.indices ++ [(a.static, i)]))).put i x)
    (m.withIndices (m.indices ++ [(a.static, i)]))) := rfl
  rw [ha.get_withIndices, ha.set_withIndices] at hrun
  exact ⟨_, hrun⟩

theorem push_run (x : α) (m : Mem) :
    ∃ is, (a.push x).run m = pure ((), (a.set ((a.get m).push x) m).withIndices is) := by
  have hrun : (a.push x).run m =
      pure ((), a.set ((a.get (m.withIndices (m.indices ++ [(a.static, (a.get m).count)]))).push x)
    (m.withIndices (m.indices ++ [(a.static, (a.get m).count)]))) := rfl
  rw [ha.get_withIndices, ha.set_withIndices] at hrun
  exact ⟨_, hrun⟩

theorem findFrom_run (hit : α → Bool) (left i : Nat) (m : Mem) : ∃ is, (a.findFrom hit left i).run m =
    pure ((List.range' i left).find? fun k => hit ((a.get m).slot k), m.withIndices is) := by
  induction left generalizing i m with
  | zero => exact ⟨_, rfl⟩
  | succ left ih =>
    obtain ⟨is, hread⟩ := read_run ha i m
    rw [Ref.findFrom, StateT.run_bind, hread, pure_bind, List.range'_succ, List.find?_cons]
    cases hhit : hit ((a.get m).slot i) with
    | true => exact ⟨is, rfl⟩
    | false =>
      obtain ⟨js, hrest⟩ := ih (i + 1) (m.withIndices is)
      rw [ha.get_withIndices] at hrest
      exact ⟨js, hrest⟩

theorem find_run (hit : α → Bool) (m : Mem) :
    ∃ is, (a.find hit).run m = pure ((a.get m).index hit, m.withIndices is) := by
  obtain ⟨is, hrun⟩ := findFrom_run ha hit (a.get m).count 0 m
  rw [← List.range_eq_range'] at hrun
  exact ⟨is, hrun⟩

theorem addIfRoom_run (x : α) (m : Mem) :
    ∃ is, (a.addIfRoom x).run m = pure ((), (a.set (added a.static.size x (a.get m)) m).withIndices is) := by
  have hrun : (a.addIfRoom x).run m = (if (a.get m).count < a.static.size then a.push x else pure ()).run m := rfl
  rw [hrun, added]
  split
  · exact push_run ha x m
  · rw [ha.set_get]
    exact ⟨m.indices, rfl⟩

theorem store_run (same : α → Bool) (x : α) (m : Mem) :
    ∃ is, (a.store same x).run m = pure ((), (a.set (stored a.static.size same x (a.get m)) m).withIndices is) := by
  obtain ⟨is, hfind⟩ := find_run ha same m
  rw [Ref.store, StateT.run_bind, hfind, pure_bind, stored]
  cases (a.get m).index same with
  | some i =>
    obtain ⟨js, hwrite⟩ := write_run ha i x (m.withIndices is)
    rw [ha.get_withIndices, ha.set_withIndices] at hwrite
    exact ⟨js, hwrite⟩
  | none =>
    obtain ⟨js, hadd⟩ := addIfRoom_run ha x (m.withIndices is)
    rw [ha.get_withIndices, ha.set_withIndices] at hadd
    exact ⟨js, hadd⟩

end Run

theorem gClasses_lawful : Lawful gClasses := ⟨fun _ _ => rfl, fun _ _ _ => rfl, fun _ => rfl⟩
theorem gPlayerMeta_lawful : Lawful gPlayerMeta := ⟨fun _ _ => rfl, fun _ _ _ => rfl, fun _ => rfl⟩
theorem gItemMeta_lawful : Lawful gItemMeta := ⟨fun _ _ => rfl, fun _ _ _ => rfl, fun _ => rfl⟩
theorem framePlayers_lawful : Lawful framePlayers := ⟨fun _ _ => rfl, fun _ _ _ => rfl, fun _ => rfl⟩
theorem frameVehicles_lawful : Lawful frameVehicles := ⟨fun _ _ => rfl, fun _ _ _ => rfl, fun _ => rfl⟩
theorem frameItems_lawful : Lawful frameItems := ⟨fun _ _ => rfl, fun _ _ _ => rfl, fun _ => rfl⟩
theorem characters_lawful : Lawful characters := ⟨fun _ _ => rfl, fun _ _ _ => rfl, fun _ => rfl⟩
theorem vehicles_lawful : Lawful vehicles := ⟨fun _ _ => rfl, fun _ _ _ => rfl, fun _ => rfl⟩
theorem items_lawful : Lawful items := ⟨fun _ _ => rfl, fun _ _ _ => rfl, fun _ => rfl⟩

section Store
variable {α β : Type} (actor : β → UInt64) (text : α → β) (same : α → Bool) (x : α)

/-- `storeMeta` from the slot `i` on: the first slot that is hit is set, else there is one more. -/
theorem storeMeta_slots (hsame : ∀ e, same e = true ↔ actor (text e) = actor (text x)) (c : Counted α)
    (left i room : Nat) : storeMeta actor (text x) ((List.range' i left).map fun k => text (c.slot k)) room =
      match (List.range' i left).find? fun k => same (c.slot k) with
      | some j => (List.range' i left).map fun k => text ((c.put j x).slot k)
      | none => ((List.range' i left).map fun k => text (c.slot k)) ++ if left < room then [text x] else [] := by
  induction left generalizing i room with
  | zero =>
    cases room with
    | zero => rfl
    | succ room => rfl
  | succ left ih =>
    rw [List.range'_succ, List.map_cons, storeMeta, List.find?_cons]
    cases hhit : same (c.slot i) with
    | true =>
      -- The entry is overwritten where it is, and the later ones stay.
      rw [if_pos ((hsame _).mp hhit)]
      simp only [List.map_cons, Counted.put_self]
      refine congrArg _ (List.map_congr_left fun k hk => ?_)
      have hle := (List.mem_range'_1.mp hk).1
      rw [Counted.put_of_ne c x (by omega)]
    | false =>
      have hmiss : ¬actor (text (c.slot i)) = actor (text x) := by
        intro h
        rw [(hsame _).mpr h] at hhit
        cases hhit
      rw [if_neg hmiss, ih (i + 1) (room - 1)]
      cases hrest : (List.range' (i + 1) left).find? fun k => same (c.slot k) with
      | some j =>
        have hle := (List.mem_range'_1.mp (List.mem_of_find?_eq_some hrest)).1
        simp only [List.map_cons]
        rw [Counted.put_of_ne c x (by omega)]
      | none =>
        have hroom : left < room - 1 ↔ left + 1 < room := by omega
        simp only [List.cons_append, hroom]

theorem storeMeta_stored (hsame : ∀ e, same e = true ↔ actor (text e) = actor (text x)) (size : Nat) (c : Counted α) :
    storeMeta actor (text x) (c.list.map text) size = (stored size same x c).list.map text := by
  have hmap : ∀ d : Counted α, d.list.map text = (List.range d.count).map fun k => text (d.slot k) := by
    intro d
    rw [Counted.list, List.map_map]
    rfl
  rw [hmap, List.range_eq_range', storeMeta_slots actor text same x hsame, ← List.range_eq_range', stored]
  cases hindex : c.index same with
  | some j =>
    rw [Counted.index] at hindex
    rw [hindex, Option.elim_some, hmap]
    rfl
  | none =>
    rw [Counted.index] at hindex
    rw [hindex, Option.elim_none, added]
    dsimp only
    split
    · rw [Counted.list_push, List.map_append, hmap, List.map_singleton]
    · rw [List.append_nil, hmap]

end Store

/-! ### Up to the first loop -/

/-- Some environment, for the programs that make no call. -/
def still : Nat → Handler Host := fun _ => (Memory.ofSegments []).host

/-- The list model is in the state that the arrays show. -/
def Shows (f : Records) (m : Mem) (r : Radar) : Prop := Ok f m ∧ r = m.radar

section Start
variable {f : Records}

theorem find_ok {α : Type} {a : Ref α} {good : α → Prop} (ha : Settable f a good) (hlawful : Lawful a) (hit : α → Bool)
    {m : Mem} (hm : Ok f m) :
    ∃ is, (a.find hit).run m = pure ((a.get m).index hit, m.withIndices is) ∧ Ok f (m.withIndices is) := by
  obtain ⟨is, hrun⟩ := find_run hlawful hit m
  exact ⟨is, hrun, ((find_triple ha hit).of_run still hm hrun).1⟩

theorem readFound_ok {α : Type} {a : Ref α} {good : α → Prop} (ha : Settable f a good) (hlawful : Lawful a) {i : Nat}
    {m : Mem} (hm : Ok f m) (hi : i < (a.get m).count) :
    ∃ is, (a.read i).run m = pure ((a.get m).slot i, m.withIndices is) ∧ Ok f (m.withIndices is) := by
  obtain ⟨is, hrun⟩ := read_run hlawful i m
  exact ⟨is, hrun, ((readFound_triple ha i).of_run still ⟨hm, hi⟩ hrun).1⟩

theorem onVars_shows {α : Type} {p : RadarReader α} (hp : UsesNoList p) :
    Simulates (Shows f) (onVars p) p fun a b m r => a = b ∧ Shows f m r :=
  onVars_simulates (F := id) (fun _ _ => rfl) ok_blind hp

theorem radar_addClass (cls : UInt64) (type : ClsType) (name : Str) (m : Mem) :
    (gClasses.set (added gClasses.static.size ⟨cls, type, snprintf 32 name, m.vars.world⟩ (gClasses.get m)) m).radar =
      m.radar.addClass cls type name := by
  have hlength : m.radar.gClasses.length = m.gClasses.count := Counted.length_list m.gClasses
  have hlist := Counted.list_push m.gClasses ⟨cls, type, snprintf 32 name, m.vars.world⟩
  rw [Radar.addClass, hlength]
  by_cases hroom : m.gClasses.count < classCacheSize
  · have hadded : added gClasses.static.size ⟨cls, type, snprintf 32 name, m.vars.world⟩ (gClasses.get m) =
      m.gClasses.push ⟨cls, type, snprintf 32 name, m.vars.world⟩ := if_pos hroom
    rw [if_pos hroom, hadded]
    exact congrArg (fun l => { m.radar with gClasses := l }) hlist
  · have hkept : added gClasses.static.size ⟨cls, type, snprintf 32 name, m.vars.world⟩
        (gClasses.get m) = gClasses.get m :=
      if_neg hroom
    rw [if_neg hroom, hkept]
    rfl

theorem classifyClass_simulates (cls actorSample : UInt64) : Simulates (Shows f) (classifyClass cls actorSample)
    (RadarAim.classifyClass cls actorSample) fun a b m r => a = b ∧ Shows f m r := by
  refine Simulates.ite Iff.rfl (fun _ => Simulates.pure fun _ _ h => ⟨rfl, h⟩) fun _ => Simulates.fix ?_
  rintro m _ ⟨hok, rfl⟩
  obtain ⟨is, hfind, hok⟩ := find_ok gClasses_settable gClasses_lawful (fun e => e.classPtr = cls) hok
  refine Simulates.left hfind (Simulates.right (c := m.radar) (u := m.radar) rfl ?_)
  have hlist : (m.radar.gClasses.find? fun e => e.classPtr = cls) =
    ((gClasses.get m).index fun e => e.classPtr = cls).map m.gClasses.slot := Counted.find?_list m.gClasses _
  rw [hlist]
  cases hindex : (gClasses.get m).index fun e => e.classPtr = cls with
  | some i =>
    obtain ⟨js, hread, hok⟩ := readFound_ok gClasses_settable gClasses_lawful hok (Counted.index_lt _ hindex)
    refine Simulates.left hread (Simulates.from (R := Shows f) ?_ ⟨hok, rfl⟩)
    exact Simulates.bindSame (onVars_shows (usesNoList_use _)) fun _ => Simulates.pure fun _ _ h => ⟨rfl, h⟩
  | none =>
    refine Simulates.from (R := Shows f) ?_ ⟨hok, rfl⟩
    refine Simulates.bindSame (onVars_shows (usesNoList_sampleName cls actorSample)) fun name => ?_
    refine Simulates.bindSame (onVars_shows (usesNoList_typeOfClass cls name)) fun type => Simulates.fix ?_
    rintro m _ ⟨hok, rfl⟩
    refine Simulates.left (c := m) (u := m) rfl ?_
    obtain ⟨js, hadd⟩ := addIfRoom_run gClasses_lawful ⟨cls, type, snprintf 32 name, m.vars.world⟩ m
    have hok' := (addIfRoom_triple gClasses_settable trivial).of_run still hok hadd
    refine Simulates.left hadd (Simulates.right (c := ⟨⟩) (u := m.radar.addClass cls type name) rfl ?_)
    refine Simulates.ends rfl rfl ⟨rfl, hok', ?_⟩
    exact (radar_addClass cls type name m).symm

theorem scanActors_simulates (actors : List UInt64) (s : Scan) : Simulates (Shows f) (scanActors actors s)
    (RadarAim.scanActors actors s) fun a b m r => a = b ∧ Shows f m r := by
  induction actors generalizing s with
  | nil => exact Simulates.pure fun _ _ h => ⟨rfl, h⟩
  | cons actor actors ih =>
    refine Simulates.ite Iff.rfl (fun _ => ?_) fun _ => ih s
    refine Simulates.bindSame (Simulates.lift _) fun cls => Simulates.ite Iff.rfl (fun _ => ?_) fun _ => ih s
    exact Simulates.bindSame (classifyClass_simulates cls actor) fun type => ih _

theorem scanChunks_simulates (data : UInt64) (count chunks start : Nat) (s : Scan) :
    Simulates (Shows f) (scanChunks data count chunks start s) (RadarAim.scanChunks data count chunks start s)
      fun a b m r => a = b ∧ Shows f m r := by
  induction chunks generalizing start s with
  | zero => exact Simulates.pure fun _ _ h => ⟨rfl, h⟩
  | succ chunks ih =>
    refine Simulates.bindSame (Simulates.lift _) fun res => ?_
    cases res with
    | none => exact ih _ s
    | some b => exact Simulates.bindSame (scanActors_simulates _ s) fun s => ih _ s

theorem setCandidates_simulates {s : Scan} (hs : ScanFits s) :
    Simulates (Shows f) (setCandidates s) (modify (Radar.setCandidates s)) fun a b m r => a = b ∧ Shows f m r := by
  refine Simulates.fix ?_
  rintro m _ ⟨hok, rfl⟩
  refine Simulates.ends rfl rfl ⟨rfl, (setCandidates_keeps hs).of_run still hok rfl, ?_⟩
  rw [Radar.setCandidates]
  simp only [Mem.radar, characters, vehicles, items, Counted.list_copy]
  rfl

theorem scanPersistentLevel_simulates (w : UInt64) : Simulates (Shows f) (scanPersistentLevel w)
    (RadarAim.scanPersistentLevel w) fun a b m r => a = b ∧ Shows f m r := by
  have fails : Simulates (Shows f) (pure false : ArrayReader Bool) (pure false : RadarReader Bool)
      fun a b m r => a = b ∧ Shows f m r := Simulates.pure fun _ _ h => ⟨rfl, h⟩
  refine Simulates.bindSame (Simulates.lift _) fun level => Simulates.ite Iff.rfl (fun _ => fails) fun _ => ?_
  refine Simulates.bindSame (Simulates.lift _) fun res => ?_
  cases res with
  | none => exact fails
  | some res =>
    refine Simulates.ite Iff.rfl (fun _ => fails) fun _ => ?_
    refine Simulates.bind (Simulates.imp ((scanChunks_simulates _ _ _ _ _).and (scanChunks_triple (f := f) _ _ _ _ _
      ⟨Nat.zero_le _, Nat.zero_le _, Nat.zero_le _⟩)) (fun m r h => ⟨h, h.1⟩) fun _ _ _ _ h => h) fun s s' => ?_
    refine Simulates.fix ?_
    rintro m r ⟨⟨rfl, hshows⟩, -, hs⟩
    refine Simulates.from (R := Shows f) ?_ hshows
    exact Simulates.bindSame (setCandidates_simulates hs) fun _ => Simulates.pure fun _ _ h => ⟨rfl, h⟩

theorem findWorld_simulates (ar : Arith) (input : TickInput) : Simulates (Shows f) (findWorld ar input)
    (RadarAim.findWorld ar input) fun a b m r => a = b ∧ Shows f m r := by
  refine Simulates.bindGet ?_
  rintro m _ ⟨hok, rfl⟩
  refine Simulates.from (R := Shows f) ?_ ⟨hok, rfl⟩
  refine Simulates.bindSame (Simulates.lift _) fun current => Simulates.ite Iff.rfl (fun _ => ?_) fun _ => ?_
  · refine Simulates.bindSame (T := Shows f) (Simulates.modify ?_) fun _ => Simulates.pure fun _ _ h => ⟨rfl, h⟩
    rintro m _ ⟨hok, rfl⟩
    refine ⟨rfl, hok.enterWorld current, ?_⟩
    have hworld : m.radar.world = m.vars.world := rfl
    rw [Radar.enterWorld, Mem.enterWorld, hworld]
    split
    · rfl
    · rfl
  · refine Simulates.bindSame (onVars_shows usesNoList_loseLocalPlayer) fun _ => ?_
    refine Simulates.bindSame (onVars_shows (usesNoList_lookupWorld ar input)) fun _ => Simulates.bindGet ?_
    rintro m _ ⟨hok, rfl⟩
    exact Simulates.ends rfl rfl ⟨rfl, hok, rfl⟩

theorem radarTickHead_simulates (ar : Arith) (input : TickInput) : Simulates (Shows f) (radarTickHead ar input)
    (RadarAim.radarTickHead ar input) fun a b m r => a = b ∧ Shows noRecords m r := by
  have ends : ∀ head : Option TickHead, Simulates (Shows noRecords) (pure head : ArrayReader (Option TickHead))
      (pure head : RadarReader (Option TickHead)) fun a b m r => a = b ∧ Shows noRecords m r :=
    fun head => Simulates.pure fun _ _ h => ⟨rfl, h⟩
  refine Simulates.bindSame (T := Shows noRecords) (Simulates.modify ?_) fun _ => ?_
  · rintro m _ ⟨hok, rfl⟩
    exact ⟨rfl, { hok.zeroFrame with }, rfl⟩
  refine Simulates.bindSame (findWorld_simulates ar input) fun w => Simulates.ite Iff.rfl
    (fun _ => ends none) fun _ => ?_
  refine Simulates.bindGet ?_
  rintro m _ ⟨hok, rfl⟩
  refine Simulates.from (R := Shows noRecords) ?_ ⟨hok, rfl⟩
  refine Simulates.bindSame (Simulates.lift _) fun pc => Simulates.ite Iff.rfl (fun _ => ends none) fun _ => ?_
  refine Simulates.bindSame (Simulates.lift _) fun pawn => Simulates.bindSame (Simulates.lift _) fun camera => ?_
  refine Simulates.bindSame (onVars_shows (usesNoList_readView pawn camera)) fun head => ?_
  refine Simulates.bindSame (Simulates.lift _) fun team => ?_
  exact Simulates.bindSame (onVars_shows (usesNoList_setLocalTeam team)) fun _ => ends (some head)

theorem radarTickStart_simulates (ar : Arith) (input : TickInput) : Simulates (Shows f) (radarTickStart ar input)
    (RadarAim.radarTickStart ar input) fun a b m r => a = b ∧ Shows noRecords m r := by
  refine Simulates.bindSame (radarTickHead_simulates ar input) fun head => ?_
  cases head with
  | none => exact Simulates.pure fun _ _ h => ⟨rfl, h⟩
  | some head =>
    refine Simulates.bindSame (onVars_shows usesNoList_teamFallback) fun _ => ?_
    refine Simulates.bindSame (T := Shows noRecords) ?_ fun _ => Simulates.pure fun _ _ h => ⟨rfl, h⟩
    refine Simulates.bindGet ?_
    rintro m _ ⟨hok, rfl⟩
    refine Simulates.from (R := Shows noRecords) ?_ ⟨hok, rfl⟩
    refine Simulates.ite Iff.rfl (fun _ => ?_) fun _ => Simulates.pure fun _ _ h => ⟨rfl, h⟩
    refine Simulates.bindSame (onVars_shows (UsesNoList.modify fun _ _ => rfl)) fun _ => ?_
    exact Simulates.bindSame (scanPersistentLevel_simulates _) fun _ => Simulates.pure fun _ _ h => ⟨rfl, h⟩

end Start

end Arrays
end RadarAim

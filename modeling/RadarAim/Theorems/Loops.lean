import RadarAim.Theorems.Arrays

/-! The loops of a tick, and the tick. A loop over a list gives back what is left of its candidates when it ends: until
    then the list model has the list that the loop began with, and the array is ahead of it. -/

namespace RadarAim
namespace Arrays
open Prog Ieee

/-! ### One candidate -/

/-- `F` puts another list in the place of that of the array `a`. -/
structure Hides (a : Ref Candidate) (F : Radar → Radar) : Prop where
  lawful : Lawful a
  settable : ∀ f, Settable f a fun _ => True
  lists : ∀ v l, F (withLists v l) = withLists v (F l)
  vars : ∀ m v, a.get { m with vars := v } = a.get m
  get_set : ∀ c m, a.get (a.set c m) = c
  set : ∀ c m, F (a.set c m).radar = F m.radar

def withCharacters (cs : List Candidate) (r : Radar) : Radar := { r with characters := cs }
def withVehicles (cs : List Candidate) (r : Radar) : Radar := { r with vehicles := cs }
def withItems (cs : List Candidate) (r : Radar) : Radar := { r with items := cs }

theorem characters_hides (cs : List Candidate) : Hides characters (withCharacters cs) :=
  ⟨characters_lawful, fun _ => characters_settable, fun _ _ => rfl, fun _ _ => rfl, fun _ _ => rfl, fun _ _ => rfl⟩

theorem vehicles_hides (cs : List Candidate) : Hides vehicles (withVehicles cs) :=
  ⟨vehicles_lawful, fun _ => vehicles_settable, fun _ _ => rfl, fun _ _ => rfl, fun _ _ => rfl, fun _ _ => rfl⟩

theorem items_hides (cs : List Candidate) : Hides items (withItems cs) :=
  ⟨items_lawful, fun _ => items_settable, fun _ _ => rfl, fun _ _ => rfl, fun _ _ => rfl, fun _ _ => rfl⟩

/-- In the loop over `a`, which holds the candidates `c` by now. -/
def Looping (a : Ref Candidate) (F : Radar → Radar) (f : Records) (c : Counted Candidate) (m : Mem)
    (r : Radar) : Prop :=
  (Ok f m ∧ a.get m = c) ∧ r = F m.radar

/-- After the body for slot `i`: the candidate that the list model gives back is the one that is there. -/
def Processed (a : Ref Candidate) (F : Radar → Radar) (c : Counted Candidate) (i : Nat) (_ : Unit) (left : Candidate)
    (m : Mem) (r : Radar) : Prop :=
  ∃ f, Good f ∧ Looping a F f (c.put i left) m r

section Body
variable {a : Ref Candidate} {F : Radar → Radar} {f : Records} {c : Counted Candidate} {i : Nat} (ha : Hides a F)
include ha

theorem looping_read {α β : Type} {g : Candidate → ArrayReader α} {q : RadarReader β} {S : α → β → Mem → Radar → Prop}
    (hi : i < c.count) (hg : Simulates (Looping a F f c) (g (c.slot i)) q S) :
    Simulates (Looping a F f c) (a.read i >>= g) q S := by
  refine Simulates.fix ?_
  rintro m _ ⟨⟨hok, rfl⟩, rfl⟩
  obtain ⟨is, hread, hok⟩ := readFound_ok (ha.settable f) ha.lawful hok hi
  exact Simulates.left hread (hg.from ⟨⟨hok, ha.lawful.get_withIndices m is⟩, rfl⟩)

theorem looping_onVars {α β : Type} {X : α → β → Prop} {p : RadarReader α} {q : RadarReader β} (hpq : Alike p q X) :
    Simulates (Looping a F f c) (onVars p) q fun x y m r => X x y ∧ Looping a F f c m r :=
  onVars_simulates ha.lists (fun m v hm => ⟨ok_blind m v hm.1, (ha.vars m v).trans hm.2⟩) hpq

theorem looping_drops (hgood : Good f) (hi : i < c.count) (left : Candidate) :
    Simulates (Looping a F f c) (a.write i left) (pure left) (Processed a F c i) := by
  refine Simulates.fix ?_
  rintro m _ ⟨⟨hok, rfl⟩, rfl⟩
  have hlt : i < a.static.size := lt_of_lt_of_le hi ((ha.settable f).fits hok).count_le
  obtain ⟨is, hwrite⟩ := write_run ha.lawful i left m
  have hok' := (write_triple (ha.settable f) hlt trivial).of_run still hok hwrite
  refine Simulates.ends hwrite rfl ⟨f, hgood, ⟨hok', ?_⟩, (ha.set _ m).symm⟩
  rw [ha.lawful.get_withIndices, ha.get_set]

omit ha in
theorem looping_stays (hgood : Good f) :
    Simulates (Looping a F f c) (pure () : ArrayReader Unit) (pure (c.slot i)) (Processed a F c i) := by
  refine Simulates.pure fun m r h => ⟨f, hgood, ?_⟩
  rwa [Counted.put_slot]

end Body

/-! ### Names -/

/-- The field of a name, and the text that the list model has for it. -/
def Holds (field text : Str) : Prop := Terminated nameSize field ∧ cstr field = text

section Holds
variable {field text : Str}

theorem Short.holds (hfield : Terminated nameSize field) (h : Short text) :
    Holds (RadarAim.overwrite field text) text :=
  ⟨h.overwrite hfield, cstr_overwrite h.2⟩

theorem Holds.name32 (h : Holds field text) : name32 text = text := by
  obtain ⟨hlt, -⟩ := h.1.cstr
  rw [h.2] at hlt
  exact List.take_of_length_le (Nat.le_of_lt_succ hlt)

theorem Holds.strncpy (h : Holds field text) : cstr (strncpy nameSize field) = RadarAim.name32 text := by
  rw [cstr_strncpy h.1, h.2, h.name32]

end Holds

theorem Alike.bind {α β γ δ : Type} {p : RadarReader γ} {q : RadarReader δ} {f : γ → RadarReader α}
    {g : δ → RadarReader β} {X : γ → δ → Prop} {Y : α → β → Prop} (hpq : Alike p q X)
    (hfg : ∀ c d, X c d → Alike (f c) (g d) Y) :
    Alike (p >>= f) (q >>= g) Y :=
  fun l l' => (hpq l l').bind fun c d s t hst => hfg c d hst.1 l l' s t hst.2

theorem Alike.pure {α β : Type} {X : α → β → Prop} {a : α} {b : β} (h : X a b) :
    Alike (Pure.pure a) (Pure.pure b) X := fun _ _ => Simulates.pure fun _ _ hst => ⟨h, hst⟩

/-- The label of an item, as the field and as the text. -/
def SameLabel (label : Str × UInt8) (label' : Str × UInt8) : Prop := Holds label.1 label'.1 ∧ label.2 = label'.2

theorem improveLabel_alike (object : UInt64) {label label' : Str × UInt8} (h : SameLabel label label') :
    Alike (improveLabel object label) (RadarAim.improveLabel object label') SameLabel := by
  obtain ⟨hname, hcategory⟩ := h
  rw [improveLabel, RadarAim.improveLabel, hname.2]
  split
  · refine Alike.bind (usesNoList_resolveNameOf object) fun aname aname' haname => Alike.pure ?_
    obtain rfl := haname
    change SameLabel _ ((aname.bind fun aname => resolveItemFromActorName aname nameSize).getD label')
    cases hfound : aname.bind fun aname => resolveItemFromActorName aname nameSize with
    | none => exact ⟨hname, hcategory⟩
    | some found =>
      obtain ⟨text, -, htext⟩ := Option.bind_eq_some_iff.mp hfound
      exact ⟨(resolveItemFromActorName_short htext).holds hname.1, rfl⟩
  · exact Alike.pure ⟨hname, hcategory⟩

theorem readItemMeta_alike (iactor : UInt64) (itemId : Int) :
    Alike (readItemMeta iactor itemId) (RadarAim.readItemMeta iactor itemId) SameLabel := by
  have hnone : Holds zeroName [] := ⟨terminated_zeroName, rfl⟩
  have hfirst : SameLabel (if itemId > 0 then (overwrite zeroName (resolveItemInfo itemId nameSize).1,
      (resolveItemInfo itemId nameSize).2) else (zeroName, 0)) (if itemId > 0 then resolveItemInfo itemId nameSize
      else ([], 0)) := by
    split
    · exact ⟨(resolveItemInfo_short itemId).holds terminated_zeroName, rfl⟩
    · exact ⟨hnone, rfl⟩
  refine (improveLabel_alike iactor hfirst).bind fun label label' h => ?_
  rw [h.1.2]
  refine Alike.bind (UsesNoList.lift _) fun acls acls' hacls => ?_
  obtain rfl := hacls
  refine (improveLabel_alike acls h).bind fun label label' h => ?_
  rw [h.1.2]
  refine Alike.bind (UsesNoList.lift _) fun pmesh pmesh' hpmesh => ?_
  obtain rfl := hpmesh
  refine (improveLabel_alike pmesh h).bind fun label label' h => Alike.pure ?_
  rw [h.1.2]
  split
  · exact ⟨short_supply.holds h.1.1, rfl⟩
  · exact h

/-! ### Metadata -/

theorem find?_text {α : Type} (text : α → α) (hit : α → Bool) (c : Counted α) :
    (c.list.map text).find? hit = (c.index (hit ∘ text)).map (text ∘ c.slot) := by
  rw [List.find?_map, Counted.find?_list, Option.map_map]

theorem radar_storePlayerMeta {field name : Str} (h : Holds field name) (other : UInt64) (teamId : UInt32)
    (isBot : UInt8) (m : Mem) :
    (gPlayerMeta.set (stored playerMetaCacheSize (fun e => e.actor = other)
      ⟨other, teamId, isBot, strncpy nameSize field, true, m.vars.world⟩ m.gPlayerMeta) m).radar =
        m.radar.storePlayerMeta other teamId isBot name := by
  have hstored := storeMeta_stored PlayerMetaCache.actor playerMetaText (fun e => e.actor = other)
    ⟨other, teamId, isBot, strncpy nameSize field, true, m.vars.world⟩ (fun _ => decide_eq_true_iff)
    playerMetaCacheSize m.gPlayerMeta
  rw [playerMetaText, h.strncpy] at hstored
  exact congrArg (fun l => { m.radar with gPlayerMeta := l }) hstored.symm

theorem radar_storeItemMeta {field name : Str} (h : Holds field name) (iactor : UInt64) (itemId : Int)
    (category : UInt8) (m : Mem) :
    (gItemMeta.set (stored itemMetaCacheSize (fun e => e.actor = iactor)
      ⟨iactor, itemId, category, strncpy nameSize field, true, m.vars.world⟩ m.gItemMeta) m).radar =
        m.radar.storeItemMeta iactor itemId category name := by
  have hstored := storeMeta_stored ItemMetaCache.actor itemMetaText (fun e => e.actor = iactor)
    ⟨iactor, itemId, category, strncpy nameSize field, true, m.vars.world⟩ (fun _ => decide_eq_true_iff)
    itemMetaCacheSize m.gItemMeta
  rw [itemMetaText, h.strncpy] at hstored
  exact congrArg (fun l => { m.radar with gItemMeta := l }) hstored.symm

section Meta
variable {f : Records} {cs : List Candidate} {c : Counted Candidate}

theorem playerMeta_simulates (other st : UInt64) : Simulates (Looping characters (withCharacters cs) f c)
    (playerMeta other st) (RadarAim.playerMeta other st) fun i j m r =>
      (i.1 = j.1 ∧ i.2.1 = j.2.1 ∧ Holds i.2.2 j.2.2) ∧ Looping characters (withCharacters cs) f c m r := by
  refine Simulates.fix ?_
  rintro m _ ⟨⟨hok, rfl⟩, rfl⟩
  obtain ⟨is, hfind, hok⟩ := find_ok gPlayerMeta_settable gPlayerMeta_lawful (fun e => e.valid && e.actor = other) hok
  refine Simulates.left hfind (Simulates.right (c := withCharacters cs m.radar) (u := withCharacters cs m.radar) rfl ?_)
  have hfound : (withCharacters cs m.radar).findPlayerMeta other =
      ((gPlayerMeta.get m).index fun e => e.valid && e.actor = other).map (playerMetaText ∘ m.gPlayerMeta.slot) :=
    find?_text playerMetaText (fun e => e.valid && e.actor = other) m.gPlayerMeta
  rw [hfound]
  cases hindex : (gPlayerMeta.get m).index fun e => e.valid && e.actor = other with
  | some i =>
    have hlt := Counted.index_lt _ hindex
    have hname : Terminated nameSize (m.gPlayerMeta.slot i).name := hok.gPlayerMeta.slots i hlt
    obtain ⟨js, hread, hok⟩ := readFound_ok gPlayerMeta_settable gPlayerMeta_lawful hok hlt
    refine Simulates.left hread (Simulates.from (R := Looping characters (withCharacters cs) f m.characters) ?_
      ⟨⟨hok, rfl⟩, rfl⟩)
    refine Simulates.bindSame (looping_onVars (characters_hides cs) (usesNoList_use _)) fun _ => ?_
    exact Simulates.pure fun _ _ h => ⟨⟨rfl, rfl, hname, rfl⟩, h⟩
  | none =>
    refine Simulates.left (c := m.withIndices is) (u := m.withIndices is) rfl ?_
    refine Simulates.bindRead (readPlayerMeta_short _ st) fun read hread => ?_
    have hname : Holds (overwrite zeroName read.2.2) read.2.2 := hread.holds terminated_zeroName
    have hstore := store_run gPlayerMeta_lawful (fun e => e.actor = other) ⟨other, read.1,
      clearTeammate m.vars.frame.header.localTeam read.1 read.2.1, strncpy nameSize (overwrite zeroName read.2.2), true,
      m.vars.world⟩ (m.withIndices is)
    obtain ⟨js, hstore⟩ := hstore
    have hok' := (store_triple gPlayerMeta_settable _ (terminated_strncpy hname.1)).of_run still hok hstore
    refine Simulates.left hstore (Simulates.right rfl (Simulates.ends rfl rfl ⟨⟨rfl, rfl, hname⟩, ⟨hok', rfl⟩, ?_⟩))
    exact congrArg (withCharacters cs) (radar_storePlayerMeta hname other _ _ m).symm

theorem itemMeta_simulates (iactor : UInt64) : Simulates (Looping items (withItems cs) f c) (itemMeta iactor)
    (RadarAim.itemMeta iactor) fun i j m r =>
      (i.1 = j.1 ∧ i.2.1 = j.2.1 ∧ SameLabel i.2.2 j.2.2) ∧ Looping items (withItems cs) f c m r := by
  refine Simulates.fix ?_
  rintro m _ ⟨⟨hok, rfl⟩, rfl⟩
  obtain ⟨is, hfind, hok⟩ := find_ok gItemMeta_settable gItemMeta_lawful (fun e => e.valid && e.actor = iactor) hok
  refine Simulates.left hfind (Simulates.right (c := withItems cs m.radar) (u := withItems cs m.radar) rfl ?_)
  have hfound : (withItems cs m.radar).findItemMeta iactor =
      ((gItemMeta.get m).index fun e => e.valid && e.actor = iactor).map (itemMetaText ∘ m.gItemMeta.slot) :=
    find?_text itemMetaText (fun e => e.valid && e.actor = iactor) m.gItemMeta
  rw [hfound]
  cases hindex : (gItemMeta.get m).index fun e => e.valid && e.actor = iactor with
  | some i =>
    -- Both replay the entry that they have of the item.
    have hlt := Counted.index_lt _ hindex
    have hname : Terminated nameSize (m.gItemMeta.slot i).name := hok.gItemMeta.slots i hlt
    obtain ⟨js, hread, hok⟩ := readFound_ok gItemMeta_settable gItemMeta_lawful hok hlt
    refine Simulates.left hread (Simulates.from (R := Looping items (withItems cs) f m.items) ?_ ⟨⟨hok, rfl⟩, rfl⟩)
    refine Simulates.bindSame (looping_onVars (items_hides cs) (usesNoList_use _)) fun _ => ?_
    refine Simulates.bindSame (Simulates.lift _) fun count => ?_
    exact Simulates.pure fun _ _ h => ⟨⟨rfl, rfl, ⟨hname, rfl⟩, rfl⟩, h⟩
  | none =>
    -- Both read the item, and store what they have read.
    refine Simulates.from (R := Looping items (withItems cs) f m.items) ?_ ⟨⟨hok, rfl⟩, rfl⟩
    refine Simulates.bindSame (Simulates.lift _) fun itemId => Simulates.bindSame (Simulates.lift _) fun count => ?_
    refine (looping_onVars (items_hides cs) (readItemMeta_alike iactor itemId)).bind fun label label' =>
      Simulates.fix ?_
    rintro m _ ⟨⟨hname, hcategory⟩, ⟨hok, hitems⟩, rfl⟩
    refine Simulates.left (c := m) (u := m) rfl ?_
    obtain ⟨js, hstore⟩ := store_run gItemMeta_lawful (fun e => e.actor = iactor)
      ⟨iactor, itemId, label.2, strncpy nameSize label.1, true, m.vars.world⟩ m
    have hok' := (store_triple gItemMeta_settable _ (terminated_strncpy hname.1)).of_run still hok hstore
    refine Simulates.left hstore (Simulates.right rfl (Simulates.ends rfl rfl
      ⟨⟨rfl, rfl, hname, hcategory⟩, ⟨hok', hitems⟩, ?_⟩))
    rw [← hcategory]
    exact congrArg (withItems cs) (radar_storeItemMeta hname iactor itemId label.2 m).symm

theorem vehicleClassName_simulates (cls : UInt64) : Simulates (Looping vehicles (withVehicles cs) f c)
    (vehicleClassName cls) (RadarAim.vehicleClassName cls) fun i j m r =>
      i = j ∧ Looping vehicles (withVehicles cs) f c m r := by
  refine Simulates.fix ?_
  rintro m _ ⟨⟨hok, rfl⟩, rfl⟩
  obtain ⟨is, hfind, hok⟩ := find_ok gClasses_settable gClasses_lawful (fun e => e.classPtr = cls) hok
  refine Simulates.left hfind (Simulates.right (c := withVehicles cs m.radar) (u := withVehicles cs m.radar) rfl ?_)
  have hfound : ((withVehicles cs m.radar).gClasses.find? fun e => e.classPtr = cls) =
    ((gClasses.get m).index fun e => e.classPtr = cls).map m.gClasses.slot := Counted.find?_list m.gClasses _
  rw [hfound]
  have resolves := looping_onVars (f := f) (c := m.vehicles) (vehicles_hides cs) (usesNoList_resolveClassName cls)
  cases hindex : (gClasses.get m).index fun e => e.classPtr = cls with
  | some i =>
    obtain ⟨js, hread, hok⟩ := readFound_ok gClasses_settable gClasses_lawful hok (Counted.index_lt _ hindex)
    refine Simulates.left hread (Simulates.from (R := Looping vehicles (withVehicles cs) f m.vehicles) ?_
      ⟨⟨hok, rfl⟩, rfl⟩)
    refine Simulates.bindSame (looping_onVars (vehicles_hides cs) (usesNoList_use _)) fun _ => ?_
    exact Simulates.ite Iff.rfl (fun _ => Simulates.pure fun _ _ h => ⟨rfl, h⟩) fun _ => resolves
  | none => exact resolves.from ⟨⟨hok, rfl⟩, rfl⟩

end Meta

/-! ### The bodies of the loops -/

section Process
variable {f : Records} {cs : List Candidate} {c : Counted Candidate} {i : Nat}

/-- What the three bodies do first: a candidate that is passed over stays in its slot, one without a position is
    dropped. -/
theorem placed_simulates {a : Ref Candidate} {F : Radar → Radar} (ha : Hides a F) (hgood : Good f) (hi : i < c.count)
    {skip : Candidate → Prop} [DecidablePred skip] {far : Rvec3 → Bool} {g : Candidate → Rvec3 → ArrayReader Unit}
    {q : Rvec3 → RadarReader Candidate}
    (h : ∀ pos, Simulates (Looping a F f c) (g (c.slot i) pos) (q pos) (Processed a F c i)) :
    Simulates (Looping a F f c)
      (do
        let c ← a.read i
        if skip c then pure ()
        else do
          onVars (modify (Radar.use c.recordedIn))
          match ← position c.actor with
          | none => a.write i c.drop
          | some pos => if far pos then pure () else g c pos : ArrayReader Unit)
      (if skip (c.slot i) then pure (c.slot i)
        else do
          modify (Radar.use (c.slot i).recordedIn)
          match ← position (c.slot i).actor with
          | none => pure (c.slot i).drop
          | some pos => if far pos then pure (c.slot i) else q pos : RadarReader Candidate)
      (Processed a F c i) := by
  refine looping_read ha hi (Simulates.ite Iff.rfl (fun _ => looping_stays hgood) fun _ => ?_)
  refine Simulates.bindSame (looping_onVars ha (usesNoList_use _)) fun _ => ?_
  refine Simulates.bindSame (Simulates.lift _) fun pos => ?_
  cases pos with
  | none => exact looping_drops ha hgood hi _
  | some pos => exact Simulates.ite Iff.rfl (fun _ => looping_stays hgood) fun _ => h pos

/-- A record is added to the frame; the array of candidates stays as it is. -/
theorem push_simulates {α : Type} {a : Ref Candidate} {F g : Radar → Radar} {b : Ref α} {x : α} (ha : Lawful a)
    (hb : Lawful b) (hpush : Triple (Ok f) (b.push x) fun _ => Filling) (hother : ∀ d m, a.get (b.set d m) = a.get m)
    (hshows : ∀ m, g (F m.radar) = F (b.set ((b.get m).push x) m).radar) :
    Simulates (Looping a F f c) (b.push x) (do modify g; pure (c.slot i)) (Processed a F c i) := by
  refine Simulates.fix ?_
  rintro m _ ⟨⟨hok, rfl⟩, rfl⟩
  obtain ⟨is, hrun⟩ := push_run hb x m
  obtain ⟨f', hgood, hok'⟩ := hpush.of_run still hok hrun
  refine Simulates.right rfl (Simulates.ends hrun rfl ⟨f', hgood, ⟨hok', ?_⟩, hshows m⟩)
  rw [Counted.put_slot, ha.get_withIndices, hother]

theorem pushPlayer_simulates (hgood : Good f) (hroom : f.1.count < radarMaxPlayers) {p p' : RadarPlayer}
    (hname : Terminated nameSize p.name) (htext : playerText p = p') :
    Simulates (Looping characters (withCharacters cs) f c) (framePlayers.push p)
      (do modify (Radar.pushPlayer p'); pure (c.slot i)) (Processed characters (withCharacters cs) c i) := by
  subst htext
  refine push_simulates characters_lawful framePlayers_lawful (pushPlayer_triple hgood hroom hname) (fun _ _ => rfl)
    fun m => ?_
  exact congrArg (fun players => withCharacters cs { m.radar with frame := { m.radar.frame with players } })
    (Counted.map_push m.framePlayers p playerText).symm

theorem pushVehicle_simulates (hgood : Good f) (hroom : f.2.1.count < radarMaxVehicles) {v v' : RadarVehicle}
    (hname : Terminated nameSize v.name) (htext : vehicleText v = v') :
    Simulates (Looping vehicles (withVehicles cs) f c) (frameVehicles.push v)
      (do modify (Radar.pushVehicle v'); pure (c.slot i)) (Processed vehicles (withVehicles cs) c i) := by
  subst htext
  refine push_simulates vehicles_lawful frameVehicles_lawful (pushVehicle_triple hgood hroom hname) (fun _ _ => rfl)
    fun m => ?_
  exact congrArg (fun vehicles => withVehicles cs { m.radar with frame := { m.radar.frame with vehicles } })
    (Counted.map_push m.frameVehicles v vehicleText).symm

theorem pushItem_simulates (hgood : Good f) (hroom : f.2.2.count < radarMaxItems) {item item' : RadarItem}
    (hname : Terminated nameSize item.name) (htext : itemText item = item') :
    Simulates (Looping items (withItems cs) f c) (frameItems.push item)
      (do modify (Radar.pushItem item'); pure (c.slot i)) (Processed items (withItems cs) c i) := by
  subst htext
  refine push_simulates items_lawful frameItems_lawful (pushItem_triple hgood hroom hname) (fun _ _ => rfl) fun m => ?_
  exact congrArg (fun items => withItems cs { m.radar with frame := { m.radar.frame with items } })
    (Counted.map_push m.frameItems item itemText).symm

variable {ar : Arith} {head : TickHead}

theorem processPlayer_simulates (hgood : Good f) (hroom : f.1.count < radarMaxPlayers) (hi : i < c.count) :
    Simulates (Looping characters (withCharacters cs) f c) (processPlayer ar head i)
      (RadarAim.processPlayer ar head (c.slot i)) (Processed characters (withCharacters cs) c i) := by
  refine placed_simulates (characters_hides cs) hgood hi fun pos => ?_
  refine Simulates.bindSame (Simulates.lift _) fun bDead => ?_
  refine Simulates.ite Iff.rfl (fun _ => looping_stays hgood) fun _ => ?_
  refine Simulates.bindSame (Simulates.lift _) fun st => Simulates.bindSame (Simulates.lift _) fun health => ?_
  refine Simulates.bindSame (Simulates.lift _) fun healthStatus => ?_
  refine Simulates.ite Iff.rfl (fun _ => looping_stays hgood) fun _ => ?_
  refine Simulates.bindSame (Simulates.lift _) fun yaw => ?_
  refine (playerMeta_simulates _ st).bind fun info info' => Simulates.given fun hinfo => ?_
  obtain ⟨hteam, hbot, hname⟩ := hinfo
  refine pushPlayer_simulates hgood hroom hname.1 ?_
  simp only [playerText, playerRecord, hteam, hbot, hname.2, hname.name32]

theorem processVehicle_simulates (hgood : Good f) (hroom : f.2.1.count < radarMaxVehicles) (hi : i < c.count) :
    Simulates (Looping vehicles (withVehicles cs) f c) (processVehicle ar head i)
      (RadarAim.processVehicle ar head (c.slot i)) (Processed vehicles (withVehicles cs) c i) := by
  refine placed_simulates (vehicles_hides cs) hgood hi fun pos => ?_
  refine Simulates.bindSame (Simulates.lift _) fun fwdSpeed =>
    Simulates.bindSame (Simulates.lift _) fun healthState => ?_
  refine Simulates.bindSame (Simulates.lift _) fun canBoost => Simulates.bindSame (Simulates.lift _) fun teamId => ?_
  refine Simulates.bindSame (Simulates.lift _) fun cls => ?_
  refine Simulates.bindSame (vehicleClassName_simulates cls) fun clsName => ?_
  have hname := (resolveVehicleName_short clsName).holds terminated_zeroName
  refine pushVehicle_simulates hgood hroom hname.1 ?_
  rw [vehicleText, hname.2]
  rfl

theorem processItem_simulates (hgood : Good f) (hroom : f.2.2.count < radarMaxItems) (hi : i < c.count) :
    Simulates (Looping items (withItems cs) f c) (processItem ar head i) (RadarAim.processItem ar head (c.slot i))
      (Processed items (withItems cs) c i) := by
  refine placed_simulates (items_hides cs) hgood hi fun pos => ?_
  refine (itemMeta_simulates _).bind fun info info' => Simulates.given fun hinfo => ?_
  obtain ⟨hid, hcount, hname, hcategory⟩ := hinfo
  refine pushItem_simulates hgood hroom hname.1 ?_
  simp only [itemText, hid, hcount, hname.2, hname.name32, hcategory]

end Process

/-! ### The loops -/

section Loop
variable {a : Ref Candidate} {F : Radar → Radar} {more : Mem → Bool} {full : Radar → Bool}
  {body : Nat → ArrayReader Unit}
  {process : Candidate → RadarReader Candidate}

/-- The loop over the slots from `i` on, and the loop over the candidates that they hold. -/
theorem forSlots_simulates (hfull : ∀ m, more m = !full (F m.radar))
    (hbody : ∀ {f c i}, Good f → i < c.count → Simulates (fun m r => Looping a F f c m r ∧ more m = true) (body i)
      (process (c.slot i)) (Processed a F c i)) (left i : Nat) (c : Counted Candidate) (h : i + left = c.count) :
    Simulates (fun m r => ∃ f, Good f ∧ Looping a F f c m r) (forSlots more body left i)
      (forCandidates full process ((List.range' i left).map c.slot)) fun _ cs m r =>
        ∃ f c', Good f ∧ Looping a F f c' m r ∧ c'.list = c.list.take i ++ cs := by
  induction left generalizing i c with
  | zero =>
    refine Simulates.pure fun m r hm => ?_
    obtain ⟨f, hgood, hm⟩ := hm
    exact ⟨f, c, hgood, hm, (Counted.take_append_slots c h).symm⟩
  | succ left ih =>
    rw [List.range'_succ, List.map_cons]
    refine Simulates.bindGet ?_
    rintro m r ⟨f, hgood, hm⟩
    obtain ⟨hok, rfl⟩ := hm
    rw [hfull m]
    cases hmore : full (F m.radar) with
    | true =>
      refine Simulates.ends rfl rfl ⟨f, c, hgood, ⟨hok, rfl⟩, ?_⟩
      rw [← List.map_cons, ← List.range'_succ, Counted.take_append_slots c h]
    | false =>
      have hroom : more m = true := by rw [hfull m, hmore]; rfl
      have hlt : i < c.count := by omega
      have hcount : i + 1 + left = c.count := by omega
      refine Simulates.bind ((hbody hgood hlt).from ⟨⟨hok, rfl⟩, hroom⟩) fun _ rest => ?_
      -- The body has written to no slot but its own: the loop goes on over the same candidates.
      have hslots : (List.range' (i + 1) left).map c.slot = (List.range' (i + 1) left).map (c.put i rest).slot := by
        refine List.map_congr_left fun k hk => ?_
        have hle := (List.mem_range'_1.mp hk).1
        rw [Counted.put_of_ne c rest (by omega)]
      rw [hslots]
      refine (ih (i + 1) (c.put i rest) hcount).thenPure fun _ cs m r hm => ?_
      obtain ⟨g, c', hg, hm, hlist⟩ := hm
      rw [Counted.take_put c rest hlt, List.append_assoc, List.singleton_append] at hlist
      exact ⟨g, c', hg, hm, hlist⟩

end Loop

/-- The list model is in the state that the arrays show, between two parts of a tick. -/
def Between (m : Mem) (r : Radar) : Prop := Filling m ∧ r = m.radar

/-- A loop, and its end, when the list of what is left takes the place of the one before. -/
theorem loop_simulates {a : Ref Candidate} {W : List Candidate → Radar → Radar} {more : Mem → Bool}
    {full : Radar → Bool} {body : Nat → ArrayReader Unit} {process : Candidate → RadarReader Candidate}
    (hlist : ∀ m, W (a.get m).list m.radar = m.radar) (htwice : ∀ cs cs' r, W cs' (W cs r) = W cs' r)
    (hfull : ∀ cs m, more m = !full (W cs m.radar))
    (hbody : ∀ cs {f c i}, Good f → i < c.count → Simulates (fun m r => Looping a (W cs) f c m r ∧ more m = true)
      (body i) (process (c.slot i)) (Processed a (W cs) c i)) {m : Mem} (hm : Filling m) :
    Simulates (At m m.radar) (forSlots more body (a.get m).count 0)
      (do let cs ← forCandidates full process (a.get m).list; modify (W cs)) fun _ _ => Between := by
  obtain ⟨f, hgood, hok⟩ := hm
  have hslots : (a.get m).list = (List.range' 0 (a.get m).count).map (a.get m).slot := by
    rw [← List.range_eq_range']
    rfl
  rw [hslots]
  have hloop := forSlots_simulates (hfull _) (hbody (a.get m).list) (a.get m).count 0 (a.get m) (Nat.zero_add _)
  refine (hloop.from ⟨f, hgood, ⟨hok, rfl⟩, (hlist m).symm⟩).thenModify fun _ cs m' r hm => ?_
  obtain ⟨g, c, hg, ⟨⟨hok', rfl⟩, rfl⟩, hleft⟩ := hm
  obtain rfl : (a.get m').list = cs := hleft
  refine ⟨⟨g, hg, hok'⟩, ?_⟩
  rw [htwice, hlist]

/-- There is room in a list as long as there is room in its array. -/
theorem hasRoom {α : Type} (text : α → α) (size : Nat) (c : Counted α) :
    decide (c.count < size) = !decide (size ≤ (c.list.map text).length) := by
  rw [List.length_map, Counted.length_list, ← decide_not, decide_eq_decide]
  exact Nat.not_le.symm

theorem processCandidates_simulates (ar : Arith) (head : TickHead) : Simulates Between (processCandidates ar head)
    (RadarAim.processCandidates ar head) fun _ _ => Between := by
  refine Simulates.bindGet ?_
  rintro m _ ⟨hm, rfl⟩
  refine Simulates.bindTwo (loop_simulates (a := characters) (W := withCharacters) (fun _ => rfl) (fun _ _ _ => rfl)
    (fun _ m => hasRoom playerText radarMaxPlayers m.framePlayers) ?_ hm) fun _ _ => Simulates.bindGet ?_
  · intro cs f c i hgood hi m r hm
    obtain ⟨hm, hmore⟩ := hm
    have hroom : f.1.count < radarMaxPlayers := hm.1.1.records ▸ of_decide_eq_true hmore
    exact processPlayer_simulates hgood hroom hi m r hm
  rintro m _ ⟨hm, rfl⟩
  refine Simulates.bindTwo (loop_simulates (a := vehicles) (W := withVehicles) (fun _ => rfl) (fun _ _ _ => rfl)
    (fun _ m => hasRoom vehicleText radarMaxVehicles m.frameVehicles) ?_ hm) fun _ _ => Simulates.bindGet ?_
  · intro cs f c i hgood hi m r hm
    obtain ⟨hm, hmore⟩ := hm
    have hroom : f.2.1.count < radarMaxVehicles := hm.1.1.records ▸ of_decide_eq_true hmore
    exact processVehicle_simulates hgood hroom hi m r hm
  rintro m _ ⟨hm, rfl⟩
  refine loop_simulates (a := items) (W := withItems) (fun _ => rfl) (fun _ _ _ => rfl)
    (fun _ m => hasRoom itemText radarMaxItems m.frameItems) ?_ hm
  intro cs f c i hgood hi m r hm
  obtain ⟨hm, hmore⟩ := hm
  have hroom : f.2.2.count < radarMaxItems := hm.1.1.records ▸ of_decide_eq_true hmore
  exact processItem_simulates hgood hroom hi m r hm

/-! ### The tick -/

theorem radar_publish (status : UInt32) (m : Mem) : (m.publish status).radar = m.radar.publish status := by
  have hpublished : ∀ f : SharedFrame, (m.published ++ [f]).map SharedFrame.text =
      m.published.map SharedFrame.text ++ [f.text] := by
    intro f
    rw [List.map_append, List.map_singleton]
  rw [Radar.publish, Mem.radar, Mem.publish, hpublished]
  rfl

theorem radarTickRest_simulates (ar : Arith) (head : Option TickHead) : Simulates (Shows noRecords)
    (radarTickRest ar head) (RadarAim.radarTickRest ar head) fun _ _ m r => r = m.radar := by
  cases head with
  | none =>
    refine Simulates.modify fun m r h => ?_
    obtain ⟨-, rfl⟩ := h
    exact (radar_publish 1 m).symm
  | some head =>
    refine Simulates.bind ((processCandidates_simulates ar head).imp (fun m r h => ⟨⟨_, good_noRecords, h.1⟩, h.2⟩)
      fun _ _ _ _ h => h) fun _ _ => Simulates.modify fun m r h => ?_
    obtain ⟨-, rfl⟩ := h
    exact (radar_publish _ m).symm

theorem radarTick_simulates (ar : Arith) (input : TickInput) :
    Simulates Between (radarTick ar input) (RadarAim.radarTick ar input) fun _ _ m r => r = m.radar := by
  refine Simulates.bindGet ?_
  rintro m _ ⟨⟨f, -, hok⟩, rfl⟩
  refine Simulates.from (R := Shows f) ?_ ⟨hok, rfl⟩
  refine Simulates.ite Iff.rfl (fun _ => ?_) fun _ => Simulates.pure fun _ _ h => h.2
  exact Simulates.bindSame (radarTickStart_simulates ar input) fun head => radarTickRest_simulates ar head

theorem radar_step {ar : Arith} {m : Mem} (h : Filling m) (input : TickInput) :
    (m.step ar input).radar = m.radar.step ar input :=
  ((radarTick_simulates ar input m m.radar ⟨h, rfl⟩ input.host 0).2).symm

theorem radar_init (imageBase aslrSlide : UInt64) (m : Mem) :
    (radarInit imageBase aslrSlide .mapped m).radar = RadarAim.radarInit imageBase aslrSlide true m.radar :=
  radar_publish 1 _

/-- Tick after tick from any state of a run: the lists are what the arrays hold, and so are those of the frames. -/
theorem radar_ticks {ar : Arith} {m : Mem} (h : Run ar m) (inputs : List TickInput) :
    (inputs.foldl (fun m input => m.step ar input) m).radar =
      inputs.foldl (fun r input => r.step ar input) m.radar := by
  induction inputs generalizing m with
  | nil => rfl
  | cons input inputs ih =>
    rw [List.foldl_cons, List.foldl_cons, ← radar_step h.filling input]
    exact ih (.tick h input)

end Arrays
end RadarAim

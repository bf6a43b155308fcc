import RadarAim.Radar.Joint
import RadarAim.Theorems.Layout
import RadarAim.Theorems.Loops
import RadarAim.Theorems.Metadata
import RadarAim.Theorems.Snapshot

/-! From the reader to the overlays. A snapshot that an overlay accepts is, in everything that the overlay reads, one
    frame that the reader published: the frame is written to the words of the file and read back from them without
    loss, whatever the daemon and the overlays do meanwhile. -/

namespace RadarAim
namespace Joint
open Prog Ieee Reader
open Snapshot (Shared System)

/-! ### What fits the members of the file -/

def IsInt32 (x : Int) : Prop := -2 ^ 31 ≤ x ∧ x < 2 ^ 31

/-- The records of a frame fit the members of a `radar_shared_t`. -/
structure Sized (f : RadarFrame) : Prop where
  bones : ∀ p ∈ f.players, p.bones.length = Layout.radarNumBones
  ids : ∀ it ∈ f.items, IsInt32 it.itemId ∧ IsInt32 it.count

theorem isInt32_leI32 (b : Buf) (off : Nat) : IsInt32 (leI32 b off) :=
  ⟨BitVec.le_toInt _, BitVec.toInt_lt⟩

theorem readInt32_returns (addr : UInt64) {default : Int} (h : IsInt32 default) :
    Returns (readInt32 addr default) IsInt32 := by
  refine Returns.bind (Returns.any _) fun res _ => ?_
  cases res with
  | none => exact Returns.pure h
  | some b => exact Returns.pure (isInt32_leI32 b 0)

theorem readItemId_returns (iactor : UInt64) : Returns (readItemId iactor) IsInt32 := by
  have zero : IsInt32 0 := ⟨by decide, by decide⟩
  refine Returns.bind (readInt32_returns _ zero) fun itemId hid => ?_
  split
  · exact Returns.pure hid
  refine Returns.bind (readInt32_returns _ hid) fun itemId hid => ?_
  split
  · exact Returns.pure hid
  refine Returns.bind (Returns.any _) fun listData _ => ?_
  split
  · exact readInt32_returns _ hid
  · exact Returns.pure hid

theorem readItemCount_returns (iactor : UInt64) : Returns (readItemCount iactor) IsInt32 := by
  refine Returns.bind (readInt32_returns _ ⟨by decide, by decide⟩) fun count hcount => Returns.pure ?_
  split
  · exact ⟨by decide, by decide⟩
  · exact hcount

/-! ### A tick -/

def CacheSized (r : Radar) : Prop := ∀ m ∈ r.gItemMeta, IsInt32 m.itemId

/-- In a tick, before it publishes: what is in the frame so far fits. -/
structure Working (tick : UInt32) (pub : List RadarFrame) (r : Radar) : Prop where
  frame : Sized r.frame
  cache : CacheSized r
  tick : r.tick = tick
  published : r.published = pub

/-- The frame `f` was published, and the reader has gone on from `r` to `s`. -/
structure Done (r s : Radar) (f : RadarFrame) : Prop where
  published : s.published = r.published ++ [f]
  sized : Sized f
  magic : f.header.magic = RadarAim.radarMagic
  version : f.header.version = RadarAim.radarVersion
  header : f.header.tick = s.tick
  tick : s.tick = r.tick + 1
  cache : CacheSized s

section Tick
variable {n : UInt32} {pub : List RadarFrame} {r s : Radar}

theorem Working.of_same (h : Working n pub r) (hplayers : s.frame.players = r.frame.players)
    (hitems : s.frame.items = r.frame.items) (hcache : s.gItemMeta = r.gItemMeta) (htick : s.tick = r.tick)
    (hpublished : s.published = r.published) : Working n pub s := by
  refine ⟨⟨?_, ?_⟩, ?_, htick.trans h.tick, hpublished.trans h.published⟩
  · rw [hplayers]
    exact h.frame.bones
  · rw [hitems]
    exact h.frame.ids
  · rw [CacheSized, hcache]
    exact h.cache

theorem Working.enterWorld (h : Working n pub r) (w : UInt64) : Working n pub (r.enterWorld w) := by
  rw [Radar.enterWorld]
  split
  · exact ⟨h.frame, by simp [CacheSized], h.tick, h.published⟩
  · exact h.of_same rfl rfl rfl rfl rfl

theorem Working.publish (h : Working r.tick r.published s) (status : UInt32) :
    Done r (s.publish status) (s.publish status).frame where
  published := congrArg (· ++ _) h.published
  sized := ⟨h.frame.bones, h.frame.ids⟩
  magic := rfl
  version := rfl
  header := rfl
  tick := congrArg (· + 1) h.tick
  cache := h.cache

theorem radarTickStart_working (ar : Arith) (input : TickInput) :
    Triple (fun r => CacheSized r ∧ r.tick = n ∧ r.published = pub) (radarTickStart ar input)
      fun _ => Working n pub := by
  refine Triple.bind (R := fun _ => Working n pub) (radarTickHead_triple (S := Working n pub) (R := Working n pub) ?_
    (findWorld_keeps ?_ ?_ ?_ ?_ ?_ ar input) (fun s hs => hs) (fun _ s _ hs => hs)
    (fun s f hs => hs.of_same rfl rfl rfl rfl rfl) ?_ fun _ s hs => hs) fun head => ?_
  · rintro r ⟨hcache, htick, hpublished⟩
    exact ⟨⟨fun p hp => (nomatch hp), fun it hit => (nomatch hit)⟩, hcache, htick, hpublished⟩
  · exact fun s ctx hs => hs.of_same rfl rfl rfl rfl rfl
  · exact fun s localPlayer world hs => hs.of_same rfl rfl rfl rfl rfl
  · exact fun s cursor hs => hs.of_same rfl rfl rfl rfl rfl
  · exact fun s lookup hs => hs.of_same rfl rfl rfl rfl rfl
  · exact fun s w hs => hs.enterWorld w
  · intro s t hs
    rw [Radar.setLocalTeam]
    split
    · exact hs.of_same rfl rfl rfl rfl rfl
    · exact hs
  · cases head with
    | none => exact Triple.pure fun s hs => hs
    | some head =>
      refine Triple.bind (R := fun _ => Working n pub) (Keeps.modify fun s hs => ?_) fun _ =>
        Triple.bind (R := fun _ => Working n pub) (scanWhenDue_keeps ?_ ?_ ?_ ?_ ar input ?_) fun _ =>
          Triple.pure fun s hs => hs
      · rw [Radar.teamFallback]
        split
        · exact hs.of_same rfl rfl rfl rfl rfl
        · exact hs
      · exact fun s ctx hs => hs.of_same rfl rfl rfl rfl rfl
      · exact fun s e hs _ => hs.of_same rfl rfl rfl rfl rfl
      · intro s cls type name hs
        rw [Radar.addClass]
        split
        · exact hs.of_same rfl rfl rfl rfl rfl
        · exact hs
      · exact fun s t hs => hs.of_same rfl rfl rfl rfl rfl
      · exact fun s t hs => hs.of_same rfl rfl rfl rfl rfl

theorem playerMeta_working (other st : UInt64) :
    Triple (Working n pub) (playerMeta other st) fun _ s => Working n pub s ∧ True := by
  refine Triple.bindGet fun r _ => ?_
  split
  · refine Triple.bind (R := fun _ => Working n pub) (Triple.modify fun s hs => ?_) fun _ =>
      Triple.pure fun s hs => ⟨hs, trivial⟩
    exact hs.2.of_same rfl rfl rfl rfl rfl
  · refine Triple.imp ?_ (fun s hs => hs.2) fun _ _ hs => hs
    refine Triple.bind (Keeps.lift _) fun read => Triple.bind (R := fun _ => Working n pub)
      (Keeps.modify fun s hs => ?_)
      fun _ => Triple.pure fun s hs => ⟨hs, trivial⟩
    exact hs.of_same rfl rfl rfl rfl rfl

theorem itemMeta_working (iactor : UInt64) : Triple (Working n pub) (itemMeta iactor) fun info s =>
    Working n pub s ∧ IsInt32 info.1 ∧ IsInt32 info.2.1 := by
  refine Triple.bindGet fun r hr => ?_
  split
  · rename_i imeta hfind
    have hid : IsInt32 imeta.itemId := hr.cache imeta (of_findMeta hfind).1
    refine Triple.bind (R := fun _ => Working n pub) (Triple.modify fun s hs => ?_) fun _ => ?_
    · exact hs.2.of_same rfl rfl rfl rfl rfl
    · exact Triple.bindGiven (Triple.read (readItemCount_returns iactor)) fun count hcount =>
        Triple.pure fun s hs => ⟨hs, hid, hcount⟩
  · refine Triple.imp ?_ (fun s hs => hs.2) fun _ _ hs => hs
    refine Triple.bindGiven (Triple.read (readItemId_returns iactor)) fun itemId hid => ?_
    refine Triple.bindGiven (Triple.read (readItemCount_returns iactor)) fun count hcount => ?_
    refine Triple.bind (readItemMeta_keeps (fun s ctx hs => hs.of_same rfl rfl rfl rfl rfl) _ _) fun label => ?_
    refine Triple.bind (R := fun _ => Working n pub) (Keeps.modify fun s hs => ⟨hs.frame, ?_, hs.tick, hs.published⟩)
      fun _ => Triple.pure fun s hs => ⟨hs, hid, hcount⟩
    intro m hm
    rcases mem_storeMeta hm with rfl | hm
    · exact hid
    · exact hs.cache m hm

theorem processItem_working (ar : Arith) (head : TickHead) (c : Candidate) :
    Triple (Working n pub) (processItem ar head c) fun c' s => Working n pub s ∧ Left c c' := by
  refine placed_triple (fun s hs => hs.of_same rfl rfl rfl rfl rfl) fun pos => ?_
  refine Triple.bind (itemMeta_working c.actor) fun info => ?_
  refine Triple.bind (R := fun _ => Working n pub) (Triple.modify fun s hs => ?_) fun _ =>
    Triple.pure fun s hs => ⟨hs, Or.inl rfl⟩
  obtain ⟨hs, hid, hcount⟩ := hs
  refine ⟨⟨hs.frame.bones, fun it hit => ?_⟩, hs.cache, hs.tick, hs.published⟩
  rcases List.mem_append.mp hit with hit | hit
  · exact hs.frame.ids it hit
  · obtain rfl := List.mem_singleton.mp hit
    exact ⟨hid, hcount⟩

theorem processCandidates_working (ar : Arith) (head : TickHead) :
    Keeps (Working n pub) (processCandidates ar head) := by
  have use : ∀ (c : Candidate) s, Working n pub s → Working n pub (s.use c.recordedIn) :=
    fun c s hs => hs.of_same rfl rfl rfl rfl rfl
  refine loop_then (fun s hs => hs) (fun s hs c _ => ?_) (fun s t _ ht cs _ => ht.of_same rfl rfl rfl rfl rfl) ?_
  · refine processPlayer_triple (use c) (playerMeta_working c.actor) fun s pos health healthStatus yaw i hs _ => ?_
    refine ⟨⟨fun p hp => ?_, hs.frame.ids⟩, hs.cache, hs.tick, hs.published⟩
    rcases List.mem_append.mp hp with hp | hp
    · exact hs.frame.bones p hp
    · obtain rfl := List.mem_singleton.mp hp
      rfl
  refine loop_then (fun s hs => hs) (fun s hs c _ => ?_) (fun s t _ ht cs _ => ht.of_same rfl rfl rfl rfl rfl) ?_
  · exact processVehicle_triple (use c) (fun s ctx hs => hs.of_same rfl rfl rfl rfl rfl)
      (fun s e hs _ => hs.of_same rfl rfl rfl rfl rfl) fun s v hs => hs.of_same rfl rfl rfl rfl rfl
  exact loop_triple (fun s hs => hs) (fun s hs c _ => processItem_working ar head c)
    fun s t _ ht cs _ => ht.of_same rfl rfl rfl rfl rfl

theorem step_done {ar : Arith} {input : TickInput} (h : CacheSized r) :
    r.step ar input = r ∨ ∃ f, Done r (r.step ar input) f := by
  refine step_of_start (P := fun _ => Working r.tick r.published) (Q := fun s => s = r ∨ ∃ f, Done r s f) (Or.inl rfl)
    (radarTickStart_working ar input r ⟨h, rfl, rfl⟩ input.host 0) (fun s hs => Or.inr ⟨_, hs.publish 1⟩) fun head => ?_
  exact (processCandidates_working ar head).imp (fun s hs => hs) fun _ s hs status => Or.inr ⟨_, hs.publish status⟩

end Tick

/-! ### Words -/

theorem byteAt_words {bytes : List UInt8} (h : bytes.length = 4 * Snapshot.sharedWords) :
    byteAt (words bytes) = fun i => bytes.getD i 0 := by
  funext i
  rw [byteAt]
  split
  · rename_i hi
    have hmod : i % 4 < 4 := Nat.mod_lt i (by decide)
    have hlt : leNat (fun j => bytes.getD j 0) (4 * (i / 4)) 4 < 2 ^ 32 := leNat_lt _ _ 4
    rw [words, BitVec.toNat_ofNat, Nat.mod_eq_of_lt hlt, ofNat_leNat _ _ hmod, Nat.div_add_mod]
  · rename_i hi
    rw [List.getD_eq_default _ _ (by omega)]

/-! ### The members of a frame -/

section Members
open CLayout Layout
variable {b : Buf} {off : Nat}

theorem rvec3At_holds {v : Rvec3} (h : Holds b off (rvec3 v).bytes) : rvec3At b off = v := by
  have hmembers := h.struct
  simp [holds_members, padding, Nat.add_assoc] at hmembers
  obtain ⟨hx, hy, hz⟩ := hmembers
  rw [rvec3At, hx.uint32, hy.uint32, hz.uint32]

theorem nameAt_holds {name : Vector UInt8 32} (h : Holds b off (chars name).bytes) : nameAt b off = cstr name.toList :=
  congrArg cstr h.chars

/-- What the overlay reads of a frame that lies in a copy. -/
def headerValue (h : Layout.RadarHeader) : RadarAim.RadarHeader where
  magic := h.magic
  version := h.version
  tick := h.tick
  localPos := h.localPos
  localRot := h.localRot
  cameraFov := h.cameraFov
  status := h.status
  cameraPos := h.cameraPos
  cameraValid := h.cameraValid != 0
  localTeam := h.localTeam

def playerValue (p : Layout.RadarPlayer) : RadarAim.RadarPlayer where
  pos := p.pos
  health := p.health
  healthMax := p.healthMax
  yaw := p.yaw
  teamId := p.teamId
  isBot := p.isBot
  healthStatus := p.healthStatus
  hasBones := p.hasBones != 0
  name := cstr p.name.toList
  distance := p.distance
  headPos := p.headPos
  feetPos := p.feetPos
  bones := p.bones.toList

def vehicleValue (v : Layout.RadarVehicle) : RadarAim.RadarVehicle where
  pos := v.pos
  distance := v.distance
  speed := v.speed
  healthState := v.healthState
  canBoost := v.canBoost
  teamId := v.teamId
  name := cstr v.name.toList

def itemValue (it : Layout.RadarItem) : RadarAim.RadarItem where
  pos := it.pos
  distance := it.distance
  itemId := it.itemId.toInt
  count := it.count.toInt
  category := it.category
  name := cstr it.name.toList

theorem headerAt_holds {h : Layout.RadarHeader} (hh : Holds b 0 h.layout.bytes) : headerAt b 0 = headerValue h := by
  have hmembers := hh.struct
  simp [holds_members, padding] at hmembers
  obtain ⟨magic, version, tick, -, -, -, localPos, localRot, fov, -, status, camera, valid, team, -⟩ := hmembers
  simp only [headerAt, Nat.zero_add, magic.uint32, version.uint32, tick.uint32, rvec3At_holds localPos,
    rvec3At_holds localRot, fov.uint32, status.uint32, rvec3At_holds camera, valid.uint32, team.uint32, headerValue]

theorem playerAt_holds {p : Layout.RadarPlayer} (h : Holds b off p.layout.bytes) : playerAt b off = playerValue p := by
  have hmembers := h.struct
  simp [holds_members, padding, Nat.add_assoc] at hmembers
  obtain ⟨pos, health, healthMax, yaw, team, bot, -, healthStatus, hasBones, name, distance,
    head, feet, bones⟩ := hmembers
  have hbones : (List.range radarNumBones).map (fun k => rvec3At b (off + 92 + 12 * k)) = p.bones.toList := by
    refine List.ext_getElem (by simp) fun k hk hk' => ?_
    have hlt : k < radarNumBones := by simpa using hk
    rw [List.getElem_map, List.getElem_range, Vector.getElem_toList]
    exact rvec3At_holds (holds_vector size_rvec3 bones hlt)
  simp only [playerAt, hbones, rvec3At_holds pos, health.uint32, healthMax.uint32, yaw.uint32, team.uint32, bot.uint8,
    healthStatus.uint8, hasBones.uint8, nameAt_holds name, distance.uint32, rvec3At_holds head, rvec3At_holds feet,
    playerValue]

theorem vehicleAt_holds {v : Layout.RadarVehicle} (h : Holds b off v.layout.bytes) :
    vehicleAt b off = vehicleValue v := by
  have hmembers := h.struct
  simp [holds_members, padding, Nat.add_assoc] at hmembers
  obtain ⟨pos, distance, speed, healthState, canBoost, team, -, name⟩ := hmembers
  simp only [vehicleAt, rvec3At_holds pos, distance.uint32, speed.uint32, healthState.uint8, canBoost.uint8, team.uint8,
    nameAt_holds name, vehicleValue]

theorem itemAt_holds {it : Layout.RadarItem} (h : Holds b off it.layout.bytes) : itemAt b off = itemValue it := by
  have hmembers := h.struct
  simp [holds_members, padding, Nat.add_assoc] at hmembers
  obtain ⟨pos, distance, itemId, count, category, -, name⟩ := hmembers
  simp only [itemAt, rvec3At_holds pos, distance.uint32, itemId.int32, count.int32, category.uint8, nameAt_holds name,
    itemValue]

end Members

/-! ### A frame of the reader in the file -/

section Encoded
open CLayout Layout
variable (f : Layout.RadarShared)

theorem byteAt_frame : byteAt (words f.bytes) = fileBuf f := byteAt_words (size_frame f)

/-- What an overlay reads of a copy of the whole frame. -/
theorem view_frame (hplayers : f.header.playerCount.toNat ≤ radarMaxPlayers)
    (hvehicles : f.header.vehicleCount.toNat ≤ radarMaxVehicles) (hitems : f.header.itemCount.toNat ≤ radarMaxItems) :
    view (words f.bytes) =
      { header := headerValue f.header
        players := (f.players.toList.take f.header.playerCount.toNat).map playerValue
        vehicles := (f.vehicles.toList.take f.header.vehicleCount.toNat).map vehicleValue
        items := (f.items.toList.take f.header.itemCount.toNat).map itemValue } := by
  obtain ⟨header, players, vehicles, items⟩ := holds_frame f
  have hcounts := frame_header f
  rw [view, byteAt_frame, headerAt_holds header, hcounts.playerCount, hcounts.vehicleCount, hcounts.itemCount]
  congr 1
  · refine List.ext_getElem (by simp [hplayers]) fun i hi hi' => ?_
    have hlt : i < f.header.playerCount.toNat := by simpa using hi
    simp only [List.getElem_map, List.getElem_range, List.getElem_take, Vector.getElem_toList]
    exact playerAt_holds (holds_vector size_player players (hlt.trans_le hplayers))
  · refine List.ext_getElem (by simp [hvehicles]) fun i hi hi' => ?_
    have hlt : i < f.header.vehicleCount.toNat := by simpa using hi
    simp only [List.getElem_map, List.getElem_range, List.getElem_take, Vector.getElem_toList]
    exact vehicleAt_holds (holds_vector size_vehicle vehicles (hlt.trans_le hvehicles))
  · refine List.ext_getElem (by simp [hitems]) fun i hi hi' => ?_
    have hlt : i < f.header.itemCount.toNat := by simpa using hi
    simp only [List.getElem_map, List.getElem_range, List.getElem_take, Vector.getElem_toList]
    exact itemAt_holds (holds_vector size_item items (hlt.trans_le hitems))

end Encoded

theorem toList_ofFn_getD {α : Type} {n : Nat} {l : List α} (h : l.length = n) (d : α) :
    (Vector.ofFn fun i : Fin n => l.getD i d).toList = l := by
  refine List.ext_getElem (by simp [h]) fun i hi hi' => ?_
  simp [hi']

theorem encodeBool_byte (b : Bool) : (UInt8.ofNat (encodeBool b) != 0) = b := by cases b <;> rfl

theorem encodeBool_word (b : Bool) : (UInt32.ofNat (encodeBool b) != 0) = b := by cases b <;> rfl

theorem toInt_ofInt {x : Int} (h : IsInt32 x) : (Int32.ofInt x).toInt = x := by
  obtain ⟨hlow, hhigh⟩ := h
  exact Int32.toInt_ofInt_of_le hlow hhigh

theorem playerValue_encode {p : RadarPlayer} (hname : p.name.length = 32)
    (hbones : p.bones.length = Layout.radarNumBones) :
    playerValue (encodePlayer p) = Arrays.playerText p := by
  simp only [playerValue, encodePlayer, encodeBool_byte, encodeName, toList_ofFn_getD hname, toList_ofFn_getD hbones,
    Arrays.playerText]

theorem vehicleValue_encode {v : RadarVehicle} (hname : v.name.length = 32) :
    vehicleValue (encodeVehicle v) = Arrays.vehicleText v := by
  simp only [vehicleValue, encodeVehicle, encodeName, toList_ofFn_getD hname, Arrays.vehicleText]

theorem itemValue_encode {it : RadarItem} (hname : it.name.length = 32) (hid : IsInt32 it.itemId)
    (hcount : IsInt32 it.count) :
    itemValue (encodeItem it) = Arrays.itemText it := by
  simp only [itemValue, encodeItem, encodeName, toList_ofFn_getD hname, toInt_ofInt hid, toInt_ofInt hcount,
    Arrays.itemText]

/-- The records of an array below its count. -/
theorem take_ofFn_map {α β γ : Type} {n : Nat} {c : Counted α} (h : c.count ≤ n) {enc : α → β}
    {val : β → γ} {text : α → γ} (hval : ∀ i < c.count, val (enc (c.slot i)) = text (c.slot i)) :
    (((Vector.ofFn fun i : Fin n => enc (c.slot i)).toList).take c.count).map val = c.list.map text := by
  refine List.ext_getElem (by simp [Counted.length_list, h]) fun i hi hi' => ?_
  have hlt : i < c.count := by simpa [Counted.length_list] using hi'
  simp only [List.getElem_map, List.getElem_take, Vector.getElem_toList, Vector.getElem_ofFn, Counted.getElem_list]
  exact hval i hlt

/-- A frame of the reader with the sequence word that the file has. -/
def inFile (f : Arrays.SharedFrame) (sequence : UInt32) : Layout.RadarShared :=
  { encode f with header := { (encode f).header with sequence } }

theorem view_encode {f : Arrays.SharedFrame} (hf : Arrays.WellFormed f) (hsized : Sized f.text) (sequence : UInt32) :
    view (words (inFile f sequence).bytes) = f.text := by
  have small : ∀ {n : Nat}, n ≤ 100 → (UInt32.ofNat n).toNat = n :=
    fun h => UInt32.toNat_ofNat_of_lt' (lt_of_le_of_lt h (by decide))
  have hplayers : (inFile f sequence).header.playerCount.toNat = f.players.count := small hf.players.count_le
  have hvehicles : (inFile f sequence).header.vehicleCount.toNat = f.vehicles.count :=
    small (hf.vehicles.count_le.trans (by decide))
  have hitems : (inFile f sequence).header.itemCount.toNat = f.items.count :=
    small (hf.items.count_le.trans (by decide))
  rw [view_frame _ (hplayers.trans_le hf.players.count_le) (hvehicles.trans_le hf.vehicles.count_le)
    (hitems.trans_le hf.items.count_le), hplayers, hvehicles, hitems]
  rw [Arrays.SharedFrame.text]
  congr 1
  · simp only [headerValue, inFile, encode, encodeBool_word]
  · refine take_ofFn_map hf.players.count_le fun i hi => ?_
    refine playerValue_encode (hf.players.slots i hi).1 (hsized.bones (Arrays.playerText (f.players.slot i)) ?_)
    exact List.mem_map_of_mem (List.mem_map_of_mem (List.mem_range.mpr hi))
  · exact take_ofFn_map hf.vehicles.count_le fun i hi => vehicleValue_encode (hf.vehicles.slots i hi).1
  · refine take_ofFn_map hf.items.count_le fun i hi => ?_
    obtain ⟨hid, hcount⟩ := hsized.ids (Arrays.itemText (f.items.slot i))
      (List.mem_map_of_mem (List.mem_map_of_mem (List.mem_range.mpr hi)))
    exact itemValue_encode (hf.items.slots i hi).1 hid hcount

section Sequence
open CLayout Layout

/-- The frame without the word at `header.sequence`. -/
theorem bytes_inFile (f : Arrays.SharedFrame) : ∃ before after : List UInt8, before.length = 52 ∧
    ∀ sequence, (inFile f sequence).bytes = before ++ ((uint32 sequence).bytes ++ after) := by
  let h := (encode f).header
  let records := (CLayout.array ((encode f).players.toList.map RadarPlayer.layout)).bytes ++
    ((CLayout.array ((encode f).vehicles.toList.map RadarVehicle.layout)).bytes ++
      (CLayout.array ((encode f).items.toList.map RadarItem.layout)).bytes)
  refine ⟨members 0 [uint32 h.magic, uint32 h.version, uint32 h.tick, uint32 h.playerCount, uint32 h.vehicleCount,
    uint32 h.itemCount, rvec3 h.localPos, rvec3 h.localRot, uint32 h.cameraFov],
    members 56 [uint32 h.status, rvec3 h.cameraPos, uint32 h.cameraValid, uint32 h.localTeam, uint32 h.screenWidth,
      uint32 h.screenHeight] ++ records, ?_, fun sequence => ?_⟩
  · simp [members, padding]
  · simp [inFile, RadarShared.bytes, RadarShared.layout, RadarHeader.layout, struct, members,
      padding, maxAlign, h, records]

theorem getD_around {before x y after : List UInt8} (hxy : x.length = y.length) {j : Nat}
    (hj : j < before.length ∨ before.length + x.length ≤ j) :
    (before ++ (x ++ after)).getD j 0 = (before ++ (y ++ after)).getD j 0 := by
  rw [List.getD_eq_getElem?_getD, List.getD_eq_getElem?_getD]
  rcases hj with hj | hj
  · rw [List.getElem?_append_left hj, List.getElem?_append_left hj]
  · have hx : x.length ≤ j - before.length := by omega
    have hbefore : before.length ≤ j := by omega
    rw [List.getElem?_append_right hbefore, List.getElem?_append_right hx, List.getElem?_append_right hbefore,
      List.getElem?_append_right (hxy ▸ hx), hxy]

/-- A copy that differs from the words of the frame at most in `header.sequence` is the frame with another sequence. -/
theorem eq_inFile {f : Arrays.SharedFrame} {s : Shared}
    (h : ∀ i, i ≠ Snapshot.sequenceWord → s i = words (encode f).bytes i) :
    ∃ sequence, s = words (inFile f sequence).bytes := by
  obtain ⟨before, after, hlength, hbytes⟩ := bytes_inFile f
  have hzero : (encode f).bytes = before ++ ((uint32 0).bytes ++ after) := hbytes 0
  refine ⟨.ofBitVec (s Snapshot.sequenceWord), funext fun i => ?_⟩
  have hsize : ∀ x : UInt32, (uint32 x).bytes.length = 4 := size_uint32
  by_cases hi : i = Snapshot.sequenceWord
  · subst hi
    have hholds := holds_self (before ++ ((uint32 (.ofBitVec (s Snapshot.sequenceWord))).bytes ++ after))
    obtain ⟨-, hrest⟩ := holds_append.mp hholds
    have hword := (holds_append.mp hrest).1.uint32
    rw [Nat.zero_add, hlength] at hword
    rw [words, hbytes]
    exact (congrArg UInt32.toBitVec hword).symm
  · have hne : (i : Nat) ≠ 13 := fun h13 => hi (Fin.ext h13)
    rw [h i hi, words, words, hzero, hbytes]
    refine congrArg (BitVec.ofNat 32) (leNat_congr 4 fun k hk => getD_around ((hsize _).trans (hsize _).symm) ?_)
    rw [hlength, hsize]
    omega

theorem stamp_words {f : Arrays.SharedFrame} (hmagic : f.header.magic = RadarAim.radarMagic)
    (hversion : f.header.version = RadarAim.radarVersion) :
    Snapshot.stamp (words (encode f).bytes) f.header.tick.toBitVec f.header.status.toBitVec =
      words (encode f).bytes := by
  have hheader := frame_header (encode f)
  have hword : ∀ (i : Snapshot.Word) {x : UInt32}, le32 (fileBuf (encode f)) (4 * i) = x →
      x.toBitVec = words (encode f).bytes i := fun i x hx => (congrArg UInt32.toBitVec hx).symm
  funext i
  rw [Snapshot.stamp]
  split
  · rename_i h0
    exact h0 ▸ hword Snapshot.magicWord (hheader.magic.trans hmagic)
  split
  · rename_i h1
    exact h1 ▸ hword Snapshot.versionWord (hheader.version.trans hversion)
  split
  · rename_i h2
    exact h2 ▸ hword Snapshot.tickWord hheader.tick
  split
  · rename_i h14
    exact h14 ▸ hword Snapshot.statusWord hheader.status
  · rfl

end Sequence

/-! ### The frame of `radar_init` -/

section Init
open CLayout Layout

/-- What `radar_init` publishes. -/
def initFrame : Arrays.SharedFrame := (Arrays.radarInit 0 0 .mapped .initial).frame

/-- The magic, the version and the tick, and the status. -/
def initHeader : List UInt8 :=
  [0x52, 0x41, 0x44, 0x52, 4, 0, 0, 0, 1, 0, 0, 0] ++ List.replicate 44 0 ++ [1, 0, 0, 0] ++ List.replicate 28 0

theorem initFrame_header : (encode initFrame).header.layout.bytes = initHeader := by decide +kernel

def Zero (v : CValue) : Prop := v.bytes.all (· == 0) = true

theorem zero_array {α : Type} {n : Nat} {layout : α → CValue} {x : α} (h : Zero (layout x)) :
    Zero (CLayout.array ((Vector.ofFn fun _ : Fin n => x).toList.map layout)) := by
  refine List.all_eq_true.mpr fun b hb => ?_
  obtain ⟨v, hv, hb⟩ := List.mem_flatMap.mp hb
  obtain ⟨y, hy, rfl⟩ := List.mem_map.mp hv
  rw [Vector.toList_ofFn] at hy
  obtain ⟨i, rfl⟩ := (List.mem_ofFn' _ _).mp hy
  exact List.all_eq_true.mp h b hb

/-- The arrays of a frame, which come after its header. -/
def recordBytes (f : Layout.RadarShared) : List UInt8 :=
  (CLayout.array (f.players.toList.map RadarPlayer.layout)).bytes ++
    ((CLayout.array (f.vehicles.toList.map RadarVehicle.layout)).bytes ++
      (CLayout.array (f.items.toList.map RadarItem.layout)).bytes)

theorem bytes_frame (f : Layout.RadarShared) : f.bytes = f.header.layout.bytes ++ recordBytes f := by
  simp [RadarShared.bytes, RadarShared.layout, struct, members, padding, maxAlign, recordBytes]

theorem initFrame_records : (recordBytes (encode initFrame)).all (· == 0) = true := by
  have players : Zero (CLayout.array ((encode initFrame).players.toList.map RadarPlayer.layout)) :=
    zero_array (show (encodePlayer Arrays.zeroPlayer).layout.bytes.all (· == 0) = true by decide +kernel)
  have vehicles : Zero (CLayout.array ((encode initFrame).vehicles.toList.map RadarVehicle.layout)) :=
    zero_array (show (encodeVehicle Arrays.zeroVehicle).layout.bytes.all (· == 0) = true by decide +kernel)
  have items : Zero (CLayout.array ((encode initFrame).items.toList.map RadarItem.layout)) :=
    zero_array (show (encodeItem Arrays.zeroItem).layout.bytes.all (· == 0) = true by decide +kernel)
  rw [recordBytes, List.all_append, List.all_append, players, vehicles, items]
  rfl

/-- `memset` and the stamp leave the frame that the file's first words are written from. -/
theorem words_initFrame : words (encode initFrame).bytes = Snapshot.stamp (fun _ => 0) 1 1 := by
  obtain ⟨records, hrecords⟩ : ∃ records, records = recordBytes (encode initFrame) := ⟨_, rfl⟩
  have hbytes := bytes_frame (encode initFrame)
  have hzeros := initFrame_records
  rw [← hrecords] at hbytes hzeros
  have hlength : (encode initFrame).header.layout.bytes.length = 88 := size_header _
  funext i
  rw [words, hbytes]
  by_cases hi : (i : Nat) < 22
  · -- The first 22 words are the header.
    have hhead : leNat (fun j => ((encode initFrame).header.layout.bytes ++ records).getD j 0) (4 * i) 4 =
        leNat (fun j => (encode initFrame).header.layout.bytes.getD j 0) (4 * i) 4 := by
      refine leNat_congr 4 fun k hk => ?_
      rw [List.getD_append _ _ _ _ (by omega)]
    rw [hhead]
    have hfirst : ∀ k < 22, ∀ h : k < Snapshot.sharedWords,
        BitVec.ofNat 32 (leNat (fun j => initHeader.getD j 0) (4 * k) 4) = Snapshot.stamp (fun _ => 0) 1 1 ⟨k, h⟩ := by
      decide +kernel
    rw [initFrame_header]
    exact hfirst i hi i.isLt
  · -- The others are those of the records, and zero.
    have hzero : leNat (fun j => ((encode initFrame).header.layout.bytes ++ records).getD j 0) (4 * i) 4 = 0 := by
      have hnone : leNat (fun _ => 0) (4 * i) 4 = 0 := rfl
      refine (leNat_congr 4 fun k hk => ?_).trans hnone
      rw [List.getD_append_right _ _ _ _ (by omega), List.getD_eq_getElem?_getD]
      cases hget : records[4 * i + k - (encode initFrame).header.layout.bytes.length]? with
      | none => rfl
      | some x =>
        have hx := List.all_eq_true.mp hzeros x (List.mem_of_getElem? hget)
        exact beq_iff_eq.mp hx
    have hbeyond : ∀ j : Snapshot.Word, (j : Nat) < 22 → i ≠ j := fun j hj hij => hi (hij ▸ hj)
    rw [hzero, Snapshot.stamp, if_neg (hbeyond Snapshot.magicWord (by decide)),
      if_neg (hbeyond Snapshot.versionWord (by decide)), if_neg (hbeyond Snapshot.tickWord (by decide)),
      if_neg (hbeyond Snapshot.statusWord (by decide))]
    rfl

end Init

/-! ### Frames that the reader gives to `publish` -/

/-- The reader has published `f` on its way from `m` to `m'`. -/
structure Given (m m' : Arrays.Mem) (f : Arrays.SharedFrame) : Prop where
  sized : Sized f.text
  magic : f.header.magic = RadarAim.radarMagic
  version : f.header.version = RadarAim.radarVersion
  header : f.header.tick = m'.vars.tick
  tick : m'.vars.tick = m.vars.tick + 1
  cache : CacheSized m'.radar

section Reader
variable {ar : Arith} {m : Arrays.Mem} {f : Arrays.SharedFrame}

theorem given_tick {input : TickInput} (h : Arrays.Run ar m) (hcache : CacheSized m.radar)
    (hpublished : (m.step ar input).published = m.published ++ [f]) : Given m (m.step ar input) f := by
  have hstep : (m.step ar input).radar = m.radar.step ar input := Arrays.radar_step h.filling input
  have htexts : (m.radar.step ar input).published = m.radar.published ++ [f.text] := by
    rw [← hstep]
    show (m.step ar input).published.map Arrays.SharedFrame.text = m.published.map Arrays.SharedFrame.text ++ [f.text]
    rw [hpublished, List.map_append, List.map_singleton]
  rcases step_done hcache with hsame | ⟨g, hdone⟩
  · rw [hsame] at htexts
    exact absurd (List.self_eq_append_right.mp htexts) (List.cons_ne_nil _ _)
  · have hg : g = f.text := by
      have := hdone.published.symm.trans htexts
      exact List.singleton_inj.mp (List.append_cancel_left this)
    subst hg
    rw [← hstep] at hdone
    exact ⟨hdone.sized, hdone.magic, hdone.version, hdone.header, hdone.tick, hdone.cache⟩

theorem given_destroy (hcache : CacheSized m.radar)
    (hpublished : (Arrays.radarDestroy m).published = m.published ++ [f]) :
    Given m (Arrays.radarDestroy m) f := by
  rw [Arrays.radarDestroy] at hpublished ⊢
  split at hpublished
  · obtain rfl : (m.zeroFrame.publish 0).frame = f := List.singleton_inj.mp (List.append_cancel_left hpublished)
    rename_i hshared
    rw [if_pos hshared]
    exact ⟨⟨List.forall_mem_nil _, List.forall_mem_nil _⟩, rfl, rfl, rfl, rfl, hcache⟩
  · exact absurd (List.self_eq_append_right.mp hpublished) (List.cons_ne_nil _ _)

theorem init_frame {imageBase aslrSlide : UInt64}
    (hpublished : (Arrays.radarInit imageBase aslrSlide .mapped m).published = m.published ++ [f]) : f = initFrame :=
  (List.singleton_inj.mp (List.append_cancel_left hpublished)).symm

theorem init_cache (imageBase aslrSlide : UInt64) (mapping : Arrays.Mapping) (m : Arrays.Mem) :
    CacheSized (Arrays.radarInit imageBase aslrSlide mapping m).radar := by
  have hnone : (Arrays.radarInit imageBase aslrSlide mapping m).gItemMeta.count = 0 := by
    cases mapping with
    | mapped => rfl
    | openFails | mmapFails =>
      rw [Arrays.radarInit, Arrays.radarDestroy]
      split <;> rfl
  have hlist : (Arrays.radarInit imageBase aslrSlide mapping m).radar.gItemMeta = [] := by
    refine List.eq_nil_of_length_eq_zero ?_
    show ((Arrays.radarInit imageBase aslrSlide mapping m).gItemMeta.list.map Arrays.itemMetaText).length = 0
    rw [List.length_map, Counted.length_list, hnone]
  rw [CacheSized, hlist]
  exact List.forall_mem_nil _

end Reader

/-! ### Sessions -/

section Sessions
variable {ρ : Type} [DecidableEq ρ] {ar : Arith} {s t : Session ρ}

structure Inv (ar : Arith) (s : Session ρ) : Prop where
  system : Snapshot.Reachable s.system
  memory : Arrays.Run ar s.memory
  cache : CacheSized s.memory.radar
  tick : ∀ tick pc, s.system.daemon = .running tick pc → s.memory.vars.tick.toBitVec = tick
  good : ∀ f ∈ s.frames, Arrays.WellFormed f ∧ Sized f.text
  published : ∀ g ∈ s.system.published, ∃ f ∈ s.frames, g = words (encode f).bytes

theorem wellFormed_last {m m' : Arrays.Mem} {f : Arrays.SharedFrame} (h : Arrays.Run ar m')
    (hpublished : m'.published = m.published ++ [f]) : Arrays.WellFormed f := by
  obtain ⟨_, _, hok⟩ := h.filling
  exact hok.published f (hpublished ▸ List.mem_append_right _ (List.mem_singleton_self f))

/-- One more frame, whose words are those that were given to `publish`. -/
theorem Inv.grow {f : Arrays.SharedFrame} {g : Shared} (h : Inv ar s) (hf : Arrays.WellFormed f) (hsized : Sized f.text)
    (hg : g = words (encode f).bytes) : (∀ f' ∈ s.frames ++ [f], Arrays.WellFormed f' ∧ Sized f'.text) ∧
      ∀ g' ∈ s.system.published ++ [g], ∃ f' ∈ s.frames ++ [f], g' = words (encode f').bytes := by
  refine ⟨List.forall_mem_append.mpr ⟨h.good, ?_⟩, fun g' hg' => ?_⟩
  · intro f' hf'
    obtain rfl := List.mem_singleton.mp hf'
    exact ⟨hf, hsized⟩
  · rcases List.mem_append.mp hg' with hg' | hg'
    · obtain ⟨f', hf', heq⟩ := h.published g' hg'
      exact ⟨f', List.mem_append_left _ hf', heq⟩
    · obtain rfl := List.mem_singleton.mp hg'
      exact ⟨f, List.mem_append_right _ (List.mem_singleton_self f), hg⟩

theorem Inv.publish {tick : BitVec 32} {m : Arrays.Mem} {f : Arrays.SharedFrame} (h : Inv ar s)
    (hidle : s.system.daemon = .running tick .idle) (hrun : Arrays.Run ar m) (hgiven : Given s.memory m f)
    (hpublished : m.published = s.memory.published ++ [f]) : Inv ar (s.publish tick m f) := by
  have hnext : m.vars.tick.toBitVec = tick + 1 := by
    rw [hgiven.tick, ← h.tick tick .idle hidle]
    rfl
  have hstamp : Snapshot.stamp (words (encode f).bytes) (tick + 1) f.header.status.toBitVec =
      words (encode f).bytes := by
    rw [← hnext, ← hgiven.header]
    exact stamp_words hgiven.magic hgiven.version
  obtain ⟨hgood, hwords⟩ := h.grow (wellFormed_last hrun hpublished) hgiven.sized hstamp
  refine ⟨.step h.system (.publish _ _ hidle), hrun, hgiven.cache, fun t pc hd => ?_, hgood, hwords⟩
  cases hd
  exact hnext

/-- A step that publishes nothing keeps the tick. -/
theorem tick_of_other {s t : System ρ} (h : Snapshot.Step s t) (hpublished : t.published = s.published)
    {tick : BitVec 32} {pc : Snapshot.Publish} (hd : t.daemon = .running tick pc) :
    ∃ pc', s.daemon = .running tick pc' := by
  have grows : ∀ g : Shared, s.published ++ [g] ≠ s.published := fun g hg =>
    List.cons_ne_nil _ _ (List.append_right_eq_self.mp hg)
  cases h with
  | radarInit _ => exact absurd hpublished (grows _)
  | publish frame status _ => exact absurd hpublished (grows _)
  | die => cases hd
  | storeOdd h | prefixWord h _ | prefixDone h | suffixWord h _ | storeEven h =>
    cases hd
    exact ⟨_, h⟩
  | call _ | loadOdd _ _ _ | loadEven _ _ _ _ | exhausted _ _ | copyWord _ _ | changed _ _ | rejected _ _ _
  | accepted _ _ _ => exact ⟨pc, hd⟩

theorem Step.inv (h : Inv ar s) (hs : Step ar s t) : Inv ar t := by
  cases hs with
  | @other t hstep hpublished =>
    refine ⟨.step h.system hstep, h.memory, h.cache, fun tick pc hd => ?_, h.good, fun g hg => ?_⟩
    · obtain ⟨pc', hd'⟩ := tick_of_other hstep hpublished hd
      exact h.tick tick pc' hd'
    · exact h.published g (hpublished ▸ hg)
  | restart hdead =>
    exact ⟨h.system, .start, List.forall_mem_nil _, fun tick pc hd => (nomatch hdead.symm.trans hd),
      h.good, h.published⟩
  | @init f imageBase aslrSlide hdead hpublished =>
    have hrun := Arrays.Run.init h.memory imageBase aslrSlide .mapped
    obtain rfl := init_frame hpublished
    have hsized : Sized initFrame.text := ⟨List.forall_mem_nil _, List.forall_mem_nil _⟩
    obtain ⟨hgood, hwords⟩ := h.grow (wellFormed_last hrun hpublished) hsized words_initFrame.symm
    refine ⟨.step h.system (.radarInit hdead), hrun, init_cache _ _ _ _, fun t pc hd => ?_, hgood, hwords⟩
    cases hd
    rfl
  | @initFails mapping imageBase aslrSlide hdead hpublished =>
    exact ⟨h.system, .init h.memory imageBase aslrSlide mapping, init_cache _ _ _ _,
      fun tick pc hd => (nomatch hdead.symm.trans hd), h.good, h.published⟩
  | tick input hidle hpublished =>
    exact h.publish hidle (.tick h.memory input) (given_tick h.memory h.cache hpublished) hpublished
  | destroy hidle hpublished =>
    exact h.publish hidle (.destroy h.memory) (given_destroy h.cache hpublished) hpublished

theorem Reachable.inv (h : Reachable ar s) : Inv ar s := by
  induction h with
  | boot =>
    exact ⟨.boot, .start, List.forall_mem_nil _, fun _ _ hd => (nomatch hd), List.forall_mem_nil _,
      List.forall_mem_nil _⟩
  | step _ hs ih => exact hs.inv ih

/-- What is accepted is one frame of the reader. -/
theorem Inv.accepted (h : Inv ar s) {a : Seqlock.Accepted Snapshot.Word 32} (ha : a ∈ s.system.accepted)
    (hbegun : a.begun < 2 ^ 31) :
    ∃ f ∈ s.frames, Arrays.WellFormed f ∧ Sized f.text ∧ view a.snapshot = f.text := by
  have hinit : ∀ f, Seqlock.Agree Snapshot.layout f Snapshot.emptyFile → Snapshot.snapshotValid f = false := by
    intro f hf
    have hmagic : f Snapshot.magicWord = 0 := hf Snapshot.magicWord (by decide)
    simp [Snapshot.snapshotValid, hmagic, Snapshot.radarMagic]
  obtain ⟨g, hg, hagree⟩ := (h.system.sim.inv (by decide) rfl hinit).accepted a ha hbegun
  obtain ⟨f, hf, rfl⟩ := h.published g hg
  obtain ⟨hwell, hsized⟩ := h.good f hf
  obtain ⟨sequence, hsnapshot⟩ := eq_inFile hagree
  exact ⟨f, hf, hwell, hsized, hsnapshot ▸ view_encode hwell hsized sequence⟩

/-- A snapshot accepted while fewer than `2 ^ 31` publications began reads as one frame that the reader published. -/
theorem accepted_view (h : Reachable ar s) : ∀ a ∈ s.system.accepted, a.begun < 2 ^ 31 →
    ∃ f ∈ s.frames, Arrays.WellFormed f ∧ view a.snapshot = f.text := by
  intro a ha hbegun
  obtain ⟨f, hf, hwell, -, hview⟩ := h.inv.accepted ha hbegun
  exact ⟨f, hf, hwell, hview⟩

theorem Step.published_prefix {s t : System ρ} (h : Snapshot.Step s t) : s.published <+: t.published := by
  cases h with
  | radarInit _ | publish _ _ _ => exact List.prefix_append _ _
  | _ => exact List.prefix_rfl

/-- The steps between two publications. -/
theorem Reachable.others {u v : System ρ} (h : Reachable ar ⟨u, s.memory, s.frames⟩) (hs : Snapshot.Steps u v)
    (hpublished : v.published = u.published) : Reachable ar ⟨v, s.memory, s.frames⟩ := by
  have hboth : u.published <+: v.published ∧ (v.published = u.published → Reachable ar ⟨v, s.memory, s.frames⟩) := by
    clear hpublished
    induction hs with
    | refl => exact ⟨List.prefix_rfl, fun _ => h⟩
    | @tail v w _ hstep ih =>
      obtain ⟨hsub, hreach⟩ := ih
      have hnext := Step.published_prefix hstep
      refine ⟨hsub.trans hnext, fun hw => ?_⟩
      have hv : v.published = u.published := by
        refine (hsub.eq_of_length_le ?_).symm
        exact hw ▸ hnext.length_le
      exact .step (hreach hv) (.other hstep (hw.trans hv.symm))
  exact hboth.2 hpublished

end Sessions

/-- The reader starts, and an overlay accepts its first frame. -/
theorem firstFrame_accepted :
    ∃ s : Session Unit, Reachable smallArith s ∧ ∃ a ∈ s.system.accepted, a.begun < 2 ^ 31 := by
  let s : Session Unit :=
    { system := (boot (ρ := Unit)).system.callPublish 0 (fun _ => 0) 1
      memory := Arrays.radarInit 0 0 .mapped .initial, frames := [initFrame] }
  have hs : Reachable smallArith s := .step .boot (.init 0 0 rfl rfl)
  obtain ⟨t, hw, -, hseq, hframe⟩ := Snapshot.publish_run s.system rfl
  have hreach : Reachable smallArith ⟨t, s.memory, s.frames⟩ := Reachable.others (s := s) hs hw.steps
    (hw.published.trans (List.append_nil _))
  have heven : t.shared Snapshot.sequenceWord = 2 := by rw [hseq]; decide
  have hload := Snapshot.load_run (congrFun hw.overlays ()) (by rw [heven]; decide)
  have hvalid : Snapshot.snapshotValid (Snapshot.moved (fun _ => 0) t.shared (List.finRange Snapshot.sharedWords)) =
      true := by
    have hcopy : ∀ i, Snapshot.moved (fun _ => 0) t.shared (List.finRange Snapshot.sharedWords) i = t.shared i := by
      intro i
      simp [Snapshot.moved]
    simp only [Snapshot.snapshotValid, hcopy]
    rw [hframe _ (by decide), hframe _ (by decide), hframe _ (by decide)]
    decide
  obtain ⟨u, hsteps, hpublished, hmem⟩ := Snapshot.accept_run (Snapshot.setOverlay_self t () t.load) rfl hvalid
  have hu : Reachable smallArith ⟨u, s.memory, s.frames⟩ :=
    Reachable.others (s := s) hreach (hload.trans hsteps) hpublished
  have hnone : t.begun - t.begun < 2 ^ 31 := by omega
  exact ⟨_, hu, _, hmem, hnone⟩

theorem accepted_view_first : ∃ s : Session Unit, Reachable smallArith s ∧ ∃ a ∈ s.system.accepted, a.begun < 2 ^ 31 ∧
    ∃ f ∈ s.frames, Arrays.WellFormed f ∧ view a.snapshot = f.text := by
  obtain ⟨s, hs, a, ha, hbegun⟩ := firstFrame_accepted
  exact ⟨s, hs, a, ha, hbegun, accepted_view hs a ha hbegun⟩

end Joint
end RadarAim

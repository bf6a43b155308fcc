import RadarAim.Radar.Layout
import RadarAim.Tools.CaptureProof

/-! The layout of the shared file against its decoder. The offsets of the decoder are those of the C declarations;
    what it does not report is the position of an item. -/

namespace RadarAim
namespace Layout
open CLayout CaptureProof

/-! ### What the decoder owes -/

def point (v : Rvec3) : Value := .floats [v.x, v.y, v.z]

/-- The name of the record, when it is an ASCII string. -/
def NameRecovered (name : Vector UInt8 32) (d : Dict) : Prop :=
  (∀ c ∈ cstr name.toList, c < 0x80) →
    d.lookup .name = some (.str ((cstr name.toList).map fun c => Char.ofNat c.toNat))

structure PlayerRecovered (p : RadarPlayer) (d : Dict) : Prop where
  position : d.lookup .position = some (point p.pos)
  health : d.lookup .health = some (.float p.health)
  healthMax : d.lookup .healthMax = some (.float p.healthMax)
  teamId : d.lookup .teamId = some (.int p.teamId.toNat)
  isBot : d.lookup .isBot = some (.bool (p.isBot != 0))
  name : NameRecovered p.name d
  distance : d.lookup .distanceM = some (.float p.distance)

structure VehicleRecovered (v : RadarVehicle) (d : Dict) : Prop where
  position : d.lookup .position = some (point v.pos)
  distance : d.lookup .distanceM = some (.float v.distance)
  speed : d.lookup .speedKmh = some (.float v.speed)
  name : NameRecovered v.name d

structure ItemRecovered (it : RadarItem) (d : Dict) : Prop where
  position : d.lookup .position = some (point it.pos)
  distance : d.lookup .distanceM = some (.float it.distance)
  itemId : d.lookup .itemId = some (.int it.itemId.toInt)
  count : d.lookup .count = some (.int it.count.toInt)
  category : d.lookup .category = some (.int it.category.toNat)
  name : NameRecovered it.name d

/-- The header and, below each count, every record of the frame. -/
structure Recovered (f : RadarShared) (r : Report) : Prop where
  tick : r.fields.lookup .tick = some (.int f.header.tick.toNat)
  status : r.fields.lookup .status = some (.int f.header.status.toNat)
  cameraValid : r.fields.lookup .cameraValid = some (.int f.header.cameraValid.toNat)
  playerCount : r.fields.lookup .playerCount = some (.int f.header.playerCount.toNat)
  vehicleCount : r.fields.lookup .vehicleCount = some (.int f.header.vehicleCount.toNat)
  itemCount : r.fields.lookup .itemCount = some (.int f.header.itemCount.toNat)
  localPosition : r.fields.lookup .localPosition = some (point f.header.localPos)
  cameraPosition : r.fields.lookup .cameraPosition = some (point f.header.cameraPos)
  players : ∀ i (h : i < radarMaxPlayers), i < f.header.playerCount.toNat →
    ∃ d, r.players[i]? = some d ∧ PlayerRecovered f.players[i] d
  vehicles : ∀ i (h : i < radarMaxVehicles), i < f.header.vehicleCount.toNat →
    ∃ d, r.vehicles[i]? = some d ∧ VehicleRecovered f.vehicles[i] d
  items : ∀ i (h : i < radarMaxItems), i < f.header.itemCount.toNat →
    ∃ d, r.items[i]? = some d ∧ ItemRecovered f.items[i] d

/-- The counts are within the capacities. -/
structure Fits (h : RadarHeader) : Prop where
  players : h.playerCount.toNat ≤ radarMaxPlayers
  vehicles : h.vehicleCount.toNat ≤ radarMaxVehicles
  items : h.itemCount.toNat ≤ radarMaxItems

/-! ### Sizes -/

@[simp] theorem size_rvec3 (v : Rvec3) : (rvec3 v).bytes.length = 12 := by
  simp [rvec3, struct, members, padding, maxAlign]

@[simp] theorem align_rvec3 (v : Rvec3) : (rvec3 v).align = 4 := rfl

section Arrays
variable {α : Type} {n : Nat} {layout : α → CValue} {size : Nat}

theorem size_vector (hsize : ∀ a, (layout a).bytes.length = size) (as : Vector α n) :
    (CLayout.array (as.toList.map layout)).bytes.length = size * n := by
  have helements : ∀ v ∈ as.toList.map layout, v.bytes.length = size := by simp [hsize]
  rw [size_array _ helements, List.length_map, Vector.length_toList]

theorem align_vector {align : Nat} (halign : ∀ a, (layout a).align = align) (hpos : 1 ≤ align) (hn : n ≠ 0)
    (as : Vector α n) : maxAlign (as.toList.map layout) = align := by
  refine maxAlign_const _ ?_ hpos (by simp [halign])
  intro hnil
  have hlen := congrArg List.length hnil
  rw [List.length_map, Vector.length_toList] at hlen
  exact hn hlen

/-- Element `i` of an array stands at `size * i`. -/
theorem holds_vector {b : Buf} {off : Nat} (hsize : ∀ a, (layout a).bytes.length = size) {as : Vector α n}
    (h : Holds b off (CLayout.array (as.toList.map layout)).bytes) {i : Nat} (hi : i < n) :
    Holds b (off + size * i) (layout as[i]).bytes :=
  h.element (by simp [hsize]) (by simp [hi])

end Arrays

@[simp] theorem size_bones (p : RadarPlayer) : (CLayout.array (p.bones.toList.map rvec3)).bytes.length = 192 :=
  size_vector size_rvec3 p.bones

@[simp] theorem align_bones (p : RadarPlayer) : maxAlign (p.bones.toList.map rvec3) = 4 :=
  align_vector align_rvec3 (by decide) (by decide) p.bones

/-! The static assertions of `radar_data.h`. -/

@[simp] theorem size_header (h : RadarHeader) : h.layout.bytes.length = 88 := by
  simp [RadarHeader.layout, struct, members, padding, maxAlign]

@[simp] theorem align_header (h : RadarHeader) : h.layout.align = 4 := by
  simp [RadarHeader.layout, maxAlign]

@[simp] theorem size_player (p : RadarPlayer) : p.layout.bytes.length = 284 := by
  simp [RadarPlayer.layout, struct, members, padding, maxAlign]

@[simp] theorem align_player (p : RadarPlayer) : p.layout.align = 4 := by
  simp [RadarPlayer.layout, maxAlign]

@[simp] theorem size_vehicle (v : RadarVehicle) : v.layout.bytes.length = 56 := by
  simp [RadarVehicle.layout, struct, members, padding, maxAlign]

@[simp] theorem align_vehicle (v : RadarVehicle) : v.layout.align = 4 := by
  simp [RadarVehicle.layout, maxAlign]

@[simp] theorem size_item (it : RadarItem) : it.layout.bytes.length = 60 := by
  simp [RadarItem.layout, struct, members, padding, maxAlign]

@[simp] theorem align_item (it : RadarItem) : it.layout.align = 4 := by
  simp [RadarItem.layout, maxAlign]

section Frame
variable (f : RadarShared)

@[simp] theorem size_players : (CLayout.array (f.players.toList.map RadarPlayer.layout)).bytes.length = 28400 :=
  size_vector size_player f.players

@[simp] theorem align_players : maxAlign (f.players.toList.map RadarPlayer.layout) = 4 :=
  align_vector align_player (by decide) (by decide) f.players

@[simp] theorem size_vehicles : (CLayout.array (f.vehicles.toList.map RadarVehicle.layout)).bytes.length = 1680 :=
  size_vector size_vehicle f.vehicles

@[simp] theorem align_vehicles : maxAlign (f.vehicles.toList.map RadarVehicle.layout) = 4 :=
  align_vector align_vehicle (by decide) (by decide) f.vehicles

@[simp] theorem size_items : (CLayout.array (f.items.toList.map RadarItem.layout)).bytes.length = 3600 :=
  size_vector size_item f.items

@[simp] theorem align_items : maxAlign (f.items.toList.map RadarItem.layout) = 4 :=
  align_vector align_item (by decide) (by decide) f.items

theorem size_frame : f.bytes.length = 33768 := by
  simp [RadarShared.bytes, RadarShared.layout, struct, members, padding, maxAlign]

end Frame

/-! ### Offsets -/

section Offsets
variable {b : Buf} {off : Nat}

theorem holds_rvec3 {v : Rvec3} (h : Holds b off (rvec3 v).bytes) : unpack3f b off = .floats [v.x, v.y, v.z] := by
  have hmembers := h.struct
  simp [holds_members, padding, Nat.add_assoc] at hmembers
  obtain ⟨hx, hy, hz⟩ := hmembers
  rw [unpack3f, hx.uint32, hy.uint32, hz.uint32]

theorem rawName_recovered {name : Vector UInt8 32} (h : Holds b off (chars name).bytes) {d : Dict}
    (hd : d.lookup .name = some (rawName b off)) : NameRecovered name d := by
  intro hascii
  have hchars : (cstr name.toList).map asciiChar = (cstr name.toList).map fun c => Char.ofNat c.toNat :=
    List.map_congr_left fun c hc => if_pos (hascii c hc)
  rw [hd, rawName, h.chars, hchars]

/-- The offsets of the header's members that the decoder reads. -/
structure HeaderAt (b : Buf) (h : RadarHeader) : Prop where
  magic : le32 b 0 = h.magic
  version : le32 b 4 = h.version
  tick : le32 b 8 = h.tick
  playerCount : le32 b 12 = h.playerCount
  vehicleCount : le32 b 16 = h.vehicleCount
  itemCount : le32 b 20 = h.itemCount
  localPos : unpack3f b 24 = point h.localPos
  status : le32 b 56 = h.status
  cameraPos : unpack3f b 60 = point h.cameraPos
  cameraValid : le32 b 72 = h.cameraValid

structure PlayerAt (b : Buf) (off : Nat) (p : RadarPlayer) : Prop where
  pos : unpack3f b off = point p.pos
  health : le32 b (off + 12) = p.health
  healthMax : le32 b (off + 16) = p.healthMax
  teamId : le32 b (off + 24) = p.teamId
  isBot : b (off + 28) = p.isBot
  name : Holds b (off + 32) (chars p.name).bytes
  distance : le32 b (off + 64) = p.distance

structure VehicleAt (b : Buf) (off : Nat) (v : RadarVehicle) : Prop where
  pos : unpack3f b off = point v.pos
  distance : le32 b (off + 12) = v.distance
  speed : le32 b (off + 16) = v.speed
  name : Holds b (off + 24) (chars v.name).bytes

structure ItemAt (b : Buf) (off : Nat) (it : RadarItem) : Prop where
  pos : unpack3f b off = point it.pos
  distance : le32 b (off + 12) = it.distance
  itemId : leI32 b (off + 16) = it.itemId.toInt
  count : leI32 b (off + 20) = it.count.toInt
  category : b (off + 24) = it.category
  name : Holds b (off + 28) (chars it.name).bytes

theorem headerAt {h : RadarHeader} (hh : Holds b 0 h.layout.bytes) : HeaderAt b h := by
  have hmembers := hh.struct
  simp [holds_members, padding] at hmembers
  obtain ⟨magic, version, tick, players, vehicles, items, localPos, -, -, -, status, camera, valid, -⟩ := hmembers
  exact ⟨magic.uint32, version.uint32, tick.uint32, players.uint32, vehicles.uint32, items.uint32,
    holds_rvec3 localPos, status.uint32, holds_rvec3 camera, valid.uint32⟩

theorem playerAt {p : RadarPlayer} (h : Holds b off p.layout.bytes) : PlayerAt b off p := by
  have hmembers := h.struct
  simp [holds_members, padding, Nat.add_assoc] at hmembers
  obtain ⟨pos, health, healthMax, -, team, bot, -, -, -, name, distance, -⟩ := hmembers
  exact ⟨holds_rvec3 pos, health.uint32, healthMax.uint32, team.uint32, bot.uint8, name, distance.uint32⟩

theorem vehicleAt {v : RadarVehicle} (h : Holds b off v.layout.bytes) : VehicleAt b off v := by
  have hmembers := h.struct
  simp [holds_members, padding, Nat.add_assoc] at hmembers
  obtain ⟨pos, distance, speed, -, -, -, -, name⟩ := hmembers
  exact ⟨holds_rvec3 pos, distance.uint32, speed.uint32, name⟩

theorem itemAt {it : RadarItem} (h : Holds b off it.layout.bytes) : ItemAt b off it := by
  have hmembers := h.struct
  simp [holds_members, padding, Nat.add_assoc] at hmembers
  obtain ⟨pos, distance, itemId, count, category, -, name⟩ := hmembers
  exact ⟨holds_rvec3 pos, distance.uint32, itemId.int32, count.int32, category.uint8, name⟩

/-! ### The records -/

theorem decodePlayer_recovered {p : RadarPlayer} {i : Nat} (h : PlayerAt b (88 + i * 284) p) :
    PlayerRecovered p (decodePlayer b i) where
  position := congrArg some h.pos
  health := congrArg (fun x => some (Value.float x)) h.health
  healthMax := congrArg (fun x => some (Value.float x)) h.healthMax
  teamId := congrArg (fun x : UInt32 => some (Value.int x.toNat)) h.teamId
  isBot := congrArg (fun x : UInt8 => some (Value.bool (x != 0))) h.isBot
  name := rawName_recovered h.name rfl
  distance := congrArg (fun x => some (Value.float x)) h.distance

theorem decodeVehicle_recovered {v : RadarVehicle} {i : Nat} (h : VehicleAt b (28488 + i * 56) v) :
    VehicleRecovered v (decodeVehicle b i) where
  position := congrArg some h.pos
  distance := congrArg (fun x => some (Value.float x)) h.distance
  speed := congrArg (fun x => some (Value.float x)) h.speed
  name := rawName_recovered h.name rfl

/-- The members of an item are where the decoder reads them; the position is missing from its record. -/
theorem decodeItem_recovered {it : RadarItem} {i : Nat} (h : ItemAt b (30168 + i * 60) it) :
    ItemRecovered it ((.position, unpack3f b (30168 + i * 60)) :: decodeItem b i) where
  position := congrArg some h.pos
  distance := congrArg (fun x => some (Value.float x)) h.distance
  itemId := congrArg (fun x => some (Value.int x)) h.itemId
  count := congrArg (fun x => some (Value.int x)) h.count
  category := congrArg (fun x : UInt8 => some (Value.int x.toNat)) h.category
  name := rawName_recovered h.name rfl

/-- Whatever the bytes are. -/
theorem decodeItem_position (i : Nat) : (decodeItem b i).lookup .position = none := rfl

end Offsets

/-! ### The frame -/

section Frame
variable (f : RadarShared)

/-- The file as the decoder reads it. -/
def fileBuf : Buf := fun i => f.bytes.getD i 0

theorem holds_frame : Holds (fileBuf f) 0 f.header.layout.bytes ∧
    Holds (fileBuf f) 88 (CLayout.array (f.players.toList.map RadarPlayer.layout)).bytes ∧
    Holds (fileBuf f) 28488 (CLayout.array (f.vehicles.toList.map RadarVehicle.layout)).bytes ∧
    Holds (fileBuf f) 30168 (CLayout.array (f.items.toList.map RadarItem.layout)).bytes := by
  have hfile : Holds (fileBuf f) 0 f.bytes := holds_self f.bytes
  have hmembers := hfile.struct
  simpa [holds_members, padding] using hmembers

theorem frame_header : HeaderAt (fileBuf f) f.header := headerAt (holds_frame f).1

theorem frame_player {i : Nat} (h : i < radarMaxPlayers) : PlayerAt (fileBuf f) (88 + i * 284) f.players[i] := by
  obtain ⟨-, hplayers, -⟩ := holds_frame f
  have helement := holds_vector size_player hplayers h
  rw [Nat.mul_comm] at helement
  exact playerAt helement

theorem frame_vehicle {i : Nat} (h : i < radarMaxVehicles) :
    VehicleAt (fileBuf f) (28488 + i * 56) f.vehicles[i] := by
  obtain ⟨-, -, hvehicles, -⟩ := holds_frame f
  have helement := holds_vector size_vehicle hvehicles h
  rw [Nat.mul_comm] at helement
  exact vehicleAt helement

theorem frame_item {i : Nat} (h : i < radarMaxItems) : ItemAt (fileBuf f) (30168 + i * 60) f.items[i] := by
  obtain ⟨-, -, -, hitems⟩ := holds_frame f
  have helement := holds_vector size_item hitems h
  rw [Nat.mul_comm] at helement
  exact itemAt helement

/-- The report on a frame. -/
def frameReport : Report where
  fields :=
    [(.protocolVersion, .int f.header.version.toNat), (.tick, .int f.header.tick.toNat),
      (.status, .int f.header.status.toNat), (.cameraValid, .int f.header.cameraValid.toNat),
      (.playerCount, .int f.header.playerCount.toNat), (.vehicleCount, .int f.header.vehicleCount.toNat),
      (.itemCount, .int f.header.itemCount.toNat), (.localPosition, point f.header.localPos),
      (.cameraPosition, point f.header.cameraPos)]
  players := (List.range (min f.header.playerCount.toNat 100)).map (decodePlayer (fileBuf f))
  vehicles := (List.range (min f.header.vehicleCount.toNat 30)).map (decodeVehicle (fileBuf f))
  items := (List.range (min f.header.itemCount.toNat 60)).map (decodeItem (fileBuf f))

theorem decode_frame : decode f.bytes =
    if f.header.magic = radarMagic ∧ f.header.version = radarVersion then some (frameReport f) else none := by
  have hheader := frame_header f
  have hsize : 33768 ≤ f.bytes.length := (size_frame f).ge
  have hbuf : (fun i => f.bytes.getD i 0) = fileBuf f := rfl
  simp only [decode, if_pos hsize, hbuf, unpackI, hheader.magic, hheader.version, hheader.tick, hheader.playerCount,
    hheader.vehicleCount, hheader.itemCount, hheader.localPos, hheader.status, hheader.cameraPos,
    hheader.cameraValid, radarMagic, radarVersion, frameReport]
  rfl

theorem frameReport_players {i : Nat} (h : i < radarMaxPlayers) (hi : i < f.header.playerCount.toNat) :
    ∃ d, (frameReport f).players[i]? = some d ∧ PlayerRecovered f.players[i] d := by
  have hlt : i < min f.header.playerCount.toNat 100 := lt_min hi h
  exact ⟨_, by simp only [frameReport, List.getElem?_map, List.getElem?_range hlt, Option.map_some],
    decodePlayer_recovered (frame_player f h)⟩

theorem frameReport_vehicles {i : Nat} (h : i < radarMaxVehicles) (hi : i < f.header.vehicleCount.toNat) :
    ∃ d, (frameReport f).vehicles[i]? = some d ∧ VehicleRecovered f.vehicles[i] d := by
  have hlt : i < min f.header.vehicleCount.toNat 30 := lt_min hi h
  exact ⟨_, by simp only [frameReport, List.getElem?_map, List.getElem?_range hlt, Option.map_some],
    decodeVehicle_recovered (frame_vehicle f h)⟩

/-- Every item is in the report, without its position. -/
theorem frameReport_items {i : Nat} (h : i < radarMaxItems) (hi : i < f.header.itemCount.toNat) :
    ∃ d, (frameReport f).items[i]? = some d ∧ d.lookup .position = none ∧
      ItemRecovered f.items[i] ((.position, point f.items[i].pos) :: d) := by
  have hlt : i < min f.header.itemCount.toNat 60 := lt_min hi h
  have hitem := frame_item f h
  refine ⟨decodeItem (fileBuf f) i, ?_, decodeItem_position i, ?_⟩
  · simp only [frameReport, List.getElem?_map, List.getElem?_range hlt, Option.map_some]
  · rw [← hitem.pos]
    exact decodeItem_recovered hitem

/-- The first item of a frame is not recovered. -/
theorem items_lost (hmax : f.header.itemCount.toNat ≤ radarMaxItems) (hitems : f.header.itemCount ≠ 0) :
    ¬∃ r, decode f.bytes = some r ∧ Recovered f r := by
  rintro ⟨r, hr, hrec⟩
  rw [decode_frame] at hr
  obtain ⟨-, hreport⟩ := Option.ite_none_right_eq_some.mp hr
  obtain rfl : frameReport f = r := Option.some.inj hreport
  have hpos : 0 < f.header.itemCount.toNat := Nat.pos_of_ne_zero fun h0 => hitems (UInt32.toNat_inj.mp h0)
  obtain ⟨d, hd, hitem⟩ := hrec.items 0 (hpos.trans_le hmax) hpos
  obtain ⟨d', hd', hnone, -⟩ := frameReport_items f (hpos.trans_le hmax) hpos
  obtain rfl : d = d' := Option.some.inj (hd.symm.trans hd')
  rw [hitem.position] at hnone
  cases hnone

/-- Everything else is. -/
theorem frameReport_recovered (hitems : f.header.itemCount = 0) : Recovered f (frameReport f) where
  tick := rfl
  status := rfl
  cameraValid := rfl
  playerCount := rfl
  vehicleCount := rfl
  itemCount := rfl
  localPosition := rfl
  cameraPosition := rfl
  players _ h hi := frameReport_players f h hi
  vehicles _ h hi := frameReport_vehicles f h hi
  items _ _ hi := absurd hi (by simp [hitems])

/-- The decoder recovers the frames of its version that have no items; the position of an item is lost. -/
theorem decode_recovered_iff (hfits : Fits f.header) : (∃ r, decode f.bytes = some r ∧ Recovered f r) ↔
    f.header.magic = radarMagic ∧ f.header.version = radarVersion ∧ f.header.itemCount = 0 := by
  constructor
  · rintro ⟨r, hr, hrec⟩
    have hgenuine := hr
    rw [decode_frame] at hgenuine
    obtain ⟨⟨hmagic, hversion⟩, -⟩ := Option.ite_none_right_eq_some.mp hgenuine
    refine ⟨hmagic, hversion, ?_⟩
    by_contra hitems
    exact items_lost f hfits.items hitems ⟨r, hr, hrec⟩
  · rintro ⟨hmagic, hversion, hitems⟩
    refine ⟨frameReport f, ?_, frameReport_recovered f hitems⟩
    rw [decode_frame, if_pos ⟨hmagic, hversion⟩]

end Frame

/-- A frame with one player, one vehicle and the given number of items. -/
def sampleFrame (items : UInt32) : RadarShared where
  header :=
    { magic := radarMagic, version := radarVersion, tick := 7, playerCount := 1, vehicleCount := 1
      itemCount := items, localPos := ⟨1, 2, 3⟩, localRot := .zero, cameraFov := 0, sequence := 2, status := 2
      cameraPos := ⟨4, 5, 6⟩, cameraValid := 1, localTeam := 0, screenWidth := 0, screenHeight := 0 }
  players := .replicate _
    { pos := ⟨7, 8, 9⟩, health := 10, healthMax := 11, yaw := 12, teamId := 13, isBot := 1, isVisible := 0
      healthStatus := 0, hasBones := 0, name := .replicate _ 0, distance := 14, headPos := .zero, feetPos := .zero
      bones := .replicate _ .zero }
  vehicles := .replicate _
    { pos := ⟨15, 16, 17⟩, distance := 18, speed := 19, healthState := 0, canBoost := 0, teamId := 0, pad := 0
      name := .replicate _ 0 }
  items := .replicate _
    { pos := ⟨20, 21, 22⟩, distance := 23, itemId := 24, count := 25, category := 1, pad := .replicate _ 0
      name := .replicate _ 0 }

theorem decode_recovered_iff_sample : ∃ r, decode (sampleFrame 0).bytes = some r ∧ Recovered (sampleFrame 0) r :=
  (decode_recovered_iff (sampleFrame 0) ⟨by decide, by decide, by decide⟩).mpr ⟨rfl, rfl, rfl⟩

theorem item_position_lost : ¬∀ f : RadarShared, Fits f.header → f.header.magic = radarMagic →
    f.header.version = radarVersion → ∃ r, decode f.bytes = some r ∧ Recovered f r := by
  intro h
  exact items_lost (sampleFrame 1) (by decide) (by decide) (h _ ⟨by decide, by decide, by decide⟩ rfl rfl)

end Layout
end RadarAim

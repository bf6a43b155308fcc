import RadarAim.Radar.Arrays
import RadarAim.Theorems.Teammates

/-! Every frame that is published is well formed, and no index leaves its array. What is read from the process comes
    to a record through copies that end in a field of 32 bytes. -/

namespace RadarAim
namespace Arrays
open Prog Ieee Reader Teammates

/-- What the overlay relies on. -/
structure WellFormed (f : SharedFrame) : Prop where
  players : f.players.Fits radarMaxPlayers fun p => Terminated nameSize p.name
  vehicles : f.vehicles.Fits radarMaxVehicles fun v => Terminated nameSize v.name
  items : f.items.Fits radarMaxItems fun i => Terminated nameSize i.name
  playersBeyond : f.players.ZeroBeyond zeroPlayer
  vehiclesBeyond : f.vehicles.ZeroBeyond zeroVehicle
  itemsBeyond : f.items.ZeroBeyond zeroItem
  waiting : f.header.status = 0 ∨ f.header.status = 1 →
    f.players.count = 0 ∧ f.vehicles.count = 0 ∧ f.items.count = 0

/-! ### Names -/

/-- A text that fits the field of a name. -/
def Short (s : Str) : Prop := s.length < nameSize ∧ ∀ c ∈ s, printable c = true

theorem short_of_all {s : Str} (hlength : s.length < nameSize) (h : s.all printable = true) : Short s :=
  ⟨hlength, List.all_eq_true.mp h⟩

theorem short_snprintf {s : Str} (h : ∀ c ∈ s, printable c = true) : Short (snprintf nameSize s) := by
  refine ⟨?_, fun c hc => h c (List.mem_of_mem_take hc)⟩
  rw [snprintf, List.length_take]
  exact lt_of_le_of_lt (Nat.min_le_left _ _) (by decide)

theorem Short.overwrite {field text : Str} (hfield : Terminated nameSize field) (h : Short text) :
    Terminated nameSize (overwrite field text) := terminated_overwrite hfield.1 h.1 h.2

theorem terminated_zeroName : Terminated nameSize zeroName := ⟨rfl, 0, rfl, List.forall_mem_nil _⟩

theorem printable_fstringByte (c : UInt16) : printable (fstringByte c) = true := by
  rw [fstringByte]
  split
  · rename_i h
    obtain ⟨hlow, hhigh⟩ := h
    have hlow' : 32 ≤ c.toNat := hlow
    have hhigh' : c.toNat ≤ 126 := hhigh
    have hnat : c.toUInt8.toNat = c.toNat := by
      rw [UInt16.toNat_toUInt8]
      omega
    simp only [printable, Bool.and_eq_true, decide_eq_true_eq, UInt8.le_iff_toNat_le, hnat]
    exact ⟨hlow', hhigh'⟩
  · rfl

theorem readFstring_short (addr : UInt64) :
    Returns (readFstring addr nameSize) fun res => ∀ text, res = some text → Short text := by
  have fails : Returns (pure none : Read (Option Str)) fun res => ∀ text, res = some text → Short text :=
    Returns.pure fun _ h => nomatch h
  rw [readFstring]
  split
  · exact fails
  refine Returns.bind (Returns.any _) fun s _ => ?_
  cases s with
  | none => exact fails
  | some s =>
    dsimp only
    split
    · exact fails
    refine Returns.bind (Returns.any _) fun wbuf _ => ?_
    cases wbuf with
    | none => exact fails
    | some wbuf =>
      refine Returns.pure fun text htext => ?_
      split at htext
      · cases htext
      · obtain rfl := Option.some.inj htext
        refine ⟨?_, fun c hc => ?_⟩
        · rw [List.length_map, List.length_take]
          exact lt_of_le_of_lt (Nat.min_le_left _ _) (by decide)
        · obtain ⟨u, -, rfl⟩ := List.mem_map.mp hc
          exact printable_fstringByte u

theorem readPlayerMeta_short (localTeam : UInt32) (st : UInt64) :
    Returns (readPlayerMeta localTeam st) fun read => Short read.2.2 := by
  have player : Short (lit "Player") := short_of_all (by decide) rfl
  have bot : Short (lit "Bot") := short_of_all (by decide) rfl
  have name : ∀ isBot, Returns (readPlayerName st isBot) Short := by
    intro isBot
    refine Returns.bind (readFstring_short _) fun first hfirst => ?_
    cases first with
    | some text => exact Returns.pure (hfirst text rfl)
    | none =>
      refine Returns.bind (readFstring_short _) fun second hsecond => ?_
      cases second with
      | some text => exact Returns.pure (hsecond text rfl)
      | none =>
        refine Returns.pure ?_
        split
        · exact bot
        · exact player
  rw [readPlayerMeta]
  split
  · refine Returns.bind (Returns.any _) fun teamId _ => Returns.bind (Returns.any _) fun rawBot _ => ?_
    exact Returns.bind (name _) fun text htext => Returns.pure htext
  · exact Returns.pure player

/-! ### Labels -/

theorem resolveItemInfo_short (itemId : Int) : Short (resolveItemInfo itemId nameSize).1 := by
  have hcases : (itemCases.all fun row => (lit row.2.1).all printable) = true := by decide +kernel
  have hprefixes : (itemPrefixCases.all fun row => (lit row.2.1).all printable) = true := by decide +kernel
  have lookup : ∀ {table : List (Int × String × UInt8)} {k : Int} {row : String × UInt8},
      (table.all fun row => (lit row.2.1).all printable) = true → table.lookup k = some row →
        ∀ c ∈ lit row.1, printable c = true := by
    intro table k row htable hrow
    obtain ⟨before, after, rfl, -⟩ := List.lookup_eq_some_iff.mp hrow
    have hall := List.all_eq_true.mp htable (k, row) (List.mem_append_right _ List.mem_cons_self)
    exact List.all_eq_true.mp hall
  refine short_snprintf ?_
  cases hrow : itemCases.lookup itemId with
  | some row => exact lookup hcases hrow
  | none =>
    cases hprefix : itemPrefixCases.lookup (itemId.tdiv 1000) with
    | some row => exact lookup hprefixes hprefix
    | none => exact List.all_eq_true.mp rfl

theorem resolveItemFromActorName_short {aname : Str} {found : Str × UInt8}
    (h : resolveItemFromActorName aname nameSize = some found) : Short found.1 := by
  have hrows : (actorNameRows.all fun row => (lit row.2.1).all printable) = true := by decide +kernel
  obtain ⟨row, hrow, rfl⟩ := Option.map_eq_some_iff.mp h
  exact short_snprintf (List.all_eq_true.mp (List.all_eq_true.mp hrows row (List.mem_of_find?_eq_some hrow)))

theorem resolveVehicleName_short (clsName : Str) : Short (resolveVehicleName clsName nameSize) := by
  have hrows : (vehicleRows.all fun row => (lit row.2).all printable) = true := by decide +kernel
  rw [resolveVehicleName]
  split
  · rename_i row hrow
    exact short_snprintf (List.all_eq_true.mp (List.all_eq_true.mp hrows row (List.mem_of_find?_eq_some hrow)))
  · exact short_snprintf (List.all_eq_true.mp rfl)

theorem short_supply : Short (lit "Supply") := short_of_all (by decide) rfl

theorem readItemMeta_terminated (iactor : UInt64) (itemId : Int) :
    Yields (readItemMeta iactor itemId) fun label => Terminated nameSize label.1 := by
  have improve : ∀ object (label : Str × UInt8), Terminated nameSize label.1 →
      Yields (improveLabel object label) fun label => Terminated nameSize label.1 := by
    intro object label hlabel
    refine Triple.ite (fun _ => ?_) fun _ => Yields.pure hlabel
    refine Yields.bind (Yields.any _) fun aname _ => Yields.pure ?_
    cases hfound : aname.bind fun aname => resolveItemFromActorName aname nameSize with
    | none => exact hlabel
    | some found =>
      obtain ⟨name, -, hname⟩ := Option.bind_eq_some_iff.mp hfound
      exact (resolveItemFromActorName_short hname).overwrite hlabel
  refine Yields.bind (improve _ _ ?_) fun label hlabel => ?_
  · split
    · exact (resolveItemInfo_short itemId).overwrite terminated_zeroName
    · exact terminated_zeroName
  refine Yields.bind (Yields.any _) fun acls _ => Yields.bind (improve _ _ hlabel) fun label hlabel => ?_
  refine Yields.bind (Yields.any _) fun pmesh _ => Yields.bind (improve _ _ hlabel) fun label hlabel => ?_
  refine Yields.pure ?_
  split
  · exact short_supply.overwrite hlabel
  · exact hlabel

/-! ### The arrays -/

abbrev Records := Counted RadarPlayer × Counted RadarVehicle × Counted RadarItem

def Mem.records (m : Mem) : Records := (m.framePlayers, m.frameVehicles, m.frameItems)

/-- The records of a frame, while it is filled. -/
structure Good (f : Records) : Prop where
  players : f.1.Fits radarMaxPlayers fun p => Terminated nameSize p.name
  vehicles : f.2.1.Fits radarMaxVehicles fun v => Terminated nameSize v.name
  items : f.2.2.Fits radarMaxItems fun i => Terminated nameSize i.name
  playersBeyond : f.1.ZeroBeyond zeroPlayer
  vehiclesBeyond : f.2.1.ZeroBeyond zeroVehicle
  itemsBeyond : f.2.2.ZeroBeyond zeroItem

/-- The frame has the records `f`; the other arrays are in order, and so is what has been published. -/
structure Ok (f : Records) (m : Mem) : Prop where
  indices : ∀ x ∈ m.indices, x.2 < x.1.size
  published : ∀ f ∈ m.published, WellFormed f
  gClasses : m.gClasses.Fits classCacheSize fun _ => True
  characters : m.characters.Fits maxCharacters fun _ => True
  vehicles : m.vehicles.Fits maxVehicleCandidates fun _ => True
  items : m.items.Fits maxItemCandidates fun _ => True
  gPlayerMeta : m.gPlayerMeta.Fits playerMetaCacheSize fun e => Terminated nameSize e.name
  gItemMeta : m.gItemMeta.Fits itemMetaCacheSize fun e => Terminated nameSize e.name
  records : m.records = f

section Settable
variable {f : Records}

theorem Ok.touch {m : Mem} (h : Ok f m) {is : List (Static × Nat)} (his : ∀ x ∈ is, x.2 < x.1.size) :
    Ok f { m with indices := m.indices ++ is } :=
  { h with indices := List.forall_mem_append.mpr ⟨h.indices, his⟩ }

/-- The array `a` is one of those in order: what its slots in use hold is good, and it can be set to what is. -/
structure Settable {α : Type} (f : Records) (a : Ref α) (good : α → Prop) : Prop where
  fits : ∀ {m}, Ok f m → (a.get m).Fits a.static.size good
  set : ∀ {m c}, Ok f m → c.Fits a.static.size good → Ok f (a.set c m)
  untouched : ∀ m is, a.get { m with indices := is } = a.get m

theorem gClasses_settable : Settable f gClasses fun _ => True :=
  ⟨Ok.gClasses, fun h hc => { h with gClasses := hc }, fun _ _ => rfl⟩

theorem characters_settable : Settable f characters fun _ => True :=
  ⟨Ok.characters, fun h hc => { h with characters := hc }, fun _ _ => rfl⟩

theorem vehicles_settable : Settable f vehicles fun _ => True :=
  ⟨Ok.vehicles, fun h hc => { h with vehicles := hc }, fun _ _ => rfl⟩

theorem items_settable : Settable f items fun _ => True :=
  ⟨Ok.items, fun h hc => { h with items := hc }, fun _ _ => rfl⟩

theorem gPlayerMeta_settable : Settable f gPlayerMeta fun e => Terminated nameSize e.name :=
  ⟨Ok.gPlayerMeta, fun h hc => { h with gPlayerMeta := hc }, fun _ _ => rfl⟩

theorem gItemMeta_settable : Settable f gItemMeta fun e => Terminated nameSize e.name :=
  ⟨Ok.gItemMeta, fun h hc => { h with gItemMeta := hc }, fun _ _ => rfl⟩

end Settable

section Ref
variable {α : Type} {f : Records} {a : Ref α} {good : α → Prop}

theorem touch_triple (ha : Settable f a good) (c : Counted α) {i : Nat} (hi : i < a.static.size) :
    Keeps (fun m => Ok f m ∧ a.get m = c) (a.touch i) := by
  refine Keeps.modify fun m hm => ⟨hm.1.touch ?_, (ha.untouched _ _).trans hm.2⟩
  rintro x hx
  obtain rfl := List.mem_singleton.mp hx
  exact hi

theorem read_triple (ha : Settable f a good) (c : Counted α) {i : Nat} (hi : i < a.static.size) :
    Triple (fun m => Ok f m ∧ a.get m = c) (a.read i) fun x m => (Ok f m ∧ a.get m = c) ∧ x = c.slot i := by
  refine Triple.bind (touch_triple ha c hi) fun _ => Triple.bindGet fun m hm => Triple.pure fun s hs => ?_
  exact ⟨hs.2, congrArg (fun c => Counted.slot c i) hm.2⟩

theorem read_keeps (ha : Settable f a good) {i : Nat} (hi : i < a.static.size) :
    Triple (Ok f) (a.read i) fun _ => Ok f :=
  fun m hm h n => (read_triple ha (a.get m) hi m ⟨hm, rfl⟩ h n).1.1

/-- What a loop over the slots in use stops at is one of them. -/
theorem findFrom_triple (ha : Settable f a good) (hit : α → Bool) (c : Counted α) (hc : c.count ≤ a.static.size)
    (left i : Nat) (hi : i + left ≤ c.count) :
    Triple (fun m => Ok f m ∧ a.get m = c) (a.findFrom hit left i) fun res m =>
      (Ok f m ∧ a.get m = c) ∧ ∀ j, res = some j → j < c.count := by
  induction left generalizing i with
  | zero => exact Triple.pure fun m hm => ⟨hm, fun j hj => nomatch hj⟩
  | succ left ih =>
    have hlt : i < c.count := by omega
    refine Triple.bindGiven (read_triple ha c (lt_of_lt_of_le hlt hc)) fun x _ => ?_
    refine Triple.ite (fun _ => Triple.pure fun m hm => ⟨hm, fun j hj => ?_⟩) fun _ => ih (i + 1) (by omega)
    obtain rfl := Option.some.inj hj
    exact hlt

theorem find_triple (ha : Settable f a good) (hit : α → Bool) :
    Triple (Ok f) (a.find hit) fun res m => Ok f m ∧ ∀ j, res = some j → j < (a.get m).count := by
  refine Triple.bindGet fun m hm => ?_
  refine Triple.imp (findFrom_triple ha hit (a.get m) (ha.fits hm).count_le _ 0 (Nat.zero_add _).le)
    (fun s hs => ⟨hs.2, hs.1 ▸ rfl⟩) fun res s hs => ⟨hs.1.1, fun j hj => ?_⟩
  rw [hs.1.2]
  exact hs.2 j hj

/-- A slot in use is read. -/
theorem readFound_triple (ha : Settable f a good) (i : Nat) :
    Triple (fun m => Ok f m ∧ i < (a.get m).count) (a.read i) fun x m => Ok f m ∧ good x := by
  intro m hm h n
  have hlt : i < a.static.size := lt_of_lt_of_le hm.2 (ha.fits hm.1).count_le
  obtain ⟨⟨hok, -⟩, hslot⟩ := read_triple ha (a.get m) hlt m ⟨hm.1, rfl⟩ h n
  refine ⟨hok, ?_⟩
  rw [hslot]
  exact (ha.fits hm.1).slots i hm.2

theorem write_triple (ha : Settable f a good) {i : Nat} (hi : i < a.static.size) {x : α} (hx : good x) :
    Keeps (Ok f) (a.write i x) := by
  refine Triple.bind (R := fun _ => Ok f) (fun m hm => ?_) fun _ => Keeps.modify fun m hm =>
    ha.set hm ((ha.fits hm).put i hx)
  exact fun h n => (touch_triple ha (a.get m) hi m ⟨hm, rfl⟩ h n).1

theorem addIfRoom_triple (ha : Settable f a good) {x : α} (hx : good x) : Keeps (Ok f) (a.addIfRoom x) := by
  refine Triple.bindGet fun m _ => Triple.ite (fun hroom => ?_) fun _ => Triple.pure fun s hs => hs.2
  refine Triple.bindGet fun s hs => ?_
  obtain ⟨rfl, hok⟩ := hs
  refine Triple.bind (Triple.imp (touch_triple ha (a.get s) hroom) (fun t ht => ⟨ht.1 ▸ hok, ht.1 ▸ rfl⟩)
    fun _ _ ht => ht) fun _ => Triple.modify fun t ht => ?_
  refine ha.set ht.1 ?_
  rw [ht.2]
  exact (ha.fits hok).push hroom hx

theorem store_triple (ha : Settable f a good) (same : α → Bool) {x : α} (hx : good x) :
    Keeps (Ok f) (a.store same x) := by
  refine Triple.bind (find_triple ha same) fun res m hm => ?_
  cases res with
  | none => exact addIfRoom_triple ha hx m hm.1
  | some i => exact write_triple ha (lt_of_lt_of_le (hm.2 i rfl) (ha.fits hm.1).count_le) hx m hm.1

theorem copy_triple (ha : Settable f a good) {xs : List α} (hlength : xs.length ≤ a.static.size)
    (hxs : ∀ x ∈ xs, good x) : Keeps (Ok f) (a.copy xs) := by
  refine Keeps.modify fun m hm => ha.set (hm.touch fun x hx => ?_) (Counted.fits_copy hlength hxs)
  obtain ⟨i, hi, rfl⟩ := List.mem_map.mp hx
  exact lt_of_lt_of_le (List.mem_range.mp hi) hlength

end Ref

/-! ### The parts of a tick -/

/-- `P` does not look at the variables that are no arrays. -/
def Blind (P : Mem → Prop) : Prop := ∀ m v, P m → P { m with vars := v }

theorem ok_blind {f : Records} : Blind (Ok f) := fun _ _ h => { h with }

theorem onVars_triple {α : Type} {P : Mem → Prop} {X : α → Prop} {p : RadarReader α} (hP : Blind P) (hp : Yields p X) :
    Triple P (onVars p) fun a m => P m ∧ X a := by
  refine Triple.getThen fun m _ => ?_
  refine Triple.bindGiven (R := fun res => X res.1) (Triple.read fun h n => hp m.vars trivial h n) fun res hres => ?_
  exact Triple.bind (R := fun _ => P) (Keeps.modify fun s hs => hP s _ hs) fun _ => Triple.pure fun s hs => ⟨hs, hres⟩

theorem onVars_keeps {α : Type} {P : Mem → Prop} (hP : Blind P) (p : RadarReader α) : Keeps P (onVars p) :=
  (onVars_triple hP (Yields.any p)).imp (fun _ hs => hs) fun _ _ hs => hs.1

theorem forSlots_keeps {P : Mem → Prop} {more : Mem → Bool} {body : Nat → ArrayReader Unit} {size : Nat}
    (hbody : ∀ i < size, Triple (fun m => P m ∧ more m = true) (body i) fun _ => P) (left i : Nat)
    (h : i + left ≤ size) :
    Keeps P (forSlots more body left i) := by
  induction left generalizing i with
  | zero => exact Triple.pure fun s hs => hs
  | succ left ih =>
    refine Triple.bindGet fun m hm => Triple.ite (fun hmore => ?_) fun _ => Triple.pure fun s hs => hs.2
    refine Triple.imp (P := fun s => P s ∧ more s = true) ?_ (fun s hs => ⟨hs.2, hs.1 ▸ hmore⟩) fun _ _ hs => hs
    exact Triple.bind (hbody i (by omega)) fun _ => ih (i + 1) (by omega)

section Parts
variable {f : Records}

theorem classifyClass_keeps (cls actorSample : UInt64) : Keeps (Ok f) (classifyClass cls actorSample) := by
  refine Triple.ite (fun _ => Triple.pure fun s hs => hs) fun _ => ?_
  refine Triple.bind (find_triple gClasses_settable _) fun res => ?_
  cases res with
  | none =>
    refine Triple.imp ?_ (fun s hs => hs.1) fun _ _ hs => hs
    refine Triple.bind (onVars_keeps ok_blind _) fun name => Triple.bind (onVars_keeps ok_blind _) fun type => ?_
    refine Triple.getThen fun m _ => ?_
    exact Triple.bind (addIfRoom_triple gClasses_settable trivial) fun _ => Triple.pure fun s hs => hs
  | some i =>
    refine Triple.bind (Triple.imp (readFound_triple gClasses_settable i) (fun s hs => ⟨hs.1, hs.2 i rfl⟩)
      fun _ _ hs => hs.1) fun e => ?_
    exact Triple.bind (onVars_keeps ok_blind _) fun _ => Triple.pure fun s hs => hs

/-- The new lists of a scan fit the arrays that they are copied to. -/
structure ScanFits (s : Scan) : Prop where
  characters : s.characters.length ≤ maxCharacters
  vehicles : s.vehicles.length ≤ maxVehicleCandidates
  items : s.items.length ≤ maxItemCandidates

theorem ScanFits.add {s : Scan} (h : ScanFits s) (actor : UInt64) (type : ClsType) : ScanFits (s.add actor type) := by
  have grows : ∀ {l : List UInt64} {size : Nat}, l.length < size → (l ++ [actor]).length ≤ size := by
    intro l size hlt
    rw [List.length_append]
    exact hlt
  cases type with
  | ignore => exact h
  | player =>
    rw [Scan.add]
    split
    · rename_i hlt
      exact ⟨grows hlt, h.vehicles, h.items⟩
    · exact h
  | vehicle =>
    rw [Scan.add]
    split
    · rename_i hlt
      exact ⟨h.characters, grows hlt, h.items⟩
    · exact h
  | item =>
    rw [Scan.add]
    split
    · rename_i hlt
      exact ⟨h.characters, h.vehicles, grows hlt⟩
    · exact h

theorem scanActors_triple (actors : List UInt64) (s : Scan) (hs : ScanFits s) :
    Triple (Ok f) (scanActors actors s) fun s m => Ok f m ∧ ScanFits s := by
  induction actors generalizing s with
  | nil => exact Triple.pure fun m hm => ⟨hm, hs⟩
  | cons actor actors ih =>
    refine Triple.ite (fun _ => ?_) fun _ => ih s hs
    refine Triple.bind (Keeps.lift _) fun cls => Triple.ite (fun _ => ?_) fun _ => ih s hs
    exact Triple.bind (classifyClass_keeps cls actor) fun type => ih _ (hs.add actor type)

theorem scanChunks_triple (data : UInt64) (count chunks start : Nat) (s : Scan) (hs : ScanFits s) :
    Triple (Ok f) (scanChunks data count chunks start s) fun s m => Ok f m ∧ ScanFits s := by
  induction chunks generalizing start s with
  | zero => exact Triple.pure fun m hm => ⟨hm, hs⟩
  | succ chunks ih =>
    refine Triple.bind (Keeps.lift _) fun res => ?_
    cases res with
    | none => exact ih _ s hs
    | some b => exact Triple.bindGiven (scanActors_triple _ s hs) fun s hs => ih _ s hs

theorem setCandidates_keeps {s : Scan} (hs : ScanFits s) : Keeps (Ok f) (setCandidates s) := by
  refine Triple.getThen fun m _ => ?_
  refine Triple.bind (copy_triple characters_settable ?_ fun _ _ => trivial) fun _ => ?_
  · rw [List.length_map]
    exact hs.characters
  refine Triple.bind (copy_triple vehicles_settable ?_ fun _ _ => trivial) fun _ => ?_
  · rw [List.length_map]
    exact hs.vehicles
  refine copy_triple items_settable ?_ fun _ _ => trivial
  rw [List.length_map]
  exact hs.items

theorem scanPersistentLevel_keeps (w : UInt64) : Keeps (Ok f) (scanPersistentLevel w) := by
  have fails : Keeps (Ok f) (pure false : ArrayReader Bool) := Triple.pure fun s hs => hs
  refine Triple.bind (Keeps.lift _) fun level => Triple.ite (fun _ => fails) fun _ => ?_
  refine Triple.bind (Keeps.lift _) fun res => ?_
  split
  · exact fails
  refine Triple.ite (fun _ => fails) fun _ => ?_
  refine Triple.bindGiven (scanChunks_triple _ _ _ _ _ ⟨Nat.zero_le _, Nat.zero_le _, Nat.zero_le _⟩) fun s hs => ?_
  exact Triple.bind (setCandidates_keeps hs) fun _ => Triple.pure fun s hs => hs

/-- The records of a frame that has been cleared. -/
def noRecords : Records := (.zeroed zeroPlayer, .zeroed zeroVehicle, .zeroed zeroItem)

theorem good_noRecords : Good noRecords :=
  ⟨Counted.fits_of_empty rfl, Counted.fits_of_empty rfl, Counted.fits_of_empty rfl, Counted.zeroBeyond_zeroed _,
    Counted.zeroBeyond_zeroed _, Counted.zeroBeyond_zeroed _⟩

theorem Ok.zeroFrame {m : Mem} (h : Ok f m) : Ok noRecords m.zeroFrame := { h with records := rfl }

theorem Ok.enterWorld {m : Mem} (h : Ok f m) (current : UInt64) : Ok f (m.enterWorld current) := by
  rw [Mem.enterWorld]
  split
  · exact { h with
      gClasses := Counted.fits_of_empty rfl, characters := Counted.fits_of_empty rfl
      vehicles := Counted.fits_of_empty rfl, items := Counted.fits_of_empty rfl
      gPlayerMeta := Counted.fits_of_empty rfl, gItemMeta := Counted.fits_of_empty rfl }
  · exact { h with }

theorem findWorld_keeps (ar : Arith) (input : TickInput) : Keeps (Ok f) (findWorld ar input) := by
  refine Triple.getThen fun m _ => ?_
  refine Triple.bind (Keeps.lift _) fun current => Triple.ite (fun _ => ?_) fun _ => ?_
  · exact Triple.bind (R := fun _ => Ok f) (Keeps.modify fun s hs => hs.enterWorld current) fun _ =>
      Triple.pure fun s hs => hs
  · refine Triple.bind (onVars_keeps ok_blind _) fun _ => Triple.bind (onVars_keeps ok_blind _) fun _ => ?_
    exact Triple.bindGet fun m _ => Triple.pure fun s hs => hs.2

theorem radarTickHead_triple (ar : Arith) (input : TickInput) :
    Triple (Ok f) (radarTickHead ar input) fun _ => Ok noRecords := by
  have stays : ∀ head, Triple (Ok noRecords) (pure head : ArrayReader (Option TickHead)) fun _ => Ok noRecords :=
    fun head => Triple.pure fun s hs => hs
  refine Triple.bind (R := fun _ => Ok noRecords) (Triple.modify fun m hm => ?_) fun _ => ?_
  · exact { hm.zeroFrame with }
  refine Triple.bind (findWorld_keeps ar input) fun w => Triple.ite (fun _ => stays none) fun _ => ?_
  refine Triple.getThen fun m _ => ?_
  refine Triple.bind (Keeps.lift _) fun pc => Triple.ite (fun _ => stays none) fun _ => ?_
  refine Triple.bind (Keeps.lift _) fun pawn => Triple.bind (Keeps.lift _) fun camera => ?_
  refine Triple.bind (onVars_keeps ok_blind _) fun head => Triple.bind (Keeps.lift _) fun team => ?_
  exact Triple.bind (onVars_keeps ok_blind _) fun _ => stays (some head)

theorem radarTickStart_triple (ar : Arith) (input : TickInput) :
    Triple (Ok f) (radarTickStart ar input) fun _ => Ok noRecords := by
  refine Triple.bind (radarTickHead_triple ar input) fun head => ?_
  cases head with
  | none => exact Triple.pure fun s hs => hs
  | some head =>
    refine Triple.bind (onVars_keeps ok_blind _) fun _ => ?_
    refine Triple.bind (R := fun _ => Ok noRecords) ?_ fun _ => Triple.pure fun s hs => hs
    refine Triple.getThen fun m _ => ?_
    refine Triple.ite (fun _ => ?_) fun _ => Triple.pure fun s hs => hs
    refine Triple.bind (onVars_keeps ok_blind _) fun _ => ?_
    exact Triple.bind (scanPersistentLevel_keeps _) fun _ => Triple.pure fun s hs => hs

end Parts

/-! ### The loops -/

/-- In the loops of a tick. -/
def Filling (m : Mem) : Prop := ∃ f, Good f ∧ Ok f m

section Loops
variable {f : Records}

theorem push_triple {α : Type} {a : Ref α} {g : Records} {x : α}
    (hroom : ∀ {m}, Ok f m → (a.get m).count < a.static.size) (hgood : Good g)
    (hset : ∀ {m}, Ok f m → Ok g (a.set ((a.get m).push x) m)) :
    Triple (Ok f) (a.push x) fun _ => Filling := by
  refine Triple.bindGet fun m hm => Triple.bind (R := fun _ => Ok f) (Triple.modify fun s hs => ?_) fun _ =>
    Triple.modify fun s hs => ⟨g, hgood, hset hs⟩
  refine hs.2.touch fun x hx => ?_
  obtain rfl := List.mem_singleton.mp hx
  exact hroom hm

theorem pushPlayer_triple (hgood : Good f) (hroom : f.1.count < radarMaxPlayers) {p : RadarPlayer}
    (hname : Terminated nameSize p.name) : Triple (Ok f) (framePlayers.push p) fun _ => Filling := by
  refine push_triple (g := (f.1.push p, f.2)) (fun hm => ?_) { hgood with
    players := hgood.players.push hroom hname, playersBeyond := hgood.playersBeyond.push p } fun hm => { hm with
    records := hm.records ▸ rfl }
  rw [← hm.records] at hroom
  exact hroom

theorem pushVehicle_triple (hgood : Good f) (hroom : f.2.1.count < radarMaxVehicles) {v : RadarVehicle}
    (hname : Terminated nameSize v.name) : Triple (Ok f) (frameVehicles.push v) fun _ => Filling := by
  refine push_triple (g := (f.1, f.2.1.push v, f.2.2)) (fun hm => ?_) { hgood with
    vehicles := hgood.vehicles.push hroom hname, vehiclesBeyond := hgood.vehiclesBeyond.push v } fun hm => { hm with
    records := hm.records ▸ rfl }
  rw [← hm.records] at hroom
  exact hroom

theorem pushItem_triple (hgood : Good f) (hroom : f.2.2.count < radarMaxItems) {item : RadarItem}
    (hname : Terminated nameSize item.name) : Triple (Ok f) (frameItems.push item) fun _ => Filling := by
  refine push_triple (g := (f.1, f.2.1, f.2.2.push item)) (fun hm => ?_) { hgood with
    items := hgood.items.push hroom hname, itemsBeyond := hgood.itemsBeyond.push item } fun hm => { hm with
    records := hm.records ▸ rfl }
  rw [← hm.records] at hroom
  exact hroom

theorem playerMeta_triple (other st : UInt64) :
    Triple (Ok f) (playerMeta other st) fun i m => Ok f m ∧ Terminated nameSize i.2.2 := by
  refine Triple.bind (find_triple gPlayerMeta_settable _) fun res => ?_
  cases res with
  | some i =>
    refine Triple.bindGiven (Triple.imp (readFound_triple gPlayerMeta_settable i) (fun s hs => ⟨hs.1, hs.2 i rfl⟩)
      fun _ _ hs => hs) fun e he => ?_
    exact Triple.bind (onVars_keeps ok_blind _) fun _ => Triple.pure fun s hs => ⟨hs, he⟩
  | none =>
    refine Triple.imp ?_ (fun s hs => hs.1) fun _ _ hs => hs
    refine Triple.getThen fun m _ => ?_
    refine Triple.bindGiven (Triple.read (readPlayerMeta_short _ st)) fun read hread => ?_
    have hname : Terminated nameSize (overwrite zeroName read.2.2) := hread.overwrite terminated_zeroName
    exact Triple.bind (store_triple gPlayerMeta_settable _ (terminated_strncpy hname)) fun _ =>
      Triple.pure fun s hs => ⟨hs, hname⟩

theorem itemMeta_triple (iactor : UInt64) :
    Triple (Ok f) (itemMeta iactor) fun i m => Ok f m ∧ Terminated nameSize i.2.2.1 := by
  refine Triple.bind (find_triple gItemMeta_settable _) fun res => ?_
  cases res with
  | some i =>
    refine Triple.bindGiven (Triple.imp (readFound_triple gItemMeta_settable i) (fun s hs => ⟨hs.1, hs.2 i rfl⟩)
      fun _ _ hs => hs) fun e he => ?_
    refine Triple.bind (onVars_keeps ok_blind _) fun _ => Triple.bind (Keeps.lift _) fun count => ?_
    exact Triple.pure fun s hs => ⟨hs, he⟩
  | none =>
    refine Triple.imp ?_ (fun s hs => hs.1) fun _ _ hs => hs
    refine Triple.bind (Keeps.lift _) fun itemId => Triple.bind (Keeps.lift _) fun count => ?_
    refine Triple.bindGiven (onVars_triple ok_blind (readItemMeta_terminated iactor itemId)) fun label hlabel => ?_
    refine Triple.getThen fun m _ => ?_
    exact Triple.bind (store_triple gItemMeta_settable _ (terminated_strncpy hlabel)) fun _ =>
      Triple.pure fun s hs => ⟨hs, hlabel⟩

theorem vehicleClassName_keeps (cls : UInt64) : Keeps (Ok f) (vehicleClassName cls) := by
  refine Triple.bind (find_triple gClasses_settable _) fun res => ?_
  cases res with
  | none => exact Triple.imp (onVars_keeps ok_blind _) (fun s hs => hs.1) fun _ _ hs => hs
  | some i =>
    refine Triple.bind (Triple.imp (readFound_triple gClasses_settable i) (fun s hs => ⟨hs.1, hs.2 i rfl⟩)
      fun _ _ hs => hs.1) fun e => ?_
    refine Triple.bind (onVars_keeps ok_blind _) fun _ => ?_
    exact Triple.ite (fun _ => Triple.pure fun s hs => hs) fun _ => onVars_keeps ok_blind _

section Process
variable {ar : Arith} {head : TickHead} {i : Nat}

theorem processPlayer_triple (hgood : Good f) (hroom : f.1.count < radarMaxPlayers) (hi : i < maxCharacters) :
    Triple (Ok f) (processPlayer ar head i) fun _ => Filling := by
  have stays : Triple (Ok f) (pure () : ArrayReader Unit) fun _ => Filling := Triple.pure fun s hs => ⟨f, hgood, hs⟩
  refine Triple.bind (read_keeps characters_settable hi) fun c => Triple.ite (fun _ => stays) fun _ => ?_
  refine Triple.bind (onVars_keeps ok_blind _) fun _ => Triple.bind (Keeps.lift _) fun pos => ?_
  cases pos with
  | none => exact (write_triple characters_settable hi trivial).imp (fun _ hs => hs) fun _ _ hs => ⟨f, hgood, hs⟩
  | some pos =>
    refine Triple.ite (fun _ => stays) fun _ => ?_
    refine Triple.bind (Keeps.lift _) fun bDead => Triple.ite (fun _ => stays) fun _ => ?_
    refine Triple.bind (Keeps.lift _) fun st => Triple.bind (Keeps.lift _) fun health => ?_
    refine Triple.bind (Keeps.lift _) fun healthStatus => Triple.ite (fun _ => stays) fun _ => ?_
    refine Triple.bind (Keeps.lift _) fun yaw => Triple.bindGiven (playerMeta_triple _ st) fun info hname => ?_
    exact pushPlayer_triple hgood hroom hname

theorem processVehicle_triple (hgood : Good f) (hroom : f.2.1.count < radarMaxVehicles)
    (hi : i < maxVehicleCandidates) :
    Triple (Ok f) (processVehicle ar head i) fun _ => Filling := by
  have stays : Triple (Ok f) (pure () : ArrayReader Unit) fun _ => Filling := Triple.pure fun s hs => ⟨f, hgood, hs⟩
  refine Triple.bind (read_keeps vehicles_settable hi) fun c => Triple.ite (fun _ => stays) fun _ => ?_
  refine Triple.bind (onVars_keeps ok_blind _) fun _ => Triple.bind (Keeps.lift _) fun pos => ?_
  cases pos with
  | none => exact (write_triple vehicles_settable hi trivial).imp (fun _ hs => hs) fun _ _ hs => ⟨f, hgood, hs⟩
  | some pos =>
    refine Triple.ite (fun _ => stays) fun _ => ?_
    refine Triple.bind (Keeps.lift _) fun fwdSpeed => Triple.bind (Keeps.lift _) fun healthState => ?_
    refine Triple.bind (Keeps.lift _) fun canBoost => Triple.bind (Keeps.lift _) fun teamId => ?_
    refine Triple.bind (Keeps.lift _) fun cls => Triple.bind (vehicleClassName_keeps cls) fun clsName => ?_
    exact pushVehicle_triple hgood hroom ((resolveVehicleName_short clsName).overwrite terminated_zeroName)

theorem processItem_triple (hgood : Good f) (hroom : f.2.2.count < radarMaxItems) (hi : i < maxItemCandidates) :
    Triple (Ok f) (processItem ar head i) fun _ => Filling := by
  have stays : Triple (Ok f) (pure () : ArrayReader Unit) fun _ => Filling := Triple.pure fun s hs => ⟨f, hgood, hs⟩
  refine Triple.bind (read_keeps items_settable hi) fun c => Triple.ite (fun _ => stays) fun _ => ?_
  refine Triple.bind (onVars_keeps ok_blind _) fun _ => Triple.bind (Keeps.lift _) fun pos => ?_
  cases pos with
  | none => exact (write_triple items_settable hi trivial).imp (fun _ hs => hs) fun _ _ hs => ⟨f, hgood, hs⟩
  | some pos =>
    refine Triple.ite (fun _ => stays) fun _ => ?_
    refine Triple.bindGiven (itemMeta_triple _) fun info hname => ?_
    exact pushItem_triple hgood hroom hname

end Process

theorem processCandidates_keeps (ar : Arith) (head : TickHead) : Keeps Filling (processCandidates ar head) := by
  refine Triple.getThen fun m hm => ?_
  obtain ⟨f, -, hok⟩ := hm
  refine Triple.bind
    (forSlots_keeps (fun i hi => ?_) _ 0 ((Nat.zero_add _).trans_le hok.characters.count_le)) fun _ => ?_
  · rintro m ⟨⟨g, hgood, hm⟩, hmore⟩
    have hroom : g.1.count < radarMaxPlayers := hm.records ▸ of_decide_eq_true hmore
    exact processPlayer_triple hgood hroom hi m hm
  refine Triple.getThen fun m hm => ?_
  obtain ⟨f, -, hok⟩ := hm
  refine Triple.bind (forSlots_keeps (fun i hi => ?_) _ 0 ((Nat.zero_add _).trans_le hok.vehicles.count_le)) fun _ => ?_
  · rintro m ⟨⟨g, hgood, hm⟩, hmore⟩
    have hroom : g.2.1.count < radarMaxVehicles := hm.records ▸ of_decide_eq_true hmore
    exact processVehicle_triple hgood hroom hi m hm
  refine Triple.getThen fun m hm => ?_
  obtain ⟨f, -, hok⟩ := hm
  refine forSlots_keeps (fun i hi => ?_) _ 0 ((Nat.zero_add _).trans_le hok.items.count_le)
  rintro m ⟨⟨g, hgood, hm⟩, hmore⟩
  have hroom : g.2.2.count < radarMaxItems := hm.records ▸ of_decide_eq_true hmore
  exact processItem_triple hgood hroom hi m hm

end Loops

/-! ### Runs -/

theorem Ok.publish {f : Records} {m : Mem} (h : Ok f m) (hgood : Good f) {status : UInt32}
    (hwaiting : status = 0 ∨ status = 1 → f = noRecords) : Ok f (m.publish status) := by
  refine { h with published := List.forall_mem_append.mpr ⟨h.published, ?_⟩ }
  rintro g hg
  obtain rfl := List.mem_singleton.mp hg
  obtain rfl := h.records
  refine ⟨hgood.players, hgood.vehicles, hgood.items, hgood.playersBeyond, hgood.vehiclesBeyond, hgood.itemsBeyond, ?_⟩
  intro hstatus
  have hnone : m.records = noRecords := hwaiting hstatus
  simp only [Mem.records, noRecords, Prod.mk.injEq] at hnone
  obtain ⟨hplayers, hvehicles, hitems⟩ := hnone
  exact ⟨congrArg Counted.count hplayers, congrArg Counted.count hvehicles, congrArg Counted.count hitems⟩

theorem radarTickRest_keeps (ar : Arith) (head : Option TickHead) :
    Triple (Ok noRecords) (radarTickRest ar head) fun _ => Filling := by
  cases head with
  | none => exact Triple.modify fun m hm => ⟨_, good_noRecords, hm.publish good_noRecords fun _ => rfl⟩
  | some head =>
    refine Triple.bind (Triple.imp (processCandidates_keeps ar head) (fun s hs => ⟨_, good_noRecords, hs⟩)
      fun _ _ hs => hs) fun _ => Triple.modify fun m hm => ?_
    obtain ⟨f, hgood, hok⟩ := hm
    refine ⟨f, hgood, hok.publish hgood fun hstatus => absurd hstatus ?_⟩
    split
    · decide
    · decide

theorem radarTick_keeps (ar : Arith) (input : TickInput) : Keeps Filling (radarTick ar input) := by
  have tick : ∀ f, Good f → Triple (Ok f) (radarTick ar input) fun _ => Filling := by
    intro f hgood
    refine Triple.getThen fun m _ => ?_
    refine Triple.ite (fun _ => ?_) fun _ => Triple.pure fun s hs => ⟨f, hgood, hs⟩
    exact Triple.bind (radarTickStart_triple ar input) fun head => radarTickRest_keeps ar head
  rintro m ⟨f, hgood, hok⟩
  exact tick f hgood m hok

theorem Filling.destroy {m : Mem} (h : Filling m) : Filling (radarDestroy m) := by
  obtain ⟨f, hgood, hok⟩ := h
  rw [radarDestroy]
  split
  · have hpublished : Ok noRecords (m.zeroFrame.publish 0) := hok.zeroFrame.publish good_noRecords fun _ => rfl
    exact ⟨_, good_noRecords, { hpublished with }⟩
  · exact ⟨f, hgood, { hok with }⟩

theorem Filling.init {m : Mem} (h : Filling m) (imageBase aslrSlide : UInt64) (mapping : Mapping) :
    Filling (radarInit imageBase aslrSlide mapping m) := by
  obtain ⟨f, hgood, hok⟩ := h
  have hclear : Ok f m.clearArrays := { hok with
    gClasses := Counted.fits_of_empty rfl, characters := Counted.fits_of_empty rfl
    vehicles := Counted.fits_of_empty rfl, items := Counted.fits_of_empty rfl
    gPlayerMeta := Counted.fits_of_empty rfl, gItemMeta := Counted.fits_of_empty rfl }
  cases mapping with
  | openFails => exact Filling.destroy ⟨f, hgood, { hclear with }⟩
  | mmapFails => exact Filling.destroy ⟨f, hgood, { hclear with }⟩
  | mapped => exact ⟨_, good_noRecords, (ok_blind _ _ hclear).zeroFrame.publish good_noRecords fun _ => rfl⟩

/-- The runs of `radar_init`, `radar_tick` and `radar_destroy`, in any order. -/
inductive Run (ar : Arith) : Mem → Prop where
  | start : Run ar .initial
  | init {m : Mem} (h : Run ar m) (imageBase aslrSlide : UInt64) (mapping : Mapping) :
    Run ar (radarInit imageBase aslrSlide mapping m)
  | tick {m : Mem} (h : Run ar m) (input : TickInput) : Run ar (m.step ar input)
  | destroy {m : Mem} (h : Run ar m) : Run ar (radarDestroy m)

theorem Run.filling {ar : Arith} {m : Mem} (h : Run ar m) : Filling m := by
  induction h with
  | start =>
    refine ⟨noRecords, good_noRecords, ?_, ?_, ?_, ?_, ?_, ?_, ?_, ?_, rfl⟩
    · exact List.forall_mem_nil _
    · exact List.forall_mem_nil _
    all_goals exact Counted.fits_of_empty rfl
  | init _ imageBase aslrSlide mapping ih => exact ih.init imageBase aslrSlide mapping
  | tick _ input ih => exact radarTick_keeps ar input _ ih input.host 0
  | destroy _ ih => exact ih.destroy

/-- In every run, whatever the process holds and whichever reads fail. -/
theorem run_wellFormed {ar : Arith} {m : Mem} (h : Run ar m) :
    (∀ f ∈ m.published, WellFormed f) ∧ ∀ x ∈ m.indices, x.2 < x.1.size := by
  obtain ⟨f, -, hok⟩ := h.filling
  exact ⟨hok.published, hok.indices⟩

/-- A session of one tick. -/
theorem run_wellFormed_session :
    let m := radarDestroy ((radarInit 0 0 .mapped .initial).step smallArith (tickAt squad 0))
    (∀ f ∈ m.published, WellFormed f) ∧ ∀ x ∈ m.indices, x.2 < x.1.size :=
  run_wellFormed (.destroy (.tick (.init .start 0 0 .mapped) _))

example : (radarDestroy ((radarInit 0 0 .mapped .initial).step smallArith (tickAt squad 0))).published.map
    (fun f => f.players.count) = [0, 1, 0] := by
  rw [tickAt, Memory.ofSegments_eq]
  decide +kernel

end Arrays
end RadarAim

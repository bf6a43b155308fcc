import RadarAim.Lib.Triple
import RadarAim.Theorems.Objects
import RadarAim.Radar.Reader

/-! The scan of the level. It goes over the actor array in chunks of 512 pointers and fills three lists with a limit
    each; the lists of the last scan are replaced when it is over, or not at all. -/

namespace RadarAim
namespace Level
open Prog

/-! ### What is to be found -/

/-- The first of the actor arrays that are tried with a count from 5 to 8192. -/
def actorsOf (m : Memory) (level : UInt64) : Option (UInt64 × Nat) :=
  [0xa0, 0xb0, 0x98, 0xa8, 0x90, 0x70].findSome? fun offset =>
    ((array level offset 8192).run m.host).filter fun a => 5 ≤ a.2 ∧ a.2 ≤ 8192

/-- The pointers in an array of `count`. -/
def pointers (m : Memory) (data : UInt64) (count : Nat) : List UInt64 :=
  (List.range count).map fun k => m.ptr (data + .ofNat (k * 8))

def classOf (m : Memory) (actor : UInt64) : UInt64 := (ptr actor 0x10).run m.host

/-- The valid actor pointers with a class. -/
def live (m : Memory) (actors : List UInt64) : List UInt64 :=
  actors.filter fun actor => rmValidatePtr actor && classOf m actor != 0

/-- The types of the actors, classified one after the other. -/
def classified (m : Memory) : List UInt64 → Radar → List (UInt64 × ClsType) × Radar
  | [], r => ([], r)
  | actor :: actors, r =>
    let res := exec m.host (classifyClass (classOf m actor) actor) r
    ((actor, res.1) :: (classified m actors res.2).1, (classified m actors res.2).2)

def ofType (type : ClsType) (l : List (UInt64 × ClsType)) : List UInt64 := (l.filter fun a => a.2 = type).map Prod.fst

/-- How many actors of a type the reader keeps. -/
def limit : ClsType → Nat
  | .player => 512
  | .vehicle => 64
  | .item => 256
  | .ignore => 0

/-- The actors of a type, as many as the reader keeps. -/
def kept (type : ClsType) (l : List (UInt64 × ClsType)) : List UInt64 := (ofType type l).take (limit type)

/-- The candidates of `r` are the actors of `l`. -/
structure Holds (r : Radar) (l : List (UInt64 × ClsType)) : Prop where
  characters : r.characters.map Candidate.actor = kept .player l
  vehicles : r.vehicles.map Candidate.actor = kept .vehicle l
  items : r.items.map Candidate.actor = kept .item l

/-! ### One list -/

section Lists
variable {α : Type}

theorem take_concat (l : List α) (x : α) (n : Nat) :
    (l ++ [x]).take n = if (l.take n).length < n then l.take n ++ [x] else l.take n := by
  rw [List.length_take]
  by_cases hlt : l.length < n
  · rw [if_pos (by omega), List.take_of_length_le hlt.le, List.take_of_length_le]
    rw [List.length_append, List.length_singleton]
    exact hlt
  · rw [if_neg (by omega), List.take_append_of_le_length (Nat.not_lt.mp hlt)]

theorem ofType_concat (type type' : ClsType) (l : List (UInt64 × ClsType)) (actor : UInt64) :
    ofType type (l ++ [(actor, type')]) = if type' = type then ofType type l ++ [actor] else ofType type l := by
  rw [ofType, List.filter_append, List.map_append, List.filter_singleton]
  by_cases h : type' = type <;> simp [h, ofType]

end Lists

def listOf (s : Scan) : ClsType → List UInt64
  | .player => s.characters
  | .vehicle => s.vehicles
  | .item => s.items
  | .ignore => []

/-- The lists of the scan are those of the actors so far. -/
def Collected (s : Scan) (l : List (UInt64 × ClsType)) : Prop := ∀ type, listOf s type = kept type l

/-- An actor goes to the list of its type, if there is room. -/
theorem listOf_add (s : Scan) (actor : UInt64) (type' type : ClsType) : listOf (s.add actor type') type =
    if type' = type then
      if (listOf s type).length < limit type then listOf s type ++ [actor] else listOf s type
    else listOf s type := by
  cases type' with
  | ignore => cases type <;> simp [Scan.add, listOf, limit]
  | player =>
    by_cases hroom : s.characters.length < 512 <;> cases type <;>
      simp [Scan.add, listOf, limit, maxCharacters, hroom]
  | vehicle =>
    by_cases hroom : s.vehicles.length < 64 <;> cases type <;>
      simp [Scan.add, listOf, limit, maxVehicleCandidates, hroom]
  | item =>
    by_cases hroom : s.items.length < 256 <;> cases type <;>
      simp [Scan.add, listOf, limit, maxItemCandidates, hroom]

theorem Collected.add {s : Scan} {l : List (UInt64 × ClsType)} (h : Collected s l) (actor : UInt64) (type : ClsType) :
    Collected (s.add actor type) (l ++ [(actor, type)]) := by
  intro type'
  rw [listOf_add, h type', kept, kept, ofType_concat]
  split
  · exact (take_concat _ actor _).symm
  · rfl

/-! ### The scan -/

section Scan
variable {m : Memory} {data : UInt64} {count : Nat}

/-- The pointers of the chunk that begins at `start`; none when it cannot be read. -/
def chunk (m : Memory) (data : UInt64) (count start : Nat) : List UInt64 :=
  match m.bytes (data + .ofNat start * 8) (min (count - start) 512 * 8) with
  | none => []
  | some b => (List.range (min (count - start) 512)).map fun i => le64 b (i * 8)

theorem classified_append (actors actors' : List UInt64) (r : Radar) :
    classified m (actors ++ actors') r =
      ((classified m actors r).1 ++ (classified m actors' (classified m actors r).2).1,
        (classified m actors' (classified m actors r).2).2) := by
  induction actors generalizing r with
  | nil => rfl
  | cons actor actors ih => simp only [List.cons_append, classified, ih]

theorem live_append (actors actors' : List UInt64) : live m (actors ++ actors') = live m actors ++ live m actors' :=
  List.filter_append ..

/-- `p` classifies the live ones of the actors and adds them to the lists. -/
def Scans (m : Memory) (p : Scan → RadarReader Scan) (actors : List UInt64) : Prop :=
  ∀ s l r, Collected s l →
    Collected (exec m.host (p s) r).1 (l ++ (classified m (live m actors) r).1) ∧
      (exec m.host (p s) r).2 = (classified m (live m actors) r).2

theorem Scans.pure : Scans m Pure.pure [] := by
  intro s l r h
  refine ⟨?_, rfl⟩
  rw [show (classified m (live m []) r).1 = [] from rfl, List.append_nil]
  exact h

theorem Scans.bind {p q : Scan → RadarReader Scan} {actors actors' : List UInt64} (hp : Scans m p actors)
    (hq : Scans m q actors') : Scans m (fun s => p s >>= q) (actors ++ actors') := by
  intro s l r h
  obtain ⟨hfirst, hstate⟩ := hp s l r h
  have hrest := hq _ _ (exec m.host (p s) r).2 hfirst
  rw [hstate, List.append_assoc] at hrest
  rw [live_append, classified_append, exec_bind, hstate]
  exact hrest

theorem scanActors_scans (actors : List UInt64) : Scans m (scanActors actors) actors := by
  induction actors with
  | nil => exact .pure
  | cons actor actors ih =>
    intro s l r h
    rw [scanActors]
    by_cases hlive : (rmValidatePtr actor && classOf m actor != 0) = true
    · obtain ⟨hvalid, hcls⟩ := Bool.and_eq_true_iff.mp hlive
      have hnext := ih _ _ (exec m.host (classifyClass (classOf m actor) actor) r).2
        (h.add actor (exec m.host (classifyClass (classOf m actor) actor) r).1)
      have hstep : live m (actor :: actors) = actor :: live m actors := List.filter_cons_of_pos hlive
      rw [List.append_assoc] at hnext
      rw [hstep, classified, if_pos hvalid, exec_bind, exec_lift, ← classOf, if_pos (bne_iff_ne.mp hcls), exec_bind]
      exact hnext
    · have hstep : live m (actor :: actors) = live m actors := List.filter_cons_of_neg hlive
      rw [hstep]
      by_cases hvalid : rmValidatePtr actor = true
      · have hcls : ¬classOf m actor ≠ 0 := fun hne => hlive (Bool.and_eq_true_iff.mpr ⟨hvalid, bne_iff_ne.mpr hne⟩)
        rw [if_pos hvalid, exec_bind, exec_lift, ← classOf, if_neg hcls]
        exact ih s l r h
      · rw [if_neg hvalid]
        exact ih s l r h

theorem scanChunks_scans (chunks j : Nat) :
    Scans m (scanChunks data count chunks (j * 512))
      ((List.range' j chunks).flatMap fun k => chunk m data count (k * 512)) := by
  induction chunks generalizing j with
  | zero => exact .pure
  | succ chunks ih =>
    have hrest := ih (j + 1)
    rw [show (j + 1) * 512 = j * 512 + 512 from Nat.succ_mul j 512] at hrest
    have hall : Scans m (scanActors (chunk m data count (j * 512)) · >>=
        scanChunks data count chunks (j * 512 + 512)) _ :=
      (scanActors_scans _).bind hrest
    intro s l r h
    rw [List.range'_succ, List.flatMap_cons, scanChunks, exec_bind, exec_lift, Memory.run_rmRead]
    have hchunk := hall s l r h
    unfold chunk at hchunk ⊢
    cases hread : m.bytes (data + .ofNat (j * 512) * 8) (min (count - j * 512) 512 * 8) with
    | none =>
      rw [hread] at hchunk
      exact hchunk
    | some b =>
      rw [hread] at hchunk
      exact hchunk

theorem flatMap_chunks {α : Type} (f : Nat → α) (size chunks : Nat) :
    ((List.range chunks).flatMap fun k => (List.range (min (count - k * size) size)).map fun i => f (k * size + i)) =
      (List.range (min count (chunks * size))).map f := by
  induction chunks with
  | zero => simp
  | succ chunks ih =>
    have hend : min count ((chunks + 1) * size) = min count (chunks * size) + min (count - chunks * size) size := by
      rw [Nat.succ_mul]
      omega
    have hplace : ∀ i < min (count - chunks * size) size, chunks * size + i = min count (chunks * size) + i := by
      omega
    rw [List.range_succ, List.flatMap_append, ih, hend, List.range_add, List.map_append, List.flatMap_singleton,
      List.map_map]
    refine congrArg _ (List.map_congr_left fun i hi => ?_)
    exact congrArg f (hplace i (List.mem_range.mp hi))

/-- In an array that can be read, every chunk can. -/
theorem chunks_eq (h : (m.read data (count * 8)).isSome = true) :
    ((List.range' 0 ((count + 511) / 512)).flatMap fun k => chunk m data count (k * 512)) = pointers m data count := by
  obtain ⟨b, hb⟩ := Option.isSome_iff_exists.mp h
  have hpart : ∀ i n, 0 < n → i + n ≤ count → m.read (data + .ofNat (i * 8)) (n * 8) = some fun j => b (i * 8 + j) := by
    intro i n hn hle
    exact m.read_part data _ hb (by omega) (by omega)
  have hptr : ∀ i < count, m.ptr (data + .ofNat (i * 8)) = le64 b (i * 8) := by
    intro i hi
    have hread := hpart i 1 Nat.one_pos hi
    rw [Memory.ptr, show (8 : Nat) = 1 * 8 from rfl, hread, Option.elim_some]
    exact le64_shift b (i * 8) 0
  have hchunk : ∀ k, chunk m data count (k * 512) =
      (List.range (min (count - k * 512) 512)).map fun i => m.ptr (data + .ofNat ((k * 512 + i) * 8)) := by
    intro k
    have hmul : UInt64.ofNat (k * 512) * 8 = .ofNat (k * 512 * 8) := (UInt64.ofNat_mul _ 8).symm
    rw [chunk, hmul]
    by_cases hpos : 0 < min (count - k * 512) 512
    · rw [Memory.bytes, if_neg (by omega), hpart (k * 512) _ hpos (by omega)]
      refine List.map_congr_left fun i hi => ?_
      have hi := List.mem_range.mp hi
      rw [hptr _ (by omega), Nat.add_mul]
      exact le64_shift b (k * 512 * 8) (i * 8)
    · rw [Nat.eq_zero_of_not_pos hpos]
      rfl
  rw [← List.range_eq_range']
  simp only [hchunk]
  rw [flatMap_chunks (fun k => m.ptr (data + .ofNat (k * 8))), pointers, Nat.min_eq_left (by omega)]

end Scan

/-! ### The level -/

/-- What `array` has checked of an array. -/
theorem run_array {m : Memory} {object offset : UInt64} {limit : Int} {data : UInt64} {count : Nat}
    (h : (array object offset limit).run m.host = some (data, count)) :
    (count : Int) ≤ limit ∧ (count ≠ 0 → rmValidatePtr data = true) := by
  unfold array at h
  split at h
  · rw [run_bind, Memory.run_rmRead] at h
    cases hread : m.bytes (object + offset) 16 with
    | none =>
      rw [hread] at h
      cases h
    | some a =>
      rw [hread] at h
      dsimp only at h
      split at h
      · cases h
      rename_i hbounds
      split at h
      · cases h
      rename_i hdata
      obtain ⟨rfl, rfl⟩ := Prod.mk.inj (Option.some.inj h)
      simp only [not_or, not_and, Bool.not_eq_true', Bool.not_eq_false] at hbounds hdata
      refine ⟨by omega, fun hne => hdata ?_⟩
      omega
  · cases h

theorem run_actorArray (m : Memory) (level : UInt64) (offsets : List UInt64) :
    (actorArray level offsets).run m.host = offsets.findSome? fun offset =>
      ((array level offset 8192).run m.host).filter fun a => 5 ≤ a.2 ∧ a.2 ≤ 8192 := by
  induction offsets with
  | nil => rfl
  | cons offset offsets ih =>
    rw [actorArray, run_bind, List.findSome?_cons, ← ih]
    cases harray : (array level offset 8192).run m.host with
    | none => rfl
    | some a =>
      obtain ⟨data, count⟩ := a
      have hle : count ≤ 8192 := Int.ofNat_le.mp (run_array harray).1
      by_cases hmin : 5 ≤ count
      · simp [Option.filter, hmin, hle]
      · simp [Option.filter, hmin]

/-- The actors of no level. -/
theorem actorsOf_zero (m : Memory) : actorsOf m 0 = none := by
  have hnone : ∀ offset, (array 0 offset 8192).run m.host = none := fun _ => rfl
  simp only [actorsOf, hnone]
  rfl

theorem exec_scanPersistentLevel (m : Memory) (w : UInt64) (r : Radar) :
    match actorsOf m ((ptr w 0x30).run m.host) with
    | none => exec m.host (scanPersistentLevel w) r = (false, r)
    | some (data, count) =>
      (exec m.host (scanPersistentLevel w) r).1 = true ∧
        ((m.read data (count * 8)).isSome = true →
          Holds (exec m.host (scanPersistentLevel w) r).2 (classified m (live m (pointers m data count)) r).1) := by
  rw [scanPersistentLevel, exec_bind, exec_lift]
  generalize (ptr w 0x30).run m.host = level
  dsimp only
  by_cases hlevel : level = 0
  · subst hlevel
    rw [actorsOf_zero]
    rfl
  rw [if_neg hlevel, exec_bind, exec_lift, run_actorArray, ← actorsOf]
  cases hactors : actorsOf m level with
  | none => rfl
  | some a =>
    obtain ⟨data, count⟩ := a
    dsimp only
    -- An array that has actors has an address.
    have hdata : data ≠ 0 := by
      obtain ⟨offset, -, hoffset⟩ := List.exists_of_findSome?_eq_some hactors
      obtain ⟨harray, hcount⟩ := Option.filter_eq_some_iff.mp hoffset
      simp only [decide_eq_true_eq] at hcount
      have hvalid := (run_array harray).2 (by omega)
      rintro rfl
      cases hvalid
    rw [if_neg hdata, exec_bind, exec_bind, exec_modify]
    refine ⟨rfl, fun hread => ?_⟩
    have hempty : Collected ⟨[], [], []⟩ [] := by
      intro type
      cases type <;> rfl
    have hscans : Scans m (scanChunks data count ((count + 511) / 512) (0 * 512)) _ := scanChunks_scans _ 0
    have hscan := (hscans _ _ r hempty).1
    rw [chunks_eq hread, List.nil_append, Nat.zero_mul] at hscan
    generalize exec m.host (scanChunks data count ((count + 511) / 512) 0 ⟨[], [], []⟩) r = res at hscan
    have hactor : ∀ l : List UInt64, ∀ w : UInt64, (l.map fun a => (⟨a, w⟩ : Candidate)).map Candidate.actor = l := by
      intro l w
      rw [List.map_map]
      exact List.map_id _
    exact ⟨(hactor _ _).trans (hscan .player), (hactor _ _).trans (hscan .vehicle), (hactor _ _).trans (hscan .item)⟩

/-- A scan that returns false has changed nothing, whatever the process does meanwhile. -/
theorem scanPersistentLevel_atomic (w : UInt64) (r : Radar) :
    Triple (fun s => s = r) (scanPersistentLevel w) fun found s => found = false → s = r := by
  have hany : ∀ {α : Type} (p : RadarReader α), Triple (fun s => s = r) p fun _ _ => True := fun p _ _ _ _ => trivial
  unfold scanPersistentLevel
  refine Triple.bind (Keeps.lift _) fun level => Triple.ite (fun _ => Triple.pure fun s hs _ => hs) fun _ => ?_
  refine Triple.bind (Keeps.lift _) fun found => ?_
  cases found with
  | none => exact Triple.pure fun s hs _ => hs
  | some a =>
    refine Triple.ite (fun _ => Triple.pure fun s hs _ => hs) fun _ => Triple.bind (hany _) fun scan => ?_
    exact Triple.bind (R := fun _ _ => True) (Triple.modify fun _ _ => trivial) fun _ =>
      Triple.pure fun s _ h => by cases h

/-- The scan leaves everything as it was, or the lists are the actors of the array that have the types, in their order
    and cut to the limits. -/
theorem scanPersistentLevel_exact (w : UInt64) (r : Radar) :
    (∀ (h : Nat → Handler Host) (r' : Radar), (((scanPersistentLevel w).run r).eval h 0).1 = (false, r') → r' = r) ∧
      ∀ m : Memory, match actorsOf m ((ptr w 0x30).run m.host) with
        | none => exec m.host (scanPersistentLevel w) r = (false, r)
        | some (data, count) =>
          (exec m.host (scanPersistentLevel w) r).1 = true ∧
            ((m.read data (count * 8)).isSome = true →
              Holds (exec m.host (scanPersistentLevel w) r).2 (classified m (live m (pointers m data count)) r).1) := by
  refine ⟨fun h r' hfalse => ?_, fun m => exec_scanPersistentLevel m w r⟩
  have hatomic := scanPersistentLevel_atomic w r r rfl h 0
  rw [hfalse] at hatomic
  exact hatomic rfl

end Level
end RadarAim

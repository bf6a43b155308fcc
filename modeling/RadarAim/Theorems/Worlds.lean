import Mathlib.Tactic.MkIffOfInductiveProp
import RadarAim.Theorems.Reader

/-! Worlds. What is cached in one world is used in another one when the world changes and a cache is not
    emptied: entering a world directly leaves the local team, and finding the local player again leaves all. -/

namespace RadarAim
namespace Worlds
open Prog Reader Ieee

/-- Everything in the seven caches was recorded in `w`. -/
@[mk_iff]
structure Stamped (w : UInt64) (r : Radar) : Prop where
  classes : ∀ e ∈ r.gClasses, e.recordedIn = w
  characters : ∀ c ∈ r.characters, c.recordedIn = w
  vehicles : ∀ c ∈ r.vehicles, c.recordedIn = w
  items : ∀ c ∈ r.items, c.recordedIn = w
  playerMeta : ∀ m ∈ r.gPlayerMeta, m.recordedIn = w
  itemMeta : ∀ m ∈ r.gItemMeta, m.recordedIn = w
  team : r.sCachedLocalTeam ≠ 0 → r.teamRecordedIn = w

instance (w : UInt64) (r : Radar) : Decidable (Stamped w r) := decidable_of_iff _ (stamped_iff w r).symm

/-- Whatever was taken from a cache had been recorded in the world that it was used for. -/
def Isolated (r : Radar) : Prop := ∀ u ∈ r.uses, u.recordedIn = u.world

/-- When a tick has changed the world, from `r` to its first loop in `s`, nothing of another world is left. -/
def Renewed (r s : Radar) : Prop := s.world ≠ r.world → s.world ≠ 0 → Stamped s.world s

structure Between (r : Radar) : Prop where
  isolated : Isolated r
  stamped : r.world ≠ 0 → Stamped r.world r

/-- The search for the world, in a tick that began in `r₀`: it records nothing and uses nothing. -/
structure Searching (r₀ r : Radar) : Prop where
  isolated : Isolated r
  kept : ∀ w, Stamped w r₀ → Stamped w r

/-- In a tick that began in `r₀`, up to its first loop: what was used is still in the caches. -/
structure Started (r₀ r : Radar) : Prop where
  world : r.world ≠ 0
  uses : ∀ u ∈ r.uses, u.recordedIn = u.world ∨ u.world = r.world ∧
    ((∃ e ∈ r.gClasses, e.recordedIn = u.recordedIn) ∨ r.sCachedLocalTeam ≠ 0 ∧ r.teamRecordedIn = u.recordedIn)
  kept : Stamped r.world r₀ → Stamped r.world r

structure Looping (w : UInt64) (r : Radar) : Prop where
  world : r.world = w
  isolated : Isolated r
  stamped : Stamped w r

section Kept
variable {w : UInt64} {r₀ r s : Radar}

/-- What is cached, as one value. -/
def caches (r : Radar) :=
  (r.gClasses, r.characters, r.vehicles, r.items, r.gPlayerMeta, r.gItemMeta, r.sCachedLocalTeam, r.teamRecordedIn)

theorem Stamped.of_same (h : Stamped w r) (same : caches s = caches r) : Stamped w s := by
  simp only [caches, Prod.mk.injEq] at same
  obtain ⟨hclasses, hcharacters, hvehicles, hitems, hplayers, hitemMeta, hteam, hrecorded⟩ := same
  rw [stamped_iff, hclasses, hcharacters, hvehicles, hitems, hplayers, hitemMeta, hteam, hrecorded, ← stamped_iff]
  exact h

theorem Isolated.use (h : Isolated r) {recordedIn : UInt64} (hr : recordedIn = r.world) :
    Isolated (r.use recordedIn) := by
  intro u hu
  rcases List.mem_append.mp hu with hu | hu
  · exact h u hu
  · obtain rfl := List.mem_singleton.mp hu
    exact hr

theorem Searching.of_same (h : Searching r₀ r) (huses : s.uses = r.uses) (same : caches s = caches r) :
    Searching r₀ s :=
  ⟨by rw [Isolated, huses]; exact h.isolated, fun w hw => (h.kept w hw).of_same same⟩

theorem Started.of_same (h : Started r₀ r) (hworld : s.world = r.world) (huses : s.uses = r.uses)
    (same : caches s = caches r) : Started r₀ s where
  world := hworld ▸ h.world
  uses := by
    simp only [caches, Prod.mk.injEq] at same
    obtain ⟨hclasses, -, -, -, -, -, hteam, hrecorded⟩ := same
    rw [huses, hworld, hclasses, hteam, hrecorded]
    exact h.uses
  kept := hworld ▸ fun hw => (h.kept hw).of_same same

/-- Something that is still in the caches is used. -/
theorem Started.use (h : Started r₀ r) {recordedIn : UInt64} (hfrom : (∃ e ∈ r.gClasses, e.recordedIn = recordedIn) ∨
    r.sCachedLocalTeam ≠ 0 ∧ r.teamRecordedIn = recordedIn) : Started r₀ (r.use recordedIn) where
  world := h.world
  uses u hu := by
    rcases List.mem_append.mp hu with hu | hu
    · exact h.uses u hu
    · obtain rfl := List.mem_singleton.mp hu
      exact Or.inr ⟨rfl, hfrom⟩
  kept hw := (h.kept hw).of_same rfl

theorem Looping.of_same (h : Looping w r) (hworld : s.world = r.world) (huses : s.uses = r.uses)
    (same : caches s = caches r) : Looping w s :=
  ⟨hworld.trans h.world, by rw [Isolated, huses]; exact h.isolated, h.stamped.of_same same⟩

theorem Looping.use (h : Looping w r) {recordedIn : UInt64} (hr : recordedIn = w) : Looping w (r.use recordedIn) :=
  ⟨h.world, h.isolated.use (hr.trans h.world.symm), h.stamped.of_same rfl⟩

/-- What a tick has used up to its first loop comes from the world, when all of the caches do. -/
theorem Started.isolated (h : Started r₀ r) (hstamped : Stamped r.world r) : Isolated r := by
  intro u hu
  rcases h.uses u hu with hu | ⟨hworld, ⟨e, he, hrec⟩ | ⟨hteam, hrec⟩⟩
  · exact hu
  · rw [← hrec, hworld]
    exact hstamped.classes e he
  · rw [← hrec, hworld]
    exact hstamped.team hteam

end Kept

theorem Stamped.enterWorld {w : UInt64} {r : Radar} (h : Stamped w r) (current : UInt64) :
    Stamped w (r.enterWorld current) := by
  rw [Radar.enterWorld]
  split
  · exact ⟨by simp, by simp, by simp, by simp, by simp, by simp, h.team⟩
  · exact h.of_same rfl

theorem Searching.enterWorld {r₀ r : Radar} (h : Searching r₀ r) (current : UInt64) :
    Searching r₀ (r.enterWorld current) := by
  refine ⟨?_, fun w hw => (h.kept w hw).enterWorld current⟩
  rw [Radar.enterWorld]
  split <;> exact h.isolated

theorem findWorld_searching (ar : Arith) (input : TickInput) (r₀ : Radar) :
    Triple (Searching r₀) (findWorld ar input) fun w r => r.world = w ∧ Searching r₀ r := by
  refine Triple.imp ((findWorld_world (P := Searching r₀) ar input).and (findWorld_keeps ?_ ?_ ?_ ?_ ?_ ar input))
    (fun r hr => ⟨hr, hr⟩) fun _ _ hr => hr
  · exact fun r ctx hr => hr.of_same rfl rfl
  · exact fun r localPlayer world hr => hr.of_same rfl rfl
  · exact fun r cursor hr => hr.of_same rfl rfl
  · exact fun r lookup hr => hr.of_same rfl rfl
  · exact fun r current hr => hr.enterWorld current

theorem Started.setLocalTeam {r₀ r : Radar} (h : Started r₀ r) (team : UInt32) (hcaches : Isolated r) :
    Started r₀ (r.setLocalTeam team) := by
  rw [Radar.setLocalTeam]
  split
  · refine ⟨h.world, fun u hu => Or.inl (hcaches u hu), fun hw => ?_⟩
    have := h.kept hw
    exact ⟨this.classes, this.characters, this.vehicles, this.items, this.playerMeta, this.itemMeta, fun _ => rfl⟩
  · exact h

theorem radarTickHead_started (ar : Arith) (input : TickInput) {r₀ : Radar} (h : Isolated r₀) :
    Triple (fun r => r = r₀) (radarTickHead ar input) fun found r =>
      found = none ∧ r.world = 0 ∧ Isolated r ∨ Started r₀ r := by
  refine radarTickHead_triple (S := Searching r₀) (R := fun r => Started r₀ r ∧ Isolated r) ?_
    (findWorld_searching ar input r₀) ?_ ?_ ?_ ?_ fun _ r hr => Or.inr hr.1
  · rintro r rfl
    exact ⟨h, fun w hw => hw.of_same rfl⟩
  · exact fun r hr => Or.inl ⟨rfl, hr.1, hr.2.isolated⟩
  · rintro w r hw ⟨rfl, hr⟩
    exact ⟨⟨hw, fun u hu => Or.inl (hr.isolated u hu), hr.kept r.world⟩, hr.isolated⟩
  · exact fun r f hr => ⟨hr.1.of_same rfl rfl rfl, hr.2⟩
  · refine fun r team hr => ⟨hr.1.setLocalTeam team hr.2, ?_⟩
    rw [Radar.setLocalTeam]
    split <;> exact hr.2

theorem Started.teamFallback {r₀ r : Radar} (h : Started r₀ r) : Started r₀ r.teamFallback := by
  rw [Radar.teamFallback]
  split
  · rename_i hteam
    have hne : r.sCachedLocalTeam ≠ 0 := (UInt32.pos_iff_ne_zero).mp hteam.2
    exact (h.use (Or.inr ⟨hne, rfl⟩)).of_same rfl rfl rfl
  · exact h

theorem Started.addClass {r₀ r : Radar} (h : Started r₀ r) (cls : UInt64) (type : ClsType) (name : Str) :
    Started r₀ (r.addClass cls type name) := by
  rw [Radar.addClass]
  split
  · refine ⟨h.world, fun u hu => ?_, fun hw => ?_⟩
    · refine (h.uses u hu).imp_right fun ⟨hworld, hfrom⟩ => ⟨hworld, hfrom.imp_left ?_⟩
      rintro ⟨e, he, hrec⟩
      exact ⟨e, List.mem_append_left _ he, hrec⟩
    · have hold := h.kept hw
      refine ⟨fun e he => ?_, hold.characters, hold.vehicles, hold.items, hold.playerMeta, hold.itemMeta, hold.team⟩
      rcases List.mem_append.mp he with he | he
      · exact hold.classes e he
      · obtain rfl := List.mem_singleton.mp he
        rfl
  · exact h

theorem Started.setCandidates {r₀ r : Radar} (h : Started r₀ r) (s : Scan) : Started r₀ (r.setCandidates s) := by
  have recorded : ∀ (actors : List UInt64) (c : Candidate), c ∈ actors.map (⟨·, r.world⟩) → c.recordedIn = r.world := by
    intro actors c hc
    obtain ⟨actor, -, rfl⟩ := List.mem_map.mp hc
    rfl
  refine ⟨h.world, h.uses, fun hw => ?_⟩
  have hold := h.kept hw
  exact ⟨hold.classes, recorded _, recorded _, recorded _, hold.playerMeta, hold.itemMeta, hold.team⟩

theorem radarTickStart_started (ar : Arith) (input : TickInput) {r₀ : Radar} (h : Isolated r₀) :
    Triple (fun r => r = r₀) (radarTickStart ar input) fun found r =>
      found = none ∧ r.world = 0 ∧ Isolated r ∨ Started r₀ r := by
  refine Triple.bind (radarTickHead_started ar input h) fun found => ?_
  cases found with
  | none => exact Triple.pure fun s hs => hs
  | some head =>
    refine Triple.imp (P := Started r₀) (Q := fun _ => Started r₀) ?_ ?_ fun _ _ hs => Or.inr hs
    · refine Triple.bind (R := fun _ => Started r₀) (Keeps.modify fun r hr => hr.teamFallback) fun _ =>
        Triple.bind (R := fun _ => Started r₀) (scanWhenDue_keeps ?_ ?_ ?_ ?_ ar input ?_) fun _ =>
          Triple.pure fun s hs => hs
      · exact fun r ctx hr => hr.of_same rfl rfl rfl
      · exact fun r e hr he => hr.use (Or.inl ⟨e, he, rfl⟩)
      · exact fun r cls type name hr => hr.addClass cls type name
      · exact fun r s hr => hr.setCandidates s
      · exact fun r t hr => hr.of_same rfl rfl rfl
    · rintro s (⟨hnone, -⟩ | hs)
      · cases hnone
      · exact hs

/-! ### The loops -/

section Loops
variable {w : UInt64}

theorem Looping.storePlayerMeta {r : Radar} (h : Looping w r) (actor : UInt64) (teamId : UInt32) (isBot : UInt8)
    (name : Str) : Looping w (r.storePlayerMeta actor teamId isBot name) := by
  refine { h with stamped := { h.stamped with playerMeta := fun m hm => ?_ } }
  rcases mem_storeMeta hm with rfl | hm
  · exact h.world
  · exact h.stamped.playerMeta m hm

theorem Looping.storeItemMeta {r : Radar} (h : Looping w r) (actor : UInt64) (itemId : Int) (category : UInt8)
    (name : Str) : Looping w (r.storeItemMeta actor itemId category name) := by
  refine { h with stamped := { h.stamped with itemMeta := fun m hm => ?_ } }
  rcases mem_storeMeta hm with rfl | hm
  · exact h.world
  · exact h.stamped.itemMeta m hm

theorem playerMeta_looping (other st : UInt64) : Keeps (Looping w) (playerMeta other st) := by
  refine Triple.bindGet fun r hr => ?_
  split
  · rename_i pmeta hfind
    have hrec := hr.stamped.playerMeta pmeta (of_findMeta hfind).1
    exact Triple.bind (R := fun _ => Looping w) (Triple.modify fun s hs => hs.2.use hrec) fun _ =>
      Triple.pure fun s hs => hs
  · refine Triple.imp ?_ (fun s hs => hs.2) fun _ _ hs => hs
    refine Triple.bind (Keeps.lift _) fun read => ?_
    exact Triple.bind (R := fun _ => Looping w) (Keeps.modify fun s hs => hs.storePlayerMeta _ _ _ _) fun _ =>
      Triple.pure fun s hs => hs

theorem left_recordedIn {cs cs' : List Candidate} (h : ∀ c ∈ cs, c.recordedIn = w)
    (hleft : ∀ c' ∈ cs', ∃ c ∈ cs, Left c c') : ∀ c' ∈ cs', c'.recordedIn = w := by
  intro c' hc'
  obtain ⟨c, hc, rfl | rfl⟩ := hleft c' hc'
  · exact h _ hc
  · exact h c hc

theorem processCandidates_looping (ar : Arith) (head : TickHead) : Keeps (Looping w) (processCandidates ar head) := by
  have reflection : ∀ r ctx, Looping w r → Looping w { r with reflection := some ctx } := fun r ctx h =>
    h.of_same rfl rfl rfl
  refine loop_then (fun r hr => hr) (fun r hr c hc => ?_) (fun r s hr hs cs hleft => ?_) ?_
  · exact processPlayer_triple (fun s h => h.use (hr.stamped.characters c hc))
      (fun st => Triple.imp (playerMeta_looping c.actor st) (fun _ hs => hs) fun _ _ hs => ⟨hs, trivial⟩)
      fun r pos health healthStatus yaw i h (_ : True) => h.of_same rfl rfl rfl
  · exact { hs with stamped := { hs.stamped with characters := left_recordedIn hr.stamped.characters hleft } }
  refine loop_then (fun r hr => hr) (fun r hr c hc => ?_) (fun r s hr hs vs hleft => ?_) ?_
  · exact processVehicle_triple (fun s h => h.use (hr.stamped.vehicles c hc)) reflection
      (fun r e h he => h.use (h.stamped.classes e he)) fun r v h => h.of_same rfl rfl rfl
  · exact { hs with stamped := { hs.stamped with vehicles := left_recordedIn hr.stamped.vehicles hleft } }
  refine loop_triple (fun r hr => hr) (fun r hr c hc => ?_) fun r s hr hs is hleft => ?_
  · exact processItem_triple (fun s h => h.use (hr.stamped.items c hc)) reflection
      (fun r m h hm => h.use (h.stamped.itemMeta m hm)) (fun r _ _ _ _ h => h.storeItemMeta _ _ _ _)
      fun r v h => h.of_same rfl rfl rfl
  · exact { hs with stamped := { hs.stamped with items := left_recordedIn hr.stamped.items hleft } }

end Loops

/-! ### Runs -/

theorem Looping.publish {w : UInt64} {r : Radar} (h : Looping w r) (status : UInt32) : Between (r.publish status) where
  isolated := h.isolated
  stamped _ := by
    rw [show (r.publish status).world = w from h.world]
    exact h.stamped.of_same rfl

/-- A tick that renews the caches when it changes the world uses only what it recorded in its world. -/
theorem step_between {ar : Arith} {input : TickInput} {r : Radar} (h : Between r)
    (hok : Renewed r (r.after (radarTickStart ar input) input)) : Between (r.step ar input) := by
  have hstart := radarTickStart_started ar input h.isolated r rfl input.host 0
  generalize hs₀ : r.after (radarTickStart ar input) input = s₀ at hok
  rw [show ((radarTickStart ar input).run r |>.eval input.host 0).1.2 = s₀ from hs₀] at hstart
  refine step_of_start (P := fun found s => found = none ∧ s.world = 0 ∧ Isolated s ∨ Looping s₀.world s) h ?_ ?_
    fun head => ?_
  · rw [hs₀]
    refine hstart.imp_right fun hs => ?_
    have hstamped : Stamped s₀.world s₀ := by
      by_cases hsame : s₀.world = r.world
      · exact hs.kept (hsame ▸ h.stamped (hsame ▸ hs.world))
      · exact hok hsame hs.world
    exact ⟨rfl, hs.isolated hstamped, hstamped⟩
  · rintro s (⟨-, hzero, hs⟩ | hs)
    · exact ⟨hs, fun hne => absurd hzero hne⟩
    · exact hs.publish 1
  · refine Triple.imp (@processCandidates_looping s₀.world ar head) ?_ fun _ s hs status => hs.publish status
    rintro s (⟨hnone, -⟩ | hs)
    · cases hnone
    · exact hs

theorem run_between {ar : Arith} {r : Radar} (h : Run ar Renewed r) : Between r := by
  induction h with
  | @init r _ huses imageBase aslrSlide mapped =>
    have hnone : Isolated r := by simp [Isolated, huses]
    rw [radarInit]
    split
    · exact ⟨hnone, fun hne => absurd rfl hne⟩
    · exact ⟨hnone, fun hne => absurd rfl hne⟩
  | tick _ input hok ih => exact step_between ih hok

/-- In a run whose ticks renew the caches whenever they change the world, nothing that was recorded in one world is
    used in another one. -/
theorem isolated_of_renewed {ar : Arith} {r : Radar} (h : Run ar Renewed r) : Isolated r :=
  (run_between h).isolated

/-- A process with a local player, found by the search for it, and its controller. -/
def lobby : List (UInt64 × List UInt8) :=
  [(0x10010, leBytes 8 0x70000 ++ leBytes 12 0 ++ leBytes 4 3), (0x20008, leBytes 8 0x30000),
   (0x30000, leBytes 8 0x40000), (0x40000, leBytes 8 0 ++ leBytes 8 0x50000 ++ leBytes 8 0x51000),
   (0x50000, leBytes 12 0 ++ lit "Class" ++ leBytes 60 0), (0x51000, leBytes 12 0 ++ lit "LocalPlayer" ++ leBytes 60 0),
   (0x70000, leBytes 24 0x80000 ++ leBytes 24 0x81000 ++ leBytes 24 0x82000),
   (0x80000, leBytes 16 0 ++ leBytes 8 0x80000 ++ leBytes 8 1 ++ leBytes 64 0),
   (0x81000, leBytes 16 0 ++ leBytes 8 0x80000 ++ leBytes 8 2 ++ leBytes 64 0),
   (0x82000, leBytes 16 0 ++ leBytes 8 0x81000 ++ leBytes 24 0 ++ leBytes 40 0x90000 ++ leBytes 8 0x91000),
   (0x90518, leBytes 8 0x82000)]

def firstWorld : List (UInt64 × List UInt8) :=
  lobby ++ [(0x91078, leBytes 8 0x92000), (0x90488, leBytes 8 0xc0000), (0xc0700, leBytes 4 7)]

def otherWorld : List (UInt64 × List UInt8) := lobby ++ [(0x91078, leBytes 8 0x96000)]

def started : Radar := radarInit 0 0 true .zero

theorem isolated_of_renewed_first : Isolated (started.step smallArith (tickAt firstWorld 0)) := by
  refine isolated_of_renewed (.tick (.init rfl rfl 0 0 true) (tickAt firstWorld 0) fun _ _ => ?_)
  rw [← started, tickAt, Memory.ofSegments_eq]
  decide +kernel

/-- The world is lost in the second tick; in the third one the local player is found in another world, and its team
    of the first world is used. -/
theorem team_of_other_world : ¬∀ (ar : Arith) (r : Radar), Run ar (fun _ _ => True) r → Isolated r := by
  intro h
  have hrun : Run smallArith (fun _ _ => True)
      (((started.step smallArith (tickAt firstWorld 0)).step smallArith
        (tickAt lobby 0x3fb999999999999a)).step smallArith
        (tickAt otherWorld 0x3ff0000000000000)) :=
    .tick (.tick (.tick (.init rfl rfl 0 0 true) _ trivial) _ trivial) _ trivial
  have hisolated := h _ _ hrun
  revert hisolated
  rw [tickAt, tickAt, tickAt, Memory.ofSegments_eq, Isolated]
  decide +kernel

end Worlds
end RadarAim

import RadarAim.Theorems.Reader

/-! Teammates and bots. A player whose metadata are read in a tick is never a bot of the local team of that tick;
    but metadata that were stored while the local team was not known are replayed as they are. -/

namespace RadarAim
namespace Teammates
open Prog Reader Ieee

/-- No player of the local team is a bot. -/
def NoTeammateBots (f : RadarFrame) : Prop :=
  f.header.localTeam ≠ 0 → ∀ p ∈ f.players, p.teamId = f.header.localTeam → p.isBot = 0

/-- In no frame that has been published is a player of the local team a bot. -/
def Clear (r : Radar) : Prop := ∀ f ∈ r.published, NoTeammateBots f

/-- No candidate for the loop over the players is in the cache as a bot of the local team. -/
def Unreplayed (r : Radar) : Prop :=
  r.frame.header.localTeam ≠ 0 → ∀ m ∈ r.gPlayerMeta, (∃ c ∈ r.characters, c.actor = m.actor) →
    m.teamId = r.frame.header.localTeam → m.isBot = 0

/-- Between two ticks, and in a tick up to its first loop. -/
structure Starting (r : Radar) : Prop where
  published : Clear r
  players : r.frame.players = []

/-- In the loops of a tick whose local team is `team`, over the players `actors`. -/
structure Looping (actors : List UInt64) (team : UInt32) (r : Radar) : Prop where
  published : Clear r
  localTeam : r.frame.header.localTeam = team
  players : team ≠ 0 → ∀ p ∈ r.frame.players, p.teamId = team → p.isBot = 0
  cache : team ≠ 0 → ∀ m ∈ r.gPlayerMeta, m.actor ∈ actors → m.teamId = team → m.isBot = 0

theorem clearTeammate_self {team : UInt32} (h : team ≠ 0) (isBot : UInt8) : clearTeammate team team isBot = 0 :=
  if_pos ⟨h, rfl⟩

section Loop
variable {actors : List UInt64} {team : UInt32}

theorem playerMeta_triple {other : UInt64} (hother : other ∈ actors) (st : UInt64) :
    Triple (Looping actors team) (playerMeta other st) fun i s =>
      Looping actors team s ∧ (team ≠ 0 → i.1 = team → i.2.1 = 0) := by
  refine Triple.bindGet fun r hr => ?_
  split
  · rename_i pmeta hfind
    obtain ⟨hmem, hactor⟩ := of_findMeta hfind
    refine Triple.bind (R := fun _ => Looping actors team) (Triple.modify fun s hs => { hs.2 with }) fun _ =>
      Triple.pure fun s hs => ⟨hs, fun hteam => ?_⟩
    exact hr.cache hteam pmeta hmem (hactor ▸ hother)
  · refine Triple.imp ?_ (fun s hs => hs.2) fun _ _ hs => hs
    refine Triple.bind (Keeps.lift _) fun read => ?_
    have hbot : team ≠ 0 → read.1 = team → clearTeammate r.frame.header.localTeam read.1 read.2.1 = 0 := by
      intro hteam hsame
      rw [hr.localTeam, hsame]
      exact clearTeammate_self hteam _
    refine Triple.bind (R := fun _ => Looping actors team) (Keeps.modify fun s hs => ?_) fun _ =>
      Triple.pure fun s hs => ⟨hs, hbot⟩
    refine { hs with cache := fun hteam m hm hactor hsame => ?_ }
    rcases mem_storeMeta hm with rfl | hm
    · exact hbot hteam hsame
    · exact hs.cache hteam m hm hactor hsame

theorem processCandidates_keeps (ar : Arith) (head : TickHead) {cs : List Candidate} :
    Triple (fun r => r.characters = cs ∧ Looping (cs.map Candidate.actor) team r) (processCandidates ar head)
      fun _ => Looping (cs.map Candidate.actor) team := by
  have use : ∀ (c : Candidate) r, Looping (cs.map Candidate.actor) team r →
      Looping (cs.map Candidate.actor) team (r.use c.recordedIn) := fun c r h => { h with }
  have reflection : ∀ r ctx, Looping (cs.map Candidate.actor) team r →
      Looping (cs.map Candidate.actor) team { r with reflection := some ctx } := fun r ctx h =>
    { h with }
  have store : ∀ r, Looping (cs.map Candidate.actor) team r → ∀ cs' vs is,
      Looping (cs.map Candidate.actor) team { r with characters := cs', vehicles := vs, items := is } :=
    fun r h _ _ _ => { h with }
  refine loop_then (fun r hr => hr.2) (fun r hr c hc => ?_) (fun r s _ hs cs' _ => store s hs cs' _ _) ?_
  · have hactor : c.actor ∈ cs.map Candidate.actor := List.mem_map_of_mem (hr.1 ▸ hc)
    refine processPlayer_triple (use c) (fun st => playerMeta_triple hactor st)
      fun s pos health healthStatus yaw i hs hi => ?_
    refine { hs with players := fun hteam p hp hsame => ?_ }
    rcases List.mem_append.mp hp with hp | hp
    · exact hs.players hteam p hp hsame
    · obtain rfl := List.mem_singleton.mp hp
      exact hi hteam hsame
  refine loop_then (fun r hr => hr) (fun r _ c _ => ?_) (fun r s _ hs vs _ => store s hs _ vs _) ?_
  · exact processVehicle_triple (use c) reflection (fun r e h _ => { h with })
      fun r v h => { h with }
  refine loop_triple (fun r hr => hr) (fun r _ c _ => ?_) fun r s _ hs is _ => store s hs _ _ is
  exact processItem_triple (use c) reflection (fun r e h _ => { h with })
    (fun r _ _ _ _ h => { h with })
    fun r v h => { h with }

end Loop

theorem Starting.of_same {r s : Radar} (h : Starting r) (hpublished : s.published = r.published)
    (hplayers : s.frame.players = r.frame.players) : Starting s :=
  ⟨by rw [Clear, hpublished]; exact h.published, hplayers ▸ h.players⟩

theorem radarTickStart_triple (ar : Arith) (input : TickInput) :
    Triple Clear (radarTickStart ar input) fun _ => Starting := by
  refine Triple.bind (R := fun _ => Starting) (radarTickHead_triple (S := Starting) (R := Starting)
    (fun r hr => ⟨hr, rfl⟩) (findWorld_keeps ?_ ?_ ?_ ?_ ?_ ar input) (fun r hr => hr) (fun _ r _ hr => hr)
    (fun r f hr => hr.of_same rfl rfl) ?_ fun _ r hr => hr) fun head => ?_
  · exact fun r ctx hr => hr.of_same rfl rfl
  · exact fun r localPlayer world hr => hr.of_same rfl rfl
  · exact fun r cursor hr => hr.of_same rfl rfl
  · exact fun r lookup hr => hr.of_same rfl rfl
  · intro r w hr
    rw [Radar.enterWorld]
    split <;> exact hr.of_same rfl rfl
  · intro r t hr
    rw [Radar.setLocalTeam]
    split
    · exact hr.of_same rfl rfl
    · exact hr
  · cases head with
    | none => exact Triple.pure fun s hs => hs
    | some head =>
      refine Triple.bind (R := fun _ => Starting) (Keeps.modify fun r hr => ?_) fun _ =>
        Triple.bind (R := fun _ => Starting) (scanWhenDue_keeps ?_ ?_ ?_ ?_ ar input ?_) fun _ =>
          Triple.pure fun s hs => hs
      · rw [Radar.teamFallback]
        split
        · exact hr.of_same rfl rfl
        · exact hr
      · exact fun r ctx hr => hr.of_same rfl rfl
      · exact fun r e hr _ => hr.of_same rfl rfl
      · intro r cls type name hr
        rw [Radar.addClass]
        split
        · exact hr.of_same rfl rfl
        · exact hr
      · exact fun r s hr => hr.of_same rfl rfl
      · exact fun r t hr => hr.of_same rfl rfl

theorem Clear.publish {r : Radar} (h : Clear r) (hframe : NoTeammateBots r.frame) (status : UInt32) :
    Clear (r.publish status) := by
  intro f hf
  rcases List.mem_append.mp hf with hf | hf
  · exact h f hf
  · obtain rfl := List.mem_singleton.mp hf
    exact hframe

theorem Starting.frame {r : Radar} (h : Starting r) : NoTeammateBots r.frame := by
  intro _ p hp
  rw [h.players] at hp
  cases hp

/-- A tick that comes to its first loop in a state of `Unreplayed` publishes no bot of the local team. -/
theorem step_published {ar : Arith} {input : TickInput} {r : Radar} (h : Clear r)
    (hok : Unreplayed (r.after (radarTickStart ar input) input)) : Clear (r.step ar input) := by
  have hstart : Starting (r.after (radarTickStart ar input) input) :=
    radarTickStart_triple ar input r h input.host 0
  let team := (r.after (radarTickStart ar input) input).frame.header.localTeam
  let cs := (r.after (radarTickStart ar input) input).characters
  refine step_of_start (P := fun _ s => Starting s ∧ s.characters = cs ∧ Looping (cs.map Candidate.actor) team s)
    h ⟨hstart, rfl, hstart.published, rfl, fun _ p hp => ?_, fun hteam m hm hactor hsame => ?_⟩
    (fun s hs => hs.1.published.publish hs.1.frame _) fun head => ?_
  · rw [hstart.players] at hp
    cases hp
  · obtain ⟨c, hc, hcm⟩ := List.mem_map.mp hactor
    exact hok hteam m hm ⟨c, hc, hcm⟩ hsame
  · refine Triple.imp (processCandidates_keeps ar head) (fun s hs => hs.2) fun _ s hs status => ?_
    exact hs.published.publish (fun hteam p hp hsame => hs.players (hs.localTeam ▸ hteam) p hp (hs.localTeam ▸ hsame)) _

/-- In a run whose ticks all come to their first loop in a state of `Unreplayed`, a bot of the local team is never
    published. -/
theorem noTeammateBots {ar : Arith} {r : Radar} (h : Run ar (fun _ => Unreplayed) r) : Clear r := by
  induction h with
  | @init r hpublished _ imageBase aslrSlide mapped =>
    have hnone : Clear r := by simp [Clear, hpublished]
    rw [radarInit]
    split
    · refine Clear.publish ?_ ?_ 1
      · exact hnone
      · exact fun _ p hp => nomatch hp
    · exact hnone
  | tick _ input hok ih => exact step_published ih hok

/-- A local player, its controller, and a level with one other character, a bot of team 7. -/
def squad : List (UInt64 × List UInt8) :=
  [(0x10010, leBytes 8 0x70000 ++ leBytes 12 0 ++ leBytes 4 3), (0x20008, leBytes 8 0x30000),
   (0x30000, leBytes 8 0x40000), (0x40000, leBytes 8 0 ++ leBytes 8 0x50000 ++ leBytes 8 0x51000 ++ leBytes 8 0x52000),
   (0x50000, leBytes 12 0 ++ lit "Class" ++ leBytes 60 0), (0x51000, leBytes 12 0 ++ lit "LocalPlayer" ++ leBytes 60 0),
   (0x52000, leBytes 12 0 ++ lit "Character" ++ leBytes 60 0),
   (0x70000, leBytes 24 0x80000 ++ leBytes 24 0x81000 ++ leBytes 24 0x82000),
   (0x80000, leBytes 16 0 ++ leBytes 8 0x80000 ++ leBytes 8 1 ++ leBytes 64 0),
   (0x81000, leBytes 16 0 ++ leBytes 8 0x80000 ++ leBytes 8 2 ++ leBytes 64 0),
   (0x82000, leBytes 16 0 ++ leBytes 8 0x81000 ++ leBytes 24 0 ++ leBytes 40 0x90000 ++ leBytes 8 0x91000),
   (0x90518, leBytes 8 0x82000), (0x91078, leBytes 8 0x92000), (0x92030, leBytes 8 0x93000),
   (0x930a0, leBytes 8 0x94000 ++ leBytes 4 5 ++ leBytes 4 5), (0x94000, leBytes 40 0xa0000),
   (0xa0010, leBytes 8 0x83000), (0x83018, leBytes 8 3), (0xa0208, leBytes 8 0xa8000),
   (0xa81e4, leBytes 4 0x3f800000 ++ leBytes 20 0), (0xa2410, leBytes 8 0xb0000), (0xb0700, leBytes 4 7),
   (0xb04dc, [4])]

def squadOf7 : List (UInt64 × List UInt8) := squad ++ [(0x90488, leBytes 8 0xc0000), (0xc0700, leBytes 4 7)]

def started : Radar := radarInit 0 0 true .zero

/-- A first tick that knows the local team. -/
theorem noTeammateBots_known : Clear (started.step smallArith (tickAt squadOf7 0)) := by
  refine noTeammateBots (.tick (.init rfl rfl 0 0 true) (tickAt squadOf7 0) fun _ m hm => ?_)
  have hnone :
      (started.after (radarTickStart smallArith (tickAt squadOf7 0)) (tickAt squadOf7 0)).gPlayerMeta = [] := by
    rw [tickAt, Memory.ofSegments_eq]
    decide +kernel
  rw [← started, hnone] at hm
  cases hm

/-- The metadata of the bot are stored in a tick that does not know the local team, and replayed when it is known. -/
theorem late_team_bot : ¬∀ (ar : Arith) (r : Radar), Run ar (fun _ _ => True) r → Clear r := by
  intro h
  have hrun : Run smallArith (fun _ _ => True)
      ((started.step smallArith (tickAt squad 0)).step smallArith (tickAt squadOf7 0x3fb999999999999a)) :=
    .tick (.tick (.init rfl rfl 0 0 true) _ trivial) _ trivial
  have hbot :
      ((started.step smallArith (tickAt squad 0)).step smallArith (tickAt squadOf7 0x3fb999999999999a)).published.any
      fun f => f.header.localTeam = 7 ∧ f.players.any fun p => p.teamId = 7 ∧ p.isBot ≠ 0 := by
    rw [tickAt, tickAt, Memory.ofSegments_eq]
    decide +kernel
  obtain ⟨f, hf, hsome⟩ := List.any_eq_true.mp hbot
  simp only [decide_eq_true_eq, List.any_eq_true] at hsome
  obtain ⟨hteam, p, hp, hsame, hisBot⟩ := hsome
  exact hisBot (h smallArith _ hrun f hf (by rw [hteam]; decide) p hp (hsame.trans hteam.symm))

end Teammates
end RadarAim

import RadarAim.Theorems.Metadata

/-! The players of a frame. With a memory that does not change during a tick, the loop over the characters, with its
    cache, its dropped candidates and its early end, comes to a filter: the records are those of the first hundred
    candidates that are to be shown, in the order of the scan. While the cache agrees with the memory it cannot be told
    from no cache. -/

namespace RadarAim
namespace PlayerList
open Prog Reader Teammates Metadata Ieee

/-! ### The cache -/

section Meta
variable {α : Type} {actor : α → UInt64} {valid : α → Bool} {entry : α}

theorem findMeta_storeMeta_of_ne {key : UInt64} (h : actor entry ≠ key) (cache : List α) (room : Nat) :
    findMeta actor valid (storeMeta actor entry cache room) key = findMeta actor valid cache key := by
  induction cache generalizing room with
  | nil => cases room <;> simp [storeMeta, findMeta, h]
  | cons m cache ih =>
    rw [storeMeta]
    split
    · rename_i heq
      have hm : actor m ≠ key := heq ▸ h
      simp [findMeta, h, hm]
    · have hrest := ih (room - 1)
      simp only [findMeta, List.find?_cons] at hrest ⊢
      rw [hrest]

theorem findMeta_storeMeta_self (hvalid : valid entry = true) {cache : List α}
    (hnone : findMeta actor valid cache (actor entry) = none) (room : Nat) :
    ∀ m, findMeta actor valid (storeMeta actor entry cache room) (actor entry) = some m → m = entry := by
  intro m hm
  induction cache generalizing room with
  | nil =>
    cases room with
    | zero => simp [storeMeta, findMeta] at hm
    | succ room =>
      simp [storeMeta, findMeta, hvalid] at hm
      exact hm.symm
  | cons x cache ih =>
    rw [storeMeta] at hm
    simp only [findMeta, List.find?_cons] at hnone
    split at hm
    · simp [findMeta, hvalid] at hm
      exact hm.symm
    · rename_i hne
      have hx : (valid x && decide (actor x = actor entry)) = false := by simp [hne]
      rw [hx] at hnone
      simp only [findMeta, List.find?_cons, hx] at hm
      exact ih hnone (room - 1) hm

end Meta

/-! ### What is shown -/

section Shown
variable (m : Memory) (ar : Arith) (head : TickHead)

/-- Team, bot flag and name of a player as the process says them. -/
def plainInfo (localTeam : UInt32) (other : UInt64) : UInt32 × UInt8 × Str :=
  let info := (freshPlayer localTeam other).run m.host
  (info.1, info.2.1, name32 info.2.2)

/-- What the cache says of a player, and the process if there is nothing in the cache. -/
def infoOf (r : Radar) (other : UInt64) : UInt32 × UInt8 × Str :=
  match r.findPlayerMeta other with
  | some pmeta => (pmeta.teamId, pmeta.isBot, name32 pmeta.name)
  | none => plainInfo m r.frame.header.localTeam other

/-- The record of a candidate that is to be shown: another actor than the player's own that has a position away from
    the origin and is not dead. -/
def shown (info : UInt64 → UInt32 × UInt8 × Str) (c : Candidate) : Option RadarPlayer :=
  if c.actor = 0 ∨ c.actor = head.pawn then none
  else
    ((position c.actor).run m.host).bind fun pos =>
      let st := (playerState c.actor).run m.host
      let healthStatus := (readU8 (c.actor + 0x2be8) 0).run m.host
      if nearOrigin pos ∨ (readU8 (c.actor + 0xe7c) 0).run m.host ≠ 0 ∨ healthStatus = 2 then none
      else
        some (playerRecord ar pos ((readHealth c.actor st).run m.host) healthStatus ((readYaw c.actor).run m.host)
          (info c.actor) head.cameraPos)

end Shown

/-- What a tick leaves alone while it goes over the players, and that no answer about a player changes. -/
structure Follows (m : Memory) (r s : Radar) : Prop where
  localTeam : s.frame.header.localTeam = r.frame.header.localTeam
  published : s.published = r.published
  info : ∀ a, infoOf m s a = infoOf m r a

section Loop
variable {m : Memory} {ar : Arith} {head : TickHead} {r s t : Radar}

theorem Follows.refl (m : Memory) (r : Radar) : Follows m r r := ⟨rfl, rfl, fun _ => rfl⟩

theorem Follows.trans (h : Follows m r s) (h' : Follows m s t) : Follows m r t :=
  ⟨h'.localTeam.trans h.localTeam, h'.published.trans h.published, fun a => (h'.info a).trans (h.info a)⟩

theorem Follows.of_same (hteam : s.frame.header.localTeam = r.frame.header.localTeam)
    (hpublished : s.published = r.published) (hmeta : s.gPlayerMeta = r.gPlayerMeta) : Follows m r s := by
  refine ⟨hteam, hpublished, fun a => ?_⟩
  rw [infoOf, infoOf, Radar.findPlayerMeta, Radar.findPlayerMeta, hmeta, hteam]

/-- Storing what was read for a player that was not in the cache. -/
theorem follows_store {a : UInt64} (hnone : r.findPlayerMeta a = none) {i : UInt32 × UInt8 × Str}
    (hi : (i.1, i.2.1, name32 i.2.2) = plainInfo m r.frame.header.localTeam a) :
    Follows m r (r.storePlayerMeta a i.1 i.2.1 i.2.2) := by
  refine ⟨rfl, rfl, fun b => ?_⟩
  by_cases hab : a = b
  · subst hab
    rw [infoOf, infoOf, hnone]
    cases hfind : (r.storePlayerMeta a i.1 i.2.1 i.2.2).findPlayerMeta a with
    | none => rfl
    | some pmeta =>
      let entry : PlayerMetaCache := ⟨a, i.1, i.2.1, name32 i.2.2, true, r.world⟩
      have habsent : findMeta PlayerMetaCache.actor PlayerMetaCache.valid r.gPlayerMeta entry.actor = none := hnone
      have hentry : pmeta = entry := findMeta_storeMeta_self rfl habsent playerMetaCacheSize pmeta hfind
      rw [hentry, ← hi]
      simp only [entry, name32_name32]
  · rw [infoOf, infoOf, Radar.findPlayerMeta, Radar.storePlayerMeta, findMeta_storeMeta_of_ne hab]
    rfl

theorem exec_playerMeta (a : UInt64) (r : Radar) :
    let res := exec m.host (playerMeta a ((playerState a).run m.host)) r
    (res.1.1, res.1.2.1, name32 res.1.2.2) = infoOf m r a ∧ res.2.frame = r.frame ∧ Follows m r res.2 := by
  intro res
  cases hfind : r.findPlayerMeta a with
  | some pmeta =>
    have hres : res = ((pmeta.teamId, pmeta.isBot, pmeta.name), r.use pmeta.recordedIn) := by
      show exec m.host (playerMeta a _) r = _
      rw [playerMeta, exec_bind, exec_get]
      dsimp only
      rw [hfind]
      rfl
    rw [hres, infoOf, hfind]
    exact ⟨rfl, rfl, .of_same rfl rfl rfl⟩
  | none =>
    have hres : res = (let i := (freshPlayer r.frame.header.localTeam a).run m.host
        (i, r.storePlayerMeta a i.1 i.2.1 i.2.2)) := by
      show exec m.host (playerMeta a _) r = _
      rw [playerMeta, exec_bind, exec_get]
      dsimp only
      rw [hfind]
      dsimp only
      rw [exec_bind, exec_lift, exec_bind, exec_modify, exec_pure]
      simp only [freshPlayer, run_bind, run_pure]
    have hinfo : infoOf m r a = plainInfo m r.frame.header.localTeam a := by rw [infoOf, hfind]
    rw [hres, hinfo]
    exact ⟨rfl, rfl, follows_store hfind rfl⟩

theorem record_name32 (pos : Rvec3) (health : F32 × F32) (healthStatus : UInt8) (yaw : F32)
    (team : UInt32) (isBot : UInt8) (name : Str) (cameraPos : Rvec3) :
    playerRecord ar pos health healthStatus yaw (team, isBot, name32 name) cameraPos =
      playerRecord ar pos health healthStatus yaw (team, isBot, name) cameraPos := by
  simp only [playerRecord, name32_name32]

/-- What a candidate adds to the frame. -/
theorem exec_processPlayer (ar : Arith) (head : TickHead) (c : Candidate) (r : Radar) :
    let res := exec m.host (processPlayer ar head c) r
    res.2.frame.players = r.frame.players ++ (shown m ar head (infoOf m r) c).toList ∧ Follows m r res.2 := by
  intro res
  have hres : res = exec m.host (processPlayer ar head c) r := rfl
  have hstay : Follows m r (r.use c.recordedIn) := .of_same rfl rfl rfl
  rw [processPlayer] at hres
  by_cases hskip : c.actor = 0 ∨ c.actor = head.pawn
  · rw [if_pos hskip] at hres
    rw [hres, shown, if_pos hskip]
    exact ⟨(List.append_nil _).symm, .refl m r⟩
  rw [if_neg hskip, exec_bind, exec_modify, exec_bind, exec_lift] at hres
  rw [shown, if_neg hskip]
  cases hpos : (position c.actor).run m.host with
  | none =>
    rw [hpos] at hres
    rw [hres]
    exact ⟨(List.append_nil _).symm, hstay⟩
  | some pos =>
    rw [hpos] at hres
    dsimp only [Option.bind] at hres ⊢
    by_cases hnear : nearOrigin pos = true
    · rw [if_pos hnear] at hres
      rw [hres, if_pos (Or.inl hnear)]
      exact ⟨(List.append_nil _).symm, hstay⟩
    rw [if_neg hnear, exec_bind, exec_lift] at hres
    dsimp only at hres
    by_cases hdead : (readU8 (c.actor + 0xe7c) 0).run m.host ≠ 0
    · rw [if_pos hdead] at hres
      rw [hres, if_pos (Or.inr (Or.inl hdead))]
      exact ⟨(List.append_nil _).symm, hstay⟩
    rw [if_neg hdead, exec_bind, exec_lift, exec_bind, exec_lift, exec_bind, exec_lift] at hres
    dsimp only at hres
    by_cases hstatus : (readU8 (c.actor + 0x2be8) 0).run m.host = 2
    · rw [if_pos hstatus] at hres
      rw [hres, if_pos (Or.inr (Or.inr hstatus))]
      exact ⟨(List.append_nil _).symm, hstay⟩
    rw [if_neg hstatus, exec_bind, exec_lift, exec_bind] at hres
    -- None of the conditions under which the source skips an actor holds.
    have hout : ¬(nearOrigin pos = true ∨ (readU8 (c.actor + 0xe7c) 0).run m.host ≠ 0 ∨
        (readU8 (c.actor + 0x2be8) 0).run m.host = 2) := by
      rintro (h | h | h)
      · exact hnear h
      · exact hdead h
      · exact hstatus h
    -- The record is made of what the tick knows of the actor.
    obtain ⟨hinfo, hframe, hfollows⟩ := exec_playerMeta (m := m) c.actor (r.use c.recordedIn)
    rw [if_neg hout, hres, ← hstay.info, ← hinfo]
    refine ⟨?_, hstay.trans (hfollows.trans (.of_same rfl rfl rfl))⟩
    show _ ++ [_] = _ ++ [_]
    rw [hframe]
    congr 2
    exact (record_name32 _ _ _ _ _ _ _ _).symm

theorem exec_forCandidates (ar : Arith) (head : TickHead) (cs : List Candidate) (r : Radar)
    (hroom : r.frame.players.length ≤ radarMaxPlayers) :
    let res := exec m.host (forCandidates Radar.fullPlayers (processPlayer ar head) cs) r
    res.2.frame.players = (r.frame.players ++ cs.filterMap (shown m ar head (infoOf m r))).take radarMaxPlayers ∧
      Follows m r res.2 := by
  induction cs generalizing r with
  | nil =>
    rw [forCandidates, exec_pure, List.filterMap_nil, List.append_nil, List.take_of_length_le hroom]
    exact ⟨rfl, .refl m r⟩
  | cons c cs ih =>
    intro res
    have hres : res = exec m.host (forCandidates Radar.fullPlayers (processPlayer ar head) (c :: cs)) r := rfl
    rw [forCandidates, exec_bind, exec_get] at hres
    dsimp only at hres
    by_cases hfull : r.fullPlayers = true
    · -- The list is full, so the rest of the candidates is not looked at.
      have hlength : r.frame.players.length = radarMaxPlayers := by
        simp only [Radar.fullPlayers, decide_eq_true_eq] at hfull
        omega
      rw [if_pos hfull] at hres
      rw [hres, ← hlength, List.take_left]
      exact ⟨rfl, .refl m r⟩
    · obtain ⟨hplayers, hfollows⟩ := exec_processPlayer (m := m) ar head c r
      have hroom' : (exec m.host (processPlayer ar head c) r).2.frame.players.length ≤ radarMaxPlayers := by
        simp only [Radar.fullPlayers, decide_eq_true_eq] at hfull
        have hone : (shown m ar head (infoOf m r) c).toList.length ≤ 1 := by
          cases shown m ar head (infoOf m r) c <;> simp
        rw [hplayers, List.length_append]
        omega
      obtain ⟨hrest, hfollows'⟩ := ih _ hroom'
      rw [if_neg hfull, exec_bind, exec_bind, exec_pure] at hres
      -- A candidate leaves as it was what the others are shown with.
      have hinfo : infoOf m (exec m.host (processPlayer ar head c) r).2 = infoOf m r := funext hfollows.info
      rw [hres]
      refine ⟨?_, hfollows.trans hfollows'⟩
      rw [hrest, hinfo, hplayers, List.append_assoc]
      congr 2
      cases hc : shown m ar head (infoOf m r) c <;> simp [hc]

end Loop

/-! ### The tick -/

section Tick
variable {m : Memory} {ar : Arith} {input : TickInput} {r s : Radar} {team : UInt32}

/-- The start of a tick keeps the cache or empties it, and the frame has no players yet. -/
structure Begun (r s : Radar) : Prop where
  players : s.frame.players = []
  published : s.published = r.published
  cache : s.gPlayerMeta = r.gPlayerMeta ∨ s.gPlayerMeta = []

theorem Begun.of_same {t : Radar} (h : Begun r s) (hframe : t.frame.players = s.frame.players)
    (hpublished : t.published = s.published) (hcache : t.gPlayerMeta = s.gPlayerMeta) : Begun r t :=
  ⟨hframe.trans h.players, hpublished.trans h.published, h.cache.imp hcache.trans hcache.trans⟩

theorem Begun.enterWorld (h : Begun r s) (w : UInt64) : Begun r (s.enterWorld w) := by
  rw [Radar.enterWorld]
  split
  · exact ⟨h.players, h.published, Or.inr rfl⟩
  · exact h.of_same rfl rfl rfl

theorem radarTickStart_begun (ar : Arith) (input : TickInput) (r : Radar) :
    Triple (fun s => s = r) (radarTickStart ar input) fun _ => Begun r := by
  refine Triple.bind (R := fun _ => Begun r) (radarTickHead_triple (S := Begun r) (R := Begun r) ?_
    (findWorld_keeps ?_ ?_ ?_ ?_ ?_ ar input) (fun s hs => hs) (fun _ s _ hs => hs)
    (fun s f hs => hs.of_same rfl rfl rfl) ?_ fun _ s hs => hs) fun head => ?_
  · rintro s rfl
    exact ⟨rfl, rfl, Or.inl rfl⟩
  · exact fun s ctx hs => hs.of_same rfl rfl rfl
  · exact fun s localPlayer world hs => hs.of_same rfl rfl rfl
  · exact fun s cursor hs => hs.of_same rfl rfl rfl
  · exact fun s lookup hs => hs.of_same rfl rfl rfl
  · exact fun s w hs => hs.enterWorld w
  · intro s t hs
    rw [Radar.setLocalTeam]
    split
    · exact hs.of_same rfl rfl rfl
    · exact hs
  · cases head with
    | none => exact Triple.pure fun s hs => hs
    | some head =>
      refine Triple.bind (R := fun _ => Begun r) (Keeps.modify fun s hs => ?_) fun _ =>
        Triple.bind (R := fun _ => Begun r) (scanWhenDue_keeps ?_ ?_ ?_ ?_ ar input ?_) fun _ =>
          Triple.pure fun s hs => hs
      · rw [Radar.teamFallback]
        split
        · exact hs.of_same rfl rfl rfl
        · exact hs
      · exact fun s ctx hs => hs.of_same rfl rfl rfl
      · exact fun s e hs _ => hs.of_same rfl rfl rfl
      · intro s cls type name hs
        rw [Radar.addClass]
        split
        · exact hs.of_same rfl rfl rfl
        · exact hs
      · exact fun s t hs => hs.of_same rfl rfl rfl
      · exact fun s t hs => hs.of_same rfl rfl rfl

/-- The loops after that over the players leave what it came to. -/
structure Listed (m : Memory) (players : List RadarPlayer) (s t : Radar) : Prop where
  players : t.frame.players = players
  follows : Follows m s t

theorem Listed.of_same {players : List RadarPlayer} {t u : Radar} (h : Listed m players s t)
    (hframe : u.frame.players = t.frame.players) (hteam : u.frame.header.localTeam = t.frame.header.localTeam)
    (hpublished : u.published = t.published) (hcache : u.gPlayerMeta = t.gPlayerMeta) : Listed m players s u :=
  ⟨hframe.trans h.players, h.follows.trans (.of_same hteam hpublished hcache)⟩

theorem vehiclesLoop_listed (head : TickHead) (players : List RadarPlayer) (s : Radar) :
    Keeps (Listed m players s) (vehiclesLoop ar head) := by
  refine loop_triple (fun r hr => hr) (fun r _ c _ => ?_) fun r t _ ht vs _ => ht.of_same rfl rfl rfl rfl
  exact processVehicle_triple (fun r hr => hr.of_same rfl rfl rfl rfl) (fun r ctx hr => hr.of_same rfl rfl rfl rfl)
    (fun r e hr _ => hr.of_same rfl rfl rfl rfl) fun r v hr => hr.of_same rfl rfl rfl rfl

theorem itemsLoop_listed (head : TickHead) (players : List RadarPlayer) (s : Radar) :
    Keeps (Listed m players s) (itemsLoop ar head) := by
  refine loop_triple (fun r hr => hr) (fun r _ c _ => ?_) fun r t _ ht vs _ => ht.of_same rfl rfl rfl rfl
  exact processItem_triple (fun r hr => hr.of_same rfl rfl rfl rfl) (fun r ctx hr => hr.of_same rfl rfl rfl rfl)
    (fun r e hr _ => hr.of_same rfl rfl rfl rfl) (fun r _ _ _ _ hr => hr.of_same rfl rfl rfl rfl)
    fun r v hr => hr.of_same rfl rfl rfl rfl

theorem exec_processCandidates (ar : Arith) (head : TickHead) (hs : s.frame.players = []) :
    Listed m ((s.characters.filterMap (shown m ar head (infoOf m s))).take radarMaxPlayers) s
      (exec m.host (processCandidates ar head) s).2 := by
  rw [processCandidates_eq, exec_bind, exec_bind]
  have hfirst : Listed m ((s.characters.filterMap (shown m ar head (infoOf m s))).take radarMaxPlayers) s
      (exec m.host (playersLoop ar head) s).2 := by
    obtain ⟨hplayers, hfollows⟩ := exec_forCandidates (m := m) ar head s.characters s (by simp [hs])
    rw [hs, List.nil_append] at hplayers
    rw [playersLoop, exec_bind, exec_get, exec_bind, exec_modify]
    exact ⟨hplayers, hfollows.trans (.of_same rfl rfl rfl)⟩
  have hsecond : Listed m ((s.characters.filterMap (shown m ar head (infoOf m s))).take radarMaxPlayers) s
      (exec m.host (vehiclesLoop ar head) (exec m.host (playersLoop ar head) s).2).2 := by
    rw [exec, ← eval_const 0]
    exact vehiclesLoop_listed head _ s _ hfirst (fun _ => m.host) 0
  rw [exec, ← eval_const 0]
  exact itemsLoop_listed head _ s _ hsecond (fun _ => m.host) 0

/-- A tick in which the process does not change, from the state in which it comes to its first loop. -/
theorem step_exec (hshared : r.shared = true) (hhost : input.host = fun _ => m.host) :
    r.step ar input = match exec m.host (radarTickStart ar input) r with
      | (none, s) => s.publish 1
      | (some head, s) =>
        let t := (exec m.host (processCandidates ar head) s).2
        t.publish (if head.hasLocal ∨ t.frame.header.cameraValid then 2 else 3) := by
  have hrun : r.step ar input = (exec m.host (radarTickStart ar input >>= radarTickRest ar) r).2 := by
    rw [step_eq hshared, hhost, exec, StateT.run_bind, ← eval_const 0 m.host, eval_bind]
  rw [hrun, exec_bind]
  obtain ⟨found, s⟩ := exec m.host (radarTickStart ar input) r
  cases found with
  | none => rfl
  | some head =>
    show (exec m.host (processCandidates ar head >>= fun _ => modify _) s).2 = _
    rw [exec_bind, exec_modify]

theorem exec_radarTickStart (m : Memory) (ar : Arith) (input : TickInput) (r : Radar) :
    Begun r (exec m.host (radarTickStart ar input) r).2 := by
  have hbegun := radarTickStart_begun ar input r r rfl (fun _ => m.host) 0
  rwa [eval_const] at hbegun

/-- The tick that publishes the frame `f`, in terms of the state in which it came to its first loop. -/
def Publishes (m : Memory) (ar : Arith) (input : TickInput) (r : Radar) (info : Radar → UInt64 → UInt32 × UInt8 × Str)
    (f : RadarFrame) : Prop :=
  (r.step ar input).published = r.published ++ [f] ∧
    match exec m.host (radarTickStart ar input) r with
    | (none, _) => f.players = []
    | (some head, s) => f.players = (s.characters.filterMap (shown m ar head (info s))).take radarMaxPlayers

/-- The frame of a tick, by what the tick knows of the players when it comes to them. -/
theorem exists_publishes {info : Radar → UInt64 → UInt32 × UInt8 × Str} (hshared : r.shared = true)
    (hhost : input.host = fun _ => m.host)
    (hinfo : ∀ head s, exec m.host (radarTickStart ar input) r = (some head, s) → infoOf m s = info s) :
    ∃ f, Publishes m ar input r info f := by
  have hbegun : Begun r (exec m.host (radarTickStart ar input) r).2 := exec_radarTickStart m ar input r
  simp only [Publishes, step_exec hshared hhost]
  revert hbegun hinfo
  obtain ⟨found, s⟩ := exec m.host (radarTickStart ar input) r
  intro hinfo hbegun
  cases found with
  | none => exact ⟨_, congrArg (· ++ _) hbegun.published, hbegun.players⟩
  | some head =>
    have hlisted := exec_processCandidates (m := m) ar head hbegun.players
    have hplayers := hlisted.players
    rw [hinfo head s rfl] at hplayers
    exact ⟨_, congrArg (· ++ _) (hlisted.follows.published.trans hbegun.published), hplayers⟩

/-- Every tick of a mapped reader publishes one frame; its players are the first hundred candidates to be shown. -/
theorem step_publishes (ar : Arith) (hshared : r.shared = true) (hhost : input.host = fun _ => m.host) :
    ∃ f, Publishes m ar input r (infoOf m) f :=
  exists_publishes hshared hhost fun _ _ _ => rfl

theorem step_publishes_squad : ∃ f,
    Publishes (.ofSegments squadOf7) smallArith (tickAt squadOf7 0) started (infoOf (.ofSegments squadOf7)) f :=
  step_publishes smallArith rfl rfl

/-! ### Runs -/

/-- What the cache holds is what the process says to a player whose team is `team`. -/
def Agrees (m : Memory) (team : UInt32) (r : Radar) : Prop :=
  ∀ a, r.findPlayerMeta a ≠ none → infoOf m r a = plainInfo m team a

theorem Agrees.begun (h : Agrees m team r) (hbegun : Begun r s) : Agrees m team s := by
  intro a hfound
  obtain hcache | hcache := hbegun.cache
  · have hsame : s.findPlayerMeta a = r.findPlayerMeta a := by
      rw [Radar.findPlayerMeta, Radar.findPlayerMeta, hcache]
    rw [hsame] at hfound
    have hinfo := h a hfound
    rw [infoOf] at hinfo ⊢
    rw [hsame]
    cases hfind : r.findPlayerMeta a with
    | none => exact absurd hfind hfound
    | some pmeta => rwa [hfind] at hinfo
  · rw [Radar.findPlayerMeta, hcache] at hfound
    exact absurd rfl hfound

/-- A cache that agrees with the process cannot be told from no cache. -/
theorem Agrees.info (h : Agrees m team s) (hteam : s.frame.header.localTeam = team) :
    infoOf m s = plainInfo m team := by
  funext a
  cases hfind : s.findPlayerMeta a with
  | none =>
    rw [infoOf, hfind]
    exact congrArg (plainInfo m · a) hteam
  | some pmeta => exact h a (by rw [hfind]; exact Option.some_ne_none _)

/-- A tick that gets as far as the players knows `team` for the local team. -/
def OnTeam (m : Memory) (team : UInt32) (ar : Arith) (input : TickInput) (r : Radar) : Prop :=
  (exec m.host (radarTickStart ar input) r).1.isSome →
    (exec m.host (radarTickStart ar input) r).2.frame.header.localTeam = team

theorem Agrees.step (h : Agrees m team r) (hhost : input.host = fun _ => m.host) (hteam : OnTeam m team ar input r) :
    Agrees m team (r.step ar input) := by
  by_cases hshared : r.shared = true
  · have hstart := h.begun (exec_radarTickStart m ar input r)
    have hplayers := (exec_radarTickStart m ar input r).players
    rw [OnTeam] at hteam
    rw [step_exec hshared hhost]
    revert hstart hplayers hteam
    obtain ⟨found, s⟩ := exec m.host (radarTickStart ar input) r
    intro hteam hstart hplayers
    cases found with
    | none => exact hstart
    | some head =>
      have hlisted := exec_processCandidates (m := m) ar head hplayers
      intro a _
      exact (hlisted.follows.info a).trans (congrFun (hstart.info (hteam rfl)) a)
  · rw [step_unmapped hshared]
    exact h

/-- The runs of `radar_init` and `radar_tick` over a process that stands still, with the local team `team`. -/
inductive Run (m : Memory) (team : UInt32) (ar : Arith) : Radar → Prop where
  | init (r : Radar) (imageBase aslrSlide : UInt64) (mapped : Bool) :
    Run m team ar (radarInit imageBase aslrSlide mapped r)
  | tick {r : Radar} (h : Run m team ar r) (input : TickInput) (hhost : input.host = fun _ => m.host)
    (hteam : OnTeam m team ar input r) : Run m team ar (r.step ar input)

theorem run_agrees (h : Run m team ar r) : Agrees m team r := by
  induction h with
  | init r imageBase aslrSlide mapped =>
    intro a hfound
    have hcache : (radarInit imageBase aslrSlide mapped r).gPlayerMeta = [] := by
      rw [radarInit]
      split <;> rfl
    rw [Radar.findPlayerMeta, hcache] at hfound
    exact absurd rfl hfound
  | tick _ input hhost hteam ih => exact ih.step hhost hteam

/-- Over a process that stands still every frame lists what a reader without a cache would list. -/
theorem run_publishes (h : Run m team ar r) (hshared : r.shared = true) (hhost : input.host = fun _ => m.host)
    (hteam : OnTeam m team ar input r) : ∃ f, Publishes m ar input r (fun _ => plainInfo m team) f := by
  refine exists_publishes hshared hhost fun head s hstart => ?_
  have hagrees : Agrees m team s := by
    have hbegun := exec_radarTickStart m ar input r
    rw [hstart] at hbegun
    exact (run_agrees h).begun hbegun
  rw [OnTeam, hstart] at hteam
  exact hagrees.info (hteam rfl)

theorem run_publishes_squad : ∃ f,
    Publishes (.ofSegments squadOf7) smallArith (tickAt squadOf7 0x3fb999999999999a)
      (started.step smallArith (tickAt squadOf7 0)) (fun _ => plainInfo (.ofSegments squadOf7) 7) f := by
  have hfirst : OnTeam (.ofSegments squadOf7) 7 smallArith (tickAt squadOf7 0) started := by
    rw [OnTeam, tickAt, Memory.ofSegments_eq]
    decide +kernel
  have hsecond : OnTeam (.ofSegments squadOf7) 7 smallArith (tickAt squadOf7 0x3fb999999999999a)
      (started.step smallArith (tickAt squadOf7 0)) := by
    rw [OnTeam, tickAt, tickAt, Memory.ofSegments_eq]
    decide +kernel
  have hshared : (started.step smallArith (tickAt squadOf7 0)).shared = true := by
    rw [tickAt, Memory.ofSegments_eq]
    decide +kernel
  exact run_publishes (.tick (.init .zero 0 0 true) _ rfl hfirst) hshared rfl hsecond

end Tick
end PlayerList
end RadarAim

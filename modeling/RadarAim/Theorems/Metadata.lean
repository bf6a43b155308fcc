import Mathlib.Data.List.Forall2
import RadarAim.Theorems.Teammates

/-! The metadata caches. An entry is made when an actor first enters a frame and is never looked at again. If its
    data could be read at that moment, every later record of the actor is what a fresh reading would make; if not,
    the fallback stays. -/

namespace RadarAim
namespace Metadata
open Prog Reader Ieee

/-! ### What enters a frame -/

/-- A candidate whose record was added to the frame, and the state in which the loop came to it. -/
structure Entry where
  candidate : Candidate
  before : Radar

def Entry.actor (e : Entry) : UInt64 := e.candidate.actor

section Entered
variable (full : Radar → Bool) (process : Candidate → RadarReader Candidate) (size : Radar → Nat)
  (h : Nat → Handler Host)

/-- The candidates that the loop adds to the frame, from the state `r` and the call `n` on. -/
def entered : List Candidate → (r : Radar) → (n : Nat) → List Entry
  | [], _, _ => []
  | c :: cs, r, n =>
    if full r then []
    else
      let res := ((process c).run r).eval h n
      let rest := entered cs res.1.2 res.2
      if size r < size res.1.2 then ⟨c, r⟩ :: rest else rest

/-- A property of the entries and the state that each candidate keeps, whether it is entered or not. -/
theorem forCandidates_entered {full : Radar → Bool} {process : Candidate → RadarReader Candidate} {size : Radar → Nat}
    {h : Nat → Handler Host} {P : List Entry → Radar → Prop} (ok : Entry → Prop)
    (step : ∀ es c r, P es r → TripleOn h (fun s => s = r) (process c) fun _ s =>
      (size r < size s → ok ⟨c, r⟩ → P (es ++ [⟨c, r⟩]) s) ∧ (¬size r < size s → P es s))
    {cs : List Candidate} {es : List Entry} {r : Radar} {n : Nat} (hr : P es r)
    (hok : ∀ e ∈ entered full process size h cs r n, ok e) :
    P (es ++ entered full process size h cs r n) (((forCandidates full process cs).run r).eval h n).1.2 := by
  induction cs generalizing es r n with
  | nil => simpa [entered, forCandidates] using hr
  | cons c cs ih =>
    rw [entered] at hok ⊢
    cases hfull : full r with
    | true => simpa [forCandidates, hfull] using hr
    | false =>
      obtain ⟨hin, hout⟩ := step es c r hr r rfl n
      simp only [hfull, Bool.false_eq_true, if_false] at hok ⊢
      have hrun : ((forCandidates full process (c :: cs)).run r).eval h n =
          let res := ((process c).run r).eval h n
          let rest := ((forCandidates full process cs).run res.1.2).eval h res.2
          ((res.1.1 :: rest.1.1, rest.1.2), rest.2) := by
        simp [forCandidates, hfull]
      rw [hrun]
      by_cases hgrow : size r < size (((process c).run r).eval h n).1.2
      · rw [if_pos hgrow] at hok ⊢
        have hnext := ih (hin hgrow (hok _ List.mem_cons_self)) fun e he => hok e (List.mem_cons_of_mem _ he)
        rwa [List.append_assoc, List.singleton_append] at hnext
      · rw [if_neg hgrow] at hok ⊢
        exact ih (hout hgrow) hok

end Entered

/-! ### The loops of a tick -/

section Loops
variable (ar : Arith) (input : TickInput) (head : TickHead)

def playersLoop : RadarReader Unit := do
  let r ← get
  let characters ← forCandidates Radar.fullPlayers (processPlayer ar head) r.characters
  modify fun r => { r with characters }

def vehiclesLoop : RadarReader Unit := do
  let r ← get
  let vehicles ← forCandidates Radar.fullVehicles (processVehicle ar head) r.vehicles
  modify fun r => { r with vehicles }

def itemsLoop : RadarReader Unit := do
  let r ← get
  let items ← forCandidates Radar.fullItems (processItem ar head) r.items
  modify fun r => { r with items }

theorem processCandidates_eq : processCandidates ar head =
    playersLoop ar head >>= fun _ => vehiclesLoop ar head >>= fun _ => itemsLoop ar head := by
  simp [processCandidates, playersLoop, vehiclesLoop, itemsLoop]

/-- The players that a tick from `r` enters. -/
def playersEntered (r : Radar) : List Entry :=
  let start := ((radarTickStart ar input).run r).eval input.host 0
  match start.1.1 with
  | none => []
  | some head =>
    entered Radar.fullPlayers (processPlayer ar head) (fun r => r.frame.players.length) input.host
      start.1.2.characters start.1.2 start.2

/-- The items that a tick from `r` enters. -/
def itemsEntered (r : Radar) : List Entry :=
  let start := ((radarTickStart ar input).run r).eval input.host 0
  match start.1.1 with
  | none => []
  | some head =>
    let res := ((playersLoop ar head >>= fun _ => vehiclesLoop ar head).run start.1.2).eval input.host start.2
    entered Radar.fullItems (processItem ar head) (fun r => r.frame.items.length) input.host res.1.2.items res.1.2 res.2

end Loops

/-! ### The data of the actors -/

structure PlayerData where
  team : UInt32
  bot : UInt8
  name : Str

structure ItemData where
  itemId : Int
  name : Str
  category : UInt8

/-- The data of the actors that a statement is about. -/
structure Facts where
  players : UInt64 → Option PlayerData
  items : UInt64 → Option ItemData

/-- The actors whose data can be read, each from some tick on. -/
structure Seen where
  players : UInt64 → Prop
  items : UInt64 → Prop

/-- Team, bot flag and name as the uncached branch of the loop over the players computes them. -/
def freshPlayer (localTeam : UInt32) (other : UInt64) : Read (UInt32 × UInt8 × Str) := do
  let st ← playerState other
  let read ← readPlayerMeta localTeam st
  pure (read.1, clearTeammate localTeam read.1 read.2.1, read.2.2)

/-- Id, label and category as the uncached branch of the loop over the items computes them. -/
def freshItem (iactor : UInt64) : RadarReader (Int × Str × UInt8) := do
  let itemId ← readItemId iactor
  let label ← readItemMeta iactor itemId
  pure (itemId, label.1, label.2)

def CarriesPlayer (p : RadarPlayer) (info : UInt32 × UInt8 × Str) : Prop :=
  p.teamId = info.1 ∧ p.isBot = info.2.1 ∧ p.name = name32 info.2.2

def CarriesItem (i : RadarItem) (info : Int × Str × UInt8) : Prop :=
  i.itemId = info.1 ∧ i.name = name32 info.2.1 ∧ i.category = info.2.2

def readName (st : UInt64) : Read (Option Str) := do
  match ← readFstring (st + 0x4b8) 32 with
  | some name => pure (some name)
  | none => readFstring (st + 0x13e0) 32

section Known
variable (h : Nat → Handler Host)

/-- The player state `st` can be read, at any time of the tick. -/
structure StateKnown (st : UInt64) (d : PlayerData) : Prop where
  state : st ≠ 0
  team : ∀ n, ∃ b, ((rmRead (st + 0x700) 4).eval h n).1 = some b ∧ le32 b 0 = d.team
  bot : ∀ n, ∃ b, ((rmRead (st + 0x4dc) 1).eval h n).1 = some b ∧ (if b 0 &&& 0x04 ≠ 0 then 1 else 0) = d.bot
  name : ∀ n, ((readName st).eval h n).1 = some d.name

def PlayerKnown (actor : UInt64) (d : PlayerData) : Prop :=
  ∃ st, (∀ n, ((playerState actor).eval h n).1 = st) ∧ StateKnown h st d

/-- The data of an item can be read, at any time while the reflection context is `reflection`. -/
structure ItemKnown (reflection : Option Ue4rCtx) (actor : UInt64) (d : ItemData) : Prop where
  itemId : ∀ n, ((readItemId actor).eval h n).1 = d.itemId
  label : ∀ s : Radar, s.reflection = reflection → ∀ n,
    (((readItemMeta actor d.itemId).run s).eval h n).1.1 = (d.name, d.category)

end Known

section Fresh
variable {h : Nat → Handler Host}

theorem eval_readU32 (addr : UInt64) (default : UInt32) (n : Nat) :
    ((readU32 addr default).eval h n).1 = (((rmRead addr 4).eval h n).1).elim default fun b => le32 b 0 := by
  rw [readU32, eval_bind]
  cases ((rmRead addr 4).eval h n).1 <;> rfl

theorem eval_readU8 (addr : UInt64) (default : UInt8) (n : Nat) :
    ((readU8 addr default).eval h n).1 = (((rmRead addr 1).eval h n).1).elim default fun b => b 0 := by
  rw [readU8, eval_bind]
  cases ((rmRead addr 1).eval h n).1 <;> rfl

theorem eval_readPlayerName {st : UInt64} {isBot : UInt8} {name : Str} {n : Nat}
    (hname : ((readName st).eval h n).1 = some name) : ((readPlayerName st isBot).eval h n).1 = name := by
  rw [readName, eval_bind] at hname
  rw [readPlayerName, eval_bind]
  cases hfirst : ((readFstring (st + 0x4b8) 32).eval h n).1 with
  | some first =>
    rw [hfirst] at hname
    exact Option.some.inj hname
  | none =>
    rw [hfirst] at hname
    dsimp only at hname ⊢
    rw [eval_bind, hname]
    rfl

theorem clearTeammate_twice (localTeam teamId : UInt32) (isBot : UInt8) :
    clearTeammate localTeam teamId (clearTeammate localTeam teamId isBot) = clearTeammate localTeam teamId isBot := by
  unfold clearTeammate
  split <;> rfl

theorem eval_readPlayerMeta {st : UInt64} {d : PlayerData} (hst : StateKnown h st d) (localTeam : UInt32) (n : Nat) :
    ((readPlayerMeta localTeam st).eval h n).1 = (d.team, clearTeammate localTeam d.team d.bot, d.name) := by
  rw [readPlayerMeta, if_pos hst.state]
  simp only [eval_bind, eval_pure, eval_readU32, eval_readU8]
  obtain ⟨b, hb, hteam⟩ := hst.team n
  obtain ⟨c, hc, hbot⟩ := hst.bot ((readU32 (st + 0x700) 0).eval h n).2
  rw [hb, hc]
  simp only [Option.elim_some, hteam, eval_readPlayerName (hst.name _)]
  exact congrArg (fun bot => (d.team, clearTeammate localTeam d.team bot, d.name)) hbot

theorem eval_freshPlayer {actor : UInt64} {d : PlayerData} (hknown : PlayerKnown h actor d)
    (localTeam : UInt32) (n : Nat) :
    ((freshPlayer localTeam actor).eval h n).1 = (d.team, clearTeammate localTeam d.team d.bot, d.name) := by
  obtain ⟨st, hst, hstate⟩ := hknown
  simp only [freshPlayer, eval_bind, eval_pure, hst, eval_readPlayerMeta hstate, clearTeammate_twice]

theorem eval_freshItem {actor : UInt64} {d : ItemData} {s : Radar} (hknown : ItemKnown h s.reflection actor d)
    (n : Nat) :
    (((freshItem actor).run s).eval h n).1.1 = (d.itemId, d.name, d.category) := by
  have hrun : (freshItem actor).run s = readItemId actor >>= fun itemId =>
      (readItemMeta actor itemId).run s >>= fun res => pure ((itemId, res.1.1, res.1.2), res.2) := by
    simp [freshItem]
  rw [hrun]
  simp only [eval_bind, eval_pure, hknown.itemId, hknown.label s rfl]

end Fresh

/-! ### Runs -/

/-- In a tick from `r` the data of the actors in `seen'` can be read and are those of `facts`, and so they stay. -/
structure Constant (facts : Facts) (ar : Arith) (input : TickInput) (r : Radar) (seen seen' : Seen) : Prop where
  grow : (∀ a, seen.players a → seen'.players a) ∧ ∀ a, seen.items a → seen'.items a
  players : ∀ a, seen'.players a → ∃ d, facts.players a = some d ∧ PlayerKnown input.host a d
  unseen : ∀ a, facts.players a ≠ none → ¬seen'.players a → ∀ d, ¬PlayerKnown input.host a d
  items : ∀ e ∈ itemsEntered ar input r, seen'.items e.actor →
    ∃ d, facts.items e.actor = some d ∧ ItemKnown input.host e.before.reflection e.actor d

/-- The runs of `radar_init` and `radar_tick` in which the data of the actors are constant from the first tick on in
    which they can be read. `ok` is about every tick. -/
inductive Run (facts : Facts) (ar : Arith) (ok : TickInput → Radar → Seen → Prop) : Seen → Radar → Prop where
  | init (r : Radar) (imageBase aslrSlide : UInt64) (mapped : Bool) :
    Run facts ar ok ⟨fun _ => False, fun _ => False⟩ (radarInit imageBase aslrSlide mapped r)
  | tick {seen seen' : Seen} {r : Radar} (h : Run facts ar ok seen r) (input : TickInput)
    (hconst : Constant facts ar input r seen seen') (hok : ok input r seen') : Run facts ar ok seen' (r.step ar input)

def onTeam (localTeam team : UInt32) : Prop := localTeam ≠ 0 ∧ team = localTeam

/-- No fallback is stored for an actor whose data can be read later, and a bot stays in or out of the local team;
    `mate` says which bots are in it. -/
structure Timely (facts : Facts) (mate : UInt64 → Prop) (ar : Arith) (input : TickInput) (r : Radar) (seen' : Seen) :
    Prop where
  players : ∀ e ∈ playersEntered ar input r, e.before.findPlayerMeta e.actor = none →
    facts.players e.actor ≠ none → seen'.players e.actor
  items : ∀ e ∈ itemsEntered ar input r, e.before.findItemMeta e.actor = none →
    facts.items e.actor ≠ none → seen'.items e.actor
  mates : ∀ e ∈ playersEntered ar input r, ∀ d, facts.players e.actor = some d → d.bot ≠ 0 → seen'.players e.actor →
    (onTeam e.before.frame.header.localTeam d.team ↔ mate e.actor)

def PlayersFresh (h : Nat → Handler Host) (seen : Seen) (localTeam : UInt32) : List Entry → List RadarPlayer → Prop :=
  List.Forall₂ fun e p => seen.players e.actor → ∀ n, CarriesPlayer p ((freshPlayer localTeam e.actor).eval h n).1

def ItemsFresh (h : Nat → Handler Host) (seen : Seen) : List Entry → List RadarItem → Prop :=
  List.Forall₂ fun e i => seen.items e.actor → ∀ n, CarriesItem i (((freshItem e.actor).run e.before).eval h n).1.1

/-- The frames that a tick from `r` gives to `publish`. -/
def newFrames (ar : Arith) (input : TickInput) (r : Radar) : List RadarFrame :=
  (r.step ar input).published.drop r.published.length

/-- The records that a tick from `r` publishes carry what the uncached branches would compute in that tick. -/
def Fresh (ar : Arith) (input : TickInput) (r : Radar) (seen' : Seen) : Prop :=
  ∀ f ∈ newFrames ar input r,
    PlayersFresh input.host seen' f.header.localTeam (playersEntered ar input r) f.players ∧
      ItemsFresh input.host seen' (itemsEntered ar input r) f.items

/-! ### What the caches hold -/

section Cached
variable (facts : Facts) (mate : UInt64 → Prop)

structure PlayerEntry (d : PlayerData) (m : PlayerMetaCache) : Prop where
  team : m.teamId = d.team
  bot : (mate m.actor → m.isBot = 0) ∧ (¬mate m.actor → m.isBot = d.bot)
  name : m.name = name32 d.name

structure ItemEntry (d : ItemData) (m : ItemMetaCache) : Prop where
  itemId : m.itemId = d.itemId
  name : m.name = name32 d.name
  category : m.category = d.category

/-- Every entry of an actor of `facts` holds its data. -/
structure Cached (r : Radar) : Prop where
  players : ∀ m ∈ r.gPlayerMeta, ∀ d, facts.players m.actor = some d → PlayerEntry mate d m
  items : ∀ m ∈ r.gItemMeta, ∀ d, facts.items m.actor = some d → ItemEntry d m

theorem Cached.of_same {facts : Facts} {mate : UInt64 → Prop} {r s : Radar} (h : Cached facts mate r)
    (hplayers : s.gPlayerMeta = r.gPlayerMeta) (hitems : s.gItemMeta = r.gItemMeta) : Cached facts mate s :=
  ⟨hplayers ▸ h.players, hitems ▸ h.items⟩

end Cached

/-! ### Up to the first loop -/

section Start
variable {facts : Facts} {mate : UInt64 → Prop} {pub : List RadarFrame}

/-- In a tick up to its first loop, after the frames `pub`. -/
structure Starting (facts : Facts) (mate : UInt64 → Prop) (pub : List RadarFrame) (r : Radar) : Prop where
  cached : Cached facts mate r
  players : r.frame.players = []
  items : r.frame.items = []
  published : r.published = pub

theorem Starting.of_same {r s : Radar} (h : Starting facts mate pub r) (hplayers : s.gPlayerMeta = r.gPlayerMeta)
    (hitems : s.gItemMeta = r.gItemMeta) (hframe : s.frame.players = r.frame.players ∧ s.frame.items = r.frame.items)
    (hpublished : s.published = r.published) : Starting facts mate pub s :=
  ⟨h.cached.of_same hplayers hitems, hframe.1.trans h.players, hframe.2.trans h.items, hpublished.trans h.published⟩

theorem Starting.enterWorld {r : Radar} (h : Starting facts mate pub r) (w : UInt64) :
    Starting facts mate pub (r.enterWorld w) := by
  rw [Radar.enterWorld]
  split
  · exact ⟨⟨by simp, by simp⟩, h.players, h.items, h.published⟩
  · exact h.of_same rfl rfl ⟨rfl, rfl⟩ rfl

theorem radarTickStart_starting (ar : Arith) (input : TickInput) :
    Triple (fun r => Cached facts mate r ∧ r.published = pub) (radarTickStart ar input)
      fun _ => Starting facts mate pub := by
  refine Triple.bind (R := fun _ => Starting facts mate pub) (radarTickHead_triple (S := Starting facts mate pub)
    (R := Starting facts mate pub) (fun r hr => ⟨hr.1.of_same rfl rfl, rfl, rfl, hr.2⟩)
      (findWorld_keeps ?_ ?_ ?_ ?_ ?_ ar input)
    (fun r hr => hr) (fun _ r _ hr => hr) (fun r f hr => hr.of_same rfl rfl ⟨rfl, rfl⟩ rfl) ?_ fun _ r hr => hr)
    fun head => ?_
  · exact fun r ctx hr => hr.of_same rfl rfl ⟨rfl, rfl⟩ rfl
  · exact fun r localPlayer world hr => hr.of_same rfl rfl ⟨rfl, rfl⟩ rfl
  · exact fun r cursor hr => hr.of_same rfl rfl ⟨rfl, rfl⟩ rfl
  · exact fun r lookup hr => hr.of_same rfl rfl ⟨rfl, rfl⟩ rfl
  · -- Entering a world empties the caches, so nothing false is left in them.
    exact fun r w hr => hr.enterWorld w
  · intro r t hr
    rw [Radar.setLocalTeam]
    split
    · exact hr.of_same rfl rfl ⟨rfl, rfl⟩ rfl
    · exact hr
  · cases head with
    | none => exact Triple.pure fun s hs => hs
    | some head =>
      refine Triple.bind (R := fun _ => Starting facts mate pub) (Keeps.modify fun r hr => ?_) fun _ =>
        Triple.bind (R := fun _ => Starting facts mate pub) (scanWhenDue_keeps ?_ ?_ ?_ ?_ ar input ?_) fun _ =>
          Triple.pure fun s hs => hs
      · rw [Radar.teamFallback]
        split
        · exact hr.of_same rfl rfl ⟨rfl, rfl⟩ rfl
        · exact hr
      · exact fun r ctx hr => hr.of_same rfl rfl ⟨rfl, rfl⟩ rfl
      · exact fun r e hr _ => hr.of_same rfl rfl ⟨rfl, rfl⟩ rfl
      · intro r cls type name hr
        rw [Radar.addClass]
        split
        · exact hr.of_same rfl rfl ⟨rfl, rfl⟩ rfl
        · exact hr
      · exact fun r s hr => hr.of_same rfl rfl ⟨rfl, rfl⟩ rfl
      · exact fun r t hr => hr.of_same rfl rfl ⟨rfl, rfl⟩ rfl

end Start

/-! ### The loop over the players -/

/-- The rule of the bots comes to the same before and after the cache, as long as a bot stays in or out of the team. -/
theorem bot_iff {localTeam team : UInt32} {bot isBot : UInt8} {mate : Prop}
    (h : bot ≠ 0 → (onTeam localTeam team ↔ mate)) :
    (mate → isBot = 0) ∧ (¬mate → isBot = bot) ↔ isBot = clearTeammate localTeam team bot := by
  unfold clearTeammate
  by_cases hbot : bot = 0
  · subst hbot
    rw [ite_self]
    refine ⟨fun hm => ?_, fun hzero => ⟨fun _ => hzero, fun _ => hzero⟩⟩
    by_cases hmate : mate
    · exact hm.1 hmate
    · exact hm.2 hmate
  · have hteam := h hbot
    by_cases hon : localTeam ≠ 0 ∧ team = localTeam
    · have hmate : mate := hteam.mp hon
      rw [if_pos hon]
      exact ⟨fun hm => hm.1 hmate, fun hzero => ⟨fun _ => hzero, fun hnot => absurd hmate hnot⟩⟩
    · have hmate : ¬mate := fun hmate => hon (hteam.mpr hmate)
      rw [if_neg hon]
      exact ⟨fun hm => hm.2 hmate, fun hsame => ⟨fun hm => absurd hm hmate, fun _ => hsame⟩⟩

theorem name32_name32 (s : Str) : name32 (name32 s) = name32 s := by simp [name32, List.take_take]

/-- What the loops do first: a candidate that is passed over or dropped leaves what `Q` says. -/
theorem placed_on {h : Nat → Handler Host} {c : Candidate} {r : Radar} {Q : Radar → Prop} {skip : Prop} [Decidable skip]
    {far : Rvec3 → Bool} {body : Rvec3 → RadarReader Candidate} (hskip : Q r) (hstay : Q (r.use c.recordedIn))
    (hbody : ∀ pos, TripleOn h (fun s => s = r.use c.recordedIn) (body pos) fun _ => Q) :
    TripleOn h (fun s => s = r)
      (if skip then pure c
      else do
        modify (Radar.use c.recordedIn)
        match ← position c.actor with
        | none => pure c.drop
        | some pos => if far pos then pure c else body pos : RadarReader Candidate) fun _ => Q := by
  have stays : ∀ c', TripleOn h (fun s => s = r.use c.recordedIn) (pure c' : RadarReader Candidate) fun _ => Q :=
    fun c' => (Triple.pure fun s hs => hs.symm ▸ hstay).on h
  refine TripleOn.ite (fun _ => (Triple.pure fun s hs => hs.symm ▸ hskip).on h) fun _ => ?_
  refine TripleOn.bind (R := fun _ s => s = r.use c.recordedIn)
    ((Triple.modify fun s hs => by rw [hs]).on h) fun _ => ?_
  refine TripleOn.bind ((Keeps.lift _).on h) fun pos => ?_
  split
  · exact stays _
  · exact TripleOn.ite (fun _ => stays _) fun _ => hbody _

section Players
variable {facts : Facts} {mate : UInt64 → Prop} {h : Nat → Handler Host} {seen : Seen}

/-- The condition of `Timely` for the actor `a` in the state `r`. -/
structure TimelyPlayer (facts : Facts) (mate : UInt64 → Prop) (seen : Seen) (a : UInt64) (r : Radar) : Prop where
  stored : r.findPlayerMeta a = none → facts.players a ≠ none → seen.players a
  mates : ∀ d, facts.players a = some d → d.bot ≠ 0 → seen.players a → (onTeam r.frame.header.localTeam d.team ↔ mate a)

/-- What was found or read for the actor is what `facts` say. -/
def InfoKnown (facts : Facts) (seen : Seen) (a : UInt64) (localTeam : UInt32) (i : UInt32 × UInt8 × Str) : Prop :=
  ∀ d, facts.players a = some d → seen.players a →
    i.1 = d.team ∧ i.2.1 = clearTeammate localTeam d.team d.bot ∧ name32 i.2.2 = name32 d.name

theorem Cached.storePlayerMeta {r : Radar} (hr : Cached facts mate r) {a : UInt64} {i : UInt32 × UInt8 × Str}
    (hinfo : InfoKnown facts seen a r.frame.header.localTeam i) (htimely : TimelyPlayer facts mate seen a r)
    (hnone : r.findPlayerMeta a = none) : Cached facts mate (r.storePlayerMeta a i.1 i.2.1 i.2.2) := by
  refine ⟨fun m hm d hd => ?_, hr.items⟩
  obtain rfl | hm := mem_storeMeta hm
  · have hseen := htimely.stored hnone (by simp [hd])
    obtain ⟨hteam, hbot, hname⟩ := hinfo d hd hseen
    exact ⟨hteam, (bot_iff fun hne => htimely.mates d hd hne hseen).mpr hbot, hname⟩
  · exact hr.players m hm d hd

theorem playerMeta_info {a st : UInt64} {r : Radar} (hr : Cached facts mate r)
    (hst : ∀ d, facts.players a = some d → seen.players a → StateKnown h st d) :
    TripleOn h (fun s => s = r) (playerMeta a st) fun i s =>
      s.frame = r.frame ∧ s.published = r.published ∧
        (TimelyPlayer facts mate seen a r →
          Cached facts mate s ∧ InfoKnown facts seen a r.frame.header.localTeam i) := by
  refine TripleOn.bindGet fun r' hr' => ?_
  subst hr'
  split
  · rename_i m hfind
    obtain ⟨hm, hactor⟩ := of_findMeta hfind
    refine Triple.on (Triple.bind (R := fun _ s => s = r'.use m.recordedIn) (Triple.modify fun s hs => by rw [hs.2])
      fun _ => Triple.pure fun s hs => ?_) h
    subst hs
    refine ⟨rfl, rfl, fun htimely => ⟨hr.of_same rfl rfl, fun d hd hseen => ?_⟩⟩
    obtain ⟨hteam, hbot, hname⟩ := hr.players m hm d (hactor.symm ▸ hd)
    rw [hactor] at hbot
    exact ⟨hteam, (bot_iff fun hne => htimely.mates d hd hne hseen).mp hbot, hname ▸ name32_name32 _⟩
  · rename_i hnone
    refine TripleOn.bind (R := fun read s => s = r' ∧ InfoKnown facts seen a r'.frame.header.localTeam
      (read.1, clearTeammate r'.frame.header.localTeam read.1 read.2.1, read.2.2)) (TripleOn.lift _ fun n s hs => ?_)
      fun read => ?_
    · refine ⟨hs.2, fun d hd hseen => ?_⟩
      rw [eval_readPlayerMeta (hst d hd hseen)]
      exact ⟨rfl, clearTeammate_twice _ _ _, rfl⟩
    · refine Triple.on (Triple.bind (R := fun _ s => s = r'.storePlayerMeta a read.1 _ read.2.2 ∧
        InfoKnown facts seen a r'.frame.header.localTeam
          (read.1, clearTeammate r'.frame.header.localTeam read.1 read.2.1, read.2.2))
        (Triple.modify fun s hs => ⟨by rw [hs.1], hs.2⟩) fun _ => Triple.pure fun s hs => ?_) h
      obtain ⟨rfl, hinfo⟩ := hs
      exact ⟨rfl, rfl, fun htimely => ⟨hr.storePlayerMeta hinfo htimely hnone, hinfo⟩⟩

/-- The candidate `c` has left the frame of `r` as it was, or has added one record to it. -/
def GrowsPlayer (facts : Facts) (mate : UInt64 → Prop) (seen : Seen) (c : Candidate) (r s : Radar) : Prop :=
  s.published = r.published ∧ (s.frame = r.frame ∧ Cached facts mate s ∨
    ∃ p, s.frame = { r.frame with players := r.frame.players ++ [p] } ∧
      (TimelyPlayer facts mate seen c.actor r → Cached facts mate s ∧
        ∀ d, facts.players c.actor = some d → seen.players c.actor →
          CarriesPlayer p (d.team, clearTeammate r.frame.header.localTeam d.team d.bot, d.name)))

theorem processPlayer_grows {ar : Arith} {head : TickHead} {c : Candidate} {r : Radar} (hr : Cached facts mate r)
    (hknown : ∀ a, seen.players a → ∃ d, facts.players a = some d ∧ PlayerKnown h a d) :
    TripleOn h (fun s => s = r) (processPlayer ar head c) fun _ => GrowsPlayer facts mate seen c r := by
  have hr' : Cached facts mate (r.use c.recordedIn) := hr.of_same rfl rfl
  have hstay : GrowsPlayer facts mate seen c r (r.use c.recordedIn) := ⟨rfl, Or.inl ⟨rfl, hr'⟩⟩
  have stays : ∀ c', TripleOn h (fun s => s = r.use c.recordedIn) (pure c' : RadarReader Candidate)
      fun _ => GrowsPlayer facts mate seen c r := fun c' =>
    (Triple.pure fun s hs => hs.symm ▸ hstay).on h
  refine placed_on ⟨rfl, Or.inl ⟨rfl, hr⟩⟩ hstay fun pos => ?_
  refine TripleOn.bind ((Keeps.lift _).on h) fun bDead => TripleOn.ite (fun _ => stays _) fun _ => ?_
  -- The player state is the one whose data are known.
  refine TripleOn.bind (R := fun st s => s = r.use c.recordedIn ∧
    ∀ d, facts.players c.actor = some d → seen.players c.actor → StateKnown h st d) (TripleOn.lift _ fun n s hs => ?_)
    fun st => ?_
  · refine ⟨hs, fun d hd hseen => ?_⟩
    obtain ⟨d', hd', st', hst, hstate⟩ := hknown c.actor hseen
    show StateKnown h ((playerState c.actor).eval h n).1 d
    rw [hst n]
    rwa [Option.some.inj (hd.symm.trans hd')]
  refine TripleOn.given fun hst => TripleOn.bind ((Keeps.lift _).on h) fun health => ?_
  refine TripleOn.bind ((Keeps.lift _).on h) fun healthStatus => TripleOn.ite (fun _ => stays _) fun _ => ?_
  refine TripleOn.bind ((Keeps.lift _).on h) fun yaw => TripleOn.bind (playerMeta_info hr' hst) fun i => ?_
  refine (Triple.bind (R := fun _ => GrowsPlayer facts mate seen c r) (Triple.modify fun s hs => ?_) fun _ =>
    Triple.pure fun s hs => hs).on h
  obtain ⟨hframe, hpublished, hinfo⟩ := hs
  refine ⟨hpublished, Or.inr ⟨playerRecord ar pos health healthStatus yaw i head.cameraPos, ?_, fun htimely => ?_⟩⟩
  · rw [Radar.pushPlayer, hframe]
    rfl
  · obtain ⟨hcached, hknown⟩ := hinfo ⟨htimely.stored, htimely.mates⟩
    exact ⟨hcached.of_same rfl rfl, hknown⟩

end Players

/-! ### The loop over the items -/

section Items
variable {facts : Facts} {mate : UInt64 → Prop} {h : Nat → Handler Host} {seen : Seen}

/-- The conditions of `Timely` and `Constant` for the actor `a` in the state `r`. -/
structure TimelyItem (facts : Facts) (h : Nat → Handler Host) (seen : Seen) (a : UInt64) (r : Radar) : Prop where
  stored : r.findItemMeta a = none → facts.items a ≠ none → seen.items a
  known : ∀ d, facts.items a = some d → seen.items a → ItemKnown h r.reflection a d

/-- What was found or read for the item is what `facts` say. -/
def LabelKnown (facts : Facts) (seen : Seen) (a : UInt64) (i : Int × Str × UInt8) : Prop :=
  ∀ d, facts.items a = some d → seen.items a → i.1 = d.itemId ∧ name32 i.2.1 = name32 d.name ∧ i.2.2 = d.category

theorem Cached.storeItemMeta {r : Radar} (hr : Cached facts mate r) {a : UInt64} {i : Int × Str × UInt8}
    (hlabel : LabelKnown facts seen a i) (hstored : facts.items a ≠ none → seen.items a) :
    Cached facts mate (r.storeItemMeta a i.1 i.2.2 i.2.1) := by
  refine ⟨hr.players, fun m hm d hd => ?_⟩
  obtain rfl | hm := mem_storeMeta hm
  · obtain ⟨hid, hname, hcategory⟩ := hlabel d hd (hstored (by simp [hd]))
    exact ⟨hid, hname, hcategory⟩
  · exact hr.items m hm d hd

theorem itemMeta_info (seen : Seen) {a : UInt64} {r : Radar} (hr : Cached facts mate r) :
    TripleOn h (fun s => s = r) (itemMeta a) fun i s =>
      s.frame = r.frame ∧ s.published = r.published ∧
        (TimelyItem facts h seen a r → Cached facts mate s ∧ LabelKnown facts seen a (i.1, i.2.2)) := by
  refine TripleOn.bindGet fun r' hr' => ?_
  subst hr'
  split
  · -- The cache has an entry, which is replayed.
    rename_i m hfind
    obtain ⟨hm, hactor⟩ := of_findMeta hfind
    refine Triple.on (Triple.bind (R := fun _ s => s = r'.use m.recordedIn) (Triple.modify fun s hs => by rw [hs.2])
      fun _ => Triple.bind (Keeps.lift _) fun count => Triple.pure fun s hs => ?_) h
    subst hs
    refine ⟨rfl, rfl, fun _ => ⟨hr.of_same rfl rfl, fun d hd _ => ?_⟩⟩
    obtain ⟨hid, hname, hcategory⟩ := hr.items m hm d (hactor.symm ▸ hd)
    exact ⟨hid, hname ▸ name32_name32 _, hcategory⟩
  · -- The data are read now, and stored.
    rename_i hnone
    refine TripleOn.bind (R := fun itemId s => s = r' ∧ (TimelyItem facts h seen a r' → ∀ d, facts.items a = some d →
      seen.items a → itemId = d.itemId)) (TripleOn.lift _ fun n s hs => ⟨hs.2, fun htimely d hd hseen =>
        (htimely.known d hd hseen).itemId n⟩) fun itemId => TripleOn.given fun hid => ?_
    refine TripleOn.bind ((Keeps.lift _).on h) fun count => ?_
    refine TripleOn.bind (R := fun label s => (s.frame = r'.frame ∧ s.published = r'.published ∧
      s.gPlayerMeta = r'.gPlayerMeta ∧ s.gItemMeta = r'.gItemMeta) ∧
      (TimelyItem facts h seen a r' → LabelKnown facts seen a (itemId, label))) (fun s hs n => ⟨?_, ?_⟩) fun label => ?_
    · exact readItemMeta_keeps (P := fun s => s.frame = r'.frame ∧ s.published = r'.published ∧
        s.gPlayerMeta = r'.gPlayerMeta ∧ s.gItemMeta = r'.gItemMeta) (fun s ctx hs => hs) a itemId s
        (hs ▸ ⟨rfl, rfl, rfl, rfl⟩) h n
    · intro htimely d hd hseen
      rw [hid htimely d hd hseen, (htimely.known d hd hseen).label s (hs ▸ rfl) n]
      exact ⟨rfl, rfl, rfl⟩
    · refine (Triple.bind (R := fun _ s => s.frame = r'.frame ∧ s.published = r'.published ∧
        (TimelyItem facts h seen a r' → Cached facts mate s ∧ LabelKnown facts seen a (itemId, label)))
        (Triple.modify fun s hs => ?_) fun _ => Triple.pure fun s hs => hs).on h
      obtain ⟨⟨hframe, hpublished, hplayers, hitems⟩, hlabel⟩ := hs
      refine ⟨hframe, hpublished, fun htimely => ⟨?_, hlabel htimely⟩⟩
      exact (hr.of_same hplayers hitems).storeItemMeta (hlabel htimely) (htimely.stored hnone)

/-- The candidate `c` has left the frame of `r` as it was, or has added one record to it. -/
def GrowsItem (facts : Facts) (mate : UInt64 → Prop) (h : Nat → Handler Host) (seen : Seen) (c : Candidate)
    (r s : Radar) : Prop :=
  s.published = r.published ∧ (s.frame = r.frame ∧ Cached facts mate s ∨
    ∃ i, s.frame = { r.frame with items := r.frame.items ++ [i] } ∧
      (TimelyItem facts h seen c.actor r → Cached facts mate s ∧
        ∀ d, facts.items c.actor = some d → seen.items c.actor → CarriesItem i (d.itemId, d.name, d.category)))

theorem processItem_grows (seen : Seen) {ar : Arith} {head : TickHead} {c : Candidate} {r : Radar}
    (hr : Cached facts mate r) :
    TripleOn h (fun s => s = r) (processItem ar head c) fun _ => GrowsItem facts mate h seen c r := by
  have hr' : Cached facts mate (r.use c.recordedIn) := hr.of_same rfl rfl
  refine placed_on ⟨rfl, Or.inl ⟨rfl, hr⟩⟩ ⟨rfl, Or.inl ⟨rfl, hr'⟩⟩ fun pos => ?_
  refine TripleOn.bind (itemMeta_info seen hr') fun i => ?_
  refine (Triple.bind (R := fun _ => GrowsItem facts mate h seen c r) (Triple.modify fun s hs => ?_) fun _ =>
    Triple.pure fun s hs => hs).on h
  obtain ⟨hframe, hpublished, hinfo⟩ := hs
  let item : RadarItem :=
    { pos, distance := distanceTo ar pos head.cameraPos, itemId := i.1, count := i.2.1, name := name32 i.2.2.1
      category := i.2.2.2 }
  refine ⟨hpublished, Or.inr ⟨item, ?_, fun htimely => ?_⟩⟩
  · rw [Radar.pushItem, hframe]
    rfl
  · obtain ⟨hcached, hknown⟩ := hinfo ⟨htimely.stored, htimely.known⟩
    exact ⟨hcached.of_same rfl rfl, hknown⟩

end Items

/-! ### The tick -/

section Tick
variable {facts : Facts} {mate : UInt64 → Prop} {h : Nat → Handler Host} {seen : Seen} {team : UInt32}
  {pub : List RadarFrame}

/-- In the loops of a tick, when the players `es` and the items `is` have been entered. -/
structure Records (facts : Facts) (mate : UInt64 → Prop) (h : Nat → Handler Host) (seen : Seen) (team : UInt32)
    (pub : List RadarFrame) (es is : List Entry) (r : Radar) : Prop where
  cached : Cached facts mate r
  localTeam : r.frame.header.localTeam = team
  players : PlayersFresh h seen team es r.frame.players
  items : ItemsFresh h seen is r.frame.items
  published : r.published = pub

theorem Records.of_frame {es is : List Entry} {r s : Radar} (hr : Records facts mate h seen team pub es is r)
    (hcached : Cached facts mate s) (hframe : s.frame = r.frame) (hpublished : s.published = r.published) :
    Records facts mate h seen team pub es is s :=
  ⟨hcached, hframe ▸ hr.localTeam, hframe ▸ hr.players, hframe ▸ hr.items, hpublished.trans hr.published⟩

theorem Records.of_same {es is : List Entry} {r s : Radar} (hr : Records facts mate h seen team pub es is r)
    (hplayers : s.gPlayerMeta = r.gPlayerMeta) (hitems : s.gItemMeta = r.gItemMeta) (hframe : s.frame = r.frame)
    (hpublished : s.published = r.published) : Records facts mate h seen team pub es is s :=
  hr.of_frame (hr.cached.of_same hplayers hitems) hframe hpublished

/-- A candidate that adds a record to the frame is entered. -/
theorem processPlayer_records {ar : Arith} {head : TickHead} {es : List Entry} {c : Candidate} {s : Radar}
    (hknown : ∀ a, seen.players a → ∃ d, facts.players a = some d ∧ PlayerKnown h a d)
    (hs : Records facts mate h seen team pub es [] s) :
    TripleOn h (fun t => t = s) (processPlayer ar head c) fun _ t =>
      (s.frame.players.length < t.frame.players.length → TimelyPlayer facts mate seen c.actor s →
        Records facts mate h seen team pub (es ++ [⟨c, s⟩]) [] t) ∧
      (¬s.frame.players.length < t.frame.players.length → Records facts mate h seen team pub es [] t) := by
  refine (processPlayer_grows hs.cached hknown).imp (fun _ ht => ht) fun _ t ht => ?_
  obtain ⟨hpublished, ⟨hframe, hcached⟩ | ⟨p, hframe, hp⟩⟩ := ht
  · rw [hframe]
    exact ⟨fun hlt => absurd hlt (Nat.lt_irrefl _), fun _ => hs.of_frame hcached hframe hpublished⟩
  refine ⟨fun _ htimely => ?_, fun hnot => absurd ?_ hnot⟩
  · obtain ⟨hcached, hcarries⟩ := hp htimely
    refine ⟨hcached, hframe ▸ hs.localTeam, ?_, hframe ▸ hs.items, hpublished.trans hs.published⟩
    rw [hframe]
    refine List.rel_append hs.players (.cons (fun hseen n => ?_) .nil)
    obtain ⟨d, hd, hplayer⟩ := hknown c.actor hseen
    have hc := hcarries d hd hseen
    rw [hs.localTeam] at hc
    rwa [show Entry.actor ⟨c, s⟩ = c.actor from rfl, eval_freshPlayer hplayer]
  · rw [hframe]
    simp

theorem processItem_records {ar : Arith} {head : TickHead} {es is : List Entry} {c : Candidate} {s : Radar}
    (hs : Records facts mate h seen team pub es is s) :
    TripleOn h (fun t => t = s) (processItem ar head c) fun _ t =>
      (s.frame.items.length < t.frame.items.length →
        TimelyItem facts h seen c.actor s ∧ (seen.items c.actor → facts.items c.actor ≠ none) →
        Records facts mate h seen team pub es (is ++ [⟨c, s⟩]) t) ∧
      (¬s.frame.items.length < t.frame.items.length → Records facts mate h seen team pub es is t) := by
  refine (processItem_grows seen hs.cached).imp (fun _ ht => ht) fun _ t ht => ?_
  obtain ⟨hpublished, ⟨hframe, hcached⟩ | ⟨i, hframe, hi⟩⟩ := ht
  · rw [hframe]
    exact ⟨fun hlt => absurd hlt (Nat.lt_irrefl _), fun _ => hs.of_frame hcached hframe hpublished⟩
  refine ⟨fun _ htimely => ?_, fun hnot => absurd ?_ hnot⟩
  · obtain ⟨hcached, hcarries⟩ := hi htimely.1
    refine ⟨hcached, hframe ▸ hs.localTeam, hframe ▸ hs.players, ?_, hpublished.trans hs.published⟩
    rw [hframe]
    refine List.rel_append hs.items (.cons (fun hseen n => ?_) .nil)
    obtain ⟨d, hd⟩ := Option.ne_none_iff_exists'.mp (htimely.2 hseen)
    have hknown := htimely.1.known d hd hseen
    rw [show Entry.actor ⟨c, s⟩ = c.actor from rfl, eval_freshItem hknown]
    exact hcarries d hd hseen
  · rw [hframe]
    simp

/-- The players of the frame after the loop over them. -/
theorem playersLoop_records (ar : Arith) (head : TickHead) {r : Radar} {n : Nat}
    (hknown : ∀ a, seen.players a → ∃ d, facts.players a = some d ∧ PlayerKnown h a d)
    (hr : Records facts mate h seen team pub [] [] r)
    (hok : ∀ e ∈ entered Radar.fullPlayers (processPlayer ar head) (fun r => r.frame.players.length) h r.characters r n,
      TimelyPlayer facts mate seen e.actor e.before) :
    Records facts mate h seen team pub
      (entered Radar.fullPlayers (processPlayer ar head) (fun r => r.frame.players.length) h r.characters r n) []
      (((playersLoop ar head).run r).eval h n).1.2 := by
  have hrun : (((playersLoop ar head).run r).eval h n).1.2 =
      { (((forCandidates Radar.fullPlayers (processPlayer ar head) r.characters).run r).eval h n).1.2 with
        characters :=
          (((forCandidates Radar.fullPlayers (processPlayer ar head) r.characters).run r).eval h n).1.1 } := by
    simp [playersLoop]
  rw [hrun]
  exact (forCandidates_entered (P := fun es s => Records facts mate h seen team pub es [] s)
    (fun e => TimelyPlayer facts mate seen e.actor e.before) (fun _ _ _ hs => processPlayer_records hknown hs) hr
    hok).of_same rfl rfl rfl rfl

theorem vehiclesLoop_records (ar : Arith) (head : TickHead) {es is : List Entry} :
    Keeps (Records facts mate h seen team pub es is) (vehiclesLoop ar head) := by
  refine loop_triple (fun r hr => hr) (fun r _ c _ => ?_) fun r s _ hs vs _ => hs.of_same rfl rfl rfl rfl
  exact processVehicle_triple (fun r hr => hr.of_same rfl rfl rfl rfl) (fun r ctx hr => hr.of_same rfl rfl rfl rfl)
    (fun r e hr _ => hr.of_same rfl rfl rfl rfl)
    fun r v hr => ⟨hr.cached.of_same rfl rfl, hr.localTeam, hr.players, hr.items, hr.published⟩

/-- The items of the frame after the loop over them. -/
theorem itemsLoop_records {ar : Arith} {head : TickHead} {es : List Entry} {r : Radar} {n : Nat}
    (hr : Records facts mate h seen team pub es [] r)
    (hok : ∀ e ∈ entered Radar.fullItems (processItem ar head) (fun r => r.frame.items.length) h r.items r n,
      TimelyItem facts h seen e.actor e.before ∧ (seen.items e.actor → facts.items e.actor ≠ none)) :
    Records facts mate h seen team pub es
      (entered Radar.fullItems (processItem ar head) (fun r => r.frame.items.length) h r.items r n)
      (((itemsLoop ar head).run r).eval h n).1.2 := by
  have hrun : (((itemsLoop ar head).run r).eval h n).1.2 =
      { (((forCandidates Radar.fullItems (processItem ar head) r.items).run r).eval h n).1.2 with
        items := (((forCandidates Radar.fullItems (processItem ar head) r.items).run r).eval h n).1.1 } := by
    simp [itemsLoop]
  rw [hrun]
  exact (forCandidates_entered (P := fun is s => Records facts mate h seen team pub es is s)
    (fun e => TimelyItem facts h seen e.actor e.before ∧ (seen.items e.actor → facts.items e.actor ≠ none))
    (fun _ _ _ hs => processItem_records hs) hr hok).of_same rfl rfl rfl rfl

/-- What is published, and what the next tick begins with. -/
structure Published (facts : Facts) (mate : UInt64 → Prop) (h : Nat → Handler Host) (seen : Seen)
    (pub : List RadarFrame) (es is : List Entry) (r : Radar) : Prop where
  cached : Cached facts mate r
  frames : ∀ f ∈ r.published.drop pub.length,
    PlayersFresh h seen f.header.localTeam es f.players ∧ ItemsFresh h seen is f.items

theorem Records.publish {es is : List Entry} {r : Radar} (hr : Records facts mate h seen team pub es is r)
    (status : UInt32) : Published facts mate h seen pub es is (r.publish status) := by
  refine ⟨hr.cached.of_same rfl rfl, fun f hf => ?_⟩
  rw [Radar.publish, Radar.mapHeader, hr.published, List.drop_left, List.mem_singleton] at hf
  subst hf
  exact ⟨hr.localTeam.symm ▸ hr.players, hr.items⟩

theorem Starting.records {r : Radar} (hr : Starting facts mate pub r) :
    Records facts mate h seen r.frame.header.localTeam pub [] [] r :=
  ⟨hr.cached, rfl, hr.players ▸ .nil, hr.items ▸ .nil, hr.published⟩

end Tick

section Step
variable {facts : Facts} {mate : UInt64 → Prop} {ar : Arith} {input : TickInput} {r : Radar} {seen seen' : Seen}

/-- A tick: up to its first loop, and the rest. -/
theorem step_eq (hshared : r.shared = true) : r.step ar input =
    (((radarTickRest ar (((radarTickStart ar input).run r).eval input.host 0).1.1).run
      (((radarTickStart ar input).run r).eval input.host 0).1.2).eval input.host
      (((radarTickStart ar input).run r).eval input.host 0).2).1.2 := by
  have tick : (radarTick ar input).run r = (radarTickStart ar input >>= radarTickRest ar).run r := by
    rw [radarTick]
    show (ite _ _ _ : RadarReader Unit).run r = _
    rw [if_pos hshared]
  rw [Radar.step, Radar.after, tick, StateT.run_bind, eval_bind]

theorem step_unmapped (hshared : ¬r.shared = true) : r.step ar input = r := by
  have tick : (radarTick ar input).run r = pure ((), r) := by
    rw [radarTick]
    show (ite _ _ _ : RadarReader Unit).run r = _
    rw [if_neg hshared]
    rfl
  rw [Radar.step, Radar.after, tick, eval_pure]

/-- The three loops of a tick, from their first state on. -/
theorem processCandidates_records {head : TickHead} {s : Radar} {n : Nat} (hcached : Cached facts mate r)
    (hconst : Constant facts ar input r seen seen') (htimely : Timely facts mate ar input r seen')
    (hstart : ((radarTickStart ar input).run r).eval input.host 0 = ((some head, s), n)) :
    Records facts mate input.host seen' s.frame.header.localTeam r.published (playersEntered ar input r)
      (itemsEntered ar input r) (((processCandidates ar head).run s).eval input.host n).1.2 := by
  have hplayers : playersEntered ar input r = entered Radar.fullPlayers (processPlayer ar head)
      (fun r => r.frame.players.length) input.host s.characters s n := by
    simp only [playersEntered, hstart]
  have hitems : itemsEntered ar input r =
      let res := ((playersLoop ar head >>= fun _ => vehiclesLoop ar head).run s).eval input.host n
      entered Radar.fullItems (processItem ar head) (fun r => r.frame.items.length) input.host res.1.2.items res.1.2
        res.2 := by
    simp only [itemsEntered, hstart]
  have hstarting : Starting facts mate r.published s := by
    have hrun := radarTickStart_starting ar input r ⟨hcached, rfl⟩ input.host 0
    rwa [hstart] at hrun
  have hfirst := playersLoop_records ar head (n := n) hconst.players (hstarting.records (h := input.host))
    fun e he => ⟨htimely.players e (hplayers ▸ he), htimely.mates e (hplayers ▸ he)⟩
  rw [← hplayers] at hfirst
  rw [StateT.run_bind, eval_bind] at hitems
  rw [processCandidates_eq, StateT.run_bind, eval_bind, StateT.run_bind, eval_bind]
  have hsecond := vehiclesLoop_records ar head _ hfirst input.host
    (((playersLoop ar head).run s).eval input.host n).2
  rw [hitems]
  refine itemsLoop_records hsecond fun e he => ?_
  have hentered : e ∈ itemsEntered ar input r := hitems ▸ he
  refine ⟨⟨htimely.items e hentered, fun d hd hseen => ?_⟩, fun hseen => ?_⟩
  · obtain ⟨d', hd', hknown⟩ := hconst.items e hentered hseen
    rwa [Option.some.inj (hd.symm.trans hd')]
  · obtain ⟨d, hd, -⟩ := hconst.items e hentered hseen
    rw [hd]
    exact Option.some_ne_none d

/-- A tick in which no fallback is stored that a later tick would not store. -/
theorem step_published (hcached : Cached facts mate r) (hconst : Constant facts ar input r seen seen')
    (htimely : Timely facts mate ar input r seen') :
    Published facts mate input.host seen' r.published (playersEntered ar input r) (itemsEntered ar input r)
      (r.step ar input) := by
  by_cases hshared : r.shared = true
  · rw [step_eq hshared]
    cases hstart : ((radarTickStart ar input).run r).eval input.host 0 with
    | mk res n =>
      obtain ⟨found, s⟩ := res
      cases found with
      | none =>
        have hstarting : Starting facts mate r.published s := by
          have hrun := radarTickStart_starting ar input r ⟨hcached, rfl⟩ input.host 0
          rwa [hstart] at hrun
        have hplayers : playersEntered ar input r = [] := by simp only [playersEntered, hstart]
        have hitems : itemsEntered ar input r = [] := by simp only [itemsEntered, hstart]
        rw [hplayers, hitems]
        exact hstarting.records.publish 1
      | some head =>
        have hloops := processCandidates_records hcached hconst htimely hstart
        have hrest : (radarTickRest ar (some head)).run s = (processCandidates ar head).run s >>= fun res =>
            pure ((), res.2.publish (if head.hasLocal ∨ res.2.frame.header.cameraValid then 2 else 3)) := rfl
        show Published _ _ _ _ _ _ _ (((radarTickRest ar (some head)).run s).eval input.host n).1.2
        rw [hrest, eval_bind]
        exact hloops.publish _
  · rw [step_unmapped hshared]
    refine ⟨hcached, fun f hf => ?_⟩
    rw [List.drop_length] at hf
    cases hf

/-- In a run in which every tick is `Timely`, the caches hold the data of the actors. -/
theorem Run.cached (h : Run facts ar (Timely facts mate ar) seen r) : Cached facts mate r := by
  induction h with
  | init r imageBase aslrSlide mapped =>
    have hnone : ∀ s : Radar, s.gPlayerMeta = [] → s.gItemMeta = [] → Cached facts mate s := by
      intro s hplayers hitems
      exact ⟨by simp [hplayers], by simp [hitems]⟩
    rw [radarInit]
    split
    · exact hnone _ rfl rfl
    · exact hnone _ rfl rfl
  | tick _ input hconst htimely ih => exact (step_published ih hconst htimely).cached

/-- When no tick of a run stores a fallback for an actor whose data can be read later, and no bot changes between the
    local team and another one, every record carries what a fresh reading would make. -/
theorem run_fresh (h : Run facts ar (Timely facts mate ar) seen r) (hconst : Constant facts ar input r seen seen')
    (htimely : Timely facts mate ar input r seen') : Fresh ar input r seen' :=
  (step_published h.cached hconst htimely).frames

end Step

section Squad
open Teammates

/-- The squad whose bot has a name. -/
def named : List (UInt64 × List UInt8) :=
  squad ++ [(0xb04b8, leBytes 8 0xd0000 ++ leBytes 4 3 ++ leBytes 4 3), (0xd0000, [0x42, 0, 0x6f, 0, 0, 0])]

/-- The squad whose bot has no player state yet. -/
def stateless : List (UInt64 × List UInt8) := named.filter fun s => s.1 ≠ 0xa2410

def bot : PlayerData := ⟨7, 1, lit "Bo"⟩

def botFacts : Facts := ⟨fun a => if a = 0xa0000 then some bot else none, fun _ => none⟩

def botSeen : Seen := ⟨fun a => a = 0xa0000, fun _ => False⟩

theorem botFacts_actor {a : UInt64} (h : botFacts.players a ≠ none) : a = 0xa0000 := by
  by_contra hne
  exact h (if_neg hne)

theorem playerKnown_named (now : F64) : PlayerKnown (tickAt named now).host 0xa0000 bot := by
  have readsTo : ∀ {β : Type} (p : Read (Option β)) (x : β), p.run (Memory.ofSegments named).host = some x →
      ∀ n, (p.eval (tickAt named now).host n).1 = some x := fun p x hx n => (eval_const n _ p).trans hx
  refine ⟨0xb0000, fun n => (eval_const n _ _).trans ?_, by decide, fun n => ?_, fun n => ?_, fun n => readsTo _ _ ?_ n⟩
  · rw [Memory.ofSegments_eq]
    decide +kernel
  · have hread : ((rmRead (0xb0000 + 0x700) 4).run (Memory.ofSegments named).host).map (le32 · 0) = some 7 := by
      rw [Memory.ofSegments_eq]
      decide +kernel
    obtain ⟨b, hb, hteam⟩ := Option.map_eq_some_iff.mp hread
    exact ⟨b, readsTo _ b hb n, hteam⟩
  · have hread : ((rmRead (0xb0000 + 0x4dc) 1).run (Memory.ofSegments named).host).map (· 0) = some 4 := by
      rw [Memory.ofSegments_eq]
      decide +kernel
    obtain ⟨b, hb, hbot⟩ := Option.map_eq_some_iff.mp hread
    exact ⟨b, readsTo _ b hb n, by rw [hbot]; decide⟩
  · rw [Memory.ofSegments_eq]
    decide +kernel

theorem constant_named (ar : Arith) (now : F64) (r : Radar) {seen : Seen} (hplayers : ∀ a, seen.players a → a = 0xa0000)
    (hitems : ∀ a, ¬seen.items a) : Constant botFacts ar (tickAt named now) r seen botSeen where
  grow := ⟨hplayers, hitems⟩
  players := by
    rintro a rfl
    exact ⟨bot, rfl, playerKnown_named now⟩
  unseen a ha hnot := absurd (botFacts_actor ha) hnot
  items e _ hseen := hseen.elim

theorem timely_named {now : F64} {r : Radar}
    (hteam : (playersEntered smallArith (tickAt named now) r).all fun e => e.before.frame.header.localTeam = 0) :
    Timely botFacts (fun _ => False) smallArith (tickAt named now) r botSeen where
  players e _ _ he := botFacts_actor he
  items e _ _ he := absurd rfl he
  mates e he d _ _ _ := by
    have hzero := List.all_eq_true.mp hteam e he
    exact ⟨fun hon => hon.1 (of_decide_eq_true hzero), False.elim⟩

/-- Two ticks, the second of which takes the bot from the cache. -/
theorem run_fresh_twice : Fresh smallArith (tickAt named 0x3fb999999999999a)
    (started.step smallArith (tickAt named 0)) botSeen := by
  have hfirst : Timely botFacts (fun _ => False) smallArith (tickAt named 0) started botSeen := timely_named (by
    rw [tickAt, Memory.ofSegments_eq]
    decide +kernel)
  have hsecond : Timely botFacts (fun _ => False) smallArith (tickAt named 0x3fb999999999999a)
      (started.step smallArith (tickAt named 0)) botSeen := timely_named (by
    rw [tickAt, tickAt, Memory.ofSegments_eq]
    decide +kernel)
  exact run_fresh (.tick (.init _ 0 0 true) _ (constant_named _ _ _ (fun _ h => h.elim) fun _ h => h) hfirst)
    (constant_named _ _ _ (fun _ h => h) fun _ h => h) hsecond

/-- The bot enters a frame before it has a player state, and the fallback stays when it has one. -/
theorem fallback_stays : ¬∀ (facts : Facts) (ar : Arith) (seen seen' : Seen) (r : Radar) (input : TickInput),
    Run facts ar (fun _ _ _ => True) seen r → Constant facts ar input r seen seen' → Fresh ar input r seen' := by
  intro hall
  -- In the first tick the state of the player cannot be read.
  have hunknown : ∀ d, ¬PlayerKnown (tickAt stateless 0).host 0xa0000 d := by
    rintro d ⟨st, hst, hstate⟩
    refine hstate.state ((hst 0).symm.trans ((eval_const 0 _ _).trans ?_))
    rw [Memory.ofSegments_eq]
    decide +kernel
  have hrun : Run botFacts smallArith (fun _ _ _ => True) ⟨fun _ => False, fun _ => False⟩
      (started.step smallArith (tickAt stateless 0)) := by
    refine .tick (.init _ 0 0 true) _ ⟨⟨fun _ h => h, fun _ h => h⟩, fun _ h => h.elim, fun a ha _ => ?_,
      fun _ _ h => h.elim⟩ trivial
    obtain rfl := botFacts_actor ha
    exact hunknown
  have hfresh := hall botFacts smallArith _ botSeen _ (tickAt named 0x3fb999999999999a) hrun
    (constant_named _ _ _ (fun _ h => h.elim) fun _ h => h)
  have hentered : (playersEntered smallArith (tickAt named 0x3fb999999999999a)
      (started.step smallArith (tickAt stateless 0))).map Entry.actor = [0xa0000] := by
    rw [tickAt, tickAt, Memory.ofSegments_eq]
    decide +kernel
  have hframes : (newFrames smallArith (tickAt named 0x3fb999999999999a)
      (started.step smallArith (tickAt stateless 0))).map (fun f => f.players.map RadarPlayer.teamId) = [[0]] := by
    rw [tickAt, tickAt, Memory.ofSegments_eq]
    decide +kernel
  -- The second tick replays the entry of the first, with team 0.
  obtain ⟨e, he, hactor⟩ := List.map_eq_singleton_iff.mp hentered
  obtain ⟨f, hf, hplayers⟩ := List.map_eq_singleton_iff.mp hframes
  obtain ⟨p, hp, hteam⟩ := List.map_eq_singleton_iff.mp hplayers
  have hplayer := (hfresh f (hf ▸ List.mem_singleton_self f)).1
  rw [he, hp] at hplayer
  cases hplayer with
  | cons hp' _ =>
    have hcarries := hp' hactor 0
    rw [hactor, eval_freshPlayer (playerKnown_named _)] at hcarries
    have hzero : (0 : UInt32) = 7 := hteam.symm.trans hcarries.1
    exact absurd hzero (by decide)

end Squad

end Metadata
end RadarAim

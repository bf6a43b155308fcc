import RadarAim.Lib.Triple
import RadarAim.Radar.Tick

/-! What the parts of a tick keep. A predicate on the static variables is kept by a part when the updates that
    the part makes keep it; the reads do not matter. -/

namespace RadarAim
namespace Reader
open Prog Ieee

section Answers
variable {h : Handler Host} {object : UInt64} {r : Radar}

theorem exec_resolveNameOf_none (hctx : r.reflection = none) : exec h (resolveNameOf object) r = (none, r) := by
  rw [resolveNameOf, onReflection]
  simp only [exec_bind, exec_get, hctx, exec_pure]

theorem exec_resolveNameOf_some {c ctx : Ue4rCtx} {resolved : Bool} {name : Str} (hctx : r.reflection = some c)
    (hres : ((ue4rResolveName (object + offUobjectName) 128).run c).run h = ((resolved, name), ctx)) :
    exec h (resolveNameOf object) r = (if resolved then some name else none, { r with reflection := some ctx }) := by
  rw [resolveNameOf, onReflection]
  simp only [exec_bind, exec_get, hctx, exec_lift, hres, exec_modify, exec_pure]
  cases resolved <;> rfl

end Answers

section Parts
variable {P : Radar → Prop}

section Reflection
variable (reflection : ∀ r ctx, P r → P { r with reflection := some ctx })
include reflection

theorem onReflection_keeps {α : Type} (p : Walker α) : Keeps P (onReflection p) := by
  refine Triple.bindGet fun r _ => ?_
  split
  · exact Triple.pure fun s hs => hs.2
  · refine Triple.bind (Triple.lift (Q := fun _ => P) _ fun _ s hs => hs.2) fun res => ?_
    exact Triple.bind (R := fun _ => P) (Keeps.modify fun s hs => reflection s _ hs) fun _ => Triple.pure fun s hs => hs

theorem resolveNameOf_keeps (object : UInt64) : Keeps P (resolveNameOf object) := by
  refine Triple.bind (onReflection_keeps reflection _) fun res => ?_
  split <;> exact Triple.pure fun s hs => hs

theorem readItemMeta_keeps (iactor : UInt64) (itemId : Int) : Keeps P (readItemMeta iactor itemId) := by
  have improve : ∀ object label, Keeps P (improveLabel object label) := fun object label =>
    Triple.ite (fun _ => Triple.bind (resolveNameOf_keeps reflection _) fun _ => Triple.pure fun s hs => hs)
      fun _ => Triple.pure fun s hs => hs
  refine Triple.bind (improve _ _) fun label => Triple.bind (Keeps.lift _) fun acls => ?_
  refine Triple.bind (improve _ _) fun label => Triple.bind (Keeps.lift _) fun pmesh => ?_
  exact Triple.bind (improve _ _) fun label => Triple.pure fun s hs => hs

theorem sampleName_keeps (cls actorSample : UInt64) : Keeps P (sampleName cls actorSample) := by
  refine Triple.bind (resolveNameOf_keeps reflection cls) fun res => ?_
  split
  · exact Triple.pure fun s hs => hs
  · refine Triple.ite (fun _ => ?_) fun _ => Triple.pure fun s hs => hs
    exact Triple.bind (resolveNameOf_keeps reflection _) fun _ => Triple.pure fun s hs => hs

theorem typeOfClass_keeps (cls : UInt64) (name : Str) : Keeps P (typeOfClass cls name) := by
  unfold typeOfClass
  split
  · exact Triple.pure fun s hs => hs
  · refine Triple.bind (Keeps.lift _) fun superCls => Triple.ite (fun _ => ?_) fun _ => Triple.pure fun s hs => hs
    exact Triple.bind (resolveNameOf_keeps reflection _) fun _ => Triple.pure fun s hs => hs

section Scan
variable (useClass : ∀ r e, P r → e ∈ r.gClasses → P (r.use e.recordedIn))
  (addClass : ∀ r cls type name, P r → P (r.addClass cls type name))
include useClass addClass

theorem classifyClass_keeps (cls actorSample : UInt64) : Keeps P (classifyClass cls actorSample) := by
  refine Triple.ite (fun _ => Triple.pure fun s hs => hs) fun _ => Triple.bindGet fun r _ => ?_
  split
  · rename_i e hfind
    refine Triple.bind (R := fun _ => P) (Triple.modify fun s hs => ?_) fun _ => Triple.pure fun s hs => hs
    exact useClass s e hs.2 (hs.1 ▸ List.mem_of_find?_eq_some hfind)
  · refine Triple.imp ?_ (fun s hs => hs.2) fun _ _ hs => hs
    refine Triple.bind (sampleName_keeps reflection _ _) fun name => ?_
    refine Triple.bind (typeOfClass_keeps reflection _ _) fun type => ?_
    exact Triple.bind (R := fun _ => P) (Keeps.modify fun s hs => addClass s _ _ _ hs) fun _ =>
      Triple.pure fun s hs => hs

theorem scanActors_keeps (actors : List UInt64) (s : Scan) : Keeps P (scanActors actors s) := by
  induction actors generalizing s with
  | nil => exact Triple.pure fun s hs => hs
  | cons actor actors ih =>
    refine Triple.ite (fun _ => ?_) fun _ => ih s
    refine Triple.bind (Keeps.lift _) fun cls => Triple.ite (fun _ => ?_) fun _ => ih s
    exact Triple.bind (classifyClass_keeps reflection useClass addClass _ _) fun type => ih _

theorem scanChunks_keeps (data : UInt64) (count chunks start : Nat) (s : Scan) :
    Keeps P (scanChunks data count chunks start s) := by
  induction chunks generalizing start s with
  | zero => exact Triple.pure fun s hs => hs
  | succ chunks ih =>
    refine Triple.bind (Keeps.lift _) fun res => ?_
    split
    · exact ih _ s
    · exact Triple.bind (scanActors_keeps reflection useClass addClass _ s) fun s => ih _ s

variable (setCandidates : ∀ r s, P r → P (r.setCandidates s))
include setCandidates

theorem scanPersistentLevel_keeps (w : UInt64) : Keeps P (scanPersistentLevel w) := by
  refine Triple.bind (Keeps.lift _) fun level => Triple.ite (fun _ => Triple.pure fun s hs => hs) fun _ => ?_
  refine Triple.bind (Keeps.lift _) fun res => ?_
  split
  · exact Triple.pure fun s hs => hs
  · refine Triple.ite (fun _ => Triple.pure fun s hs => hs) fun _ => ?_
    refine Triple.bind (scanChunks_keeps reflection useClass addClass _ _ _ _ _) fun s => ?_
    exact Triple.bind (R := fun _ => P) (Keeps.modify fun r hr => setCandidates r s hr) fun _ =>
      Triple.pure fun s hs => hs

theorem scanWhenDue_keeps (ar : Arith) (input : TickInput)
    (scanTime : ∀ r t, P r → P { r with nextScanTime := t }) : Keeps P (scanWhenDue ar input) := by
  refine Triple.bindGet fun r _ => ?_
  refine Triple.imp ?_ (fun s hs => hs.2) fun _ _ hs => hs
  refine Triple.ite (fun _ => ?_) fun _ => Triple.pure fun s hs => hs
  refine Triple.bind (R := fun _ => P) (Keeps.modify fun s hs => scanTime s _ hs) fun _ => ?_
  exact Triple.bind (scanPersistentLevel_keeps reflection useClass addClass setCandidates _) fun _ =>
    Triple.pure fun s hs => hs

end Scan

section Search
variable (found : ∀ r localPlayer world, P r → P { r with localPlayer, world })
  (cursor : ∀ r worldCursor, P r → P { r with worldCursor })
include found cursor

theorem searchLocalPlayer_keeps (b : Nat) : Keeps P (searchLocalPlayer b) := by
  induction b with
  | zero => exact Triple.pure fun s hs => hs
  | succ b ih =>
    refine Triple.getThen fun r _ => ?_
    refine Triple.ite (fun _ => ?_) fun _ => Triple.pure fun s hs => hs
    refine Triple.bind (onReflection_keeps reflection _) fun res => ?_
    split
    · exact Triple.pure fun s hs => hs
    · refine Triple.bind (R := fun _ => P) (Keeps.modify fun s hs => cursor s _ hs) fun _ => ?_
      refine Triple.ite (fun _ => ?_) fun _ => ih
      refine Triple.bind (Keeps.lift _) fun viewport => Triple.bind (Keeps.lift _) fun w => ?_
      refine Triple.bind (Keeps.lift _) fun pc => Triple.bind (Keeps.lift _) fun backlink => ?_
      exact Triple.ite (fun _ => Keeps.modify fun s hs => found s _ _ hs) fun _ => ih

variable (lookup : ∀ r nextLookup, P r → P { r with nextLookup })
include lookup

theorem lookupWorld_keeps (ar : Arith) (input : TickInput) : Keeps P (lookupWorld ar input) := by
  refine Triple.bind (R := fun _ => P) (Keeps.modify fun s hs => found s s.localPlayer 0 hs) fun _ => ?_
  refine Triple.getThen fun r _ => ?_
  refine Triple.ite (fun _ => Triple.pure fun s hs => hs) fun _ => ?_
  refine Triple.bind (R := fun _ => P) (Keeps.modify fun s hs => lookup s _ hs) fun _ => ?_
  refine Triple.bind (R := fun _ => P) ?_ fun ready => ?_
  · refine Triple.getThen fun r _ => ?_
    split
    · exact Triple.pure fun s hs => hs
    · refine Triple.bind (Keeps.lift _) fun res => ?_
      split
      · exact Triple.pure fun s hs => hs
      · refine Triple.ite (fun _ => ?_) fun _ => Triple.pure fun s hs => hs
        exact Triple.bind (R := fun _ => P) (Keeps.modify fun s hs => reflection s _ hs) fun _ =>
          Triple.pure fun s hs => hs
  · refine Triple.ite (fun _ => ?_) fun _ => Triple.pure fun s hs => hs
    exact Triple.ite (fun _ => Keeps.modify fun s hs => cursor s _ hs) fun _ =>
      searchLocalPlayer_keeps reflection found cursor 64

variable (enter : ∀ r w, P r → P (r.enterWorld w))
include enter

theorem findWorld_keeps (ar : Arith) (input : TickInput) : Keeps P (findWorld ar input) := by
  refine Triple.getThen fun r _ => ?_
  refine Triple.bind (Keeps.lift _) fun current => Triple.ite (fun _ => ?_) fun _ => ?_
  · exact Triple.bind (R := fun _ => P) (Keeps.modify fun s hs => enter s _ hs) fun _ => Triple.pure fun s hs => hs
  · refine Triple.bind (R := fun _ => P) (Keeps.modify fun s hs => ?_) fun _ => ?_
    · rw [Radar.loseLocalPlayer]
      split
      · exact cursor _ 0 (found s 0 s.world hs)
      · exact hs
    · refine Triple.bind (lookupWorld_keeps reflection found cursor lookup ar input) fun _ => ?_
      exact Triple.bindGet fun r _ => Triple.pure fun s hs => hs.2

end Search
end Reflection

theorem findWorld_world (ar : Arith) (input : TickInput) :
    Triple P (findWorld ar input) fun w r => r.world = w := by
  have enterWorld_world : ∀ (w : UInt64) (r : Radar), (r.enterWorld w).world = w := fun w r => by
    rw [Radar.enterWorld]
    split <;> rfl
  refine Triple.bindGet fun r _ => Triple.bind (Keeps.lift _) fun current => Triple.ite (fun _ => ?_) fun _ => ?_
  · refine Triple.bind (R := fun _ r => r.world = current) (Triple.modify fun s _ => enterWorld_world _ s) fun _ => ?_
    exact Triple.pure fun s hs => hs
  · refine Triple.bind (R := fun _ _ => True) (Triple.modify fun _ _ => trivial) fun _ => ?_
    refine Triple.bind (R := fun _ _ => True) (fun _ _ _ _ => trivial) fun _ => ?_
    exact Triple.bindGet fun r _ => Triple.pure fun s hs => hs.1 ▸ rfl

/-- The head of a tick: the frame is cleared, the world searched for, then header and team are set from reads. -/
theorem radarTickHead_triple {S R : Radar → Prop} {F : UInt64 → Radar → Prop} {Q : Option TickHead → Radar → Prop}
    {ar : Arith} {input : TickInput} (clear : ∀ r, P r → S r.clearFrame) (find : Triple S (findWorld ar input) F)
    (absent : ∀ r, F 0 r → Q none r) (present : ∀ w r, w ≠ 0 → F w r → R r)
    (header : ∀ r f, R r → R (r.mapHeader f)) (team : ∀ r t, R r → R (r.setLocalTeam t))
    (done : ∀ found r, R r → Q found r) : Triple P (radarTickHead ar input) Q := by
  refine Triple.bind (R := fun _ => S) (Triple.modify clear) fun _ => Triple.bind find fun w => ?_
  refine Triple.ite (fun hw => Triple.pure fun s hs => absent s (hw ▸ hs)) fun hw => ?_
  refine Triple.imp ?_ (fun s hs => present w s hw hs) fun _ _ hs => hs
  refine Triple.getThen fun r _ => ?_
  refine Triple.bind (Keeps.lift _) fun pc => Triple.ite (fun _ => Triple.pure fun s hs => done _ s hs) fun _ => ?_
  refine Triple.bind (Keeps.lift _) fun pawn => Triple.bind (Keeps.lift _) fun camera => ?_
  refine Triple.bind (R := fun _ => R) ?_ fun head => ?_
  · refine Triple.bind (Keeps.lift _) fun localPos => Triple.bind (Keeps.lift _) fun cameraPos => ?_
    refine Triple.bind (Keeps.lift _) fun localRot => Triple.bind (Keeps.lift _) fun fov => ?_
    exact Triple.bind (R := fun _ => R) (Keeps.modify fun s hs => header s _ hs) fun _ => Triple.pure fun s hs => hs
  · refine Triple.bind (Keeps.lift _) fun t => ?_
    exact Triple.bind (R := fun _ => R) (Keeps.modify fun s hs => team s _ hs) fun _ =>
      Triple.pure fun s hs => done _ s hs

/-! ### The loops -/

def Left (c c' : Candidate) : Prop := c' = c ∨ c' = c.drop

theorem forCandidates_triple {full : Radar → Bool} {process : Candidate → RadarReader Candidate} {cs : List Candidate}
    (h : ∀ c ∈ cs, Triple P (process c) fun c' s => P s ∧ Left c c') :
    Triple P (forCandidates full process cs) fun cs' s => P s ∧ ∀ c' ∈ cs', ∃ c ∈ cs, Left c c' := by
  induction cs with
  | nil => exact Triple.pure fun s hs => ⟨hs, fun c' hc' => nomatch hc'⟩
  | cons c cs ih =>
    refine Triple.getThen fun r _ => ?_
    refine Triple.ite (fun _ => Triple.pure fun s hs => ⟨hs, fun c' hc' => ⟨c', hc', Or.inl rfl⟩⟩) fun _ => ?_
    refine Triple.bind (h c List.mem_cons_self) fun c' => ?_
    have rest : Left c c' → Triple P (do let cs' ← forCandidates full process cs; pure (c' :: cs')) fun cs' s =>
        P s ∧ ∀ d ∈ cs', ∃ c₀ ∈ c :: cs, Left c₀ d := fun hc' => by
      refine Triple.bind (ih fun c hc => h c (List.mem_cons_of_mem _ hc)) fun cs' => Triple.pure fun s hs => ⟨hs.1, ?_⟩
      intro d hd
      rcases List.mem_cons.mp hd with rfl | hd
      · exact ⟨c, List.mem_cons_self, hc'⟩
      · obtain ⟨c₀, hc₀, hleft⟩ := hs.2 d hd
        exact ⟨c₀, List.mem_cons_of_mem _ hc₀, hleft⟩
    exact fun s hs => rest hs.2 s hs.1

section Loop
variable {P₀ : Radar → Prop} {full : Radar → Bool} {process : Candidate → RadarReader Candidate}
  {list : Radar → List Candidate} {set : List Candidate → Radar → Radar}

/-- A loop that begins in `P₀` and keeps `P`; what is left of the candidates takes their place. -/
theorem loop_triple (start : ∀ r, P₀ r → P r)
    (body : ∀ r, P₀ r → ∀ c ∈ list r, Triple P (process c) fun c' s => P s ∧ Left c c')
    (store : ∀ r s, P₀ r → P s → ∀ cs, (∀ c' ∈ cs, ∃ c ∈ list r, Left c c') → P (set cs s)) :
    Triple P₀ (do let r ← get; let cs ← forCandidates full process (list r); modify (set cs)) fun _ => P := by
  refine Triple.bindGet fun r hr => Triple.imp (P := P) ?_ (fun s hs => start s hs.2) fun _ _ hs => hs
  exact Triple.bind (forCandidates_triple (body r hr)) fun cs => Triple.modify fun s hs => store r s hr hs.1 cs hs.2

theorem loop_then {α : Type} {p : RadarReader α} {Q : α → Radar → Prop} (start : ∀ r, P₀ r → P r)
    (body : ∀ r, P₀ r → ∀ c ∈ list r, Triple P (process c) fun c' s => P s ∧ Left c c')
    (store : ∀ r s, P₀ r → P s → ∀ cs, (∀ c' ∈ cs, ∃ c ∈ list r, Left c c') → P (set cs s)) (rest : Triple P p Q) :
    Triple P₀ (do let r ← get; let cs ← forCandidates full process (list r); modify (set cs); p) Q := by
  have hloop : Triple P₀ (do let r ← get; let cs ← forCandidates full process (list r); modify (set cs)) fun _ => P :=
    loop_triple start body store
  simpa only [LawfulMonad.bind_assoc] using Triple.bind hloop fun _ => rest

end Loop

section Candidate
variable {c : Candidate} (use : ∀ r, P r → P (r.use c.recordedIn))
include use

/-- What the three loops do first: a candidate without a position is dropped, one that is passed over stays. -/
theorem placed_triple {skip : Prop} [Decidable skip] {far : Rvec3 → Bool} {body : Rvec3 → RadarReader Candidate}
    (h : ∀ pos, Triple P (body pos) fun c' s => P s ∧ Left c c') :
    Triple P (if skip then pure c
      else do
        modify (Radar.use c.recordedIn)
        match ← position c.actor with
        | none => pure c.drop
        | some pos => if far pos then pure c else body pos : RadarReader Candidate) fun c' s => P s ∧ Left c c' := by
  have stays : Triple P (pure c : RadarReader Candidate) fun c' s => P s ∧ Left c c' :=
    Triple.pure fun s hs => ⟨hs, Or.inl rfl⟩
  refine Triple.ite (fun _ => stays) fun _ => ?_
  refine Triple.bind (R := fun _ => P) (Keeps.modify use) fun _ => Triple.bind (Keeps.lift _) fun pos => ?_
  split
  · exact Triple.pure fun s hs => ⟨hs, Or.inr rfl⟩
  · exact Triple.ite (fun _ => stays) fun _ => h _

/-- A player, when what is known of its metadata is enough to add its record. -/
theorem processPlayer_triple {ar : Arith} {head : TickHead} {Info : UInt32 × UInt8 × Str → Prop}
    (info : ∀ st, Triple P (playerMeta c.actor st) fun i s => P s ∧ Info i)
    (push : ∀ r pos health healthStatus yaw i, P r → Info i →
      P (r.pushPlayer (playerRecord ar pos health healthStatus yaw i head.cameraPos))) :
    Triple P (processPlayer ar head c) fun c' s => P s ∧ Left c c' := by
  have stays : Triple P (pure c : RadarReader Candidate) fun c' s => P s ∧ Left c c' :=
    Triple.pure fun s hs => ⟨hs, Or.inl rfl⟩
  refine placed_triple use fun pos => ?_
  refine Triple.bind (Keeps.lift _) fun bDead => Triple.ite (fun _ => stays) fun _ => ?_
  refine Triple.bind (Keeps.lift _) fun st => Triple.bind (Keeps.lift _) fun health => ?_
  refine Triple.bind (Keeps.lift _) fun healthStatus => Triple.ite (fun _ => stays) fun _ => ?_
  refine Triple.bind (Keeps.lift _) fun yaw => Triple.bind (info st) fun i => ?_
  refine Triple.bind (R := fun _ => P) (Triple.modify fun s hs => push s _ _ _ _ _ hs.1 hs.2) fun _ => stays

section Classes
variable (reflection : ∀ r ctx, P r → P { r with reflection := some ctx })
include reflection

theorem processVehicle_triple {ar : Arith} {head : TickHead}
    (useClass : ∀ r e, P r → e ∈ r.gClasses → P (r.use e.recordedIn)) (push : ∀ r v, P r → P (r.pushVehicle v)) :
    Triple P (processVehicle ar head c) fun c' s => P s ∧ Left c c' := by
  have stays : Triple P (pure c : RadarReader Candidate) fun c' s => P s ∧ Left c c' :=
    Triple.pure fun s hs => ⟨hs, Or.inl rfl⟩
  have resolve : ∀ cls, Keeps P (vehicleClassName.resolveClassName cls) := fun cls =>
    Triple.ite (fun _ => Triple.bind (resolveNameOf_keeps reflection _) fun _ => Triple.pure fun s hs => hs)
      fun _ => Triple.pure fun s hs => hs
  refine placed_triple use fun pos => ?_
  refine Triple.bind (Keeps.lift _) fun fwdSpeed => Triple.bind (Keeps.lift _) fun healthState => ?_
  refine Triple.bind (Keeps.lift _) fun canBoost => Triple.bind (Keeps.lift _) fun teamId => ?_
  refine Triple.bind (Keeps.lift _) fun cls => Triple.bind (R := fun _ => P) ?_ fun clsName => ?_
  · refine Triple.bindGet fun r _ => ?_
    split
    · rename_i e hfind
      refine Triple.bind (R := fun _ => P) (Triple.modify fun s hs => ?_) fun _ => ?_
      · exact useClass s e hs.2 (hs.1 ▸ List.mem_of_find?_eq_some hfind)
      · exact Triple.ite (fun _ => Triple.pure fun s hs => hs) fun _ => resolve cls
    · exact Triple.imp (resolve cls) (fun s hs => hs.2) fun _ _ hs => hs
  · exact Triple.bind (R := fun _ => P) (Keeps.modify fun s hs => push s _ hs) fun _ => stays

theorem processItem_triple {ar : Arith} {head : TickHead}
    (useItem : ∀ r m, P r → m ∈ r.gItemMeta → P (r.use m.recordedIn))
    (store : ∀ r actor itemId category name, P r → P (r.storeItemMeta actor itemId category name))
    (push : ∀ r v, P r → P (r.pushItem v)) :
    Triple P (processItem ar head c) fun c' s => P s ∧ Left c c' := by
  have stays : Triple P (pure c : RadarReader Candidate) fun c' s => P s ∧ Left c c' :=
    Triple.pure fun s hs => ⟨hs, Or.inl rfl⟩
  refine placed_triple use fun pos => ?_
  refine Triple.bind (R := fun _ => P) ?_ fun info =>
    Triple.bind (R := fun _ => P) (Keeps.modify fun s hs => push s _ hs) fun _ => stays
  refine Triple.bindGet fun r _ => ?_
  split
  · rename_i m hfind
    refine Triple.bind (R := fun _ => P) (Triple.modify fun s hs => ?_) fun _ => ?_
    · exact useItem s m hs.2 (hs.1 ▸ List.mem_of_find?_eq_some hfind)
    · exact Triple.bind (Keeps.lift _) fun count => Triple.pure fun s hs => hs
  · refine Triple.imp ?_ (fun s hs => hs.2) fun _ _ hs => hs
    refine Triple.bind (Keeps.lift _) fun itemId => Triple.bind (Keeps.lift _) fun count => ?_
    refine Triple.bind (readItemMeta_keeps reflection _ _) fun label => ?_
    exact Triple.bind (R := fun _ => P) (Keeps.modify fun s hs => store s _ _ _ _ hs) fun _ =>
      Triple.pure fun s hs => hs

end Classes
end Candidate

end Parts

/-! ### Runs -/

/-- The result of a tick up to its first loop: there is a world and a controller in it, or not. -/
def startResult (ar : Arith) (input : TickInput) (r : Radar) : Option TickHead :=
  (((radarTickStart ar input).run r).eval input.host 0).1.1

/-- A tick, from what holds when it comes to its first loop. -/
theorem step_of_start {P : Option TickHead → Radar → Prop} {Q : Radar → Prop} {ar : Arith} {input : TickInput}
    {r : Radar} (idle : Q r) (start : P (startResult ar input r) (r.after (radarTickStart ar input) input))
    (absent : ∀ s, P none s → Q (s.publish 1))
    (loops : ∀ head, Triple (P (some head)) (processCandidates ar head) fun _ s => ∀ status, Q (s.publish status)) :
    Q (r.step ar input) := by
  have rest : ∀ found, Triple (P found) (radarTickRest ar found) fun _ => Q := by
    rintro (_ | head)
    · exact Triple.modify absent
    · exact Triple.bind (loops head) fun _ => Triple.modify fun s hs => hs _
  have tick : (radarTick ar input).run r =
      if r.shared then (radarTickStart ar input >>= radarTickRest ar).run r else pure ((), r) := by
    rw [radarTick]
    show (ite _ _ _ : RadarReader Unit).run r = _
    split <;> rfl
  rw [Radar.step, Radar.after, tick]
  split
  · rw [StateT.run_bind, eval_bind]
    exact rest _ _ start _ _
  · exact idle

/-- The runs of `radar_init` and `radar_tick`. `ok` is about every tick: the state before it and the one in which it
    comes to its first loop. -/
inductive Run (ar : Arith) (ok : Radar → Radar → Prop) : Radar → Prop where
  | init {r : Radar} (hpublished : r.published = []) (huses : r.uses = []) (imageBase aslrSlide : UInt64)
      (mapped : Bool) : Run ar ok (radarInit imageBase aslrSlide mapped r)
  | tick {r : Radar} (h : Run ar ok r) (input : TickInput) (hok : ok r (r.after (radarTickStart ar input) input)) :
      Run ar ok (r.step ar input)

theorem of_findMeta {α : Type} {actor : α → UInt64} {valid : α → Bool} {m : α} {cache : List α} {key : UInt64}
    (h : findMeta actor valid cache key = some m) : m ∈ cache ∧ actor m = key := by
  have hkey := List.find?_some h
  simp only [Bool.and_eq_true, decide_eq_true_eq] at hkey
  exact ⟨List.mem_of_find?_eq_some h, hkey.2⟩

theorem mem_storeMeta {α : Type} {actor : α → UInt64} {entry m : α} {cache : List α} {room : Nat}
    (h : m ∈ storeMeta actor entry cache room) : m = entry ∨ m ∈ cache := by
  induction cache generalizing room with
  | nil =>
    cases room with
    | zero => exact Or.inr h
    | succ room => exact Or.inl (List.mem_singleton.mp h)
  | cons x xs ih =>
    rw [storeMeta] at h
    split at h
    · exact (List.mem_cons.mp h).imp_right (List.mem_cons_of_mem x)
    · rcases List.mem_cons.mp h with rfl | h
      · exact Or.inr List.mem_cons_self
      · exact (ih h).imp_right (List.mem_cons_of_mem x)

/-! ### Runs on small numbers -/

/-- Arithmetic that is right on the numbers of the runs below. -/
def smallArith : Arith where
  add a b := if a = 0 then b else a
  sub a b :=
    if a = 0 then if b = 0 then 0 else F32.neg b
    else if b = 0 ∨ b = 0x80000000 then a
    else if a = 0x42600000 then 0x42000000
    else if a = 0x42000000 then 0x41200000
    else 0xc2aa0000
  mul a b := if a = 0x3f800000 then b else a
  div a _ := if a = 0 then 0 else 0x3c23d70a
  sqrtf a := a
  sinf a := a
  cosf _ := 0x3f800000
  addDouble a b := if a = 0 then b else 0x3ff8000000000000

def tickAt (segments : List (UInt64 × List UInt8)) (now : F64) : TickInput where
  host := fun _ => (Memory.ofSegments segments).host
  lookupNow := now
  scanNow := now
  configObjects := 0x10000
  configNames := 0x20000

end Reader
end RadarAim

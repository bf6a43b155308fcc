import Mathlib.Logic.Relation
import RadarAim.Daemon.Machine
import RadarAim.Theorems.StopFlag

/-! The processes of the daemon refine the stop protocol: `main`, call by call, goes through the places of an
    instance, so that whatever the processes do together is a run of the protocol. -/

namespace RadarAim.Daemon
namespace Processes
open Prog Relation

/-- Where a process is. Between the removal of the flag and the assignment to `gRunning` it is `clearing`. -/
structure Place where
  pc : Pc
  clearing : Bool

/-- The calls that are made while the target is looked for and told of. -/
def Call.isPreparation : Call → Bool
  | .processes | .mkdir | .openMarker | .write _ | .fsync | .close | .chown => true
  | .taskAcquire _ | .taskRelease _ | .getSlide _ => true
  | _ => false

inductive Move : Place → (c : Call) → c.Reply → Place → Prop
  | begins {r} : Move ⟨.mainTest, false⟩ .writePidFile r ⟨.mainTest, false⟩
  | mainGoes : Move ⟨.mainTest, false⟩ .testRunning true ⟨.mainAccess, false⟩
  | mainEnds : Move ⟨.mainTest, false⟩ .testRunning false ⟨.leaving, false⟩
  | mainFound : Move ⟨.mainAccess, false⟩ (.access .stopFlag) true ⟨.mainUnlink, false⟩
  | mainNotFound : Move ⟨.mainAccess, false⟩ (.access .stopFlag) false ⟨.mainTarget, false⟩
  | mainUnlinks {r} : Move ⟨.mainUnlink, false⟩ (.unlink .stopFlag) r ⟨.leaving, true⟩
  | mainClears {r} : Move ⟨.leaving, true⟩ .clearRunning r ⟨.leaving, false⟩
  | prepares {c r} : Call.isPreparation c = true → Move ⟨.mainTarget, false⟩ c r ⟨.mainTarget, false⟩
  | mainNoRadar {task base slide} : Move ⟨.mainTarget, false⟩ (.radarInit task base slide) false ⟨.mainTarget, false⟩
  | mainTarget {task base slide} : Move ⟨.mainTarget, false⟩ (.radarInit task base slide) true ⟨.radarTest, false⟩
  | mainNoTarget {n r} : Move ⟨.mainTarget, false⟩ (.usleep n) r ⟨.mainTest, false⟩
  | radarGoes : Move ⟨.radarTest, false⟩ .testRunning true ⟨.radarAccess, false⟩
  | radarEnds : Move ⟨.radarTest, false⟩ .testRunning false ⟨.radarDestroy, false⟩
  | radarFound : Move ⟨.radarAccess, false⟩ (.access .stopFlag) true ⟨.radarUnlink, false⟩
  | radarNotFound : Move ⟨.radarAccess, false⟩ (.access .stopFlag) false ⟨.radarTick, false⟩
  | radarUnlinks {r} : Move ⟨.radarUnlink, false⟩ (.unlink .stopFlag) r ⟨.radarDestroy, true⟩
  | radarClears {r} : Move ⟨.radarDestroy, true⟩ .clearRunning r ⟨.radarDestroy, false⟩
  | radarLooks {r} : Move ⟨.radarTick, false⟩ .processes r ⟨.radarTick, false⟩
  | radarTicks {r} : Move ⟨.radarTick, false⟩ .radarTick r ⟨.radarTick, false⟩
  | radarTicked {n r} : Move ⟨.radarTick, false⟩ (.usleep n) r ⟨.radarTest, false⟩
  | radarLeft {r} : Move ⟨.radarTick, false⟩ .radarDestroy r ⟨.radarDestroy, false⟩
  | radarDestroys {r} : Move ⟨.radarDestroy, false⟩ .radarDestroy r ⟨.radarDestroy, false⟩
  | radarReleases {task r} : Move ⟨.radarDestroy, false⟩ (.taskRelease task) r ⟨.radarDestroy, false⟩
  | radarDestroyed {n r} : Move ⟨.radarDestroy, false⟩ (.usleep n) r ⟨.mainTest, false⟩
  | leaves {path r} : path ≠ .stopFlag → Move ⟨.leaving, false⟩ (.unlink path) r ⟨.leaving, false⟩

def places : Protocol Sys Place := ⟨fun _ _ _ => True, Move⟩

/-! ### The program goes from place to place -/

section Program

theorem do_obeys {c : Call} {x y : Place} (h : ∀ r, Move x c r y) :
    Obeys places (fun s => s = x) (ask c) fun _ s => s = y :=
  Obeys.ask fun s hs r _ => ⟨y, by subst hs; exact h r, rfl⟩

theorem ask_obeys {c : Call} {x : Place} {post : c.Reply → Place → Prop}
    (h : ∀ r, ∃ y, Move x c r y ∧ post r y) : Obeys places (fun s => s = x) (ask c) post :=
  Obeys.ask fun s hs r _ => by subst hs; exact h r

theorem testRunning_obeys {x y z : Place} (hgoes : Move x .testRunning true y) (hends : Move x .testRunning false z) :
    Obeys places (fun s => s = x) (ask .testRunning) fun r s => s = if r then y else z := by
  refine ask_obeys fun r => ⟨_, ?_, rfl⟩
  cases r with
  | false => exact hends
  | true => exact hgoes

/-- The stop flag is looked for from `x`; if it is not there, the process goes on at `z`. -/
theorem stopFlagged_obeys {x y z cleared : Place} {pc : Pc} (hfound : Move x (.access .stopFlag) true y)
    (habsent : Move x (.access .stopFlag) false z) (hunlinks : ∀ r, Move y (.unlink .stopFlag) r ⟨pc, true⟩)
    (hclears : ∀ r, Move ⟨pc, true⟩ .clearRunning r cleared) :
    Obeys places (fun s => s = x) stopFlagged fun b s => s = if b then cleared else z := by
  have haccess : Obeys places (fun s => s = x) (ask (.access .stopFlag)) fun r s => s = if r then y else z := by
    refine ask_obeys fun r => ⟨_, ?_, rfl⟩
    cases r with
    | false => exact habsent
    | true => exact hfound
  refine haccess.bind fun r => Obeys.ite (fun hr => ?_) fun hr => Obeys.pure fun s hs => ?_
  · subst hr
    exact (do_obeys hunlinks).bind fun _ => (do_obeys hclears).bind fun _ => Obeys.pure fun s hs => hs
  · rw [if_neg hr] at hs
    exact hs

/-- The target is looked for. -/
def preparing : Place := ⟨.mainTarget, false⟩

theorem prepare_obeys {c : Call} (h : Call.isPreparation c = true) :
    Obeys places (fun s => s = preparing) (ask c) fun _ s => s = preparing :=
  do_obeys fun _ => .prepares h

theorem writeAll_obeys (fuel : Nat) (data : List UInt8) :
    Obeys places (fun s => s = preparing) (writeAll fuel data) fun _ s => s = preparing := by
  induction fuel generalizing data with
  | zero => exact Obeys.ite (fun _ => Obeys.pure fun s hs => hs) fun _ => Obeys.failure
  | succ fuel ih =>
    refine Obeys.ite (fun _ => Obeys.pure fun s hs => hs) fun _ => (prepare_obeys rfl).bind fun r => ?_
    cases r with
    | wrote n => exact Obeys.ite (fun _ => Obeys.pure fun s hs => hs) fun _ => ih _
    | interrupted => exact ih _
    | failed => exact Obeys.pure fun s hs => hs

theorem writeMarker_obeys (fuel : Nat) :
    Obeys places (fun s => s = preparing) (writeMarker fuel) fun _ s => s = preparing := by
  have hopen : Obeys places (fun s => s = preparing)
      (ask .openMarker >>= fun r => if r = true then writeOpenMarker fuel else pure false) fun _ s =>
        s = preparing := by
    refine (prepare_obeys rfl).bind fun r => Obeys.ite (fun _ => ?_) fun _ => Obeys.pure fun s hs => hs
    refine (writeAll_obeys fuel kMarkerText).bind fun ok => Obeys.ite (fun _ => ?_) fun _ => ?_
    · exact (prepare_obeys rfl).bind fun _ => (prepare_obeys rfl).bind fun _ => (prepare_obeys rfl).bind fun _ =>
        Obeys.pure fun s hs => hs
    · exact (prepare_obeys rfl).bind fun _ => Obeys.pure fun s hs => hs
  refine (prepare_obeys rfl).bind fun r => ?_
  cases r with
  | failed => exact Obeys.pure fun s hs => hs
  | made => exact hopen
  | «exists» => exact hopen

theorem radarLoop_obeys (pid : Int) (fuel : Nat) :
    Obeys places (fun s => s = ⟨.radarTest, false⟩) (radarLoop pid fuel) fun _ s =>
      s = ⟨.radarDestroy, false⟩ ∨ s = ⟨.radarTick, false⟩ := by
  induction fuel with
  | zero => exact Obeys.failure
  | succ fuel ih =>
    have htest := testRunning_obeys .radarGoes .radarEnds
    have hflag := stopFlagged_obeys .radarFound .radarNotFound (fun _ => .radarUnlinks) fun _ => .radarClears
    refine htest.bind fun r => Obeys.ite (fun hr => ?_) fun hr => Obeys.pure fun s hs => Or.inl ?_
    · subst hr
      refine hflag.bind fun b => Obeys.ite (fun hb => Obeys.pure fun s hs => Or.inl ?_) fun hb => ?_
      · rwa [if_pos hb] at hs
      · rw [Bool.not_eq_true] at hb
        subst hb
        have hfind : Obeys places (fun s => s = ⟨.radarTick, false⟩) findTargetProcess fun _ s =>
            s = ⟨.radarTick, false⟩ :=
          (do_obeys fun _ => Move.radarLooks).map fun _ _ h => h
        refine hfind.bind fun cur => Obeys.ite (fun _ => Obeys.pure fun s hs => Or.inr hs) fun _ => ?_
        have htick := do_obeys (c := .radarTick) fun _ => Move.radarTicks
        have hsleep := do_obeys (c := .usleep 50000) fun _ => Move.radarTicked
        exact htick.bind fun _ => hsleep.bind fun _ => ih
    · rwa [if_neg hr] at hs

/-- The target has not been served, or not any more. -/
def Served (s : Place) : Prop := s = preparing ∨ s = ⟨.radarDestroy, false⟩

theorem runRadarLoop_obeys (fuel : Nat) (pid : Int) :
    Obeys places (fun s => s = preparing) (runRadarLoop fuel pid) fun _ => Served := by
  refine (prepare_obeys rfl).bind fun r => ?_
  cases r with
  | none => exact Obeys.pure fun s hs => Or.inl hs
  | some task =>
    have hinit : ∀ base slide, Obeys places (fun s => s = preparing) (ask (.radarInit task base slide)) fun r s =>
        s = if r then ⟨.radarTest, false⟩ else preparing := by
      refine fun base slide => ask_obeys fun r => ⟨_, ?_, rfl⟩
      cases r with
      | false => exact .mainNoRadar
      | true => exact .mainTarget
    have hdestroy : Obeys places (fun s => s = ⟨.radarDestroy, false⟩ ∨ s = ⟨.radarTick, false⟩) (ask .radarDestroy)
        fun _ => Served := by
      refine Obeys.ask fun s hs r _ => ⟨⟨.radarDestroy, false⟩, ?_, Or.inr rfl⟩
      rcases hs with rfl | rfl
      · exact Move.radarDestroys
      · exact Move.radarLeft
    have hserve : Obeys places (fun s => s = preparing) (serveTask fuel pid task) fun _ => Served := by
      refine (prepare_obeys rfl).bind fun aslr => Obeys.ite (fun _ => ?_) fun _ => Obeys.pure fun s hs => Or.inl hs
      refine (hinit aslr.base aslr.slide).bind fun r => Obeys.ite (fun hr => ?_) fun hr => Obeys.pure fun s hs => ?_
      · subst hr
        exact (radarLoop_obeys pid fuel).bind fun _ => hdestroy
      · rw [if_neg hr] at hs
        exact Or.inl hs
    have hrelease : Obeys places Served (ask (.taskRelease task)) fun _ => Served := by
      refine Obeys.ask fun s hs r _ => ⟨s, ?_, hs⟩
      rcases hs with rfl | rfl
      · exact .prepares rfl
      · exact .radarReleases
    exact hserve.bind fun _ => hrelease

theorem serveTarget_obeys (fuel : Nat) (lastReportedPid : Int) :
    Obeys places (fun s => s = preparing) (serveTarget fuel lastReportedPid) fun _ => Served := by
  have hfind : Obeys places (fun s => s = preparing) findTargetProcess fun _ s => s = preparing :=
    (prepare_obeys (c := .processes) rfl).map fun _ _ h => h
  refine hfind.bind fun pid => Obeys.ite (fun _ => ?_) fun _ => Obeys.pure fun s hs => Or.inl hs
  refine (writeMarker_obeys fuel).bind fun ok => Obeys.ite (fun _ => ?_) fun _ => Obeys.pure fun s hs => Or.inl hs
  exact (runRadarLoop_obeys fuel pid).bind fun _ => Obeys.pure fun s hs => hs

theorem mainLoop_obeys (fuel : Nat) (lastReportedPid : Int) :
    Obeys places (fun s => s = ⟨.mainTest, false⟩) (mainLoop fuel lastReportedPid) fun _ s =>
      s = ⟨.leaving, false⟩ := by
  induction fuel generalizing lastReportedPid with
  | zero => exact Obeys.failure
  | succ fuel ih =>
    have htest := testRunning_obeys .mainGoes .mainEnds
    have hflag := stopFlagged_obeys .mainFound .mainNotFound (fun _ => .mainUnlinks) fun _ => .mainClears
    refine htest.bind fun r => Obeys.ite (fun hr => ?_) fun hr => Obeys.pure fun s hs => ?_
    · subst hr
      refine hflag.bind fun b => Obeys.ite (fun hb => Obeys.pure fun s hs => ?_) fun hb => ?_
      · rwa [if_pos hb] at hs
      · rw [Bool.not_eq_true] at hb
        subst hb
        have hsleep : Obeys places Served (ask (.usleep 250000)) fun _ s => s = ⟨.mainTest, false⟩ := by
          refine Obeys.ask fun s hs r _ => ⟨_, ?_, rfl⟩
          rcases hs with rfl | rfl
          · exact .mainNoTarget
          · exact .radarDestroyed
        exact (serveTarget_obeys fuel lastReportedPid).bind fun last => hsleep.bind fun _ => ih last
    · rwa [if_neg hr] at hs

/-- `main`, as launchd starts it. -/
theorem main_obeys (fuel : Nat) :
    Obeys places (fun s => s = ⟨.mainTest, false⟩) (main fuel []) fun _ s => s = ⟨.leaving, false⟩ := by
  have hwrite := do_obeys (c := .writePidFile) fun _ => Move.begins
  have hpid := do_obeys (c := .unlink .pidFile) fun _ => Move.leaves (by decide)
  have hradar := do_obeys (c := .unlink .radarFile) fun _ => Move.leaves (by decide)
  exact hwrite.bind fun _ => (mainLoop_obeys fuel 0).bind fun _ => hpid.bind fun _ => hradar.bind fun _ =>
    Obeys.pure fun s hs => hs

end Program

/-! ### The machine refines the protocol -/

section Simulation

/-- The process is where the instance is. -/
inductive Follows : Option Process → Option Instance → Prop
  | none : Follows none none
  | some {p : Process} {d : Instance} (clearing : Bool) :
      p.rest.Conforms places (fun o s => ∀ code : Int, o = Option.some code → s = ⟨.leaving, false⟩) ⟨d.pc, clearing⟩ →
      d.gRunning = (p.gRunning && !clearing) → Follows (some p) (some d)

theorem Follows.isSome {p : Option Process} {d : Option Instance} (h : Follows p d) : d.isSome = p.isSome := by
  cases h with
  | none => rfl
  | some => rfl

/-- The state of the protocol with these instances. -/
def system (m : Machine) (instances : Nat → Option Instance) : System where
  flag := m.flag
  instances := instances
  started := m.started
  overlayStopping := m.overlayStopping
  app := m.app
  stopped := m.stopped

def Refines (m : Machine) (s : System) : Prop :=
  ∃ instances, s = system m instances ∧ ∀ i, Follows (m.processes i) (instances i)

variable {m : Machine} {instances : Nat → Option Instance} {i : Nat} {p : Process} {d : Instance}

theorem follows_update {processes : Nat → Option Process} (h : ∀ i, Follows (processes i) (instances i))
    {p : Option Process} {d : Option Instance} (hp : Follows p d) (j : Nat) :
    Follows (Function.update processes i p j) (Function.update instances i d j) := by
  by_cases hj : j = i
  · subst hj
    rwa [Function.update_self, Function.update_self]
  · rw [Function.update_of_ne hj, Function.update_of_ne hj]
    exact h j

/-- A call that the protocol does not see. -/
theorem after_quiet {rest : Prog Sys (Option Int)} {c : Call}
    (hc : c ≠ .clearRunning ∧ c ≠ .unlink .stopFlag ∧ c ≠ .access .stopFlag) :
    m.after i p rest c = m.setProcess i (some { p with rest := rest }) := by
  cases c with
  | clearRunning => exact absurd rfl hc.1
  | unlink path =>
    cases path with
    | stopFlag => exact absurd rfl hc.2.1
    | pidFile => rfl
    | radarFile => rfl
  | access path =>
    cases path with
    | stopFlag => exact absurd rfl hc.2.2
    | pidFile => rfl
    | radarFile => rfl
  | _ => rfl

/-- The process and its instance have moved. -/
theorem refines_moved (h : ∀ i, Follows (m.processes i) (instances i)) {p : Process} {d : Instance}
    (hp : Follows (some p) (some d)) :
    Refines (m.setProcess i (some p)) ((system m instances).setInstance i (some d)) :=
  ⟨Function.update instances i (some d), rfl, follows_update h hp⟩

/-- The process has moved, and its instance is where it was. -/
theorem refines_quiet (h : ∀ i, Follows (m.processes i) (instances i)) {p : Process}
    (hp : Follows (some p) (instances i)) :
    Refines (m.setProcess i (some p)) (system m instances) := by
  refine ⟨instances, rfl, fun j => ?_⟩
  have hfollows := follows_update (i := i) h hp j
  rwa [Function.update_eq_self] at hfollows

theorem setInstance_setInstance (s : System) (i : Nat) (d e : Option Instance) :
    (s.setInstance i d).setInstance i e = s.setInstance i e := by
  simp only [System.setInstance, Function.update_idem]

/-- An instance that falls asleep also wakes up. -/
theorem sleeps {s : System} {g : Bool} (h : Step s (s.setInstance i (some ⟨.mainSleep, g⟩))) :
    ReflTransGen Step s (s.setInstance i (some ⟨.mainTest, g⟩)) := by
  have hslept := Step.mainSlept (s := s.setInstance i (some ⟨.mainSleep, g⟩)) (d := ⟨.mainSleep, g⟩)
    (Function.update_self i _ _) rfl
  rw [setInstance_setInstance] at hslept
  exact .tail (.single h) hslept

theorem gRunning_of_test {g r : Bool} (hg : g = (p.gRunning && !false)) (hr : r = p.gRunning) : g = r := by
  rw [hg, ← hr, Bool.not_false, Bool.and_true]

/-- The flag has been found. -/
theorem refines_found (h : ∀ i, Follows (m.processes i) (instances i)) {f : Flag} (hf : m.flag = some f)
    {rest : Prog Sys (Option Int)} {d : Instance} (hp : Follows (some { p with rest := rest }) (some d)) :
    Refines (m.after i p rest (.access .stopFlag)) ((system m instances).foundFlag i f d) := by
  refine ⟨Function.update instances i (some d), ?_, fun j => ?_⟩
  · simp only [Machine.after, hf]
    rfl
  · simp only [Machine.after, hf]
    exact follows_update h hp j

theorem after_absent (hf : m.flag = none) (rest : Prog Sys (Option Int)) :
    m.after i p rest (.access .stopFlag) = m.setProcess i (some { p with rest := rest }) := by
  simp only [Machine.after, hf]

/-- The flag has been removed. -/
theorem refines_unlinked (h : ∀ i, Follows (m.processes i) (instances i)) {rest : Prog Sys (Option Int)} {d : Instance}
    (hp : Follows (some { p with rest := rest }) (some d)) :
    Refines (m.after i p rest (.unlink .stopFlag)) ((system m instances).unlinkFlag.setInstance i (some d)) :=
  ⟨Function.update instances i (some d), rfl, follows_update h hp⟩

theorem flag_of_found (h : true = m.flag.isSome) : ∃ f, m.flag = some f := Option.isSome_iff_exists.mp h.symm

theorem flag_of_absent (h : false = m.flag.isSome) : m.flag = none := by
  cases hf : m.flag with
  | none => rfl
  | some f =>
    rw [hf] at h
    cases h

/-- A call of a process is no step of its instance, or one, or two. -/
theorem call_refines (h : ∀ i, Follows (m.processes i) (instances i)) (hp : m.processes i = some p) {c : Call}
    {k : c.Reply → Prog Sys (Option Int)} (hrest : p.rest = .call c k) (r : c.Reply) (hr : m.replies p c r) :
    ∃ s, ReflTransGen Step (system m instances) s ∧ Refines (m.after i p (k r) c) s := by
  have hfollows := h i
  rw [hp] at hfollows
  generalize hd : instances i = od at hfollows
  cases hfollows with
  | @some _ d clearing hconforms hrunning =>
    obtain ⟨pc, g⟩ := d
    rw [hrest] at hconforms
    obtain ⟨y, hmove, hy⟩ := hconforms r trivial
    have hi : (system m instances).instances i = some ⟨pc, g⟩ := hd
    have hg : g = (p.gRunning && !clearing) := hrunning
    -- For the calls that the protocol does not know: its system stays as it is.
    have quiet : ∀ {p' : Process}, Follows (some p') (some ⟨pc, g⟩) →
        Refines (m.setProcess i (some p')) (system m instances) := fun hf => refines_quiet h (hd ▸ hf)
    cases hmove with
    | begins => exact ⟨_, .refl, quiet (.some false hy hg)⟩
    | mainGoes =>
      have hgoes : g = true := gRunning_of_test hg hr
      exact ⟨_, .single (.mainGoes hi rfl hgoes), refines_moved h (.some false hy hg)⟩
    | mainEnds =>
      have hends : g = false := gRunning_of_test hg hr
      exact ⟨_, .single (.mainEnds hi rfl hends), refines_moved h (.some false hy hg)⟩
    | mainFound =>
      obtain ⟨f, hf⟩ := flag_of_found hr
      exact ⟨_, .single (.mainFound hi rfl hf), refines_found h hf (.some false hy hg)⟩
    | mainNotFound =>
      have hf : m.flag = none := flag_of_absent hr
      rw [after_absent hf]
      exact ⟨_, .single (.mainNotFound hi rfl hf), refines_moved h (.some false hy hg)⟩
    | mainUnlinks =>
      -- The protocol stops the loop in this step already, the process with its next call.
      exact ⟨_, .single (.mainUnlinks hi rfl), refines_unlinked h (.some true hy (Bool.and_false _).symm)⟩
    | mainClears =>
      -- In the protocol, the loop was stopped by the `unlink`.
      have hcleared : g = false := by rw [hg]; exact Bool.and_false _
      exact ⟨_, .refl, quiet (.some false hy hcleared)⟩
    | prepares hc =>
      -- What the preparations ask for concerns neither the flag nor the loop.
      have hclear : c ≠ .clearRunning := by rintro rfl; cases hc
      have hunlink : c ≠ .unlink .stopFlag := by rintro rfl; cases hc
      have haccess : c ≠ .access .stopFlag := by rintro rfl; cases hc
      rw [after_quiet ⟨hclear, hunlink, haccess⟩]
      exact ⟨_, .refl, quiet (.some false hy hg)⟩
    | mainNoRadar => exact ⟨_, .refl, quiet (.some false hy hg)⟩
    | mainTarget => exact ⟨_, .single (.mainTarget hi rfl), refines_moved h (.some false hy hg)⟩
    | mainNoTarget => exact ⟨_, sleeps (.mainNoTarget hi rfl), refines_moved h (.some false hy hg)⟩
    | radarGoes =>
      have hgoes : g = true := gRunning_of_test hg hr
      exact ⟨_, .single (.radarGoes hi rfl hgoes), refines_moved h (.some false hy hg)⟩
    | radarEnds =>
      have hends : g = false := gRunning_of_test hg hr
      exact ⟨_, .single (.radarEnds hi rfl hends), refines_moved h (.some false hy hg)⟩
    | radarFound =>
      obtain ⟨f, hf⟩ := flag_of_found hr
      exact ⟨_, .single (.radarFound hi rfl hf), refines_found h hf (.some false hy hg)⟩
    | radarNotFound =>
      have hf : m.flag = none := flag_of_absent hr
      rw [after_absent hf]
      exact ⟨_, .single (.radarNotFound hi rfl hf), refines_moved h (.some false hy hg)⟩
    | radarUnlinks =>
      exact ⟨_, .single (.radarUnlinks hi rfl), refines_unlinked h (.some true hy (Bool.and_false _).symm)⟩
    | radarClears =>
      have hcleared : g = false := by rw [hg]; exact Bool.and_false _
      exact ⟨_, .refl, quiet (.some false hy hcleared)⟩
    | radarLooks => exact ⟨_, .refl, quiet (.some false hy hg)⟩
    | radarTicks => exact ⟨_, .refl, quiet (.some false hy hg)⟩
    | radarTicked => exact ⟨_, .single (.radarTicked hi rfl), refines_moved h (.some false hy hg)⟩
    | radarLeft => exact ⟨_, .single (.radarLeft hi rfl), refines_moved h (.some false hy hg)⟩
    | radarDestroys => exact ⟨_, .refl, quiet (.some false hy hg)⟩
    | radarReleases => exact ⟨_, .refl, quiet (.some false hy hg)⟩
    | radarDestroyed => exact ⟨_, sleeps (.radarDestroyed hi rfl), refines_moved h (.some false hy hg)⟩
    | leaves hpath =>
      rw [after_quiet ⟨Call.noConfusion, fun heq => hpath (Call.unlink.inj heq), Call.noConfusion⟩]
      exact ⟨_, .refl, quiet (.some false hy hg)⟩

theorem step_refines {m' : Machine} {s : System} (h : Refines m s) (hs : MachineStep m m') :
    ∃ s', ReflTransGen Step s s' ∧ Refines m' s' := by
  obtain ⟨instances, rfl, hfollows⟩ := h
  -- Which instances live is seen from the processes, so both sides write the same flag.
  have written : (system m instances).writeFlag = system m.writeFlag instances := by
    have hsome : (fun i => (instances i).isSome) = fun i => (m.processes i).isSome :=
      funext fun i => (hfollows i).isSome
    rw [System.writeFlag, show (system m instances).instances = instances from rfl, hsome]
    rfl
  -- A signal stops the loop of the process and that of its instance.
  have signalled : ∀ {i p}, m.processes i = some p → ∃ d, instances i = some d ∧
      Follows (some { p with gRunning := false }) (some { d with gRunning := false }) := by
    intro i p hp
    have hi := hfollows i
    rw [hp] at hi
    generalize instances i = od at hi
    cases hi with
    | @some _ d clearing hconforms _ => exact ⟨d, rfl, .some clearing hconforms (Bool.false_and _).symm⟩
  cases hs with
  | overlayFlag hidle =>
    refine ⟨_, .single (.overlayFlag hidle), instances, ?_, hfollows⟩
    rw [written]
    rfl
  | overlayNoFlag hidle => exact ⟨_, .single (.overlayNoFlag hidle), instances, rfl, hfollows⟩
  | overlayKill hstopping => exact ⟨_, .single (.overlayKill hstopping), fun _ => none, rfl, fun _ => .none⟩
  | appFlag hidle =>
    refine ⟨_, .single (.appFlag hidle), instances, ?_, hfollows⟩
    rw [written]
    rfl
  | appNoFlag hidle => exact ⟨_, .single (.appNoFlag hidle), instances, rfl, hfollows⟩
  | appNoDaemon happ => exact ⟨_, .single (.appNoDaemon happ), instances, rfl, hfollows⟩
  | appTerm happ hp =>
    obtain ⟨d, hd, hf⟩ := signalled hp
    exact ⟨_, .single (.appTerm happ hd), Function.update instances _ _, rfl, follows_update hfollows hf⟩
  | appKill happ =>
    exact ⟨_, .single (.appKill happ), Function.update instances _ _, rfl, follows_update hfollows .none⟩
  | appSpare happ => exact ⟨_, .single (.appSpare happ), instances, rfl, hfollows⟩
  | appClear => exact ⟨_, .single .appClear, instances, rfl, hfollows⟩
  | term hp =>
    obtain ⟨d, hd, hf⟩ := signalled hp
    exact ⟨_, .single (.term hd), Function.update instances _ _, rfl, follows_update hfollows hf⟩
  | kill => exact ⟨_, .single .kill, Function.update instances _ _, rfl, follows_update hfollows .none⟩
  | call r hp hrest hr => exact call_refines hfollows hp hrest r hr
  | @exits i p code hp hrest =>
    have hi := hfollows i
    rw [hp] at hi
    generalize hd : instances i = od at hi
    cases hi with
    | @some _ d clearing hconforms _ =>
      rw [hrest] at hconforms
      -- A program that has ended is at the place where the protocol leaves.
      have hplace := hconforms code rfl
      have hpc : d.pc = .leaving := congrArg Place.pc hplace
      exact ⟨_, .single (.exits hd hpc), Function.update instances _ _, rfl, follows_update hfollows .none⟩

theorem start_refines {s : System} (h : Refines m s) (fuel : Nat) : Refines (m.start fuel) s.start := by
  obtain ⟨instances, rfl, hfollows⟩ := h
  refine ⟨Function.update instances m.started (some ⟨.mainTest, true⟩), rfl, follows_update hfollows ?_⟩
  exact .some false (main_obeys fuel _ rfl) rfl

theorem run_steps {mayStart : System → Prop} {s s' : System} (h : Run mayStart s) (hs : ReflTransGen Step s s') :
    Run mayStart s' := by
  induction hs with
  | refl => exact h
  | tail _ hstep ih => exact .step ih hstep

theorem refines_of_run {mayStart : Machine → Prop} (h : MachineRun mayStart m) :
    ∃ s, Run (fun s => ∃ m, Refines m s ∧ mayStart m) s ∧ Refines m s := by
  induction h with
  | boot => exact ⟨System.boot, .boot, fun _ => none, rfl, fun _ => .none⟩
  | step _ hs ih =>
    obtain ⟨s, hrun, hrefines⟩ := ih
    obtain ⟨s', hsteps, hrefines'⟩ := step_refines hrefines hs
    exact ⟨s', run_steps hrun hsteps, hrefines'⟩
  | @start m fuel _ hmay ih =>
    obtain ⟨s, hrun, hrefines⟩ := ih
    exact ⟨s.start, .start hrun ⟨m, hrefines, hmay⟩, start_refines hrefines fuel⟩

/-- Whatever the processes, the overlay and the app do together, the stop protocol does too: with the same flag, the
    same starts and the same history of who was stopped by which flag. -/
theorem machine_refines {mayStart : Machine → Prop} (h : MachineRun mayStart m) :
    ∃ s, Run (fun s => ∃ m, Refines m s ∧ mayStart m) s ∧ Refines m s :=
  refines_of_run h

/-- So a flag stops no process that was started after it was written, if none is started while there is one. -/
theorem stopped_running {mayStart : Machine → Prop} (clean : ∀ m, mayStart m → m.flag = none)
    (h : MachineRun mayStart m) : ∀ q ∈ m.stopped, q.2.running q.1 = true := by
  obtain ⟨s, hrun, instances, rfl, -⟩ := refines_of_run h
  refine (StopFlag.run_inv (fun s _ hmay => ?_) hrun).meant
  obtain ⟨m', ⟨instances', rfl, -⟩, hmay'⟩ := hmay
  exact clean m' hmay'

/-- A daemon that was started while the overlay was about to write the flag. -/
def flagged : Machine := { (Machine.boot.start 1).writeFlag with overlayStopping := true }

theorem flagged_run : MachineRun (fun m => m.flag = none) flagged :=
  .step (.start 1 .boot rfl) (.overlayFlag rfl)

theorem machine_refines_flagged :
    ∃ s, Run (fun s => ∃ m, Refines m s ∧ m.flag = none) s ∧ Refines flagged s :=
  machine_refines flagged_run

end Simulation

end Processes
end RadarAim.Daemon

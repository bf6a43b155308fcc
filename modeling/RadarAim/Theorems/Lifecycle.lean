import RadarAim.Daemon.Main

/-! What the program of the daemon holds while it runs, whatever the system answers and whenever signals arrive: the
    task of the target and the radar are taken and given back in pairs, and a tick is made only of the process that
    was found last, while no stop is asked for. -/

namespace RadarAim.Daemon
namespace Lifecycle
open Prog

/-- The stop flag as the program has seen it. -/
inductive StopFlag where
  | absent
  | found
  | removed
  deriving DecidableEq

/-- What the program has done so far. -/
structure Life where
  running : Bool
  stopFlag : StopFlag
  /-- The process that was found last. -/
  target : Int
  /-- The marker file is open. -/
  writing : Bool
  /-- The contents of the marker file. -/
  marker : Str
  /-- The task that is held, and the process that it is of. -/
  task : Option (Int × UInt32)
  /-- `radar_init` has succeeded, and there was no `radar_destroy` since. -/
  radar : Bool
  pidFile : Bool
  deriving DecidableEq

def begin : Life where
  running := true
  stopFlag := .absent
  target := 0
  writing := false
  marker := []
  task := none
  radar := false
  pidFile := false

/-- Nothing is held. -/
def Life.idle (s : Life) : Bool := s.task = none ∧ !s.radar ∧ !s.writing

/-- A process may be served: the one that was asked for, or the target that was found, once it is told of. -/
def Life.mayServe (mode : Mode) (pid : Int) (s : Life) : Bool :=
  match mode with
  | .dumpOnce _ => false
  | .direct p => pid = p
  | .service => pid ≠ 0 ∧ pid = s.target ∧ s.marker = kMarkerText

def Life.holds (task : UInt32) (s : Life) : Bool := s.task.map Prod.snd = some task

def allow (allowed : Bool) (s : Life) : Option Life := if allowed then some s else none

/-- The calls that are allowed, and what they change. -/
def Life.next (mode : Mode) (s : Life) : (c : Call) → c.Reply → Option Life
  | .testRunning, r => some { s with running := r }
  | .clearRunning, _ => allow (s.stopFlag = .removed) { s with running := false }
  | .writePidFile, _ => allow s.idle { s with pidFile := true }
  | .access p, r => allow (p = .stopFlag) { s with stopFlag := if r then .found else .absent }
  | .unlink .stopFlag, _ => allow (s.stopFlag = .found) { s with stopFlag := .removed }
  | .unlink .pidFile, _ => allow s.idle { s with pidFile := false }
  | .unlink .radarFile, _ => allow (s.idle ∧ mode = .service) s
  | .processes, r => some { s with target := targetIn r }
  | .mkdir, _ => allow s.idle s
  | .openMarker, r => allow s.idle (if r then { s with writing := true, marker := [] } else s)
  | .write data, .wrote n => allow s.writing { s with marker := s.marker ++ data.take n.val }
  | .write _, _ => allow s.writing s
  | .fsync, _ => allow s.writing s
  | .close, _ => allow s.writing { s with writing := false }
  | .chown, _ => allow (s.idle ∧ s.marker = kMarkerText) s
  | .taskAcquire pid, r => allow (s.idle ∧ s.mayServe mode pid) { s with task := r.map fun task => (pid, task) }
  | .taskRelease task, _ => allow (s.holds task ∧ !s.radar) { s with task := none }
  | .getSlide task, _ => allow (s.holds task ∧ !s.radar) s
  | .radarInit task _ _, r => allow (s.holds task ∧ !s.radar) { s with radar := r }
  | .radarTick, _ =>
    allow (s.radar ∧ s.task.map Prod.fst = some s.target ∧ s.running ∧ s.stopFlag = .absent) s
  | .radarDestroy, _ => allow s.radar { s with radar := false }
  | .sdkGenerate pid, _ => allow (s.idle ∧ !s.pidFile ∧ mode = .dumpOnce pid) s
  | .usleep _, _ => allow (!s.writing) s

/-- `gRunning` is not set again once it is cleared. -/
def Life.hears (s : Life) : (c : Call) → c.Reply → Prop
  | .testRunning, r => r = true → s.running = true
  | _, _ => True

def lifecycle (mode : Mode) : Protocol Sys Life := ⟨Life.hears, fun s c r t => s.next mode c r = some t⟩

theorem allow_of {allowed : Bool} {s : Life} (h : allowed = true) : allow allowed s = some s := if_pos h

section Calls
variable {mode : Mode} {pre : Life → Prop} {s : Life}

theorem ask_obeys {c : Call} {post : c.Reply → Life → Prop}
    (h : ∀ s, pre s → ∀ r, s.hears c r → ∃ t, s.next mode c r = some t ∧ post r t) :
    Obeys (lifecycle mode) pre (ask c) post := Obeys.ask h

/-- A call with one reply, which nothing but a permission depends on. -/
theorem do_obeys {c : Call} {post : c.Reply → Life → Prop} (f : Life → Life)
    (h : ∀ s, pre s → ∀ r, s.next mode c r = some (f s)) (hpost : ∀ s, pre s → ∀ r, post r (f s)) :
    Obeys (lifecycle mode) pre (ask c) post :=
  ask_obeys fun s hs r _ => ⟨f s, h s hs r, hpost s hs r⟩

theorem testRunning_obeys {post : Bool → Life → Prop}
    (h : ∀ s, pre s → ∀ r, (r = true → s.running = true) → post r { s with running := r }) :
    Obeys (lifecycle mode) pre (ask .testRunning) post :=
  ask_obeys fun s hs r hr => ⟨{ s with running := r }, rfl, h s hs r hr⟩

theorem findTargetProcess_obeys {post : Int → Life → Prop} (h : ∀ s, pre s → ∀ pid, post pid { s with target := pid }) :
    Obeys (lifecycle mode) pre findTargetProcess post := by
  have hask : Obeys (lifecycle mode) pre (ask .processes) fun r s => post (targetIn r) s :=
    ask_obeys fun s hs r _ => ⟨{ s with target := targetIn r }, rfl, h s hs (targetIn r)⟩
  exact hask.map fun _ _ hpost => hpost

/-- The stop flag is looked for. -/
theorem stopFlagged_obeys {post : Bool → Life → Prop}
    (hfound : ∀ s, pre s → post true { s with stopFlag := .removed, running := false })
    (habsent : ∀ s, pre s → post false { s with stopFlag := .absent }) :
    Obeys (lifecycle mode) pre stopFlagged post := by
  have haccess : Obeys (lifecycle mode) pre (ask (.access .stopFlag)) fun r s =>
      ∃ s₀, pre s₀ ∧ s = { s₀ with stopFlag := if r then .found else .absent } :=
    ask_obeys fun s hs r _ => ⟨_, allow_of (decide_eq_true rfl), s, hs, rfl⟩
  refine haccess.bind fun r => Obeys.ite (fun hr => ?_) fun hr => Obeys.pure fun s hs => ?_
  · subst hr
    have hunlink : Obeys (lifecycle mode) (fun s => ∃ s₀, pre s₀ ∧ s = { s₀ with stopFlag := .found })
        (ask (.unlink .stopFlag)) fun _ s => ∃ s₀, pre s₀ ∧ s = { s₀ with stopFlag := .removed } := by
      refine do_obeys (fun s => { s with stopFlag := .removed }) (fun s hs _ => ?_) fun s hs _ => ?_
      · obtain ⟨s₀, -, rfl⟩ := hs
        rfl
      · obtain ⟨s₀, hs₀, rfl⟩ := hs
        exact ⟨s₀, hs₀, rfl⟩
    have hclear : Obeys (lifecycle mode) (fun s => ∃ s₀, pre s₀ ∧ s = { s₀ with stopFlag := .removed })
        (ask .clearRunning) fun _ s => post true s := by
      refine do_obeys (fun s => { s with running := false }) (fun s hs _ => ?_) fun s hs _ => ?_
      · obtain ⟨s₀, -, rfl⟩ := hs
        rfl
      · obtain ⟨s₀, hs₀, rfl⟩ := hs
        exact hfound s₀ hs₀
    exact hunlink.bind fun _ => hclear.bind fun _ => Obeys.pure fun s hs => hs
  · obtain ⟨s₀, hs₀, rfl⟩ := hs
    rw [Bool.not_eq_true] at hr
    subst hr
    exact habsent s₀ hs₀

end Calls

/-! ### The marker -/

section Marker
variable {mode : Mode} {s₀ : Life}

/-- `text` is being written, and `data` is left of it. -/
def Writing (s₀ : Life) (text data : Str) (s : Life) : Prop :=
  ∃ m, s = { s₀ with writing := true, marker := m } ∧ m ++ data = text

/-- No more of `text` is written, and if `ok`, all of it was. -/
def Tried (s₀ : Life) (text : Str) (ok : Bool) (s : Life) : Prop :=
  ∃ m, s = { s₀ with writing := true, marker := m } ∧ (ok = true → m = text)

theorem Writing.done {text : Str} {s : Life} (h : Writing s₀ text [] s) : Tried s₀ text true s := by
  obtain ⟨m, rfl, hm⟩ := h
  exact ⟨m, rfl, fun _ => by rwa [List.append_nil] at hm⟩

theorem Writing.failed {text data : Str} {s : Life} (h : Writing s₀ text data s) : Tried s₀ text false s := by
  obtain ⟨m, rfl, -⟩ := h
  exact ⟨m, rfl, fun h => absurd h Bool.false_ne_true⟩

/-- What is left of `data` after a call of `write`. -/
def leftOf (data : Str) : Written data.length → Str
  | .wrote n => data.drop n.val
  | _ => data

theorem write_obeys (text data : Str) :
    Obeys (lifecycle mode) (Writing s₀ text data) (ask (.write data)) fun r => Writing s₀ text (leftOf data r) := by
  refine ask_obeys fun s hs r _ => ?_
  obtain ⟨m, rfl, hm⟩ := hs
  cases r with
  | wrote n =>
    refine ⟨{ s₀ with writing := true, marker := m ++ data.take n.val }, rfl, m ++ data.take n.val, rfl, ?_⟩
    rw [List.append_assoc, leftOf, List.take_append_drop]
    exact hm
  | interrupted => exact ⟨_, rfl, m, rfl, hm⟩
  | failed => exact ⟨_, rfl, m, rfl, hm⟩

theorem writeAll_obeys {text : Str} (fuel : Nat) (data : Str) :
    Obeys (lifecycle mode) (Writing s₀ text data) (writeAll fuel data) (Tried s₀ text) := by
  induction fuel generalizing data with
  | zero =>
    refine Obeys.ite (fun hdata => Obeys.pure fun s hs => ?_) fun _ => Obeys.failure
    subst hdata
    exact hs.done
  | succ fuel ih =>
    refine Obeys.ite (fun hdata => Obeys.pure fun s hs => ?_) fun _ => (write_obeys text data).bind fun r => ?_
    · subst hdata
      exact hs.done
    · cases r with
      | wrote n => exact Obeys.ite (fun _ => Obeys.pure fun s hs => hs.failed) fun _ => ih (data.drop n.val)
      | interrupted => exact ih data
      | failed => exact Obeys.pure fun s hs => hs.failed

/-- The marker has been written, or not quite. -/
def Marked (s₀ : Life) (ok : Bool) (s : Life) : Prop :=
  ∃ m, s = { s₀ with marker := m } ∧ (ok = true → m = kMarkerText)

/-- The calls between the writing and the result. -/
theorem writeOpenMarker_obeys (hidle : s₀.idle = true) (fuel : Nat) :
    Obeys (lifecycle mode) (fun s => s = { s₀ with writing := true, marker := [] }) (writeOpenMarker fuel)
      (Marked s₀) := by
  have hwrite : Obeys (lifecycle mode) (fun s => s = { s₀ with writing := true, marker := [] })
      (writeAll fuel kMarkerText) (Tried s₀ kMarkerText) :=
    (writeAll_obeys fuel kMarkerText).from fun s hs => ⟨[], hs, rfl⟩
  have hclosed : ∀ m, { s₀ with writing := false, marker := m } = { s₀ with marker := m } := by
    intro m
    simp only [Life.idle, Bool.decide_and, Bool.and_eq_true, decide_eq_true_eq, Bool.not_eq_true'] at hidle
    rw [← hidle.2.2]
  have hclose : ∀ ok, Obeys (lifecycle mode) (Tried s₀ kMarkerText ok) (ask .close) fun _ => Marked s₀ ok := by
    refine fun ok => do_obeys (fun s => { s with writing := false }) (fun s hs _ => ?_) fun s hs _ => ?_
    · obtain ⟨m, rfl, -⟩ := hs
      rfl
    · obtain ⟨m, rfl, hm⟩ := hs
      exact ⟨m, hclosed m, hm⟩
  refine hwrite.bind fun ok => Obeys.ite (fun hok => ?_) fun hok => ?_
  · subst hok
    have hsync : Obeys (lifecycle mode) (Tried s₀ kMarkerText true) (ask .fsync)
        fun _ => Tried s₀ kMarkerText true := by
      refine do_obeys id (fun s hs _ => ?_) fun s hs _ => hs
      obtain ⟨m, rfl, -⟩ := hs
      rfl
    -- The marker is given away only once its text is complete.
    have hchown : Obeys (lifecycle mode) (Marked s₀ true) (ask .chown) fun _ => Marked s₀ true := by
      refine do_obeys id (fun s hs _ => ?_) fun s hs _ => hs
      obtain ⟨m, rfl, hm⟩ := hs
      have hidle' : Life.idle { s₀ with marker := m } = true := hidle
      exact allow_of (decide_eq_true ⟨hidle', hm rfl⟩)
    exact hsync.bind fun _ => (hclose true).bind fun _ => hchown.bind fun _ => Obeys.pure fun s hs => hs
  · rw [Bool.not_eq_true] at hok
    subst hok
    exact (hclose false).bind fun _ => Obeys.pure fun s hs => hs

theorem writeMarker_obeys (hidle : s₀.idle = true) (fuel : Nat) :
    Obeys (lifecycle mode) (fun s => s = s₀) (writeMarker fuel) (Marked s₀) := by
  have same : ∀ s, s = s₀ → Marked s₀ false s := by
    rintro s rfl
    exact ⟨s.marker, rfl, fun h => absurd h Bool.false_ne_true⟩
  have hmkdir : Obeys (lifecycle mode) (fun s => s = s₀) (ask .mkdir) fun _ s => s = s₀ :=
    do_obeys id (fun s hs _ => by subst hs; exact allow_of hidle) fun s hs _ => hs
  have hopen : Obeys (lifecycle mode) (fun s => s = s₀) (ask .openMarker) fun r s =>
      s = if r then { s₀ with writing := true, marker := [] } else s₀ := by
    refine ask_obeys fun s hs r _ => ?_
    subst hs
    exact ⟨_, allow_of hidle, rfl⟩
  have hrest : Obeys (lifecycle mode) (fun s => s = s₀)
      (ask .openMarker >>= fun r => if r = true then writeOpenMarker fuel else pure false) (Marked s₀) := by
    refine hopen.bind fun r => Obeys.ite (fun hr => ?_) fun hr => Obeys.pure fun s hs => ?_
    · subst hr
      exact writeOpenMarker_obeys hidle fuel
    · rw [if_neg hr] at hs
      exact same s hs
  refine hmkdir.bind fun r => ?_
  cases r with
  | failed => exact Obeys.pure same
  | made => exact hrest
  | «exists» => exact hrest

end Marker

/-! ### The loops -/

section Loops
variable {mode : Mode} {pid : Int} {task : UInt32} {s₀ : Life}

/-- A process is being served. -/
def Serving (pid : Int) (task : UInt32) (s : Life) : Prop :=
  s.task = some (pid, task) ∧ s.radar = true ∧ s.writing = false

theorem radarLoop_obeys (fuel : Nat) :
    Obeys (lifecycle mode) (Serving pid task) (radarLoop pid fuel) fun _ => Serving pid task := by
  induction fuel with
  | zero => exact Obeys.failure
  | succ fuel ih =>
    have htest : Obeys (lifecycle mode) (Serving pid task) (ask .testRunning) fun r s =>
        Serving pid task s ∧ s.running = r :=
      testRunning_obeys fun s hs r _ => ⟨hs, rfl⟩
    refine htest.bind fun r => Obeys.ite (fun hr => ?_) fun _ => Obeys.pure fun s hs => hs.1
    subst hr
    have hflag : Obeys (lifecycle mode) (fun s => Serving pid task s ∧ s.running = true) stopFlagged fun b s =>
        Serving pid task s ∧ (b = false → s.running = true ∧ s.stopFlag = .absent) :=
      stopFlagged_obeys (fun s hs => ⟨hs.1, fun h => absurd h.symm Bool.false_ne_true⟩)
        fun s hs => ⟨hs.1, fun _ => ⟨hs.2, rfl⟩⟩
    refine hflag.bind fun b => Obeys.ite (fun _ => Obeys.pure fun s hs => hs.1) fun hb => ?_
    rw [Bool.not_eq_true] at hb
    subst hb
    have hfind : Obeys (lifecycle mode)
        (fun s => Serving pid task s ∧ (false = false → s.running = true ∧ s.stopFlag = .absent)) findTargetProcess
        fun cur s => (Serving pid task s ∧ s.running = true ∧ s.stopFlag = .absent) ∧ s.target = cur :=
      findTargetProcess_obeys fun s hs cur => ⟨⟨hs.1, hs.2 rfl⟩, rfl⟩
    refine hfind.bind fun cur => Obeys.ite (fun _ => Obeys.pure fun s hs => hs.1.1) fun hcur => ?_
    rw [not_not] at hcur
    subst hcur
    -- The process found last is the one served, and no stop has been asked for.
    have htick : Obeys (lifecycle mode)
        (fun s => (Serving cur task s ∧ s.running = true ∧ s.stopFlag = .absent) ∧ s.target = cur)
        (ask .radarTick) fun _ => Serving cur task := by
      refine do_obeys id (fun s hs _ => allow_of (decide_eq_true ?_)) fun s hs _ => hs.1.1
      obtain ⟨⟨⟨htask, hradar, -⟩, hrunning, hflag⟩, htarget⟩ := hs
      exact ⟨hradar, by rw [htask, htarget]; rfl, hrunning, hflag⟩
    have hsleep : Obeys (lifecycle mode) (Serving cur task) (ask (.usleep 50000)) fun _ => Serving cur task :=
      do_obeys id (fun s hs _ => allow_of (by rw [hs.2.2]; rfl)) fun s hs _ => hs
    exact htick.bind fun _ => hsleep.bind fun _ => ih

/-- A task is held, and nothing else. -/
def Holding (pid : Int) (task : UInt32) (s : Life) : Prop :=
  s.task = some (pid, task) ∧ s.radar = false ∧ s.writing = false

theorem Holding.allowed {s : Life} (h : Holding pid task s) :
    decide (s.holds task = true ∧ (!s.radar) = true) = true := by
  refine decide_eq_true ⟨?_, by rw [h.2.1]; rfl⟩
  rw [Life.holds, h.1]
  exact decide_eq_true rfl

theorem idle_iff {s : Life} : s.idle = true ↔ s.task = none ∧ s.radar = false ∧ s.writing = false := by
  simp [Life.idle]

theorem serveTask_obeys (fuel : Nat) :
    Obeys (lifecycle mode) (Holding pid task) (serveTask fuel pid task) fun _ => Holding pid task := by
  have hslide : Obeys (lifecycle mode) (Holding pid task) (ask (.getSlide task)) fun _ => Holding pid task :=
    do_obeys id (fun s hs _ => allow_of hs.allowed) fun s hs _ => hs
  have hinit : ∀ base slide, Obeys (lifecycle mode) (Holding pid task) (ask (.radarInit task base slide)) fun r s =>
      if r then Serving pid task s else Holding pid task s := by
    intro base slide
    refine ask_obeys fun s hs r _ => ⟨{ s with radar := r }, allow_of hs.allowed, ?_⟩
    cases r with
    | false => exact ⟨hs.1, rfl, hs.2.2⟩
    | true => exact ⟨hs.1, rfl, hs.2.2⟩
  have hdestroy : Obeys (lifecycle mode) (Serving pid task) (ask .radarDestroy) fun _ => Holding pid task :=
    do_obeys (fun s => { s with radar := false }) (fun s hs _ => allow_of hs.2.1) fun s hs _ => ⟨hs.1, rfl, hs.2.2⟩
  refine hslide.bind fun aslr => Obeys.ite (fun _ => ?_) fun _ => Obeys.pure fun s hs => hs
  refine (hinit aslr.base aslr.slide).bind fun r => Obeys.ite (fun hr => ?_) fun hr => Obeys.pure fun s hs => ?_
  · subst hr
    exact (radarLoop_obeys fuel).bind fun _ => hdestroy
  · rwa [if_neg hr] at hs

/-- Whatever way the serving of a process ends, nothing is held afterwards. -/
theorem runRadarLoop_obeys (fuel : Nat) :
    Obeys (lifecycle mode) (fun s => s.idle = true ∧ s.mayServe mode pid = true) (runRadarLoop fuel pid) fun _ s =>
      s.idle = true := by
  have hacquire : Obeys (lifecycle mode) (fun s => s.idle = true ∧ s.mayServe mode pid = true) (ask (.taskAcquire pid))
      fun r s => (r = none → s.idle = true) ∧ ∀ task, r = some task → Holding pid task s := by
    refine ask_obeys fun s hs r _ =>
      ⟨{ s with task := r.map fun task => (pid, task) }, allow_of (decide_eq_true hs), ?_⟩
    obtain ⟨-, hradar, hwriting⟩ := idle_iff.mp hs.1
    refine ⟨fun hr => ?_, fun task hr => ?_⟩
    · subst hr
      exact idle_iff.mpr ⟨rfl, hradar, hwriting⟩
    · subst hr
      exact ⟨rfl, hradar, hwriting⟩
  refine hacquire.bind fun r => ?_
  cases r with
  | none => exact Obeys.pure fun s hs => hs.1 rfl
  | some task =>
    have hrelease : Obeys (lifecycle mode) (Holding pid task) (ask (.taskRelease task)) fun _ s => s.idle = true :=
      do_obeys (fun s => { s with task := none }) (fun s hs _ => allow_of hs.allowed)
        fun s hs _ => idle_iff.mpr ⟨rfl, hs.2.1, hs.2.2⟩
    have hserve : Obeys (lifecycle mode)
        (fun s => (some task = none → s.idle = true) ∧ ∀ task', some task = some task' → Holding pid task' s)
        (serveTask fuel pid task) fun _ => Holding pid task :=
      (serveTask_obeys fuel).from fun s hs => hs.2 task rfl
    exact hserve.bind fun _ => hrelease

end Loops

/-! ### The service -/

section Service
variable {mode : Mode}

theorem serveTarget_obeys (fuel : Nat) (lastReportedPid : Int) :
    Obeys (lifecycle .service) (fun s => s.idle = true) (serveTarget fuel lastReportedPid) fun _ s =>
      s.idle = true := by
  have hfind : Obeys (lifecycle .service) (fun s => s.idle = true) findTargetProcess fun pid s =>
      s.idle = true ∧ s.target = pid :=
    findTargetProcess_obeys fun s hs pid => ⟨hs, rfl⟩
  refine hfind.bind fun pid => Obeys.ite (fun hpid => ?_) fun _ => Obeys.pure fun s hs => hs.1
  have hmark : Obeys (lifecycle .service) (fun s => s.idle = true ∧ s.target = pid) (writeMarker fuel) fun ok s =>
      s.idle = true ∧ (ok = true → s.mayServe .service pid = true) := by
    intro s₀ hs₀
    refine (writeMarker_obeys hs₀.1 fuel s₀ rfl).imp fun o t ht ok hok => ?_
    obtain ⟨m, rfl, hm⟩ := ht ok hok
    exact ⟨hs₀.1, fun h => decide_eq_true ⟨hpid.1, hs₀.2.symm, hm h⟩⟩
  refine hmark.bind fun ok => Obeys.ite (fun hok => ?_) fun _ => Obeys.pure fun s hs => hs.1
  subst hok
  have hrun : Obeys (lifecycle .service) (fun s => s.idle = true ∧ (true = true → s.mayServe .service pid = true))
      (runRadarLoop fuel pid) fun _ s => s.idle = true :=
    (runRadarLoop_obeys fuel).from fun s hs => ⟨hs.1, hs.2 rfl⟩
  exact hrun.bind fun _ => Obeys.pure fun s hs => hs

/-- The service ends when it was told to. -/
theorem mainLoop_obeys (fuel : Nat) (lastReportedPid : Int) :
    Obeys (lifecycle .service) (fun s => s.idle = true) (mainLoop fuel lastReportedPid) fun _ s =>
      s.idle = true ∧ s.running = false := by
  induction fuel generalizing lastReportedPid with
  | zero => exact Obeys.failure
  | succ fuel ih =>
    have htest : Obeys (lifecycle .service) (fun s => s.idle = true) (ask .testRunning) fun r s =>
        s.idle = true ∧ s.running = r :=
      testRunning_obeys fun s hs r _ => ⟨hs, rfl⟩
    refine htest.bind fun r => Obeys.ite (fun hr => ?_) fun hr => Obeys.pure fun s hs => ?_
    · subst hr
      have hflag : Obeys (lifecycle .service) (fun s => s.idle = true ∧ s.running = true) stopFlagged fun b s =>
          s.idle = true ∧ (b = true → s.running = false) :=
        stopFlagged_obeys (fun s hs => ⟨hs.1, fun _ => rfl⟩) fun s hs => ⟨hs.1, fun h => absurd h Bool.false_ne_true⟩
      refine hflag.bind fun b => Obeys.ite (fun hb => Obeys.pure fun s hs => ⟨hs.1, hs.2 hb⟩) fun _ => ?_
      have hserve : Obeys (lifecycle .service) (fun s => s.idle = true ∧ (b = true → s.running = false))
          (serveTarget fuel lastReportedPid) fun _ s => s.idle = true :=
        (serveTarget_obeys fuel lastReportedPid).from fun s hs => hs.1
      have hsleep : Obeys (lifecycle .service) (fun s => s.idle = true) (ask (.usleep 250000)) fun _ s =>
          s.idle = true :=
        do_obeys id (fun _ hs _ => allow_of (by rw [(idle_iff.mp hs).2.2]; rfl)) fun _ hs _ => hs
      exact hserve.bind fun last => hsleep.bind fun _ => ih last
    · rw [Bool.not_eq_true] at hr
      exact ⟨hs.1, hs.2.trans hr⟩

theorem unlinkPidFile_obeys :
    Obeys (lifecycle mode) (fun s => s.idle = true) (ask (.unlink .pidFile)) fun _ s =>
      s.idle = true ∧ s.pidFile = false :=
  do_obeys (fun s => { s with pidFile := false }) (fun _ hs _ => allow_of hs) fun _ hs _ => ⟨hs, rfl⟩

theorem dumpOnce_obeys (pid : Int) :
    Obeys (lifecycle (.dumpOnce pid)) (fun s => s.idle = true)
      (ask (.unlink .pidFile) >>= fun _ =>
        if 0 < pid then (ask (.sdkGenerate pid) >>= fun r => if r = true then pure (0 : Int) else pure 1) else pure 1)
      fun _ s => s.idle = true ∧ s.pidFile = false := by
  refine unlinkPidFile_obeys.bind fun _ => Obeys.ite (fun _ => ?_) fun _ => Obeys.pure fun s hs => hs
  have hgenerate : Obeys (lifecycle (.dumpOnce pid)) (fun s => s.idle = true ∧ s.pidFile = false)
      (ask (.sdkGenerate pid)) fun _ s => s.idle = true ∧ s.pidFile = false := by
    refine do_obeys id (fun s hs _ => allow_of (decide_eq_true ?_)) fun s hs _ => hs
    exact ⟨hs.1, by rw [hs.2]; rfl, rfl⟩
  exact hgenerate.bind fun r => Obeys.ite (fun _ => Obeys.pure fun s hs => hs) fun _ => Obeys.pure fun s hs => hs

theorem direct_obeys (fuel : Nat) (pid : Int) :
    Obeys (lifecycle (.direct pid)) (fun s => s.idle = true)
      (writeMarker fuel >>= fun _ => runRadarLoop fuel pid >>= fun _ =>
        ask (.unlink .pidFile) >>= fun _ => pure (0 : Int))
      fun _ s => s.idle = true ∧ s.pidFile = false := by
  have hmark : Obeys (lifecycle (.direct pid)) (fun s => s.idle = true) (writeMarker fuel) fun _ s =>
      s.idle = true ∧ s.mayServe (.direct pid) pid = true := by
    intro s₀ hs₀
    refine (writeMarker_obeys hs₀ fuel s₀ rfl).imp fun o t ht ok hok => ?_
    obtain ⟨m, rfl, -⟩ := ht ok hok
    exact ⟨hs₀, decide_eq_true rfl⟩
  exact hmark.bind fun _ => (runRadarLoop_obeys fuel).bind fun _ => unlinkPidFile_obeys.bind fun _ =>
    Obeys.pure fun s hs => hs

theorem service_obeys (fuel : Nat) :
    Obeys (lifecycle .service) (fun s => s.idle = true)
      (mainLoop fuel 0 >>= fun _ => ask (.unlink .pidFile) >>= fun _ => ask (.unlink .radarFile) >>= fun _ =>
        pure (0 : Int))
      fun _ s => (s.idle = true ∧ s.pidFile = false) ∧ s.running = false := by
  have hpid : Obeys (lifecycle .service) (fun s => s.idle = true ∧ s.running = false) (ask (.unlink .pidFile))
      fun _ s => (s.idle = true ∧ s.pidFile = false) ∧ s.running = false :=
    do_obeys (fun s => { s with pidFile := false }) (fun s hs _ => allow_of hs.1) fun s hs _ => ⟨⟨hs.1, rfl⟩, hs.2⟩
  have hradar : Obeys (lifecycle .service) (fun s => (s.idle = true ∧ s.pidFile = false) ∧ s.running = false)
      (ask (.unlink .radarFile)) fun _ s => (s.idle = true ∧ s.pidFile = false) ∧ s.running = false :=
    do_obeys id (fun _ hs _ => allow_of (decide_eq_true ⟨hs.1.1, rfl⟩)) fun _ hs _ => hs
  exact (mainLoop_obeys fuel 0).bind fun _ => hpid.bind fun _ => hradar.bind fun _ => Obeys.pure fun s hs => hs

/-- Every run of the program, or the part of it that has been seen, makes only calls that are allowed. When the program
    returns, nothing is held and its PID file is gone; the service returns only after it was told to stop. -/
theorem main_lifecycle (fuel : Nat) (args : List Str) :
    Obeys (lifecycle (modeOf args)) (fun s => s = begin) (main fuel args) fun _ s =>
      (s.idle = true ∧ s.pidFile = false) ∧ (modeOf args = .service → s.running = false) := by
  rw [main]
  generalize modeOf args = mode
  have hwrite : Obeys (lifecycle mode) (fun s => s = begin) (ask .writePidFile) fun _ s => s.idle = true := by
    refine do_obeys (fun s => { s with pidFile := true }) (fun s hs _ => ?_) fun s hs _ => ?_
    · subst hs
      rfl
    · subst hs
      rfl
  refine hwrite.bind fun _ => ?_
  cases mode with
  | dumpOnce pid => exact (dumpOnce_obeys pid).imp (fun _ h => h) fun _ _ hs => ⟨hs, fun h => by cases h⟩
  | direct pid => exact (direct_obeys fuel pid).imp (fun _ h => h) fun _ _ hs => ⟨hs, fun h => by cases h⟩
  | service => exact (service_obeys fuel).imp (fun _ h => h) fun _ _ hs => ⟨hs.1, fun _ => hs.2⟩

end Service

end Lifecycle
end RadarAim.Daemon

import Mathlib.Data.List.Basic

/-! Calls of a drawing context. Colours and a line width are set, a path is built and stroked, shapes are filled and
    stroked at once, and texts are drawn. A list of calls is a drawing if it can be made from any state of the context
    and leaves the same marks: it uses no colour and no width that it has not set, and no path but its own. -/

namespace RadarAim

inductive CanvasCall (C W P S T : Type) where
  | setFill (colour : C)
  | setStroke (colour : C)
  | setWidth (width : W)
  /-- A part of a path that may come first. -/
  | start (part : P)
  /-- A part that needs another before it. -/
  | extend (part : P)
  | strokePath
  | fill (shape : S)
  | stroke (shape : S)
  | text (t : T)

/-- What is on the canvas after a call. -/
inductive Mark (C W P S T : Type) where
  | path (parts : List P) (colour : C) (width : W)
  | filled (shape : S) (colour : C)
  | outlined (shape : S) (colour : C) (width : W)
  | text (t : T)

/-- The state of the context, as far as it is known. -/
structure Canvas (C W P : Type) where
  fill : Option C
  stroke : Option C
  width : Option W
  path : List P

namespace Canvas
variable {C W P S T : Type}

def blank : Canvas C W P := ⟨none, none, none, []⟩

/-- There is no result if the call depends on what is not known, or gives up a path that was begun. A text is drawn in a
    colour of its own, and may leave it behind. -/
def step (c : Canvas C W P) : CanvasCall C W P S T → Option (Canvas C W P × List (Mark C W P S T))
  | .setFill colour => some ({ c with fill := some colour }, [])
  | .setStroke colour => some ({ c with stroke := some colour }, [])
  | .setWidth width => some ({ c with width := some width }, [])
  | .start part => some ({ c with path := c.path ++ [part] }, [])
  | .extend part => if c.path.isEmpty then none else some ({ c with path := c.path ++ [part] }, [])
  | .strokePath =>
    if c.path.isEmpty then some (c, [])
    else c.stroke.bind fun colour => c.width.map fun width => ({ c with path := [] }, [.path c.path colour width])
  | .fill shape => if c.path.isEmpty then c.fill.map fun colour => (c, [.filled shape colour]) else none
  | .stroke shape =>
    if c.path.isEmpty then c.stroke.bind fun colour => c.width.map fun width => (c, [.outlined shape colour width])
    else none
  | .text t => if c.path.isEmpty then some ({ c with fill := none }, [.text t]) else none

def run (c : Canvas C W P) : List (CanvasCall C W P S T) → Option (Canvas C W P × List (Mark C W P S T))
  | [] => some (c, [])
  | call :: calls => (c.step call).bind fun r => (r.1.run calls).map fun s => (s.1, r.2 ++ s.2)

/-- `d` is known at least as well as `c`. -/
structure Knows (c d : Canvas C W P) : Prop where
  fill : ∀ x, c.fill = some x → d.fill = some x
  stroke : ∀ x, c.stroke = some x → d.stroke = some x
  width : ∀ x, c.width = some x → d.width = some x
  path : d.path = c.path

variable {c d : Canvas C W P} {r : Canvas C W P × List (Mark C W P S T)} {call : CanvasCall C W P S T}
  {calls calls' : List (CanvasCall C W P S T)} {marks marks' : List (Mark C W P S T)}

theorem knows_blank (h : d.path = []) : Knows blank d :=
  ⟨fun _ h => (nomatch h), fun _ h => (nomatch h), fun _ h => (nomatch h), h⟩

/-- A step that can be made can be made from a state that is known better, and leaves the same marks. -/
theorem Knows.step (h : Knows c d) (hstep : c.step call = some r) : ∃ e, d.step call = some (e, r.2) ∧ Knows r.1 e := by
  have hpath := h.path
  cases call with
  | setFill colour =>
    obtain rfl := Option.some.inj hstep
    exact ⟨_, rfl, fun _ hx => hx, h.stroke, h.width, hpath⟩
  | setStroke colour =>
    obtain rfl := Option.some.inj hstep
    exact ⟨_, rfl, h.fill, fun _ hx => hx, h.width, hpath⟩
  | setWidth width =>
    obtain rfl := Option.some.inj hstep
    exact ⟨_, rfl, h.fill, h.stroke, fun _ hx => hx, hpath⟩
  | start part =>
    obtain rfl := Option.some.inj hstep
    exact ⟨_, rfl, h.fill, h.stroke, h.width, congrArg (· ++ [part]) hpath⟩
  | extend part =>
    rw [Canvas.step] at hstep ⊢
    rw [hpath]
    split at hstep
    · cases hstep
    · rename_i hbegun
      obtain rfl := Option.some.inj hstep
      rw [if_neg hbegun]
      exact ⟨_, rfl, h.fill, h.stroke, h.width, rfl⟩
  | strokePath =>
    rw [Canvas.step] at hstep ⊢
    rw [hpath]
    split at hstep
    · rename_i hnone
      obtain rfl := Option.some.inj hstep
      rw [if_pos hnone]
      exact ⟨_, rfl, h⟩
    · rename_i hbegun
      obtain ⟨colour, hcolour, hrest⟩ := Option.bind_eq_some_iff.mp hstep
      obtain ⟨width, hwidth, rfl⟩ := Option.map_eq_some_iff.mp hrest
      rw [if_neg hbegun]
      -- The canvas that knows more has the colour and the width of the other.
      have hcolour' := h.stroke colour hcolour
      have hwidth' := h.width width hwidth
      refine ⟨{ d with path := [] }, ?_, h.fill, h.stroke, h.width, rfl⟩
      rw [hcolour', hwidth']
      rfl
  | fill shape =>
    rw [Canvas.step] at hstep ⊢
    rw [hpath]
    split at hstep
    · rename_i hnone
      obtain ⟨colour, hcolour, rfl⟩ := Option.map_eq_some_iff.mp hstep
      rw [if_pos hnone, h.fill colour hcolour]
      exact ⟨_, rfl, h⟩
    · cases hstep
  | stroke shape =>
    rw [Canvas.step] at hstep ⊢
    rw [hpath]
    split at hstep
    · rename_i hnone
      obtain ⟨colour, hcolour, hrest⟩ := Option.bind_eq_some_iff.mp hstep
      obtain ⟨width, hwidth, rfl⟩ := Option.map_eq_some_iff.mp hrest
      rw [if_pos hnone, h.stroke colour hcolour, h.width width hwidth]
      exact ⟨_, rfl, h⟩
    · cases hstep
  | text t =>
    rw [Canvas.step] at hstep ⊢
    rw [hpath]
    split at hstep
    · rename_i hnone
      obtain rfl := Option.some.inj hstep
      rw [if_pos hnone]
      -- A text leaves the fill colour unknown, so there is nothing to agree on.
      exact ⟨_, rfl, fun _ hx => (nomatch hx), h.stroke, h.width, rfl⟩
    · cases hstep

theorem Knows.run (h : Knows c d) (hrun : c.run calls = some r) : ∃ e, d.run calls = some (e, r.2) ∧ Knows r.1 e := by
  induction calls generalizing c d r with
  | nil =>
    obtain rfl := Option.some.inj hrun
    exact ⟨d, rfl, h⟩
  | cons call calls ih =>
    obtain ⟨s, hstep, hrest⟩ := Option.bind_eq_some_iff.mp hrun
    obtain ⟨t, hcalls, rfl⟩ := Option.map_eq_some_iff.mp hrest
    obtain ⟨e, he, hknows⟩ := h.step hstep
    obtain ⟨e', he', hknows'⟩ := ih hknows hcalls
    refine ⟨e', ?_, hknows'⟩
    rw [Canvas.run, he, Option.bind_some, he', Option.map_some]

theorem run_append (hrun : c.run calls = some r) : c.run (calls ++ calls') =
    (r.1.run calls').map fun s => (s.1, r.2 ++ s.2) := by
  induction calls generalizing c r with
  | nil =>
    obtain rfl := Option.some.inj hrun
    simp
  | cons call calls ih =>
    obtain ⟨s, hstep, hrest⟩ := Option.bind_eq_some_iff.mp hrun
    obtain ⟨t, hcalls, rfl⟩ := Option.map_eq_some_iff.mp hrest
    rw [List.cons_append, Canvas.run, hstep, Option.bind_some, ih hcalls, Option.map_map]
    refine congrArg (fun f => Option.map f (t.1.run calls')) (funext fun u => ?_)
    simp

theorem run_append_none (hrun : c.run calls = none) : c.run (calls ++ calls') = none := by
  induction calls generalizing c with
  | nil => cases hrun
  | cons call calls ih =>
    rw [List.cons_append, Canvas.run]
    cases hstep : c.step call with
    | none => rfl
    | some s =>
      rw [Canvas.run, hstep, Option.bind_some, Option.map_eq_none_iff] at hrun
      rw [Option.bind_some, ih hrun, Option.map_none]

/-- The calls are a drawing that leaves `marks`. -/
def Draws (calls : List (CanvasCall C W P S T)) (marks : List (Mark C W P S T)) : Prop :=
  ∃ c : Canvas C W P, blank.run calls = some (c, marks) ∧ c.path = []

theorem draws_nil : Draws ([] : List (CanvasCall C W P S T)) [] := ⟨blank, rfl, rfl⟩

/-- A drawing leaves its marks whatever has been drawn before it. -/
theorem Draws.run (h : Draws calls marks) (hd : d.path = []) : ∃ e, d.run calls = some (e, marks) ∧ e.path = [] := by
  obtain ⟨c, hrun, hpath⟩ := h
  obtain ⟨e, he, hknows⟩ := (knows_blank hd).run hrun
  exact ⟨e, he, hknows.path.trans hpath⟩

theorem Draws.append (h : Draws calls marks) (h' : Draws calls' marks') :
    Draws (calls ++ calls') (marks ++ marks') := by
  obtain ⟨c, hrun, hpath⟩ := h
  obtain ⟨e, he, hpath'⟩ := h'.run hpath
  refine ⟨e, ?_, hpath'⟩
  rw [run_append hrun, he, Option.map_some]

theorem Draws.flatMap {α : Type} {l : List α} {f : α → List (CanvasCall C W P S T)} {g : α → List (Mark C W P S T)}
    (h : ∀ x ∈ l, Draws (f x) (g x)) : Draws (l.flatMap f) (l.flatMap g) := by
  induction l with
  | nil => exact draws_nil
  | cons x l ih =>
    rw [List.flatMap_cons, List.flatMap_cons]
    exact (h x List.mem_cons_self).append (ih fun y hy => h y (List.mem_cons_of_mem x hy))

/-- The marks that calls leave on a canvas of their own. -/
def inked (calls : List (CanvasCall C W P S T)) : List (Mark C W P S T) := ((blank.run calls).map Prod.snd).getD []

theorem Draws.inked (h : Draws calls marks) : inked calls = marks := by
  obtain ⟨c, hrun, -⟩ := h
  rw [Canvas.inked, hrun]
  rfl

def Drawing (calls : List (CanvasCall C W P S T)) : Prop := ∃ marks, Draws calls marks

theorem Drawing.draws (h : Drawing calls) : Draws calls (Canvas.inked calls) := by
  obtain ⟨marks, hdraws⟩ := h
  rw [hdraws.inked]
  exact hdraws

theorem drawing_nil : Drawing ([] : List (CanvasCall C W P S T)) := ⟨[], draws_nil⟩

theorem Drawing.append (h : Drawing calls) (h' : Drawing calls') : Drawing (calls ++ calls') :=
  ⟨_, h.draws.append h'.draws⟩

theorem Drawing.ite {p : Prop} [Decidable p] (h : p → Drawing calls) (h' : ¬p → Drawing calls') :
    Drawing (if p then calls else calls') := by
  split
  · exact h ‹p›
  · exact h' ‹¬p›

theorem run_segments (c : Canvas C W P) (segments : List (P × P)) :
    c.run (segments.flatMap fun e => [(CanvasCall.start e.1 : CanvasCall C W P S T), .extend e.2]) =
      some ({ c with path := c.path ++ segments.flatMap fun e => [e.1, e.2] }, []) := by
  induction segments generalizing c with
  | nil => simp [Canvas.run]
  | cons e segments ih =>
    have hfirst : c.run [(CanvasCall.start e.1 : CanvasCall C W P S T), .extend e.2] =
        some ({ c with path := c.path ++ [e.1] ++ [e.2] }, []) := by
      simp [Canvas.run, Canvas.step]
    rw [List.flatMap_cons, run_append hfirst, ih]
    simp

/-- A path of segments, of which there may be none, stroked in one colour. -/
theorem drawing_segments (colour : C) (width : W) (segments : List (P × P)) : Drawing
    (([.setStroke colour, .setWidth width] ++ segments.flatMap fun e => [.start e.1, .extend e.2]) ++ [.strokePath] :
      List (CanvasCall C W P S T)) := by
  have hset : (blank : Canvas C W P).run ([.setStroke colour, .setWidth width] : List (CanvasCall C W P S T)) =
      some (⟨none, some colour, some width, []⟩, []) := rfl
  rw [Drawing, List.append_assoc]
  simp only [Draws, run_append hset, run_append (run_segments _ segments)]
  cases segments with
  | nil => exact ⟨_, _, rfl, rfl⟩
  | cons e segments => exact ⟨_, _, rfl, rfl⟩

theorem Drawing.flatMap {α : Type} {l : List α} {f : α → List (CanvasCall C W P S T)} (h : ∀ x ∈ l, Drawing (f x)) :
    Drawing (l.flatMap f) :=
  ⟨_, Draws.flatMap fun x hx => (h x hx).draws⟩

end Canvas
end RadarAim

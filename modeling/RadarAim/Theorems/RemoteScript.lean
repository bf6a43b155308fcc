import Mathlib.Data.List.Perm.Subperm
import RadarAim.Tools.RemoteSh

/-! How often a pushed script runs. Each attempt sends at most one run command, and the phone runs the script at most
    once for it; a later attempt is made only when no attempt before it has seen the script finish. -/

namespace RadarAim
namespace RemoteSh

theorem Taken.perm {c : Command} {cs cs' : List Command} (h : Taken c cs cs') : cs.Perm (c :: cs') := by
  induction h with
  | head => exact List.Perm.refl _
  | tail _ ih => exact (ih.cons _).trans (List.Perm.swap _ _ _)

/-- The attempts that a command is on its way of, or has been executed of. -/
def System.spent (s : System) : List Nat := s.executed ++ s.commands.map Command.attempt

/-- The client has not yet come to the run command of this attempt. -/
def Pc.early : Pc → Prop
  | .pushing | .connecting | .connected | .shellSent => True
  | .reading _ | .returned _ | .raised => False

structure Sound (s : System) : Prop where
  attempt_lt : s.attempt < 3
  sent_nodup : s.sent.Nodup
  sent_le : ∀ i ∈ s.sent, i ≤ s.attempt
  ended : ∀ i < s.attempt, i ∈ s.ended
  spent_nodup : s.spent.Nodup
  spent_sent : ∀ i ∈ s.spent, i ∈ s.sent

def Unsent (s : System) : Prop := ∀ i ∈ s.sent, i < s.attempt

structure Inv (s : System) : Prop where
  sound : Sound s
  unsent : s.pc.early → Unsent s

section Steps
variable {s : System}

/-- A step of the client that neither sends nor begins an attempt. -/
theorem Inv.withPc (h : Inv s) {t : System} (hattempt : t.attempt = s.attempt) (hsent : t.sent = s.sent)
    (hended : t.ended = s.ended) (hspent : t.spent = s.spent) (hearly : t.pc.early → s.pc.early) : Inv t := by
  obtain ⟨⟨h1, h2, h3, h4, h5, h6⟩, hunsent⟩ := h
  refine ⟨⟨hattempt ▸ h1, hsent ▸ h2, ?_, ?_, hspent ▸ h5, ?_⟩, ?_⟩
  · rwa [hsent, hattempt]
  · rwa [hattempt, hended]
  · rwa [hspent, hsent]
  · intro ht
    rw [Unsent, hsent, hattempt]
    exact hunsent (hearly ht)

theorem inv_nextAttempt (h : Sound s) : Inv s.nextAttempt := by
  obtain ⟨hlt, hnodup, hle, hended, hspent, hsub⟩ := h
  rw [System.nextAttempt]
  split
  · rename_i hmore
    refine ⟨⟨hmore, hnodup, fun i hi => Nat.le_succ_of_le (hle i hi), fun i hi => ?_, hspent, hsub⟩, fun _ i hi =>
      Nat.lt_succ_of_le (hle i hi)⟩
    rcases Nat.lt_succ_iff_lt_or_eq.mp hi with hi | rfl
    · exact List.mem_cons_of_mem _ (hended i hi)
    · exact List.mem_cons_self
  · exact ⟨⟨hlt, hnodup, hle, fun i hi => List.mem_cons_of_mem _ (hended i hi), hspent, hsub⟩,
      fun hearly => hearly.elim⟩

theorem sound_send (h : Inv s) (hearly : s.pc.early) : Sound s.send := by
  obtain ⟨⟨hlt, hnodup, hle, hended, hspent, hsub⟩, hunsent⟩ := h
  have hnew : s.attempt ∉ s.sent := fun hmem => Nat.lt_irrefl _ (hunsent hearly _ hmem)
  have hperm : s.send.spent.Perm (s.attempt :: s.spent) := List.perm_middle
  refine ⟨hlt, List.nodup_cons.mpr ⟨hnew, hnodup⟩, ?_, hended, ?_, ?_⟩
  · rintro i (_ | ⟨_, hi⟩)
    · exact Nat.le_refl _
    · exact hle i hi
  · exact hperm.nodup_iff.mpr (List.nodup_cons.mpr ⟨fun hmem => hnew (hsub _ hmem), hspent⟩)
  · intro i hi
    rcases List.mem_cons.mp (hperm.mem_iff.mp hi) with rfl | hi
    · exact List.mem_cons_self
    · exact List.mem_cons_of_mem _ (hsub i hi)

theorem inv_finish (h : Inv s) (out : Str) : Inv (s.finish out) := by
  rw [System.finish]
  split
  · exact h.withPc rfl rfl rfl rfl fun hearly => hearly.elim
  · have hout : Inv { s with outStr := out } := h.withPc rfl rfl rfl rfl id
    exact inv_nextAttempt hout.sound

theorem inv_receive (h : Inv s) (out b : Str) : Inv (s.receive out b) := by
  rw [System.receive]
  split
  · exact inv_finish h _
  · exact h.withPc rfl rfl rfl rfl fun hearly => hearly.elim

theorem inv_setReply (h : Inv s) (i : Nat) (reply : Str) : Inv (s.setReply i reply) := h.withPc rfl rfl rfl rfl id

/-- A command is lost, or is executed. -/
theorem Inv.taken (h : Inv s) {c : Command} {cs : List Command} (hc : Taken c s.commands cs) :
    Inv { s with commands := cs } ∧ Inv { s with commands := cs, executed := c.attempt :: s.executed } := by
  obtain ⟨⟨hlt, hnodup, hle, hended, hspent, hsub⟩, hunsent⟩ := h
  have hperm : s.spent.Perm (c.attempt :: (s.executed ++ cs.map Command.attempt)) :=
    ((hc.perm.map Command.attempt).append_left s.executed).trans List.perm_middle
  have hnext := hperm.nodup_iff.mp hspent
  have hkept : ∀ i ∈ c.attempt :: (s.executed ++ cs.map Command.attempt), i ∈ s.sent := fun i hi =>
    hsub i (hperm.mem_iff.mpr hi)
  refine ⟨⟨⟨hlt, hnodup, hle, hended, (List.nodup_cons.mp hnext).2, ?_⟩, hunsent⟩,
    ⟨⟨hlt, hnodup, hle, hended, hnext, hkept⟩, hunsent⟩⟩
  exact fun i hi => hkept i (List.mem_cons_of_mem _ hi)

theorem inv_step {t : System} (h : Inv s) (hs : Step s t) : Inv t := by
  cases hs with
  | pushes hpc => exact h.withPc rfl rfl rfl rfl fun _ => hpc ▸ trivial
  | pushFails stderr hpc => exact h.withPc rfl rfl rfl rfl fun hearly => hearly.elim
  | pushTimesOut hpc => exact h.withPc rfl rfl rfl rfl fun hearly => hearly.elim
  | connects hpc => exact h.withPc rfl rfl rfl rfl fun _ => hpc ▸ trivial
  | connectFails hpc => exact inv_nextAttempt h.sound
  | sendsShell hpc => exact h.withPc rfl rfl rfl rfl fun _ => hpc ▸ trivial
  | shellFails hpc => exact inv_nextAttempt h.sound
  | sendsRun hpc =>
    have hsend := sound_send h (hpc ▸ trivial)
    exact ⟨⟨hsend.attempt_lt, hsend.sent_nodup, hsend.sent_le, hsend.ended, hsend.spent_nodup, hsend.spent_sent⟩,
      fun hearly => hearly.elim⟩
  | runFails hpc => exact inv_nextAttempt h.sound
  | runBreaks hpc => exact inv_nextAttempt (sound_send h (hpc ▸ trivial))
  | receives hpc hb hlen hreply => exact inv_setReply (inv_receive h _ _) _ _
  | receiveEnds hpc => exact inv_finish h _
  | executes reply hc htext hscript => exact inv_setReply (h.taken hc).2 _ _
  | loses hc => exact (h.taken hc).1
  | cutsReply i n => exact inv_setReply h i _

theorem inv_run {scriptText name : Str} (h : Run scriptText name s) : Inv s := by
  induction h with
  | call =>
    have hsound : Sound (.call scriptText name) :=
      { attempt_lt := Nat.succ_pos 2
        sent_nodup := List.nodup_nil
        sent_le := fun i hi => nomatch hi
        ended := fun i hi => absurd hi (Nat.not_lt_zero i)
        spent_nodup := List.nodup_nil
        spent_sent := fun i hi => nomatch hi }
    exact ⟨hsound, fun _ i hi => nomatch hi⟩
  | step _ hs ih => exact inv_step ih hs

/-- Of the attempts that have sent their run command, all but the last ended without the marker. -/
theorem Inv.ended_of_lt (h : Inv s) {i j : Nat} (hj : j ∈ s.sent) (hij : i < j) : i ∈ s.ended :=
  h.sound.ended i (hij.trans_le (h.sound.sent_le j hj))

end Steps

section Results
variable {s : System} {scriptText name : Str}

/-- The script runs at most once for each run command that is sent, of which there are at most three; and it runs a
    second time only if an attempt that had sent the command ended without the marker before another sent it. -/
theorem executed_bounded (h : Run scriptText name s) :
    s.executed.Nodup ∧ (∀ i ∈ s.executed, i ∈ s.sent) ∧ s.executed.length ≤ s.sent.length ∧ s.sent.length ≤ 3 ∧
      (1 < s.executed.length → ∃ i ∈ s.sent, i ∈ s.ended ∧ ∃ j ∈ s.sent, i < j) := by
  have hinv := inv_run h
  have hsub : ∀ i ∈ s.executed, i ∈ s.sent := fun i hi => hinv.sound.spent_sent i (List.mem_append_left _ hi)
  have hnodup : s.executed.Nodup := (List.nodup_append.mp hinv.sound.spent_nodup).1
  refine ⟨hnodup, hsub, (hnodup.subperm hsub).length_le, ?_, ?_⟩
  · have hthree : ∀ i ∈ s.sent, i ∈ List.range 3 := fun i hi =>
      List.mem_range.mpr ((hinv.sound.sent_le i hi).trans_lt hinv.sound.attempt_lt)
    simpa using (hinv.sound.sent_nodup.subperm hthree).length_le
  · intro htwo
    match hexec : s.executed, htwo, hnodup, hsub with
    | i :: j :: rest, _, hnodup, hsub =>
      have hi := hsub i List.mem_cons_self
      have hj := hsub j (List.mem_cons_of_mem _ List.mem_cons_self)
      have hne : i ≠ j := fun heq => (List.nodup_cons.mp hnodup).1 (heq ▸ List.mem_cons_self)
      rcases Nat.lt_or_gt_of_ne hne with hlt | hlt
      · exact ⟨i, hi, hinv.ended_of_lt hj hlt, j, hj, hlt⟩
      · exact ⟨j, hj, hinv.ended_of_lt hi hlt, i, hi, hlt⟩

end Results

/-! ### A reply that is lost -/

section Again
variable {s : System} {scriptText name : Str}

/-- An attempt that has received nothing when its reply ends is followed by another. -/
theorem Run.again (h : Run scriptText name s) (hpc : s.pc = .reading []) (hmore : s.attempt + 1 < 3) :
    Run scriptText name
      { s with pc := .connecting, attempt := s.attempt + 1, outStr := [], ended := s.attempt :: s.ended } := by
  have hstep := Step.receiveEnds hpc
  rw [System.finish, if_neg (by decide), System.nextAttempt, if_pos hmore] at hstep
  exact h.step hstep

/-- An attempt whose command reaches the phone, and whose reply does not come back. -/
theorem Run.lostReply (h : Run scriptText name s) (hpc : s.pc = .connecting) {script : Str}
    (hpushed : s.pushed s.name = some script) :
    ∃ t, Run scriptText name t ∧ t.pc = .reading [] ∧ t.attempt = s.attempt ∧ t.name = s.name ∧ t.pushed = s.pushed ∧
      t.executed = s.attempt :: s.executed := by
  have hsent := ((h.step (.connects hpc)).step (.sendsShell rfl)).step (.sendsRun rfl)
  have hexecuted := hsent.step (.executes doneMarker .head rfl hpushed)
  exact ⟨_, hexecuted.step (.cutsReply s.attempt 0), rfl, rfl, rfl, rfl, rfl⟩

end Again

/-- The first reply is lost, and the script is run again. -/
theorem runs_twice (scriptText name : Str) : ∃ s, Run scriptText name s ∧ s.executed = [1, 0] := by
  have hcall : Run scriptText name (.call scriptText name) := .call
  have hpushed := hcall.step (.pushes rfl)
  have hscript : (fun n => if n = name then some (prepare scriptText) else none) name = some (prepare scriptText) :=
    if_pos rfl
  obtain ⟨s, hs, hpc, hattempt, hname, hsame, hexecuted⟩ := hpushed.lostReply rfl hscript
  have hmore : s.attempt + 1 < 3 := by
    rw [hattempt]
    exact Nat.lt_of_sub_pos (Nat.succ_pos 1)
  have hagain := hs.again hpc hmore
  obtain ⟨t, ht, -, -, -, -, htwice⟩ := hagain.lostReply rfl (by rw [hsame, hname]; exact hscript)
  refine ⟨t, ht, ?_⟩
  rw [htwice, hattempt, hexecuted]
  rfl

theorem executed_twice : ¬∀ (scriptText name : Str) (s : System), Run scriptText name s → s.executed.length ≤ 1 := by
  intro h
  obtain ⟨s, hs, hexecuted⟩ := runs_twice (lit "killall -9 SpringBoard") (lit "codex_exec_0.sh")
  have hle := h _ _ s hs
  rw [hexecuted] at hle
  exact absurd hle (by decide)

theorem executed_bounded_twice : ∃ s : System, s.executed = [1, 0] ∧ s.executed.Nodup ∧
    (∀ i ∈ s.executed, i ∈ s.sent) ∧ s.executed.length ≤ s.sent.length ∧ s.sent.length ≤ 3 ∧
      (1 < s.executed.length → ∃ i ∈ s.sent, i ∈ s.ended ∧ ∃ j ∈ s.sent, i < j) := by
  obtain ⟨s, hs, hexecuted⟩ := runs_twice (lit "killall -9 SpringBoard") (lit "codex_exec_0.sh")
  exact ⟨s, hexecuted, executed_bounded hs⟩

end RemoteSh
end RadarAim

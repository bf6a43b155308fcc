import RadarAim.Theorems.Encoding
import RadarAim.Theorems.Joint
import RadarAim.Theorems.Picture

/-! The texts of the picture. A text that `stringWithUTF8String:` does not take is not drawn, and takes no room. The
    names that the reader publishes are printable, so that every text of the picture is drawn. -/

namespace RadarAim.Overlay
namespace Texts
open Ieee Utf8 Picture Encoding

section
variable {D : Type}

/-- A system that takes whatever it is given for a text. -/
def taking (sys : DrawSystem D) : DrawSystem D := { sys with decodes := fun _ => true }

/-- `%.0f` gives ASCII characters, and those are a text. -/
structure TakesAscii (sys : DrawSystem D) : Prop where
  fixed : ∀ x, Ascii (sys.fixed x)
  decodes : ∀ t, Ascii t → sys.decodes t = true

/-- The names of a snapshot. -/
structure AsciiNames (r : RadarFrame) : Prop where
  players : ∀ p ∈ r.players, Ascii p.name
  vehicles : ∀ v ∈ r.vehicles, Ascii v.name
  items : ∀ it ∈ r.items, Ascii it.name

end

section
variable {D : Type} [Double D] {sys : DrawSystem D} (hsys : TakesAscii sys)
include hsys

theorem size_taking {text : Str} (h : Ascii text) (font : TextFont) :
    (taking sys).textSize text font = sys.textSize text font := by
  rw [DrawSystem.textSize, DrawSystem.textSize, hsys.decodes text h]
  rfl

theorem text_taking {text : Str} (h : Ascii text) (x y : D) (font : TextFont) (color : TextColor) :
    (taking sys).drawTextCentered text x y font color = sys.drawTextCentered text x y font color := by
  rw [DrawSystem.drawTextCentered, DrawSystem.drawTextCentered, size_taking hsys h, DrawSystem.drawTextAt,
    DrawSystem.drawTextAt, hsys.decodes text h]
  rfl

theorem ascii_rounded (x : F32) : Ascii (sys.rounded x) := hsys.fixed _

end

/-! ### The parts -/

section
variable {D : Type} [Double D] {sys : DrawSystem D} (hsys : TakesAscii sys) (f : Features) (i : Redraw D) (s : State D)
  (w h : D)

omit [Double D] in
theorem when_congr {c : Prop} [Decidable c] {l l' : List (Draw D)} (hl : l = l') :
    (if c then l else []) = if c then l' else [] := by rw [hl]

omit [Double D] in
theorem ite_congr_lists {c : Prop} [Decidable c] {l l' m m' : List (Draw D)} (hl : l = l') (hm : m = m') :
    (if c then l else m) = if c then l' else m' := by rw [hl, hm]

omit [Double D] in
theorem shown_congr (o : Option (CGPoint D)) {g g' : CGPoint D → List (Draw D)} (hg : ∀ x, g x = g' x) :
    (match o with | none => [] | some x => g x) = match o with | none => [] | some x => g' x := by
  cases o with
  | none => rfl
  | some x => exact hg x

omit [Double D] in
theorem ascii_nameBuf {p : RadarPlayer} (hp : Ascii p.name) : Ascii (nameBuf f s p) := by
  have hname : Ascii (if f.on .name then p.name else []) := by
    split
    · exact hp
    · exact .nil
  have hteam := ascii_decimal p.teamId.toNat
  refine ascii_snprintf ?_ 64
  split
  · split
    · exact (((ascii_lit rfl).append hteam).append (ascii_lit rfl)).append hname
    · exact (((ascii_lit rfl).append hteam).append (ascii_lit rfl)).append hname
  · split
    · exact (ascii_lit rfl).append hname
    · split
      · split
        · exact (ascii_lit rfl).append hname
        · exact (((ascii_lit rfl).append hteam).append (ascii_lit rfl)).append hname
      · exact hname

include hsys

theorem offscreenArrow_taking (p : RadarPlayer) :
    offscreenArrow (taking sys) f s w h p = offscreenArrow sys f s w h p :=
  when_congr (congrArg (_ ++ ·) (text_taking hsys (ascii_snprintf ((ascii_rounded hsys _).append (ascii_lit rfl)) 16)
    _ _ _ _))

section Figure
variable (k : Nat) (p : RadarPlayer) (g : Figure D)

theorem nameTag_taking (hp : Ascii p.name) : nameTag (taking sys) f s p g = nameTag sys f s p g :=
  when_congr (text_taking hsys (ascii_nameBuf f s hp) _ _ _ _)

theorem distanceTag_taking : distanceTag (taking sys) f p g = distanceTag sys f p g :=
  when_congr (text_taking hsys (ascii_snprintf ((ascii_rounded hsys _).append (ascii_lit rfl)) 32) _ _ _ _)

theorem threatTag_taking : threatTag (taking sys) f s p g = threatTag sys f s p g := by
  rw [threatTag, threatTag]
  refine when_congr ?_
  by_cases hbot : p.isBot ≠ 0
  · simp only [if_pos hbot]
    exact text_taking hsys (ascii_snprintf (ascii_lit rfl) 32) _ _ _ _
  · by_cases hnear : F32.lt p.distance 0x42aa0000 = true
    · simp only [if_neg hbot, if_pos hnear]
      exact text_taking hsys (ascii_snprintf (ascii_lit rfl) 32) _ _ _ _
    · simp only [if_neg hbot, if_neg hnear]
      exact text_taking hsys (ascii_snprintf (ascii_lit rfl) 32) _ _ _ _

theorem bleedTag_taking : bleedTag (taking sys) f p g = bleedTag sys f p g :=
  when_congr
    (text_taking hsys (ascii_snprintf (((ascii_lit rfl).append (ascii_rounded hsys _)).append (ascii_lit rfl)) 32)
    _ _ _ _)

theorem gazeRay_taking : gazeRay (taking sys) f i s w h p g = gazeRay sys f i s w h p g := by
  refine when_congr (shown_congr _ fun ray => congrArg (· ++ _) ?_)
  change (if targetingUs sys s p = true then _ else _) = _
  split
  · exact congrArg (_ ++ ·) (text_taking hsys (ascii_lit rfl) _ _ _ _)
  · rfl

theorem leadDot_taking : leadDot (taking sys) i s w h k p = leadDot sys i s w h k p :=
  when_congr (shown_congr _ fun _ => congrArg (_ ++ ·) (text_taking hsys (ascii_lit rfl) _ _ _ _))

theorem dropGuide_taking : dropGuide (taking sys) f i s w h p g = dropGuide sys f i s w h p g :=
  when_congr (shown_congr _ fun _ => congrArg (_ ++ ·) (text_taking hsys (ascii_lit rfl) _ _ _ _))

theorem playerFigure_taking (hp : Ascii p.name) :
    playerFigure (taking sys) f i s w h k p g = playerFigure sys f i s w h k p g := by
  rw [playerFigure, playerFigure, nameTag_taking hsys f s p g hp, distanceTag_taking hsys f p g,
    threatTag_taking hsys f s p g, bleedTag_taking hsys f p g, gazeRay_taking hsys f i s w h p g,
    leadDot_taking hsys i s w h k p, dropGuide_taking hsys f i s w h p g]
  rfl

theorem player_taking (hp : Ascii p.name) : player (taking sys) f i s w h k p = player sys f i s w h k p := by
  have hhead : ∀ pos, s.worldToScreen (taking sys).arith i.screenInput pos w h =
      s.worldToScreen sys.arith i.screenInput pos w h := fun _ => rfl
  have hfeet : ∀ pos, project (taking sys) i s w h pos = project sys i s w h pos := fun _ => rfl
  rw [player, player, hhead, hfeet, offscreenArrow_taking hsys f s w h p]
  split
  · rw [playerFigure_taking hsys f i s w h k p _ hp]
  · rfl

end Figure

theorem vehicleMarker_taking {v : RadarVehicle} (hv : Ascii v.name) :
    vehicleMarker (taking sys) f i s w h v = vehicleMarker sys f i s w h v := by
  have hdistance := ascii_rounded hsys v.distance
  have hplain := (((ascii_lit (s := "[") rfl).append hv).append (ascii_lit (s := "] ") rfl)).append hdistance
  rw [vehicleMarker, vehicleMarker]
  split
  · rfl
  · refine shown_congr _ fun _ => ?_
    split
    · refine congrArg (_ ++ ·) (text_taking hsys (ascii_snprintf ?_ 64) _ _ _ _)
      exact ((((ascii_lit rfl).append hv).append (ascii_lit rfl)).append hdistance).append (ascii_lit rfl)
    · refine congrArg (_ ++ ·) (text_taking hsys (ascii_snprintf ?_ 64) _ _ _ _)
      split
      · exact ((hplain.append (ascii_lit rfl)).append (ascii_rounded hsys _)).append (ascii_lit rfl)
      · exact hplain.append (ascii_lit rfl)

theorem itemMarker_taking {item : RadarItem} (hname : Ascii item.name) :
    itemMarker (taking sys) f i s w h item = itemMarker sys f i s w h item := by
  have hdistance := ascii_rounded hsys item.distance
  rw [itemMarker, itemMarker]
  split
  · rfl
  · refine shown_congr _ fun _ => congrArg (_ ++ ·) (text_taking hsys (ascii_snprintf ?_ 64) _ _ _ _)
    split
    · have hcount := (hname.append (ascii_lit (s := " x") rfl)).append (ascii_decimal item.count.toNat)
      exact ((hcount.append (ascii_lit rfl)).append hdistance).append (ascii_lit rfl)
    · exact ((hname.append (ascii_lit rfl)).append hdistance).append (ascii_lit rfl)

theorem fovCircle_taking : fovCircle (taking sys) f s w h = fovCircle sys f s w h := by
  refine when_congr ?_
  split
  · refine congrArg (· ++ _) (congrArg (_ ++ ·) (text_taking hsys (ascii_snprintf ?_ 48) _ _ _ _))
    exact ((ascii_lit rfl).append (hsys.fixed _)).append (ascii_lit rfl)
  · rfl

theorem touchZone_taking : touchZone (taking sys) s w h = touchZone sys s w h := by
  refine when_congr ?_
  dsimp only
  split
  · exact congrArg (_ ++ ·) (text_taking hsys (ascii_lit rfl) _ _ _ _)
  · rfl

theorem enemyAlert_taking (count : Nat) (closest : F32) :
    enemyAlert (taking sys) f w count closest = enemyAlert sys f w count closest := by
  have hcount := ascii_decimal count
  have hclosest := ascii_rounded hsys closest
  have hround : (taking sys).rounded closest = sys.rounded closest := rfl
  refine when_congr (ite_congr_lists ?_ ?_)
  · have htext := ((ascii_lit (s := "! DANGER: ") rfl).append hcount).append (ascii_lit (s := " ENEMY < ") rfl)
    have hascii := ascii_snprintf ((htext.append hclosest).append (ascii_lit (s := "m !") rfl)) 64
    dsimp only
    rw [hround, size_taking hsys hascii, text_taking hsys hascii]
  · have htext := (hcount.append (ascii_lit (s := " ENEMIES NEARBY (") rfl)).append hclosest
    have hascii := ascii_snprintf (htext.append (ascii_lit (s := "m)") rfl)) 64
    dsimp only
    rw [hround, size_taking hsys hascii, text_taking hsys hascii]

theorem blindspotWarning_taking (p : RadarPlayer) :
    blindspotWarning (taking sys) s w h p = blindspotWarning sys s w h p := by
  have warning : ∀ {l : List (Draw D)} {text : Str}, Ascii text → ∀ x y : D,
      l ++ (taking sys).drawTextCentered text x y .bold .red = l ++ sys.drawTextCentered text x y .bold .red := by
    intro l text htext x y
    rw [text_taking hsys htext]
  refine ite_congr_lists rfl
    (ite_congr_lists rfl (when_congr (ite_congr_lists ?_ (ite_congr_lists ?_ (when_congr ?_)))))
  · exact warning (ascii_lit rfl) _ _
  · exact warning (ascii_lit rfl) _ _
  · exact warning (ascii_lit rfl) _ _

theorem itemWarning_taking {it : RadarItem} (hname : Ascii it.name) :
    itemWarning (taking sys) f i s w h it = itemWarning sys f i s w h it := by
  refine shown_congr _ fun _ => congrArg₂ (· ++ ·) (when_congr ?_) (when_congr ?_)
  · refine congrArg (_ ++ ·) (text_taking hsys (ascii_snprintf ?_ 48) _ _ _ _)
    have htext := (((ascii_lit (s := "! ") rfl).append hname).append (ascii_lit (s := " ") rfl))
    exact (htext.append (ascii_rounded hsys _)).append (ascii_lit rfl)
  · refine congrArg (_ ++ ·) (text_taking hsys (ascii_snprintf ?_ 48) _ _ _ _)
    exact ((ascii_lit rfl).append (ascii_rounded hsys _)).append (ascii_lit rfl)

theorem evadeAlert_taking (closest : F32) : evadeAlert (taking sys) f w h closest = evadeAlert sys f w h closest :=
  when_congr (congrArg (_ ++ ·) (text_taking hsys (ascii_lit rfl) _ _ _ _))

theorem spectatorBadge_taking : spectatorBadge (taking sys) f w = spectatorBadge sys f w :=
  when_congr (text_taking hsys (ascii_lit rfl) _ _ _ _)

/-! ### The picture -/

/-- With names of ASCII characters every text of the picture is drawn. -/
theorem picture_taking (hnames : AsciiNames s.snapshot) :
    picture (taking sys) f i s w h = picture sys f i s w h := by
  have hturn : ∀ x ∈ players s, ∀ l, playerTurn (taking sys) f i s w h l x = playerTurn sys f i s w h l x := by
    intro x hx l
    have hp : Ascii x.1.name := hnames.players x.1 (List.mem_of_mem_take (List.fst_mem_of_mem_zipIdx hx))
    rw [playerTurn, playerTurn, player_taking hsys f i s w h x.2 x.1 hp]
  have hloop : playerLoop (taking sys) f i s w h = playerLoop sys f i s w h :=
    List.foldl_ext _ _ _ fun l x hx => hturn x hx l
  have hvehicles : vehicleMarkers (taking sys) f i s w h = vehicleMarkers sys f i s w h :=
    when_congr (List.flatMap_congr fun v hv => vehicleMarker_taking hsys f i s w h
      (hnames.vehicles v (List.mem_of_mem_take hv)))
  have hitems : itemMarkers (taking sys) f i s w h = itemMarkers sys f i s w h :=
    when_congr (List.flatMap_congr fun it hit => itemMarker_taking hsys f i s w h
      (hnames.items it (List.mem_of_mem_take hit)))
  have hwarnings : itemWarnings (taking sys) f i s w h = itemWarnings sys f i s w h :=
    when_congr (List.flatMap_congr fun it hit => itemWarning_taking hsys f i s w h
      (hnames.items it (List.mem_of_mem_take hit)))
  have hblind : blindspotAlert (taking sys) f s w h = blindspotAlert sys f s w h :=
    when_congr (List.flatMap_congr fun x _ => blindspotWarning_taking hsys s w h x.1)
  rw [picture, picture, hloop, afterPlayers, afterPlayers, hvehicles, hitems, fovCircle_taking hsys f s w h,
    touchZone_taking hsys s w h, enemyAlert_taking hsys f w, hblind, hwarnings, spectatorBadge_taking hsys f w,
    evadeAlert_taking hsys f w h]
  rfl

end

/-! ### Published names -/

theorem ascii_of_printable {s : Str} (h : ∀ c ∈ s, printable c = true) : Ascii s := by
  intro c hc
  have hprintable := h c hc
  rw [printable, Bool.and_eq_true, decide_eq_true_eq, decide_eq_true_eq] at hprintable
  exact UInt8.lt_of_le_of_lt hprintable.2 (by decide)

theorem fits_mem {α : Type} {size : Nat} {good : α → Prop} {c : Counted α} (h : c.Fits size good) {a : α}
    (ha : a ∈ c.list) : good a := by
  obtain ⟨k, hk, rfl⟩ := List.mem_map.mp ha
  exact h.slots k (List.mem_range.mp hk)

/-- The names of a frame are short texts of printable characters. -/
theorem names_text {f : Arrays.SharedFrame} (h : Arrays.WellFormed f) : AsciiNames f.text ∧
    ∀ p ∈ f.text.players, p.name.length < Arrays.nameSize := by
  have hfield : ∀ {name : Str}, Terminated Arrays.nameSize name → Ascii (cstr name) := fun hname =>
    ascii_of_printable hname.cstr.2
  refine ⟨⟨fun p hp => ?_, fun v hv => ?_, fun it hit => ?_⟩, fun p hp => ?_⟩
  · obtain ⟨q, hq, rfl⟩ := List.mem_map.mp hp
    exact hfield (fits_mem h.players hq)
  · obtain ⟨q, hq, rfl⟩ := List.mem_map.mp hv
    exact hfield (fits_mem h.vehicles hq)
  · obtain ⟨q, hq, rfl⟩ := List.mem_map.mp hit
    exact hfield (fits_mem h.items hq)
  · obtain ⟨q, hq, rfl⟩ := List.mem_map.mp hp
    exact (fits_mem h.players hq).cstr.1

theorem length_decimal_le {n : Nat} (h : n < 2 ^ 32) : (decimal n).length ≤ 10 := by
  have hlt : n < 10 ^ 10 := Nat.lt_trans h (by decide)
  have hdigits := (Nat.length_toDigits_le_iff (b := 10) (by decide) (by decide)).mpr hlt
  rw [decimal, lit, List.length_map, Nat.toString_eq_repr, Nat.toList_repr]
  exact hdigits

/-- The name is not cut off where it is shown. -/
theorem name_suffix_nameBuf {D : Type} {f : Features} (s : State D) {p : RadarPlayer}
    (hshort : p.name.length < Arrays.nameSize) (hon : f.on .name = true) : p.name <:+ nameBuf f s p := by
  -- In front of the name stand 27 bytes at most, so there is room for all of it.
  have whole : ∀ {front : Str}, front.length ≤ 27 → p.name <:+ snprintf 64 (front ++ p.name) := by
    intro front hfront
    have hsize : p.name.length < 32 := hshort
    rw [snprintf, List.take_of_length_le (by rw [List.length_append]; omega)]
    exact List.suffix_append front p.name
  have hteam : (decimal p.teamId.toNat).length ≤ 10 := length_decimal_le p.teamId.toNat_lt
  rw [nameBuf, if_pos hon]
  split
  · split
    · refine whole ?_
      simp only [List.length_append]
      have hopen : (lit "[TEAM #").length = 7 := rfl
      have hclose : (lit " KNOCKED] ").length = 10 := rfl
      omega
    · refine whole ?_
      simp only [List.length_append]
      have hopen : (lit "[TEAM #").length = 7 := rfl
      have hclose : (lit "] ").length = 2 := rfl
      omega
  · split
    · exact whole (by decide)
    · split
      · split
        · exact whole (by decide)
        · refine whole ?_
          simp only [List.length_append]
          have hopen : (lit "[T").length = 2 := rfl
          have hclose : (lit "] ").length = 2 := rfl
          omega
      · exact whole (show ([] : Str).length ≤ 27 from Nat.zero_le 27)

section Accepted
variable {D ρ : Type} [Double D] [DecidableEq ρ] {ar : Arith} {session : Joint.Session ρ} {sys : DrawSystem D}

/-- Of a snapshot that was accepted the overlay draws every text, and the tag of a player ends in the whole of its
    name. -/
theorem accepted_texts (h : Joint.Reachable ar session) (hsys : TakesAscii sys) (f : Features)
    (i : Redraw D) (s : State D) (width height : D) :
    ∀ a ∈ session.system.accepted, a.begun < 2 ^ 31 → s.snapshot = Joint.view a.snapshot →
      picture (taking sys) f i s width height = picture sys f i s width height ∧
        ∀ p ∈ s.snapshot.players, f.on .name = true → p.name <:+ nameBuf f s p := by
  intro a ha hbegun hsnapshot
  obtain ⟨frame, -, hwell, -, hview⟩ := h.inv.accepted ha hbegun
  obtain ⟨hnames, hshort⟩ := names_text hwell
  rw [← hview, ← hsnapshot] at hnames hshort
  exact ⟨picture_taking hsys f i s width height hnames, fun p hp hon => name_suffix_nameBuf s (hshort p hp) hon⟩

end Accepted

section Witness
attribute [local instance] Touch.exact

def asciiSystem : DrawSystem Rat := { plainSystem with decodes := fun t => t.all (· < 0x80) }

theorem asciiSystem_takes : TakesAscii asciiSystem where
  fixed _ := ascii_lit rfl
  decodes _ ht := List.all_eq_true.mpr fun c hc => decide_eq_true (ht c hc)

theorem accepted_texts_first : ∃ session : Joint.Session Unit, ∃ a ∈ session.system.accepted, ∃ s : State Rat,
    s.snapshot = Joint.view a.snapshot ∧
      picture (taking asciiSystem) Features.initial plainRedraw s 812 375 =
        picture asciiSystem Features.initial plainRedraw s 812 375 ∧
      ∀ p ∈ s.snapshot.players, Features.initial.on .name = true → p.name <:+ nameBuf Features.initial s p := by
  obtain ⟨session, hsession, a, ha, hbegun⟩ := Joint.firstFrame_accepted
  let s : State Rat := { Touch.started with snapshot := Joint.view a.snapshot }
  exact ⟨session, a, ha, s, rfl,
    accepted_texts hsession asciiSystem_takes Features.initial plainRedraw s 812 375 a ha hbegun rfl⟩

end Witness

end Texts
end RadarAim.Overlay

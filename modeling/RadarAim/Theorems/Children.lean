import RadarAim.Lib.JsonText
import RadarAim.Theorems.Contexts
import RadarAim.Theorems.Records

/-! The Children list of a class, split into properties and functions. A property is recognised by the name of its
    class, and the name cache may have that name cut short; an empty list sends the reader elsewhere. -/

namespace RadarAim
namespace Children
open Names Contexts FailedLookup Records

/-! ### Text in text -/

section Text
variable {α : Type}

/-- What has no element in common with the end of a list is found before it. -/
theorem infix_of_append {t x y : List α} (hne : t ≠ []) (hy : ∀ c ∈ t, c ∉ y) (h : t <:+: x ++ y) : t <:+: x := by
  obtain ⟨a, b, hab⟩ := h
  rcases List.append_eq_append_iff.mp hab with ⟨rest, rfl, -⟩ | ⟨tail, htail, hyb⟩
  · exact List.infix_append a t rest
  · have hmem : ∀ c ∈ tail, c ∈ y := fun c hc => hyb ▸ List.mem_append_left b hc
    rcases List.append_eq_append_iff.mp htail with ⟨s, hx, ht⟩ | ⟨s, -, hs⟩
    · have hnil : tail = [] := List.eq_nil_iff_forall_not_mem.mpr fun c hc =>
        hy c (ht ▸ List.mem_append_right s hc) (hmem c hc)
      rw [hnil, List.append_nil] at ht
      rw [hx, ht]
      exact List.infix_append_right
    · obtain ⟨c, hc⟩ := List.exists_mem_of_ne_nil t hne
      exact absurd (hmem c (hs ▸ List.mem_append_right s hc)) (hy c hc)

theorem mem_numberSuffix {number : Int} {c : UInt8} (h : c ∈ numberSuffix number) :
    c = 0x5f ∨ JsonText.isDigit c = true := by
  unfold numberSuffix at h
  split at h
  · rcases List.mem_append.mp h with h | h
    · exact Or.inl (by simpa [lit] using h)
    · exact Or.inr ((JsonText.numeral_decimal _).digits c h)
  · cases h

/-- The number of a name does not make a property of it. -/
theorem strstr_of_suffix {s : Str} {number : Int} (h : strstr (s ++ numberSuffix number) (lit "Property") = true) :
    strstr s (lit "Property") = true := by
  have hletters : (lit "Property").all (fun c => c != 0x5f && !JsonText.isDigit c) = true := by decide
  simp only [List.all_eq_true, Bool.and_eq_true, bne_iff_ne, Bool.not_eq_true'] at hletters
  refine strstr_iff.mpr (infix_of_append (by decide) (fun c hc hmem => ?_) (strstr_iff.mp h))
  rcases mem_numberSuffix hmem with heq | hdigit
  · exact (hletters c hc).1 heq
  · rw [(hletters c hc).2] at hdigit
    cases hdigit

end Text

/-! ### The name of a class -/

section ClassName
variable (m : Memory) (t : NameTables) (c : Ue4rCtx) (node : UInt64)

/-- The FName of the class of `node`. -/
def classFName : UInt64 := m.ptr (node + offUobjectClass) + offUobjectName

/-- The name of the class, read with a buffer that holds all of it. -/
def className : Bool × Str := uncached m t (classFName m node) 1025

def propertyNamed : Bool := strstr (className m t node).2 (lit "Property")

def functionNamed : Bool := (className m t node).2 == lit "Function"

/-- The name of the class as the context has it: what the cache holds of it, or else what is read now. -/
def shownName : Str :=
  match nameIndex m (classFName m node) with
  | none => []
  | some compIndex =>
    if Hit c compIndex then
      snprintf 256
        ((c.nameCache (compIndex % nameCacheSize)).name ++ numberSuffix (nameNumber m (classFName m node)))
    else (uncached m (tables c) (classFName m node) 256).2

end ClassName

section Answers
variable {m : Memory} {t : NameTables} {c : Ue4rCtx} {node : UInt64}

theorem exec_className (hchunks : ChunksOk m c) (node : UInt64) :
    ∃ resolved, (m.exec (ue4rResolveName (classFName m node) 256) c).1 = (resolved, shownName m c node) ∧
      (resolved = false → shownName m c node = []) := by
  unfold shownName
  cases hindex : nameIndex m (classFName m node) with
  | none =>
    rw [exec_ue4rResolveName_of_none m hindex]
    exact ⟨false, rfl, fun _ => rfl⟩
  | some compIndex =>
    rw [exec_ue4rResolveName_of_index m (by decide) hindex]
    by_cases hhit : Hit c compIndex
    · rw [exec_resolveIndex_hit m c hhit]
      exact ⟨true, by simp only [if_pos hhit], fun h => Bool.noConfusion h⟩
    · rw [exec_resolveIndex_of_miss hchunks hhit]
      simp only [if_neg hhit, uncached_of_index m (by decide : 256 ≠ 0) hindex]
      cases htext : nameText m (tables c) compIndex 256 with
      | none => exact ⟨false, by rw [answer_of_none m _ htext], fun _ => by rw [answer_of_none m _ htext]⟩
      | some s => exact ⟨true, by rw [answer_of_some m _ htext], fun h => Bool.noConfusion h⟩

/-- What the cache has of a name is the beginning of the name. -/
theorem shownName_cases (h : CacheOk m (Stored m) c) (node : UInt64) :
    shownName m c node = (uncached m (tables c) (classFName m node) 256).2 ∨
      ∃ full number, (uncached m (tables c) (classFName m node) 256).2 = snprintf 256 (appendNumber full number) ∧
        shownName m c node = snprintf 256 (full.take 59 ++ numberSuffix number) ∧
        (numberSuffix number).length ≤ 11 := by
  unfold shownName
  cases hindex : nameIndex m (classFName m node) with
  | none => exact Or.inl (by rw [uncached_of_none m hindex])
  | some compIndex =>
    by_cases hhit : Hit c compIndex
    · obtain ⟨full, hfull, hname⟩ := h.cache _ compIndex hhit.1 hhit.2
      refine Or.inr ⟨full, nameNumber m (classFName m node), ?_, ?_, length_numberSuffix_le (nameNumber_lt m _)⟩
      · rw [uncached_of_index m (by decide) hindex, answer_of_some m _ hfull]
      · simp only [if_pos hhit, hname]
    · exact Or.inl (by simp only [if_neg hhit])

theorem appendNumber_extends (s : Str) (number : Int) : s <+: appendNumber s number := by
  unfold appendNumber
  split
  · exact List.prefix_append _ _
  · exact List.prefix_refl _

/-- A property that the context shows is one. -/
theorem uncached_of_shown (h : CacheOk m (Stored m) c) (hshown : strstr (shownName m c node) (lit "Property") = true) :
    strstr (uncached m (tables c) (classFName m node) 256).2 (lit "Property") = true := by
  rcases shownName_cases h node with heq | ⟨full, number, hanswer, heq, -⟩
  · rw [heq] at hshown
    exact hshown
  · rw [heq] at hshown
    have htext := strstr_of_suffix (strstr_mono hshown (List.take_prefix _ _).isInfix)
    have hprefix : full.take 59 <+: snprintf 256 (appendNumber full number) := by
      refine List.prefix_take_iff.mpr ⟨(List.take_prefix _ _).trans (appendNumber_extends full number), ?_⟩
      rw [List.length_take]
      omega
    rw [hanswer]
    exact strstr_mono htext hprefix.isInfix

/-- What the cache has of a name is a short text exactly when the whole name is that text. -/
theorem snprintf_cut_iff (full : Str) {number : Int} (hsuffix : (numberSuffix number).length ≤ 11) {s : Str}
    (hs : s.length < 59) :
    snprintf 256 (full.take 59 ++ numberSuffix number) = s ↔ snprintf 256 (appendNumber full number) = s := by
  rcases Nat.lt_or_ge 59 full.length with hlong | hshort
  · have hne : ∀ y : Str, 59 ≤ y.length → snprintf 256 y ≠ s := by
      rintro y hy rfl
      rw [snprintf, List.length_take] at hs
      omega
    have happend := (appendNumber_extends full number).length_le
    constructor
    · intro hcut
      exact absurd hcut (hne _ (by rw [List.length_append, List.length_take]; omega))
    · intro hfull
      exact absurd hfull (hne _ (by omega))
  · rw [List.take_of_length_le hshort, appendNumber, if_pos (by omega)]

/-- A short name is shown exactly when it is the name. -/
theorem shown_eq_iff (h : CacheOk m (Stored m) c) (node : UInt64) {s : Str} (hs : s.length < 59) :
    shownName m c node = s ↔ (uncached m (tables c) (classFName m node) 256).2 = s := by
  rcases shownName_cases h node with heq | ⟨full, number, hanswer, heq, hsuffix⟩
  · rw [heq]
  · rw [heq, hanswer]
    exact snprintf_cut_iff full hsuffix hs

/-! With the whole name. -/

/-- A buffer of 256 bytes gets the first 255 bytes of the name. -/
theorem take_appendNumber (s : Str) {number : Int} (hsuffix : (numberSuffix number).length ≤ 11) :
    (appendNumber s number).take 255 = (s.take 255 ++ numberSuffix number).take 255 := by
  unfold appendNumber
  split
  · rw [List.take_append, List.take_append, List.take_take, List.length_take, min_self]
    congr 2
    omega
  · have hlong : 255 ≤ s.length := by omega
    have hlen : (s.take 255).length = 255 := by rw [List.length_take, min_eq_left hlong]
    rw [List.take_append_of_le_length hlen.ge, List.take_take, min_self]

theorem uncached_256 {fnameAddr : UInt64} {full : Str} (h : uncached m t fnameAddr 1025 = (true, full)) :
    uncached m t fnameAddr 256 = (true, full.take 255) := by
  cases hindex : nameIndex m fnameAddr with
  | none =>
    rw [uncached_of_none m hindex] at h
    cases h
  | some compIndex =>
    rw [uncached_of_index m (by decide) hindex] at h ⊢
    have hsuffix := length_numberSuffix_le (nameNumber_lt m fnameAddr)
    cases hs : nameText m t compIndex 1025 with
    | none =>
      rw [answer_of_none m t hs] at h
      cases h
    | some s =>
      obtain ⟨s', hs', hsame⟩ : ∃ s', nameText m t compIndex 256 = some s' ∧ s'.take 255 = s.take 255 := by
        rw [nameText] at hs ⊢
        cases htable : tableText m t compIndex with
        | some text =>
          rw [htable, Option.some_or] at hs
          exact ⟨s, by rw [Option.some_or, hs], rfl⟩
        | none =>
          rw [htable, Option.none_or] at hs
          exact ⟨s.take 255, by rw [Option.none_or, NameTable.resolvePool_take m _ _ hs (by decide)],
            by rw [List.take_take, min_self]⟩
      rw [answer_of_some m t hs] at h
      obtain rfl := congrArg Prod.snd h
      rw [answer_of_some m t hs', snprintf, snprintf, List.take_take, min_eq_left (by decide),
        take_appendNumber s hsuffix, take_appendNumber s' hsuffix, hsame]

variable (hname : (className m (tables c) node).1 = true)
include hname

theorem uncached_className : uncached m (tables c) (classFName m node) 256 =
    (true, (className m (tables c) node).2.take 255) :=
  uncached_256 (Prod.ext hname rfl)

theorem propertyNamed_of_shown (h : CacheOk m (Stored m) c)
    (hshown : strstr (shownName m c node) (lit "Property") = true) : propertyNamed m (tables c) node = true := by
  have htext := uncached_of_shown h hshown
  simp only [uncached_className hname] at htext
  exact strstr_mono htext (List.take_prefix _ _).isInfix

theorem functionNamed_iff : functionNamed m (tables c) node = true ↔
    (uncached m (tables c) (classFName m node) 256).2 = lit "Function" := by
  rw [uncached_className hname, functionNamed, beq_iff_eq]
  constructor
  · intro heq
    rw [heq]
    rfl
  · intro heq
    have hlen := congrArg List.length heq
    rw [List.length_take] at hlen
    have height : (lit "Function").length = 8 := rfl
    rw [List.take_of_length_le (by omega)] at heq
    exact heq

end Answers

/-! ### Lists -/

/-- The list from `ptr` on, as its Next pointers link it; any pointer that is not valid ends it. -/
def ListFrom (m : Memory) : UInt64 → List UInt64 → Prop
  | ptr, [] => rmValidatePtr ptr = false
  | ptr, node :: nodes => ptr = node ∧ rmValidatePtr node = true ∧ ListFrom m (m.ptr (node + offUfieldNext)) nodes

instance ListFrom.decidable (m : Memory) : (ptr : UInt64) → (nodes : List UInt64) → Decidable (ListFrom m ptr nodes)
  | ptr, [] => inferInstanceAs (Decidable (rmValidatePtr ptr = false))
  | _, node :: nodes =>
    have := ListFrom.decidable m (m.ptr (node + offUfieldNext)) nodes
    inferInstanceAs (Decidable (_ ∧ _ ∧ _))

/-- The nodes that `n` rounds come to. -/
def reached (m : Memory) : (n : Nat) → UInt64 → List UInt64
  | 0, _ => []
  | n + 1, ptr => if rmValidatePtr ptr then ptr :: reached m n (m.ptr (ptr + offUfieldNext)) else []

section Lists
variable {m : Memory} {ptr : UInt64} {nodes : List UInt64}

theorem ListFrom.unique (h : ListFrom m ptr nodes) {nodes' : List UInt64} (h' : ListFrom m ptr nodes') :
    nodes = nodes' := by
  induction nodes generalizing ptr nodes' with
  | nil =>
    cases nodes' with
    | nil => rfl
    | cons node nodes' =>
      obtain ⟨rfl, hvalid, -⟩ := h'
      rw [ListFrom, hvalid] at h
      cases h
  | cons node nodes ih =>
    obtain ⟨rfl, hvalid, hrest⟩ := h
    cases nodes' with
    | nil =>
      rw [ListFrom, hvalid] at h'
      cases h'
    | cons node' nodes' =>
      obtain ⟨rfl, -, hrest'⟩ := h'
      rw [ih hrest hrest']

/-- From each of its nodes the list goes on, and is no longer. -/
theorem ListFrom.rest (h : ListFrom m ptr nodes) {node : UInt64} (hnode : node ∈ nodes) :
    ∃ rest, ListFrom m node rest ∧ rest.length ≤ nodes.length := by
  induction nodes generalizing ptr with
  | nil => cases hnode
  | cons head nodes ih =>
    obtain ⟨rfl, hvalid, hrest⟩ := h
    rcases List.mem_cons.mp hnode with rfl | hmem
    · exact ⟨node :: nodes, ⟨rfl, hvalid, hrest⟩, le_rfl⟩
    · obtain ⟨rest, hlist, hlen⟩ := ih hrest hmem
      exact ⟨rest, hlist, hlen.trans (Nat.le_succ _)⟩

/-- A list that ends has no node twice. -/
theorem ListFrom.nodup (h : ListFrom m ptr nodes) : nodes.Nodup := by
  induction nodes generalizing ptr with
  | nil => exact List.nodup_nil
  | cons node nodes ih =>
    have hrest := h.2.2
    refine List.nodup_cons.mpr ⟨fun hmem => ?_, ih hrest⟩
    obtain ⟨rest, hlist, hlen⟩ := hrest.rest hmem
    have hself : ListFrom m node (node :: nodes) := ⟨rfl, h.2.1, hrest⟩
    rw [← hself.unique hlist, List.length_cons] at hlen
    omega

theorem ListFrom.reached_eq (h : ListFrom m ptr nodes) {n : Nat} (hn : nodes.length ≤ n) : reached m n ptr = nodes := by
  induction nodes generalizing ptr n with
  | nil =>
    cases n with
    | zero => rfl
    | succ n =>
      rw [reached, if_neg (by rw [show rmValidatePtr ptr = false from h]; decide)]
  | cons node nodes ih =>
    obtain ⟨rfl, hvalid, hrest⟩ := h
    cases n with
    | zero => cases hn
    | succ n => rw [reached, if_pos hvalid, ih hrest (Nat.le_of_succ_le_succ hn)]

end Lists

/-! ### The walks -/

section Walks
variable {m : Memory} {c : Ue4rCtx} {ptr node : UInt64} {nodes : List UInt64}

theorem exec_resolve_kept (h : CacheOk m (Stored m) c) (fnameAddr : UInt64) :
    CachesKept m (Stored m) c (m.exec (ue4rResolveName fnameAddr 256) c).2 :=
  exec_resolveName_kept h stored_of_text fnameAddr

theorem exec_readUProperty_kept (h : CacheOk m (Stored m) c) (typeBuf : Str) :
    CachesKept m (Stored m) c (m.exec (readUProperty node typeBuf) c).2 := by
  simp only [readUProperty, Memory.exec_bind, Memory.exec_lift, Memory.exec_pure]
  exact exec_resolve_kept h _

/-- A round of the property walk at a node with a valid class. -/
theorem property_round (h : CacheOk m (Stored m) c) (hvalid : rmValidatePtr (m.ptr (node + offUobjectClass)) = true) :
    (m.exec (readPropertyNode node) c).1.1.isSome = strstr (shownName m c node) (lit "Property") ∧
      (m.exec (readPropertyNode node) c).1.2 = m.ptr (node + offUfieldNext) ∧
      CachesKept m (Stored m) c (m.exec (readPropertyNode node) c).2 := by
  obtain ⟨resolved, hname, hnone⟩ := exec_className h.chunks node
  have hkept := exec_resolve_kept h (classFName m node)
  rw [exec_readPropertyNode hvalid]
  unfold classFName at hname hkept
  generalize m.exec (ue4rResolveName (m.ptr (node + offUobjectClass) + offUobjectName) 256) c = r at hname hkept
  obtain ⟨⟨resolved', typeBuf⟩, c'⟩ := r
  simp only [Prod.mk.injEq] at hname
  obtain ⟨rfl, rfl⟩ := hname
  by_cases hprop : resolved' = true ∧ strstr (shownName m c node) (lit "Property") = true
  · simp only [if_pos hprop]
    exact ⟨hprop.2.symm, trivial, hkept.trans (exec_readUProperty_kept hkept.ok _)⟩
  · simp only [if_neg hprop]
    refine ⟨?_, trivial, hkept⟩
    cases resolved' with
    | true => exact (Bool.eq_false_iff.mpr fun hstr => hprop ⟨rfl, hstr⟩).symm
    | false =>
      rw [hnone rfl]
      rfl

/-- The nodes that the property walk takes for properties, from a list whose nodes have valid classes. -/
def shownProperties (m : Memory) : List UInt64 → Ue4rCtx → List UInt64
  | [], _ => []
  | node :: nodes, c =>
    (if strstr (shownName m c node) (lit "Property") then [node] else []) ++
      shownProperties m nodes (m.exec (readPropertyNode node) c).2

/-- The property walk of a list that ends before its counter is full. -/
theorem property_walk (hlist : ListFrom m ptr nodes)
    (hvalid : ∀ node ∈ nodes, rmValidatePtr (m.ptr (node + offUobjectClass)) = true) (h : CacheOk m (Stored m) c)
    {w : ListWalk Ue4Property} (hcount : w.count + (shownProperties m nodes c).length < maxListWalk ∨
      w.count + nodes.length ≤ maxListWalk) {fuel : Nat} (hfuel : nodes.length < fuel) :
    ∃ w', (m.exec (readPropertiesLoop fuel ptr w) c).1 = some w' ∧
      (propertyTrace m fuel ptr w.count c).map Prod.fst = shownProperties m nodes c := by
  induction nodes generalizing ptr c w fuel with
  | nil =>
    obtain ⟨fuel, rfl⟩ := Nat.exists_eq_succ_of_ne_zero (Nat.ne_of_gt hfuel)
    -- The list ends with a pointer that is not valid.
    have hend : ¬(rmValidatePtr ptr = true ∧ w.count < maxListWalk) := by
      rw [show rmValidatePtr ptr = false from hlist]
      simp
    rw [Lists.exec_readPropertiesLoop, if_neg hend, propertyTrace, walkTrace_end m hend]
    exact ⟨w, rfl, rfl⟩
  | cons node nodes ih =>
    obtain ⟨rfl, hptr, hrest⟩ := hlist
    obtain ⟨fuel, rfl⟩ := Nat.exists_eq_succ_of_ne_zero (Nat.ne_of_gt (Nat.zero_lt_of_lt hfuel))
    obtain ⟨hshown, hnext, hkept⟩ := property_round h (hvalid ptr List.mem_cons_self)
    have hgo : rmValidatePtr ptr = true ∧ w.count < maxListWalk := by
      refine ⟨hptr, ?_⟩
      rw [List.length_cons] at hcount
      omega
    have hvalid' := fun node hnode => hvalid node (List.mem_cons_of_mem ptr hnode)
    rw [List.length_cons] at hfuel hcount
    rw [shownProperties, List.length_append] at hcount
    rw [Lists.exec_readPropertiesLoop, if_pos hgo, propertyTrace, walkTrace_step m hgo, hnext, shownProperties]
    cases hp : (m.exec (readPropertyNode ptr) c).1.1 with
    | none =>
      -- A node that is not shown is not counted.
      rw [hp, Option.isSome_none] at hshown
      rw [← hshown] at hcount ⊢
      have hcount' : (w.addProperty none).count +
          (shownProperties m nodes (m.exec (readPropertyNode ptr) c).2).length < maxListWalk ∨
            (w.addProperty none).count + nodes.length ≤ maxListWalk :=
        hcount.imp (fun hlt => by simpa using hlt) fun hle => by simp; omega
      obtain ⟨w', hloop, htrace⟩ := ih hrest hvalid' hkept.ok hcount' (Nat.lt_of_succ_lt_succ hfuel)
      exact ⟨w', hloop, by simpa using htrace⟩
    | some p =>
      -- A node that is shown is counted, and there is room for all of them.
      rw [hp, Option.isSome_some] at hshown
      rw [← hshown, if_pos rfl] at hcount ⊢
      have hcount' : (w.addProperty (some p)).count +
          (shownProperties m nodes (m.exec (readPropertyNode ptr) c).2).length < maxListWalk ∨
            (w.addProperty (some p)).count + nodes.length ≤ maxListWalk :=
        hcount.imp (fun hlt => by simp at hlt ⊢; omega) fun hle => by simp; omega
      obtain ⟨w', hloop, htrace⟩ := ih hrest hvalid' hkept.ok hcount' (Nat.lt_of_succ_lt_succ hfuel)
      exact ⟨w', hloop, by simpa using htrace⟩

/-- A walk that takes no node for a property has met a list of UFields that are none. -/
theorem list_of_no_properties {fuel : Nat} (h : CacheOk m (Stored m) c) {w w' : ListWalk Ue4Property}
    (hcount : w.count < maxListWalk) (hloop : (m.exec (readPropertiesLoop fuel ptr w) c).1 = some w')
    (hnone : propertyTrace m fuel ptr w.count c = []) :
    ∃ nodes, ListFrom m ptr nodes ∧ (∀ node ∈ nodes, rmValidatePtr (m.ptr (node + offUobjectClass)) = true) ∧
      shownProperties m nodes c = [] := by
  induction fuel generalizing ptr c w with
  | zero => cases hloop
  | succ fuel ih =>
    rw [Lists.exec_readPropertiesLoop] at hloop
    rw [propertyTrace] at hnone
    by_cases hptr : rmValidatePtr ptr = true
    · rw [if_pos ⟨hptr, hcount⟩] at hloop
      rw [walkTrace_step m ⟨hptr, hcount⟩] at hnone
      obtain ⟨hhere, hlater⟩ := List.append_eq_nil_iff.mp hnone
      have hskip : (m.exec (readPropertyNode ptr) c).1.1 = none := by
        cases hp : (m.exec (readPropertyNode ptr) c).1.1 with
        | none => rfl
        | some p => rw [hp] at hhere; cases hhere
      -- A node without a class would be read as an FField, and shown.
      have hvalid : rmValidatePtr (m.ptr (ptr + offUobjectClass)) = true := by
        by_contra hno
        have hfield : (m.exec (readPropertyNode ptr) c).1.1.isSome = true := by
          simp [readPropertyNode, hno]
        rw [hskip] at hfield
        cases hfield
      obtain ⟨hshown, hnext, hkept⟩ := property_round h hvalid
      rw [hskip] at hloop hlater hshown
      rw [hnext] at hloop hlater
      obtain ⟨nodes, hlist, hclasses, hrest⟩ := ih hkept.ok (w := w.addProperty none) hcount hloop hlater
      refine ⟨ptr :: nodes, ⟨rfl, hptr, hlist⟩, List.forall_mem_cons.mpr ⟨hvalid, hclasses⟩, ?_⟩
      rw [shownProperties, ← hshown, hrest]
      rfl
    · exact ⟨[], Bool.eq_false_iff.mpr hptr, fun _ hnode => absurd hnode List.not_mem_nil, rfl⟩

/-- The function walk takes the node for a function. -/
def functionShown (m : Memory) (t : NameTables) (node : UInt64) : Bool :=
  rmValidatePtr (m.ptr (node + offUobjectClass)) && (uncached m t (classFName m node) 256).2 == lit "Function"

/-- A round of the function walk. The cache makes no difference to it. -/
theorem function_round (h : CacheOk m (Stored m) c) (node : UInt64) :
    (m.exec (readFunctionNode node) c).1.1.isSome = functionShown m (tables c) node ∧
      (m.exec (readFunctionNode node) c).1.2 = m.ptr (node + offUfieldNext) ∧
      CachesKept m (Stored m) c (m.exec (readFunctionNode node) c).2 := by
  have hfunction : ∀ c', CacheOk m (Stored m) c' → CachesKept m (Stored m) c' (m.exec (readUFunction node) c').2 := by
    intro c' hok
    simp only [readUFunction, resolveObjectName, Memory.exec_bind, Memory.exec_lift, Memory.exec_pure]
    split
    · exact exec_resolve_kept hok _
    · exact .refl hok
  obtain ⟨className, c', hclass, hshown, hkept⟩ : ∃ className c',
      m.exec (readChildClass (m.ptr (node + offUobjectClass))) c = (className, c') ∧
        ((className == lit "Function") = functionShown m (tables c) node) ∧ CachesKept m (Stored m) c c' := by
    unfold functionShown readChildClass
    by_cases hvalid : rmValidatePtr (m.ptr (node + offUobjectClass)) = true
    · obtain ⟨resolved, hname, -⟩ := exec_className h.chunks node
      rw [if_pos hvalid, Memory.exec_map, resolveObjectName, if_pos hvalid]
      refine ⟨_, _, rfl, ?_, exec_resolve_kept h _⟩
      have hbuf : (m.exec (ue4rResolveName (classFName m node) 256) c).1.2 = shownName m c node := by rw [hname]
      have hiff := shown_eq_iff h node (by decide : (lit "Function").length < 59)
      rw [hvalid, Bool.true_and, Bool.eq_iff_iff, beq_iff_eq, beq_iff_eq, ← hiff, ← hbuf, classFName]
    · rw [if_neg hvalid, Memory.exec_pure]
      refine ⟨[], c, rfl, ?_, .refl h⟩
      rw [Bool.eq_false_iff.mpr hvalid, Bool.false_and]
      rfl
  rw [exec_readFunctionNode, hclass, ← hshown]
  by_cases hname : className = lit "Function"
  · simp only [if_pos hname]
    exact ⟨by simp [hname], trivial, hkept.trans (hfunction c' hkept.ok)⟩
  · simp only [if_neg hname]
    exact ⟨by simp [hname], trivial, hkept⟩

theorem function_walk (ptr : UInt64) (left : Nat) (h : CacheOk m (Stored m) c) {w : ListWalk Ue4Function}
    (hleft : w.count + left = maxListWalk) {fuel : Nat} (hfuel : left < fuel) :
    ∃ w', (m.exec (readFunctionsLoop fuel ptr w) c).1 = some w' ∧
      (functionTrace m fuel ptr w.count c).map Prod.fst =
        (reached m left ptr).filter (functionShown m (tables c)) := by
  induction left generalizing ptr c w fuel with
  | zero =>
    obtain ⟨fuel, rfl⟩ := Nat.exists_eq_succ_of_ne_zero (Nat.ne_of_gt hfuel)
    have hend : ¬(rmValidatePtr ptr = true ∧ w.count < maxListWalk) := fun hgo => by omega
    rw [Lists.exec_readFunctionsLoop, if_neg hend, functionTrace, walkTrace_end m hend]
    exact ⟨w, rfl, rfl⟩
  | succ left ih =>
    obtain ⟨fuel, rfl⟩ := Nat.exists_eq_succ_of_ne_zero (Nat.ne_of_gt (Nat.zero_lt_of_lt hfuel))
    rw [Lists.exec_readFunctionsLoop, functionTrace, reached]
    by_cases hptr : rmValidatePtr ptr = true
    · have hgo : rmValidatePtr ptr = true ∧ w.count < maxListWalk := ⟨hptr, by omega⟩
      obtain ⟨hshown, hnext, hkept⟩ := function_round h ptr
      obtain ⟨w', hloop, htrace⟩ := ih (m.ptr (ptr + offUfieldNext)) hkept.ok
        (w := w.addFunction (m.exec (readFunctionNode ptr) c).1.1)
        (by rw [ListWalk.count_addFunction]; omega) (by omega : left < fuel)
      rw [tables_of_kept hkept] at htrace
      rw [if_pos hgo, walkTrace_step m hgo, if_pos hptr, hnext, List.filter_cons, ← hshown]
      refine ⟨w', hloop, ?_⟩
      rw [List.map_append]
      cases (m.exec (readFunctionNode ptr) c).1.1 <;> simpa using htrace
    · have hend : ¬(rmValidatePtr ptr = true ∧ w.count < maxListWalk) := fun hgo => hptr hgo.1
      rw [if_neg hend, walkTrace_end m hend, if_neg hptr]
      exact ⟨w, rfl, rfl⟩

end Walks

/-! ### The two lists of a class -/

/-- The Children list of a class of UE 4.18. Every node has a class with a name. -/
structure ChildrenList (m : Memory) (t : NameTables) (obj : UInt64) (nodes : List UInt64) : Prop where
  list : ListFrom m (m.ptr (obj + offUstructChildren)) nodes
  short : nodes.length ≤ 1000
  classes : ∀ node ∈ nodes, rmValidatePtr (m.ptr (node + offUobjectClass)) = true
  names : ∀ node ∈ nodes, (className m t node).1 = true

section Starts
variable (m : Memory) (obj : UInt64)

def orPtr (ptr addr : UInt64) : UInt64 := if rmValidatePtr ptr then ptr else m.ptr addr

/-- Where the walks begin. -/
def propertiesStart : UInt64 :=
  orPtr m (orPtr m (m.ptr (obj + offUstructChildren)) (obj + offUstructChildProps)) (obj + offUstructChildren425)

def functionsStart : UInt64 := orPtr m (m.ptr (obj + offUstructChildren)) (obj + offUstructChildren425)

/-- The records of the walks, each with its node. -/
def propertiesOf (fuel : Nat) (c : Ue4rCtx) : List (UInt64 × Ue4Property) :=
  propertyTrace m fuel (propertiesStart m obj) 0 c

def functionsOf (fuel : Nat) (c : Ue4rCtx) : List (UInt64 × Ue4Function) :=
  functionTrace m fuel (functionsStart m obj) 0 c

theorem run_validOr (ptr addr : UInt64) : (validOr ptr addr).run m.host = orPtr m ptr addr := by
  unfold validOr orPtr
  split <;> simp

theorem exec_readProperties (fuel : Nat) (c : Ue4rCtx) : m.exec (readProperties fuel obj) c =
    m.exec (readPropertiesLoop fuel (propertiesStart m obj) .start) c := by
  simp only [readProperties, firstProperty, Memory.exec_bind, Memory.exec_lift, Memory.run_rmReadPtr, run_validOr]
  rfl

theorem exec_readFunctions (fuel : Nat) (c : Ue4rCtx) : m.exec (readFunctions fuel obj) c =
    m.exec (readFunctionsLoop fuel (functionsStart m obj) .start) c := by
  simp only [readFunctions, Memory.exec_bind, Memory.exec_lift, Memory.run_rmReadPtr, run_validOr]
  rfl

end Starts

/-- With enough rounds, the walks return the records of exactly the properties and the functions of the list, in its
    order, each once and none in both. -/
structure Split (m : Memory) (t : NameTables) (obj : UInt64) (nodes : List UInt64) (c c' : Ue4rCtx) : Prop where
  properties : ∃ rounds, ∀ fuel > rounds, ∃ w, (m.exec (readProperties fuel obj) c).1 = some w ∧
    w.items = (propertiesOf m obj fuel c).map Prod.snd ∧
    (propertiesOf m obj fuel c).map Prod.fst = nodes.filter (propertyNamed m t)
  functions : ∃ rounds, ∀ fuel > rounds, ∃ w, (m.exec (readFunctions fuel obj) c').1 = some w ∧
    w.items = (functionsOf m obj fuel c').map Prod.snd ∧
    (functionsOf m obj fuel c').map Prod.fst = nodes.filter (functionNamed m t)
  once : (nodes.filter (propertyNamed m t)).Nodup ∧ (nodes.filter (functionNamed m t)).Nodup
  apart : ∀ node ∈ nodes.filter (propertyNamed m t), node ∉ nodes.filter (functionNamed m t)

/-- When the walk comes to a node whose class is that of a property, the context has enough of the name to see it. -/
def Recognised (m : Memory) (t : NameTables) : List UInt64 → Ue4rCtx → Prop
  | [], _ => True
  | node :: nodes, c =>
    (propertyNamed m t node = true → strstr (shownName m c node) (lit "Property") = true) ∧
      Recognised m t nodes (m.exec (readPropertyNode node) c).2

/-- What an empty list sends the reader to has no properties and no functions. -/
structure NothingElsewhere (m : Memory) (obj : UInt64) (c c' : Ue4rCtx) : Prop where
  properties : ∃ nodes, ListFrom m (propertiesStart m obj) nodes ∧
    (∀ node ∈ nodes, rmValidatePtr (m.ptr (node + offUobjectClass)) = true) ∧ shownProperties m nodes c = []
  functions : ∀ node ∈ reached m maxListWalk (functionsStart m obj), functionShown m (tables c') node = false

section SplitLists
variable {m : Memory} {obj : UInt64} {nodes : List UInt64} {c c' : Ue4rCtx}

/-- The walk takes no other nodes for properties, and misses none when all of them are recognised. -/
theorem shownProperties_iff (hnames : ∀ node ∈ nodes, (className m (tables c) node).1 = true)
    (hvalid : ∀ node ∈ nodes, rmValidatePtr (m.ptr (node + offUobjectClass)) = true) (h : CacheOk m (Stored m) c) :
    (shownProperties m nodes c).length ≤ (nodes.filter (propertyNamed m (tables c))).length ∧
      (shownProperties m nodes c = nodes.filter (propertyNamed m (tables c)) ↔ Recognised m (tables c) nodes c) := by
  induction nodes generalizing c with
  | nil => exact ⟨le_rfl, iff_of_true rfl trivial⟩
  | cons node nodes ih =>
    obtain ⟨-, -, hkept⟩ := property_round h (hvalid node List.mem_cons_self)
    have htables := tables_of_kept hkept
    have hrest := ih (c := (m.exec (readPropertyNode node) c).2)
      (fun n hn => by rw [htables]; exact hnames n (List.mem_cons_of_mem node hn))
      (fun n hn => hvalid n (List.mem_cons_of_mem node hn)) hkept.ok
    rw [htables] at hrest
    obtain ⟨hlen, hiff⟩ := hrest
    have hshown := propertyNamed_of_shown (hnames node List.mem_cons_self) h
    rw [shownProperties, Recognised, List.filter_cons]
    cases hs : strstr (shownName m c node) (lit "Property") with
    | true =>
      rw [if_pos rfl, if_pos (hshown hs), List.singleton_append]
      refine ⟨Nat.succ_le_succ hlen, ?_⟩
      rw [List.cons.injEq, and_iff_right rfl, hiff]
      exact (and_iff_right fun _ => rfl).symm
    | false =>
      rw [if_neg Bool.false_ne_true, List.nil_append]
      by_cases hn : propertyNamed m (tables c) node = true
      · rw [if_pos hn, List.length_cons]
        refine ⟨hlen.trans (Nat.le_succ _), iff_of_false (fun heq => ?_) fun hrec => Bool.noConfusion (hrec.1 hn)⟩
        rw [heq, List.length_cons] at hlen
        omega
      · rw [if_neg hn]
        exact ⟨hlen, hiff.trans (and_iff_right fun hprop => absurd hprop hn).symm⟩

theorem not_both {t : NameTables} {node : UInt64} (h : propertyNamed m t node = true) :
    functionNamed m t node = false := by
  refine Bool.eq_false_iff.mpr fun hfun => ?_
  rw [propertyNamed, beq_iff_eq.mp hfun] at h
  revert h
  decide

/-- From a list that is not empty, both walks begin. -/
theorem starts_of_list {node : UInt64} (h : ListFrom m (m.ptr (obj + offUstructChildren)) (node :: nodes)) :
    propertiesStart m obj = m.ptr (obj + offUstructChildren) ∧
      functionsStart m obj = m.ptr (obj + offUstructChildren) := by
  obtain ⟨heq, hvalid, -⟩ := h
  rw [← heq] at hvalid
  simp [propertiesStart, functionsStart, orPtr, hvalid]

theorem functionShown_eq {node : UInt64} (hvalid : rmValidatePtr (m.ptr (node + offUobjectClass)) = true)
    (hname : (className m (tables c) node).1 = true) :
    functionShown m (tables c) node = functionNamed m (tables c) node := by
  rw [functionShown, hvalid, Bool.true_and, Bool.eq_iff_iff, functionNamed_iff hname, beq_iff_eq]

section Classes
variable (hlist : ChildrenList m (tables c) obj nodes) (h : CacheOk m (Stored m) c)
include hlist h

/-- The property walk returns the properties exactly when it recognises them, or finds none elsewhere. -/
theorem properties_iff :
    (∃ rounds, ∀ fuel > rounds, ∃ w, (m.exec (readProperties fuel obj) c).1 = some w ∧
      w.items = (propertiesOf m obj fuel c).map Prod.snd ∧
      (propertiesOf m obj fuel c).map Prod.fst = nodes.filter (propertyNamed m (tables c))) ↔
    Recognised m (tables c) nodes c ∧ (nodes = [] → ∃ others, ListFrom m (propertiesStart m obj) others ∧
      (∀ node ∈ others, rmValidatePtr (m.ptr (node + offUobjectClass)) = true) ∧ shownProperties m others c = []) := by
  have htrace : ∀ {fuel w}, (m.exec (readProperties fuel obj) c).1 = some w →
      w.items = (propertiesOf m obj fuel c).map Prod.snd := by
    intro fuel w hw
    rw [exec_readProperties] at hw
    simpa [ListWalk.start, propertiesOf] using readPropertiesLoop_trace m hw
  cases hnodes : nodes with
  | nil =>
    -- An empty list makes the walker start at another pointer, and there it must find nothing to show.
    simp only [List.filter_nil, List.map_eq_nil_iff, true_implies, Recognised, true_and]
    constructor
    · rintro ⟨rounds, hrounds⟩
      obtain ⟨w, hw, -, hnone⟩ := hrounds (rounds + 1) (Nat.lt_succ_self rounds)
      rw [exec_readProperties] at hw
      exact list_of_no_properties h (by decide) hw hnone
    · rintro ⟨others, hothers, hvalid, hnone⟩
      refine ⟨others.length, fun fuel hfuel => ?_⟩
      obtain ⟨w, hw, hfst⟩ := property_walk hothers hvalid h (w := .start) (Or.inl (by rw [hnone]; decide)) hfuel
      rw [← exec_readProperties] at hw
      refine ⟨w, hw, htrace hw, ?_⟩
      rw [hnone, List.map_eq_nil_iff] at hfst
      exact hfst
  | cons node rest =>
    rw [← hnodes]
    have hne : nodes ≠ [] := hnodes ▸ List.cons_ne_nil node rest
    have hstart := (starts_of_list (hnodes ▸ hlist.list)).1
    have hwalk : ∀ fuel > nodes.length, ∃ w, (m.exec (readProperties fuel obj) c).1 = some w ∧
        (propertiesOf m obj fuel c).map Prod.fst = shownProperties m nodes c := by
      intro fuel hfuel
      have hcount : (ListWalk.start : ListWalk Ue4Property).count + nodes.length ≤ maxListWalk := by
        have hshort := hlist.short
        simpa [ListWalk.start, maxListWalk] using hshort
      obtain ⟨w, hw, hfst⟩ := property_walk (hstart ▸ hlist.list) hlist.classes h (Or.inr hcount) hfuel
      rw [← exec_readProperties] at hw
      exact ⟨w, hw, hfst⟩
    rw [← (shownProperties_iff hlist.names hlist.classes h).2, and_iff_left fun hnil => absurd hnil hne]
    constructor
    · -- With rounds enough for both, the two traces are one.
      rintro ⟨rounds, hrounds⟩
      obtain ⟨-, -, -, hfst⟩ := hrounds (max rounds nodes.length + 1) (by omega)
      obtain ⟨-, -, hfst'⟩ := hwalk (max rounds nodes.length + 1) (by omega)
      exact hfst'.symm.trans hfst
    · intro heq
      refine ⟨nodes.length, fun fuel hfuel => ?_⟩
      obtain ⟨w, hw, hfst⟩ := hwalk fuel hfuel
      exact ⟨w, hw, htrace hw, hfst.trans heq⟩

/-- The function walk returns the functions, unless an empty list lets it find some elsewhere. -/
theorem functions_iff :
    (∃ rounds, ∀ fuel > rounds, ∃ w, (m.exec (readFunctions fuel obj) c).1 = some w ∧
      w.items = (functionsOf m obj fuel c).map Prod.snd ∧
      (functionsOf m obj fuel c).map Prod.fst = nodes.filter (functionNamed m (tables c))) ↔
    (nodes = [] → ∀ node ∈ reached m maxListWalk (functionsStart m obj), functionShown m (tables c) node = false) := by
  -- The walk ends by its count alone, with what can be reached.
  have hwalk : ∀ fuel > maxListWalk, ∃ w, (m.exec (readFunctions fuel obj) c).1 = some w ∧
      w.items = (functionsOf m obj fuel c).map Prod.snd ∧
      (functionsOf m obj fuel c).map Prod.fst =
        (reached m maxListWalk (functionsStart m obj)).filter (functionShown m (tables c)) := by
    intro fuel hfuel
    obtain ⟨w, hw, hfst⟩ :=
      function_walk (functionsStart m obj) maxListWalk h (w := .start) (Nat.zero_add _) hfuel
    have hitems := readFunctionsLoop_trace m hw
    rw [← exec_readFunctions] at hw
    exact ⟨w, hw, by simpa [ListWalk.start, functionsOf] using hitems, hfst⟩
  have hlists : (∃ rounds, ∀ fuel > rounds, ∃ w, (m.exec (readFunctions fuel obj) c).1 = some w ∧
      w.items = (functionsOf m obj fuel c).map Prod.snd ∧
      (functionsOf m obj fuel c).map Prod.fst = nodes.filter (functionNamed m (tables c))) ↔
      (reached m maxListWalk (functionsStart m obj)).filter (functionShown m (tables c)) =
        nodes.filter (functionNamed m (tables c)) := by
    constructor
    · rintro ⟨rounds, hrounds⟩
      obtain ⟨-, -, -, hfst⟩ := hrounds (max rounds maxListWalk + 1) (by omega)
      obtain ⟨-, -, -, hfst'⟩ := hwalk (max rounds maxListWalk + 1) (by omega)
      exact hfst'.symm.trans hfst
    · intro heq
      refine ⟨maxListWalk, fun fuel hfuel => ?_⟩
      obtain ⟨w, hw, hitems, hfst⟩ := hwalk fuel hfuel
      exact ⟨w, hw, hitems, hfst.trans heq⟩
  rw [hlists]
  cases hnodes : nodes with
  | nil =>
    -- Without functions of its own, nothing that is reached may be shown.
    simp only [List.filter_nil, List.filter_eq_nil_iff, true_implies, Bool.not_eq_true]
  | cons node rest =>
    have hstart := (starts_of_list (hnodes ▸ hlist.list)).2
    have hshort : nodes.length ≤ maxListWalk := hlist.short
    rw [← hnodes, hstart, hlist.list.reached_eq hshort]
    have hne : nodes ≠ [] := hnodes ▸ List.cons_ne_nil node rest
    refine iff_of_true (List.filter_congr fun n hn => ?_) fun hnil => absurd hnil hne
    exact functionShown_eq (hlist.classes n hn) (hlist.names n hn)

end Classes

/-- The Children list is split without loss exactly when every property is recognised and an empty list leads to
    nothing else. -/
theorem split_iff (hlist : ChildrenList m (tables c) obj nodes) (h : CacheOk m (Stored m) c)
    (h' : CacheOk m (Stored m) c') (htables : tables c' = tables c) :
    Split m (tables c) obj nodes c c' ↔
      Recognised m (tables c) nodes c ∧ (nodes = [] → NothingElsewhere m obj c c') := by
  have hprops := properties_iff hlist h
  have hfuns := functions_iff (htables.symm ▸ hlist) h'
  constructor
  · intro hsplit
    obtain ⟨hrec, helse⟩ := hprops.mp hsplit.properties
    refine ⟨hrec, fun hnil => ⟨helse hnil, ?_⟩⟩
    have hfunctions := hsplit.functions
    rw [← htables] at hfunctions
    exact hfuns.mp hfunctions hnil
  · rintro ⟨hrec, helse⟩
    have hnodup := hlist.list.nodup
    refine ⟨hprops.mpr ⟨hrec, fun hnil => (helse hnil).properties⟩, ?_,
      ⟨hnodup.filter _, hnodup.filter _⟩, fun node hnode hfun => ?_⟩
    · have hfunctions := hfuns.mpr fun hnil => (helse hnil).functions
      rwa [htables] at hfunctions
    · have hnot := not_both (List.mem_filter.mp hnode).2
      rw [(List.mem_filter.mp hfun).2] at hnot
      cases hnot

end SplitLists

/-! ### Two children -/

/-- A class at 0x10000 with two children. The class of the first has the given name; the one of the second is `cls`,
    which may be that class, or the one at 0x14000 with the name `Function`. -/
def twoChildren (name : Str) (cls : UInt64) : Memory := .ofSegments
  [(0x10038, leBytes 8 0x11000), (0x11010, leBytes 8 0x13000 ++ leBytes 8 0), (0x11028, leBytes 8 0x12000),
   (0x12010, leBytes 8 cls.toNat ++ leBytes 8 0), (0x12028, leBytes 8 0), (0x13018, leBytes 8 1),
   (0x14018, leBytes 8 2), (0x30000, leBytes 8 0x31000),
   (0x31000, leBytes 8 0 ++ leBytes 8 0x32000 ++ leBytes 8 0x33000),
   (0x32000, leBytes 12 0 ++ name ++ leBytes 64 0), (0x33000, leBytes 12 0 ++ lit "Function" ++ leBytes 64 0)]

def walkerCtx : Ue4rCtx := .initial 0x10000 0x20000 0x30000

theorem walkerCtx_ok (m : Memory) : CacheOk m (Stored m) walkerCtx :=
  ⟨fun _ => Or.inl rfl, fun _ _ _ hname => absurd rfl hname⟩

theorem ChildrenList.pair {m : Memory} {t : NameTables} {obj a b : UInt64}
    (hlist : ListFrom m (m.ptr (obj + offUstructChildren)) [a, b])
    (ha : rmValidatePtr (m.ptr (a + offUobjectClass)) = true ∧ (className m t a).1 = true)
    (hb : rmValidatePtr (m.ptr (b + offUobjectClass)) = true ∧ (className m t b).1 = true) :
    ChildrenList m t obj [a, b] where
  list := hlist
  short := Nat.le_of_ble_eq_true rfl
  classes := List.forall_mem_cons.mpr ⟨ha.1, List.forall_mem_singleton.mpr hb.1⟩
  names := List.forall_mem_cons.mpr ⟨ha.2, List.forall_mem_singleton.mpr hb.2⟩

theorem split_iff_two : Split (twoChildren (lit "IntProperty") 0x14000) (tables walkerCtx) 0x10000 [0x11000, 0x12000]
    walkerCtx walkerCtx := by
  have hlist : ChildrenList (twoChildren (lit "IntProperty") 0x14000) (tables walkerCtx) 0x10000
      [0x11000, 0x12000] := by
    rw [twoChildren, Memory.ofSegments_eq]
    exact .pair (by decide +kernel) (by decide +kernel) (by decide +kernel)
  refine (split_iff hlist (walkerCtx_ok _) (walkerCtx_ok _) rfl).mpr ⟨⟨?_, ?_, trivial⟩, fun hnil => by cases hnil⟩
  · rw [twoChildren, Memory.ofSegments_eq]
    decide +kernel
  · rw [twoChildren, Memory.ofSegments_eq]
    decide +kernel

/-- Two properties of one class: by the second, the cache has only 59 bytes of the name of the class. -/
theorem second_property_lost : ¬∀ (m : Memory) (c c' : Ue4rCtx) (obj : UInt64) (nodes : List UInt64),
    ChildrenList m (tables c) obj nodes → CacheOk m (Stored m) c → CacheOk m (Stored m) c' → tables c' = tables c →
      Split m (tables c) obj nodes c c' := by
  intro h
  have hlist : ChildrenList (twoChildren (List.replicate 52 0x61 ++ lit "Property") 0x13000) (tables walkerCtx) 0x10000
      [0x11000, 0x12000] := by
    rw [twoChildren, Memory.ofSegments_eq]
    exact .pair (by decide +kernel) (by decide +kernel) (by decide +kernel)
  have hsplit := h _ _ _ _ _ hlist (walkerCtx_ok _) (walkerCtx_ok _) rfl
  obtain ⟨⟨-, hsecond, -⟩, -⟩ := (properties_iff hlist (walkerCtx_ok _)).mp hsplit.properties
  revert hsecond
  rw [twoChildren, Memory.ofSegments_eq]
  decide +kernel

end Children
end RadarAim

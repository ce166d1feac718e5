import Mathlib.Data.List.Nodup
import Mathlib.Logic.Relation

namespace DeviceHal.Lib

universe u

variable {α : Type u} {null : α} {next next' prev prev' : α → α}

/-- The last cell of the chain `l` behind `h`, and `h` itself for an empty chain. -/
def lastCell : α → List α → α
  | h, [] => h
  | _, x :: l => lastCell x l

/-- The links from `h` lead through exactly the cells of `l` and end there. -/
def Linked (next : α → α) (null : α) : α → List α → Prop
  | h, [] => next h = null
  | h, x :: l => next h = x ∧ x ≠ null ∧ Linked next null x l

/-- The back links of the cells of `l` name the cell before, the first one's `h`. -/
def Preds (prev : α → α) : α → List α → Prop
  | _, [] => True
  | h, x :: l => prev x = h ∧ Preds prev x l

/-- `x` is found by following links from `h`. -/
def Reaches (next : α → α) (null : α) : α → α → Prop :=
  Relation.ReflTransGen fun a b => next a = b ∧ b ≠ null

theorem lastCell_mem (h : α) (l : List α) : lastCell h l ∈ h :: l := by
  induction l generalizing h with
  | nil => simp [lastCell]
  | cons x l ih => exact List.mem_cons_of_mem h (ih x)

theorem preds_append (h : α) (l m : List α) :
    Preds prev h (l ++ m) ↔ Preds prev h l ∧ Preds prev (lastCell h l) m := by
  induction l generalizing h with
  | nil => simp [Preds, lastCell]
  | cons x l ih => simp [Preds, ih, and_assoc, lastCell]

variable {l : List α} {h x : α}

theorem Linked.ne_null (p : Linked next null h l) (hx : x ∈ l) : x ≠ null := by
  induction l generalizing h with
  | nil => simp at hx
  | cons y l ih =>
    rcases List.mem_cons.mp hx with rfl | hx
    · exact p.2.1
    · exact ih p.2.2 hx

variable {h : α}

theorem Linked.last (p : Linked next null h l) : next (lastCell h l) = null := by
  induction l generalizing h with
  | nil => exact p
  | cons y l ih => exact ih p.2.2

theorem Linked.congr (p : Linked next null h l)
    (same : ∀ x ∈ h :: l, next' x = next x) : Linked next' null h l := by
  induction l generalizing h with
  | nil => exact (same h (by simp)).trans p
  | cons y l ih =>
    obtain ⟨hy, hn, p⟩ := p
    exact ⟨(same h (by simp)).trans hy, hn, ih p fun x hx => same x (List.mem_cons_of_mem h hx)⟩

theorem Preds.congr (p : Preds prev h l) (same : ∀ x ∈ l, prev' x = prev x) : Preds prev' h l := by
  induction l generalizing h with
  | nil => trivial
  | cons y l ih =>
    exact ⟨(same y (by simp)).trans p.1, ih p.2 fun x hx => same x (List.mem_cons_of_mem y hx)⟩

theorem Linked.nil_iff (p : Linked next null h l) : next h = null ↔ l = [] := by
  cases l with
  | nil => simpa [Linked] using p
  | cons x l => simp [p.1, p.2.1]

theorem Linked.reaches (p : Linked next null h l) : Reaches next null h x ↔ x = h ∨ x ∈ l := by
  induction l generalizing h with
  | nil =>
    constructor
    · intro r
      rcases Relation.ReflTransGen.cases_head r with he | ⟨y, ⟨hy, hne⟩, _⟩
      · exact Or.inl he.symm
      · exact absurd (hy.symm.trans p) hne
    · rintro (rfl | r)
      · exact Relation.ReflTransGen.refl
      · simp at r
  | cons y l ih =>
    obtain ⟨hy, hn, p⟩ := p
    constructor
    · intro r
      rcases Relation.ReflTransGen.cases_head r with he | ⟨z, ⟨hz, _⟩, r⟩
      · exact Or.inl he.symm
      · have he : z = y := hz.symm.trans hy
        subst he
        exact Or.inr (List.mem_cons.mpr ((ih p).mp r))
    · rintro (rfl | r)
      · exact Relation.ReflTransGen.refl
      · exact Relation.ReflTransGen.head ⟨hy, hn⟩ ((ih p).mpr (List.mem_cons.mp r))

/-- Links that lead on may not change; ends of chains may be linked. -/
theorem Reaches.mono (r : Reaches next null h x)
    (same : ∀ a, next a ≠ null → next' a = next a) : Reaches next' null h x := by
  refine Relation.ReflTransGen.mono (fun a b hab => ?_) _ _ r
  obtain ⟨rfl, hb⟩ := hab
  exact ⟨same a hb, hb⟩

theorem Linked.snoc (p : Linked next null h l) (hx : x ≠ null)
    (same : ∀ y ∈ h :: l, y ≠ lastCell h l → next' y = next y)
    (nodup : (h :: l).Nodup) (last : next' (lastCell h l) = x) (stop : next' x = null) :
    Linked next' null h (l ++ [x]) := by
  induction l generalizing h with
  | nil => exact ⟨last, hx, stop⟩
  | cons y l ih =>
    obtain ⟨hy, hn, p⟩ := p
    obtain ⟨hout, hrest⟩ := List.nodup_cons.mp nodup
    have hh : h ≠ lastCell y l := fun he => hout (he ▸ lastCell_mem y l)
    refine ⟨(same h (by simp) hh).trans hy, hn, ih p ?_ hrest last⟩
    exact fun z hz => same z (List.mem_cons_of_mem h hz)

theorem Preds.snoc (p : Preds prev h l)
    (same : ∀ y ∈ l, prev' y = prev y) (last : prev' x = lastCell h l) :
    Preds prev' h (l ++ [x]) :=
  (preds_append h l [x]).mpr ⟨p.congr same, last, trivial⟩

variable {l m : List α}

/-- Linking the cell before `x` to the cell after it takes `x` out of the chain. -/
theorem Linked.unlink (p : Linked next null h (l ++ x :: m))
    (nodup : (h :: (l ++ x :: m)).Nodup) (link : next' (lastCell h l) = next x)
    (same : ∀ y ∈ h :: (l ++ m), y ≠ lastCell h l → next' y = next y) :
    Linked next' null h (l ++ m) := by
  induction l generalizing h with
  | nil =>
    obtain ⟨hx, hn, p⟩ := p
    have hout := (List.nodup_cons.mp nodup).1
    cases m with
    | nil => exact link.trans p
    | cons y m =>
      obtain ⟨hy, hny, p⟩ := p
      refine ⟨link.trans hy, hny, p.congr fun z hz => same z (List.mem_cons_of_mem h hz) ?_⟩
      intro he
      change z = h at he
      subst he
      exact hout (List.mem_cons_of_mem x hz)
  | cons y l ih =>
    obtain ⟨hy, hn, p⟩ := p
    obtain ⟨hout, hrest⟩ := List.nodup_cons.mp nodup
    have hh : h ≠ lastCell y l := by
      intro he
      have hm := lastCell_mem y l
      rw [← he] at hm
      exact hout (by grind)
    refine ⟨(same h (by simp) hh).trans hy, hn, ih p hrest link ?_⟩
    exact fun z hz => same z (List.mem_cons_of_mem h hz)

/-- The cell behind `x` is the only one whose back link changes. -/
theorem Preds.unlink (p : Preds prev h (l ++ x :: m))
    (nodup : (l ++ x :: m).Nodup) (link : ∀ y, m.head? = some y → prev' y = lastCell h l)
    (same : ∀ y ∈ l ++ m, m.head? ≠ some y → prev' y = prev y) : Preds prev' h (l ++ m) := by
  obtain ⟨pl, _, pm⟩ := (preds_append h l (x :: m)).mp p
  have hdis := List.disjoint_of_nodup_append nodup
  refine (preds_append h l m).mpr ⟨pl.congr fun y hy => ?_, ?_⟩
  · refine same y (List.mem_append_left m hy) fun he => ?_
    exact hdis hy (List.mem_cons_of_mem x (List.mem_of_mem_head? he))
  · cases m with
    | nil => trivial
    | cons y m =>
      refine ⟨link y rfl, pm.2.congr fun z hz => ?_⟩
      grind

/-- The back link of a cell names the cell its chain reaches it from. -/
theorem Preds.split (p : Preds prev h (l ++ x :: m)) : prev x = lastCell h l :=
  ((preds_append h l (x :: m)).mp p).2.1

theorem Linked.split (p : Linked next null h (l ++ x :: m)) :
    next (lastCell h l) = x ∧ Linked next null x m := by
  induction l generalizing h with
  | nil => exact ⟨p.1, p.2.2⟩
  | cons y l ih => exact ih p.2.2

theorem lastCell_append (h : α) (l m : List α) : lastCell h (l ++ m) = lastCell (lastCell h l) m := by
  induction l generalizing h with
  | nil => rfl
  | cons x l ih => exact ih x

theorem Linked.first (p : Linked next null h l) : next h = l.headD null := by
  cases l with
  | nil => exact p
  | cons x l => exact p.1

/-- The links lead from `h` through the cells of `l` and round to `h`, and the back links the other
way. -/
structure Ring (next prev : α → α) (h : α) (l : List α) : Prop where
  nodup : (h :: l).Nodup
  linked : Linked next h h l
  preds : Preds prev h l
  back : prev h = lastCell h l

theorem Ring.nil (hn : next h = h) (hp : prev h = h) : Ring next prev h [] :=
  ⟨List.nodup_singleton h, hn, trivial, hp⟩

theorem Ring.first (r : Ring next prev h l) : next h = l.headD h :=
  r.linked.first

/-- Around the ring the back links are the inverse of the links. -/
theorem Ring.inverse (r : Ring next prev h l) (hx : x ∈ h :: l) :
    prev (next x) = x ∧ next (prev x) = x := by
  rcases List.mem_cons.mp hx with rfl | hx
  · refine ⟨?_, ?_⟩
    · rw [r.first]
      cases l with
      | nil => exact r.back
      | cons y l => exact r.preds.1
    · rw [r.back]
      exact r.linked.last
  · obtain ⟨l, m, rfl⟩ := List.append_of_mem hx
    obtain ⟨hbefore, hafter⟩ := r.linked.split
    refine ⟨?_, ?_⟩
    · rw [hafter.first]
      cases m with
      | nil =>
        rw [List.headD_nil, r.back, lastCell_append]
        rfl
      | cons y m => exact ((preds_append h l (x :: y :: m)).mp r.preds).2.2.1
    · rw [r.preds.split]
      exact hbefore

theorem Ring.snoc (r : Ring next prev h l) (hx : x ∉ h :: l)
    (last : next' (prev h) = x) (stop : next' x = h) (back : prev' h = x)
    (before : prev' x = prev h)
    (sameNext : ∀ y ∈ h :: l, y ≠ prev h → next' y = next y)
    (samePrev : ∀ y ∈ l, prev' y = prev y) : Ring next' prev' h (l ++ [x]) := by
  rw [r.back] at last before sameNext
  have hne : x ≠ h := fun he => hx (he ▸ List.mem_cons_self)
  refine ⟨?_, r.linked.snoc hne sameNext r.nodup last stop, r.preds.snoc samePrev before, ?_⟩
  · rw [← List.cons_append]
    refine List.nodup_append.mpr ⟨r.nodup, List.nodup_singleton x, fun y hy z hz he => ?_⟩
    exact hx (List.mem_singleton.mp hz ▸ he ▸ hy)
  · rw [back, lastCell_append]
    rfl

theorem Ring.cons (r : Ring next prev h l) (hx : x ∉ h :: l)
    (first : next' h = x) (after : next' x = next h) (back : prev' (next h) = x)
    (before : prev' x = h) (sameNext : ∀ y ∈ l, next' y = next y)
    (samePrev : ∀ y ∈ h :: l, y ≠ next h → prev' y = prev y) : Ring next' prev' h (x :: l) := by
  have hne : x ≠ h := fun he => hx (he ▸ List.mem_cons_self)
  have hout : x ∉ l := fun hm => hx (List.mem_cons_of_mem h hm)
  obtain ⟨hh, hl⟩ := List.nodup_cons.mp r.nodup
  have hrest : Linked next' h x l := by
    have hlinked := r.linked
    cases l with
    | nil => exact after.trans hlinked
    | cons y l =>
      obtain ⟨hy, hn, p⟩ := hlinked
      exact ⟨after.trans hy, hn, p.congr sameNext⟩
  refine ⟨?_, ⟨first, hne, hrest⟩, ⟨before, ?_⟩, ?_⟩
  · grind
  · rw [r.first] at back samePrev
    have hpreds := r.preds
    cases l with
    | nil => trivial
    | cons y l =>
      refine ⟨back, hpreds.2.congr fun z hz => samePrev z (by simp [hz]) fun (he : z = y) => ?_⟩
      exact (List.nodup_cons.mp hl).1 (he ▸ hz)
  · rw [r.first] at back samePrev
    have hback := r.back
    cases l with
    | nil => exact back
    | cons y l =>
      rw [samePrev h List.mem_cons_self fun he => hh (he ▸ List.mem_cons_self), hback]
      rfl

/-- The neighbours of a cell are other cells of the ring. -/
theorem Ring.neighbours (r : Ring next prev h (l ++ x :: m)) :
    x ∉ h :: (l ++ m) ∧ next x ∈ h :: (l ++ m) ∧ prev x ∈ h :: (l ++ m) := by
  obtain ⟨hhead, hrest⟩ := List.nodup_cons.mp r.nodup
  have hout := (List.nodup_cons.mp (List.nodup_middle.mp hrest)).1
  refine ⟨fun hm => ?_, ?_, ?_⟩
  · grind
  · rw [r.linked.split.2.first]
    cases m with
    | nil => exact List.mem_cons_self
    | cons y m => simp
  · rw [r.preds.split]
    have hm := lastCell_mem h l
    rw [← List.cons_append]
    exact List.mem_append_left m hm

/-- Linking the neighbours of `x` to each other takes `x` out of the ring. -/
theorem Ring.unlink (r : Ring next prev h (l ++ x :: m))
    (link : next' (prev x) = next x) (back : prev' (next x) = prev x)
    (sameNext : ∀ y ∈ h :: (l ++ m), y ≠ prev x → next' y = next y)
    (samePrev : ∀ y ∈ h :: (l ++ m), y ≠ next x → prev' y = prev y) :
    Ring next' prev' h (l ++ m) := by
  rw [r.preds.split] at link back sameNext
  rw [r.linked.split.2.first] at back samePrev
  have hhead : h ∉ l ++ x :: m := (List.nodup_cons.mp r.nodup).1
  refine ⟨?_, r.linked.unlink r.nodup link sameNext, ?_, ?_⟩
  · refine r.nodup.sublist (List.Sublist.cons_cons h ?_)
    exact List.Sublist.append_left (List.sublist_cons_self x m) l
  · refine r.preds.unlink (List.nodup_cons.mp r.nodup).2 (fun y hy => ?_) fun y hy hne => ?_
    · rw [List.headD_eq_head?_getD, hy] at back
      exact back
    · refine samePrev y (List.mem_cons_of_mem h hy) fun he => ?_
      cases m with
      | nil =>
        grind
      | cons z m => exact hne (congrArg some he.symm)
  · cases m with
    | nil =>
      rw [List.append_nil]
      exact back
    | cons y m =>
      have hne : h ≠ y := fun he => hhead (by simp [he])
      rw [samePrev h List.mem_cons_self hne, r.back, lastCell_append, lastCell_append]
      rfl

end DeviceHal.Lib

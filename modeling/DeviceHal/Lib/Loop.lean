import Mathlib.Data.List.Forall2

namespace DeviceHal.Lib

universe u v w

variable {α : Type u} {σ : Type v} {β : Type w}

/-- A loop over the cells of an array. Each turn rewrites its own cell and a state beside it. -/
def forCells (f : α → σ → α × σ) : List α → σ → List α × σ
  | [], s => ([], s)
  | a :: l, s =>
    let (a', s) := f a s
    let (l', s) := forCells f l s
    (a' :: l', s)

variable {f : α → σ → α × σ}

@[simp] theorem forCells_length (l : List α) (s : σ) : (forCells f l s).1.length = l.length := by
  induction l generalizing s with
  | nil => rfl
  | cons a l ih => simp [forCells, ih]

variable {l : List α}

/-- What the loop leaves in a cell is what its turn makes of it, in the state of that turn. -/
theorem forCells_at {i : Nat} {a : α} (h : l[i]? = some a) (s : σ) :
    (forCells f l s).1[i]? = some (f a (forCells f (l.take i) s).2).1 := by
  induction l generalizing i s with
  | nil => simp at h
  | cons b l ih =>
    cases i with
    | zero =>
      cases Option.some.inj h
      rfl
    | succ i => exact ih (i := i) (by simpa using h) (f b s).2

theorem forCells_congr {g : α → σ → α × σ} (same : ∀ a ∈ l, f a = g a) (s : σ) :
    forCells f l s = forCells g l s := by
  induction l generalizing s with
  | nil => rfl
  | cons a l ih =>
    grind [forCells]

theorem forCells_rule (Inv : List α → List α → σ → Prop)
    (turn : ∀ pre a post s, Inv pre (a :: post) s → Inv (pre ++ [(f a s).1]) post (f a s).2)
    {s : σ} (first : Inv [] l s) : Inv (forCells f l s).1 [] (forCells f l s).2 := by
  have run : ∀ (l pre : List α) (s : σ), Inv pre l s →
      Inv (pre ++ (forCells f l s).1) [] (forCells f l s).2 := by
    intro l
    induction l with
    | nil =>
      intro pre s h
      simpa [forCells] using h
    | cons a l ih =>
      grind [forCells]
  simpa using run l [] s first

/-- The same for what is said of the whole array, and of each cell before and after its turn. -/
theorem forCells_each (Inv : List α → σ → Prop) (Turn : α → α → Prop)
    (turn : ∀ pre a post s, Inv (pre ++ a :: post) s →
      Inv (pre ++ (f a s).1 :: post) (f a s).2 ∧ Turn a (f a s).1)
    {s : σ} (first : Inv l s) :
    Inv (forCells f l s).1 (forCells f l s).2 ∧ List.Forall₂ Turn l (forCells f l s).1 := by
  have whole := forCells_rule (f := f) (fun pre post s => Inv (pre ++ post) s ∧
    ∃ done, l = done ++ post ∧ List.Forall₂ Turn done pre) ?_ ⟨first, [], rfl, List.Forall₂.nil⟩
  · grind
  · intro pre a post s h
    obtain ⟨hinv, done, hl, hdone⟩ := h
    obtain ⟨hinv', hturn⟩ := turn pre a post s hinv
    refine ⟨by simpa using hinv', done ++ [a], by simpa using hl, ?_⟩
    exact List.rel_append hdone (List.Forall₂.cons hturn List.Forall₂.nil)

theorem forCells_invariant (Inv : List α → σ → Prop)
    (turn : ∀ pre a post s, Inv (pre ++ a :: post) s →
      Inv (pre ++ (f a s).1 :: post) (f a s).2)
    {s : σ} (first : Inv l s) : Inv (forCells f l s).1 (forCells f l s).2 :=
  (forCells_each Inv (fun _ _ => True) (fun pre a post s h => ⟨turn pre a post s h, trivial⟩) first).1

theorem forall₂_mem_right {R : α → β → Prop} {l' : List β}
    (h : List.Forall₂ R l l') {b : β} (hb : b ∈ l') : ∃ a ∈ l, R a b := by
  induction h with
  | nil => exact absurd hb List.not_mem_nil
  | cons hab _ ih =>
    grind

theorem forall₂_mem_left {R : α → β → Prop} {l' : List β}
    (h : List.Forall₂ R l l') {a : α} (ha : a ∈ l) : ∃ b ∈ l', R a b :=
  forall₂_mem_right h.flip ha

variable {p : α → Bool}

/-- The cell a search stops at, with the cells before and behind it. -/
theorem findIdx_split {a : α} (h : l[l.findIdx p]? = some a) :
    p a = true ∧ ∃ pre post, l = pre ++ a :: post ∧ (∀ b ∈ pre, p b = false) ∧
      ∀ b, l.set (l.findIdx p) b = pre ++ b :: post := by
  induction l with
  | nil => simp at h
  | cons b l ih =>
    cases hp : p b with
    | true =>
      have hidx : (b :: l).findIdx p = 0 := by simp [List.findIdx_cons, hp]
      rw [hidx] at h ⊢
      cases Option.some.inj h
      exact ⟨hp, [], l, rfl, by simp, fun _ => rfl⟩
    | false =>
      have hidx : (b :: l).findIdx p = l.findIdx p + 1 := by simp [List.findIdx_cons, hp]
      rw [hidx] at h ⊢
      obtain ⟨ha, pre, post, hl, hpre, hset⟩ := ih (by simpa using h)
      refine ⟨ha, b :: pre, post, by rw [hl]; rfl, ?_, fun c => ?_⟩
      · grind
      · rw [List.set_cons_succ, hset]
        rfl

/-- Storing to the cell found leaves what the search passes over. -/
theorem mem_set_findIdx {a b : α} (h : l[l.findIdx p]? = some a)
    (hb : b ∈ l) (hp : p b = false) (c : α) : b ∈ l.set (l.findIdx p) c := by
  obtain ⟨ha, pre, post, hl, -, hset⟩ := findIdx_split h
  rw [hset]
  rw [hl] at hb
  grind

/-- Storing to the cell found, up to the order of the cells. -/
theorem set_findIdx_perm {a : α} (h : l[l.findIdx p]? = some a) :
    ∃ rest, l.Perm (a :: rest) ∧ ∀ b, (l.set (l.findIdx p) b).Perm (b :: rest) := by
  obtain ⟨-, pre, post, hl, -, hset⟩ := findIdx_split h
  refine ⟨pre ++ post, ?_, fun b => ?_⟩
  · exact (List.Perm.of_eq hl).trans List.perm_middle
  · rw [hset]
    exact List.perm_middle

theorem findIdx_none (h : l[l.findIdx p]? = none) : ∀ b ∈ l, p b = false := by
  grind

end DeviceHal.Lib

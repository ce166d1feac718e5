import DeviceHal.Lib.Chain

namespace DeviceHal.Lib

universe u

/-- Heads whose collision cells hang on disjoint chains; `cells h` lists the chain of `h`. -/
structure Chains {α : Type u} (null : α) (head cell : α → Prop) (next : α → α)
    (cells : α → List α) : Prop where
  linked : ∀ h, head h → Linked next null h (cells h)
  isCell : ∀ h, head h → ∀ x ∈ cells h, cell x
  nodup : ∀ h, head h → (cells h).Nodup
  apart : ∀ h k x, head h → head k → x ∈ cells h → x ∈ cells k → h = k

/-- A hash table with an overflow area: every used cell hangs on a chain, knows the entry
before it, and an unused head has no chain. -/
structure OverflowTable {α : Type u} (null : α) (head cell used : α → Prop) (next prev : α → α)
    (cells : α → List α) : Prop extends Chains null head cell next cells where
  preds : ∀ h, head h → Preds prev h (cells h)
  usedCell : ∀ x, cell x → (used x ↔ ∃ h, head h ∧ x ∈ cells h)
  freeHead : ∀ h, head h → ¬used h → cells h = []

section Chains

variable {α : Type u} {null : α} {head cell : α → Prop}
variable {next next' prev prev' : α → α} {cells : α → List α}

theorem Chains.congr (c : Chains null head cell next cells)
    (same : ∀ x, head x ∨ (∃ h, head h ∧ x ∈ cells h) → next' x = next x) :
    Chains null head cell next' cells := by
  refine { c with linked := fun h hh => (c.linked h hh).congr fun x hx => same x ?_ }
  grind

/-- A chain entry belongs to one chain only: its head, or one of the cells behind it. -/
theorem Chains.entry_apart (c : Chains null head cell next cells)
    (sep : ∀ x, head x → ¬cell x) {h k x : α} (hh : head h) (hk : head k)
    (hx : x ∈ h :: cells h) (kx : x ∈ k :: cells k) : h = k := by
  rcases List.mem_cons.mp hx with rfl | hx <;> rcases List.mem_cons.mp kx with rfl | kx
  · rfl
  · exact absurd (c.isCell k hk _ kx) (sep _ hh)
  · exact absurd (c.isCell h hh _ hx) (sep _ hk)
  · exact c.apart h k x hh hk hx kx

theorem Chains.entry_nodup (c : Chains null head cell next cells)
    (sep : ∀ x, head x → ¬cell x) {h : α} (hh : head h) : (h :: cells h).Nodup :=
  List.nodup_cons.mpr ⟨fun hm => sep h hh (c.isCell h hh h hm), c.nodup h hh⟩

variable [DecidableEq α]

theorem Chains.snoc (c : Chains null head cell next cells) (sep : ∀ x, head x → ¬cell x)
    {b x : α} (hb : head b) (hx : cell x) (hn : x ≠ null) (fresh : ∀ h, head h → x ∉ cells h)
    (same : ∀ y, y ≠ x → y ≠ lastCell b (cells b) → next' y = next y)
    (last : next' (lastCell b (cells b)) = x) (stop : next' x = null) :
    Chains null head cell next' (Function.update cells b (cells b ++ [x])) := by
  have entryNe : ∀ h, head h → ∀ y ∈ h :: cells h, y ≠ x := by
    rintro h hh y hy rfl
    rcases List.mem_cons.mp hy with rfl | hy
    · exact sep _ hh hx
    · exact fresh h hh hy
  constructor
  · intro h hh
    by_cases he : h = b
    · subst he
      rw [Function.update_self]
      exact (c.linked h hh).snoc hn (fun y hy hl => same y (entryNe h hh y hy) hl)
        (c.entry_nodup sep hh) last stop
    · rw [Function.update_of_ne he]
      refine (c.linked h hh).congr fun y hy => same y (entryNe h hh y hy) fun hl => ?_
      exact he (c.entry_apart sep hh hb hy (hl ▸ Lib.lastCell_mem b (cells b)))
  · intro h hh y hy
    by_cases he : h = b
    · subst he
      rw [Function.update_self] at hy
      rcases List.mem_append.mp hy with hy | hy
      · exact c.isCell h hh y hy
      · rw [List.mem_singleton.mp hy]
        exact hx
    · rw [Function.update_of_ne he] at hy
      exact c.isCell h hh y hy
  · intro h hh
    by_cases he : h = b
    · subst he
      rw [Function.update_self]
      refine List.nodup_append.mpr ⟨c.nodup h hh, List.nodup_singleton x, ?_⟩
      grind
    · rw [Function.update_of_ne he]
      exact c.nodup h hh
  · intro h k y hh hk hy ky
    have entry : ∀ l, head l → y ∈ Function.update cells b (cells b ++ [x]) l →
        y ∈ cells l ∨ (l = b ∧ y = x) := by
      intro l hl hm
      by_cases he : l = b
      · grind
      · rw [Function.update_of_ne he] at hm
        exact Or.inl hm
    rcases entry h hh hy with hy | ⟨rfl, rfl⟩ <;> rcases entry k hk ky with ky | ⟨hkb, hyx⟩
    · exact c.apart h k y hh hk hy ky
    · exact absurd (hyx ▸ hy) (fresh h hh)
    · exact absurd ky (fresh k hk)
    · exact hkb.symm

theorem Chains.split (c : Chains null head cell next cells) {b x : α} (hb : head b)
    (hx : x ∈ cells b) :
    ∃ l m, cells b = l ++ x :: m ∧ (cells b).erase x = l ++ m := by
  obtain ⟨l, m, hs⟩ := List.append_of_mem hx
  refine ⟨l, m, hs, ?_⟩
  have hn := c.nodup b hb
  grind

theorem Chains.remove (c : Chains null head cell next cells) (sep : ∀ x, head x → ¬cell x)
    (back : ∀ h, head h → Preds prev h (cells h)) {b x : α} (hb : head b) (hx : x ∈ cells b)
    (link : next' (prev x) = next x)
    (same : ∀ y, y ≠ x → y ≠ prev x → next' y = next y) :
    Chains null head cell next' (Function.update cells b ((cells b).erase x)) := by
  obtain ⟨l, m, hs, he⟩ := c.split hb hx
  have hp : prev x = lastCell b l := by
    have := back b hb
    rw [hs] at this
    exact this.split
  have hpm : prev x ∈ b :: cells b := by
    rw [hp, hs]
    rcases List.mem_cons.mp (Lib.lastCell_mem b l) with hm | hm
    · simp [hm]
    · simp [hm]
  have sub : ∀ h, ∀ y ∈ Function.update cells b ((cells b).erase x) h, y ∈ cells h := by
    intro h y hy
    by_cases hh : h = b
    · grind
    · rwa [Function.update_of_ne hh] at hy
  constructor
  · intro h hh
    by_cases heq : h = b
    · subst heq
      rw [Function.update_self, he]
      have lk := c.linked h hh
      have nd := c.entry_nodup sep hh
      rw [hs] at lk nd
      refine lk.unlink nd (hp ▸ link) fun y hy hl => same y ?_ (hp ▸ hl)
      rintro rfl
      have : (h :: l ++ y :: m).Nodup := nd
      grind
    · rw [Function.update_of_ne heq]
      refine (c.linked h hh).congr fun y hy => same y ?_ ?_
      · rintro rfl
        exact heq (c.entry_apart sep hh hb hy (List.mem_cons_of_mem b hx))
      · rintro rfl
        exact heq (c.entry_apart sep hh hb hy hpm)
  · exact fun h hh y hy => c.isCell h hh y (sub h y hy)
  · intro h hh
    by_cases heq : h = b
    · subst heq
      rw [Function.update_self]
      exact (c.nodup h hh).erase x
    · rw [Function.update_of_ne heq]
      exact c.nodup h hh
  · exact fun h k y hh hk hy ky => c.apart h k y hh hk (sub h y hy) (sub k y ky)

theorem Chains.mem_erase (c : Chains null head cell next cells) {b x h y : α} (hb : head b)
    (hx : x ∈ cells b) (hh : head h) :
    y ∈ Function.update cells b ((cells b).erase x) h ↔ y ∈ cells h ∧ y ≠ x := by
  by_cases he : h = b
  · subst he
    rw [Function.update_self, (c.nodup h hh).mem_erase_iff]
    exact and_comm
  · rw [Function.update_of_ne he]
    refine ⟨fun hy => ⟨hy, ?_⟩, fun hy => hy.1⟩
    rintro rfl
    exact he (c.apart h b y hh hb hy hx)

end Chains

variable {α : Type u} {null : α} {head cell used used' : α → Prop}
variable {next next' prev prev' : α → α} {cells : α → List α}

variable {h x : α}

theorem Linked.next_cases {l m : List α} (p : Linked next null h (l ++ x :: m)) :
    (next x = null ∧ m = []) ∨ ∃ y k, m = y :: k ∧ next x = y := by
  have hx := p.split.2
  cases m with
  | nil => exact Or.inl ⟨hx, rfl⟩
  | cons y k => exact Or.inr ⟨y, k, rfl, hx.1⟩

theorem OverflowTable.empty (stop : ∀ h, head h → next h = null) (free : ∀ x, cell x → ¬used x) :
    OverflowTable null head cell used next prev (fun _ => []) where
  linked := stop
  isCell := by simp
  nodup := by simp
  apart := by simp
  preds := fun _ _ => trivial
  usedCell := fun x hx => by simpa using free x hx
  freeHead := fun _ _ _ => rfl

theorem OverflowTable.last_ne_null (t : OverflowTable null head cell used next prev cells) {b : α}
    (hb : head b) (hn : b ≠ null) : lastCell b (cells b) ≠ null := by
  rcases List.mem_cons.mp (Lib.lastCell_mem b (cells b)) with he | hm
  · rwa [he]
  · exact (t.linked b hb).ne_null hm

theorem OverflowTable.last_used (t : OverflowTable null head cell used next prev cells) {b : α}
    (hb : head b) (hu : used b) : used (lastCell b (cells b)) := by
  rcases List.mem_cons.mp (Lib.lastCell_mem b (cells b)) with he | hm
  · rwa [he]
  · exact (t.usedCell _ (t.isCell b hb _ hm)).mpr ⟨b, hb, hm⟩

/-- The entry behind an entry of a chain is a cell of that chain and names it. -/
theorem OverflowTable.next_cell (t : OverflowTable null head cell used next prev cells)
    (sep : ∀ x, head x → ¬cell x) (hh : head h) (hx : x ∈ h :: cells h)
    (hn : next x ≠ null) : next x ∈ cells h ∧ next x ≠ x ∧ prev (next x) = x := by
  have lk := t.linked h hh
  have pr := t.preds h hh
  have nd := t.toChains.entry_nodup sep hh
  rcases List.mem_cons.mp hx with rfl | hx
  · cases hc : cells x with
    | nil =>
      rw [hc] at lk
      exact absurd lk hn
    | cons y k =>
      rw [hc] at lk pr nd
      rw [lk.1]
      refine ⟨List.mem_cons_self, ?_, pr.1⟩
      grind
  · obtain ⟨l, m, hs⟩ := List.append_of_mem hx
    rw [hs] at lk pr nd ⊢
    rcases lk.next_cases with ⟨hz, -⟩ | ⟨y, k, rfl, hy⟩
    · exact absurd hz hn
    · have hpr := ((preds_append h l (x :: y :: k)).mp pr).2.2.1
      grind

theorem OverflowTable.prev_entry (t : OverflowTable null head cell used next prev cells)
    (sep : ∀ x, head x → ¬cell x) (hh : head h) (hx : x ∈ cells h) :
    prev x ∈ h :: cells h ∧ prev x ≠ x ∧ next (prev x) = x := by
  have lk := t.linked h hh
  have pr := t.preds h hh
  have nd := t.toChains.entry_nodup sep hh
  obtain ⟨l, m, hs⟩ := List.append_of_mem hx
  rw [hs] at lk pr nd ⊢
  have hp := pr.split
  have hmem := Lib.lastCell_mem h l
  rw [hp]
  refine ⟨?_, ?_, lk.split.1⟩
  · grind
  grind

theorem OverflowTable.cell_used (t : OverflowTable null head cell used next prev cells)
    (hh : head h) (hx : x ∈ cells h) : used x :=
  (t.usedCell x (t.isCell h hh x hx)).mpr ⟨h, hh, hx⟩

theorem OverflowTable.prev_used (t : OverflowTable null head cell used next prev cells)
    (sep : ∀ x, head x → ¬cell x) (hh : head h) (hx : x ∈ cells h) : used (prev x) := by
  rcases List.mem_cons.mp (t.prev_entry sep hh hx).1 with he | hm
  · rw [he]
    by_contra hfree
    rw [t.freeHead h hh hfree] at hx
    simp at hx
  · exact t.cell_used hh hm

/-- Heads may be claimed, and released if they have no chain. -/
theorem OverflowTable.congr (t : OverflowTable null head cell used next prev cells)
    (same : ∀ x, head x ∨ (cell x ∧ used x) → next' x = next x)
    (back : ∀ x, cell x → used x → prev' x = prev x)
    (use : ∀ x, cell x → (used' x ↔ used x))
    (free : ∀ h, head h → ¬used' h → cells h = []) :
    OverflowTable null head cell used' next' prev' cells := by
  have usedMem : ∀ h, head h → ∀ x ∈ cells h, cell x ∧ used x := by
    intro h hh x hx
    have hc := t.isCell h hh x hx
    exact ⟨hc, (t.usedCell x hc).mpr ⟨h, hh, hx⟩⟩
  refine ⟨t.toChains.congr ?_, ?_, ?_, free⟩
  · grind
  · intro h hh
    refine (t.preds h hh).congr fun x hx => ?_
    obtain ⟨hc, hu⟩ := usedMem h hh x hx
    exact back x hc hu
  · intro x hx
    exact (use x hx).trans (t.usedCell x hx)

variable [DecidableEq α]

theorem OverflowTable.append (t : OverflowTable null head cell used next prev cells)
    (sep : ∀ x, head x → ¬cell x) {b x : α} (hb : head b) (hu : used b) (hx : cell x)
    (hn : x ≠ null) (fresh : ¬used x)
    (same : ∀ y, y ≠ x → y ≠ lastCell b (cells b) → next' y = next y)
    (last : next' (lastCell b (cells b)) = x) (stop : next' x = null)
    (back : ∀ y, cell y → y ≠ x → prev' y = prev y) (first : prev' x = lastCell b (cells b))
    (use : ∀ y, used' y ↔ used y ∨ y = x) :
    OverflowTable null head cell used' next' prev'
      (Function.update cells b (cells b ++ [x])) := by
  have hout : ∀ h, head h → x ∉ cells h := fun h hh hm =>
    fresh ((t.usedCell x hx).mpr ⟨h, hh, hm⟩)
  have keep : ∀ h, head h → Preds prev' h (cells h) := by
    intro h hh
    refine (t.preds h hh).congr fun y hy => back y (t.isCell h hh y hy) ?_
    rintro rfl
    exact hout h hh hy
  refine ⟨t.toChains.snoc sep hb hx hn hout same last stop, ?_, ?_, ?_⟩
  · intro h hh
    by_cases he : h = b
    · subst he
      rw [Function.update_self]
      exact (preds_append h (cells h) [x]).mpr ⟨keep h hh, first, trivial⟩
    · rw [Function.update_of_ne he]
      exact keep h hh
  · intro y hy
    rw [use y]
    constructor
    · rintro (hu' | rfl)
      · obtain ⟨h, hh, hm⟩ := (t.usedCell y hy).mp hu'
        grind
      · exact ⟨b, hb, by simp⟩
    · rintro ⟨h, hh, hm⟩
      by_cases he : h = b
      · subst he
        rw [Function.update_self] at hm
        rcases List.mem_append.mp hm with hm | hm
        · exact Or.inl ((t.usedCell y hy).mpr ⟨h, hh, hm⟩)
        · exact Or.inr (List.mem_singleton.mp hm)
      · rw [Function.update_of_ne he] at hm
        exact Or.inl ((t.usedCell y hy).mpr ⟨h, hh, hm⟩)
  · intro h hh hfree
    have hne : h ≠ b := by
      rintro rfl
      exact hfree ((use h).mpr (Or.inl hu))
    rw [Function.update_of_ne hne]
    exact t.freeHead h hh fun hu' => hfree ((use h).mpr (Or.inl hu'))

/-- An entry taken into use: a free head, or an unused cell behind the last entry of the chain. -/
theorem OverflowTable.insert (t : OverflowTable null head cell used next prev cells)
    (sep : ∀ x, head x → ¬cell x) {b x : α} (hb : head b) (hn : x ≠ null)
    (choice : (¬used b ∧ x = b) ∨ (used b ∧ cell x ∧ ¬used x))
    (same : ∀ y, y ≠ x → ¬(used b ∧ y = lastCell b (cells b)) → next' y = next y)
    (last : used b → next' (lastCell b (cells b)) = x) (stop : next' x = null)
    (back : ∀ y, cell y → y ≠ x → prev' y = prev y)
    (first : used b → prev' x = lastCell b (cells b))
    (use : ∀ y, used' y ↔ used y ∨ y = x) :
    ∃ cells', OverflowTable null head cell used' next' prev' cells' ∧
      (∀ h, ∀ y ∈ cells h, y ∈ cells' h) ∧ x ∈ b :: cells' b := by
  rcases choice with ⟨hfree, rfl⟩ | ⟨hu, hx, hfresh⟩
  · refine ⟨cells, t.congr ?_ ?_ ?_ ?_, fun h y hy => hy, List.mem_cons_self⟩
    · intro y hy
      by_cases he : y = x
      · subst he
        have hl := t.linked y hb
        rw [t.freeHead y hb hfree] at hl
        exact stop.trans hl.symm
      · exact same y he fun hc => hfree hc.1
    · intro y hy hu
      exact back y hy fun he => hfree (he ▸ hu)
    · grind
    · intro h hh hno
      exact t.freeHead h hh fun hu => hno ((use h).mpr (Or.inl hu))
  · refine ⟨_, t.append sep hb hu hx hn hfresh ?_ (last hu) stop back (first hu) use, ?_, ?_⟩
    · exact fun y hy hl => same y hy fun hc => hl hc.2
    · grind
    · simp

theorem OverflowTable.remove (t : OverflowTable null head cell used next prev cells)
    (sep : ∀ x, head x → ¬cell x) {b x : α} (hb : head b) (hx : x ∈ cells b)
    (link : next' (prev x) = next x)
    (same : ∀ y, y ≠ x → y ≠ prev x → next' y = next y)
    (hop : next x ≠ null → prev' (next x) = prev x)
    (back : ∀ y, cell y → y ≠ x → y ≠ next x → prev' y = prev y)
    (use : ∀ y, used' y ↔ used y ∧ y ≠ x) :
    OverflowTable null head cell used' next' prev'
      (Function.update cells b ((cells b).erase x)) := by
  obtain ⟨l, m, hs, he⟩ := t.toChains.split hb hx
  have lk := t.linked b hb
  have nd := t.nodup b hb
  have pr := t.preds b hb
  rw [hs] at lk nd pr
  have hp : prev x = lastCell b l := pr.split
  refine ⟨t.toChains.remove sep t.preds hb hx link same, ?_, ?_, ?_⟩
  · intro h hh
    by_cases heq : h = b
    · subst heq
      rw [Function.update_self, he]
      refine pr.unlink nd ?_ ?_
      · intro y hy
        rcases lk.next_cases with ⟨-, rfl⟩ | ⟨z, k, rfl, hz⟩
        · simp at hy
        · cases Option.some.inj hy
          have hne : next x ≠ null := by
            rw [hz]
            exact lk.ne_null (by simp)
          rw [← hp, ← hop hne, hz]
      · intro y hy hhead
        have hmem : y ∈ cells h := by
          rw [hs]
          rcases List.mem_append.mp hy with hy | hy
          · exact List.mem_append_left _ hy
          · exact List.mem_append_right _ (List.mem_cons_of_mem x hy)
        refine back y (t.isCell h hh y hmem) ?_ ?_
        · grind
        · rcases lk.next_cases with ⟨hz, -⟩ | ⟨z, k, rfl, hz⟩
          · rw [hz]
            exact (t.linked h hh).ne_null hmem
          · rw [hz]
            rintro rfl
            exact hhead rfl
    · rw [Function.update_of_ne heq]
      refine (t.preds h hh).congr fun y hy => back y (t.isCell h hh y hy) ?_ ?_
      · rintro rfl
        exact heq (t.apart h b y hh hb hy hx)
      · rcases lk.next_cases with ⟨hz, -⟩ | ⟨z, k, rfl, hz⟩
        · rw [hz]
          exact (t.linked h hh).ne_null hy
        · rw [hz]
          rintro rfl
          exact heq (t.apart h b y hh hb hy (by rw [hs]; simp))
  · intro y hy
    rw [use y, t.usedCell y hy]
    constructor
    · rintro ⟨⟨h, hh, hm⟩, hne⟩
      exact ⟨h, hh, (t.toChains.mem_erase hb hx hh).mpr ⟨hm, hne⟩⟩
    · rintro ⟨h, hh, hm⟩
      obtain ⟨hm, hne⟩ := (t.toChains.mem_erase hb hx hh).mp hm
      exact ⟨⟨h, hh, hm⟩, hne⟩
  · intro h hh hfree
    have hnx : h ≠ x := by
      rintro rfl
      exact sep h hh (t.isCell b hb h hx)
    have hnil := t.freeHead h hh fun hu => hfree ((use h).mpr ⟨hu, hnx⟩)
    grind

end DeviceHal.Lib

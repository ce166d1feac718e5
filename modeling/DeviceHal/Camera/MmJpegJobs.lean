import DeviceHal.Camera.MmJpeg

namespace DeviceHal.Camera

/-- The nodes of the accepted jobs: those to do, the one in the hands of the job thread, the ongoing
ones, and the numbers of those that were freed; beside them what happened to the jobs. -/
structure Jobs where
  todo : List JobNode
  hand : Option JobNode
  ongoing : List JobNode
  freed : List Nat
  called : List Nat
  failed : List Nat
  aborted : List Nat
  accepted : Nat

def MmJpeg.jobs (s : MmJpeg) : Jobs :=
  ⟨s.todo, s.mgr.hand, s.ongoing, s.freed, s.called, s.failed, s.aborted, s.accepted⟩

namespace Jobs

def nums (nodes : List JobNode) : List Nat := nodes.map JobNode.num

def places (j : Jobs) (num : Nat) : Nat :=
  (nums j.todo).count num + (nums j.hand.toList).count num + (nums j.ongoing).count num + j.freed.count num

theorem count_nums_pos {nodes : List JobNode} {n : JobNode} (h : n ∈ nodes) : 0 < (nums nodes).count n.num :=
  List.count_pos_iff.mpr (List.mem_map.mpr ⟨n, h, rfl⟩)

theorem nums_append (nodes later : List JobNode) : nums (nodes ++ later) = nums nodes ++ nums later :=
  List.map_append

theorem count_nums_singleton (n : JobNode) (num : Nat) :
    (nums [n]).count num = if num = n.num then 1 else 0 := by
  by_cases he : num = n.num
  · rw [if_pos he, he]
    simp [nums]
  · rw [if_neg he]
    exact List.count_eq_zero.mpr fun hin => he (List.mem_singleton.mp hin)

theorem count_singleton (n num : Nat) : [n].count num = if num = n then 1 else 0 := by
  grind

end Jobs

open Jobs

/-- The nodes and the calls of `jpeg_cb`, by the phases of the OMX sessions. -/
structure JobsInv (c : JpegSetup) (j : Jobs) (ph : SessionId → Phase) : Prop where
  ongoing : ∀ n, n ∈ j.ongoing ↔ ∃ id, (ph id).ongoing = some n
  ids : (j.ongoing.map JobNode.jobId).Nodup
  inj : ∀ id id' n n', (ph id).node = some n → (ph id').node = some n' → n.num = n'.num → id = id'
  placed : ∀ num, j.places num = if num < j.accepted then 1 else 0
  held : ∀ id n, (ph id).node = some n → (ph id).ongoing = none → (ph id).gone = none → j.hand = some n
  gone : ∀ id n, (ph id).gone = some n → n.num ∈ j.freed
  activeTodo : ∀ n ∈ j.todo, c.active n.jobId.session = true
  activeHand : ∀ n, j.hand = some n → c.active n.jobId.session = true
  calls : ∀ id n, (ph id).node = some n → j.called.count n.num = (ph id).calls
  todo : ∀ n ∈ j.todo, j.called.count n.num = 0
  hand : ∀ n, j.hand = some n → j.called.count n.num = 0
  freed : ∀ num ∈ j.freed, j.called.count num = if num ∈ j.aborted then 0 else 1
  fresh : ∀ num, j.accepted ≤ num → j.called.count num = 0
  failed : ∀ num ∈ j.failed, num ∈ j.freed ∨ ∃ id n, (ph id).fails = some n ∧ n.num = num
  aborted : ∀ num ∈ j.aborted, num ∈ j.freed

namespace JobsInv

variable {c : JpegSetup} {j : Jobs} {ph : SessionId → Phase} {id : SessionId} {p : Phase} {n m : JobNode}

theorem places_le (h : JobsInv c j ph) (num : Nat) : j.places num ≤ 1 := by
  rw [h.placed num]
  grind

theorem not_freed_of_todo (h : JobsInv c j ph) (hn : n ∈ j.todo) : n.num ∉ j.freed := by
  intro hin
  have hle := h.places_le n.num
  have hpos := count_nums_pos hn
  have hpos' := List.count_pos_iff.mpr hin
  unfold places at hle
  omega

theorem count_hand (hn : j.hand = some n) : (nums j.hand.toList).count n.num = 1 := by
  rw [hn]
  simp [nums]

theorem not_freed_of_hand (h : JobsInv c j ph) (hn : j.hand = some n) : n.num ∉ j.freed := by
  intro hin
  have hle := h.places_le n.num
  have hpos := List.count_pos_iff.mpr hin
  have hhand := count_hand hn
  unfold places at hle
  omega

theorem not_ongoing_of_hand (h : JobsInv c j ph) (hn : j.hand = some n) (hm : m ∈ j.ongoing) : m.num ≠ n.num := by
  intro he
  have hle := h.places_le n.num
  have hpos := count_nums_pos hm
  rw [he] at hpos
  have hhand := count_hand hn
  unfold places at hle
  omega

theorem not_ongoing_of_todo (h : JobsInv c j ph) (hn : n ∈ j.todo) (hm : m ∈ j.ongoing) : m.num ≠ n.num := by
  intro he
  have hle := h.places_le n.num
  have hpos := count_nums_pos hm
  rw [he] at hpos
  have hpos' := count_nums_pos hn
  unfold places at hle
  omega

theorem not_freed_of_ongoing (h : JobsInv c j ph) (hn : n ∈ j.ongoing) : n.num ∉ j.freed := by
  intro hin
  have hle := h.places_le n.num
  have hpos := count_nums_pos hn
  have hpos' := List.count_pos_iff.mpr hin
  unfold places at hle
  omega

theorem place_of_node (h : JobsInv c j ph) (hn : (ph id).node = some n) :
    j.hand = some n ∨ n ∈ j.ongoing ∨ n.num ∈ j.freed := by
  cases hongoing : (ph id).ongoing with
  | some m =>
    have hm := Phase.node_of_ongoing hongoing
    rw [hn] at hm
    cases Option.some.inj hm
    exact Or.inr (Or.inl ((h.ongoing n).mpr ⟨id, hongoing⟩))
  | none =>
    cases hgone : (ph id).gone with
    | some m =>
      have hm := Phase.node_of_gone hgone
      rw [hn] at hm
      cases Option.some.inj hm
      exact Or.inr (Or.inr (h.gone id n hgone))
    | none => exact Or.inl (h.held id n hn hongoing hgone)

theorem lt_of_node (h : JobsInv c j ph) (hn : (ph id).node = some n) : n.num < j.accepted := by
  have hplaced := h.placed n.num
  split at hplaced
  next hlt => exact hlt
  next =>
    unfold places at hplaced
    rcases h.place_of_node hn with hhand | hongoing | hfreed
    · have hone := count_hand hhand
      omega
    · have hpos := count_nums_pos hongoing
      omega
    · have hpos := List.count_pos_iff.mpr hfreed
      omega

theorem called_le (h : JobsInv c j ph) (num : Nat) : j.called.count num ≤ 1 := by
  by_cases hlt : num < j.accepted
  · have hplaced := h.placed num
    rw [if_pos hlt] at hplaced
    unfold places at hplaced
    by_cases htodo : 0 < (nums j.todo).count num
    · obtain ⟨n, hn, rfl⟩ := List.mem_map.mp (List.count_pos_iff.mp htodo)
      rw [h.todo n hn]
      exact Nat.zero_le 1
    by_cases hhand : 0 < (nums j.hand.toList).count num
    · obtain ⟨n, hn, rfl⟩ := List.mem_map.mp (List.count_pos_iff.mp hhand)
      rw [h.hand n (Option.mem_toList.mp hn)]
      exact Nat.zero_le 1
    by_cases hongoing : 0 < (nums j.ongoing).count num
    · obtain ⟨n, hn, rfl⟩ := List.mem_map.mp (List.count_pos_iff.mp hongoing)
      obtain ⟨id, hid⟩ := (h.ongoing n).mp hn
      rw [h.calls id n (Phase.node_of_ongoing hid)]
      exact Phase.calls_le _
    · have hin : num ∈ j.freed := List.count_pos_iff.mp (by omega)
      rw [h.freed num hin]
      grind
  · rw [h.fresh num (by omega)]
    exact Nat.zero_le 1

theorem update_congr {β : Type} (f : Phase → β) (h : f p = f (ph id)) (id' : SessionId) :
    f (Function.update ph id p id') = f (ph id') := by
  grind

theorem rephase (h : JobsInv c j ph) (hnode : p.node = (ph id).node) (hongoing : p.ongoing = (ph id).ongoing)
    (hgone : p.gone = (ph id).gone) (hcalls : p.calls = (ph id).calls)
    (hfails : ∀ n, (ph id).fails = some n → p.fails = some n) : JobsInv c j (Function.update ph id p) := by
  have hnode' := update_congr Phase.node hnode
  have hongoing' := update_congr Phase.ongoing hongoing
  have hgone' := update_congr Phase.gone hgone
  have hcalls' := update_congr Phase.calls hcalls
  refine ⟨?_, h.ids, ?_, h.placed, ?_, ?_, h.activeTodo, h.activeHand, ?_, h.todo, h.hand, h.freed, h.fresh, ?_,
    h.aborted⟩
  · intro m
    simp only [hongoing']
    exact h.ongoing m
  · intro id₁ id₂ n₁ n₂
    rw [hnode', hnode']
    exact h.inj id₁ id₂ n₁ n₂
  · intro id' m
    rw [hnode', hongoing', hgone']
    exact h.held id' m
  · intro id' m
    rw [hgone']
    exact h.gone id' m
  · intro id' m
    rw [hnode', hcalls']
    exact h.calls id' m
  · intro num hnum
    rcases h.failed num hnum with hfreed | ⟨id', m, hm, he⟩
    · exact Or.inl hfreed
    grind

theorem start (h : JobsInv c j ph) (hnum : n.num = j.accepted) (hactive : c.active n.jobId.session = true) :
    JobsInv c { j with todo := j.todo ++ [n], accepted := j.accepted + 1 } ph := by
  refine ⟨h.ongoing, h.ids, h.inj, ?_, h.held, h.gone, ?_, h.activeHand, h.calls, ?_, h.hand, h.freed, ?_, h.failed,
    h.aborted⟩
  · intro num
    have hplaced := h.placed num
    unfold places at hplaced ⊢
    dsimp only
    rw [nums_append, List.count_append, count_nums_singleton, hnum]
    split at hplaced
    next hlt =>
      rw [if_neg (by omega), if_pos (by omega)]
      omega
    grind
  · intro m hm
    rcases List.mem_append.mp hm with hold | hnew
    · exact h.activeTodo m hold
    · exact (List.mem_singleton.mp hnew).symm ▸ hactive
  · intro m hm
    rcases List.mem_append.mp hm with hold | hnew
    · exact h.todo m hold
    · rw [List.mem_singleton.mp hnew]
      exact h.fresh n.num (by omega)
  · intro num hge
    exact h.fresh num (by dsimp only at hge; omega)

theorem take {rest : List JobNode} (h : JobsInv c j ph) (htodo : j.todo = n :: rest) (hhand : j.hand = none) :
    JobsInv c { j with todo := rest, hand := some n } ph := by
  have hmem : ∀ m ∈ rest, m ∈ j.todo := fun m hm => htodo ▸ List.mem_cons_of_mem _ hm
  have hself : n ∈ j.todo := htodo ▸ List.mem_cons_self
  refine ⟨h.ongoing, h.ids, h.inj, ?_, ?_, h.gone, fun m hm => h.activeTodo m (hmem m hm), ?_, h.calls,
    fun m hm => h.todo m (hmem m hm), ?_, h.freed, h.fresh, h.failed, h.aborted⟩
  · intro num
    have hplaced := h.placed num
    unfold places at hplaced ⊢
    rw [htodo, hhand] at hplaced
    rw [← hplaced]
    simp only [nums, List.map_cons, Option.toList_some, Option.toList_none, List.map_nil, List.count_cons,
      List.count_nil]
    omega
  · intro id m hn ho hg
    have hold := h.held id m hn ho hg
    rw [hhand] at hold
    cases hold
  · intro m hm
    cases Option.some.inj hm
    exact h.activeTodo n hself
  · intro m hm
    cases Option.some.inj hm
    exact h.todo n hself

theorem putBack {todo : List JobNode} (h : JobsInv c j ph) (hhand : j.hand = some n)
    (hfree : ∀ id, (ph id).node = some n → (ph id).ongoing = some n ∨ (ph id).gone = some n)
    (hperm : todo.Perm (n :: j.todo)) : JobsInv c { j with todo := todo, hand := none } ph := by
  have hmem : ∀ m ∈ todo, m = n ∨ m ∈ j.todo := fun m hm => List.mem_cons.mp (hperm.mem_iff.mp hm)
  refine ⟨h.ongoing, h.ids, h.inj, ?_, ?_, h.gone, ?_, nofun, h.calls, ?_, nofun, h.freed, h.fresh, h.failed,
    h.aborted⟩
  · intro num
    have hplaced := h.placed num
    unfold places at hplaced ⊢
    rw [hhand] at hplaced
    rw [← hplaced]
    dsimp only
    have hcount : (nums todo).count num = (nums (n :: j.todo)).count num := (hperm.map _).count_eq num
    rw [hcount]
    simp only [nums, List.map_cons, Option.toList_some, Option.toList_none, List.map_nil, List.count_cons,
      List.count_nil]
    omega
  · intro id m hn ho hg
    have hold := h.held id m hn ho hg
    grind
  · intro m hm
    rcases hmem m hm with rfl | hold
    · exact h.activeHand m hhand
    · exact h.activeTodo m hold
  · intro m hm
    rcases hmem m hm with rfl | hold
    · exact h.hand m hhand
    · exact h.todo m hold

theorem choose (h : JobsInv c j ph) (hhand : j.hand = some n) (hfree : ph id = .free)
    (hnobody : ∀ id', (ph id').node ≠ some n) : JobsInv c j (Function.update ph id (.chosen n)) := by
  have hnone : ∀ {β : Type} (f : Phase → Option β), f .free = none → f (.chosen n) = none →
      ∀ id', f (Function.update ph id (.chosen n) id') = f (ph id') := by
    intro β f hf hc id'
    refine update_congr f ?_ id'
    rw [hfree, hf, hc]
  have hongoing' := hnone Phase.ongoing rfl rfl
  have hgone' := hnone Phase.gone rfl rfl
  have hfails' := hnone Phase.fails rfl rfl
  have hother : ∀ id' m, (ph id').node = some m → m.num ≠ n.num := by
    intro id' m hm he
    rcases h.place_of_node hm with hh | ho | hf
    · grind
    · exact h.not_ongoing_of_hand hhand ho he
    · exact h.not_freed_of_hand hhand (he ▸ hf)
  refine ⟨?_, h.ids, ?_, h.placed, ?_, ?_, h.activeTodo, h.activeHand, ?_, h.todo, h.hand, h.freed, h.fresh, ?_,
    h.aborted⟩
  · intro m
    simp only [hongoing']
    exact h.ongoing m
  · intro id₁ id₂ n₁ n₂ h₁ h₂ he
    by_cases h1 : id₁ = id
    · by_cases h2 : id₂ = id
      · rw [h1, h2]
      · rw [h1, Function.update_self] at h₁
        rw [Function.update_of_ne h2] at h₂
        cases Option.some.inj h₁
        exact absurd he.symm (hother id₂ n₂ h₂)
    · rw [Function.update_of_ne h1] at h₁
      by_cases h2 : id₂ = id
      · rw [h2, Function.update_self] at h₂
        cases Option.some.inj h₂
        exact absurd he (hother id₁ n₁ h₁)
      · rw [Function.update_of_ne h2] at h₂
        exact h.inj id₁ id₂ n₁ n₂ h₁ h₂ he
  · intro id' m hn ho hg
    by_cases he : id' = id
    · rw [he, Function.update_self] at hn
      cases Option.some.inj hn
      exact hhand
    · rw [Function.update_of_ne he] at hn ho hg
      exact h.held id' m hn ho hg
  · intro id' m
    rw [hgone']
    exact h.gone id' m
  · intro id' m hn
    by_cases he : id' = id
    · rw [he, Function.update_self] at hn ⊢
      cases Option.some.inj hn
      exact h.hand n hhand
    · rw [Function.update_of_ne he] at hn ⊢
      exact h.calls id' m hn
  · intro num hnum
    simp only [hfails']
    exact h.failed num hnum

theorem buffer {n' : JobNode} (h : JobsInv c j ph) (hhand : j.hand = some n) (hchosen : ph id = .chosen n)
    (hnum : n'.num = n.num) (hid : n'.jobId = n.jobId) :
    JobsInv c { j with hand := some n' } (Function.update ph id (.buffered n')) := by
  have hnone : ∀ {β : Type} (f : Phase → Option β), f (.chosen n) = none → f (.buffered n') = none →
      ∀ id', f (Function.update ph id (.buffered n') id') = f (ph id') := by
    intro β f hf hc id'
    refine update_congr f ?_ id'
    rw [hchosen, hf, hc]
  have hongoing' := hnone Phase.ongoing rfl rfl
  have hgone' := hnone Phase.gone rfl rfl
  have hfails' := hnone Phase.fails rfl rfl
  have hnode : (ph id).node = some n := by rw [hchosen]; rfl
  refine ⟨?_, h.ids, ?_, ?_, ?_, ?_, h.activeTodo, ?_, ?_, h.todo, ?_, h.freed, h.fresh, ?_, h.aborted⟩
  · intro m
    simp only [hongoing']
    exact h.ongoing m
  · intro id₁ id₂ n₁ n₂ h₁ h₂ he
    by_cases h1 : id₁ = id
    · by_cases h2 : id₂ = id
      · rw [h1, h2]
      · rw [h1, Function.update_self] at h₁
        rw [Function.update_of_ne h2] at h₂
        cases Option.some.inj h₁
        rw [h1]
        exact h.inj id id₂ n n₂ hnode h₂ (hnum ▸ he)
    · rw [Function.update_of_ne h1] at h₁
      by_cases h2 : id₂ = id
      · rw [h2, Function.update_self] at h₂
        cases Option.some.inj h₂
        rw [h2]
        exact h.inj id₁ id n₁ n h₁ hnode (hnum ▸ he)
      · rw [Function.update_of_ne h2] at h₂
        exact h.inj id₁ id₂ n₁ n₂ h₁ h₂ he
  · intro num
    rw [← h.placed num]
    unfold places
    rw [hhand]
    simp only [Option.toList_some, count_nums_singleton, hnum]
  · intro id' m hn ho hg
    by_cases he : id' = id
    · rw [he, Function.update_self] at hn
      exact hn
    · rw [Function.update_of_ne he] at hn ho hg
      have hold := h.held id' m hn ho hg
      rw [hhand] at hold
      cases Option.some.inj hold
      exact absurd (h.inj id' id n n hn hnode rfl) he
  · intro id' m
    rw [hgone']
    exact h.gone id' m
  · intro m hm
    cases Option.some.inj hm
    rw [hid]
    exact h.activeHand n hhand
  · intro id' m hn
    by_cases he : id' = id
    · rw [he, Function.update_self] at hn ⊢
      cases Option.some.inj hn
      rw [hnum]
      exact h.hand n hhand
    · rw [Function.update_of_ne he] at hn ⊢
      exact h.calls id' m hn
  · intro m hm
    cases Option.some.inj hm
    rw [hnum]
    exact h.hand n hhand
  · intro num hnum
    simp only [hfails']
    exact h.failed num hnum

theorem enqueue (h : JobsInv c j ph) (hhand : j.hand = some n) (hbuffered : ph id = .buffered n)
    (hnew : ∀ m ∈ j.ongoing, m.jobId ≠ n.jobId) :
    JobsInv c { j with hand := none, ongoing := j.ongoing ++ [n] } (Function.update ph id (.queued n)) := by
  have hnode : (ph id).node = some n := by rw [hbuffered]; rfl
  have hnode' := @update_congr ph id (.queued n) _ Phase.node hnode.symm
  have hgone' := @update_congr ph id (.queued n) _ Phase.gone (by rw [hbuffered]; rfl)
  have hcalls' := @update_congr ph id (.queued n) _ Phase.calls (by rw [hbuffered]; rfl)
  have hfails' := @update_congr ph id (.queued n) _ Phase.fails (by rw [hbuffered]; rfl)
  refine ⟨?_, ?_, ?_, ?_, ?_, ?_, h.activeTodo, nofun, ?_, h.todo, nofun, h.freed, h.fresh, ?_, h.aborted⟩
  · intro m
    dsimp only
    rw [List.mem_append, h.ongoing m, List.mem_singleton]
    constructor
    · rintro (⟨id', hid'⟩ | rfl)
      · refine ⟨id', ?_⟩
        by_cases he : id' = id
        · rw [he, hbuffered] at hid'
          cases hid'
        · rw [Function.update_of_ne he]
          exact hid'
      · exact ⟨id, by rw [Function.update_self]; rfl⟩
    · rintro ⟨id', hid'⟩
      by_cases he : id' = id
      · rw [he, Function.update_self] at hid'
        exact Or.inr (Option.some.inj hid').symm
      grind
  · dsimp only
    rw [List.map_append]
    refine List.nodup_append.mpr ⟨h.ids, List.pairwise_singleton _ _, ?_⟩
    grind
  · intro id₁ id₂ n₁ n₂
    rw [hnode', hnode']
    exact h.inj id₁ id₂ n₁ n₂
  · intro num
    rw [← h.placed num]
    unfold places
    dsimp only
    rw [hhand, nums_append, List.count_append, Option.toList_some, Option.toList_none]
    simp only [nums, List.map_nil, List.count_nil]
    omega
  · intro id' m hn ho hg
    by_cases he : id' = id
    · rw [he, Function.update_self] at ho
      cases ho
    · rw [Function.update_of_ne he] at hn ho hg
      have hold := h.held id' m hn ho hg
      rw [hhand] at hold
      cases Option.some.inj hold
      exact absurd (h.inj id' id n n hn hnode rfl) he
  · intro id' m
    rw [hgone']
    exact h.gone id' m
  · intro id' m
    rw [hnode', hcalls']
    exact h.calls id' m
  · intro num hnum
    simp only [hfails']
    exact h.failed num hnum

theorem fail (h : JobsInv c j ph) (hsubmitted : ph id = .submitted n) :
    JobsInv c { j with failed := j.failed ++ [n.num] } (Function.update ph id (.failing n)) := by
  have hphase := h.rephase (p := .failing n) (by rw [hsubmitted]; rfl) (by rw [hsubmitted]; rfl)
    (by rw [hsubmitted]; rfl) (by rw [hsubmitted]; rfl) (by rw [hsubmitted]; exact nofun)
  refine ⟨hphase.ongoing, hphase.ids, hphase.inj, hphase.placed, hphase.held, hphase.gone, hphase.activeTodo,
    hphase.activeHand, hphase.calls, hphase.todo, hphase.hand, hphase.freed, hphase.fresh, ?_, hphase.aborted⟩
  intro num hnum
  rcases List.mem_append.mp hnum with hold | hlast
  · exact hphase.failed num hold
  · refine Or.inr ⟨id, n, ?_, (List.mem_singleton.mp hlast).symm⟩
    rw [Function.update_self]
    rfl

theorem report (h : JobsInv c j ph) (hongoing : (ph id).ongoing = some n) (hcalls : (ph id).calls = 0)
    (hp : p.ongoing = some n) (hpcalls : p.calls = 1) (hfails : ∀ m, (ph id).fails = some m → p.fails = some m) :
    JobsInv c { j with called := j.called ++ [n.num] } (Function.update ph id p) := by
  have hnode := Phase.node_of_ongoing hongoing
  have hpnode := Phase.node_of_ongoing hp
  have hmem : n ∈ j.ongoing := (h.ongoing n).mpr ⟨id, hongoing⟩
  have hnode' := @update_congr ph id p _ Phase.node (hpnode.trans hnode.symm)
  have hongoing' := @update_congr ph id p _ Phase.ongoing (hp.trans hongoing.symm)
  have hgone : p.gone = (ph id).gone := by
    have hno : ∀ q : Phase, q.ongoing = some n → q.gone = none := by
      intro q hq
      cases q <;> first | rfl | cases hq
    rw [hno p hp, hno _ hongoing]
  have hgone' := @update_congr ph id p _ Phase.gone hgone
  have hcount : ∀ num, (j.called ++ [n.num]).count num = j.called.count num + if num = n.num then 1 else 0 := by
    intro num
    rw [List.count_append, count_singleton]
  refine ⟨?_, h.ids, ?_, h.placed, ?_, ?_, h.activeTodo, h.activeHand, ?_, ?_, ?_, ?_, ?_, ?_, h.aborted⟩
  · intro m
    simp only [hongoing']
    exact h.ongoing m
  · intro id₁ id₂ n₁ n₂
    rw [hnode', hnode']
    exact h.inj id₁ id₂ n₁ n₂
  · intro id' m
    rw [hnode', hongoing', hgone']
    exact h.held id' m
  · intro id' m
    rw [hgone']
    exact h.gone id' m
  · intro id' m hm
    dsimp only
    rw [hcount]
    by_cases he : id' = id
    · rw [he, Function.update_self] at hm ⊢
      rw [hpnode] at hm
      cases Option.some.inj hm
      have hold := h.calls id n hnode
      rw [if_pos rfl]
      omega
    · rw [Function.update_of_ne he] at hm ⊢
      rw [if_neg fun hnum => he (h.inj id' id m n hm hnode hnum)]
      exact h.calls id' m hm
  · intro m hm
    dsimp only
    rw [hcount, if_neg fun hnum => h.not_ongoing_of_todo hm hmem hnum.symm]
    exact h.todo m hm
  · intro m hm
    dsimp only
    rw [hcount, if_neg fun hnum => h.not_ongoing_of_hand hm hmem hnum.symm]
    exact h.hand m hm
  · intro num hnum
    dsimp only
    have hne : num ≠ n.num := by
      intro he
      rw [he] at hnum
      exact h.not_freed_of_ongoing hmem hnum
    rw [hcount, if_neg hne]
    exact h.freed num hnum
  · intro num hge
    dsimp only at hge ⊢
    have hlt := h.lt_of_node hnode
    rw [hcount, if_neg (by omega)]
    exact h.fresh num hge
  · intro num hnum
    rcases h.failed num hnum with hfreed | ⟨id', m, hm, he⟩
    · exact Or.inl hfreed
    grind

theorem find_ongoing (h : JobsInv c j ph) (hmem : n ∈ j.ongoing) :
    (j.ongoing.find? fun m => m.jobId = n.jobId) = some n := by
  cases hfind : j.ongoing.find? fun m => m.jobId = n.jobId with
  | none =>
    have hno := List.find?_eq_none.mp hfind n hmem
    simp at hno
  | some m =>
    have hm := List.mem_of_find?_eq_some hfind
    have hid : m.jobId = n.jobId := by simpa using List.find?_some hfind
    exact congrArg some (List.inj_on_of_nodup_map h.ids hm hmem hid)

theorem mem_eraseP {nodes : List JobNode} (hids : (nodes.map JobNode.jobId).Nodup) (hmem : n ∈ nodes) :
    m ∈ (nodes.eraseP fun m => m.jobId = n.jobId) ↔ m ∈ nodes ∧ m ≠ n := by
  induction nodes with
  | nil => cases hmem
  | cons a nodes ih =>
    rw [List.map_cons, List.nodup_cons] at hids
    obtain ⟨hnotin, hids'⟩ := hids
    by_cases ha : a.jobId = n.jobId
    · rw [List.eraseP_cons_of_pos (by simpa using ha)]
      have han : a = n := by
        rcases List.mem_cons.mp hmem with he | hin
        · exact he.symm
        · exact absurd (List.mem_map.mpr ⟨n, hin, ha.symm⟩) hnotin
      subst han
      grind
    · rw [List.eraseP_cons_of_neg (by simpa using ha), List.mem_cons, List.mem_cons]
      have hin : n ∈ nodes := by
        rcases List.mem_cons.mp hmem with he | hin
        · exact absurd (congrArg JobNode.jobId he.symm) ha
        · exact hin
      rw [ih hids' hin]
      constructor
      · grind
      grind

theorem count_eraseP {nodes : List JobNode} {q : JobNode → Bool} (hfind : nodes.find? q = some n) (num : Nat) :
    (nums (nodes.eraseP q)).count num + (if num = n.num then 1 else 0) = (nums nodes).count num := by
  induction nodes with
  | nil => cases hfind
  | cons a nodes ih =>
    by_cases ha : q a = true
    · rw [List.find?_cons_of_pos ha] at hfind
      cases Option.some.inj hfind
      rw [List.eraseP_cons_of_pos ha, ← count_nums_singleton, Nat.add_comm, ← List.count_append, ← nums_append]
      rfl
    · rw [List.find?_cons_of_neg ha] at hfind
      have hrest := ih hfind
      rw [List.eraseP_cons_of_neg ha]
      simp only [nums, List.map_cons, List.count_cons] at hrest ⊢
      omega

theorem remove (h : JobsInv c j ph) (hongoing : (ph id).ongoing = some n) (hcalls : (ph id).calls = 1)
    (hp : p.gone = some n) (hpcalls : p.calls = 1) :
    JobsInv c { j with
      ongoing := j.ongoing.eraseP fun m => m.jobId = n.jobId, freed := j.freed ++ [n.num] }
      (Function.update ph id p) := by
  have hnode := Phase.node_of_ongoing hongoing
  have hpnode := Phase.node_of_gone hp
  have hmem : n ∈ j.ongoing := (h.ongoing n).mpr ⟨id, hongoing⟩
  have hnode' := @update_congr ph id p _ Phase.node (hpnode.trans hnode.symm)
  have hcalls' := @update_congr ph id p _ Phase.calls (hpcalls.trans hcalls.symm)
  have hpongoing : p.ongoing = none := by
    cases p <;> first | rfl | cases hp
  have hunaborted : n.num ∉ j.aborted := fun hin => h.not_freed_of_ongoing hmem (h.aborted n.num hin)
  have hgonefreed : ∀ num, num ∈ j.freed ∨ num = n.num → num ∈ j.freed ++ [n.num] := by
    rintro num (hold | hlast)
    · exact List.mem_append_left _ hold
    · exact List.mem_append_right _ (List.mem_singleton.mpr hlast)
  refine ⟨?_, ?_, ?_, ?_, ?_, ?_, h.activeTodo, h.activeHand, ?_, h.todo, h.hand, ?_, h.fresh, ?_, ?_⟩
  · intro m
    dsimp only
    rw [mem_eraseP h.ids hmem, h.ongoing m]
    constructor
    · grind
    · rintro ⟨id', hid'⟩
      by_cases he : id' = id
      · grind
      · rw [Function.update_of_ne he] at hid'
        refine ⟨⟨id', hid'⟩, fun hmn => he ?_⟩
        exact h.inj id' id m n (Phase.node_of_ongoing hid') hnode (congrArg JobNode.num hmn)
  · exact h.ids.sublist (List.eraseP_sublist.map _)
  · intro id₁ id₂ n₁ n₂
    rw [hnode', hnode']
    exact h.inj id₁ id₂ n₁ n₂
  · intro num
    have hcount := count_eraseP (h.find_ongoing hmem) num
    rw [← h.placed num]
    unfold places
    dsimp only
    rw [List.count_append, count_singleton]
    omega
  · intro id' m hn ho hg
    by_cases he : id' = id
    · rw [he, Function.update_self, hp] at hg
      cases hg
    · rw [Function.update_of_ne he] at hn ho hg
      exact h.held id' m hn ho hg
  · intro id' m hg
    by_cases he : id' = id
    · grind
    · rw [Function.update_of_ne he] at hg
      exact hgonefreed _ (Or.inl (h.gone id' m hg))
  · intro id' m
    rw [hnode', hcalls']
    exact h.calls id' m
  · intro num hnum
    rcases List.mem_append.mp hnum with hold | hlast
    · exact h.freed num hold
    · have hnum' : num = n.num := List.mem_singleton.mp hlast
      rw [hnum', if_neg hunaborted, ← hcalls]
      exact h.calls id n hnode
  · intro num hnum
    rcases h.failed num hnum with hfreed | ⟨id', m, hm, he⟩
    · exact Or.inl (hgonefreed _ (Or.inl hfreed))
    · by_cases hid : id' = id
      · rw [hid] at hm
        have hsame := Phase.node_of_fails hm
        grind
      grind
  · intro num hnum
    exact hgonefreed _ (Or.inl (h.aborted num hnum))

theorem release (h : JobsInv c j ph) (hgone : (ph id).gone = some n) : JobsInv c j (Function.update ph id .free) := by
  have hongoing : (ph id).ongoing = none := by
    generalize ph id = p at hgone
    cases p <;> first | rfl | cases hgone
  have hnofails : (ph id).fails = none := by
    generalize ph id = p at hgone
    cases p <;> first | rfl | cases hgone
  have hongoing' := @update_congr ph id .free _ Phase.ongoing hongoing.symm
  have hfails' := @update_congr ph id .free _ Phase.fails hnofails.symm
  have hnode : ∀ id' m, (Function.update ph id .free id').node = some m → id' ≠ id ∧ (ph id').node = some m := by
    intro id' m hm
    by_cases he : id' = id
    · rw [he, Function.update_self] at hm
      cases hm
    · rw [Function.update_of_ne he] at hm
      exact ⟨he, hm⟩
  refine ⟨?_, h.ids, ?_, h.placed, ?_, ?_, h.activeTodo, h.activeHand, ?_, h.todo, h.hand, h.freed, h.fresh, ?_,
    h.aborted⟩
  · intro m
    simp only [hongoing']
    exact h.ongoing m
  · intro id₁ id₂ n₁ n₂ h₁ h₂
    exact h.inj id₁ id₂ n₁ n₂ (hnode id₁ n₁ h₁).2 (hnode id₂ n₂ h₂).2
  · intro id' m hm ho hg
    obtain ⟨he, hm'⟩ := hnode id' m hm
    rw [Function.update_of_ne he] at ho hg
    exact h.held id' m hm' ho hg
  · intro id' m hg
    obtain ⟨he, -⟩ := hnode id' m (Phase.node_of_gone hg)
    rw [Function.update_of_ne he] at hg
    exact h.gone id' m hg
  · intro id' m hm
    obtain ⟨he, hm'⟩ := hnode id' m hm
    rw [Function.update_of_ne he]
    exact h.calls id' m hm'
  · intro num hnum
    simp only [hfails']
    exact h.failed num hnum

theorem abort {q : JobNode → Bool} (h : JobsInv c j ph) (hfind : j.todo.find? q = some n) :
    JobsInv c { j with todo := j.todo.eraseP q, freed := j.freed ++ [n.num], aborted := j.aborted ++ [n.num] } ph := by
  have hmem := List.mem_of_find?_eq_some hfind
  have hsub : ∀ m ∈ j.todo.eraseP q, m ∈ j.todo := fun m hm => List.mem_of_mem_eraseP hm
  refine ⟨h.ongoing, h.ids, h.inj, ?_, h.held, ?_, fun m hm => h.activeTodo m (hsub m hm), h.activeHand, h.calls,
    fun m hm => h.todo m (hsub m hm), h.hand, ?_, h.fresh, ?_, ?_⟩
  · intro num
    have hcount := count_eraseP hfind num
    rw [← h.placed num]
    unfold places
    dsimp only
    rw [List.count_append, count_singleton]
    omega
  · intro id m hg
    exact List.mem_append_left _ (h.gone id m hg)
  · intro num hnum
    dsimp only
    rcases List.mem_append.mp hnum with hold | hlast
    · have hne : num ≠ n.num := by
        intro he
        rw [he] at hold
        exact h.not_freed_of_todo hmem hold
      have hsame : num ∈ j.aborted ++ [n.num] ↔ num ∈ j.aborted := by simp [hne]
      rw [h.freed num hold]
      simp only [hsame]
    · rw [if_pos (List.mem_append_right _ hlast), List.mem_singleton.mp hlast]
      exact h.todo n hmem
  · intro num hnum
    exact (h.failed num hnum).imp_left fun hin => List.mem_append_left _ hin
  · intro num hnum
    rcases List.mem_append.mp hnum with hold | hlast
    · exact List.mem_append_left _ (h.aborted num hold)
    · exact List.mem_append_right _ hlast

end JobsInv

end DeviceHal.Camera

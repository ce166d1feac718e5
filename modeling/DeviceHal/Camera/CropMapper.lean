import DeviceHal.Lib.CText
import Mathlib

namespace DeviceHal.Camera

open DeviceHal.Lib

/-- A crop rectangle by its top left corner and its size. -/
structure CropRect where
  left : Int
  top : Int
  width : Int
  height : Int
deriving DecidableEq, Repr

def CropRect.area (r : CropRect) : Set (Int × Int) :=
  Set.Ico r.left (r.left + r.width) ×ˢ Set.Ico r.top (r.top + r.height)

def CropRect.UpTo (bound : Int) (r : CropRect) : Prop :=
  |r.left| ≤ bound ∧ |r.top| ≤ bound ∧ |r.width| ≤ bound ∧ |r.height| ≤ bound

instance (bound : Int) (r : CropRect) : Decidable (r.UpTo bound) :=
  inferInstanceAs (Decidable (_ ∧ _))

/-- What `update` is called with. -/
structure CropSizes where
  activeArrayW : UInt32
  activeArrayH : UInt32
  sensorW : UInt32
  sensorH : UInt32

def CropSizes.UpTo (bound : Nat) (u : CropSizes) : Prop :=
  u.activeArrayW.toNat ≤ bound ∧ u.activeArrayH.toNat ≤ bound ∧
    u.sensorW.toNat ≤ bound ∧ u.sensorH.toNat ≤ bound

instance (bound : Nat) (u : CropSizes) : Decidable (u.UpTo bound) :=
  inferInstanceAs (Decidable (_ ∧ _))

structure CropMapper where
  sensorW : Int := 0
  sensorH : Int := 0
  activeArrayW : Int := 0
  activeArrayH : Int := 0

/-- The space a rectangle is mapped to. -/
inductive CropSpace where
  | sensor
  | activeArray

namespace CropMapper

def update (u : CropSizes) (m : CropMapper) : CropMapper :=
  if u.activeArrayW = 0 ∨ u.activeArrayH = 0 ∨ u.sensorW = 0 ∨ u.sensorH = 0 then m
  else if u.activeArrayW < u.sensorW ∨ u.activeArrayH < u.sensorH then m
  else
    { sensorW := toInt32 u.sensorW.toNat
      sensorH := toInt32 u.sensorH.toNat
      activeArrayW := toInt32 u.activeArrayW.toNat
      activeArrayH := toInt32 u.activeArrayH.toNat }

def boundToSize (r : CropRect) (boundW boundH : Int) : CropRect :=
  let left := if r.left < 0 then 0 else r.left
  let top := if r.top < 0 then 0 else r.top
  { left
    top
    width := if toInt32 (left + r.width) > boundW then toInt32 (boundW - left) else r.width
    height := if toInt32 (top + r.height) > boundH then toInt32 (boundH - top) else r.height }

/-- `x * target / source` on `int32_t`. -/
def scale (x target source : Int) : Int := toInt32 ((toInt32 (x * target)).tdiv source)

def Unset (m : CropMapper) : Prop :=
  m.sensorW = 0 ∨ m.sensorH = 0 ∨ m.activeArrayW = 0 ∨ m.activeArrayH = 0

instance (m : CropMapper) : Decidable m.Unset := inferInstanceAs (Decidable (_ ∨ _))

def toActiveArray (m : CropMapper) (r : CropRect) : CropRect :=
  if m.Unset then r
  else
    boundToSize
      { left := scale r.left m.activeArrayW m.sensorW
        top := scale r.top m.activeArrayH m.sensorH
        width := scale r.width m.activeArrayW m.sensorW
        height := scale r.height m.activeArrayH m.sensorH }
      m.activeArrayW m.activeArrayH

def toSensor (m : CropMapper) (r : CropRect) : CropRect :=
  if m.Unset then r
  else
    boundToSize
      { left := scale r.left m.sensorW m.activeArrayW
        top := scale r.top m.sensorH m.activeArrayH
        width := scale r.width m.sensorW m.activeArrayW
        height := scale r.height m.sensorH m.activeArrayH }
      m.sensorW m.sensorH

def map (m : CropMapper) : CropSpace → CropRect → CropRect
  | .sensor => m.toSensor
  | .activeArray => m.toActiveArray

/-- The mapper after these calls of `update`. -/
def updates (us : List CropSizes) : CropMapper := us.foldl (fun m u => m.update u) {}

def width (m : CropMapper) : CropSpace → Int
  | .sensor => m.sensorW
  | .activeArray => m.activeArrayW

def height (m : CropMapper) : CropSpace → Int
  | .sensor => m.sensorH
  | .activeArray => m.activeArrayH

end CropMapper

def CropSpace.other : CropSpace → CropSpace
  | .sensor => .activeArray
  | .activeArray => .sensor

namespace CropMapper

/-- The rectangle in the units of the target space, rounded towards zero and not yet bounded. -/
def scaled (m : CropMapper) (space : CropSpace) (r : CropRect) : CropRect where
  left := (r.left * m.width space).tdiv (m.width space.other)
  top := (r.top * m.height space).tdiv (m.height space.other)
  width := (r.width * m.width space).tdiv (m.width space.other)
  height := (r.height * m.height space).tdiv (m.height space.other)

def frame (m : CropMapper) (space : CropSpace) : CropRect :=
  ⟨0, 0, m.width space, m.height space⟩

/-- The mapped rectangle lies in the target space and is what the scaled one has in common
with it. -/
structure MapsInside (m : CropMapper) (space : CropSpace) (r : CropRect) : Prop where
  left : 0 ≤ (m.map space r).left
  top : 0 ≤ (m.map space r).top
  width : 0 ≤ (m.map space r).width
  height : 0 ≤ (m.map space r).height
  right : (m.map space r).left + (m.map space r).width ≤ m.width space
  bottom : (m.map space r).top + (m.map space r).height ≤ m.height space
  meets : (m.map space r).area = (m.scaled space r).area ∩ (m.frame space).area

theorem toInt32_of_mem {v : Int} (hlow : -2147483648 ≤ v) (hhigh : v < 2147483648) :
    toInt32 v = v := by
  unfold toInt32
  rw [Int.bmod_eq_of_le] <;> omega

variable {r : CropRect}

theorem boundToSize_eq {boundW boundH : Int} (hr : r.UpTo (32767 * 32767))
    (hw : 0 ≤ boundW ∧ boundW ≤ 32767) (hh : 0 ≤ boundH ∧ boundH ≤ 32767) :
    boundToSize r boundW boundH =
      ⟨max r.left 0, max r.top 0, min r.width (boundW - max r.left 0),
        min r.height (boundH - max r.top 0)⟩ := by
  obtain ⟨hleft, htop, hwidth, hheight⟩ := hr
  rw [abs_le] at hleft htop hwidth hheight
  have hl : (if r.left < 0 then 0 else r.left) = max r.left 0 := by split <;> omega
  have ht : (if r.top < 0 then 0 else r.top) = max r.top 0 := by split <;> omega
  simp only [boundToSize, hl, ht, CropRect.mk.injEq, true_and]
  rw [toInt32_of_mem (by omega) (by omega), toInt32_of_mem (by omega) (by omega),
    toInt32_of_mem (by omega) (by omega), toInt32_of_mem (by omega) (by omega)]
  constructor <;> split <;> omega

theorem abs_tdiv_le (v n : Int) : |v.tdiv n| ≤ |v| := by
  rw [Int.abs_eq_natAbs, Int.abs_eq_natAbs, Int.natAbs_tdiv]
  exact_mod_cast Nat.div_le_self _ _

theorem scale_eq {x target : Int} (source : Int) (hx : |x| ≤ 32767)
    (ht : 0 ≤ target ∧ target ≤ 32767) :
    scale x target source = (x * target).tdiv source ∧
      |(x * target).tdiv source| ≤ 32767 * 32767 := by
  have hprod : |x * target| ≤ 32767 * 32767 := by
    rw [abs_mul, abs_of_nonneg ht.1]
    exact Int.mul_le_mul hx ht.2 ht.1 (by omega)
  have hdiv := (abs_tdiv_le (x * target) source).trans hprod
  refine ⟨?_, hdiv⟩
  rw [abs_le] at hprod hdiv
  unfold scale
  rw [toInt32_of_mem (v := x * target) (by omega) (by omega),
    toInt32_of_mem (by omega) (by omega)]

theorem clip_eq_inter {left width bound : Int} (hwhole : 0 ≤ left ∨ bound ≤ left + width) :
    Set.Ico (max left 0) (max left 0 + min width (bound - max left 0)) =
      Set.Ico left (left + width) ∩ Set.Ico 0 bound := by
  ext p
  simp only [Set.mem_Ico, Set.mem_inter_iff]
  omega

theorem whole_of_clip_eq_inter {left width bound : Int} (hwidth : 0 < width)
    (hleft : left < bound) (hbound : 0 < bound)
    (heq : Set.Ico (max left 0) (max left 0 + min width (bound - max left 0)) =
      Set.Ico left (left + width) ∩ Set.Ico 0 bound) :
    0 ≤ left ∨ bound ≤ left + width := by
  have hlast : max left 0 + min width (bound - max left 0) - 1 ∈
      Set.Ico (max left 0) (max left 0 + min width (bound - max left 0)) := by
    simp only [Set.mem_Ico]
    omega
  grind

def Sized (m : CropMapper) : Prop :=
  ∀ space : CropSpace, (0 < m.width space ∧ m.width space ≤ 32767) ∧
    0 < m.height space ∧ m.height space ≤ 32767

theorem sized_mk {sensorW sensorH activeArrayW activeArrayH : Int}
    (hsw : 0 < sensorW ∧ sensorW ≤ 32767) (hsh : 0 < sensorH ∧ sensorH ≤ 32767)
    (haw : 0 < activeArrayW ∧ activeArrayW ≤ 32767)
    (hah : 0 < activeArrayH ∧ activeArrayH ≤ 32767) :
    Sized ⟨sensorW, sensorH, activeArrayW, activeArrayH⟩
  | .sensor => ⟨hsw, hsh⟩
  | .activeArray => ⟨haw, hah⟩

theorem toInt32_size {n : UInt32} (hn : n.toNat ≤ 32767) (hne : n ≠ 0) :
    0 < toInt32 n.toNat ∧ toInt32 n.toNat ≤ 32767 := by
  have hpos : n.toNat ≠ 0 := fun h => hne (UInt32.toNat_inj.mp h)
  rw [toInt32_of_mem (by omega) (by omega)]
  omega

theorem update_sized {u : CropSizes} (hu : u.UpTo 32767) (m : CropMapper) :
    m.update u = m ∨ (m.update u).Sized := by
  obtain ⟨haw, hah, hsw, hsh⟩ := hu
  unfold update
  split
  · exact Or.inl rfl
  split
  · exact Or.inl rfl
  · next hzero _ =>
    right
    simp only [not_or] at hzero
    obtain ⟨haw', hah', hsw', hsh'⟩ := hzero
    exact sized_mk (toInt32_size hsw hsw') (toInt32_size hsh hsh') (toInt32_size haw haw')
      (toInt32_size hah hah')

theorem updates_sized {us : List CropSizes} (hus : ∀ u ∈ us, u.UpTo 32767) :
    updates us = {} ∨ (updates us).Sized := by
  induction us using List.reverseRecOn with
  | nil => exact Or.inl rfl
  | append_singleton us u ih =>
    have ih := ih fun u hu => hus u (by simp [hu])
    have hstep : updates (us ++ [u]) = (updates us).update u := by simp [updates]
    rw [hstep]
    rcases update_sized (hus u (by simp)) (updates us) with hsame | hsized
    · rwa [hsame]
    · exact Or.inr hsized

variable {m : CropMapper}

theorem Sized.not_unset (hm : m.Sized) : ¬ m.Unset := by
  have hs := hm .sensor
  have ha := hm .activeArray
  simp only [width, height] at hs ha
  unfold Unset
  omega

theorem Sized.map_eq (hm : m.Sized) (hr : r.UpTo 32767) (space : CropSpace) : m.map space r =
      ⟨max (m.scaled space r).left 0, max (m.scaled space r).top 0,
        min (m.scaled space r).width (m.width space - max (m.scaled space r).left 0),
        min (m.scaled space r).height (m.height space - max (m.scaled space r).top 0)⟩ := by
  obtain ⟨hleft, htop, hwidth, hheight⟩ := hr
  obtain ⟨⟨hw, hw'⟩, hh, hh'⟩ := hm space
  have hl := scale_eq (m.width space.other) hleft ⟨hw.le, hw'⟩
  have ht := scale_eq (m.height space.other) htop ⟨hh.le, hh'⟩
  have hsw := scale_eq (m.width space.other) hwidth ⟨hw.le, hw'⟩
  have hsh := scale_eq (m.height space.other) hheight ⟨hh.le, hh'⟩
  have hscaled : m.map space r =
      boundToSize (m.scaled space r) (m.width space) (m.height space) := by
    unfold scaled
    rw [← hl.1, ← ht.1, ← hsw.1, ← hsh.1]
    cases space with
    | sensor => exact if_neg hm.not_unset
    | activeArray => exact if_neg hm.not_unset
  rw [hscaled]
  exact boundToSize_eq ⟨hl.2, ht.2, hsw.2, hsh.2⟩ ⟨hw.le, hw'⟩ ⟨hh.le, hh'⟩

/-- The scaled rectangle has no negative size and starts at most at the far border of the space.
Where it has points there, it starts in the space on each axis, or covers all of that axis from
before its start. -/
structure Clips (s : CropRect) (boundW boundH : Int) : Prop where
  width : 0 ≤ s.width
  height : 0 ≤ s.height
  left : s.left ≤ boundW
  top : s.top ≤ boundH
  whole : (s.width = 0 ∨ s.left = boundW ∨ s.height = 0 ∨ s.top = boundH) ∨
    (0 ≤ s.left ∨ boundW ≤ s.left + s.width) ∧ (0 ≤ s.top ∨ boundH ≤ s.top + s.height)

theorem area_eq_empty_iff : r.area = ∅ ↔ r.width ≤ 0 ∨ r.height ≤ 0 := by
  simp [CropRect.area, Set.prod_eq_empty_iff, Set.Ico_eq_empty_iff]

theorem Sized.mapsInside_iff (hm : m.Sized) (hr : r.UpTo 32767) (space : CropSpace) :
    MapsInside m space r ↔ Clips (m.scaled space r) (m.width space) (m.height space) := by
  obtain ⟨⟨hw, -⟩, hh, -⟩ := hm space
  have hmap := hm.map_eq hr space
  have hinter : (m.scaled space r).area ∩ (m.frame space).area =
      (Set.Ico (m.scaled space r).left ((m.scaled space r).left + (m.scaled space r).width) ∩
        Set.Ico 0 (m.width space)) ×ˢ
      (Set.Ico (m.scaled space r).top ((m.scaled space r).top + (m.scaled space r).height) ∩
        Set.Ico 0 (m.height space)) := by
    simp [CropRect.area, frame, Set.prod_inter_prod]
  constructor
  · rintro ⟨hleft, htop, hwidth, hheight, hright, hbottom, hmeets⟩
    rw [hinter] at hmeets
    rw [hmap] at hleft htop hwidth hheight hright hbottom hmeets
    generalize m.scaled space r = s at *
    simp only at hleft htop hwidth hheight hright hbottom
    refine ⟨by omega, by omega, by omega, by omega, or_iff_not_imp_left.mpr fun hempty => ?_⟩
    have harea : (Set.Ico (max s.left 0)
        (max s.left 0 + min s.width (m.width space - max s.left 0)) ×ˢ
        Set.Ico (max s.top 0)
        (max s.top 0 + min s.height (m.height space - max s.top 0))).Nonempty := by
      simp only [Set.prod_nonempty_iff, Set.nonempty_Ico]
      omega
    obtain ⟨hx, hy⟩ := (Set.prod_eq_prod_iff_of_nonempty harea).mp hmeets
    exact ⟨whole_of_clip_eq_inter (by omega) (by omega) hw hx,
      whole_of_clip_eq_inter (by omega) (by omega) hh hy⟩
  · rintro ⟨hwidth, hheight, hleft, htop, hwhole⟩
    have hmeets : (m.map space r).area = (m.scaled space r).area ∩ (m.frame space).area := by
      rw [hinter, hmap]
      rcases hwhole with hempty | ⟨hx, hy⟩
      · rw [area_eq_empty_iff.mpr (by simp only; omega), eq_comm, Set.prod_eq_empty_iff,
          Set.Ico_inter_Ico, Set.Ico_inter_Ico, Set.Ico_eq_empty_iff, Set.Ico_eq_empty_iff]
        omega
      · simp only [CropRect.area, clip_eq_inter hx, clip_eq_inter hy]
    refine ⟨?_, ?_, ?_, ?_, ?_, ?_, hmeets⟩ <;> rw [hmap] <;> simp only <;> omega

theorem mapsInside_unset_iff (space : CropSpace) (r : CropRect) :
    MapsInside {} space r ↔ r = ⟨0, 0, 0, 0⟩ := by
  have hmap : map {} space r = r := by cases space <;> rfl
  have hsize : width {} space = 0 ∧ height {} space = 0 := by cases space <;> exact ⟨rfl, rfl⟩
  constructor
  · rintro ⟨hleft, htop, hwidth, hheight, hright, hbottom, -⟩
    rw [hmap] at *
    rw [hsize.1] at hright
    rw [hsize.2] at hbottom
    obtain ⟨left, top, width, height⟩ := r
    simp only [CropRect.mk.injEq] at *
    omega
  · rintro rfl
    refine ⟨?_, ?_, ?_, ?_, ?_, ?_, ?_⟩ <;> rw [hmap]
    · rw [hsize.1]
      decide
    · rw [hsize.2]
      decide
    · simp [CropRect.area, frame, hsize]

/-- What a mapper and a rectangle have to meet for the rectangle to be clipped right. -/
def ClipsRight (m : CropMapper) (space : CropSpace) (r : CropRect) : Prop :=
  (m.Unset → r = ⟨0, 0, 0, 0⟩) ∧
    (¬ m.Unset → Clips (m.scaled space r) (m.width space) (m.height space))

theorem updates_mapsInside_iff (us : List CropSizes) (hus : ∀ u ∈ us, u.UpTo 32767)
    (space : CropSpace) (r : CropRect) (hr : r.UpTo 32767) :
    MapsInside (updates us) space r ↔ ClipsRight (updates us) space r := by
  unfold ClipsRight
  rcases updates_sized hus with hfresh | hsized
  · have hunset : (updates us).Unset := by
      rw [hfresh]
      exact Or.inl rfl
    simp only [hunset, not_true, true_implies, false_implies, and_true]
    rw [hfresh]
    exact mapsInside_unset_iff space r
  · simp only [hsized.not_unset, not_false_eq_true, true_implies, false_implies, true_and]
    exact hsized.mapsInside_iff hr space

theorem corner_mapsInside_iff :
    MapsInside (updates [⟨4000, 3000, 2000, 1500⟩]) .sensor ⟨3600, 100, 800, 600⟩ ↔
      ClipsRight (updates [⟨4000, 3000, 2000, 1500⟩]) .sensor ⟨3600, 100, 800, 600⟩ :=
  updates_mapsInside_iff [⟨4000, 3000, 2000, 1500⟩] (by decide) .sensor ⟨3600, 100, 800, 600⟩
    (by decide)

/-- A rectangle that starts left of the area keeps its width, and one that starts right of it gets
a negative one. -/
theorem outside_left_and_right_not_clipped :
    map (updates [⟨4000, 3000, 2000, 1500⟩]) .sensor ⟨-200, 0, 400, 300⟩ = ⟨0, 0, 200, 150⟩ ∧
    ¬ MapsInside (updates [⟨4000, 3000, 2000, 1500⟩]) .sensor ⟨-200, 0, 400, 300⟩ ∧
    map (updates [⟨4000, 3000, 2000, 1500⟩]) .sensor ⟨5000, 0, 100, 100⟩ =
      ⟨2500, 0, -500, 50⟩ ∧
    ¬ MapsInside (updates [⟨4000, 3000, 2000, 1500⟩]) .sensor ⟨5000, 0, 100, 100⟩ := by
  have hleft : map (updates [⟨4000, 3000, 2000, 1500⟩]) .sensor ⟨-200, 0, 400, 300⟩ =
      ⟨0, 0, 200, 150⟩ := by decide
  have hright : map (updates [⟨4000, 3000, 2000, 1500⟩]) .sensor ⟨5000, 0, 100, 100⟩ =
      ⟨2500, 0, -500, 50⟩ := by decide
  refine ⟨hleft, fun h => ?_, hright, fun h => ?_⟩
  · have hpoint : ((150 : Int), (0 : Int)) ∈ CropRect.area ⟨0, 0, 200, 150⟩ := by
      simp [CropRect.area]
    rw [← hleft, h.meets] at hpoint
    have hscaled : scaled (updates [⟨4000, 3000, 2000, 1500⟩]) .sensor ⟨-200, 0, 400, 300⟩ =
        ⟨-100, 0, 200, 150⟩ := by decide
    rw [hscaled] at hpoint
    simp [CropRect.area] at hpoint
  · have hneg := h.width
    rw [hright] at hneg
    exact absurd hneg (by decide)

/-- `x * target / source` on `uint32_t`. -/
def scalePoint (x : UInt32) (target source : Int) : UInt32 :=
  x * UInt32.ofInt target / UInt32.ofInt source

/-- The overload of `toActiveArray` for a point. -/
def toActiveArrayPoint (m : CropMapper) (x y : UInt32) : UInt32 × UInt32 :=
  if m.Unset then (x, y)
  else if x > UInt32.ofInt m.sensorW ∨ y > UInt32.ofInt m.sensorH then (x, y)
  else (scalePoint x m.activeArrayW m.sensorW, scalePoint y m.activeArrayH m.sensorH)

/-- The overload of `toSensor` for a point. -/
def toSensorPoint (m : CropMapper) (x y : UInt32) : UInt32 × UInt32 :=
  if m.Unset then (x, y)
  else if x > UInt32.ofInt m.activeArrayW ∨ y > UInt32.ofInt m.activeArrayH then (x, y)
  else (scalePoint x m.sensorW m.activeArrayW, scalePoint y m.sensorH m.activeArrayH)

/-- The points of the sensor space that are mapped. -/
def Accepts (m : CropMapper) (x y : UInt32) : Prop :=
  ¬m.Unset ∧ x ≤ UInt32.ofInt m.sensorW ∧ y ≤ UInt32.ofInt m.sensorH

instance (m : CropMapper) (x y : UInt32) : Decidable (m.Accepts x y) :=
  inferInstanceAs (Decidable (_ ∧ _))

/-- A coordinate `x` up to `source` is mapped to `x'` and then back to `x''`. The product fits in 32
bits, `x'` lies in the target, and at most one is lost on the way back. -/
structure ScalesBack (x x' x'' : UInt32) (source target : Int) : Prop where
  fits : (x.toNat : Int) * target < 2 ^ 32
  eq : (x'.toNat : Int) = x.toNat * target / source
  inside : (x'.toNat : Int) ≤ target
  proper : (x.toNat : Int) < source → (x'.toNat : Int) < target
  back : x''.toNat = x.toNat ∨ x''.toNat + 1 = x.toNat

/-- The point of the sensor space that comes back. -/
def backAgain (m : CropMapper) (x y : UInt32) : UInt32 × UInt32 :=
  m.toSensorPoint (m.toActiveArrayPoint x y).1 (m.toActiveArrayPoint x y).2

/-- Each coordinate of a point is scaled there and back, and larger ones are mapped no lower. -/
structure MapsBack (m : CropMapper) (x y : UInt32) : Prop where
  left : ScalesBack x (m.toActiveArrayPoint x y).1 (m.backAgain x y).1 m.sensorW m.activeArrayW
  top : ScalesBack y (m.toActiveArrayPoint x y).2 (m.backAgain x y).2 m.sensorH m.activeArrayH
  mono : ∀ x' y', m.Accepts x' y' →
    (x ≤ x' → (m.toActiveArrayPoint x y).1 ≤ (m.toActiveArrayPoint x' y').1) ∧
      (y ≤ y' → (m.toActiveArrayPoint x y).2 ≤ (m.toActiveArrayPoint x' y').2)

/-- The source is no larger than the target, which has up to 16 bits. -/
def Grows (source target : Int) : Prop := 0 < source ∧ source ≤ target ∧ target ≤ 65535

theorem toNat_ofInt {v : Int} (hlow : 0 ≤ v) (hhigh : v < 2 ^ 32) :
    ((UInt32.ofInt v).toNat : Int) = v := by
  unfold UInt32.ofInt
  rw [UInt32.toNat_ofNat']
  omega

theorem scalePoint_toNat {x : UInt32} {n d : Int} (hn : 0 < n ∧ n ≤ 65535) (hd : 0 < d ∧ d ≤ 65535)
    (hx : (x.toNat : Int) ≤ 65535) : ((scalePoint x n d).toNat : Int) = x.toNat * n / d := by
  have hn' := toNat_ofInt (v := n) (by omega) (by omega)
  have hd' := toNat_ofInt (v := d) (by omega) (by omega)
  have hfits : x.toNat * (UInt32.ofInt n).toNat < 2 ^ 32 := by
    have hle : x.toNat * (UInt32.ofInt n).toNat ≤ 65535 * 65535 :=
      Nat.mul_le_mul (by omega) (by omega)
    omega
  unfold scalePoint
  rw [UInt32.toNat_div, UInt32.toNat_mul, Nat.mod_eq_of_lt hfits, Int.natCast_ediv, Int.natCast_mul,
    hn', hd']

theorem Grows.le {x : UInt32} {source target : Int} (h : Grows source target)
    (hx : x ≤ UInt32.ofInt source) : (x.toNat : Int) ≤ source := by
  obtain ⟨hpos, hle, hmax⟩ := h
  have hsource := toNat_ofInt (v := source) (by omega) (by omega)
  have hx' := UInt32.le_iff_toNat_le.mp hx
  omega

theorem Grows.mono {x y : UInt32} {source target : Int} (h : Grows source target)
    (hy : y ≤ UInt32.ofInt source) (hxy : x ≤ y) :
    scalePoint x target source ≤ scalePoint y target source := by
  have hy' := h.le hy
  have hxy' := UInt32.le_iff_toNat_le.mp hxy
  obtain ⟨hpos, hle, hmax⟩ := h
  have hscaled : (x.toNat : Int) * target / source ≤ y.toNat * target / source :=
    Int.ediv_le_ediv hpos (Int.mul_le_mul_of_nonneg_right (by omega) (by omega))
  rw [← scalePoint_toNat (by omega) (by omega) (by omega),
    ← scalePoint_toNat (by omega) (by omega) (by omega)] at hscaled
  exact UInt32.le_iff_toNat_le.mpr (by omega)

theorem Grows.scalesBack {x : UInt32} {source target : Int} (h : Grows source target)
    (hx : x ≤ UInt32.ofInt source) :
    ScalesBack x (scalePoint x target source)
      (scalePoint (scalePoint x target source) source target) source target := by
  have hx' := h.le hx
  obtain ⟨hpos, hle, hmax⟩ := h
  have heq := scalePoint_toNat (x := x) (n := target) (d := source) (by omega) (by omega) (by omega)
  have hprod : (x.toNat : Int) * target ≤ target * source := by
    rw [Int.mul_comm target]
    exact Int.mul_le_mul_of_nonneg_right hx' (by omega)
  have hinside : ((scalePoint x target source).toNat : Int) ≤ target := by
    rw [heq]
    exact Int.ediv_le_of_le_mul hpos hprod
  have hback := scalePoint_toNat (x := scalePoint x target source) (n := source) (d := target)
    (by omega) (by omega) (by omega)
  -- The quotient `a` has `a * source ≤ x * target < a * source + source`.
  have hlow := Int.ediv_mul_le (x.toNat * target) (show source ≠ 0 by omega)
  have hhigh := Int.lt_ediv_add_one_mul_self (x.toNat * target) hpos
  rw [← heq] at hlow hhigh
  have hupper : ((scalePoint x target source).toNat : Int) * source / target ≤ x.toNat :=
    Int.ediv_le_of_le_mul (by omega) hlow
  have hlower : (x.toNat : Int) - 1 ≤ (scalePoint x target source).toNat * source / target := by
    refine Int.le_ediv_of_mul_le (by omega) ?_
    rw [Int.sub_mul]
    rw [Int.add_mul] at hhigh
    omega
  refine ⟨?_, heq, hinside, fun hlt => ?_, by omega⟩
  · have hmax' : target * source ≤ 65535 * 65535 :=
      Int.mul_le_mul hmax (by omega) (by omega) (by omega)
    omega
  · rw [heq]
    refine Int.ediv_lt_of_lt_mul hpos ?_
    rw [Int.mul_comm target]
    exact Int.mul_lt_mul_of_pos_right hlt (by omega)

/-- The sensor output is no larger than the active array. -/
def Fitted (m : CropMapper) : Prop :=
  Grows m.sensorW m.activeArrayW ∧ Grows m.sensorH m.activeArrayH

theorem update_fitted {u : CropSizes} (hw : u.activeArrayW.toNat ≤ 65535)
    (hh : u.activeArrayH.toNat ≤ 65535) (m : CropMapper) :
    m.update u = m ∨ (m.update u).Fitted := by
  unfold update
  split
  · exact Or.inl rfl
  split
  · exact Or.inl rfl
  · next hzero hle =>
    right
    simp only [not_or, ← UInt32.toNat_inj, UInt32.lt_iff_toNat_lt, UInt32.toNat_zero] at hzero hle
    have hcast : ∀ n : UInt32, n.toNat ≤ 65535 → toInt32 n.toNat = n.toNat := fun n hn =>
      toInt32_of_mem (by omega) (by omega)
    unfold Fitted Grows
    rw [hcast u.sensorW (by omega), hcast u.sensorH (by omega), hcast u.activeArrayW hw,
      hcast u.activeArrayH hh]
    dsimp only
    omega

theorem updates_fitted {us : List CropSizes}
    (hus : ∀ u ∈ us, u.activeArrayW.toNat ≤ 65535 ∧ u.activeArrayH.toNat ≤ 65535) :
    (updates us).Unset ∨ (updates us).Fitted := by
  induction us using List.reverseRecOn with
  | nil => exact Or.inl (Or.inl rfl)
  | append_singleton us u ih =>
    have ih := ih fun u hu => hus u (by simp [hu])
    have hu := hus u (by simp)
    have hstep : updates (us ++ [u]) = (updates us).update u := by simp [updates]
    rw [hstep]
    rcases update_fitted hu.1 hu.2 (updates us) with hsame | hfitted
    · rwa [hsame]
    · exact Or.inr hfitted

theorem Fitted.toSensorPoint (h : m.Fitted) (hset : ¬m.Unset) {x y : UInt32}
    (hx : (x.toNat : Int) ≤ m.activeArrayW) (hy : (y.toNat : Int) ≤ m.activeArrayH) :
    m.toSensorPoint x y =
      (scalePoint x m.sensorW m.activeArrayW, scalePoint y m.sensorH m.activeArrayH) := by
  obtain ⟨⟨hw, hw', hw''⟩, hh, hh', hh''⟩ := h
  have hwcast := toNat_ofInt (v := m.activeArrayW) (by omega) (by omega)
  have hhcast := toNat_ofInt (v := m.activeArrayH) (by omega) (by omega)
  unfold CropMapper.toSensorPoint
  rw [if_neg hset, if_neg]
  simp only [gt_iff_lt, UInt32.lt_iff_toNat_lt]
  omega

theorem points_map_back {us : List CropSizes}
    (hus : ∀ u ∈ us, u.activeArrayW.toNat ≤ 65535 ∧ u.activeArrayH.toNat ≤ 65535)
    {x y : UInt32} (accepted : (updates us).Accepts x y) : (updates us).MapsBack x y := by
  have hfitted : (updates us).Fitted := (updates_fitted hus).resolve_left accepted.1
  generalize updates us = m at *
  have hpoint : ∀ x' y', m.Accepts x' y' → m.toActiveArrayPoint x' y' =
      (scalePoint x' m.activeArrayW m.sensorW, scalePoint y' m.activeArrayH m.sensorH) := by
    intro x' y' h
    unfold toActiveArrayPoint
    rw [if_neg h.1, if_neg]
    simpa only [gt_iff_lt, not_or, UInt32.not_lt] using h.2
  have hx := hfitted.1.scalesBack accepted.2.1
  have hy := hfitted.2.scalesBack accepted.2.2
  have hback := hfitted.toSensorPoint accepted.1 hx.inside hy.inside
  refine ⟨?_, ?_, fun x' y' h => ?_⟩
  · rw [backAgain, hpoint x y accepted, hback]
    exact hx
  · rw [backAgain, hpoint x y accepted, hback]
    exact hy
  · rw [hpoint x y accepted, hpoint x' y' h]
    exact ⟨hfitted.1.mono h.2.1, hfitted.2.mono h.2.2⟩

/-- With sizes that do not divide each other a point comes back as its left neighbour. -/
theorem point_loses_one : (updates [⟨4000, 3000, 3001, 1500⟩]).backAgain 4 1500 = (3, 1500) ∧
    (updates [⟨4000, 3000, 3001, 1500⟩]).MapsBack 4 1500 :=
  ⟨by decide, points_map_back (by decide) (by decide)⟩

end CropMapper

end DeviceHal.Camera

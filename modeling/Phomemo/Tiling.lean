import Mathlib.Algebra.BigOperators.Intervals
import Mathlib.Algebra.BigOperators.Ring.Finset
import Mathlib.Algebra.Ring.Periodic
import Mathlib.Data.Finset.Card
import Mathlib.Tactic.Ring

/-!
# Threshold tiles

A tile that holds every threshold below its size once, repeated over the plane.  A window of whole
tiles holds every threshold equally often, wherever it lies, so the share of its cells below a
level is the level's share of the thresholds.
-/

namespace Phomemo.Tiling

open Finset

/-! ## Windows of whole periods -/

section

variable {f : ℕ → ℕ} {period : ℕ}

/-- A period sums to the same wherever it starts. -/
theorem sum_period (periodic : Function.Periodic f period) (start : ℕ) :
    ∑ x ∈ Ico start (start + period), f x = ∑ x ∈ range period, f x := by
  induction start with
  | zero => rw [Nat.zero_add, range_eq_Ico]
  | succ start ih =>
      have first := sum_eq_sum_Ico_succ_bot (Nat.lt_succ_of_le (Nat.le_add_right start period)) f
      have last := sum_Ico_succ_top (Nat.le_add_right start period) f
      have same : f start + ∑ x ∈ Ico (start + 1) (start + period + 1), f x =
          f start + ∑ x ∈ Ico start (start + period), f x := by
        rw [← first, last, periodic start, Nat.add_comm]
      rw [Nat.add_right_comm, Nat.add_left_cancel same, ih]

theorem sum_periods (periodic : Function.Periodic f period) (start count : ℕ) :
    ∑ x ∈ Ico start (start + count * period), f x = count * ∑ x ∈ range period, f x := by
  induction count with
  | zero => simp
  | succ count ih =>
      have split : start + (count + 1) * period = start + count * period + period := by ring
      rw [split, ← sum_Ico_consecutive f (Nat.le_add_right _ _) (Nat.le_add_right _ _), ih,
        sum_period periodic, Nat.succ_mul]

end

/-- The cells from `corner` on. -/
def window (corner : ℕ × ℕ) (width height : ℕ) : Finset (ℕ × ℕ) :=
  Ico corner.1 (corner.1 + width) ×ˢ Ico corner.2 (corner.2 + height)

/-- A tile of `width * height` thresholds, repeated over the plane. -/
structure ThresholdTile where
  width : ℕ
  height : ℕ
  rank : ℕ × ℕ → ℕ
  across : ∀ x y, rank (x + width, y) = rank (x, y)
  down : ∀ x y, rank (x, y + height) = rank (x, y)
  /-- Every threshold stands in the tile. -/
  ranks : (window (0, 0) width height).image rank = range (width * height)

namespace ThresholdTile

variable (tile : ThresholdTile)

/-- The cells of the plane whose threshold is below a level. -/
def below (level : ℕ) (cells : Finset (ℕ × ℕ)) : Finset (ℕ × ℕ) :=
  cells.filter fun cell => tile.rank cell < level

theorem card_window (corner : ℕ × ℕ) (width height : ℕ) :
    (window corner width height).card = width * height := by
  simp [window]

/-- No threshold stands in the tile twice. -/
theorem rank_injOn : Set.InjOn tile.rank (window (0, 0) tile.width tile.height) := by
  apply injOn_of_card_image_eq
  rw [tile.ranks, card_range, card_window]

theorem card_below_tile {level : ℕ} (small : level ≤ tile.width * tile.height) :
    (tile.below level (window (0, 0) tile.width tile.height)).card = level := by
  have injective : Set.InjOn tile.rank (tile.below level (window (0, 0) tile.width tile.height)) :=
    tile.rank_injOn.mono (coe_subset.mpr (filter_subset _ _))
  have lower : (range (tile.width * tile.height)).filter (· < level) = range level := by
    ext rank
    simp only [mem_filter, mem_range]
    omega
  have image : (tile.below level (window (0, 0) tile.width tile.height)).image tile.rank =
      range level := by
    rw [← lower, ← tile.ranks, filter_image]
    rfl
  rw [← card_image_of_injOn injective, image, card_range]

/-- A window of whole tiles holds each threshold once for each tile, wherever it lies. -/
theorem card_below {level : ℕ} (small : level ≤ tile.width * tile.height) (corner : ℕ × ℕ)
    (columns rows : ℕ) :
    (tile.below level (window corner (columns * tile.width) (rows * tile.height))).card =
      columns * (rows * level) := by
  have counted : ∀ corner width height, (tile.below level (window corner width height)).card =
      ∑ x ∈ Ico corner.1 (corner.1 + width), ∑ y ∈ Ico corner.2 (corner.2 + height),
        if tile.rank (x, y) < level then 1 else 0 := by
    intro corner width height
    rw [below, card_filter, window, sum_product]
  have down : ∀ x, Function.Periodic (fun y => if tile.rank (x, y) < level then 1 else 0)
      tile.height := fun x y => by simp only [tile.down]
  have columnwise : Function.Periodic (fun x => ∑ y ∈ range tile.height,
      if tile.rank (x, y) < level then 1 else 0) tile.width := fun x => by simp only [tile.across]
  have whole := tile.card_below_tile small
  rw [counted] at whole ⊢
  simp only [Nat.zero_add, ← range_eq_Ico] at whole
  simp only [sum_periods (down _), ← mul_sum]
  rw [sum_periods columnwise, whole]
  ring

/-- Light cells of a window of whole tiles: all those with a threshold below `low` and none with a
threshold from `high` on. -/
theorem card_light {corner : ℕ × ℕ} {columns rows low high : ℕ} {light : Finset (ℕ × ℕ)}
    (within : light ⊆ window corner (columns * tile.width) (rows * tile.height))
    (floor : ∀ cell ∈ window corner (columns * tile.width) (rows * tile.height),
      tile.rank cell < low → cell ∈ light)
    (ceiling : ∀ cell ∈ light, tile.rank cell < high) (ordered : low ≤ high)
    (small : high ≤ tile.width * tile.height) :
    columns * (rows * low) ≤ light.card ∧ light.card ≤ columns * (rows * high) := by
  constructor
  · rw [← tile.card_below (ordered.trans small) corner]
    apply card_le_card
    intro cell member
    obtain ⟨inside, dark⟩ := mem_filter.mp member
    exact floor cell inside dark
  · rw [← tile.card_below small corner]
    apply card_le_card
    intro cell member
    exact mem_filter.mpr ⟨within member, ceiling cell member⟩

end ThresholdTile

end Phomemo.Tiling

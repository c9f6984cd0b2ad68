import AimServer.Avatar.Image

/-!
Contract: the size of a scaled picture.

Owns: the sides of the outcome of `resizeToFit` for each factor that may be
taken, and when they are as they should be.

The shorter side of a long picture is rounded down. It becomes 0 when the other
side is more than its limit times as long, and the PNG encoder refuses that.
-/

namespace AimServer

variable {ι : Type} {lib : ImageLibrary ι} {src : ι} {maxW maxH : Nat}

/-! ### The sides -/

theorem resizeToFit_within (width : lib.dx src ≤ maxW) (height : lib.dy src ≤ maxH) :
    resizeToFit lib src maxW maxH = src := by
  unfold resizeToFit
  exact if_pos ⟨width, height⟩

/-- Where the factor of the width is taken. -/
theorem resizeToFit_width (fullW : 1 ≤ lib.dx src) (fullH : 1 ≤ lib.dy src)
    (larger : ¬ (lib.dx src ≤ maxW ∧ lib.dy src ≤ maxH))
    (smaller : maxW * lib.dy src ≤ maxH * lib.dx src) :
    resizeToFit lib src maxW maxH = lib.scale src maxW (lib.dy src * maxW / lib.dx src) := by
  unfold resizeToFit
  dsimp only
  rw [if_neg larger, fitScale_eq fullW fullH, if_neg (not_lt.mpr smaller)]
  dsimp only
  rw [scaledSide_own fullW, scaledSide_div]

/-- Where the factor of the height is taken. -/
theorem resizeToFit_height (fullW : 1 ≤ lib.dx src) (fullH : 1 ≤ lib.dy src)
    (larger : ¬ (lib.dx src ≤ maxW ∧ lib.dy src ≤ maxH))
    (smaller : maxH * lib.dx src < maxW * lib.dy src) :
    resizeToFit lib src maxW maxH = lib.scale src (lib.dx src * maxH / lib.dy src) maxH := by
  unfold resizeToFit
  dsimp only
  rw [if_neg larger, fitScale_eq fullW fullH, if_pos smaller]
  dsimp only
  rw [scaledSide_own fullH, scaledSide_div]

theorem encodePng_ok {m : ι} (width : 1 ≤ lib.dx m) (height : 1 ≤ lib.dy m)
    (wide : lib.dx m < 2 ^ 32) (high : lib.dy m < 2 ^ 32) :
    encodePng lib m = .ok (lib.pngData m) := by
  unfold encodePng
  dsimp only
  rw [if_neg (by omega)]

section Rounding

variable {side other limit otherLimit : Nat}

/-- The other side is there unless the side is too long for it. -/
theorem one_le_rounded_iff (full : 1 ≤ side) : 1 ≤ other * limit / side ↔ side ≤ other * limit := by
  rw [Nat.le_div_iff_mul_le full, Nat.one_mul]

/-- With the smaller factor the other side is within its limit. -/
theorem rounded_le (smaller : limit * other ≤ otherLimit * side) :
    other * limit / side ≤ otherLimit := by
  apply Nat.div_le_of_le_mul
  rw [Nat.mul_comm other, Nat.mul_comm side]
  exact smaller

/-- With the smaller factor the other side is not the long one. -/
theorem le_of_smaller (full : 1 ≤ limit) (smaller : limit * other ≤ otherLimit * side) :
    other ≤ side * otherLimit := by
  calc other ≤ limit * other := Nat.le_mul_of_pos_left _ full
    _ ≤ otherLimit * side := smaller
    _ = side * otherLimit := Nat.mul_comm _ _

end Rounding

/-! ### Good sizes -/

/-- A picture that is scaled as it should be: its sides are there and within the
limits, so that it has PNG data unless a side is too long for it; a picture within
the limits stays, and another one reaches a limit. -/
structure Fits (lib : ImageLibrary ι) (src : ι) (maxW maxH : Nat) (out : ι) : Prop where
  width : 1 ≤ lib.dx out ∧ lib.dx out ≤ maxW
  height : 1 ≤ lib.dy out ∧ lib.dy out ≤ maxH
  encoded : lib.dx out < 2 ^ 32 → lib.dy out < 2 ^ 32 → ∃ png, encodePng lib out = .ok png
  unchanged : lib.dx src ≤ maxW → lib.dy src ≤ maxH → out = src
  limit : ¬ (lib.dx src ≤ maxW ∧ lib.dy src ≤ maxH) → lib.dx out = maxW ∨ lib.dy out = maxH

theorem fits_within (fullW : 1 ≤ lib.dx src) (fullH : 1 ≤ lib.dy src)
    (within : lib.dx src ≤ maxW ∧ lib.dy src ≤ maxH) : Fits lib src maxW maxH src where
  width := ⟨fullW, within.1⟩
  height := ⟨fullH, within.2⟩
  encoded wide high := ⟨_, encodePng_ok fullW fullH wide high⟩
  unchanged _ _ := rfl
  limit larger := absurd within larger

theorem fits_scaled {newW newH : Nat} (larger : ¬ (lib.dx src ≤ maxW ∧ lib.dy src ≤ maxH))
    (width : 1 ≤ newW ∧ newW ≤ maxW) (height : 1 ≤ newH ∧ newH ≤ maxH)
    (reached : newW = maxW ∨ newH = maxH) : Fits lib src maxW maxH (lib.scale src newW newH) where
  width := by
    rw [lib.dx_scale]
    exact width
  height := by
    rw [lib.dy_scale]
    exact height
  encoded := by
    rw [lib.dx_scale, lib.dy_scale]
    intro wide high
    refine ⟨_, encodePng_ok ?_ ?_ ?_ ?_⟩
    · rw [lib.dx_scale]
      exact width.1
    · rw [lib.dy_scale]
      exact height.1
    · rw [lib.dx_scale]
      exact wide
    · rw [lib.dy_scale]
      exact high
  unchanged isWide isHigh := absurd ⟨isWide, isHigh⟩ larger
  limit _ := by
    rw [lib.dx_scale, lib.dy_scale]
    exact reached

/-- A picture is scaled as it should be exactly when no side is more than its limit
times as long as the other one. -/
theorem resized_fits_iff (lib : ImageLibrary ι) (src : ι) (maxW maxH : Nat)
    (fullW : 1 ≤ lib.dx src) (fullH : 1 ≤ lib.dy src) (limitW : 1 ≤ maxW) (limitH : 1 ≤ maxH) :
    Fits lib src maxW maxH (resizeToFit lib src maxW maxH) ↔
      lib.dx src ≤ lib.dy src * maxW ∧ lib.dy src ≤ lib.dx src * maxH := by
  by_cases within : lib.dx src ≤ maxW ∧ lib.dy src ≤ maxH
  · rw [resizeToFit_within within.1 within.2]
    refine iff_of_true (fits_within fullW fullH within) ⟨?_, ?_⟩
    · exact within.1.trans (Nat.le_mul_of_pos_left maxW fullH)
    · exact within.2.trans (Nat.le_mul_of_pos_left maxH fullW)
  · rcases Nat.lt_or_ge (maxH * lib.dx src) (maxW * lib.dy src) with byHeight | byWidth
    · rw [resizeToFit_height fullW fullH within byHeight,
        and_iff_right (le_of_smaller limitH byHeight.le)]
      constructor
      · intro fits
        have width := fits.width.1
        rw [lib.dx_scale] at width
        exact (one_le_rounded_iff fullH).mp width
      · intro long
        exact fits_scaled within ⟨(one_le_rounded_iff fullH).mpr long, rounded_le byHeight.le⟩
          ⟨limitH, le_rfl⟩ (Or.inr rfl)
    · rw [resizeToFit_width fullW fullH within byWidth,
        and_iff_left (le_of_smaller limitW byWidth)]
      constructor
      · intro fits
        have height := fits.height.1
        rw [lib.dy_scale] at height
        exact (one_le_rounded_iff fullW).mp height
      · intro long
        exact fits_scaled within ⟨limitW, le_rfl⟩
          ⟨(one_le_rounded_iff fullW).mpr long, rounded_le byWidth⟩ (Or.inl rfl)

/-! ### A long strip -/

theorem resized_fits_wide :
    Fits .sizes (512, 300) 256 256 (resizeToFit .sizes (512, 300) 256 256) :=
  (resized_fits_iff .sizes (512, 300) 256 256 (by decide) (by decide) (by decide)
    (by decide)).mpr (by decide)

theorem long_strip_not_encoded :
    ¬ Fits .sizes (10000, 1) 256 256 (resizeToFit .sizes (10000, 1) 256 256) ∧
      processImage .sizes (str "10000") 256 256 0 =
        .error (str "编码PNG失败: png: invalid format: invalid image size: 256x0") := by
  have isStrip : resizeToFit .sizes (10000, 1) 256 256 = (256, 0) :=
    @resizeToFit_width _ .sizes (10000, 1) 256 256 (by decide) (by decide) (by decide) (by decide)
  constructor
  · rw [isStrip]
    intro fits
    exact absurd fits.height.1 (by decide)
  · have decoded : ImageLibrary.sizes.decode (str "10000") = .ok (10000, 1) := by decide +kernel
    unfold processImage
    rw [if_neg (by decide), decoded]
    dsimp only
    rw [isStrip]
    decide +kernel

end AimServer

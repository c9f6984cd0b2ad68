import AimServer.Bytes
import Mathlib.Algebra.Order.Floor.Semifield
import Mathlib.Data.Rat.Floor

/-!
Contract: the images of the avatar service.

Owns: the size a picture is scaled to, the sizes `png.Encode` refuses, and the
way from uploaded bytes to PNG bytes with its errors.

Does not own: decoders, scaling of pixels and PNG data, which are a library with
the sizes of its pictures. The arithmetic of `float64` is exact here, and
`int()` rounds down. A limit of 0 on a picture without that side, which is not a
number in `float64`, is left out.
-/

namespace AimServer

/-- The image packages, with pictures of any kind. -/
structure ImageLibrary (ι : Type) where
  decode : Bytes → Except Bytes ι
  dx : ι → Nat
  dy : ι → Nat
  /-- A new picture of a size, onto which another one is scaled. -/
  scale : ι → Nat → Nat → ι
  dx_scale : ∀ src newW newH, dx (scale src newW newH) = newW
  dy_scale : ∀ src newW newH, dy (scale src newW newH) = newH
  pngData : ι → Bytes

/-- Pictures that are only their sizes; the text of a picture is its width, with a
height of one. -/
def ImageLibrary.sizes : ImageLibrary (Nat × Nat) where
  decode data := .ok (decimalValue data, 1)
  dx := Prod.fst
  dy := Prod.snd
  scale _ newW newH := (newW, newH)
  dx_scale _ _ _ := rfl
  dy_scale _ _ _ := rfl
  pngData m := decimalText m.1 ++ 120 :: decimalText m.2

/-- `float64(limit) / float64(size)`; `none` is +Inf. -/
def scaleOf (limit size : Nat) : Option ℚ :=
  if size = 0 then none else some (limit / size)

/-- `scale` after the comparison with `hScale`. -/
def fitScale (srcW srcH maxW maxH : Nat) : Option ℚ :=
  match scaleOf maxW srcW, scaleOf maxH srcH with
  | scale, none => scale
  | none, some hScale => some hScale
  | some scale, some hScale => if hScale < scale then some hScale else some scale

/-- `int(float64(side) * scale)`. -/
def scaledSide (side : Nat) (scale : ℚ) : Nat :=
  ⌊side * scale⌋₊

section Library

variable {ι : Type} (lib : ImageLibrary ι)

def resizeToFit (src : ι) (maxW maxH : Nat) : ι :=
  let srcW := lib.dx src
  let srcH := lib.dy src
  if srcW ≤ maxW ∧ srcH ≤ maxH then src
  else
    match fitScale srcW srcH maxW maxH with
    | none => src -- Two sides of 0 are within every limit.
    | some scale => lib.scale src (scaledSide srcW scale) (scaledSide srcH scale)

/-- `png.Encode` refuses empty pictures and those with a side from 2^32 on. -/
def encodePng (m : ι) : Except Bytes Bytes :=
  let mw := lib.dx m
  let mh := lib.dy m
  if mw = 0 ∨ mh = 0 ∨ 2 ^ 32 ≤ mw ∨ 2 ^ 32 ≤ mh then
    .error (str "png: invalid format: invalid image size: " ++ intText mw ++ 120 :: intText mh)
  else .ok (lib.pngData m)

def processImage (data : Bytes) (maxW maxH : Nat) (maxSize : Int) : Except Bytes Bytes :=
  if 0 < maxSize ∧ maxSize < data.length then
    .error (str "文件过大，最大 " ++ intText (maxSize / (1024 * 1024)) ++ str "MB")
  else
    match lib.decode data with
    | .error message => .error (str "图片解码失败: " ++ message)
    | .ok img =>
        match encodePng lib (resizeToFit lib img maxW maxH) with
        | .error message => .error (str "编码PNG失败: " ++ message)
        | .ok png => .ok png

end Library

/-! ### The arithmetic of a fitting scale -/

theorem scaledSide_div (side limit size : Nat) :
    scaledSide side (limit / size) = side * limit / size := by
  rw [scaledSide, ← mul_div_assoc, ← Nat.cast_mul]
  exact Nat.floor_div_eq_div (side * limit) size

/-- The side whose factor is taken has the length of its limit. -/
theorem scaledSide_own {side : Nat} (positive : 0 < side) (limit : Nat) :
    scaledSide side (limit / side) = limit := by
  rw [scaledSide_div, Nat.mul_div_cancel_left limit positive]

/-- For sides that are not empty the smaller factor is taken. -/
theorem fitScale_eq {srcW srcH : Nat} (width : 0 < srcW) (height : 0 < srcH) (maxW maxH : Nat) :
    fitScale srcW srcH maxW maxH =
      some (if maxH * srcW < maxW * srcH then (maxH / srcH : ℚ) else maxW / srcW) := by
  have smaller : (maxH / srcH : ℚ) < maxW / srcW ↔ maxH * srcW < maxW * srcH := by
    rw [div_lt_div_iff₀ (Nat.cast_pos.mpr height) (Nat.cast_pos.mpr width)]
    norm_cast
  rw [fitScale, scaleOf, scaleOf, if_neg width.ne', if_neg height.ne']
  dsimp only
  rw [← apply_ite some]
  simp only [smaller]

end AimServer

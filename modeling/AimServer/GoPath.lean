import AimServer.GoText

/-!
Contract: file names and paths as the Go standard library cuts them.

Owns: `path.Base`, `filepath.Ext` on a system whose separator is a slash,
`strings.TrimPrefix` and `strings.TrimSpace`.

Does not own: `strings.ToLower`, which is a parameter where it is used.
-/

namespace AimServer

/-- `path.Base`. -/
def pathBase (path : Bytes) : Bytes :=
  if path = [] then str "."
  else
    let last := ((trimRight 47 path).reverse.takeWhile (· ≠ 47)).reverse
    if last = [] then str "/" else last

/-- `filepath.Ext`: from the last dot of the last element. -/
def pathExt (path : Bytes) : Bytes :=
  let last := path.reverse.takeWhile (· ≠ 47)
  if 46 ∈ last then 46 :: (last.takeWhile (· ≠ 46)).reverse else []

/-- `strings.TrimPrefix(text, start)`. -/
def trimStart (start text : Bytes) : Bytes :=
  if start <+: text then text.drop start.length else text

/-- The text before a white-space character at its end. -/
def beforeSpace (text : Bytes) : Option Bytes :=
  (whiteSpace.find? fun space => space <:+ text).map fun space =>
    text.take (text.length - space.length)

/-- A cut made as long as it finds something, up to so many times. -/
def cutWhile (cut : Bytes → Option Bytes) : Nat → Bytes → Bytes
  | 0, text => text
  | fuel + 1, text =>
      match cut text with
      | none => text
      | some rest => cutWhile cut fuel rest

/-- `strings.TrimSpace`. -/
def trimSpace (text : Bytes) : Bytes :=
  let left := cutWhile afterSpace text.length text
  cutWhile beforeSpace left.length left

example : trimSpace (str " \ta b　\n") = str "a b" := by decide +kernel

example : pathExt (str "a.b/photo.tar.JPG") = str ".JPG" ∧ pathExt (str "a.b/photo") = [] := by
  decide +kernel

/-- The last element of a path is what follows the slash. -/
theorem pathBase_append {dir name : Bytes} (plain : 47 ∉ name) (nonempty : name ≠ []) :
    pathBase (dir ++ 47 :: name) = name := by
  have reversed : (dir ++ 47 :: name).reverse = name.reverse ++ 47 :: dir.reverse := by
    rw [List.reverse_append, List.reverse_cons, List.append_assoc]
    rfl
  have plainReversed : ∀ c ∈ name.reverse, decide (c ≠ 47) = true := by
    intro c member
    refine decide_eq_true ?_
    rintro rfl
    exact plain (List.mem_reverse.mp member)
  have untrimmed : trimRight 47 (dir ++ 47 :: name) = dir ++ 47 :: name := by
    rw [trimRight, reversed]
    cases isName : name.reverse with
    | nil => exact absurd (List.reverse_eq_nil_iff.mp isName) nonempty
    | cons first rest =>
        rw [isName] at plainReversed
        have other := of_decide_eq_true (plainReversed first List.mem_cons_self)
        have kept : ((first :: rest) ++ 47 :: dir.reverse).dropWhile (· = 47) =
            (first :: rest) ++ 47 :: dir.reverse := by
          simp [other]
        rw [kept, ← isName, ← reversed, List.reverse_reverse]
  have last : (dir ++ 47 :: name).reverse.takeWhile (· ≠ 47) = name.reverse := by
    rw [reversed, List.takeWhile_append_of_pos plainReversed]
    simp
  have notEmpty : dir ++ 47 :: name ≠ [] :=
    List.append_ne_nil_of_right_ne_nil _ (List.cons_ne_nil _ _)
  rw [pathBase, if_neg notEmpty, untrimmed, last, List.reverse_reverse, if_neg nonempty]

end AimServer

import Mathlib.Logic.Function.Iterate
import Mathlib.Order.Monotone.Basic

/-!
Contract: dates of the Gregorian calendar.

Owns: years, months and days, the date of a day number in both directions
from 1 January 1970, and that different days have different dates.

Does not own: clocks, time zones, and the text of a date.
-/

namespace AimServer.Lib

structure CivilDate where
  year : Int
  month : Nat
  day : Nat
deriving DecidableEq, Repr

namespace CivilDate

def isLeap (year : Int) : Bool :=
  year % 4 = 0 ∧ (year % 100 ≠ 0 ∨ year % 400 = 0)

def monthLength (year : Int) (month : Nat) : Nat :=
  if month = 2 then (if isLeap year then 29 else 28)
  else if month = 4 ∨ month = 6 ∨ month = 9 ∨ month = 11 then 30
  else 31

def tomorrow (date : CivilDate) : CivilDate :=
  if date.day < monthLength date.year date.month then { date with day := date.day + 1 }
  else if date.month < 12 then ⟨date.year, date.month + 1, 1⟩
  else ⟨date.year + 1, 1, 1⟩

def yesterday (date : CivilDate) : CivilDate :=
  if 1 < date.day then { date with day := date.day - 1 }
  else if 1 < date.month then ⟨date.year, date.month - 1, monthLength date.year (date.month - 1)⟩
  else ⟨date.year - 1, 12, 31⟩

def epoch : CivilDate := ⟨1970, 1, 1⟩

/-- The date of a day, counted from 1 January 1970. -/
def ofDay : Int → CivilDate
  | .ofNat days => tomorrow^[days] epoch
  | .negSucc days => yesterday^[days + 1] epoch

example : ofDay 789 = ⟨1972, 2, 29⟩ ∧ ofDay (-1) = ⟨1969, 12, 31⟩ := by decide +kernel

structure Valid (date : CivilDate) : Prop where
  month : 1 ≤ date.month ∧ date.month ≤ 12
  day : 1 ≤ date.day ∧ date.day ≤ 31

theorem monthLength_bounds (year : Int) (month : Nat) :
    28 ≤ monthLength year month ∧ monthLength year month ≤ 31 := by
  unfold monthLength
  split
  · split <;> omega
  · split <;> omega

theorem tomorrow_valid {date : CivilDate} (valid : Valid date) : Valid (tomorrow date) := by
  obtain ⟨month, day⟩ := valid
  have bounds := monthLength_bounds date.year date.month
  unfold tomorrow
  split
  · exact ⟨month, by dsimp only; omega⟩
  · split
    · exact ⟨by dsimp only; omega, by dsimp only; omega⟩
    · exact ⟨by dsimp only; omega, by dsimp only; omega⟩

theorem yesterday_valid {date : CivilDate} (valid : Valid date) : Valid (yesterday date) := by
  obtain ⟨month, day⟩ := valid
  have bounds := monthLength_bounds date.year (date.month - 1)
  unfold yesterday
  split
  · exact ⟨month, by dsimp only; omega⟩
  · split
    · exact ⟨by dsimp only; omega, by dsimp only; omega⟩
    · exact ⟨by dsimp only; omega, by dsimp only; omega⟩

theorem epoch_valid : Valid epoch := ⟨by decide, by decide⟩

theorem ofDay_valid (day : Int) : Valid (ofDay day) := by
  cases day with
  | ofNat days => exact Function.Iterate.rec Valid epoch_valid (fun _ => tomorrow_valid) days
  | negSucc days => exact Function.Iterate.rec Valid epoch_valid (fun _ => yesterday_valid) _

/-! ### Different days -/

/-- A number that grows from each date to the next. -/
def rank (date : CivilDate) : Int :=
  (date.year * 12 + date.month) * 32 + date.day

theorem rank_tomorrow {date : CivilDate} (valid : Valid date) :
    date.rank < (tomorrow date).rank := by
  obtain ⟨month, day⟩ := valid
  unfold tomorrow rank
  split
  · dsimp only
    omega
  · split
    · dsimp only
      omega
    · dsimp only
      omega

theorem rank_yesterday {date : CivilDate} (valid : Valid date) :
    (yesterday date).rank < date.rank := by
  obtain ⟨month, day⟩ := valid
  have bounds := monthLength_bounds date.year (date.month - 1)
  unfold yesterday rank
  split
  · dsimp only
    omega
  · split
    · dsimp only
      omega
    · dsimp only
      omega

theorem rank_ofDay_succ (day : Int) : (ofDay day).rank < (ofDay (day + 1)).rank := by
  cases day with
  | ofNat days =>
      have next : ofDay (Int.ofNat days + 1) = tomorrow (ofDay (Int.ofNat days)) :=
        Function.iterate_succ_apply' tomorrow days epoch
      rw [next]
      exact rank_tomorrow (ofDay_valid _)
  | negSucc days =>
      have previous : ofDay (Int.negSucc days) = yesterday (ofDay (Int.negSucc days + 1)) := by
        cases days with
        | zero => rfl
        | succ days => exact Function.iterate_succ_apply' yesterday (days + 1) epoch
      rw [previous]
      exact rank_yesterday (ofDay_valid _)

/-- Different days have different dates. -/
theorem ofDay_injective : Function.Injective ofDay := by
  have increasing : StrictMono fun day => (ofDay day).rank :=
    strictMono_int_of_lt_succ rank_ofDay_succ
  intro first second same
  exact increasing.injective (congrArg rank same)

end CivilDate

end AimServer.Lib

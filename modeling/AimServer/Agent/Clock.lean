import AimServer.GoText
import AimServer.Lib.Calendar
import Mathlib.Tactic.Linarith

/-!
Contract: the clock of the agent service.

Owns: instants, the local calendar day of an instant in the time zone of the
process, and the text `Format("20060102")` gives it.

Instants and durations are nanoseconds since 1 January 1970 UTC. The zone is
data of the machine the service runs on: an offset from UTC at each instant,
which may jump.
-/

namespace AimServer

open AimServer.Lib

def second : Int := 1000000000

def hour : Int := 3600 * second

/-- The time zone of the process. A calendar day lasts less than two days, even
where the zone moves by one. -/
structure Zone where
  offset : Int → Int
  shortDays : ∀ earlier later, (earlier + offset earlier) / (24 * hour) =
    (later + offset later) / (24 * hour) → later < earlier + 48 * hour

namespace Zone

/-- The number of the local day. -/
def localDay (zone : Zone) (now : Int) : Int :=
  (now + zone.offset now) / (24 * hour)

/-- A zone without jumps. -/
def fixed (offset : Int) : Zone where
  offset := fun _ => offset
  shortDays := by
    intro earlier later sameDay
    have positive : (0 : Int) < 24 * hour := by decide
    have first := Int.ediv_mul_le (earlier + offset) positive.ne'
    have last := Int.lt_ediv_add_one_mul_self (later + offset) positive
    rw [← sameDay] at last
    have twice : 48 * hour = 24 * hour + 24 * hour := by decide
    rw [twice]
    linarith

end Zone

/-- `Format("20060102")` of a date. -/
def dateText (date : CivilDate) : Bytes :=
  (if date.year < 0 then [45] else []) ++ paddedText 4 date.year.natAbs ++
    paddedText 2 date.month ++ paddedText 2 date.day

/-- `time.Now().Format("20060102")`. -/
def today (zone : Zone) (now : Int) : Bytes :=
  dateText (.ofDay (zone.localDay now))

example : today (.fixed (8 * hour)) (20 * hour) = str "19700102" := by decide +kernel

/-! ### Different days -/

theorem length_paddedText_two : ∀ n < 100, (paddedText 2 n).length = 2 := by decide +kernel

theorem dateText_injective {first second : CivilDate} (firstValid : first.Valid)
    (secondValid : second.Valid) (same : dateText first = dateText second) : first = second := by
  have twoDigits : ∀ {date : CivilDate}, date.Valid →
      (paddedText 2 date.month).length = 2 ∧ (paddedText 2 date.day).length = 2 := by
    intro date valid
    exact ⟨length_paddedText_two _ (by have := valid.month; omega),
      length_paddedText_two _ (by have := valid.day; omega)⟩
  have firstDigits := twoDigits firstValid
  have secondDigits := twoDigits secondValid
  unfold dateText at same
  obtain ⟨sameMonths, sameDay⟩ := List.append_inj' same (firstDigits.2.trans secondDigits.2.symm)
  obtain ⟨sameYears, sameMonth⟩ :=
    List.append_inj' sameMonths (firstDigits.1.trans secondDigits.1.symm)
  have sameYear : first.year = second.year := by
    by_cases firstNegative : first.year < 0
    · by_cases secondNegative : second.year < 0
      · rw [if_pos firstNegative, if_pos secondNegative] at sameYears
        have sameAbs := paddedText_injective 4 (List.append_cancel_left sameYears)
        omega
      · rw [if_pos firstNegative, if_neg secondNegative] at sameYears
        exact absurd sameYears.symm (paddedText_ne_sign _ _ _)
    · by_cases secondNegative : second.year < 0
      · rw [if_neg firstNegative, if_pos secondNegative] at sameYears
        exact absurd sameYears (paddedText_ne_sign _ _ _)
      · rw [if_neg firstNegative, if_neg secondNegative] at sameYears
        have sameAbs := paddedText_injective 4 sameYears
        omega
  obtain ⟨year, month, day⟩ := first
  obtain ⟨year', month', day'⟩ := second
  cases sameYear
  cases paddedText_injective 2 sameMonth
  cases paddedText_injective 2 sameDay
  rfl

/-- The text of the day tells the days of a zone apart. -/
theorem today_eq_iff {zone : Zone} {first second : Int} :
    today zone first = today zone second ↔ zone.localDay first = zone.localDay second := by
  constructor
  · intro same
    exact CivilDate.ofDay_injective
      (dateText_injective (CivilDate.ofDay_valid _) (CivilDate.ofDay_valid _) same)
  · intro same
    rw [today, same, today]

end AimServer

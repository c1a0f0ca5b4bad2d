import Formulary.Proofs.Calendar.Date
import Mathlib.Tactic.IntervalCases

/-!
# The Gregorian calendar

The calendar is told by the lengths of its months (`Gregorian.IsDay`).  A text has the shape of a wire form if it is the
wire form of some numbers, and it names a day if these numbers are one; then and only then it is read as a date, and as
this day (`Date.names_of_ofIso?`, `Date.Names.exists_ofIso?`).
-/

namespace Formulary

namespace Gregorian

/-- The years that are divided by four, but of the full centuries only those that are divided by 400. -/
def IsLeap (year : Int) : Prop := 4 ∣ year ∧ (100 ∣ year → 400 ∣ year)

instance (year : Int) : Decidable (IsLeap year) := inferInstanceAs (Decidable (_ ∧ (_ → _)))

/-- The lengths of the months of a year, in their order. -/
def monthLengths (year : Int) : List Nat :=
  [31, if IsLeap year then 29 else 28, 31, 30, 31, 30, 31, 31, 30, 31, 30, 31]

/-- There is a day with these numbers. -/
structure IsDay (year : Int) (month day : Nat) : Prop where
  month_pos : 1 ≤ month
  day_pos : 1 ≤ day
  day_le : ∃ length ∈ (monthLengths year)[month - 1]?, day ≤ length

variable {year : Int} {month day : Nat}

theorem length_monthLengths (year : Int) : (monthLengths year).length = 12 := rfl

theorem isLeapYear_iff : isLeapYear year = true ↔ IsLeap year := by
  simp only [isLeapYear, IsLeap, Bool.and_eq_true, Bool.or_eq_true, beq_iff_eq, bne_iff_ne]
  omega

theorem monthLengths_getElem? (h : 1 ≤ month ∧ month ≤ 12) :
    (monthLengths year)[month - 1]? = some (daysInMonth year month) := by
  have hleap : (if isLeapYear year then 29 else 28) = if IsLeap year then 29 else 28 := by
    simp only [isLeapYear_iff]
  obtain ⟨hpos, hle⟩ := h
  interval_cases month
  all_goals first | rfl | exact congrArg some hleap.symm

theorem isDay_iff : IsDay year month day ↔ (1 ≤ month ∧ month ≤ 12) ∧ 1 ≤ day ∧ day ≤ daysInMonth year month := by
  constructor
  · rintro ⟨hmonth, hday, length, hlength, hle⟩
    obtain ⟨hlt, -⟩ := List.getElem?_eq_some_iff.1 hlength
    rw [length_monthLengths] at hlt
    have hmonth' : 1 ≤ month ∧ month ≤ 12 := by omega
    rw [monthLengths_getElem? hmonth', Option.mem_some_iff] at hlength
    exact ⟨hmonth', hday, hlength ▸ hle⟩
  · rintro ⟨hmonth, hday, hle⟩
    exact ⟨hmonth.1, hday, _, monthLengths_getElem? hmonth, hle⟩

end Gregorian

namespace Date

open Gregorian

/-- A text of the shape of a wire form, whatever its numbers. -/
def HasShape (value : String) : Prop :=
  ∃ year month day : Nat, (year < 10000 ∧ month < 100 ∧ day < 100) ∧ value = wireForm year month day

/-- A text that is the wire form of a day. -/
structure Names (value : String) (year month day : Nat) : Prop where
  isDay : IsDay year month day
  year_le : year ≤ 9999
  eq_wireForm : value = wireForm year month day

variable {value : String} {year month day : Nat}

theorem ofNumbers?_eq_none_iff (hyear : year ≤ 9999) : ofNumbers? year month day = none ↔ ¬ IsDay year month day := by
  have hcalendar : firstYear ≤ (year : Int) ∧ (year : Int) ≤ lastYear := by unfold firstYear lastYear; omega
  rw [isDay_iff, ofNumbers?, dite_eq_right_iff]
  simp [hcalendar]

theorem isoDigits?_eq_none_iff : isoDigits? value.toList = none ↔ ¬ HasShape value := by
  constructor
  · rintro h ⟨year, month, day, ⟨hyear, hmonth, hday⟩, rfl⟩
    rw [isoDigits?_wireForm hyear hmonth hday] at h
    cases h
  · intro h
    by_contra hne
    obtain ⟨⟨year, month, day⟩, hdigits⟩ := Option.ne_none_iff_exists'.1 hne
    obtain ⟨hlt, heq⟩ := eq_wireForm_of_isoDigits? hdigits
    exact h ⟨_, _, _, hlt, heq⟩

namespace Names

theorem hasShape (h : Names value year month day) : HasShape value := by
  obtain ⟨hmonth, -, hday⟩ := isDay_iff.1 h.isDay
  have hlength := daysInMonth_le year month
  have hyear := h.year_le
  exact ⟨year, month, day, by omega, h.eq_wireForm⟩

/-- A text that names a day is read as this day. -/
theorem exists_ofIso? (h : Names value year month day) :
    ∃ d : Date, ofIso? value = some d ∧ d.year = year ∧ d.month = month ∧ d.day = day := by
  have hday := isDay_iff.1 h.isDay
  have hlength := daysInMonth_le year month
  have hyear := h.year_le
  have hne : ofNumbers? year month day ≠ none := fun he => (ofNumbers?_eq_none_iff hyear).1 he h.isDay
  obtain ⟨d, hd⟩ := Option.ne_none_iff_exists'.1 hne
  refine ⟨d, ?_, ofNumbers?_eq_some hd⟩
  rw [h.eq_wireForm, ofIso?_wireForm (by omega) (by omega) (by omega), hd]

end Names

/-- A text that is read as a day names it. -/
theorem names_of_ofIso? {d : Date} (h : ofIso? value = some d) : Names value d.year.toNat d.month d.day := by
  obtain ⟨hyear, rfl⟩ := ofIso?_eq_some_iff.1 h
  have hnat : ((d.year.toNat : Nat) : Int) = d.year := Int.toNat_of_nonneg hyear.1
  refine ⟨?_, by omega, rfl⟩
  rw [hnat]
  exact isDay_iff.2 ⟨d.month_mem, d.day_mem⟩

theorem ofIso?_eq_none_iff : ofIso? value = none ↔ ∀ year month day, ¬ Names value year month day := by
  constructor
  · intro h year month day hnames
    obtain ⟨d, hd, -⟩ := hnames.exists_ofIso?
    rw [h] at hd
    cases hd
  · intro h
    by_contra hne
    obtain ⟨d, hd⟩ := Option.ne_none_iff_exists'.1 hne
    exact h _ _ _ (names_of_ofIso? hd)

/-- A wire form has no white space. -/
theorem not_mem_of_ofIso? {d : Date} (h : ofIso? value = some d) : ' ' ∉ value.toList := by
  have hdigit (width n : Nat) : ' ' ∉ Numeral.padded width n := fun hm => by
    cases Numeral.isDigit_of_mem_padded hm
  rw [(names_of_ofIso? h).eq_wireForm, toList_wireForm]
  simp [hdigit]

end Date

end Formulary

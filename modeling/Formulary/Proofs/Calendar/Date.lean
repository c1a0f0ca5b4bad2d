import Formulary.Calendar.Date
import Formulary.Proofs.Text.Numeral

/-!
# Reading dates back

The day after a day has this day before it (`Date.next?_eq_some_iff`).  The wire form of a date is read as this date, and
no other text is (`Date.ofIso?_eq_some_iff`).
-/

namespace Formulary

theorem daysInMonth_le (year : Int) (month : Nat) : daysInMonth year month ≤ 31 := by
  unfold daysInMonth
  grind

namespace Date

theorem ofNumbers?_self (d : Date) : ofNumbers? d.year d.month d.day = some d :=
  dif_pos ⟨d.year_mem, d.month_mem, d.day_mem⟩

variable {s : String} {d e : Date} {cs year month day : List Char}

theorem isoDigits?_eq_some_iff : isoDigits? cs = some (year, month, day) ↔
    (year.length = 4 ∧ month.length = 2 ∧ day.length = 2) ∧ (∀ c ∈ year ++ month ++ day, c.isDigit = true) ∧
      cs = year ++ '-' :: month ++ '-' :: day := by
  constructor
  · intro h
    unfold isoDigits? at h
    split at h
    · split at h
      · rename_i hall
        obtain ⟨rfl, rfl, rfl⟩ : _ = year ∧ _ = month ∧ _ = day := by simpa using h
        exact ⟨⟨rfl, rfl, rfl⟩, List.all_eq_true.1 hall, rfl⟩
      · cases h
    · cases h
  · rintro ⟨⟨hyear, hmonth, hday⟩, hdigits, rfl⟩
    match year, month, day, hyear, hmonth, hday with
    | [_, _, _, _], [_, _], [_, _], _, _, _ => exact if_pos (List.all_eq_true.2 hdigits)

theorem ofNumbers?_eq_some {year : Int} {month day : Nat} (h : ofNumbers? year month day = some d) :
    d.year = year ∧ d.month = month ∧ d.day = day := by
  unfold ofNumbers? at h
  split at h
  · cases h
    exact ⟨rfl, rfl, rfl⟩
  · cases h

/-! ### The day after -/

theorem previous?_of_next? (h : d.next? = some e) : e.previous? = some d := by
  have hday := d.day_mem
  have hmonth := d.month_mem
  unfold next? at h
  unfold previous?
  -- the day after lies in the same month, in the next one, or in the next year
  split at h
  case isTrue hlt =>
    obtain ⟨hy, hm, hd⟩ := ofNumbers?_eq_some h
    have hsame : e.day - 1 = d.day := by omega
    rw [if_pos (by omega), hy, hm, hsame, ofNumbers?_self]
  case isFalse hlast =>
    split at h
    case isTrue hlt =>
      obtain ⟨hy, hm, hd⟩ := ofNumbers?_eq_some h
      have hsame : e.month - 1 = d.month := by omega
      have hend : daysInMonth d.year d.month = d.day := by omega
      rw [if_neg (by omega), if_pos (by omega), hy, hsame, hend, ofNumbers?_self]
    case isFalse hlastMonth =>
      obtain ⟨hy, hm, hd⟩ := ofNumbers?_eq_some h
      have hsame : e.year - 1 = d.year := by omega
      have hdecember : d.month = 12 := by omega
      rw [hdecember] at hlast hday
      have hend : d.day = 31 := Nat.le_antisymm hday.2 (Nat.not_lt.1 hlast)
      rw [if_neg (by omega), if_neg (by omega), hsame, ← hend, ← hdecember, ofNumbers?_self]

theorem next?_of_previous? (h : e.previous? = some d) : d.next? = some e := by
  have hday := e.day_mem
  have hmonth := e.month_mem
  unfold previous? at h
  unfold next?
  -- the day before lies in the same month, in the one before, or in the year before
  split at h
  case isTrue hlt =>
    obtain ⟨hy, hm, hd⟩ := ofNumbers?_eq_some h
    have hsame : d.day + 1 = e.day := by omega
    rw [hy, hm, if_pos (by omega), hsame, ofNumbers?_self]
  case isFalse hfirst =>
    have hone : e.day = 1 := by omega
    split at h
    case isTrue hlt =>
      obtain ⟨hy, hm, hd⟩ := ofNumbers?_eq_some h
      have hsame : d.month + 1 = e.month := by omega
      rw [← hm, ← hy] at hd
      rw [if_neg (by omega), if_pos (by omega), hy, hsame, ← hone, ofNumbers?_self]
    case isFalse hfirstMonth =>
      obtain ⟨hy, hm, hd⟩ := ofNumbers?_eq_some h
      have hsame : d.year + 1 = e.year := by omega
      have hjanuary : e.month = 1 := by omega
      have hend : ¬ d.day < daysInMonth d.year 12 := Nat.not_lt.2 (Nat.le_of_eq hd.symm)
      have hself := e.ofNumbers?_self
      rw [hjanuary, hone] at hself
      rw [hm, if_neg hend, if_neg (by decide), hsame, hself]

/-- One day comes after another if and only if the other comes before it. -/
theorem next?_eq_some_iff : d.next? = some e ↔ e.previous? = some d := ⟨previous?_of_next?, next?_of_previous?⟩

/-- The second date is the first one, the one after or the one before it. -/
inductive Apart : Date → Int → Date → Prop
  | same (d : Date) : Apart d 0 d
  | next {d e : Date} (h : d.next? = some e) : Apart d 1 e
  | previous {d e : Date} (h : d.previous? = some e) : Apart d (-1) e

theorem Apart.symm {days : Int} (h : Apart d days e) : Apart e (-days) d := by
  cases h with
  | same => exact .same d
  | next h => exact .previous (next?_eq_some_iff.1 h)
  | previous h => exact .next (next?_eq_some_iff.2 h)

/-! ### The wire form -/

/-- Year, month and day with leading zeros to four, two and two digits, and hyphens between. -/
def wireForm (year month day : Nat) : String :=
  String.ofList (Numeral.padded 4 year ++ '-' :: Numeral.padded 2 month ++ '-' :: Numeral.padded 2 day)

theorem toList_wireForm (year month day : Nat) :
    (wireForm year month day).toList
      = Numeral.padded 4 year ++ '-' :: Numeral.padded 2 month ++ '-' :: Numeral.padded 2 day :=
  String.toList_ofList

theorem isoDigits?_wireForm {year month day : Nat} (hyear : year < 10 ^ 4) (hmonth : month < 10 ^ 2)
    (hday : day < 10 ^ 2) :
    isoDigits? (wireForm year month day).toList
      = some (Numeral.padded 4 year, Numeral.padded 2 month, Numeral.padded 2 day) := by
  refine isoDigits?_eq_some_iff.2 ⟨⟨?_, ?_, ?_⟩, ?_, ?_⟩
  · exact Numeral.length_padded (by decide) hyear
  · exact Numeral.length_padded (by decide) hmonth
  · exact Numeral.length_padded (by decide) hday
  · intro c hc
    simp only [List.mem_append] at hc
    rcases hc with (hc | hc) | hc
    all_goals exact Numeral.isDigit_of_mem_padded hc
  · rw [toList_wireForm, List.append_assoc, List.cons_append]

/-- Numbers of at most four, two and two digits are read back, whether or not they are a day. -/
theorem ofIso?_wireForm {year month day : Nat} (hyear : year < 10 ^ 4) (hmonth : month < 10 ^ 2) (hday : day < 10 ^ 2) :
    ofIso? (wireForm year month day) = ofNumbers? year month day := by
  rw [ofIso?, isoDigits?_wireForm hyear hmonth hday, Option.bind_eq_bind, Option.bind_some]
  simp only [Numeral.value_padded]

/-- Where there are the digits of a date, they are those of the numbers for which they stand. -/
theorem eq_wireForm_of_isoDigits? (h : isoDigits? s.toList = some (year, month, day)) :
    (Numeral.value year < 10 ^ 4 ∧ Numeral.value month < 10 ^ 2 ∧ Numeral.value day < 10 ^ 2) ∧
      s = wireForm (Numeral.value year) (Numeral.value month) (Numeral.value day) := by
  obtain ⟨⟨hyear, hmonth, hday⟩, hdigits, hs⟩ := isoDigits?_eq_some_iff.1 h
  simp only [List.mem_append, or_imp, forall_and] at hdigits
  obtain ⟨⟨hydigits, hmdigits⟩, hddigits⟩ := hdigits
  have hypad := Numeral.padded_value (List.ne_nil_of_length_pos (by omega)) hydigits
  have hmpad := Numeral.padded_value (List.ne_nil_of_length_pos (by omega)) hmdigits
  have hdpad := Numeral.padded_value (List.ne_nil_of_length_pos (by omega)) hddigits
  rw [hyear] at hypad
  rw [hmonth] at hmpad
  rw [hday] at hdpad
  refine ⟨⟨hyear ▸ Numeral.value_lt hydigits, hmonth ▸ Numeral.value_lt hmdigits, hday ▸ Numeral.value_lt hddigits⟩, ?_⟩
  refine String.toList_inj.1 ?_
  rw [toList_wireForm, hypad, hmpad, hdpad, hs, List.append_assoc, List.cons_append]

/-- A text names a date if and only if it is its wire form, and the year has no more than four digits. -/
theorem ofIso?_eq_some_iff : ofIso? s = some d ↔ (0 ≤ d.year ∧ d.year ≤ 9999) ∧ d.iso = s := by
  constructor
  · intro h
    obtain ⟨⟨year, month, day⟩, hiso, h⟩ := Option.bind_eq_some_iff.1 h
    obtain ⟨⟨hlt, -, -⟩, hs⟩ := eq_wireForm_of_isoDigits? hiso
    obtain ⟨hy, hm, hd⟩ := ofNumbers?_eq_some h
    refine ⟨by omega, ?_⟩
    rw [hs, iso, hy, hm, hd, Int.toNat_natCast, wireForm]
  · rintro ⟨hyear, rfl⟩
    have hmonth : d.month < 10 ^ 2 := by have := d.month_mem; omega
    have hday : d.day < 10 ^ 2 := by have := d.day_mem; have := daysInMonth_le d.year d.month; omega
    have hnat : ((d.year.toNat : Nat) : Int) = d.year := Int.toNat_of_nonneg hyear.1
    have hlt : d.year.toNat < 10000 := by omega
    have hread := ofIso?_wireForm hlt hmonth hday
    rw [hnat, ofNumbers?_self] at hread
    exact hread

end Date

end Formulary

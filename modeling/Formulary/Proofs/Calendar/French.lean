import Formulary.Calendar.French
import Formulary.Proofs.Calendar.Gregorian
import Formulary.Proofs.Text.Split
import Mathlib.Data.List.GetD
import Mathlib.Data.List.Nodup

/-!
# French texts for dates and months

The long form of a date is the day, the name of the month and the year, and the label of a month its abbreviation and
the year, none of the numbers with leading zeros (`French.fullDate_eq`, `French.shortMonth_eq`).  What is shown for a
value is no wire form, so that nothing else is shown for it in turn (`French.display_display`).

Neither numbers nor names have spaces, so that the spaces of such a text give its words back (`French.split_fullDate`,
`French.split_shortMonth`).  The words determine the date or the month (`French.fullDate_injective`,
`French.shortMonth_injective`).
-/

namespace Formulary

namespace French

/-- The names of the months, in their order. -/
def monthNames : List String :=
  ["janvier", "février", "mars", "avril", "mai", "juin", "juillet", "août", "septembre", "octobre", "novembre",
    "décembre"]

/-- The abbreviations of the months, in their order. -/
def monthAbbreviations : List String :=
  ["Jan", "Fév", "Mar", "Avr", "Mai", "Juin", "Juil", "Août", "Sep", "Oct", "Nov", "Déc"]

/-- Day, month and year with spaces between. -/
def longForm (year : Int) (month day : Nat) : String :=
  toString day ++ " " ++ monthNames.getD (month - 1) "" ++ " " ++ toString year

variable {value : String} {names : List String} {year month month' day : Nat}

theorem monthNames_getD (h : 1 ≤ month ∧ month ≤ 12) : monthNames.getD (month - 1) "" = monthName month := by
  obtain ⟨hpos, hle⟩ := h
  interval_cases month
  all_goals rfl

theorem monthAbbreviations_getD (h : 1 ≤ month ∧ month ≤ 12) :
    monthAbbreviations.getD (month - 1) "" = monthAbbreviation month := by
  obtain ⟨hpos, hle⟩ := h
  interval_cases month
  all_goals rfl

theorem fullDate_eq (d : Date) : fullDate d = longForm d.year d.month d.day := by
  refine String.toList_inj.1 ?_
  rw [longForm, monthNames_getD d.month_mem]
  simp only [fullDate, String.toList_ofList, String.toList_append, Numeral.toList_toString_nat,
    Numeral.toList_toString_int, List.append_assoc]
  rfl

theorem shortMonth_eq (m : Month) :
    shortMonth m = monthAbbreviations.getD (m.number - 1) "" ++ " " ++ toString m.year := by
  refine String.toList_inj.1 ?_
  rw [monthAbbreviations_getD m.number_mem]
  simp only [shortMonth, String.toList_ofList, String.toList_append, Numeral.toList_toString_int, List.append_assoc]
  rfl

/-! ### Words -/

/-- Months with distinct names are told apart by them. -/
theorem eq_of_getD_eq (hnames : names.Nodup) (hlength : names.length = 12) (hmonth : 1 ≤ month ∧ month ≤ 12)
    (hmonth' : 1 ≤ month' ∧ month' ≤ 12) (h : names.getD (month - 1) "" = names.getD (month' - 1) "") :
    month = month' := by
  have hlt : month - 1 < names.length := by omega
  have hlt' : month' - 1 < names.length := by omega
  rw [List.getD_eq_getElem _ _ hlt, List.getD_eq_getElem _ _ hlt'] at h
  have hplaces : month - 1 = month' - 1 := (List.Nodup.getElem_inj_iff hnames).1 h
  omega

theorem monthName_inj (h : 1 ≤ month ∧ month ≤ 12) (h' : 1 ≤ month' ∧ month' ≤ 12) :
    monthName month = monthName month' ↔ month = month' := by
  refine ⟨fun heq => ?_, congrArg monthName⟩
  rw [← monthNames_getD h, ← monthNames_getD h'] at heq
  exact eq_of_getD_eq (by decide) rfl h h' heq

theorem monthAbbreviation_inj (h : 1 ≤ month ∧ month ≤ 12) (h' : 1 ≤ month' ∧ month' ≤ 12) :
    monthAbbreviation month = monthAbbreviation month' ↔ month = month' := by
  refine ⟨fun heq => ?_, congrArg monthAbbreviation⟩
  rw [← monthAbbreviations_getD h, ← monthAbbreviations_getD h'] at heq
  exact eq_of_getD_eq (by decide) rfl h h' heq

theorem space_not_mem_monthName (month : Nat) : ' ' ∉ (monthName month).toList := by
  unfold monthName
  split <;> decide

theorem space_not_mem_monthAbbreviation (month : Nat) : ' ' ∉ (monthAbbreviation month).toList := by
  unfold monthAbbreviation
  split <;> decide

/-- The words of a date are its day, the name of the month and the year. -/
theorem split_fullDate (d : Date) : Text.split ' ' (fullDate d).toList =
    [Numeral.ofNat d.day, (monthName d.month).toList, Numeral.ofInt d.year] := by
  have hday : ' ' ∉ Numeral.ofNat d.day := Numeral.not_mem_ofNat rfl
  have hyear : ' ' ∉ Numeral.ofInt d.year := Numeral.not_mem_ofInt rfl (by decide)
  rw [fullDate, String.toList_ofList, List.append_assoc, List.cons_append, Text.split_append_separator hday,
    Text.split_append_separator (space_not_mem_monthName _), Text.split_of_not_mem hyear]

/-- The words of a label are the abbreviation of the month and the year. -/
theorem split_shortMonth (m : Month) : Text.split ' ' (shortMonth m).toList =
    [(monthAbbreviation m.number).toList, Numeral.ofInt m.year] := by
  have hyear : ' ' ∉ Numeral.ofInt m.year := Numeral.not_mem_ofInt rfl (by decide)
  rw [shortMonth, String.toList_ofList, Text.split_append_separator (space_not_mem_monthAbbreviation _),
    Text.split_of_not_mem hyear]

theorem fullDate_injective : Function.Injective fullDate := by
  intro a b h
  have hwords := congrArg (fun s => Text.split ' ' s.toList) h
  simp only [split_fullDate, List.cons.injEq, and_true] at hwords
  obtain ⟨hday, hmonth, hyear⟩ := hwords
  obtain ⟨year, month, day, _, hmem, _⟩ := a
  obtain ⟨year', month', day', _, hmem', _⟩ := b
  obtain rfl : year = year' := Numeral.ofInt_injective hyear
  obtain rfl : month = month' := (monthName_inj hmem hmem').1 (String.toList_inj.1 hmonth)
  obtain rfl : day = day' := Numeral.ofNat_injective hday
  rfl

theorem shortMonth_injective : Function.Injective shortMonth := by
  intro a b h
  have hwords := congrArg (fun s => Text.split ' ' s.toList) h
  simp only [split_shortMonth, List.cons.injEq, and_true] at hwords
  obtain ⟨hnumber, hyear⟩ := hwords
  obtain ⟨year, number, hmem⟩ := a
  obtain ⟨year', number', hmem'⟩ := b
  obtain rfl : year = year' := Numeral.ofInt_injective hyear
  obtain rfl : number = number' := (monthAbbreviation_inj hmem hmem').1 (String.toList_inj.1 hnumber)
  rfl

/-! ### What is shown -/

/-- What is shown for a value that names a day. -/
theorem display_of_names (h : Date.Names value year month day) : display value = longForm year month day := by
  obtain ⟨d, hd, hyear, hmonth, hday⟩ := h.exists_ofIso?
  rw [display, hd, ← hyear, ← hmonth, ← hday]
  exact fullDate_eq d

/-- What is shown for a value is shown for itself. -/
theorem display_display (value : String) : display (display value) = display value := by
  cases h : Date.ofIso? value with
  | none =>
    have hvalue : display value = value := by rw [display, h]
    rw [hvalue, hvalue]
  | some d =>
    have hdisplay : display value = fullDate d := by rw [display, h]
    have hspace : ' ' ∈ (fullDate d).toList := by simp [fullDate]
    rw [hdisplay, display]
    split
    · rename_i hread
      exact absurd hspace (Date.not_mem_of_ofIso? hread)
    · rfl

end French

end Formulary

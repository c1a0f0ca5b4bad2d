import Formulary.Form.Report
import Formulary.Proofs.Calendar.French
import Formulary.Proofs.Table
import Formulary.Proofs.Template.Grammar
import Formulary.Proofs.Text.Cut

/-!
# Dates in forms

There are three ways in which a value can fail as a date: it has not the shape of a wire form, its numbers are no day of
the calendar, or the year is outside the accepted ones (`Settings.dateFault?_classifies`).  A value that names a day is
shown in French wherever it is filled in.
-/

namespace Formulary

/-! ### What is filled in -/

section Fill

variable {values : FormValues} {key value : String} {inner : List Char}

/-- A blank alone becomes what is shown for its value. -/
theorem fill_braced (hnames : ∀ name ∈ values.keys, IsWord name.toList) (hvalue : values.get? key = some value)
    (hinner : Blank.Written key inner) : fill (String.ofList (braced inner)) values = French.display value := by
  have hkey : key ∈ values.keys := Table.mem_keys_iff.2 ⟨value, hvalue⟩
  have hread : (Blank.recogniser values.keys).read? (braced inner ++ []) = some (key, []) :=
    (Blank.recogniser_read?_eq_some_iff hnames).2 ⟨hkey, inner, hinner, rfl⟩
  have hcut := Text.cut_of_read? hread
  rw [List.append_nil, Text.cut_nil] at hcut
  rw [fill, String.toList_ofList, hcut, List.flatMap_singleton, fillPiece, hvalue, String.ofList_toList]

/-- To give what is shown for a value is to give the value. -/
theorem fill_insert_display (body : String) (hvalue : values.get? key = some value) :
    fill body (values.insert key (French.display value)) = fill body values := by
  have hkeys : (values.insert key (French.display value)).keys = values.keys :=
    Table.keys_insert_of_mem (Table.mem_keys_iff.2 ⟨value, hvalue⟩)
  have hpiece (piece : Text.Piece String) :
      fillPiece (values.insert key (French.display value)) piece = fillPiece values piece := by
    cases piece with
    | plain c => rfl
    | token name chars =>
      rw [fillPiece, fillPiece, Table.get?_insert]
      by_cases hname : name = key
      · simp only [hname, if_true, hvalue, French.display_display]
      · rw [if_neg hname]
  rw [fill, fill, hkeys, funext hpiece]

end Fill

/-- Wherever a value is filled in, a text is written in its place. -/
structure FilledAs (value text : String) : Prop where
  /-- Of a blank with the value nothing but the text is left. -/
  blank : ∀ (values : FormValues) (key : String) (inner : List Char), (∀ name ∈ values.keys, IsWord name.toList) →
    values.get? key = some value → Blank.Written key inner → fill (String.ofList (braced inner)) values = text
  /-- In every template the text might be given in place of the value. -/
  body : ∀ (values : FormValues) (key body : String), values.get? key = some value →
    fill body (values.insert key text) = fill body values

theorem filledAs_display (value : String) : FilledAs value (French.display value) where
  blank _ _ _ hnames hvalue hinner := fill_braced hnames hvalue hinner
  body _ _ body hvalue := fill_insert_display body hvalue

/-! ### What is accepted -/

namespace Settings

open Date

variable {s : Settings} {value : String} {year month day : Nat}

theorem dateFault?_of_not_hasShape (h : ¬ HasShape value) : s.dateFault? value = some .notADate := by
  rw [dateFault?, isoDigits?_eq_none_iff.2 h]

theorem dateFault?_of_not_names (hshape : HasShape value) (h : ∀ year month day, ¬ Names value year month day) :
    s.dateFault? value = some .noSuchDay := by
  have hne : isoDigits? value.toList ≠ none := fun he => isoDigits?_eq_none_iff.1 he hshape
  obtain ⟨digits, hdigits⟩ := Option.ne_none_iff_exists'.1 hne
  rw [dateFault?, hdigits, ofIso?_eq_none_iff.2 h]

theorem dateFault?_of_names (h : Names value year month day) :
    s.dateFault? value =
      if s.minYear.toInt ≤ year ∧ year ≤ s.maxYear.toInt then none else some (.yearOutside s.minYear s.maxYear) := by
  have hne : isoDigits? value.toList ≠ none := fun he => isoDigits?_eq_none_iff.1 he h.hasShape
  obtain ⟨digits, hdigits⟩ := Option.ne_none_iff_exists'.1 hne
  obtain ⟨d, hd, hyear, -⟩ := h.exists_ofIso?
  rw [dateFault?, hdigits, hd, ← hyear]

/-- One of three things is the case of a value, and it decides on the fault. -/
theorem dateFault?_cases (s : Settings) (value : String) :
    ¬ HasShape value ∧ s.dateFault? value = some .notADate ∨
      (HasShape value ∧ ∀ year month day, ¬ Names value year month day) ∧ s.dateFault? value = some .noSuchDay ∨
      ∃ year month day : Nat, Names value year month day ∧ s.dateFault? value =
        if s.minYear.toInt ≤ year ∧ year ≤ s.maxYear.toInt then none else some (.yearOutside s.minYear s.maxYear) := by
  by_cases hshape : HasShape value
  · by_cases hnames : ∃ year month day, Names value year month day
    · obtain ⟨year, month, day, h⟩ := hnames
      exact .inr (.inr ⟨year, month, day, h, dateFault?_of_names h⟩)
    · simp only [not_exists] at hnames
      exact .inr (.inl ⟨⟨hshape, hnames⟩, dateFault?_of_not_names hshape hnames⟩)
  · exact .inl ⟨hshape, dateFault?_of_not_hasShape hshape⟩

theorem dateFault?_eq_none_iff : s.dateFault? value = none ↔
    ∃ year month day : Nat, Names value year month day ∧ s.minYear.toInt ≤ year ∧ year ≤ s.maxYear.toInt := by
  constructor
  · intro h
    rcases dateFault?_cases s value with ⟨-, he⟩ | ⟨-, he⟩ | ⟨year, month, day, hnames, he⟩
    · cases h.symm.trans he
    · cases h.symm.trans he
    · rw [h] at he
      split at he
      · rename_i hyear
        exact ⟨year, month, day, hnames, hyear⟩
      · cases he
  · rintro ⟨year, month, day, hnames, hyear⟩
    rw [dateFault?_of_names hnames, if_pos hyear]

theorem dateFault?_eq_notADate_iff : s.dateFault? value = some .notADate ↔ ¬ HasShape value := by
  refine ⟨fun h => ?_, dateFault?_of_not_hasShape⟩
  rcases dateFault?_cases s value with ⟨hshape, -⟩ | ⟨-, he⟩ | ⟨year, month, day, -, he⟩
  · exact hshape
  · cases h.symm.trans he
  · rw [h] at he
    split at he <;> cases he

theorem dateFault?_eq_noSuchDay_iff : s.dateFault? value = some .noSuchDay ↔
    HasShape value ∧ ∀ year month day, ¬ Names value year month day := by
  refine ⟨fun h => ?_, fun h => dateFault?_of_not_names h.1 h.2⟩
  rcases dateFault?_cases s value with ⟨-, he⟩ | ⟨hnone, -⟩ | ⟨year, month, day, -, he⟩
  · cases h.symm.trans he
  · exact hnone
  · rw [h] at he
    split at he <;> cases he

theorem dateFault?_eq_yearOutside_iff : s.dateFault? value = some (.yearOutside s.minYear s.maxYear) ↔
    ∃ year month day : Nat, Names value year month day ∧ ¬ (s.minYear.toInt ≤ year ∧ year ≤ s.maxYear.toInt) := by
  constructor
  · intro h
    rcases dateFault?_cases s value with ⟨-, he⟩ | ⟨-, he⟩ | ⟨year, month, day, hnames, he⟩
    · cases h.symm.trans he
    · cases h.symm.trans he
    · rw [h] at he
      split at he
      · cases he
      · rename_i hyear
        exact ⟨year, month, day, hnames, hyear⟩
  · rintro ⟨year, month, day, hnames, hyear⟩
    rw [dateFault?_of_names hnames, if_neg hyear]

/-- A value is accepted as a date if it names a day of an accepted year, and else it is refused for its shape, for its
day or for its year, the first of them that is wrong.  A value that names a day is read as this day, and in its place
the day, the name of the month and the year are written. -/
theorem dateFault?_classifies (s : Settings) (value : String) :
    (s.dateFault? value = none ↔
        ∃ year month day : Nat, Names value year month day ∧ s.minYear.toInt ≤ year ∧ year ≤ s.maxYear.toInt) ∧
      (s.dateFault? value = some .notADate ↔ ¬ HasShape value) ∧
      (s.dateFault? value = some .noSuchDay ↔ HasShape value ∧ ∀ year month day, ¬ Names value year month day) ∧
      (s.dateFault? value = some (.yearOutside s.minYear s.maxYear) ↔
        ∃ year month day : Nat, Names value year month day ∧ ¬ (s.minYear.toInt ≤ year ∧ year ≤ s.maxYear.toInt)) ∧
      ∀ year month day : Nat, Names value year month day →
        (∃ d, ofIso? value = some d ∧ d.year = year ∧ d.month = month ∧ d.day = day) ∧
          FilledAs value (French.longForm year month day) := by
  refine ⟨dateFault?_eq_none_iff, dateFault?_eq_notADate_iff, dateFault?_eq_noSuchDay_iff,
    dateFault?_eq_yearOutside_iff, fun year month day h => ⟨h.exists_ofIso?, ?_⟩⟩
  rw [← French.display_of_names h]
  exact filledAs_display value

/-- A leap day of the standard years, filled in. -/
theorem dateFault?_classifies_leap_day :
    Names "2000-02-29" 2000 2 29 ∧ standard.dateFault? "2000-02-29" = none ∧
      fill "\x7b\x7bnaissance:date\x7d\x7d" (Table.ofList [("naissance", "2000-02-29")]) = "29 février 2000" := by
  have hnames : Names "2000-02-29" 2000 2 29 := ⟨⟨by decide, by decide, 29, by decide, by decide⟩, by decide, by decide⟩
  obtain ⟨haccepted, -, -, -, hread⟩ := dateFault?_classifies standard "2000-02-29"
  refine ⟨hnames, haccepted.2 ⟨2000, 2, 29, hnames, by decide, by decide⟩, ?_⟩
  have hkeys : (Table.ofList [("naissance", "2000-02-29")]).keys = ["naissance"] := by decide
  have hwords : ∀ name ∈ (Table.ofList [("naissance", "2000-02-29")]).keys, IsWord name.toList := by
    rw [hkeys, List.forall_mem_singleton]
    exact ⟨by decide, List.all_eq_true.1 (by decide)⟩
  have hdate : '}' ∉ "date".toList := by decide
  have hwritten : Blank.Written "naissance" "naissance:date".toList := .suffixed hdate
  exact (hread 2000 2 29 hnames).2.blank _ "naissance" "naissance:date".toList hwords (by decide) hwritten

end Settings

end Formulary

import Formulary.Proofs.Chain
import Formulary.Proofs.Text.Numeral
import Formulary.Proofs.Text.Trim
import Formulary.Template.Settings

/-!
# Settings and the environment

Settings are sound or have a first fault (`Settings.sound_or_faulty`).  The environment can give the first and the last
accepted year, each as an integer of 32 bits with or without white space around it (`Settings.YearText`).  Settings are
judged with both years in place, so a year that is given need not fit the one that it goes with by default
(`Settings.withEnvironment_eq_ok_iff`, `Settings.withEnvironment_eq_error_iff`).
-/

namespace Formulary.Settings

variable {s c : Settings} {e : SettingsError} {environment : String → Option String} {key text : String}
  {start year : Int32}

/-! ### Faults -/

/-- The first fault of settings, where the range of years comes before the rules. -/
inductive Faulty (c : Settings) : SettingsError → Prop
  | noYears : c.maxYear < c.minYear → Faulty c (.noYears c.minYear c.maxYear)
  | noKeyword {before after : List TypingRule} {r : TypingRule} : c.minYear ≤ c.maxYear →
      c.rules = before ++ r :: after → r.keyword = "" → (∀ b ∈ before, b.keyword ≠ "") →
      Faulty c (.noKeyword before.length)

theorem fault?_of_sound (h : c.Sound) : c.fault? = none := by
  unfold fault?
  rw [if_pos h.1, Option.map_eq_none_iff, List.findIdx?_eq_none_iff]
  exact fun r hr => decide_eq_false (h.2 r hr)

theorem fault?_of_years (h : c.maxYear < c.minYear) : c.fault? = some (.noYears c.minYear c.maxYear) :=
  if_neg (Int32.not_le.2 h)

theorem fault?_of_keyword {before after : List TypingRule} {r : TypingRule} (hyears : c.minYear ≤ c.maxYear)
    (hrules : c.rules = before ++ r :: after) (hr : r.keyword = "") (hbefore : ∀ b ∈ before, b.keyword ≠ "") :
    c.fault? = some (.noKeyword before.length) := by
  have hnone : before.findIdx? (fun b => b.keyword = "") = none :=
    List.findIdx?_eq_none_iff.2 fun b hb => decide_eq_false (hbefore b hb)
  unfold fault?
  rw [if_pos hyears, hrules, List.findIdx?_append, hnone, List.findIdx?_cons, if_pos (decide_eq_true hr)]
  simp

theorem fault?_of_faulty (h : c.Faulty e) : c.fault? = some e := by
  cases h with
  | noYears hyears => exact fault?_of_years hyears
  | noKeyword hyears hrules hr hbefore => exact fault?_of_keyword hyears hrules hr hbefore

theorem sound_or_faulty (c : Settings) : c.Sound ∨ ∃ e, c.Faulty e := by
  rcases Int32.lt_or_le c.maxYear c.minYear with hyears | hyears
  · exact .inr ⟨_, .noYears hyears⟩
  · cases hfind : c.rules.find? (fun r => r.keyword = "") with
    | none =>
      refine .inl ⟨hyears, fun r hr => ?_⟩
      simpa using List.find?_eq_none.1 hfind r hr
    | some r =>
      obtain ⟨hr, before, after, hrules, hbefore⟩ := List.find?_eq_some_iff_append.1 hfind
      refine .inr ⟨_, .noKeyword hyears hrules (by simpa using hr) fun b hb => ?_⟩
      simpa using hbefore b hb

theorem fault?_eq_none_iff : c.fault? = none ↔ c.Sound := ⟨sound_of_fault?_eq_none, fault?_of_sound⟩

theorem fault?_eq_some_iff : c.fault? = some e ↔ c.Faulty e := by
  refine ⟨fun h => ?_, fault?_of_faulty⟩
  rcases c.sound_or_faulty with hsound | ⟨e', he'⟩
  · cases (fault?_of_sound hsound).symm.trans h
  · obtain rfl := Option.some.inj ((fault?_of_faulty he').symm.trans h)
    exact he'

/-! ### Years -/

/-- The text is a year: the numeral of an integer of 32 bits, with or without white space around it. -/
def YearText (text : String) (year : Int32) : Prop :=
  ∃ numeral i, Padded numeral text.toList ∧ Numeral.Denotes numeral i ∧ (-2 ^ 31 ≤ i ∧ i ≤ 2 ^ 31 - 1) ∧
    year = Int32.ofInt i

/-- The year under a key is the one that the environment gives, or `start` if it gives none. -/
inductive YearUnder (environment : String → Option String) (key : String) (start : Int32) : Int32 → Prop
  | kept : environment key = none → YearUnder environment key start start
  | given {text : String} {year : Int32} : environment key = some text → YearText text year →
      YearUnder environment key start year

/-- There is nothing to trim at a numeral. -/
theorem trimChars_of_denotes {cs : List Char} {i : Int} (h : Numeral.Denotes cs i) : Text.trimChars cs = cs := by
  have hblank : ∀ c ∈ cs, Text.isBlank c = false := by
    intro c hc
    obtain ⟨hsign, -, hdigits⟩ := h
    simp only [List.mem_cons, Prod.mk.injEq, List.not_mem_nil, or_false] at hsign
    rcases List.mem_append.1 hc with hc | hc
    · rcases hsign with ⟨rfl, -⟩ | ⟨rfl, -⟩ | ⟨rfl, -⟩
      · cases hc
      · obtain rfl := List.mem_singleton.1 hc
        rfl
      · obtain rfl := List.mem_singleton.1 hc
        rfl
    · exact Text.isBlank_of_isDigit (hdigits c hc)
  exact Text.trimChars_eq_self (fun c hc => hblank c (List.mem_of_mem_head? hc))
    fun c hc => hblank c (List.mem_of_getLast? hc)

theorem readYear?_eq_some_iff : readYear? text = some year ↔ YearText text year := by
  constructor
  · intro h
    obtain ⟨i, hi, h⟩ := Option.bind_eq_some_iff.1 h
    split at h
    next hbounds =>
      obtain rfl := Option.some.inj h
      exact ⟨_, i, Text.padded_trimChars _, Numeral.readInt?_eq_some_iff.1 hi, by omega, rfl⟩
    next => cases h
  · rintro ⟨numeral, i, hpadded, hnumeral, hbounds, rfl⟩
    have hread : Numeral.readInt? (Text.trimChars text.toList) = some i := by
      rw [hpadded.trimChars_eq (trimChars_of_denotes hnumeral)]
      exact Numeral.readInt?_eq_some_iff.2 hnumeral
    refine Option.bind_eq_some_iff.2 ⟨i, hread, if_pos ?_⟩
    omega

theorem readYear?_eq_none_iff : readYear? text = none ↔ ∀ year, ¬ YearText text year := by
  simp only [Option.eq_none_iff_forall_ne_some, ← readYear?_eq_some_iff, ne_eq]

theorem yearFrom_eq_ok_iff : yearFrom environment key start = .ok year ↔ YearUnder environment key start year := by
  constructor
  · intro h
    unfold yearFrom at h
    split at h
    next hkey =>
      cases h
      exact .kept hkey
    next text hkey =>
      split at h
      next hyear =>
        cases h
        exact .given hkey (readYear?_eq_some_iff.1 hyear)
      next => cases h
  · rintro (hkey | ⟨hkey, hyear⟩)
    · simp only [yearFrom, hkey]
    · simp only [yearFrom, hkey, readYear?_eq_some_iff.2 hyear]

/-- A text that is no year is told as it stands in the environment. -/
theorem yearFrom_eq_error_iff : yearFrom environment key start = .error e ↔
    ∃ text, environment key = some text ∧ (∀ year, ¬ YearText text year) ∧ e = .badYear key text := by
  constructor
  · intro h
    unfold yearFrom at h
    split at h
    next => cases h
    next text hkey =>
      split at h
      next => cases h
      next hyear =>
        cases h
        exact ⟨text, hkey, readYear?_eq_none_iff.1 hyear, rfl⟩
  · rintro ⟨text, hkey, hyear, rfl⟩
    simp only [yearFrom, hkey, readYear?_eq_none_iff.2 hyear]

theorem exists_yearUnder_iff : (∃ year, YearUnder environment key start year) ↔
    ∀ text, environment key = some text → ∃ year, YearText text year := by
  constructor
  · rintro ⟨year, hnone | ⟨hsome, hyear⟩⟩ text hkey
    · cases hnone.symm.trans hkey
    · obtain rfl := Option.some.inj (hsome.symm.trans hkey)
      exact ⟨year, hyear⟩
  · intro h
    cases hkey : environment key with
    | none => exact ⟨start, .kept hkey⟩
    | some text =>
      obtain ⟨year, hyear⟩ := h text hkey
      exact ⟨year, .given hkey hyear⟩

/-! ### Settings with the years of the environment -/

/-- The settings `c` are those of `s` with the years that the environment gives, and no other change. -/
structure OverriddenTo (s : Settings) (environment : String → Option String) (c : Settings) : Prop where
  rules_eq : c.rules = s.rules
  minYear : YearUnder environment minYearKey s.minYear c.minYear
  maxYear : YearUnder environment maxYearKey s.maxYear c.maxYear

/-- Why the years of the environment do not make sound settings: the first year is none, or else the last one is none, or
else the settings with both have a fault. -/
inductive NotOverridden (s : Settings) (environment : String → Option String) : SettingsError → Prop
  | badMinYear {text : String} : environment minYearKey = some text → (∀ year, ¬ YearText text year) →
      NotOverridden s environment (.badYear minYearKey text)
  | badMaxYear {minYear : Int32} {text : String} : YearUnder environment minYearKey s.minYear minYear →
      environment maxYearKey = some text → (∀ year, ¬ YearText text year) →
      NotOverridden s environment (.badYear maxYearKey text)
  | faulty {c : Settings} {e : SettingsError} : s.OverriddenTo environment c → c.Faulty e →
      NotOverridden s environment e

theorem exists_overriddenTo_iff : (∃ c, s.OverriddenTo environment c) ↔
    ∀ key ∈ [minYearKey, maxYearKey], ∀ text, environment key = some text → ∃ year, YearText text year := by
  rw [List.forall_mem_cons, List.forall_mem_singleton]
  constructor
  · rintro ⟨c, hc⟩
    exact ⟨exists_yearUnder_iff.1 ⟨_, hc.minYear⟩, exists_yearUnder_iff.1 ⟨_, hc.maxYear⟩⟩
  · rintro ⟨hmin, hmax⟩
    obtain ⟨minYear, hmin⟩ := exists_yearUnder_iff.2 hmin
    obtain ⟨maxYear, hmax⟩ := exists_yearUnder_iff.2 hmax
    exact ⟨⟨s.rules, minYear, maxYear⟩, rfl, hmin, hmax⟩

/-- Settings are judged with both years in place. -/
theorem OverriddenTo.withEnvironment_eq (h : s.OverriddenTo environment c) :
    s.withEnvironment environment = match c.fault? with
      | some e => .error e
      | none => .ok c := by
  obtain ⟨rules, minYear, maxYear⟩ := c
  obtain ⟨hrules, hmin, hmax⟩ := h
  obtain rfl : rules = s.rules := hrules
  rw [withEnvironment, yearFrom_eq_ok_iff.2 hmin, yearFrom_eq_ok_iff.2 hmax]
  rfl

theorem withEnvironment_eq_ok_iff :
    s.withEnvironment environment = .ok c ↔ s.OverriddenTo environment c ∧ c.Sound := by
  constructor
  · intro h
    obtain ⟨minYear, hmin, hrest⟩ := bind_eq_ok_iff.1 h
    obtain ⟨maxYear, hmax, -⟩ := bind_eq_ok_iff.1 hrest
    have hc : s.OverriddenTo environment ⟨s.rules, minYear, maxYear⟩ :=
      ⟨rfl, yearFrom_eq_ok_iff.1 hmin, yearFrom_eq_ok_iff.1 hmax⟩
    rw [hc.withEnvironment_eq] at h
    split at h
    next => cases h
    next hfault =>
      cases h
      exact ⟨hc, fault?_eq_none_iff.1 hfault⟩
  · rintro ⟨hc, hsound⟩
    rw [hc.withEnvironment_eq, fault?_eq_none_iff.2 hsound]

theorem withEnvironment_eq_error_iff :
    s.withEnvironment environment = .error e ↔ s.NotOverridden environment e := by
  constructor
  · intro h
    rcases bind_eq_error_iff.1 h with hmin | ⟨minYear, hmin, hrest⟩
    · obtain ⟨text, hkey, hyear, rfl⟩ := yearFrom_eq_error_iff.1 hmin
      exact .badMinYear hkey hyear
    have hmin := yearFrom_eq_ok_iff.1 hmin
    rcases bind_eq_error_iff.1 hrest with hmax | ⟨maxYear, hmax, -⟩
    · obtain ⟨text, hkey, hyear, rfl⟩ := yearFrom_eq_error_iff.1 hmax
      exact .badMaxYear hmin hkey hyear
    have hc : s.OverriddenTo environment ⟨s.rules, minYear, maxYear⟩ := ⟨rfl, hmin, yearFrom_eq_ok_iff.1 hmax⟩
    rw [hc.withEnvironment_eq] at h
    split at h
    next hfault =>
      cases h
      exact .faulty hc (fault?_eq_some_iff.1 hfault)
    next => cases h
  · intro h
    cases h with
    | badMinYear hkey hyear =>
      exact bind_eq_error_iff.2 (.inl (yearFrom_eq_error_iff.2 ⟨_, hkey, hyear, rfl⟩))
    | badMaxYear hmin hkey hyear =>
      refine bind_eq_error_iff.2 (.inr ⟨_, yearFrom_eq_ok_iff.2 hmin, ?_⟩)
      exact bind_eq_error_iff.2 (.inl (yearFrom_eq_error_iff.2 ⟨_, hkey, hyear, rfl⟩))
    | faulty hc hfaulty => rw [hc.withEnvironment_eq, fault?_eq_some_iff.2 hfaulty]

/-- The environment changes settings if and only if each year that it gives is one and the settings with these years are
sound, and nothing but the years is changed.  Otherwise the first year is told if it is none, or else the last year if it
is none, each as it stands in the environment, or else the first fault of the settings with both years. -/
theorem withEnvironment_overrides (s : Settings) (environment : String → Option String) :
    (∀ c, s.withEnvironment environment = .ok c ↔ s.OverriddenTo environment c ∧ c.Sound) ∧
      ((∃ c, s.OverriddenTo environment c) ↔
        ∀ key ∈ [minYearKey, maxYearKey], ∀ text, environment key = some text → ∃ year, YearText text year) ∧
      ∀ e, s.withEnvironment environment = .error e ↔ s.NotOverridden environment e :=
  ⟨fun _ => withEnvironment_eq_ok_iff, exists_overriddenTo_iff, fun _ => withEnvironment_eq_error_iff⟩

/-- Years after the standard ones, with a sign, leading zeros and white space, and a last year that is too great. -/
theorem withEnvironment_overrides_later :
    let environment (last key : String) := if key = minYearKey then some "2200" else some last
    standard.withEnvironment (environment "\u00a0+002300\n") = .ok { standard with minYear := 2200, maxYear := 2300 } ∧
      standard.withEnvironment (environment " 2147483648 ") = .error (.badYear maxYearKey " 2147483648 ") := by
  intro environment
  have hfirst (last : String) : YearUnder (environment last) minYearKey standard.minYear 2200 :=
    .given rfl (readYear?_eq_some_iff.1 (by decide +kernel))
  have hlast : YearUnder (environment "\u00a0+002300\n") maxYearKey standard.maxYear 2300 :=
    .given rfl (readYear?_eq_some_iff.1 (by decide +kernel))
  constructor
  · exact ((withEnvironment_overrides standard _).1 _).2 ⟨⟨rfl, hfirst _, hlast⟩, by decide⟩
  · refine ((withEnvironment_overrides standard _).2.2 _).2 (.badMaxYear (hfirst _) rfl ?_)
    exact readYear?_eq_none_iff.1 (by decide +kernel)

end Formulary.Settings

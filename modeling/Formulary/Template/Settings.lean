import Formulary.Json.Reader
import Formulary.Template.Placeholder
import Formulary.Text.Numeral

/-!
# Settings

The rules that give types to variables and the range of years in which dates are accepted.  Settings are sound if there
is a year in the range and every rule has a keyword; forms are made and judged by sound settings only.
-/

namespace Formulary

/-- The rules of typing, tried in order, and the first and the last accepted year. -/
structure Settings where
  rules : List TypingRule
  minYear : Int32
  maxYear : Int32
deriving DecidableEq

/-- Why settings cannot be used. -/
inductive SettingsError where
  | badYear (key value : String)
  | noYears (min max : Int32)
  | noKeyword (index : Nat)
  | notJson
deriving DecidableEq

namespace SettingsError

def message : SettingsError → String
  | badYear key value => "Invalid value for " ++ key ++ ": " ++ value
  | noYears min max =>
    "Year range is empty: " ++ String.ofList (Numeral.ofInt min.toInt) ++ " > "
      ++ String.ofList (Numeral.ofInt max.toInt)
  | noKeyword index => "Inference rule " ++ String.ofList (Numeral.ofNat index) ++ " has an empty keyword"
  | notJson => "JSON error: " ++ Json.faultText

end SettingsError

namespace Settings

/-- The parts of French names that give a variable its type. -/
def standardRules : List TypingRule :=
  ["date"].map (⟨·, .date⟩) ++ ["email"].map (⟨·, .email⟩)
    ++ ["montant", "capital", "prix", "tarif", "duree", "nombre", "quantite"].map (⟨·, .number⟩)
    ++ ["adresse", "description", "objet", "commentaire"].map (⟨·, .textarea⟩)

def standard : Settings := ⟨standardRules, 1900, 2100⟩

instance : Inhabited Settings := ⟨standard⟩

/-- There is a year in the range, and every rule has a keyword. -/
def Sound (s : Settings) : Prop := s.minYear ≤ s.maxYear ∧ ∀ r ∈ s.rules, r.keyword ≠ ""

instance (s : Settings) : Decidable s.Sound := inferInstanceAs (Decidable (_ ∧ _))

/-- The first fault of settings that are not sound; the range of years comes before the rules. -/
def fault? (s : Settings) : Option SettingsError :=
  if s.minYear ≤ s.maxYear then (s.rules.findIdx? (fun r => r.keyword = "")).map .noKeyword
  else some (.noYears s.minYear s.maxYear)

theorem sound_of_fault?_eq_none {s : Settings} (h : s.fault? = none) : s.Sound := by
  unfold fault? at h
  split at h
  · rename_i hy
    refine ⟨hy, fun r hr => ?_⟩
    simpa using List.findIdx?_eq_none_iff.1 (Option.map_eq_none_iff.1 h) r hr
  · simp at h

/-! ### The environment -/

/-- The variable of the environment that sets the first accepted year. -/
def minYearKey : String := "LEGALDOCS_MIN_YEAR"

/-- The variable of the environment that sets the last accepted year. -/
def maxYearKey : String := "LEGALDOCS_MAX_YEAR"

/-- A year of 32 bits, with white space around it. -/
def readYear? (s : String) : Option Int32 := do
  let i ← Numeral.readInt? (Text.trimChars s.toList)
  if -2147483648 ≤ i ∧ i ≤ 2147483647 then some (Int32.ofInt i) else none

/-- The year that the environment gives under a key, or `default` if it gives none. -/
def yearFrom (environment : String → Option String) (key : String) (default : Int32) :
    Except SettingsError Int32 :=
  match environment key with
  | none => .ok default
  | some text =>
    match readYear? text with
    | some year => .ok year
    | none => .error (.badYear key text)

/-- The settings with the years that the environment gives, if they are sound. -/
def withEnvironment (s : Settings) (environment : String → Option String) : Except SettingsError Settings := do
  let minYear ← yearFrom environment minYearKey s.minYear
  let maxYear ← yearFrom environment maxYearKey s.maxYear
  let changed := { s with minYear, maxYear }
  match changed.fault? with
  | some e => .error e
  | none => .ok changed

end Settings

/-- Sound settings. -/
structure Ruleset where
  settings : Settings
  sound : settings.Sound

namespace Ruleset

def standard : Ruleset := ⟨.standard, by decide⟩

/-- The ruleset with some settings, if they are sound. -/
def ofSettings (s : Settings) : Except SettingsError Ruleset :=
  match h : s.fault? with
  | some e => .error e
  | none => .ok ⟨s, Settings.sound_of_fault?_eq_none h⟩

/-- The form of a template text. -/
def formOf (rules : Ruleset) (body : String) : List Variable := Formulary.formOf rules.settings.rules body

end Ruleset

end Formulary

import Formulary.Json.Form.Template
import Formulary.Proofs.Json.Fields
import Formulary.Proofs.Json.Record
import Formulary.Proofs.Template.Environment

/-!
# Settings as texts

Settings are read from an object with any of their fields, in any order and among others, or from an array with the
first of them; a field that is not given has its standard value.  What is read is settings only if it is sound
(`Settings.Reads`), and all settings that are read are those of a ruleset.
-/

namespace Formulary

open JsonForm LawfulJsonForm

open Json (IsText Gives under)

/-! ### Values of settings -/

/-- An integer literal, without a fraction and without an exponent. -/
def Json.IsYear (v : Json) (year : Int32) : Prop := ∃ n, v = .number n ∧ n.int? = some year.toInt

def Json.IsRule (v : Json) (r : TypingRule) : Prop :=
  Gives ["keyword", "type"] v [some (.text r.keyword), some (.text r.kind.name)]

def Json.IsRules (v : Json) (rules : List TypingRule) : Prop :=
  ∃ items, v = .array items ∧ List.Forall₂ IsRule items rules

/-- The names of the fields of settings. -/
def Settings.fieldNames : List String := ["inference_rules", "min_year", "max_year"]

/-- The value describes the settings: what it does not give is as in the standard settings. -/
def Json.IsSettings (v : Json) (c : Settings) : Prop :=
  ∃ rules minYear maxYear, Gives Settings.fieldNames v [rules, minYear, maxYear] ∧
    IsOrDefault IsRules Settings.standard.rules rules c.rules ∧
    IsOrDefault IsYear Settings.standard.minYear minYear c.minYear ∧
    IsOrDefault IsYear Settings.standard.maxYear maxYear c.maxYear

section Reading

variable {v : Json} {c : Settings} {s : String}

theorem read?_text_iff {t : String} : (read? v : Option String) = some t ↔ v = .text t := by
  constructor
  · intro h
    match v with
    | .string s => exact congrArg Json.string h
  · rintro rfl
    rfl

theorem read?_kind_iff {k : VariableType} : (read? v : Option VariableType) = some k ↔ v = .text k.name := by
  constructor
  · intro h
    obtain ⟨t, ht, rfl⟩ := Option.map_eq_some_iff.1 h
    rw [VariableType.name_ofName]
    exact read?_text_iff.1 ht
  · rintro rfl
    exact read?_write k

theorem read?_year_iff {year : Int32} : (read? v : Option Int32) = some year ↔ v.IsYear year := by
  constructor
  · intro h
    obtain ⟨i, hi, rfl⟩ := Option.map_eq_some_iff.1 h
    obtain ⟨j, hj, hbounds⟩ := Option.bind_eq_some_iff.1 hi
    split at hbounds
    next hle =>
      obtain rfl := Option.some.inj hbounds
      match v with
      | .number n =>
        refine ⟨n, rfl, ?_⟩
        rw [Int32.toInt_ofInt_of_le (by omega) (by omega)]
        exact hj
    next => cases hbounds
  · rintro ⟨n, rfl, hn⟩
    exact read?_signed hn

theorem required?_eq_some_iff {α : Type} [JsonForm α] {value : Option Json} {a : α} :
    required? value = some a ↔ ∃ v, value = some v ∧ read? v = some a := by
  cases value <;> simp [required?]

theorem withDefault?_eq_some_iff {α : Type} [JsonForm α] {describes : Json → α → Prop} {default a : α}
    {value : Option Json} (h : ∀ v a, (read? v : Option α) = some a ↔ describes v a) :
    withDefault? default value = some a ↔ Json.IsOrDefault describes default value a := by
  cases value with
  | none => exact Option.some_inj.trans eq_comm
  | some v => exact h v a

theorem read?_rule_iff {r : TypingRule} : (read? v : Option TypingRule) = some r ↔ v.IsRule r := by
  unfold Json.IsRule
  rw [← Json.fields?_eq_some_iff]
  constructor
  · intro h
    obtain ⟨values, hvalues, h⟩ := Option.bind_eq_some_iff.1 h
    rw [hvalues]
    match values, (Json.fields?_eq_some_iff.1 hvalues).length_eq with
    | [keyword, kind], _ =>
      obtain ⟨k, hk, h⟩ := Option.bind_eq_some_iff.1 h
      obtain ⟨t, ht, h⟩ := Option.bind_eq_some_iff.1 h
      obtain rfl : ⟨k, t⟩ = r := Option.some.inj h
      obtain ⟨w, rfl, hk⟩ := required?_eq_some_iff.1 hk
      obtain ⟨w', rfl, ht⟩ := required?_eq_some_iff.1 ht
      rw [read?_text_iff.1 hk, read?_kind_iff.1 ht]
  · intro h
    have hkeyword : required? (some (.text r.keyword)) = some r.keyword := rfl
    have hkind : required? (some (.text r.kind.name)) = some r.kind := read?_write r.kind
    refine Option.bind_eq_some_iff.2 ⟨_, h, ?_⟩
    simp [hkeyword, hkind]

theorem read?_rules_iff {rules : List TypingRule} : (read? v : Option (List TypingRule)) = some rules ↔
    v.IsRules rules := by
  have hitems {items : List Json} :
      items.mapM (read? : Json → Option TypingRule) = some rules ↔ List.Forall₂ Json.IsRule items rules := by
    rw [Json.mapM_eq_some_iff]
    simp only [read?_rule_iff]
  constructor
  · intro h
    match v with
    | .array items => exact ⟨items, rfl, hitems.1 h⟩
  · rintro ⟨items, rfl, h⟩
    exact hitems.2 h

theorem read?_settings_iff : (read? v : Option Settings) = some c ↔ v.IsSettings c := by
  have hrules {value : Option Json} {default rules : List TypingRule} :
      withDefault? default value = some rules ↔ Json.IsOrDefault Json.IsRules default value rules :=
    withDefault?_eq_some_iff fun _ _ => read?_rules_iff
  have hyear {value : Option Json} {default year : Int32} :
      withDefault? default value = some year ↔ Json.IsOrDefault Json.IsYear default value year :=
    withDefault?_eq_some_iff fun _ _ => read?_year_iff
  constructor
  · intro h
    obtain ⟨values, hvalues, h⟩ := Option.bind_eq_some_iff.1 h
    have hgives := Json.fields?_eq_some_iff.1 hvalues
    match values, hgives.length_eq with
    | [rules, minYear, maxYear], _ =>
      obtain ⟨rs, hrs, h⟩ := Option.bind_eq_some_iff.1 h
      obtain ⟨a, ha, h⟩ := Option.bind_eq_some_iff.1 h
      obtain ⟨b, hb, h⟩ := Option.bind_eq_some_iff.1 h
      obtain rfl : ⟨rs, a, b⟩ = c := Option.some.inj h
      exact ⟨rules, minYear, maxYear, hgives, hrules.1 hrs, hyear.1 ha, hyear.1 hb⟩
  · rintro ⟨rules, minYear, maxYear, hgives, hr, ha, hb⟩
    refine Option.bind_eq_some_iff.2 ⟨_, Json.fields?_eq_some_iff.2 hgives, ?_⟩
    simp [hrules.2 hr, hyear.2 ha, hyear.2 hb]

end Reading

namespace Settings

/-! ### Ways of writing settings -/

/-- The members that are written for settings. -/
def members (c : Settings) : List (JsonString × Json) :=
  [(some "inference_rules", write c.rules), (some "min_year", write c.minYear), (some "max_year", write c.maxYear)]

/-- The members are those of the settings, in any order and among others with other names, where fields with their
standard values may be left out. -/
def Variant (c : Settings) (ms : List (JsonString × Json)) : Prop :=
  ∃ kept unknown, ms.Perm (kept ++ unknown) ∧ kept.Sublist c.members ∧
    (∀ m ∈ c.members, m ∉ kept → m ∈ standard.members) ∧
    ∀ m ∈ unknown, ∃ name, m.1 = some name ∧ name ∉ fieldNames

variable {c : Settings} {ms : List (JsonString × Json)} {name s : String} {v w : Json}

theorem write_eq (c : Settings) : write c = .object c.members := rfl

theorem variant_members (c : Settings) : c.Variant c.members :=
  ⟨c.members, [], by simp, List.Sublist.refl _, fun m hm hnot => absurd hm hnot, nofun⟩

theorem names_of_mem_members {m : JsonString × Json} (hm : m ∈ c.members) : ∃ name ∈ fieldNames, m.1 = some name := by
  simp only [members, List.mem_cons, List.not_mem_nil, or_false] at hm
  rcases hm with rfl | rfl | rfl <;> exact ⟨_, by simp [fieldNames], rfl⟩

/-- A field of a variant is as it is written, or is left out and standard. -/
theorem Variant.under_eq (h : c.Variant ms) (hname : name ∈ fieldNames) (hw : under c.members name = [w]) :
    under ms name = [w] ∨ under ms name = [] ∧ (some name, w) ∈ standard.members := by
  obtain ⟨kept, unknown, hperm, hkept, hdefault, hunknown⟩ := h
  have hothers : under unknown name = [] := Json.under_eq_nil fun m hm heq => by
    obtain ⟨other, hother, hnot⟩ := hunknown m hm
    obtain rfl : other = name := Option.some.inj (hother.symm.trans heq)
    exact hnot hname
  have hunder := Json.under_perm name hperm
  rw [Json.under_append, hothers, List.append_nil] at hunder
  rcases List.sublist_singleton.1 (hw ▸ Json.under_sublist hkept) with hnil | hcons
  · rw [hnil, List.perm_nil] at hunder
    refine .inr ⟨hunder, hdefault _ (Json.mem_under.1 (hw ▸ List.mem_singleton_self w)) fun hmem => ?_⟩
    exact absurd (Json.mem_under.2 hmem) (hnil ▸ List.not_mem_nil)
  · rw [hcons, List.perm_singleton] at hunder
    exact .inl hunder

theorem Variant.isSome_name (h : c.Variant ms) : ∀ m ∈ ms, m.1.isSome := by
  obtain ⟨kept, unknown, hperm, hkept, -, hunknown⟩ := h
  intro m hm
  rcases List.mem_append.1 (hperm.mem_iff.1 hm) with hm | hm
  · obtain ⟨name, -, heq⟩ := names_of_mem_members (hkept.mem hm)
    exact heq ▸ rfl
  · obtain ⟨name, heq, -⟩ := hunknown m hm
    exact heq ▸ rfl

/-- A field of a variant, read by what is known of the values under its name. -/
theorem Variant.isOrDefault {α : Type} [JsonForm α] [LawfulJsonForm α] {describes : Json → α → Prop} {a default : α}
    (h : c.Variant ms) (name : String) (hname : name ∈ fieldNames) (hw : under c.members name = [write a])
    (hread : ∀ v a, (read? v : Option α) = some a ↔ describes v a)
    (hstandard : ∀ w, (some name, w) ∈ standard.members → w = write default) :
    ∃ value, under ms name = value.toList ∧ Json.IsOrDefault describes default value a := by
  rcases h.under_eq hname hw with hunder | ⟨hunder, hmem⟩
  · exact ⟨some (write a), hunder, (hread _ _).1 (read?_write a)⟩
  · exact ⟨none, hunder, write_injective (hstandard _ hmem)⟩

theorem Variant.isSettings (h : c.Variant ms) : (Json.object ms).IsSettings c := by
  obtain ⟨rules, hrules, hr⟩ := h.isOrDefault "inference_rules" (by simp [fieldNames]) rfl
    (fun _ _ => read?_rules_iff) fun w hw => by simpa [members] using hw
  obtain ⟨minYear, hmin, ha⟩ := h.isOrDefault "min_year" (by simp [fieldNames]) rfl
    (fun _ _ => read?_year_iff) fun w hw => by simpa [members] using hw
  obtain ⟨maxYear, hmax, hb⟩ := h.isOrDefault "max_year" (by simp [fieldNames]) rfl
    (fun _ _ => read?_year_iff) fun w hw => by simpa [members] using hw
  exact ⟨rules, minYear, maxYear, .byName h.isSome_name (.cons hrules (.cons hmin (.cons hmax .nil))), hr, ha, hb⟩

/-! ### What a text is read as -/

/-- What a text is read as: the settings that its value describes if they are sound, or their first fault. -/
inductive Reads (s : String) : Except SettingsError Settings → Prop
  | ok {v : Json} {c : Settings} : IsText s v → v.IsSettings c → c.Sound → Reads s (.ok c)
  | noYears {v : Json} {c : Settings} : IsText s v → v.IsSettings c → c.maxYear < c.minYear →
      Reads s (.error (.noYears c.minYear c.maxYear))
  /-- The first rule without a keyword is told if the range of years is not empty. -/
  | noKeyword {v : Json} {c : Settings} {before after : List TypingRule} {r : TypingRule} : IsText s v →
      v.IsSettings c → c.minYear ≤ c.maxYear → c.rules = before ++ r :: after → r.keyword = "" →
      (∀ b ∈ before, b.keyword ≠ "") → Reads s (.error (.noKeyword before.length))
  | notJson : (∀ v c, IsText s v → ¬ v.IsSettings c) → Reads s (.error .notJson)

theorem bind_read?_eq_some_iff : (Json.ofText? s).bind read? = some c ↔ ∃ v, IsText s v ∧ v.IsSettings c := by
  simp only [Option.bind_eq_some_iff, Json.ofText?_eq_some_iff, read?_settings_iff]

theorem ofText_of_isSettings (hs : IsText s v) (hv : v.IsSettings c) :
    ofText s = match c.fault? with
      | some e => .error e
      | none => .ok c := by
  unfold ofText
  cases hfault : c.fault? <;> simp only [bind_read?_eq_some_iff.2 ⟨v, hs, hv⟩, hfault]

theorem ofText_of_not_isSettings (h : ∀ v c, IsText s v → ¬ v.IsSettings c) : ofText s = .error .notJson := by
  have hnone : (Json.ofText? s).bind (read? : Json → Option Settings) = none :=
    Option.eq_none_iff_forall_ne_some.2 fun c hc => by
      obtain ⟨v, hs, hv⟩ := bind_read?_eq_some_iff.1 hc
      exact h v c hs hv
  unfold ofText
  rw [hnone]

theorem ofText_of_reads {outcome : Except SettingsError Settings} (h : Reads s outcome) : ofText s = outcome := by
  cases h with
  | ok hs hv hsound => rw [ofText_of_isSettings hs hv, fault?_of_sound hsound]
  | noYears hs hv hyears => rw [ofText_of_isSettings hs hv, fault?_of_years hyears]
  | noKeyword hs hv hyears hrules hr hbefore =>
    rw [ofText_of_isSettings hs hv, fault?_of_keyword hyears hrules hr hbefore]
  | notJson h => exact ofText_of_not_isSettings h

theorem exists_reads (s : String) : ∃ outcome, Reads s outcome := by
  by_cases h : ∃ v c, IsText s v ∧ v.IsSettings c
  · obtain ⟨v, c, hs, hv⟩ := h
    rcases c.sound_or_faulty with hsound | ⟨_, hyears | ⟨hyears, hrules, hr, hbefore⟩⟩
    · exact ⟨_, .ok hs hv hsound⟩
    · exact ⟨_, .noYears hs hv hyears⟩
    · exact ⟨_, .noKeyword hs hv hyears hrules hr hbefore⟩
  · exact ⟨_, .notJson fun v c hs hv => h ⟨v, c, hs, hv⟩⟩

theorem ofText_eq_iff {outcome : Except SettingsError Settings} : ofText s = outcome ↔ Reads s outcome := by
  refine ⟨?_, ofText_of_reads⟩
  rintro rfl
  obtain ⟨outcome, h⟩ := exists_reads s
  exact (ofText_of_reads h).symm ▸ h

/-! ### Rulesets -/

theorem ofSettings_of_sound (h : c.Sound) : Ruleset.ofSettings c = .ok ⟨c, h⟩ := by
  unfold Ruleset.ofSettings
  split
  next e he => cases (fault?_of_sound h).symm.trans he
  next => rfl

theorem sound_of_ofText (h : ofText s = .ok c) : c.Sound := by
  cases ofText_eq_iff.1 h with
  | ok _ _ hsound => exact hsound

/-- What a text is read as is decided by the settings that it describes, and sound settings are read from every text
that has their fields, in any order and among others, where standard ones may be missing; in particular from what is
written for them.  Whatever settings are read from a text or changed by the environment are those of a ruleset. -/
theorem reads_variants :
    (∀ s outcome, ofText s = outcome ↔ Reads s outcome) ∧
    (∀ c : Settings, c.Sound → ∀ ms s, c.Variant ms → IsText s (.object ms) → ofText s = .ok c) ∧
    (∀ c : Settings, c.Sound → ofText (write c).compact = .ok c ∧ ofText (write c).indented = .ok c) ∧
    ∀ c : Settings, ((∃ s, ofText s = .ok c) ∨ ∃ start environment, withEnvironment start environment = .ok c) →
      ∃ rules, Ruleset.ofSettings c = .ok rules ∧ rules.settings = c := by
  have hvariant (c : Settings) (hc : c.Sound) (ms : List (JsonString × Json)) (s : String) (hms : c.Variant ms)
      (hs : IsText s (.object ms)) : ofText s = .ok c := ofText_of_reads (.ok hs hms.isSettings hc)
  refine ⟨fun s outcome => ofText_eq_iff, hvariant, fun c hc => ⟨?_, ?_⟩, ?_⟩
  · rw [write_eq]
    exact hvariant c hc _ _ (variant_members c) (Json.isText_compact _)
  · rw [write_eq]
    exact hvariant c hc _ _ (variant_members c) (Json.isText_indented _)
  · rintro c (⟨s, h⟩ | ⟨start, environment, h⟩)
    · exact ⟨_, ofSettings_of_sound (sound_of_ofText h), rfl⟩
    · exact ⟨_, ofSettings_of_sound (withEnvironment_eq_ok_iff.1 h).2, rfl⟩

/-- Settings with another last year alone, among members that no settings have, one of them twice. -/
theorem reads_variants_among_others :
    let c := { standard with maxYear := 2050 }
    let ms := [(some "note", .array []), (some "max_year", .int 2050), (some "note", Json.null)]
    c.Sound ∧ c.Variant ms ∧ ofText (Json.object ms).compact = .ok c := by
  intro c ms
  have hsound : c.Sound := by decide
  have hvariant : c.Variant ms := by
    refine ⟨[(some "max_year", .int 2050)], [(some "note", .array []), (some "note", .null)], .swap _ _ _, ?_, ?_, ?_⟩
    · exact .cons _ (.cons _ (List.Sublist.refl _))
    · intro m hm hnot
      simp only [members, List.mem_cons, List.not_mem_nil, or_false] at hm
      rcases hm with rfl | rfl | rfl
      · exact List.mem_cons_self
      · exact List.mem_cons_of_mem _ List.mem_cons_self
      · exact absurd (List.mem_singleton.2 rfl) hnot
    · intro m hm
      refine ⟨"note", ?_, by decide⟩
      simp only [List.mem_cons, List.not_mem_nil, or_false] at hm
      rcases hm with rfl | rfl <;> rfl
  exact ⟨hsound, hvariant, reads_variants.2.1 c hsound ms _ hvariant (Json.isText_compact _)⟩

end Settings

end Formulary

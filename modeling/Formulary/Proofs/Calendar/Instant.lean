import Formulary.Calendar.Instant
import Formulary.Proofs.Calendar.Date
import Formulary.Proofs.Text.Trim

/-!
# Reading timestamps back

An instant has many timestamps: one for each clock, ahead of universal time or behind it, and with more or fewer digits
of the fraction (`Instant.Stamp`).  Each of them names the instant (`ofTimestamp?_of_stamp`), and so does the one that is
written, in every year of the calendar (`ofTimestamp?_timestamp`).

The readers of a timestamp take its parts one after the other.  Each of them takes the part that is written for a value
and leaves what follows: a year ends where no digit follows (`year?_yearChars`), the other numbers have two digits
(`field?_padded`), and a fraction counts down to the nanosecond (`fraction?_of_fraction`).  What a clock shows at an
instant is read as the instant again (`ofLocal?_onClock?`), also where it shows another day.
-/

namespace Formulary

theorem Text.dropBlanks_cons {c : Char} (h : isBlank c = false) (cs : List Char) : dropBlanks (c :: cs) = c :: cs :=
  List.dropWhile_cons_of_neg (by simp [h])

namespace Instant

variable {t l : Instant} {date : Date} {c : Char} {width hour minute second nano n : Nat} {offset : Int}
  {digits rest fraction zone cs : List Char} {s : String}

theorem number?_append (hne : digits ≠ []) (hdigits : ∀ c ∈ digits, c.isDigit = true) (hle : digits.length ≤ width)
    (hrest : digits.length = width ∨ ∀ c ∈ rest.head?, c.isDigit = false) :
    number? width (digits ++ rest) = some (Numeral.value digits, rest) := by
  rw [number?, Numeral.spanDigits_append hdigits hle hrest]
  cases digits with
  | nil => exact absurd rfl hne
  | cons c digits => rfl

theorem dropBlanks_padded_append (width n : Nat) (rest : List Char) :
    Text.dropBlanks (Numeral.padded width n ++ rest) = Numeral.padded width n ++ rest := by
  obtain ⟨c, cs, hc, h⟩ := Numeral.exists_padded_eq_cons width n
  rw [h]
  exact Text.dropBlanks_cons (Text.isBlank_of_isDigit hc) _

theorem field?_padded (h : n < 100) (rest : List Char) : field? (Numeral.padded 2 n ++ rest) = some (n, rest) := by
  have hlength : (Numeral.padded 2 n).length = 2 := Numeral.length_padded (by decide) h
  rw [field?, dropBlanks_padded_append, number?_append (Numeral.padded_ne_nil 2 n)
    (fun _ => Numeral.isDigit_of_mem_padded) (Nat.le_of_eq hlength) (.inl hlength), Numeral.value_padded]

theorem after?_cons (h : Text.isBlank c = false) (rest : List Char) : after? c (c :: rest) = some rest := by
  rw [after?, Text.dropBlanks_cons h]
  exact if_pos rfl

/-- A year is read up to the first character that is no digit. -/
theorem year?_yearChars (year : Int) (hrest : ∀ c ∈ rest.head?, c.isDigit = false) :
    year? (yearChars year ++ rest) = some (year, rest) := by
  have hsigned : number? (Numeral.padded 4 year.natAbs ++ rest).length (Numeral.padded 4 year.natAbs ++ rest)
      = some (year.natAbs, rest) := by
    rw [number?_append (Numeral.padded_ne_nil _ _) (fun _ => Numeral.isDigit_of_mem_padded) (by simp) (.inr hrest),
      Numeral.value_padded]
  unfold yearChars
  split
  case isTrue h =>
    have hlength : (Numeral.padded 4 year.natAbs).length = 4 := Numeral.length_padded (by decide) (by omega)
    have hplain : number? 4 (Numeral.padded 4 year.natAbs ++ rest) = some (year.natAbs, rest) := by
      rw [number?_append (Numeral.padded_ne_nil _ _) (fun _ => Numeral.isDigit_of_mem_padded) (Nat.le_of_eq hlength)
        (.inl hlength), Numeral.value_padded]
    have hyear : (year.natAbs : Int) = year := by omega
    rw [year?, dropBlanks_padded_append]
    obtain ⟨c, cs, hc, hcons⟩ := Numeral.exists_padded_eq_cons 4 year.natAbs
    rw [hcons] at hplain ⊢
    split
    case h_1 heq =>
      obtain rfl : c = '-' := (List.cons.inj heq).1
      cases hc
    case h_2 heq =>
      obtain rfl : c = '+' := (List.cons.inj heq).1
      cases hc
    case h_3 => simp only [hplain, Option.map_some, hyear]
  case isFalse h =>
    by_cases hneg : year < 0
    · have hyear : -(year.natAbs : Int) = year := by omega
      rw [if_pos hneg, year?, List.cons_append, Text.dropBlanks_cons rfl]
      simp only [hsigned, Option.map_some, hyear]
    · have hyear : (year.natAbs : Int) = year := by omega
      rw [if_neg hneg, year?, List.cons_append, Text.dropBlanks_cons rfl]
      simp only [hsigned, Option.map_some, hyear]

/-! ### Clocks -/

/-- The instant is on the day to which the minutes lead from the one on the clock, and at the rest of the minutes. -/
theorem exists_apart_of_eq_some {minutes days : Int} {d : Date} (hdays : minutes / 1440 = days)
    (hapart : date.Apart days d)
    (h : (if h : second ≤ 60 ∧ nano < 1000000000 then
      some (Instant.mk d ((minutes % 1440).toNat / 60) ((minutes % 1440).toNat % 60) second nano (by omega) (by omega)
        h.1 h.2)
      else none) = some t) :
    (second = t.second ∧ nano = t.nano) ∧
      ∃ days, date.Apart days t.date ∧ minutes = days * 1440 + (t.hour * 60 + t.minute) := by
  split at h
  · obtain rfl := Option.some.inj h
    refine ⟨⟨rfl, rfl⟩, days, hapart, ?_⟩
    dsimp only
    omega
  · cases h

/-- A clock shows the second of the instant, and a time of day that is `offset` minutes later, maybe on another day. -/
theorem ofLocal?_eq_some_iff : ofLocal? date hour minute second nano offset = some t ↔
    (second = t.second ∧ nano = t.nano) ∧
      ∃ days, date.Apart days t.date ∧ (hour * 60 + minute : Int) - offset = days * 1440 + (t.hour * 60 + t.minute) := by
  constructor
  · intro h
    unfold ofLocal? at h
    dsimp only at h
    split at h
    case isTrue hdays => exact exists_apart_of_eq_some hdays (.same date) h
    case isFalse =>
      split at h
      case isTrue hdays =>
        obtain ⟨d, hdate, h⟩ := Option.bind_eq_some_iff.1 h
        exact exists_apart_of_eq_some hdays (.next hdate) h
      case isFalse =>
        split at h
        case isTrue hdays =>
          obtain ⟨d, hdate, h⟩ := Option.bind_eq_some_iff.1 h
          exact exists_apart_of_eq_some hdays (.previous hdate) h
        case isFalse => cases h
  · intro h
    obtain ⟨⟨rfl, rfl⟩, days, hapart, hminutes⟩ := h
    have hhour := t.hour_lt
    have hminute := t.minute_lt
    have hdays : ((hour * 60 + minute : Int) - offset) / 1440 = days := by omega
    have hofDay : (((hour * 60 + minute : Int) - offset) % 1440).toNat = t.hour * 60 + t.minute := by omega
    have hhours : (t.hour * 60 + t.minute) / 60 = t.hour := by omega
    have hrest : (t.hour * 60 + t.minute) % 60 = t.minute := by omega
    unfold ofLocal?
    cases hapart with
    | same => simp [hdays, hofDay, hhours, hrest, t.second_le, t.nano_lt]
    | next hdate => simp [hdays, hofDay, hhours, hrest, t.second_le, t.nano_lt, hdate]
    | previous hdate => simp [hdays, hofDay, hhours, hrest, t.second_le, t.nano_lt, hdate]

/-- What a clock shows at an instant, if it is `offset` minutes ahead of universal time. -/
def onClock? (t : Instant) (offset : Int) : Option Instant :=
  ofLocal? t.date t.hour t.minute t.second t.nano (-offset)

/-- What a clock shows at an instant is read as this instant. -/
theorem ofLocal?_onClock? (h : t.onClock? offset = some l) :
    ofLocal? l.date l.hour l.minute l.second l.nano offset = some t := by
  obtain ⟨⟨hsecond, hnano⟩, days, hapart, hminutes⟩ := ofLocal?_eq_some_iff.1 h
  refine ofLocal?_eq_some_iff.2 ⟨⟨hsecond.symm, hnano.symm⟩, -days, hapart.symm, ?_⟩
  omega

theorem onClock?_zero (t : Instant) : t.onClock? 0 = some t :=
  ofLocal?_eq_some_iff.2 ⟨⟨rfl, rfl⟩, 0, .same t.date, by omega⟩

/-! ### Fractions and zones -/

/-- The fraction of a second, down to nanoseconds: none, or a point and some digits. -/
inductive Fraction : Nat → List Char → Prop
  | none : Fraction 0 []
  | digits {digits : List Char} (hne : digits ≠ []) (hdigits : ∀ c ∈ digits, c.isDigit = true) :
      Fraction (Numeral.value digits * 10 ^ 9 / 10 ^ digits.length) ('.' :: digits)

/-- The offset of a zone from universal time, in minutes. -/
inductive Zone : Int → List Char → Prop
  | universal {mark : Char} (hmark : mark = 'Z' ∨ mark = 'z') : Zone 0 [mark]
  | ahead {hour minute : Nat} (hhour : hour < 24) (hminute : minute < 60) :
      Zone (hour * 60 + minute : Nat) ('+' :: (Numeral.padded 2 hour ++ ':' :: Numeral.padded 2 minute))
  | behind {hour minute : Nat} (hhour : hour < 24) (hminute : minute < 60) :
      Zone (-(hour * 60 + minute : Nat)) ('-' :: (Numeral.padded 2 hour ++ ':' :: Numeral.padded 2 minute))

theorem fraction?_of_spanDigits {taken left cs : List Char} (hspan : Numeral.spanDigits 9 cs = (taken, left))
    (hne : taken ≠ []) : fraction? ('.' :: cs) =
      some (Numeral.value (taken ++ List.replicate (9 - taken.length) '0'), left.dropWhile Char.isDigit) := by
  rw [fraction?, hspan]
  split
  case h_1 heq => exact absurd (Prod.mk.inj heq).1 hne
  case h_2 heq =>
    obtain ⟨rfl, rfl⟩ := Prod.mk.inj heq
    rfl

theorem fraction?_digits (hne : digits ≠ []) (hdigits : ∀ c ∈ digits, c.isDigit = true)
    (hrest : ∀ c ∈ rest.head?, c.isDigit = false) :
    fraction? ('.' :: (digits ++ rest)) = some (Numeral.value digits * 10 ^ 9 / 10 ^ digits.length, rest) := by
  by_cases hle : digits.length ≤ 9
  · have hpow : 10 ^ 9 = 10 ^ (9 - digits.length) * 10 ^ digits.length := by
      rw [← Nat.pow_add, Nat.sub_add_cancel hle]
    have hspan : Numeral.spanDigits 9 (digits ++ rest) = (digits, rest) :=
      Numeral.spanDigits_append hdigits hle (.inr hrest)
    rw [fraction?_of_spanDigits hspan hne, Numeral.value_append_replicate_zero,
      Numeral.dropWhile_isDigit_eq_self hrest, hpow, ← Nat.mul_assoc, Nat.mul_div_cancel _ (Nat.pow_pos (by decide)),
      Nat.mul_comm]
  · obtain ⟨first, others, rfl, hlength⟩ : ∃ first others, digits = first ++ others ∧ first.length = 9 :=
      ⟨digits.take 9, digits.drop 9, (List.take_append_drop 9 digits).symm, List.length_take_of_le (by omega)⟩
    have hfirst : ∀ c ∈ first, c.isDigit = true := fun c hc => hdigits c (List.mem_append_left _ hc)
    have hothers : ∀ c ∈ others, c.isDigit = true := fun c hc => hdigits c (List.mem_append_right _ hc)
    have hspan : Numeral.spanDigits 9 (first ++ (others ++ rest)) = (first, others ++ rest) :=
      Numeral.spanDigits_append hfirst (Nat.le_of_eq hlength) (.inl hlength)
    -- the digits after the ninth stand for less than a nanosecond
    have hvalue : Numeral.value (first ++ others) * 10 ^ 9 / 10 ^ (first ++ others).length = Numeral.value first := by
      rw [List.length_append, hlength, Nat.add_comm, Nat.pow_add, Nat.mul_div_mul_right _ _ (by decide),
        Numeral.value_append, Nat.mul_add_div (Nat.pow_pos (by decide)), Nat.div_eq_of_lt (Numeral.value_lt hothers),
        Nat.add_zero]
    rw [hvalue, List.append_assoc, fraction?_of_spanDigits hspan (List.ne_nil_of_length_pos (by omega)), hlength,
      Nat.sub_self, List.replicate_zero, List.append_nil, Numeral.dropWhile_isDigit_append hothers hrest]

theorem fraction?_of_fraction (h : Fraction n fraction) (hpoint : rest.head? ≠ some '.')
    (hrest : ∀ c ∈ rest.head?, c.isDigit = false) : fraction? (fraction ++ rest) = some (n, rest) := by
  cases h with
  | none =>
    rw [List.nil_append, fraction?.eq_2]
    rintro cs rfl
    exact hpoint rfl
  | digits hne hdigits => exact fraction?_digits hne hdigits hrest

theorem fraction_fractionChars (h : n < 1000000000) : Fraction n (fractionChars n) := by
  have hpadded (width m : Nat) (hwidth : 0 < width) (hlt : m < 10 ^ width) (hvalue : m * 10 ^ 9 / 10 ^ width = n) :
      Fraction n ('.' :: Numeral.padded width m) := by
    have hfraction := Fraction.digits (Numeral.padded_ne_nil width m) fun _ => Numeral.isDigit_of_mem_padded
    rwa [Numeral.value_padded, Numeral.length_padded hwidth hlt, hvalue] at hfraction
  unfold fractionChars
  split
  case isTrue hzero =>
    rw [hzero]
    exact .none
  case isFalse hzero =>
    split
    case isTrue hmilli => exact hpadded 3 _ (by decide) (by omega) (by omega)
    case isFalse =>
      split
      case isTrue hmicro => exact hpadded 6 _ (by decide) (by omega) (by omega)
      case isFalse => exact hpadded 9 _ (by decide) (by omega) (by omega)

theorem offsetMinutes?_padded (hhour : hour < 24) (hminute : minute < 60) :
    offsetMinutes? (Numeral.padded 2 hour ++ ':' :: Numeral.padded 2 minute) = some (hour * 60 + minute, []) := by
  obtain ⟨h₁, h₂, hh⟩ := List.length_eq_two.1 (Numeral.length_padded (by decide) (by omega : hour < 10 ^ 2))
  obtain ⟨m₁, m₂, hm⟩ := List.length_eq_two.1 (Numeral.length_padded (by decide) (by omega : minute < 10 ^ 2))
  have hhours : Numeral.value [h₁, h₂] = hour := by rw [← hh, Numeral.value_padded]
  have hminutes : Numeral.value [m₁, m₂] = minute := by rw [← hm, Numeral.value_padded]
  have hdigits : ∀ c ∈ [h₁, h₂] ++ [m₁, m₂], c.isDigit = true := by
    rw [← hh, ← hm]
    intro c hc
    rcases List.mem_append.1 hc with hc | hc
    · exact Numeral.isDigit_of_mem_padded hc
    · exact Numeral.isDigit_of_mem_padded hc
  have hdrop : [':', m₁, m₂].dropWhile (fun c => c = ':' ∨ Text.isBlank c) = [m₁, m₂] := by
    have hm₁ : m₁.isDigit = true := hdigits m₁ (by simp)
    have hcolon : m₁ ≠ ':' := by
      rintro rfl
      cases hm₁
    rw [List.dropWhile_cons_of_pos (by simp), List.dropWhile_cons_of_neg]
    simp [hcolon, Text.isBlank_of_isDigit hm₁]
  rw [hh, hm, List.cons_append, List.cons_append, List.nil_append, offsetMinutes?, hdrop]
  dsimp only
  rw [hhours, hminutes, if_pos ⟨List.all_eq_true.2 hdigits, hminute, hhour⟩]

theorem offset?_of_zone (h : Zone offset zone) : offset? zone = some (offset, []) := by
  cases h with
  | universal hmark =>
    rcases hmark with rfl | rfl
    · rfl
    · rfl
  | ahead hhour hminute => rw [offset?, offsetMinutes?_padded hhour hminute, Option.map_some]
  | behind hhour hminute => rw [offset?, offsetMinutes?_padded hhour hminute, Option.map_some]

/-- A zone starts with a mark that no other part of a timestamp has. -/
theorem Zone.exists_eq_cons (h : Zone offset zone) :
    ∃ mark rest, zone = mark :: rest ∧ mark.isDigit = false ∧ Text.isBlank mark = false ∧ mark ≠ '.' := by
  cases h with
  | universal hmark =>
    rcases hmark with rfl | rfl
    · exact ⟨'Z', _, rfl, rfl, rfl, nofun⟩
    · exact ⟨'z', _, rfl, rfl, rfl, nofun⟩
  | ahead => exact ⟨'+', _, rfl, rfl, rfl, nofun⟩
  | behind => exact ⟨'-', _, rfl, rfl, rfl, nofun⟩

/-! ### Timestamps -/

/-- The timestamps of an instant: what a clock shows, in any zone and with a fraction of any length. -/
inductive Stamp (t : Instant) : List Char → Prop
  | intro {offset : Int} {l : Instant} {mark : Char} {fraction zone : List Char} (hclock : t.onClock? offset = some l)
      (hmark : mark ∈ ['T', 't', ' ']) (hfraction : Fraction l.nano fraction) (hzone : Zone offset zone) :
      Stamp t (yearChars l.date.year ++ '-' :: (Numeral.padded 2 l.date.month ++ '-' :: (Numeral.padded 2 l.date.day
        ++ mark :: (Numeral.padded 2 l.hour ++ ':' :: (Numeral.padded 2 l.minute ++ ':' :: (Numeral.padded 2 l.second
        ++ (fraction ++ zone)))))))

/-- Every timestamp of an instant names it. -/
theorem ofChars?_of_stamp {cs : List Char} (h : t.Stamp cs) : ofChars? cs = some t := by
  cases h with
  | @intro offset l mark fraction zone hclock hmark hfraction hzone =>
    have hmonth : l.date.month < 100 := by have := l.date.month_mem; omega
    have hday : l.date.day < 100 := by have := l.date.day_mem; have := daysInMonth_le l.date.year l.date.month; omega
    have hhour : l.hour < 100 := by have := l.hour_lt; omega
    have hminute : l.minute < 100 := by have := l.minute_lt; omega
    have hsecond : l.second < 100 := by have := l.second_le; omega
    have hoffset : offset? zone = some (offset, []) := offset?_of_zone hzone
    obtain ⟨sign, rest, rfl, hdigit, hblank, hpoint⟩ := hzone.exists_eq_cons
    have hyear (rest : List Char) : year? (yearChars l.date.year ++ '-' :: rest) = some (l.date.year, '-' :: rest) :=
      year?_yearChars _ (by simp)
    have hdash (rest : List Char) : after? '-' ('-' :: rest) = some rest := after?_cons rfl rest
    have hcolon (rest : List Char) : after? ':' (':' :: rest) = some rest := after?_cons rfl rest
    have hnano : fraction? (fraction ++ sign :: rest) = some (l.nano, sign :: rest) :=
      fraction?_of_fraction hfraction (by simpa using hpoint) (by simpa using hdigit)
    -- each reader takes its part and leaves the rest to the next one
    refine Option.bind_eq_some_iff.2 ⟨_, hyear _, ?_⟩
    refine Option.bind_eq_some_iff.2 ⟨_, hdash _, ?_⟩
    refine Option.bind_eq_some_iff.2 ⟨_, field?_padded hmonth _, ?_⟩
    refine Option.bind_eq_some_iff.2 ⟨_, hdash _, ?_⟩
    refine Option.bind_eq_some_iff.2 ⟨_, field?_padded hday _, ?_⟩
    refine (if_pos (by simpa using hmark)).trans ?_
    refine Option.bind_eq_some_iff.2 ⟨_, rfl, ?_⟩
    refine Option.bind_eq_some_iff.2 ⟨_, field?_padded hhour _, ?_⟩
    refine Option.bind_eq_some_iff.2 ⟨_, hcolon _, ?_⟩
    refine Option.bind_eq_some_iff.2 ⟨_, field?_padded hminute _, ?_⟩
    refine Option.bind_eq_some_iff.2 ⟨_, hcolon _, ?_⟩
    refine Option.bind_eq_some_iff.2 ⟨_, field?_padded hsecond _, ?_⟩
    refine Option.bind_eq_some_iff.2 ⟨_, hnano, ?_⟩
    refine Option.bind_eq_some_iff.2 ⟨(offset, []), ?_, ?_⟩
    · rw [Text.dropBlanks_cons hblank, hoffset]
    refine Option.bind_eq_some_iff.2 ⟨l.date, l.date.ofNumbers?_self, ?_⟩
    exact (if_pos ⟨rfl, l.hour_lt, l.minute_lt⟩).trans (ofLocal?_onClock? hclock)

theorem stamp_timestamp (t : Instant) : t.Stamp t.timestamp.toList := by
  have h : t.Stamp _ := .intro t.onClock?_zero (by decide : 'T' ∈ ['T', 't', ' ']) (fraction_fractionChars t.nano_lt)
    (.universal (.inl rfl))
  rw [timestamp, String.toList_ofList]
  simpa using h

theorem ofTimestamp?_of_stamp {s : String} (h : t.Stamp s.toList) : ofTimestamp? s = some t := ofChars?_of_stamp h

/-- The timestamp of an instant names it. -/
theorem ofTimestamp?_timestamp (t : Instant) : ofTimestamp? t.timestamp = some t :=
  ofTimestamp?_of_stamp t.stamp_timestamp

example : ofTimestamp? "2024-03-01T00:30:00.5004+01:00" = ofTimestamp? "2024-02-29T23:30:00.500400Z" := by decide

end Instant

end Formulary

import Formulary.Text.Numeral
import Mathlib.Algebra.Ring.Nat
import Mathlib.Data.List.Induction

/-!
# Reading hexadecimal numerals back

A hexadecimal numeral stands for the number for which it is written, with any number of leading zeros (`value?_padded`)
and with letters of either case (`value?_map_toLower`).
-/

namespace Formulary.Hex

theorem digit?_digitChar : ∀ d < 16, digit? (Nat.digitChar d) = some d := by decide

theorem value?_append (ds es : List Char) :
    value? (ds ++ es) = (value? ds).bind fun n => es.foldlM (fun n c => (digit? c).map (n * 16 + ·)) n :=
  List.foldlM_append

theorem value?_toDigits (n : Nat) : value? (Nat.toDigits 16 n) = some n := by
  induction n using Nat.base_induction 16 (by decide) with
  | single m hm => simp [Nat.toDigits_of_lt_base hm, value?, digit?_digitChar m hm]
  | digit m k hk hm ih =>
    rw [← Nat.toDigits_append_toDigits (by decide) hm hk, value?_append, ih, Nat.toDigits_of_lt_base hk]
    simp [digit?_digitChar k hk, Nat.mul_comm]

theorem value?_padded (width n : Nat) : value? (padded width n) = some n := by
  have hzeros (k : Nat) : value? (List.replicate k '0') = some 0 := by
    induction k with
    | zero => rfl
    | succ k ih => exact ih
  rw [padded, value?_append, hzeros]
  exact value?_toDigits n

theorem length_padded {width n : Nat} (hwidth : 0 < width) (h : n < 16 ^ width) : (padded width n).length = width := by
  have hle : (Nat.toDigits 16 n).length ≤ width := (Nat.length_toDigits_le_iff (by decide) hwidth).2 h
  rw [padded, List.length_append, List.length_replicate]
  omega

theorem exists_digitChar_of_mem_toDigits (n : Nat) : ∀ c ∈ Nat.toDigits 16 n, ∃ d < 16, c = Nat.digitChar d := by
  induction n using Nat.base_induction 16 (by decide) with
  | single m hm =>
    intro c hc
    rw [Nat.toDigits_of_lt_base hm] at hc
    exact ⟨m, hm, List.mem_singleton.1 hc⟩
  | digit m k hk hm ih =>
    intro c hc
    rw [← Nat.toDigits_append_toDigits (by decide) hm hk, Nat.toDigits_of_lt_base hk] at hc
    rcases List.mem_append.1 hc with hc | hc
    · exact ih c hc
    · exact ⟨k, hk, List.mem_singleton.1 hc⟩

theorem exists_digitChar_of_mem_padded {c : Char} {width n : Nat} (h : c ∈ padded width n) :
    ∃ d < 16, c = Nat.digitChar d := by
  rcases List.mem_append.1 h with h | h
  · exact ⟨0, by decide, (List.mem_replicate.1 h).2⟩
  · exact exists_digitChar_of_mem_toDigits n c h

/-- Letters stand for the same digits in either case. -/
theorem digit?_toLower (c : Char) : digit? c.toLower = digit? c := by
  have hascii : ∀ n < 128, digit? (Char.ofNat n).toLower = digit? (Char.ofNat n) := by decide
  by_cases hc : c.toNat < 128
  · have h := hascii c.toNat hc
    rwa [Char.ofNat_toNat] at h
  · have hlower : c.toLower = c := by
      refine dif_neg fun h => hc ?_
      have hle : c.toNat ≤ 'Z'.toNat := h.2
      have hz : 'Z'.toNat = 90 := rfl
      omega
    rw [hlower]

theorem value?_map_toLower (digits : List Char) : value? (digits.map Char.toLower) = value? digits := by
  simp only [value?, List.foldlM_map, digit?_toLower]

theorem map_toLower_padded (width n : Nat) : (padded width n).map Char.toLower = padded width n := by
  have hdigit : ∀ d < 16, (Nat.digitChar d).toLower = Nat.digitChar d := by decide
  have hsame : ∀ c ∈ padded width n, c.toLower = id c := by
    intro c hc
    obtain ⟨d, hd, rfl⟩ := exists_digitChar_of_mem_padded hc
    exact hdigit d hd
  rw [List.map_congr_left hsame, List.map_id]

theorem digit?_lt {c : Char} {d : Nat} (h : digit? c = some d) : d < 16 := by
  have hnat (a b : Char) : a ≤ b ↔ a.toNat ≤ b.toNat := UInt32.le_iff_toNat_le
  unfold digit? at h
  simp only [hnat] at h
  split at h
  · cases h
    rename_i hc
    have : '9'.toNat = 0x39 := rfl
    omega
  · split at h
    · cases h
      rename_i hc
      have : 'f'.toNat = 0x66 := rfl
      omega
    · split at h
      · cases h
        rename_i hc
        have : 'F'.toNat = 0x46 := rfl
        omega
      · cases h

/-- A numeral of some digits stands for a number below that power of sixteen. -/
theorem value?_lt {ds : List Char} {n : Nat} (h : value? ds = some n) : n < 16 ^ ds.length := by
  induction ds using List.reverseRecOn generalizing n with
  | nil =>
    cases h
    decide
  | append_singleton ds c ih =>
    rw [value?_append, Option.bind_eq_some_iff] at h
    obtain ⟨m, hm, hc⟩ := h
    simp only [List.foldlM_cons, List.foldlM_nil, Option.bind_eq_bind, Option.bind_eq_some_iff,
      Option.map_eq_some_iff, Option.pure_def, Option.some.injEq] at hc
    obtain ⟨_, ⟨d, hd, rfl⟩, rfl⟩ := hc
    have hlt := ih hm
    have hdigit := digit?_lt hd
    rw [List.length_append, List.length_singleton, Nat.pow_succ]
    omega

end Formulary.Hex

import Mathlib.Order.Basic

/-!
# Texts as bytes

Texts are compared by their code points.  UTF-8 keeps that order: it is also the lexicographic order of the bytes
(`Text.bytes_lt_bytes_iff`).
-/

namespace Formulary.Text

/-- The bytes of a text in UTF-8. -/
def bytes (s : String) : List UInt8 := s.toByteArray.data.toList

variable {c d : Char} {s t : String}

theorem bytes_eq_flatMap (s : String) : bytes s = s.toList.flatMap String.utf8EncodeChar := by
  rw [bytes, ← String.utf8Encode_toList, List.utf8Encode, List.toList_data_toByteArray]

/-- The first digit in which two numbers differ decides. -/
private theorem div_lt_or_mod_lt {m n : Nat} (h : m < n) (base : Nat) :
    m / base < n / base ∨ m / base = n / base ∧ m % base < n % base := by
  rcases Nat.lt_or_eq_of_le (Nat.div_le_div_right (Nat.le_of_lt h)) with hlt | heq
  · exact .inl hlt
  · refine .inr ⟨heq, ?_⟩
    have hm := Nat.div_add_mod m base
    have hn := Nat.div_add_mod n base
    rw [heq] at hm
    omega

/-- A greater character has greater bytes, whatever follows. -/
private theorem utf8EncodeChar_append_lt (h : c < d) (bs es : List UInt8) :
    String.utf8EncodeChar c ++ bs < String.utf8EncodeChar d ++ es := by
  have hval : c.val.toNat < d.val.toNat := h
  have htop : c.val.toNat / 262144 < 8 ∧ d.val.toNat / 262144 < 8 := by
    have hmax := d.valid
    omega
  have hlt {m n : Nat} (hm : m < 256) (hn : n < 256) : UInt8.ofNat m < UInt8.ofNat n ↔ m < n := by
    rw [UInt8.lt_iff_toNat_lt, UInt8.toNat_ofNat_of_lt' hm, UInt8.toNat_ofNat_of_lt' hn]
  have heq {m n : Nat} (hm : m < 256) (hn : n < 256) : UInt8.ofNat m = UInt8.ofNat n ↔ m = n := by
    rw [← UInt8.toNat_inj, UInt8.toNat_ofNat_of_lt' hm, UInt8.toNat_ofNat_of_lt' hn]
  have hdigit (m : Nat) (h : c.val.toNat / m < d.val.toNat / m) :=
    Nat.div_div_eq_div_mul c.val.toNat m 64 ▸ Nat.div_div_eq_div_mul d.val.toNat m 64 ▸ div_lt_or_mod_lt h 64
  have h₁ := div_lt_or_mod_lt hval 64
  have h₂ := hdigit 64
  have h₃ := hdigit 4096
  unfold String.utf8EncodeChar
  -- more bytes start with a greater one, and of equally many the first that differs decides
  dsimp only
  split_ifs
  all_goals
    simp (disch := omega) only [List.cons_append, List.nil_append, List.cons_lt_cons_iff, hlt, heq]
    omega

private theorem flatMap_lt {cs ds : List Char} (h : cs < ds) :
    cs.flatMap String.utf8EncodeChar < ds.flatMap String.utf8EncodeChar := by
  induction h with
  | @nil d ds =>
    obtain ⟨b, bs, hb⟩ : ∃ b bs, String.utf8EncodeChar d = b :: bs :=
      List.exists_cons_of_ne_nil String.utf8EncodeChar_ne_nil
    rw [List.flatMap_nil, List.flatMap_cons, hb]
    exact List.nil_lt_cons b _
  | rel h => exact utf8EncodeChar_append_lt h _ _
  | cons _ ih => exact List.append_left_lt ih

/-- The order of texts is the lexicographic order of their bytes. -/
theorem bytes_lt_bytes_iff : bytes s < bytes t ↔ s < t := by
  have hmono {s t : String} (h : s < t) : bytes s < bytes t := by
    rw [bytes_eq_flatMap, bytes_eq_flatMap]
    exact flatMap_lt (String.lt_iff.1 h)
  refine ⟨fun h => ?_, hmono⟩
  rcases Std.lt_trichotomy s t with hlt | rfl | hgt
  · exact hlt
  · exact absurd h (List.lt_irrefl _)
  · exact absurd h (List.lt_asymm (hmono hgt))

end Formulary.Text

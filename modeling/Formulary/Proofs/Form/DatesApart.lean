import Formulary.Proofs.Calendar.French
import Formulary.Proofs.Table
import Formulary.Template.Filling
import Mathlib.Algebra.Order.BigOperators.Group.List

/-!
# Dates told apart

Different dates have different long forms, and months different labels.  Whether a filled text tells two values of one
key apart is decided by what is shown for them, however often the key is filled in: where a longer text takes the place
of a shorter one the whole gets longer, and texts of one length stand at the same places (`eq_of_flatMap_eq`).  So two
dates never fill a blank to the same text.
-/

namespace Formulary

/-! ### Texts with one part replaced -/

section Replace

variable {α β : Type} {l : List α} {f g : α → List β} {u v : List β}

theorem length_flatMap_lt (h : ∀ a ∈ l, f a = g a ∨ f a = u ∧ g a = v) (hmem : ∃ a ∈ l, f a = u ∧ g a = v)
    (hlt : u.length < v.length) : (l.flatMap f).length < (l.flatMap g).length := by
  rw [List.length_flatMap, List.length_flatMap]
  refine List.sum_lt_sum _ _ (fun a ha => ?_) ?_
  · rcases h a ha with heq | ⟨hu, hv⟩
    · rw [heq]
    · rw [hu, hv]
      exact Nat.le_of_lt hlt
  · obtain ⟨a, ha, hu, hv⟩ := hmem
    refine ⟨a, ha, ?_⟩
    rw [hu, hv]
    exact hlt

/-- Parts of the same lengths are the same if the whole is. -/
theorem forall_eq_of_flatMap_eq (hlength : ∀ a ∈ l, (f a).length = (g a).length) (h : l.flatMap f = l.flatMap g) :
    ∀ a ∈ l, f a = g a := by
  induction l with
  | nil => exact nofun
  | cons a l ih =>
    rw [List.forall_mem_cons] at hlength
    rw [List.flatMap_cons, List.flatMap_cons] at h
    obtain ⟨hhead, htail⟩ := List.append_inj h hlength.1
    exact List.forall_mem_cons.2 ⟨hhead, ih hlength.2 htail⟩

/-- If another text stands in some of the places, the whole is another one. -/
theorem eq_of_flatMap_eq (h : ∀ a ∈ l, f a = g a ∨ f a = u ∧ g a = v) (hmem : ∃ a ∈ l, f a = u ∧ g a = v)
    (heq : l.flatMap f = l.flatMap g) : u = v := by
  have hlength : u.length = v.length := by
    rcases Nat.lt_trichotomy u.length v.length with hlt | hlength | hlt
    · exact absurd (congrArg List.length heq) (Nat.ne_of_lt (length_flatMap_lt h hmem hlt))
    · exact hlength
    · have h' : ∀ a ∈ l, g a = f a ∨ g a = v ∧ f a = u := fun a ha => (h a ha).imp Eq.symm And.symm
      have hmem' : ∃ a ∈ l, g a = v ∧ f a = u := hmem.imp fun a ha => ⟨ha.1, ha.2.symm⟩
      exact absurd (congrArg List.length heq) (Nat.ne_of_gt (length_flatMap_lt h' hmem' hlt))
  have hparts : ∀ a ∈ l, f a = g a := by
    refine forall_eq_of_flatMap_eq (fun a ha => ?_) heq
    rcases h a ha with hsame | ⟨hu, hv⟩
    · rw [hsame]
    · rw [hu, hv, hlength]
  obtain ⟨a, ha, hu, hv⟩ := hmem
  rw [← hu, ← hv, hparts a ha]

end Replace

/-! ### Filled texts -/

/-- The names of the blanks of a text that are filled, from left to right. -/
def Blank.filledNames (body : String) (names : List String) : List String :=
  (Text.tokens (Blank.recogniser names) body.toList).map Prod.fst

/-- A filled text shows what is shown for the value of each blank in it. -/
theorem display_eq_of_fill_eq {body key s t : String} {values : FormValues}
    (hkey : key ∈ Blank.filledNames body (values.insert key s).keys)
    (h : fill body (values.insert key s) = fill body (values.insert key t)) : French.display s = French.display t := by
  obtain ⟨⟨name, chars⟩, hmem, rfl⟩ := List.mem_map.1 hkey
  obtain ⟨piece, hpiece, htoken⟩ := List.mem_filterMap.1 hmem
  have hs (chars : List Char) : fillPiece (values.insert name s) (.token name chars) = (French.display s).toList := by
    simp only [fillPiece, Table.get?_insert, if_true]
  have ht (chars : List Char) : fillPiece (values.insert name t) (.token name chars) = (French.display t).toList := by
    simp only [fillPiece, Table.get?_insert, if_true]
  rw [fill, fill, Table.keys_insert_eq values name t s] at h
  refine String.toList_inj.1 (eq_of_flatMap_eq (fun piece _ => ?_) ⟨piece, hpiece, ?_⟩ (String.ofList_injective h))
  · cases piece with
    | plain c => exact .inl rfl
    | token other chars =>
      by_cases hother : other = name
      · subst hother
        exact .inr ⟨hs chars, ht chars⟩
      · left
        simp only [fillPiece, Table.get?_insert, if_neg hother]
  · cases piece with
    | plain c => cases htoken
    | token other chars' =>
      obtain ⟨rfl, rfl⟩ := Prod.mk.inj (Option.some.inj htoken)
      exact ⟨hs _, ht _⟩

namespace French

theorem shortMonth_inMonth_eq_iff {a b : Date} :
    shortMonth a.inMonth = shortMonth b.inMonth ↔ a.year = b.year ∧ a.month = b.month := by
  rw [shortMonth_injective.eq_iff]
  simp only [Date.inMonth, Month.mk.injEq]

theorem display_ne {s t : String} {a b : Date} (hs : Date.ofIso? s = some a) (ht : Date.ofIso? t = some b)
    (hne : s ≠ t) : display s ≠ display t := by
  intro h
  have hdates : fullDate a = fullDate b := by simpa only [display, hs, ht] using h
  obtain rfl := fullDate_injective hdates
  exact hne ((Date.ofIso?_eq_some_iff.1 hs).2.symm.trans (Date.ofIso?_eq_some_iff.1 ht).2)

/-- Dates are told apart by their long forms, in all years of the calendar, and by the labels of their months if and only
if these are different months.  Two wire forms of dates are shown as different texts, and a text with a blank for their key
becomes a different text with each of them. -/
theorem tells_dates_apart :
    (∀ a b : Date, fullDate a = fullDate b → a = b) ∧
      (∀ a b : Date, shortMonth a.inMonth = shortMonth b.inMonth ↔ a.year = b.year ∧ a.month = b.month) ∧
      ∀ (s t : String) (a b : Date), Date.ofIso? s = some a → Date.ofIso? t = some b → s ≠ t →
        display s ≠ display t ∧ ∀ (body key : String) (values : FormValues),
          key ∈ Blank.filledNames body (values.insert key s).keys →
            fill body (values.insert key s) ≠ fill body (values.insert key t) := by
  refine ⟨fun _ _ h => fullDate_injective h, fun _ _ => shortMonth_inMonth_eq_iff, ?_⟩
  intro s t a b hs ht hne
  have hdisplay : display s ≠ display t := display_ne hs ht hne
  exact ⟨hdisplay, fun _ _ _ hkey h => hdisplay (display_eq_of_fill_eq hkey h)⟩

/-- The names of June and July share a prefix, and a day of the first year of all is no day of a later one. -/
theorem tells_dates_apart_in_summer :
    let june : Date := ⟨-262143, 6, 11, by decide, by decide, by decide⟩
    let july : Date := ⟨262142, 7, 1, by decide, by decide, by decide⟩
    fullDate june ≠ fullDate july ∧ display "2025-06-01" ≠ display "2025-07-01" ∧
      fill "Du {{debut}} au {{debut:date}}" (Table.ofList [("debut", "2025-06-01")]) ≠
        fill "Du {{debut}} au {{debut:date}}" (Table.ofList [("debut", "2025-07-01")]) := by
  intro june july
  obtain ⟨hlong, -, hwire⟩ := tells_dates_apart
  obtain ⟨hdisplay, hfill⟩ := hwire "2025-06-01" "2025-07-01" ⟨2025, 6, 1, by decide, by decide, by decide⟩
    ⟨2025, 7, 1, by decide, by decide, by decide⟩ rfl rfl (by decide)
  refine ⟨fun h => ?_, hdisplay, hfill _ "debut" ∅ (by decide +kernel)⟩
  have hday : 11 = 1 := congrArg Date.day (hlong june july h)
  omega

end French

end Formulary

import Formulary.Proofs.Calendar.French
import Formulary.Proofs.Calendar.Month
import Formulary.Proofs.Counting
import Formulary.Proofs.Office.Listing

/-!
# Activity

The tallies that a user is told are for the months in a row up to today's, as far as the calendar reaches back, and each
of them counts the documents made in its month that the user may view (`Activity.Tells`).  As no month comes twice, they
come out of one pass through the documents, and no document is counted twice.
-/

namespace Formulary.Activity

/-- How many of some documents that a user may view were made in a month. -/
def madeIn (actor : User) (documents : List Document) (m : Month) : Nat :=
  documents.countP fun d => actor.may .view (.document d) && d.createdAt.date.inMonth = m

/-- What a user is to be told of the documents made in some months up to today's. -/
structure Tells (actor : User) (documents : List Document) (today : Date) (months : Nat) (tallies : List Tally) :
    Prop where
  /-- The months in a row up to today's, the oldest first, without those before the calendar. -/
  months_eq : tallies.map Tally.month =
    (Month.upTo today.inMonth (min months 120)).filter fun m => firstYear ≤ m.year
  length_eq : tallies.length = min (min months 120) today.inMonth.place
  isChain : (tallies.map Tally.month).IsChain fun a b => b = a.next
  getLast?_eq : ∀ m ∈ (tallies.map Tally.month).getLast?, m = today.inMonth
  nodup : (tallies.map Tally.month).Nodup
  label_eq : ∀ t ∈ tallies,
    t.label = French.monthAbbreviations.getD (t.month.number - 1) "" ++ " " ++ toString t.month.year
  count_eq : ∀ t ∈ tallies, t.count = documents.countP fun d =>
    actor.may .view (.document d) && (d.createdAt.date.year = t.month.year && d.createdAt.date.month = t.month.number)
  sum_eq : (tallies.map Tally.count).sum = documents.countP fun d =>
    actor.may .view (.document d) && d.createdAt.date.inMonth ∈ Month.upTo today.inMonth (min months 120)
  countP_le_one : ∀ d : Document, (tallies.countP fun t => t.month = d.createdAt.date.inMonth) ≤ 1

variable {actor : User} {documents : List Document} {today : Date} {months : Nat} {m : Month} {t : Tally}

/-! ### The months -/

theorem monthsUpTo_eq (last : Month) (count : Nat) :
    monthsUpTo last count = (Month.upTo last count).filter fun m => firstYear ≤ m.year := by
  refine congrArg (List.filter _) ?_
  induction count with
  | zero => rfl
  | succ count ih =>
    rw [List.range_succ, List.reverse_append, List.reverse_singleton, List.singleton_append, List.map_cons, ih,
      Month.ofIndex_sub, Month.upTo]

theorem monthsUpTo_inMonth (today : Date) (count : Nat) :
    monthsUpTo today.inMonth count = Month.upTo today.inMonth (min count today.inMonth.place) := by
  rw [monthsUpTo_eq, Month.filter_upTo today.year_mem.1]

/-! ### The counts -/

theorem tallies_eq (actor : User) (documents : List Document) (today : Date) (months : Nat) :
    tallies actor documents today months =
      (monthsUpTo today.inMonth (min months 120)).map fun m => ⟨m, madeIn actor documents m⟩ := by
  refine List.map_congr_left fun m _ => congrArg (Tally.mk m) ?_
  rw [madeIn, ← Listing.countP_documents, List.countP_eq_length_filter]

theorem month_tallies : (tallies actor documents today months).map Tally.month =
    monthsUpTo today.inMonth (min months 120) := by
  rw [tallies_eq, List.map_map]
  exact List.map_id _

theorem count_of_mem_tallies (h : t ∈ tallies actor documents today months) :
    t.count = madeIn actor documents t.month := by
  rw [tallies_eq] at h
  obtain ⟨m, -, rfl⟩ := List.mem_map.1 h
  rfl

theorem inMonth_eq_iff (d : Date) (m : Month) : d.inMonth = m ↔ d.year = m.year ∧ d.month = m.number := by
  obtain ⟨year, number, hnumber⟩ := m
  simp only [Date.inMonth, Month.mk.injEq]

theorem nodup_month_tallies (actor : User) (documents : List Document) (today : Date) (months : Nat) :
    ((tallies actor documents today months).map Tally.month).Nodup := by
  rw [month_tallies, monthsUpTo_inMonth]
  exact Month.nodup_upTo _ _

/-- The tallies are those of the months, counted in the listing. -/
theorem count_tallies (actor : User) (documents : List Document) (today : Date) (months : Nat) :
    (tallies actor documents today months).map (fun t => (t.month, t.count)) =
      (monthsUpTo today.inMonth (min months 120)).map fun m =>
        (m, (Listing.documents actor documents none).countP fun d => d.createdAt.date.inMonth = m) := by
  rw [tallies_eq, List.map_map]
  refine List.map_congr_left fun m _ => congrArg (Prod.mk m) ?_
  rw [Listing.countP_documents]
  rfl

theorem sum_count_tallies : ((tallies actor documents today months).map Tally.count).sum =
    documents.countP fun d =>
      actor.may .view (.document d) && d.createdAt.date.inMonth ∈ Month.upTo today.inMonth (min months 120) := by
  have hnodup := nodup_month_tallies actor documents today months
  rw [month_tallies] at hnodup
  have hcounts := congrArg (List.map Prod.snd) (count_tallies actor documents today months)
  rw [List.map_map, List.map_map] at hcounts
  refine (congrArg List.sum hcounts).trans ((Counting.sum_countP hnodup _).trans ?_)
  rw [Listing.countP_documents]
  refine List.countP_congr fun d _ => ?_
  -- every document is made within the calendar
  have hyear : firstYear ≤ d.createdAt.date.inMonth.year := d.createdAt.date.year_mem.1
  simp only [monthsUpTo_eq, List.mem_filter, hyear, decide_true, and_true]

/-- Each document that is listed goes to the first tally of its month. -/
theorem foldl_tallies (actor : User) (documents : List Document) (today : Date) (months : Nat) :
    (Listing.documents actor documents none).foldl (fun counts d => Counting.add d.createdAt.date.inMonth counts)
        ((tallies actor documents today months).map fun t => (t.month, 0)) =
      (tallies actor documents today months).map fun t => (t.month, t.count) := by
  have hstart : (tallies actor documents today months).map (fun t => (t.month, 0)) =
      ((tallies actor documents today months).map Tally.month).map fun m => (m, 0) := by
    rw [List.map_map]
    rfl
  rw [hstart, Counting.foldl_add (nodup_month_tallies _ _ _ _), count_tallies, month_tallies]
  simp only [Nat.zero_add]

/-! ### One month more -/

theorem exists_tallies_succ (actor : User) (documents : List Document) (today : Date) (months : Nat) :
    ∃ front, tallies actor documents today (months + 1) = front ++ tallies actor documents today months ∧
      front.map Tally.month =
        if months < 120 ∧ firstYear ≤ (Month.previous^[months] today.inMonth).year then
          [Month.previous^[months] today.inMonth]
        else [] := by
  by_cases hcap : months < 120
  · have hlonger : min (months + 1) 120 = months + 1 := Nat.min_eq_left hcap
    have hshorter : min months 120 = months := Nat.min_eq_left (Nat.le_of_lt hcap)
    simp only [tallies_eq, monthsUpTo_eq, hlonger, hshorter, Month.upTo, List.filter_cons, decide_eq_true_iff, hcap,
      true_and]
    split
    · exact ⟨[_], rfl, rfl⟩
    · exact ⟨[], rfl, rfl⟩
  · have hsame : min (months + 1) 120 = min months 120 := by omega
    refine ⟨[], ?_, ?_⟩
    · rw [tallies_eq, tallies_eq, hsame, List.nil_append]
    · rw [if_neg fun h => hcap h.1, List.map_nil]

/-! ### What is told -/

theorem tells (actor : User) (documents : List Document) (today : Date) (months : Nat) :
    Tells actor documents today months (tallies actor documents today months) where
  months_eq := by rw [month_tallies, monthsUpTo_eq]
  length_eq := by rw [tallies_eq, List.length_map, monthsUpTo_inMonth, Month.length_upTo]
  isChain := by
    rw [month_tallies, monthsUpTo_inMonth]
    exact Month.isChain_upTo _ _
  getLast?_eq := by
    rw [month_tallies, monthsUpTo_inMonth]
    intro m hm
    cases hn : min (min months 120) today.inMonth.place with
    | zero =>
      rw [hn] at hm
      cases hm
    | succ n =>
      rw [hn, Month.getLast?_upTo] at hm
      exact (Option.some.inj hm).symm
  nodup := nodup_month_tallies actor documents today months
  label_eq t _ := French.shortMonth_eq t.month
  count_eq t ht := by
    rw [count_of_mem_tallies ht, madeIn]
    refine List.countP_congr fun d _ => ?_
    simp only [inMonth_eq_iff, Bool.and_eq_true, decide_eq_true_iff]
  sum_eq := sum_count_tallies
  countP_le_one d := by
    have hcount := List.nodup_iff_count_le_one.1 (nodup_month_tallies actor documents today months)
      d.createdAt.date.inMonth
    rwa [List.count, List.countP_map] at hcount

/-- What a user is told comes out of one pass through the listed documents, which starts with nothing for each month,
and if one month more is asked for, this month comes in front, unless there are 120 months already or the calendar does
not reach back to it. -/
theorem tallies_tells (actor : User) (documents : List Document) (today : Date) (months : Nat) :
    Tells actor documents today months (tallies actor documents today months) ∧
      (Listing.documents actor documents none).foldl (fun counts d => Counting.add d.createdAt.date.inMonth counts)
          ((tallies actor documents today months).map fun t => (t.month, 0)) =
        (tallies actor documents today months).map (fun t => (t.month, t.count)) ∧
      ∃ front, tallies actor documents today (months + 1) = front ++ tallies actor documents today months ∧
        front.map Tally.month =
          if months < 120 ∧ firstYear ≤ (Month.previous^[months] today.inMonth).year then
            [Month.previous^[months] today.inMonth]
          else [] := by
  exact ⟨tells actor documents today months, foldl_tallies actor documents today months,
    exists_tallies_succ actor documents today months⟩

end Formulary.Activity

import RefViewer.Proofs.Time.Stamp
import RefViewer.Time.Age

/-!
# Ages

The phrase for an age names days and hours, in the singular for one, and leaves out a part
that is zero. Days and hours are both cut out of the time elapsed, so that the hours beside
the days are a difference of two rounded counts. `text_tells_age`: they are the quotient and
the remainder of the whole hours elapsed all the same, and a time to come counts as recent.
-/

namespace RefViewer

namespace Instant

def Before (earlier later : Instant) : Prop :=
  earlier.position < later.position ∨
    earlier.position = later.position ∧ earlier.nanos < later.nanos

-- ---------------------------------------------------------------------------
-- Elapsed time
-- ---------------------------------------------------------------------------

section

variable {later earlier : Instant}

/-- The leap second counted beside the distance on the time line, on the one side or the
other. -/
theorem since_cases (later earlier : Instant) :
    ∃ leap : Int, later.since earlier =
        (later.position - earlier.position + leap) * billion + (later.nanos - earlier.nanos) ∧
      (leap = 1 ∧ earlier.second < later.second ∧ billion ≤ earlier.nanos ∨
        leap = -1 ∧ later.second < earlier.second ∧ billion ≤ later.nanos ∨ leap = 0) := by
  refine ⟨if earlier.second < later.second && billion ≤ earlier.nanos then 1
    else if later.second < earlier.second && billion ≤ later.nanos then -1 else 0, ?_, ?_⟩
  · simp only [since, position, billion]
    omega
  · simp only [Bool.and_eq_true, decide_eq_true_eq]
    split
    · next h => exact .inl ⟨rfl, h⟩
    · split
      · next h => exact .inr (.inl ⟨rfl, h⟩)
      · exact .inr (.inr rfl)

theorem since_swap (later earlier : Instant) :
    earlier.since later = -later.since earlier := by
  simp only [since, billion, Bool.and_eq_true, decide_eq_true_eq]
  split <;> split <;> omega

/-- Two leap seconds differ by less than the second that one of them adds. -/
theorem since_gt (hl : later.OnClock) (he : earlier.OnClock) (h : ¬ later.Before earlier) :
    -(billion : Int) < later.since earlier := by
  obtain ⟨hl_second, hl_nanos⟩ := hl
  obtain ⟨he_second, he_nanos⟩ := he
  obtain ⟨leap, hsince, hleap⟩ := since_cases later earlier
  simp only [Before, position, billion] at *
  omega

theorem Before.not_before (h : later.Before earlier) : ¬ earlier.Before later := by
  simp only [Before] at *
  omega

theorem since_lt (hl : later.OnClock) (he : earlier.OnClock) (h : later.Before earlier) :
    later.since earlier < billion := by
  have hgt := since_gt he hl h.not_before
  rw [since_swap later earlier] at hgt
  omega

end

end Instant

namespace Age

-- ---------------------------------------------------------------------------
-- Phrases
-- ---------------------------------------------------------------------------

/-- A number in digits, and its unit in the singular for one. -/
inductive Counted (unit : String) : Nat → String → Prop
  | single : Counted unit 1 ("1 " ++ unit)
  | several (h : 2 ≤ n) : Counted unit n (n.repr ++ " " ++ unit ++ "s")

inductive Tells : Nat → Nat → String → Prop
  | recent : Tells 0 0 "less than an hour"
  | onlyDays (h : Counted "day" days ago) : Tells days 0 ago
  | onlyHours (h : Counted "hour" hours ago) : Tells 0 hours ago
  | both (hdays : Counted "day" days front) (hhours : Counted "hour" hours back) :
      Tells days hours (front ++ " and " ++ back)

def told (ago : String) : Nat × Nat :=
  match ago.toList.splitOn ' ' with
  | [count, unit] =>
    let n := Nat.ofDigitChars 10 count 0
    if unit.head? = some 'd' then (n, 0) else (0, n)
  | [days, _, _, hours, _] => (Nat.ofDigitChars 10 days 0, Nat.ofDigitChars 10 hours 0)
  | _ => (0, 0)

theorem counted_plural {n : Int} (h : 0 < n) (unit : String) :
    Counted unit n.toNat (plural n unit) := by
  obtain ⟨k, rfl⟩ := Int.eq_ofNat_of_zero_le (Int.le_of_lt h)
  unfold plural
  split
  · next hone =>
    obtain rfl : k = 1 := by omega
    exact .single
  · next hone =>
    show Counted unit k (k.repr ++ " " ++ unit ++ "s")
    exact .several (by omega)

theorem Counted.pos (h : Counted unit n written) : 0 < n := by
  cases h with
  | single => exact Nat.one_pos
  | several h => omega

theorem not_mem_toDigits (n : Nat) : ' ' ∉ Nat.toDigits 10 n := by
  intro hmem
  cases Nat.isDigit_of_mem_toDigits (by decide) (by decide) hmem

theorem Counted.words (h : Counted unit n written) (hunit : unit.toList = first :: more)
    (hgap : ' ' ∉ first :: more) :
    ∃ name, written.toList = [' '].intercalate [Nat.toDigits 10 n, name] ∧
      name.head? = some first ∧ ' ' ∉ name := by
  cases h with
  | single =>
    refine ⟨first :: more, ?_, rfl, hgap⟩
    simp [hunit, Nat.toDigits_of_lt_base]
  | several =>
    refine ⟨first :: more ++ ['s'], ?_, rfl, ?_⟩
    · simp [hunit]
    · simp only [List.mem_append, not_or]
      exact ⟨hgap, by decide⟩

theorem Counted.words_day (h : Counted "day" n written) :
    ∃ name, written.toList = [' '].intercalate [Nat.toDigits 10 n, name] ∧
      name.head? = some 'd' ∧ ' ' ∉ name :=
  h.words rfl (by decide)

theorem Counted.words_hour (h : Counted "hour" n written) :
    ∃ name, written.toList = [' '].intercalate [Nat.toDigits 10 n, name] ∧
      name.head? = some 'h' ∧ ' ' ∉ name :=
  h.words rfl (by decide)

theorem told_of_two (h : written.toList = [' '].intercalate [Nat.toDigits 10 n, name])
    (hname : ' ' ∉ name) :
    told written = if name.head? = some 'd' then (n, 0) else (0, n) := by
  have hgaps : ∀ word ∈ [Nat.toDigits 10 n, name], ' ' ∉ word := by
    simp [not_mem_toDigits, hname]
  rw [told, h, List.splitOn_intercalate _ hgaps (List.cons_ne_nil _ _)]
  simp only [Nat.ofDigitChars_ten_toDigits]

theorem Tells.told_eq (h : Tells days hours ago) : told ago = (days, hours) := by
  cases h with
  | recent => decide
  | onlyDays h =>
    obtain ⟨name, hwords, hfirst, hname⟩ := h.words_day
    rw [told_of_two hwords hname, if_pos hfirst]
  | onlyHours h =>
    obtain ⟨name, hwords, hfirst, hname⟩ := h.words_hour
    rw [told_of_two hwords hname, hfirst, if_neg (by decide)]
  | @both _ front _ back hdays hhours =>
    obtain ⟨day, hfront, -, hday⟩ := hdays.words_day
    obtain ⟨hour, hback, -, hhour⟩ := hhours.words_hour
    have hwords : (front ++ " and " ++ back).toList = [' '].intercalate
        [Nat.toDigits 10 days, day, "and".toList, Nat.toDigits 10 hours, hour] := by
      simp [hfront, hback]
    have hgaps : ∀ word ∈ [Nat.toDigits 10 days, day, "and".toList, Nat.toDigits 10 hours, hour],
        ' ' ∉ word := by
      simp [not_mem_toDigits, hday, hhour]
    rw [told, hwords, List.splitOn_intercalate _ hgaps (List.cons_ne_nil _ _)]
    simp only [Nat.ofDigitChars_ten_toDigits]

theorem Tells.unique (h : Tells days hours ago) (h' : Tells days' hours' ago) :
    days = days' ∧ hours = hours' := by
  have heq := h.told_eq.symm.trans h'.told_eq
  exact Prod.mk.inj heq

theorem Tells.recent_iff (h : Tells days hours ago) :
    ago = "less than an hour" ↔ days = 0 ∧ hours = 0 := by
  constructor
  · rintro rfl
    exact h.unique .recent
  · rintro ⟨rfl, rfl⟩
    cases h with
    | recent => rfl
    | onlyDays h => cases h.pos.ne rfl
    | onlyHours h => cases h.pos.ne rfl
    | both h => cases h.pos.ne rfl

-- ---------------------------------------------------------------------------
-- Whole days and hours
-- ---------------------------------------------------------------------------

theorem whole_nonneg {unit : Nat} {span : Int} (h : -(unit : Int) < span) :
    0 ≤ whole unit span := by
  rcases Int.le_total 0 span with hspan | hspan
  · exact Int.tdiv_nonneg hspan (Int.natCast_nonneg unit)
  · have hzero : whole unit (-span) = 0 := Int.tdiv_eq_zero_of_lt (by omega) (by omega)
    rw [whole, Int.neg_tdiv, Int.neg_eq_zero] at hzero
    exact Int.le_of_eq hzero.symm

theorem whole_nonpos {unit : Nat} {span : Int} (h : span < unit) : whole unit span ≤ 0 := by
  have hneg : 0 ≤ whole unit (-span) := whole_nonneg (by omega)
  rw [whole, Int.neg_tdiv] at hneg
  rw [whole]
  omega

/-- Cutting to days is cutting to hours first. -/
theorem whole_days (span : Int) : whole dayNanos span = (whole hourNanos span).tdiv 24 := by
  have hnat (n : Nat) : whole dayNanos n = (whole hourNanos n).tdiv 24 := by
    show ((n : Int).tdiv (dayNanos : Nat)) = ((n : Int).tdiv (hourNanos : Nat)).tdiv (24 : Nat)
    rw [← Int.ofNat_tdiv, ← Int.ofNat_tdiv, ← Int.ofNat_tdiv, Nat.div_div_eq_div_mul, dayNanos,
      Nat.mul_comm]
  obtain ⟨n, rfl | rfl⟩ := Int.eq_nat_or_neg span
  · exact hnat n
  · have hn := hnat n
    rw [whole, whole] at hn ⊢
    rw [Int.neg_tdiv, Int.neg_tdiv, Int.neg_tdiv, hn]

theorem phraseOf_parts (span : Int) :
    Tells (whole dayNanos span).toNat (whole hourNanos span - whole dayNanos span * 24).toNat
      (phraseOf span) := by
  have hzero {n : Int} (h : ¬ 0 < n) : n.toNat = 0 := Int.toNat_eq_zero.mpr (Int.not_lt.mp h)
  simp only [phraseOf]
  split
  · next hdays =>
    split
    · next hhours => exact .both (counted_plural hdays _) (counted_plural hhours _)
    · next hhours =>
      rw [hzero hhours]
      exact .onlyDays (counted_plural hdays _)
  · next hdays =>
    rw [hzero hdays]
    split
    · next hhours => exact .onlyHours (counted_plural hhours _)
    · next hhours =>
      rw [hzero hhours]
      exact .recent

theorem phraseOf_tells (span : Int) :
    Tells ((whole hourNanos span).toNat / 24) ((whole hourNanos span).toNat % 24)
      (phraseOf span) := by
  have hparts := phraseOf_parts span
  rw [whole_days] at hparts
  generalize whole hourNanos span = hours at hparts ⊢
  have hcut (n : Nat) : (n : Int).tdiv 24 = (n / 24 : Nat) := (Int.ofNat_tdiv n 24).symm
  obtain ⟨n, rfl | rfl⟩ := Int.eq_nat_or_neg hours
  · have hrest : ((n : Int) - (n / 24 : Nat) * 24).toNat = n % 24 := by omega
    rwa [hcut, hrest] at hparts
  · -- Of a span that is not positive no part is positive.
    have hdays : (-(n / 24 : Nat) : Int).toNat = (-(n : Int)).toNat / 24 := by omega
    have hrest : (-(n : Int) - -(n / 24 : Nat) * 24).toNat = (-(n : Int)).toNat % 24 := by omega
    rwa [Int.neg_tdiv, hcut, hdays, hrest] at hparts

-- ---------------------------------------------------------------------------
-- Texts
-- ---------------------------------------------------------------------------

theorem text_of_spells {stamp : Stamp} (h : stamp.Spells timestamp.toList)
    (hu : stamp.Denotes updated) (now : Instant) :
    text timestamp now = updated.text ++ " (" ++ phrase now updated ++ " ago)" := by
  rw [text, Stamp.ofText?_eq_some.mpr ⟨stamp, h, hu⟩]

theorem text_of_not_spells (h : ∀ stamp : Stamp, ¬ stamp.Spells timestamp.toList)
    (now : Instant) : text timestamp now = timestamp := by
  have hnone : Instant.ofText? timestamp = none := by
    rw [Option.eq_none_iff_forall_ne_some]
    intro updated hread
    obtain ⟨stamp, hspells, -⟩ := Stamp.ofText?_eq_some.mp hread
    exact h stamp hspells
  rw [text, hnone]

def hoursBetween (now updated : Instant) : Int := (now.since updated).tdiv 3600000000000

theorem phrase_tells (now updated : Instant) :
    Tells ((hoursBetween now updated).toNat / 24) ((hoursBetween now updated).toNat % 24)
      (phrase now updated) :=
  phraseOf_tells (now.since updated)

theorem hoursBetween_nonneg (hnow : now.OnClock) (hupdated : updated.OnClock)
    (h : ¬ now.Before updated) : 0 ≤ hoursBetween now updated := by
  have hsince := Instant.since_gt hnow hupdated h
  have hhour : -((3600000000000 : Nat) : Int) < now.since updated := by
    simp only [Instant.billion] at hsince
    omega
  exact whole_nonneg hhour

theorem hoursBetween_nonpos (hnow : now.OnClock) (hupdated : updated.OnClock)
    (h : now.Before updated) : hoursBetween now updated ≤ 0 := by
  have hsince := Instant.since_lt hnow hupdated h
  have hhour : now.since updated < (3600000000000 : Nat) := by
    simp only [Instant.billion] at hsince
    omega
  exact whole_nonpos hhour

/-- The text for a timestamp ends in the age of its instant: for one that is not after the
present, the whole days and the hours left over among the whole hours elapsed, and for one to
come that it is recent. What is not a timestamp is shown as it is. -/
theorem text_tells_age (hnow : now.OnClock) (timestamp : String) :
    (∀ stamp : Stamp, stamp.Spells timestamp.toList →
      ∃ updated ago, stamp.Denotes updated ∧
        text timestamp now = updated.text ++ " (" ++ ago ++ " ago)" ∧
        (¬ now.Before updated → ∃ n : Nat, hoursBetween now updated = n ∧
          (∀ days hours, Tells days hours ago ↔ days = n / 24 ∧ hours = n % 24) ∧
          (ago = "less than an hour" ↔ n = 0)) ∧
        (now.Before updated → ago = "less than an hour")) ∧
    ((∀ stamp : Stamp, ¬ stamp.Spells timestamp.toList) → text timestamp now = timestamp) := by
  refine ⟨?_, fun h => text_of_not_spells h now⟩
  intro stamp hspells
  have hdenotes := stamp.denotes_toInstant
  have htells := phrase_tells now stamp.toInstant
  refine ⟨stamp.toInstant, phrase now stamp.toInstant, hdenotes,
    text_of_spells hspells hdenotes now, ?_, ?_⟩
  · intro hbefore
    obtain ⟨n, hn⟩ :=
      Int.eq_ofNat_of_zero_le (hoursBetween_nonneg hnow hdenotes.onClock hbefore)
    rw [hn, Int.toNat_natCast] at htells
    refine ⟨n, hn, ?_, ?_⟩
    · intro days hours
      constructor
      · intro h
        exact h.unique htells
      · rintro ⟨rfl, rfl⟩
        exact htells
    · rw [htells.recent_iff]
      omega
  · intro hbefore
    have hnonpos := hoursBetween_nonpos hnow hdenotes.onClock hbefore
    rw [Int.toNat_eq_zero.mpr hnonpos] at htells
    exact htells.recent_iff.mpr ⟨rfl, rfl⟩

/-- Eight hours behind universal time, a timestamp of the day before yesterday is one day and
nineteen hours old. -/
theorem text_tells_age_behind :
    let now : Instant := ⟨739621, 59400, 0⟩
    now.OnClock ∧ now.standardText = "2025-03-06T16:30:00+00:00" ∧
      ∃ ago, Tells 1 19 ago ∧ text "2025-03-04T13:30:00-08:00" now =
        "Mar 4, 2025, 09:30 PM UTC (" ++ ago ++ " ago)" := by
  intro now
  have hnow : now.OnClock := ⟨by decide, by decide⟩
  have hread : Instant.ofText? "2025-03-04T13:30:00-08:00" = some ⟨739619, 77400, 0⟩ := by decide
  obtain ⟨stamp, hspells, hdenotes⟩ := Stamp.ofText?_eq_some.mp hread
  obtain ⟨updated, ago, hupdated, htext, hpast, -⟩ := (text_tells_age hnow _).1 stamp hspells
  obtain rfl := hdenotes.unique hupdated
  have hbefore : ¬ now.Before ⟨739619, 77400, 0⟩ := by
    simp only [Instant.Before, Instant.position]
    decide
  obtain ⟨n, hn, htells, -⟩ := hpast hbefore
  obtain rfl : n = 43 := by
    have hhours : hoursBetween now ⟨739619, 77400, 0⟩ = 43 := by decide
    omega
  exact ⟨hnow, by decide, ago, (htells 1 19).mpr (by decide), htext⟩

end Age

end RefViewer

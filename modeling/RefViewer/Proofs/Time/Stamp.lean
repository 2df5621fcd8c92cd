import Mathlib.Algebra.Group.Nat.Defs
import Mathlib.Data.List.TakeWhile
import RefViewer.Time.Instant

/-!
# Timestamps

How a timestamp is written, and the instant that it denotes. Its parts are a date, a time of
day, a fraction of a second and an offset from universal time, each in digits of a fixed
number but for the fraction. `ofText?_eq_some`: exactly the timestamps are read, and each as
its instant.
-/

namespace RefViewer

namespace Instant

def position (instant : Instant) : Int := 86400 * instant.days + instant.second

/-- An instant on a clock, where a second lasts at most twice as long. -/
structure OnClock (instant : Instant) : Prop where
  second_lt : instant.second < 86400
  nanos_lt : instant.nanos < 2 * billion

end Instant

structure Stamp where
  year : Nat
  month : Nat
  day : Nat
  hour : Nat
  minute : Nat
  second : Nat
  /-- Nanoseconds. -/
  fraction : Nat
  /-- Seconds that the time of day is ahead of universal time. -/
  offset : Int
  valid_date : (Date.mk year month day).isValid = true
  hour_lt : hour < 24
  minute_lt : minute < 60
  /-- The sixtieth second is a leap second. -/
  second_le : second ≤ 60
  fraction_lt : fraction < Instant.billion

namespace Stamp

open Instant (billion)

-- ---------------------------------------------------------------------------
-- Spelling and meaning
-- ---------------------------------------------------------------------------

structure Digits (width n : Nat) (text : List Char) : Prop where
  length_eq : text.length = width
  all_digits : ∀ c ∈ text, c.isDigit = true
  value_eq : Nat.ofDigitChars 10 text 0 = n

inductive Fraction : Nat → List Char → Prop
  | absent : Fraction 0 []
  | point (hne : digits ≠ []) (hd : ∀ c ∈ digits, c.isDigit = true) :
      Fraction (Nat.ofDigitChars 10 digits 0 * billion / 10 ^ digits.length) ('.' :: digits)

inductive Span : Nat → List Char → Prop
  | of (hhours : Digits 2 hours front) (hminutes : Digits 2 minutes back) (hours_lt : hours < 24)
      (minutes_lt : minutes < 60) : Span (3600 * hours + 60 * minutes) (front ++ ':' :: back)

inductive Zone : Int → List Char → Prop
  | universal (h : letter = 'Z' ∨ letter = 'z') : Zone 0 [letter]
  | ahead (h : Span seconds text) : Zone seconds ('+' :: text)
  | behind (hs : sign = '-' ∨ sign = '−') (h : Span seconds text) : Zone (-seconds) (sign :: text)

inductive Spells (stamp : Stamp) : List Char → Prop
  | of {year month day hour minute second fraction zone : List Char}
      (hyear : Digits 4 stamp.year year) (hmonth : Digits 2 stamp.month month)
      (hday : Digits 2 stamp.day day) (hbetween : between ∈ ['T', 't', ' '])
      (hhour : Digits 2 stamp.hour hour) (hminute : Digits 2 stamp.minute minute)
      (hsecond : Digits 2 stamp.second second) (hfraction : Fraction stamp.fraction fraction)
      (hzone : Zone stamp.offset zone) :
      stamp.Spells (year ++ '-' :: (month ++ '-' :: (day ++ between :: (hour ++ ':' :: (minute ++
        ':' :: (second ++ (fraction ++ zone)))))))

def date (stamp : Stamp) : Date := ⟨stamp.year, stamp.month, stamp.day⟩

/-- A leap second shares the place of the second before it. -/
structure Denotes (stamp : Stamp) (instant : Instant) : Prop where
  position_eq : instant.position = 86400 * stamp.date.toDays +
    (3600 * stamp.hour + 60 * stamp.minute + min stamp.second 59 : Nat) - stamp.offset
  second_lt : instant.second < 86400
  nanos_eq : instant.nanos = stamp.fraction + if stamp.second = 60 then billion else 0

theorem Denotes.unique {stamp : Stamp} (h : stamp.Denotes one) (h' : stamp.Denotes other) :
    one = other := by
  have hplace := h.position_eq.trans h'.position_eq.symm
  have hnanos := h.nanos_eq.trans h'.nanos_eq.symm
  have hone := h.second_lt
  have hother := h'.second_lt
  simp only [Instant.position] at hplace
  cases one
  cases other
  simp only [Instant.mk.injEq]
  dsimp only at hplace hnanos hone hother
  omega

def toInstant (stamp : Stamp) : Instant :=
  let clock : Int :=
    3600 * stamp.hour + 60 * stamp.minute + (if stamp.second = 60 then 59 else stamp.second : Nat) -
      stamp.offset
  { days := stamp.date.toDays + clock / 86400
    second := (clock % 86400).toNat
    nanos := if stamp.second = 60 then billion + stamp.fraction else stamp.fraction }

theorem denotes_toInstant (stamp : Stamp) : stamp.Denotes stamp.toInstant := by
  have hsecond : (if stamp.second = 60 then 59 else stamp.second) = min stamp.second 59 := by
    have := stamp.second_le
    split <;> omega
  constructor
  · simp only [toInstant, Instant.position, hsecond]
    omega
  · simp only [toInstant]
    omega
  · simp only [toInstant]
    split <;> omega

theorem denotes_iff {stamp : Stamp} : stamp.Denotes instant ↔ instant = stamp.toInstant :=
  ⟨fun h => h.unique stamp.denotes_toInstant, fun h => h ▸ stamp.denotes_toInstant⟩

theorem Denotes.onClock {stamp : Stamp} (h : stamp.Denotes instant) : instant.OnClock := by
  refine ⟨h.second_lt, ?_⟩
  have hfraction := stamp.fraction_lt
  rw [h.nanos_eq]
  split <;> omega

-- ---------------------------------------------------------------------------
-- Digits
-- ---------------------------------------------------------------------------

theorem value_lt (hd : ∀ c ∈ digits, c.isDigit = true) :
    Nat.ofDigitChars 10 digits 0 < 10 ^ digits.length := by
  induction digits with
  | nil => decide
  | cons c rest ih =>
    obtain ⟨hc, hrest⟩ := List.forall_mem_cons.mp hd
    have hdigit : c.toNat - '0'.toNat ≤ 9 := by
      have hle : c.toNat ≤ 57 := by
        simp only [Char.isDigit, Bool.and_eq_true, decide_eq_true_eq] at hc
        exact hc.2
      have : '0'.toNat = 48 := rfl
      omega
    have hmul : 10 ^ rest.length * (c.toNat - '0'.toNat) ≤ 10 ^ rest.length * 9 :=
      Nat.mul_le_mul_left _ hdigit
    have := ih hrest
    rw [Nat.ofDigitChars_cons, Nat.ofDigitChars_eq_ofDigitChars_zero, Nat.mul_zero, Nat.zero_add,
      List.length_cons, Nat.pow_succ]
    omega

theorem value_zeros (count n : Nat) :
    Nat.ofDigitChars 10 (List.replicate count '0') n = 10 ^ count * n := by
  induction count generalizing n with
  | zero => simp [Nat.ofDigitChars_nil]
  | succ count ih =>
    rw [List.replicate_succ, Nat.ofDigitChars_cons, ih, Nat.pow_succ, Nat.sub_self, Nat.add_zero,
      Nat.mul_assoc]

theorem value_places (hd : ∀ c ∈ digits, c.isDigit = true) (places : Nat) :
    Nat.ofDigitChars 10 ((digits ++ List.replicate places '0').take places) 0 =
      Nat.ofDigitChars 10 digits 0 * 10 ^ places / 10 ^ digits.length := by
  rw [List.take_append, List.take_replicate, Nat.min_eq_left (Nat.sub_le _ _),
    Nat.ofDigitChars_append, value_zeros]
  rcases Nat.le_total digits.length places with hle | hle
  · have hsplit : 10 ^ places = 10 ^ (places - digits.length) * 10 ^ digits.length := by
      rw [← Nat.pow_add, Nat.sub_add_cancel hle]
    rw [List.take_of_length_le hle, hsplit, ← Nat.mul_assoc,
      Nat.mul_div_cancel _ (Nat.pow_pos (by decide)), Nat.mul_comm]
  · have hsplit : 10 ^ digits.length = 10 ^ (digits.length - places) * 10 ^ places := by
      rw [← Nat.pow_add, Nat.sub_add_cancel hle]
    have hcut : Nat.ofDigitChars 10 digits 0 = 10 ^ (digits.length - places) *
        Nat.ofDigitChars 10 (digits.take places) 0 + Nat.ofDigitChars 10 (digits.drop places) 0 := by
      conv => lhs; rw [← List.take_append_drop places digits]
      rw [Nat.ofDigitChars_append, Nat.ofDigitChars_eq_ofDigitChars_zero, List.length_drop]
    have hrest : Nat.ofDigitChars 10 (digits.drop places) 0 < 10 ^ (digits.length - places) := by
      rw [← List.length_drop]
      exact value_lt fun c hc => hd c (List.mem_of_mem_drop hc)
    rw [Nat.sub_eq_zero_of_le hle, Nat.pow_zero, Nat.one_mul, hsplit,
      Nat.mul_div_mul_right _ _ (Nat.pow_pos (by decide)), hcut,
      Nat.mul_add_div (Nat.pow_pos (by decide)), Nat.div_eq_of_lt hrest, Nat.add_zero]

theorem Fraction.lt (h : Fraction n text) : n < billion := by
  cases h with
  | absent => decide
  | point hne hd =>
    refine Nat.div_lt_of_lt_mul ?_
    exact Nat.mul_lt_mul_of_pos_right (value_lt hd) (by decide)

-- ---------------------------------------------------------------------------
-- Readers
-- ---------------------------------------------------------------------------

theorem takeDigits_eq_some : Instant.takeDigits width text = some (n, rest) ↔
    ∃ digits, Digits width n digits ∧ text = digits ++ rest := by
  constructor
  · intro h
    simp only [Instant.takeDigits, Option.ite_none_right_eq_some, Bool.and_eq_true,
      decide_eq_true_eq, List.all_eq_true, Option.some.injEq, Prod.mk.injEq] at h
    obtain ⟨⟨hlength, hall⟩, hvalue, hrest⟩ := h
    exact ⟨_, ⟨hlength, hall, hvalue⟩, hrest ▸ (List.take_append_drop width text).symm⟩
  · rintro ⟨digits, ⟨rfl, hall, rfl⟩, rfl⟩
    have hgood : (decide (digits.length = digits.length) && digits.all Char.isDigit) = true := by
      simpa using hall
    rw [Instant.takeDigits, List.take_left, List.drop_left, if_pos hgood]
    rfl

theorem Digits.take (h : Digits width n digits) (rest : List Char) :
    Instant.takeDigits width (digits ++ rest) = some (n, rest) :=
  takeDigits_eq_some.mpr ⟨digits, h, rfl⟩

theorem takeChar_eq_some : Instant.takeChar allowed text = some rest ↔
    ∃ c ∈ allowed, text = c :: rest := by
  cases text with
  | nil => simp [Instant.takeChar]
  | cons c more =>
    simp only [Instant.takeChar, Option.ite_none_right_eq_some, List.contains_iff_mem,
      Option.some.injEq, List.cons.injEq]
    constructor
    · rintro ⟨hc, rfl⟩
      exact ⟨c, hc, rfl, rfl⟩
    · rintro ⟨_, hc, rfl, rfl⟩
      exact ⟨hc, rfl⟩

theorem takeChar_cons (h : c ∈ allowed) (rest : List Char) :
    Instant.takeChar allowed (c :: rest) = some rest :=
  takeChar_eq_some.mpr ⟨c, h, rfl⟩

theorem takeDigits_bind_some (h : (Instant.takeDigits width text >>= next) = some result) :
    ∃ n digits rest, Digits width n digits ∧ text = digits ++ rest ∧
      next (n, rest) = some result := by
  obtain ⟨⟨n, rest⟩, hn, hnext⟩ := Option.bind_eq_some_iff.mp h
  obtain ⟨digits, hdigits, htext⟩ := takeDigits_eq_some.mp hn
  exact ⟨n, digits, rest, hdigits, htext, hnext⟩

theorem takeChar_bind_some (h : (Instant.takeChar allowed text >>= next) = some result) :
    ∃ c ∈ allowed, ∃ rest, text = c :: rest ∧ next rest = some result := by
  obtain ⟨rest, hrest, hnext⟩ := Option.bind_eq_some_iff.mp h
  obtain ⟨c, hc, htext⟩ := takeChar_eq_some.mp hrest
  exact ⟨c, hc, rest, htext, hnext⟩

theorem takeFraction_some (h : Instant.takeFraction text = some (n, rest)) :
    ∃ written, Fraction n written ∧ text = written ++ rest := by
  unfold Instant.takeFraction at h
  split at h
  · next more =>
    simp only [Option.ite_none_left_eq_some, Option.some.injEq, Prod.mk.injEq] at h
    obtain ⟨hne, hvalue, hrest⟩ := h
    have hd : ∀ c ∈ more.takeWhile Char.isDigit, c.isDigit = true :=
      fun c hc => List.mem_takeWhile_imp hc
    have hplaces := (value_places hd 9).symm.trans hvalue
    refine ⟨'.' :: more.takeWhile Char.isDigit, hplaces ▸ .point hne hd, ?_⟩
    rw [← hrest, List.cons_append, List.takeWhile_append_dropWhile]
  · cases h
    exact ⟨[], .absent, rfl⟩

theorem Fraction.take (h : Fraction n written) (hpoint : c ≠ '.') (hdigit : c.isDigit = false)
    (rest : List Char) : Instant.takeFraction (written ++ c :: rest) = some (n, c :: rest) := by
  cases h with
  | absent =>
    rw [List.nil_append]
    unfold Instant.takeFraction
    split
    · exact absurd (List.head_eq_of_cons_eq ‹_›) hpoint
    · rfl
  | point hne hd =>
    have htaken : (c :: rest).takeWhile Char.isDigit = [] :=
      List.takeWhile_cons_of_neg (by simp [hdigit])
    have hdropped : (c :: rest).dropWhile Char.isDigit = c :: rest :=
      List.dropWhile_cons_of_neg (by simp [hdigit])
    rw [List.cons_append, Instant.takeFraction, List.takeWhile_append_of_pos hd, htaken,
      List.append_nil, List.dropWhile_append_of_pos hd, hdropped]
    dsimp only
    rw [if_neg hne]
    exact congrArg (fun n => some (n, c :: rest)) (value_places hd 9)

theorem takeOffset_signed (h : Span seconds written) (hs : sign = '+' ∨ sign = '-' ∨ sign = '−')
    (rest : List Char) : Instant.takeOffset (sign :: (written ++ rest)) =
      some (if sign = '+' then (seconds : Int) else -(seconds : Int), rest) := by
  cases h with
  | of hhours hminutes hours_lt minutes_lt =>
    have hletter : ¬ (decide (sign = 'Z') || decide (sign = 'z')) = true := by
      rcases hs with rfl | rfl | rfl <;> decide
    have hsign : (decide (sign = '+') || decide (sign = '-') || decide (sign = '−')) = true := by
      simpa only [Bool.or_eq_true, decide_eq_true_eq, or_assoc] using hs
    rw [Instant.takeOffset, if_neg hletter, if_pos hsign, List.append_assoc, List.cons_append]
    simp only [hhours.take, takeChar_cons (List.mem_singleton_self _), hminutes.take,
      Option.bind_eq_bind, Option.bind_some]
    rw [if_pos]
    simp only [Bool.and_eq_true, decide_eq_true_eq]
    omega

theorem takeOffset_some {shift : Int} (h : Instant.takeOffset text = some (shift, rest)) :
    ∃ written, Zone shift written ∧ text = written ++ rest := by
  cases text with
  | nil => cases h
  | cons sign more =>
    rw [Instant.takeOffset] at h
    split at h
    · next hletter =>
      cases h
      have hz : sign = 'Z' ∨ sign = 'z' := by simpa using hletter
      exact ⟨[sign], .universal hz, rfl⟩
    · rw [Option.ite_none_right_eq_some] at h
      obtain ⟨hsign, h⟩ := h
      obtain ⟨hours, front, _, hfront, hmore, h⟩ := takeDigits_bind_some h
      obtain ⟨colon, hcolon, _, htext, h⟩ := takeChar_bind_some h
      obtain ⟨minutes, back, _, hback, hback_text, h⟩ := takeDigits_bind_some h
      simp only [Option.ite_none_right_eq_some, Option.some.injEq, Prod.mk.injEq,
        Bool.and_eq_true, decide_eq_true_eq] at h
      obtain ⟨⟨minutes_lt, seconds_lt⟩, hshift, hrest⟩ := h
      obtain rfl := List.mem_singleton.mp hcolon
      have hspan : Span (3600 * hours + 60 * minutes) (front ++ ':' :: back) :=
        .of hfront hback (by omega) minutes_lt
      refine ⟨sign :: (front ++ ':' :: back), ?_, ?_⟩
      · rw [← hshift]
        split
        · next hplus => exact hplus ▸ .ahead hspan
        · next hplus =>
          simp only [Bool.or_eq_true, decide_eq_true_eq, hplus, false_or] at hsign
          exact .behind hsign hspan
      · simp only [hmore, htext, hback_text, hrest, List.cons_append, List.append_assoc]

theorem Zone.take {shift : Int} (h : Zone shift written) (rest : List Char) :
    Instant.takeOffset (written ++ rest) = some (shift, rest) := by
  cases h with
  | universal h =>
    rw [List.singleton_append, Instant.takeOffset, if_pos (by simpa using h)]
  | ahead h => exact takeOffset_signed h (.inl rfl) rest
  | behind hs h =>
    rw [List.cons_append, takeOffset_signed h (.inr hs), if_neg]
    rcases hs with rfl | rfl <;> decide

theorem Zone.head {shift : Int} (h : Zone shift written) :
    ∃ c more, written = c :: more ∧ c ≠ '.' ∧ c.isDigit = false := by
  cases h with
  | universal h =>
    refine ⟨_, [], rfl, ?_⟩
    rcases h with rfl | rfl <;> decide
  | ahead => exact ⟨_, _, rfl, by decide⟩
  | behind hs =>
    refine ⟨_, _, rfl, ?_⟩
    rcases hs with rfl | rfl <;> decide

-- ---------------------------------------------------------------------------
-- Whole timestamps
-- ---------------------------------------------------------------------------

theorem Spells.read {stamp : Stamp} (h : stamp.Spells text) :
    Instant.ofChars? text = some stamp.toInstant := by
  obtain ⟨hyear, hmonth, hday, hbetween, hhour, hminute, hsecond, hfraction, hzone⟩ := h
  obtain ⟨c, more, rfl, hpoint, hdigit⟩ := hzone.head
  have hoffset := hzone.take []
  rw [List.append_nil] at hoffset
  have hvalid : (decide (([] : List Char) = []) && stamp.date.isValid && decide (stamp.hour < 24) &&
      decide (stamp.minute < 60) && decide (stamp.second ≤ 60)) = true := by
    simp only [Bool.and_eq_true, decide_eq_true_eq]
    exact ⟨⟨⟨⟨trivial, stamp.valid_date⟩, stamp.hour_lt⟩, stamp.minute_lt⟩, stamp.second_le⟩
  have hdash : '-' ∈ ['-'] := List.mem_singleton_self _
  have hcolon : ':' ∈ [':'] := List.mem_singleton_self _
  refine Option.bind_eq_some_iff.mpr ⟨_, hyear.take _, ?_⟩
  refine Option.bind_eq_some_iff.mpr ⟨_, takeChar_cons hdash _, ?_⟩
  refine Option.bind_eq_some_iff.mpr ⟨_, hmonth.take _, ?_⟩
  refine Option.bind_eq_some_iff.mpr ⟨_, takeChar_cons hdash _, ?_⟩
  refine Option.bind_eq_some_iff.mpr ⟨_, hday.take _, ?_⟩
  refine Option.bind_eq_some_iff.mpr ⟨_, takeChar_cons hbetween _, ?_⟩
  refine Option.bind_eq_some_iff.mpr ⟨_, hhour.take _, ?_⟩
  refine Option.bind_eq_some_iff.mpr ⟨_, takeChar_cons hcolon _, ?_⟩
  refine Option.bind_eq_some_iff.mpr ⟨_, hminute.take _, ?_⟩
  refine Option.bind_eq_some_iff.mpr ⟨_, takeChar_cons hcolon _, ?_⟩
  refine Option.bind_eq_some_iff.mpr ⟨_, hsecond.take _, ?_⟩
  refine Option.bind_eq_some_iff.mpr ⟨_, hfraction.take hpoint hdigit _, ?_⟩
  refine Option.bind_eq_some_iff.mpr ⟨_, hoffset, ?_⟩
  exact if_pos hvalid

theorem exists_spells (h : Instant.ofChars? text = some instant) :
    ∃ stamp : Stamp, stamp.Spells text ∧ instant = stamp.toInstant := by
  unfold Instant.ofChars? at h
  obtain ⟨year, _, _, hyear, hyear_text, h⟩ := takeDigits_bind_some h
  obtain ⟨_, hdash, _, hdash_text, h⟩ := takeChar_bind_some h
  obtain ⟨month, _, _, hmonth, hmonth_text, h⟩ := takeDigits_bind_some h
  obtain ⟨_, hdash', _, hdash_text', h⟩ := takeChar_bind_some h
  obtain ⟨day, _, _, hday, hday_text, h⟩ := takeDigits_bind_some h
  obtain ⟨_, hbetween, _, hbetween_text, h⟩ := takeChar_bind_some h
  obtain ⟨hour, _, _, hhour, hhour_text, h⟩ := takeDigits_bind_some h
  obtain ⟨_, hcolon, _, hcolon_text, h⟩ := takeChar_bind_some h
  obtain ⟨minute, _, _, hminute, hminute_text, h⟩ := takeDigits_bind_some h
  obtain ⟨_, hcolon', _, hcolon_text', h⟩ := takeChar_bind_some h
  obtain ⟨second, _, _, hsecond, hsecond_text, h⟩ := takeDigits_bind_some h
  obtain ⟨⟨fraction, _⟩, hfraction, h⟩ := Option.bind_eq_some_iff.mp h
  obtain ⟨⟨offset, _⟩, hoffset, h⟩ := Option.bind_eq_some_iff.mp h
  obtain ⟨_, hwritten, hfraction_text⟩ := takeFraction_some hfraction
  obtain ⟨_, hzone, hzone_text⟩ := takeOffset_some hoffset
  simp only [Option.ite_none_right_eq_some, Option.some.injEq, Bool.and_eq_true,
    decide_eq_true_eq] at h
  obtain ⟨⟨⟨⟨⟨hend, hdate⟩, hour_lt⟩, minute_lt⟩, second_le⟩, hinstant⟩ := h
  obtain rfl := List.mem_singleton.mp hdash
  obtain rfl := List.mem_singleton.mp hdash'
  obtain rfl := List.mem_singleton.mp hcolon
  obtain rfl := List.mem_singleton.mp hcolon'
  refine ⟨⟨year, month, day, hour, minute, second, fraction, offset, hdate, hour_lt, minute_lt,
    second_le, hwritten.lt⟩, ?_, hinstant.symm⟩
  rw [hyear_text, hdash_text, hmonth_text, hdash_text', hday_text, hbetween_text, hhour_text,
    hcolon_text, hminute_text, hcolon_text', hsecond_text, hfraction_text, hzone_text, hend,
    List.append_nil]
  exact .of hyear hmonth hday hbetween hhour hminute hsecond hwritten hzone

/-- Exactly the timestamps are read, and each as the instant that it denotes. -/
theorem ofText?_eq_some {timestamp : String} : Instant.ofText? timestamp = some instant ↔
    ∃ stamp : Stamp, stamp.Spells timestamp.toList ∧ stamp.Denotes instant := by
  constructor
  · intro h
    obtain ⟨stamp, hspells, hinstant⟩ := exists_spells h
    exact ⟨stamp, hspells, denotes_iff.mpr hinstant⟩
  · rintro ⟨stamp, hspells, hdenotes⟩
    rw [Instant.ofText?, hspells.read, denotes_iff.mp hdenotes]

end Stamp

end RefViewer

import QueryFeed.Calendar.Timestamp
import QueryFeed.Proofs.Text.Padded

/-!
**Dates and times are told by their texts.**

Months, days, hours, minutes and seconds are written with two digits each, so a text is cut at fixed places
from its end or from its beginning.  A year outside 0 to 9999 is told from the others by its sign, and the
places of a fraction tell their unit.

A fraction of a second or more is written as part of the next second.  After the last second of a minute that
is the number 60, which no other time has.  After any other second it is the number of the second that follows,
so the text tells a time only up to this carry.

Main definitions:

* `TimeOfDay.IsSettled` — only the last second of a minute has a fraction that runs past it;
* `TimeOfDay.settled`, `Timestamp.settled` — the time after the carry.

Main results:

* `Date.chars_injective` — **the text of a date tells it**;
* `TimeOfDay.chars_eq_iff` — **two times have the same text just if they are the same after the carry**;
* `Timestamp.spacedText_eq_iff`, `Timestamp.offsetText_eq_iff` — so have two moments.
-/

set_option autoImplicit false

namespace QueryFeed

open Text

/-! ### Dates -/

theorem daysInMonth_le (year : Int) (month : Nat) : daysInMonth year month ≤ 31 := by
  unfold daysInMonth
  split <;> try omega
  split <;> omega

theorem daysInMonth_eq_zero {month : Nat} (h : 12 < month) (year : Int) :
    daysInMonth year month = 0 := by
  unfold daysInMonth
  split <;> omega

namespace Date

theorem day_le (date : Date) : date.day ≤ 31 :=
  Nat.le_trans date.isDate.2.2.2 (daysInMonth_le _ _)

theorem month_le (date : Date) : date.month ≤ 12 := by
  by_contra hmonth
  have hpositive := date.isDate.2.2.1
  have hday := date.isDate.2.2.2
  rw [daysInMonth_eq_zero (by omega)] at hday
  omega

/-- The numeral of a year without a sign has none. -/
theorem padded_ne_sign {sign : Char} (h : isDigit sign = false) (width n : Nat) (rest : List Char) :
    padded width n ≠ sign :: rest := by
  intro hsame
  exact not_mem_padded h width n (hsame ▸ List.mem_cons_self)

/-- **The text of a year tells it.** -/
theorem yearText_injective {year other : Int} (h : yearText year = yearText other) :
    year = other := by
  have hsign : ∀ year : Int, isDigit (if year < 0 then '-' else '+') = false := by
    intro year
    split <;> decide
  unfold yearText at h
  by_cases hplain : 0 ≤ year ∧ year ≤ 9999
  · rw [if_pos hplain] at h
    by_cases hother : 0 ≤ other ∧ other ≤ 9999
    · rw [if_pos hother] at h
      have hnat := padded_injective h
      omega
    · rw [if_neg hother] at h
      exact absurd h (padded_ne_sign (hsign other) _ _ _)
  · rw [if_neg hplain] at h
    by_cases hother : 0 ≤ other ∧ other ≤ 9999
    · rw [if_pos hother] at h
      exact absurd h.symm (padded_ne_sign (hsign year) _ _ _)
    · rw [if_neg hother] at h
      obtain ⟨hsame, hdigits⟩ := List.cons.inj h
      have hnat := padded_injective hdigits
      have hsigns : year < 0 ↔ other < 0 := by
        rcases Int.lt_or_le year 0 with hyear | hyear <;>
          rcases Int.lt_or_le other 0 with hother | hother
        · exact iff_of_true hyear hother
        · rw [if_pos hyear, if_neg (by omega)] at hsame
          exact absurd hsame (by decide)
        · rw [if_neg (by omega), if_pos hother] at hsame
          exact absurd hsame (by decide)
        · exact iff_of_false (by omega) (by omega)
      omega

/-- **The text of a date tells it.** -/
theorem chars_injective {first second : Date} (h : first.chars = second.chars) : first = second := by
  have htwo : ∀ {n : Nat}, n ≤ 31 → (padded 2 n).length = 2 := fun hle =>
    length_padded (Nat.lt_of_le_of_lt hle (by decide)) (by decide)
  have hdayWidth : ('-' :: padded 2 first.day).length = ('-' :: padded 2 second.day).length := by
    rw [List.length_cons, List.length_cons, htwo first.day_le, htwo second.day_le]
  have hmonthWidth : ('-' :: padded 2 first.month).length = ('-' :: padded 2 second.month).length := by
    have hle := first.month_le
    have hle' := second.month_le
    rw [List.length_cons, List.length_cons, htwo (by omega), htwo (by omega)]
  obtain ⟨hfront, hdays⟩ := List.append_inj' h hdayWidth
  obtain ⟨hyears, hmonths⟩ := List.append_inj' hfront hmonthWidth
  have hyear := yearText_injective hyears
  have hmonth := padded_injective (List.cons.inj hmonths).2
  have hday := padded_injective (List.cons.inj hdays).2
  cases first
  cases second
  simp only at hyear hmonth hday
  subst hyear hmonth hday
  rfl

/-- A date is written with digits, hyphens and a plus sign. -/
theorem not_mem_chars {c : Char} (other : isDigit c = false) (hyphen : c ≠ '-') (plus : c ≠ '+')
    (date : Date) : c ∉ date.chars := by
  have hyear : c ∉ yearText date.year := by
    unfold yearText
    split
    · exact not_mem_padded other _ _
    · rw [List.mem_cons, not_or]
      refine ⟨?_, not_mem_padded other _ _⟩
      split
      · exact hyphen
      · exact plus
  simp only [chars, List.mem_append, List.mem_cons, not_or]
  exact ⟨⟨hyear, hyphen, not_mem_padded other _ _⟩, hyphen, not_mem_padded other _ _⟩

end Date

/-! ### Times of day -/

namespace TimeOfDay

/-- The places of a fraction and their number tell the nanoseconds. -/
theorem value_fractionText {nanos : Nat} (small : nanos < nanosPerSecond) :
    numeralValue 10 ((fractionText nanos).drop 1) *
      Nat.pow 10 (10 - (fractionText nanos).length) = nanos := by
  have hplaces : ∀ {width n : Nat}, n < Nat.pow 10 width → 0 < width →
      numeralValue 10 (('.' :: padded width n).drop 1) *
        Nat.pow 10 (10 - ('.' :: padded width n).length) = n * Nat.pow 10 (9 - width) := by
    intro width n hsmall hwide
    rw [List.length_cons, length_padded hsmall hwide, Nat.add_comm, Nat.sub_add_eq]
    exact congrArg (· * _) (numeralValue_padded width n)
  have hsmall : nanos < 1000000000 := small
  unfold fractionText
  split
  · rename_i hzero
    rw [hzero]
    rfl
  split
  · rename_i hmillis
    rw [hplaces (Nat.div_lt_of_lt_mul hsmall) (by decide)]
    exact Nat.div_mul_cancel (Nat.dvd_of_mod_eq_zero hmillis)
  split
  · rename_i hmicros
    rw [hplaces (Nat.div_lt_of_lt_mul hsmall) (by decide)]
    exact Nat.div_mul_cancel (Nat.dvd_of_mod_eq_zero hmicros)
  · rw [hplaces hsmall (by decide)]
    exact Nat.mul_one nanos

theorem fractionText_injective {m n : Nat} (hm : m < nanosPerSecond) (hn : n < nanosPerSecond)
    (h : fractionText m = fractionText n) : m = n := by
  rw [← value_fractionText hm, h, value_fractionText hn]

/-- The second that is shown: in a leap second the one after the second that it follows. -/
def shownSecond (time : TimeOfDay) : Nat :=
  if nanosPerSecond ≤ time.nano then time.second + 1 else time.second

/-- The nanoseconds that are shown. -/
def shownNanos (time : TimeOfDay) : Nat :=
  if nanosPerSecond ≤ time.nano then time.nano - nanosPerSecond else time.nano

theorem chars_eq (time : TimeOfDay) : time.chars =
    padded 2 time.hour ++ ':' :: padded 2 time.minute ++ ':' :: padded 2 time.shownSecond ++
      fractionText time.shownNanos := rfl

theorem shownSecond_le (time : TimeOfDay) : time.shownSecond ≤ 60 := by
  have hsecond := time.isTime.2.2.1
  unfold shownSecond
  split <;> omega

theorem shownNanos_lt (time : TimeOfDay) : time.shownNanos < nanosPerSecond := by
  have hnano := time.isTime.2.2.2
  unfold shownNanos
  split <;> omega

/-! ### Leap seconds -/

/-- If a fraction runs on past its second, this is the last one of a minute. -/
def IsSettled (time : TimeOfDay) : Prop := nanosPerSecond ≤ time.nano → time.second = 59

instance (time : TimeOfDay) : Decidable time.IsSettled :=
  inferInstanceAs (Decidable (_ → _))

/-- A fraction that runs on past any second but the last one of a minute is carried into the next
second. -/
def settled (time : TimeOfDay) : TimeOfDay :=
  if h : nanosPerSecond ≤ time.nano ∧ time.second ≠ 59 then
    ⟨time.hour, time.minute, time.second + 1, time.nano - nanosPerSecond, by
      obtain ⟨hhour, hminute, hsecond, hnano⟩ := time.isTime
      exact ⟨hhour, hminute, by omega, by omega⟩⟩
  else time

theorem settled_of_isSettled {time : TimeOfDay} (h : time.IsSettled) : time.settled = time :=
  dif_neg fun hstray => hstray.2 (h hstray.1)

theorem isSettled_settled (time : TimeOfDay) : time.settled.IsSettled := by
  have hnano := time.isTime.2.2.2
  unfold settled
  split
  · -- after the carry less than a second is left
    intro hlong
    have hlong' : nanosPerSecond ≤ time.nano - nanosPerSecond := hlong
    omega
  · rename_i hstray
    intro hlong
    by_contra hother
    exact hstray ⟨hlong, hother⟩

/-- **The carry is not seen**: it leaves the text as it is. -/
theorem chars_settled (time : TimeOfDay) : time.settled.chars = time.chars := by
  have hnano := time.isTime.2.2.2
  unfold settled
  split
  · rename_i hstray
    have hbelow : ¬ nanosPerSecond ≤ time.nano - nanosPerSecond := by omega
    simp only [chars_eq, shownSecond, shownNanos, hbelow, hstray.1, if_true, if_false]
  · rfl

/-! ### What the text tells -/

/-- What is shown tells the second and the nanoseconds, for only a leap second is shown as 60. -/
theorem shown_injective {first second : TimeOfDay} (hfirst : first.IsSettled)
    (hsecond : second.IsSettled) (seconds : first.shownSecond = second.shownSecond)
    (nanos : first.shownNanos = second.shownNanos) :
    first.second = second.second ∧ first.nano = second.nano := by
  have hbelow := first.isTime.2.2.1
  have hbelow' := second.isTime.2.2.1
  unfold shownSecond at seconds
  unfold shownNanos at nanos
  split at seconds <;> rename_i hlong <;> simp only [hlong, if_true, if_false] at nanos <;>
    split at seconds <;> rename_i hlong' <;> simp only [hlong', if_true, if_false] at nanos
  · omega
  · have hlast := hfirst hlong
    omega
  · have hlast := hsecond hlong'
    omega
  · exact ⟨seconds, nanos⟩

/-- **The text of a time of day tells it**, where every fraction is within its second or a leap second. -/
theorem chars_injective {first second : TimeOfDay} (hfirst : first.IsSettled)
    (hsecond : second.IsSettled) (h : first.chars = second.chars) : first = second := by
  have htwo : ∀ {n : Nat}, n ≤ 60 → (padded 2 n).length = 2 := fun hle =>
    length_padded (Nat.lt_of_le_of_lt hle (by decide)) (by decide)
  obtain ⟨hhourBelow, hminuteBelow, -⟩ := first.isTime
  obtain ⟨hhourBelow', hminuteBelow', -⟩ := second.isTime
  have hhourWidth : (padded 2 first.hour).length = (padded 2 second.hour).length := by
    rw [htwo (by omega), htwo (by omega)]
  have hminuteWidth :
      (':' :: padded 2 first.minute).length = (':' :: padded 2 second.minute).length := by
    rw [List.length_cons, List.length_cons, htwo (by omega), htwo (by omega)]
  have hsecondWidth : (':' :: padded 2 first.shownSecond).length =
      (':' :: padded 2 second.shownSecond).length := by
    rw [List.length_cons, List.length_cons, htwo first.shownSecond_le, htwo second.shownSecond_le]
  rw [chars_eq, chars_eq, List.append_assoc, List.append_assoc, List.append_assoc,
    List.append_assoc] at h
  obtain ⟨hhours, hafterHours⟩ := List.append_inj h hhourWidth
  obtain ⟨hminutes, hafterMinutes⟩ := List.append_inj hafterHours hminuteWidth
  obtain ⟨hseconds, hfractions⟩ := List.append_inj hafterMinutes hsecondWidth
  have hhour := padded_injective hhours
  have hminute := padded_injective (List.cons.inj hminutes).2
  obtain ⟨hshown, hnano⟩ := shown_injective hfirst hsecond
    (padded_injective (List.cons.inj hseconds).2)
    (fractionText_injective first.shownNanos_lt second.shownNanos_lt hfractions)
  cases first
  cases second
  simp only at hhour hminute hshown hnano
  subst hhour hminute hshown hnano
  rfl

/-- **Two times have the same text just if they are the same after the carry.** -/
theorem chars_eq_iff {first second : TimeOfDay} :
    first.chars = second.chars ↔ first.settled = second.settled := by
  rw [← first.chars_settled, ← second.chars_settled]
  constructor
  · exact chars_injective first.isSettled_settled second.isSettled_settled
  · exact congrArg chars

end TimeOfDay

/-! ### Moments -/

namespace Timestamp

/-- The moment with the carry in its time of day. -/
def settled (moment : Timestamp) : Timestamp := ⟨moment.date, moment.time.settled⟩

theorem settled_of_isSettled {moment : Timestamp} (h : moment.time.IsSettled) : moment.settled = moment := by
  rw [settled, TimeOfDay.settled_of_isSettled h]

theorem spacedText_settled (moment : Timestamp) : moment.settled.spacedText = moment.spacedText := by
  rw [spacedText, spacedText, settled, TimeOfDay.chars_settled]

theorem offsetText_settled (moment : Timestamp) : moment.settled.offsetText = moment.offsetText := by
  rw [offsetText, offsetText, joinedText, joinedText, settled, TimeOfDay.chars_settled]

/-- Date and time with a mark between them that no date has. -/
theorem marked_eq_iff {first second : Timestamp} {mark : Char}
    (foreign : ∀ date : Date, mark ∉ date.chars) :
    first.date.chars ++ mark :: first.time.chars = second.date.chars ++ mark :: second.time.chars ↔
      first.settled = second.settled := by
  rw [settled, settled, mk.injEq, ← TimeOfDay.chars_eq_iff]
  constructor
  · intro h
    obtain ⟨hdates, htimes⟩ := append_mark_inj (foreign _) (foreign _) h
    exact ⟨Date.chars_injective hdates, htimes⟩
  · rintro ⟨hdate, htime⟩
    rw [hdate, htime]

theorem spacedText_eq_iff {first second : Timestamp} :
    first.spacedText = second.spacedText ↔ first.settled = second.settled := by
  rw [spacedText, spacedText, String.ofList_inj]
  exact marked_eq_iff (Date.not_mem_chars (by decide) (by decide) (by decide))

theorem offsetText_eq_iff {first second : Timestamp} :
    first.offsetText = second.offsetText ↔ first.settled = second.settled := by
  rw [offsetText, offsetText, String.append_left_inj, joinedText, joinedText, String.ofList_inj]
  exact marked_eq_iff (Date.not_mem_chars (by decide) (by decide) (by decide))

end Timestamp

end QueryFeed

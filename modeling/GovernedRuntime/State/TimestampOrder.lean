/-
The instants that `toISOString` writes have one format, and in one format the order of
the texts is the order of the instants.
-/
import GovernedRuntime.State.Timestamp
import Mathlib.Data.String.Basic
import Mathlib.Tactic.IntervalCases

namespace GovernedRuntime.State

/-! ### The calendar -/

/-- The last day of a month comes right before the first of the next. -/
theorem daysFromEpoch_next_month {year month : Nat} (hmonth : 1 ≤ month ∧ month ≤ 11) :
    daysFromEpoch year (month + 1) 0 = daysFromEpoch year month 0 + daysInMonth year month := by
  obtain ⟨hfirst, hlast⟩ := hmonth
  by_cases hfebruary : month = 2
  · subst hfebruary
    simp only [daysFromEpoch, daysInMonth, isLeapYear]
    split_ifs <;> simp_all <;> omega
  · interval_cases month <;> simp [daysFromEpoch, daysInMonth] at hfebruary ⊢ <;> omega

theorem daysFromEpoch_next_year (year : Nat) :
    daysFromEpoch (year + 1) 1 0 = daysFromEpoch year 12 0 + 31 := by
  simp [daysFromEpoch]
  omega

theorem daysFromEpoch_day (year month day : Nat) :
    daysFromEpoch year month day = daysFromEpoch year month 0 + day := by
  simp only [daysFromEpoch]
  push_cast
  omega

theorem daysFromEpoch_month_le {year month later : Nat} (hfirst : 1 ≤ month)
    (hle : month ≤ later) (hlast : later ≤ 12) :
    daysFromEpoch year month 0 ≤ daysFromEpoch year later 0 := by
  induction later, hle using Nat.le_induction with
  | base => exact le_rfl
  | succ later hle ih =>
      have hnext := @daysFromEpoch_next_month year later (by omega)
      have hbefore := ih (by omega)
      omega

theorem daysFromEpoch_year_le {year later : Nat} (hle : year ≤ later) :
    daysFromEpoch year 1 0 ≤ daysFromEpoch later 1 0 := by
  induction later, hle using Nat.le_induction with
  | base => exact le_rfl
  | succ later _ ih =>
      have hnext := daysFromEpoch_next_year later
      have hmonths := @daysFromEpoch_month_le later 1 12 (le_refl 1) (by omega) (le_refl 12)
      omega

/-- A day of the calendar and a time of that day. -/
structure CalendarTime where
  year : Nat
  month : Nat
  day : Nat
  hour : Nat
  minute : Nat
  second : Nat
  millis : Nat

namespace CalendarTime

structure Valid (time : CalendarTime) : Prop where
  month : 1 ≤ time.month ∧ time.month ≤ 12
  day : 1 ≤ time.day ∧ time.day ≤ daysInMonth time.year time.month
  hour : time.hour ≤ 23
  minute : time.minute ≤ 59
  second : time.second ≤ 59
  millis : time.millis ≤ 999

def days (time : CalendarTime) : Int := daysFromEpoch time.year time.month time.day

def instant (time : CalendarTime) : Int :=
  (((time.days * 24 + time.hour) * 60 + time.minute) * 60 + time.second) * 1000 + time.millis

variable {first later : CalendarTime}

theorem Valid.last_day_le (hvalid : first.Valid) :
    first.days ≤ daysFromEpoch first.year first.month 0 +
      daysInMonth first.year first.month := by
  have hday := hvalid.day
  rw [days, daysFromEpoch_day]
  omega

/-- The days of an earlier month, or of a month of an earlier year, come first. -/
theorem Valid.days_lt (hfirst : first.Valid) (hlater : later.Valid)
    (hbefore : first.year < later.year ∨
      first.year = later.year ∧ first.month < later.month ∨
      first.year = later.year ∧ first.month = later.month ∧ first.day < later.day) :
    first.days < later.days := by
  have hlast := hfirst.last_day_le
  have hday := hlater.day
  have hmonth := hfirst.month
  have hmonth' := hlater.month
  have hlaterDays : later.days = daysFromEpoch later.year later.month 0 + later.day := by
    rw [days, daysFromEpoch_day]
  rcases hbefore with hyear | ⟨hyear, hmonths⟩ | ⟨hyear, hmonths, hdays⟩
  · have hyears := @daysFromEpoch_year_le (first.year + 1) later.year hyear
    have hnext := daysFromEpoch_next_year first.year
    have hfrom := @daysFromEpoch_month_le later.year 1 _ (le_refl 1) hmonth'.1 hmonth'.2
    have hend : daysFromEpoch first.year first.month 0 +
        daysInMonth first.year first.month ≤ daysFromEpoch first.year 12 0 + 31 := by
      have hthrough := @daysFromEpoch_month_le first.year _ 12 hmonth.1 hmonth.2 (le_refl 12)
      have hlong := daysInMonth_le first.year first.month
      omega
    omega
  · have hnext := @daysFromEpoch_next_month first.year first.month
      ⟨hmonth.1, by omega⟩
    have hthrough := @daysFromEpoch_month_le first.year (first.month + 1) _
      (by omega) hmonths hmonth'.2
    rw [hyear] at hnext hthrough hlast
    omega
  · rw [hlaterDays, days, daysFromEpoch_day, hyear, hmonths]
    omega

/-- The instants of two times compare like the times, from the year down. -/
theorem Valid.instant_lt (hfirst : first.Valid) (hlater : later.Valid)
    (hbefore : first.days < later.days ∨ first.days = later.days ∧
      (first.hour < later.hour ∨ first.hour = later.hour ∧
        (first.minute < later.minute ∨ first.minute = later.minute ∧
          (first.second < later.second ∨ first.second = later.second ∧
            first.millis < later.millis)))) :
    first.instant < later.instant := by
  obtain ⟨_, _, hhour, hminute, hsecond, hmillis⟩ := hfirst
  obtain ⟨_, _, hhour', hminute', hsecond', hmillis'⟩ := hlater
  rw [instant, instant]
  omega

end CalendarTime

/-! ### Fields of digits -/

/-- Texts with a first field of one width compare by that field first. -/
theorem field_lt {field field' rest rest' : List Char} (hwidth : field.length = field'.length)
    (hlt : field ++ rest < field' ++ rest') :
    field < field' ∨ field = field' ∧ rest < rest' := by
  induction field generalizing field' with
  | nil =>
      obtain rfl := List.length_eq_zero_iff.1 hwidth.symm
      exact .inr ⟨rfl, hlt⟩
  | cons digit digits ih =>
      cases field' with
      | nil => cases hwidth
      | cons digit' digits' =>
          rw [List.cons_append, List.cons_append, List.cons_lt_cons_iff] at hlt
          rw [List.cons_lt_cons_iff]
          rcases hlt with hdigit | ⟨rfl, hdigits⟩
          · exact .inl (.inl hdigit)
          · rcases ih (Nat.succ.inj hwidth) hdigits with hfield | ⟨rfl, hrest⟩
            · exact .inl (.inr ⟨rfl, hfield⟩)
            · exact .inr ⟨rfl, hrest⟩

theorem digitValue_lt {digit digit' : Char} (hdigit : digit.isDigit = true)
    (hlt : digit < digit') : digit.toNat - '0'.toNat < digit'.toNat - '0'.toNat := by
  have hzero : 48 ≤ digit.toNat := by
    rw [Char.isDigit, Bool.and_eq_true, decide_eq_true_eq] at hdigit
    exact hdigit.1
  have hvalues : digit.toNat < digit'.toNat := hlt
  change digit.toNat - 48 < digit'.toNat - 48
  omega

theorem decimalValue_concat_some {digits : List Char} {digit : Char} {n : Nat}
    (hvalue : decimalValue (digits ++ [digit]) = some n) :
    ∃ m, decimalValue digits = some m ∧ digit.isDigit = true ∧
      n = 10 * m + (digit.toNat - '0'.toNat) := by
  rw [decimalValue_concat, Option.bind_eq_some_iff] at hvalue
  obtain ⟨m, hm, hn⟩ := hvalue
  split_ifs at hn with hdigit
  exact ⟨m, hm, hdigit, (Option.some.inj hn).symm⟩

theorem digitValue_le {digit : Char} (hdigit : digit.isDigit = true) :
    digit.toNat - '0'.toNat ≤ 9 := by
  have hle : digit.toNat ≤ 57 := by
    rw [Char.isDigit, Bool.and_eq_true, decide_eq_true_eq, decide_eq_true_eq] at hdigit
    exact hdigit.2
  change digit.toNat - 48 ≤ 9
  omega

theorem decimalValue_strictMono {field field' : List Char} {n n' : Nat}
    (hwidth : field.length = field'.length) (hn : decimalValue field = some n)
    (hn' : decimalValue field' = some n') (hlt : field < field') : n < n' := by
  induction field using List.reverseRecOn generalizing field' n n' with
  | nil =>
      obtain rfl := List.length_eq_zero_iff.1 hwidth.symm
      exact absurd hlt (lt_irrefl _)
  | append_singleton digits digit ih =>
      obtain rfl | ⟨digits', digit', rfl⟩ := List.eq_nil_or_concat' field'
      · simp at hwidth
      obtain ⟨m, hm, hdigit, rfl⟩ := decimalValue_concat_some hn
      obtain ⟨m', hm', hdigit', rfl⟩ := decimalValue_concat_some hn'
      have hnine := digitValue_le hdigit
      rcases field_lt (by simpa using hwidth) hlt with hdigits | ⟨rfl, hlast⟩
      · have hless := ih (by simpa using hwidth) hm hm' hdigits
        omega
      · obtain rfl : m = m' := Option.some.inj (hm.symm.trans hm')
        rw [List.cons_lt_cons_iff] at hlast
        have hless := digitValue_lt hdigit (hlast.resolve_right (by simp))
        omega

/-- The same for texts whose first field ends with a separator. -/
theorem field_value_lt {field field' rest rest' : List Char} {separator : Char} {n n' : Nat}
    (hwidth : field.length = field'.length) (hn : decimalValue field = some n)
    (hn' : decimalValue field' = some n')
    (hlt : field ++ separator :: rest < field' ++ separator :: rest') :
    n < n' ∨ n = n' ∧ rest < rest' := by
  rcases field_lt hwidth hlt with hfield | ⟨rfl, hrest⟩
  · exact .inl (decimalValue_strictMono hwidth hn hn' hfield)
  · exact .inr ⟨Option.some.inj (hn.symm.trans hn'), List.cons_lt_cons_self.1 hrest⟩

/-! ### The format of `toISOString` -/

/-- The runs of digits of a text with milliseconds. -/
structure IsoText where
  year : List Char
  month : List Char
  day : List Char
  hour : List Char
  minute : List Char
  second : List Char
  millis : List Char

namespace IsoText

def chars (text : IsoText) : List Char :=
  text.year ++ '-' :: (text.month ++ '-' :: (text.day ++ 'T' :: (text.hour ++ ':' ::
    (text.minute ++ ':' :: (text.second ++ '.' :: (text.millis ++ ['Z']))))))

structure Denotes (text : IsoText) (time : CalendarTime) : Prop where
  year : text.year.length = 4 ∧ decimalValue text.year = some time.year
  month : text.month.length = 2 ∧ decimalValue text.month = some time.month
  day : text.day.length = 2 ∧ decimalValue text.day = some time.day
  hour : text.hour.length = 2 ∧ decimalValue text.hour = some time.hour
  minute : text.minute.length = 2 ∧ decimalValue text.minute = some time.minute
  second : text.second.length = 2 ∧ decimalValue text.second = some time.second
  millis : text.millis.length = 3 ∧ decimalValue text.millis = some time.millis

/-- The text that comes first denotes the earlier time. -/
theorem Denotes.instant_lt {first later : IsoText} {time time' : CalendarTime}
    (hfirst : first.Denotes time) (hlater : later.Denotes time') (hvalid : time.Valid)
    (hvalid' : time'.Valid) (hlt : first.chars < later.chars) :
    time.instant < time'.instant := by
  apply hvalid.instant_lt hvalid'
  rcases field_value_lt (hfirst.year.1.trans hlater.year.1.symm) hfirst.year.2 hlater.year.2 hlt
    with hyear | ⟨hyear, hlt⟩
  · exact .inl (hvalid.days_lt hvalid' (.inl hyear))
  rcases field_value_lt (hfirst.month.1.trans hlater.month.1.symm) hfirst.month.2
    hlater.month.2 hlt with hmonth | ⟨hmonth, hlt⟩
  · exact .inl (hvalid.days_lt hvalid' (.inr (.inl ⟨hyear, hmonth⟩)))
  rcases field_value_lt (hfirst.day.1.trans hlater.day.1.symm) hfirst.day.2 hlater.day.2 hlt
    with hday | ⟨hday, hlt⟩
  · exact .inl (hvalid.days_lt hvalid' (.inr (.inr ⟨hyear, hmonth, hday⟩)))
  refine .inr ⟨by rw [CalendarTime.days, CalendarTime.days, hyear, hmonth, hday], ?_⟩
  rcases field_value_lt (hfirst.hour.1.trans hlater.hour.1.symm) hfirst.hour.2 hlater.hour.2 hlt
    with hhour | ⟨hhour, hlt⟩
  · exact .inl hhour
  rcases field_value_lt (hfirst.minute.1.trans hlater.minute.1.symm) hfirst.minute.2
    hlater.minute.2 hlt with hminute | ⟨hminute, hlt⟩
  · exact .inr ⟨hhour, .inl hminute⟩
  rcases field_value_lt (hfirst.second.1.trans hlater.second.1.symm) hfirst.second.2
    hlater.second.2 hlt with hsecond | ⟨hsecond, hlt⟩
  · exact .inr ⟨hhour, .inr ⟨hminute, .inl hsecond⟩⟩
  rcases field_lt (hfirst.millis.1.trans hlater.millis.1.symm) hlt with hmillis | ⟨_, hlt⟩
  · exact .inr ⟨hhour, .inr ⟨hminute, .inr ⟨hsecond, decimalValue_strictMono
      (hfirst.millis.1.trans hlater.millis.1.symm) hfirst.millis.2 hlater.millis.2 hmillis⟩⟩⟩
  · exact absurd hlt (lt_irrefl _)

end IsoText

theorem boundedField_value {digits : List Char} {low high n : Nat}
    (hfield : boundedField digits low high = some n) : decimalValue digits = some n := by
  rw [boundedField, Option.filter_eq_some_iff] at hfield
  exact hfield.1

theorem parseSeconds_millis {rest : List Char} {second millis : Nat} (hwidth : rest.length = 8)
    (hparsed : parseSeconds rest = some (second, millis)) :
    ∃ s1 s2 f1 f2 f3, rest = [':', s1, s2, '.', f1, f2, f3, 'Z'] ∧
      decimalValue [s1, s2] = some second ∧ decimalValue [f1, f2, f3] = some millis := by
  unfold parseSeconds at hparsed
  split at hparsed
  · cases hwidth
  · cases hwidth
  case h_3 s1 s2 tail =>
    obtain ⟨f1, f2, f3, last, rfl⟩ : ∃ f1 f2 f3 last, tail = [f1, f2, f3, last] := by
      rcases tail with _ | ⟨f1, _ | ⟨f2, _ | ⟨f3, _ | ⟨last, _ | ⟨extra, more⟩⟩⟩⟩⟩ <;>
        simp at hwidth
      exact ⟨f1, f2, f3, last, rfl⟩
    dsimp only [List.getLast?_cons_cons, List.getLast?_singleton] at hparsed
    split at hparsed
    case h_2 => cases hparsed
    case h_1 heq =>
      cases heq
      split_ifs at hparsed with hdigits
      split at hparsed
      case h_2 => cases hparsed
      case h_1 hsecond hmillis =>
        cases hparsed
        exact ⟨s1, s2, f1, f2, f3, rfl, boundedField_value hsecond, hmillis⟩
  · cases hparsed

/-- A text as `toISOString` writes it, and the instant it denotes. -/
def IsInstant (text : String) (instant : Int) : Prop :=
  text.length = 24 ∧ dateParse text = some instant

theorem IsInstant.denotes {text : String} {instant : Int} (hinstant : IsInstant text instant) :
    ∃ (spelled : IsoText) (time : CalendarTime), text.toList = spelled.chars ∧
      spelled.Denotes time ∧ time.Valid ∧ instant = time.instant := by
  obtain ⟨hlength, hparsed⟩ := hinstant
  unfold dateParse at hparsed
  split at hparsed
  case h_2 => cases hparsed
  case h_1 y1 y2 y3 y4 m1 m2 d1 d2 h1 h2 i1 i2 rest hchars =>
    have hwidth : rest.length = 8 := by
      have hcount := congrArg List.length hchars
      rw [String.length_toList, hlength] at hcount
      simpa using hcount.symm
    split at hparsed
    case h_2 => cases hparsed
    case h_1 year month hour minute second millis hyear hmonth hhour hminute hseconds =>
      obtain ⟨day, hday, hvalue⟩ := Option.map_eq_some_iff.1 hparsed
      obtain ⟨s1, s2, f1, f2, f3, rfl, hsecond, hmillis⟩ := parseSeconds_millis hwidth hseconds
      have hbounds := parseSeconds_bounds hseconds
      refine ⟨⟨[y1, y2, y3, y4], [m1, m2], [d1, d2], [h1, h2], [i1, i2], [s1, s2], [f1, f2, f3]⟩,
        ⟨year, month, day, hour, minute, second, millis⟩, hchars, ?_, ?_, hvalue.symm⟩
      · exact ⟨⟨rfl, hyear⟩, ⟨rfl, boundedField_value hmonth⟩, ⟨rfl, boundedField_value hday⟩,
          ⟨rfl, boundedField_value hhour⟩, ⟨rfl, boundedField_value hminute⟩, ⟨rfl, hsecond⟩,
          ⟨rfl, hmillis⟩⟩
      · exact ⟨boundedField_bounds hmonth, boundedField_bounds hday,
          (boundedField_bounds hhour).2, (boundedField_bounds hminute).2, hbounds.1, hbounds.2⟩

theorem IsInstant.lt_of_lt {text text' : String} {instant instant' : Int}
    (hfirst : IsInstant text instant) (hlater : IsInstant text' instant') (hlt : text < text') :
    instant < instant' := by
  obtain ⟨spelled, time, hchars, hdenotes, hvalid, rfl⟩ := hfirst.denotes
  obtain ⟨spelled', time', hchars', hdenotes', hvalid', rfl⟩ := hlater.denotes
  rw [String.lt_iff_toList_lt, hchars, hchars'] at hlt
  exact hdenotes.instant_lt hdenotes' hvalid hvalid' hlt

/-- In this format texts compare like the instants they denote. -/
theorem IsInstant.le_iff {text text' : String} {instant instant' : Int}
    (hfirst : IsInstant text instant) (hlater : IsInstant text' instant') :
    text ≤ text' ↔ instant ≤ instant' := by
  constructor
  · intro hle
    rcases hle.lt_or_eq with hlt | rfl
    · exact (hfirst.lt_of_lt hlater hlt).le
    · exact (Option.some.inj (hfirst.2.symm.trans hlater.2)).le
  · intro hle
    by_contra hnot
    exact absurd (hlater.lt_of_lt hfirst (not_le.1 hnot)) (not_lt.2 hle)

theorem IsInstant.lt_iff {text text' : String} {instant instant' : Int}
    (hfirst : IsInstant text instant) (hlater : IsInstant text' instant') :
    text < text' ↔ instant < instant' := by
  rw [← not_le, ← not_le, hlater.le_iff hfirst]

end GovernedRuntime.State

/-
`Date.parse` on the instants the schemas admit (`z.string().datetime()`):
`YYYY-MM-DDTHH:MM`, with optional seconds and fraction, in UTC.
-/
import Mathlib.Algebra.Group.Nat.Defs
import Mathlib.Data.List.Basic
import Mathlib.Data.List.Induction

namespace GovernedRuntime.State

/-- The value of a run of decimal digits; `none` when another character occurs. -/
def decimalValue (digits : List Char) : Option Nat :=
  digits.foldl
    (fun value digit =>
      value.bind fun n =>
        if digit.isDigit then some (10 * n + (digit.toNat - '0'.toNat)) else none)
    (some 0)

/-- A field of decimal digits between two bounds. -/
def boundedField (digits : List Char) (low high : Nat) : Option Nat :=
  (decimalValue digits).filter fun n => low ≤ n && n ≤ high

def isLeapYear (year : Nat) : Bool :=
  year % 4 == 0 && (year % 100 != 0 || year % 400 == 0)

def daysInMonth (year month : Nat) : Nat :=
  if month == 2 then (if isLeapYear year then 29 else 28)
  else if [4, 6, 9, 11].contains month then 30
  else 31

/-- Days from 1970-01-01, with years counted from March. -/
def daysFromEpoch (year month day : Nat) : Int :=
  let y : Int := if month ≤ 2 then (year : Int) - 1 else year
  let era : Int := y / 400
  let yearOfEra : Int := y - era * 400
  let shifted : Int := if 2 < month then (month : Int) - 3 else (month : Int) + 9
  let dayOfYear : Int := (153 * shifted + 2) / 5 + day - 1
  era * 146097 + yearOfEra * 365 + yearOfEra / 4 - yearOfEra / 100 + dayOfYear -
    719468

/-- Seconds and milliseconds of the part after the minutes. -/
def parseSeconds : List Char → Option (Nat × Nat)
  | ['Z'] => some (0, 0)
  | [':', s1, s2, 'Z'] => (boundedField [s1, s2] 0 59).map (·, 0)
  | ':' :: s1 :: s2 :: '.' :: rest =>
      match rest.getLast? with
      | some 'Z' =>
          let fraction := rest.dropLast
          if fraction.isEmpty || !fraction.all Char.isDigit then none
          else
            match boundedField [s1, s2] 0 59,
                decimalValue ((fraction.take 3).rightpad 3 '0') with
            | some seconds, some millis => some (seconds, millis)
            | _, _ => none
      | _ => none
  | _ => none

/-- Milliseconds since the epoch; `none` is `NaN`. -/
def dateParse (text : String) : Option Int :=
  match text.toList with
  | y1 :: y2 :: y3 :: y4 :: '-' :: m1 :: m2 :: '-' :: d1 :: d2 :: 'T' ::
      h1 :: h2 :: ':' :: i1 :: i2 :: rest =>
      match decimalValue [y1, y2, y3, y4], boundedField [m1, m2] 1 12,
          boundedField [h1, h2] 0 23, boundedField [i1, i2] 0 59,
          parseSeconds rest with
      | some year, some month, some hour, some minute, some (second, millis) =>
          (boundedField [d1, d2] 1 (daysInMonth year month)).map fun day =>
            (((daysFromEpoch year month day * 24 + hour) * 60 + minute) * 60 +
              second) * 1000 + millis
      | _, _, _, _, _ => none
  | _ => none

example : dateParse "2024-02-29T12:30:00.25Z" = some 1709209800250 := by decide

/-! ### The latest instant -/

theorem decimalValue_concat (digits : List Char) (digit : Char) :
    decimalValue (digits ++ [digit]) =
      (decimalValue digits).bind fun n =>
        if digit.isDigit then some (10 * n + (digit.toNat - '0'.toNat)) else none := by
  rw [decimalValue, List.foldl_append, ← decimalValue]
  rfl

theorem decimalValue_lt {digits : List Char} {n : Nat}
    (hvalue : decimalValue digits = some n) : n < 10 ^ digits.length := by
  induction digits using List.reverseRecOn generalizing n with
  | nil =>
      cases hvalue
      exact Nat.one_pos
  | append_singleton digits digit ih =>
      rw [decimalValue_concat, Option.bind_eq_some_iff] at hvalue
      obtain ⟨m, hm, hn⟩ := hvalue
      have hlt := ih hm
      split_ifs at hn with hdigit
      cases hn
      have hnine : digit.toNat - '0'.toNat ≤ 9 := by
        have hle : digit.toNat ≤ 57 := by
          rw [Char.isDigit, Bool.and_eq_true, decide_eq_true_eq, decide_eq_true_eq]
            at hdigit
          exact hdigit.2
        change digit.toNat - 48 ≤ 9
        omega
      rw [List.length_append, List.length_singleton, Nat.pow_succ]
      omega

theorem boundedField_bounds {digits : List Char} {low high n : Nat}
    (hfield : boundedField digits low high = some n) : low ≤ n ∧ n ≤ high := by
  rw [boundedField, Option.filter_eq_some_iff] at hfield
  simpa using hfield.2

theorem daysFromEpoch_le {year month day : Nat} (hyear : year ≤ 9999)
    (hmonth : 1 ≤ month ∧ month ≤ 12) (hday : day ≤ 31) :
    daysFromEpoch year month day ≤ 2932896 := by
  simp only [daysFromEpoch]
  split_ifs <;> omega

theorem parseSeconds_bounds {rest : List Char} {second millis : Nat}
    (hparsed : parseSeconds rest = some (second, millis)) :
    second ≤ 59 ∧ millis ≤ 999 := by
  unfold parseSeconds at hparsed
  split at hparsed
  · cases hparsed
    omega
  · obtain ⟨n, hfield, hpair⟩ := Option.map_eq_some_iff.1 hparsed
    cases hpair
    exact ⟨(boundedField_bounds hfield).2, Nat.zero_le _⟩
  · dsimp only at hparsed
    split at hparsed
    case h_2 => cases hparsed
    split at hparsed
    case isTrue => cases hparsed
    split at hparsed
    case h_2 => cases hparsed
    case h_1 seconds fraction hsecond hmillis =>
      cases hparsed
      have hlt := decimalValue_lt hmillis
      have hlength : ∀ digits : List Char,
          ((digits.take 3).rightpad 3 '0').length = 3 := by
        intro digits
        rw [List.rightpad, List.length_append, List.length_replicate, List.length_take]
        omega
      rw [hlength] at hlt
      exact ⟨(boundedField_bounds hsecond).2, Nat.le_of_lt_succ hlt⟩
  · cases hparsed

theorem daysInMonth_le (year month : Nat) : daysInMonth year month ≤ 31 := by
  unfold daysInMonth
  split_ifs <;> omega

/-- No instant a schema admits is after the last millisecond of the year 9999. -/
theorem dateParse_le {text : String} {instant : Int}
    (hparsed : dateParse text = some instant) : instant ≤ 253402300799999 := by
  unfold dateParse at hparsed
  split at hparsed
  case h_2 => cases hparsed
  split at hparsed
  case h_2 => cases hparsed
  case h_1 year month hour minute second millis hyear hmonth hhour hminute hseconds =>
    obtain ⟨day, hday, hinstant⟩ := Option.map_eq_some_iff.1 hparsed
    subst hinstant
    have hdigits : year < 10 ^ 4 := decimalValue_lt hyear
    have hlast : year ≤ 9999 := by omega
    have hdays := daysFromEpoch_le hlast (boundedField_bounds hmonth)
      (Nat.le_trans (boundedField_bounds hday).2 (daysInMonth_le year month))
    have hhour' := (boundedField_bounds hhour).2
    have hminute' := (boundedField_bounds hminute).2
    have hseconds' := parseSeconds_bounds hseconds
    omega

end GovernedRuntime.State

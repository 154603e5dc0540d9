import Mathlib.Algebra.Order.Field.Rat
import Mathlib.Data.Prod.Lex
import Mathlib.Data.String.Basic
import Mathlib.Tactic.Linarith
import Mathlib.Tactic.Positivity

/-!
Points in time written as texts: a date, a time of day, and any number of digits of a second. Main
statement: of two such texts the lesser is the earlier one, unless its digits break off within those of
the other, or it has another mark before the time.
-/

namespace Chartbook

namespace Calendar

def isLeap (year : Nat) : Bool :=
  year % 4 == 0 && (year % 100 != 0 || year % 400 == 0)

def monthLength (year month : Nat) : Nat :=
  if month = 2 then if isLeap year then 29 else 28
  else if month ∈ [4, 6, 9, 11] then 30
  else 31

def daysBeforeMonth (year : Nat) : Nat → Nat
  | 0 => 0
  | 1 => 0
  | month + 2 => daysBeforeMonth year (month + 1) + monthLength year (month + 1)

def yearLength (year : Nat) : Nat :=
  daysBeforeMonth year 13

def daysBeforeYear : Nat → Nat
  | 0 => 0
  | year + 1 => daysBeforeYear year + yearLength year

theorem daysBeforeMonth_monotone (year : Nat) : Monotone (daysBeforeMonth year) := by
  refine monotone_nat_of_le_succ fun month => ?_
  cases month with
  | zero => exact Nat.le_refl 0
  | succ month => exact Nat.le_add_right _ _

theorem daysBeforeYear_monotone : Monotone daysBeforeYear :=
  monotone_nat_of_le_succ fun _ => Nat.le_add_right _ _

theorem monthLength_le (year month : Nat) : monthLength year month ≤ 31 := by
  rw [monthLength]
  split
  · split <;> decide
  · split <;> decide

theorem day_le_daysBeforeMonth {year month later day : Nat} (first : 1 ≤ month)
    (earlier : month < later) (known : day ≤ monthLength year month) :
    daysBeforeMonth year month + day ≤ daysBeforeMonth year later := by
  obtain ⟨month, rfl⟩ := Nat.exists_eq_add_of_le' first
  calc daysBeforeMonth year (month + 1) + day
    _ ≤ daysBeforeMonth year (month + 1) + monthLength year (month + 1) := by omega
    _ ≤ daysBeforeMonth year later := daysBeforeMonth_monotone year earlier

end Calendar

/-- A time of day on a date, both in universal time, with the digits of a second as they are written.
A leap second is the last of a month. -/
structure Stamp where
  year : Nat
  month : Nat
  day : Nat
  hour : Nat
  minute : Nat
  second : Nat
  fraction : List (Fin 10)
  mark : Char
  year_lt : year < 10000
  month_mem : 1 ≤ month ∧ month ≤ 12
  day_mem : 1 ≤ day ∧ day ≤ Calendar.monthLength year month
  hour_lt : hour < 24
  minute_lt : minute < 60
  second_mem : second < 60 ∨
    second = 60 ∧ minute = 59 ∧ hour = 23 ∧ day = Calendar.monthLength year month
  mark_mem : mark = 'T' ∨ mark = 't'

namespace Stamp

def padded : Nat → Nat → List Char
  | 0, _ => []
  | width + 1, number => padded width (number / 10) ++ [Nat.digitChar (number % 10)]

def digit (value : Fin 10) : Char :=
  Nat.digitChar value

def fractionText (fraction : List (Fin 10)) : List Char :=
  if fraction = [] then [] else '.' :: fraction.map digit

variable (stamp : Stamp)

def date : List Char :=
  padded 4 stamp.year ++ '-' :: padded 2 stamp.month ++ '-' :: padded 2 stamp.day

def time : List Char :=
  padded 2 stamp.hour ++ ':' :: padded 2 stamp.minute ++ ':' :: padded 2 stamp.second

def text : String :=
  String.ofList
    (stamp.date ++ stamp.mark :: (stamp.time ++ (fractionText stamp.fraction ++ ['Z'])))

/-! Stamps as points in time. -/

def dayNumber : Nat :=
  Calendar.daysBeforeYear stamp.year + Calendar.daysBeforeMonth stamp.year stamp.month + stamp.day

def seconds : Nat :=
  (stamp.hour * 60 + stamp.minute) * 60 + stamp.second

def share : List (Fin 10) → ℚ
  | [] => 0
  | first :: rest => (first.val + share rest) / 10

/-- A day, and the seconds since it began. A leap second makes its day longer. -/
def instant : Nat ×ₗ ℚ :=
  toLex (stamp.dayNumber, stamp.seconds + share stamp.fraction)

theorem append_lt_append_iff {left right leftRest rightRest : List Char}
    (even : left.length = right.length) :
    left ++ leftRest < right ++ rightRest ↔
      left < right ∨ left = right ∧ leftRest < rightRest := by
  induction left generalizing right with
  | nil =>
      obtain rfl := List.length_eq_zero_iff.mp even.symm
      simp
  | cons first left ih =>
      cases right with
      | nil => cases even
      | cons second right =>
          rw [List.cons_append, List.cons_append, List.cons_lt_cons_iff, List.cons_lt_cons_iff,
            ih (Nat.succ.inj even), List.cons.injEq]
          tauto

theorem digitChar_lt_iff : ∀ first < 10, ∀ second < 10,
    (Nat.digitChar first < Nat.digitChar second ↔ first < second) := by
  decide

theorem length_padded (width number : Nat) : (padded width number).length = width := by
  induction width generalizing number with
  | zero => rfl
  | succ width ih => simp [padded, ih]

theorem eq_iff_of_lt_iff {left right : List Char} {first second : Nat}
    (lt : left < right ↔ first < second) (gt : right < left ↔ second < first) :
    left = right ↔ first = second := by
  constructor
  · rintro rfl
    have notLess : ¬first < second := fun less => List.lt_irrefl _ (lt.mpr less)
    have notMore : ¬second < first := fun more => List.lt_irrefl _ (gt.mpr more)
    omega
  · rintro rfl
    exact List.le_antisymm (List.not_lt.mp fun more => Nat.lt_irrefl _ (gt.mp more))
      (List.not_lt.mp fun less => Nat.lt_irrefl _ (lt.mp less))

theorem padded_lt_iff {width first second : Nat} (firstFits : first < 10 ^ width)
    (secondFits : second < 10 ^ width) :
    padded width first < padded width second ↔ first < second := by
  induction width generalizing first second with
  | zero =>
      have nothing : first = 0 ∧ second = 0 := by omega
      simp [nothing.1, nothing.2]
  | succ width ih =>
      rw [Nat.pow_succ] at firstFits secondFits
      have firstLead : first / 10 < 10 ^ width := by omega
      have secondLead : second / 10 < 10 ^ width := by omega
      have same := eq_iff_of_lt_iff (ih firstLead secondLead) (ih secondLead firstLead)
      have last := digitChar_lt_iff (first % 10) (by omega) (second % 10) (by omega)
      rw [padded, padded, append_lt_append_iff (by simp [length_padded]), ih firstLead secondLead,
        same, List.cons_lt_cons_iff, last]
      simp only [List.not_lt_nil, and_false, or_false]
      omega

theorem padded_inj {width first second : Nat} (firstFits : first < 10 ^ width)
    (secondFits : second < 10 ^ width) : padded width first = padded width second ↔ first = second :=
  eq_iff_of_lt_iff (padded_lt_iff firstFits secondFits) (padded_lt_iff secondFits firstFits)

theorem padded_append_lt_iff {width first second : Nat} (firstFits : first < 10 ^ width)
    (secondFits : second < 10 ^ width) (separator : Char) (firstRest secondRest : List Char) :
    padded width first ++ separator :: firstRest < padded width second ++ separator :: secondRest ↔
      first < second ∨ first = second ∧ firstRest < secondRest := by
  rw [append_lt_append_iff (by rw [length_padded, length_padded]),
    padded_lt_iff firstFits secondFits, padded_inj firstFits secondFits, List.cons_lt_cons_iff]
  simp

variable (left right : Stamp)

def DateBefore : Prop :=
  left.year < right.year ∨ left.year = right.year ∧
    (left.month < right.month ∨ left.month = right.month ∧ left.day < right.day)

theorem dayNumber_lt (before : DateBefore left right) : left.dayNumber < right.dayNumber := by
  have leftMonth := left.month_mem
  have leftDay := left.day_mem
  have rightDay := right.day_mem
  rw [dayNumber, dayNumber]
  rcases before with year | ⟨year, month | ⟨month, day⟩⟩
  · have rest : Calendar.daysBeforeMonth left.year left.month + left.day ≤
        Calendar.yearLength left.year :=
      Calendar.day_le_daysBeforeMonth leftMonth.1 (by omega) leftDay.2
    have next : Calendar.daysBeforeYear left.year + Calendar.yearLength left.year ≤
        Calendar.daysBeforeYear right.year := Calendar.daysBeforeYear_monotone year
    omega
  · have rest : Calendar.daysBeforeMonth left.year left.month + left.day ≤
        Calendar.daysBeforeMonth left.year right.month :=
      Calendar.day_le_daysBeforeMonth leftMonth.1 month leftDay.2
    rw [← year]
    omega
  · rw [← year, ← month]
    omega

theorem dayNumber_congr (year : left.year = right.year) (month : left.month = right.month)
    (day : left.day = right.day) : left.dayNumber = right.dayNumber := by
  rw [dayNumber, dayNumber, year, month, day]

theorem dayNumber_lt_iff : left.dayNumber < right.dayNumber ↔ DateBefore left right := by
  refine ⟨fun less => ?_, dayNumber_lt left right⟩
  by_contra notBefore
  have rest : DateBefore right left ∨
      left.year = right.year ∧ left.month = right.month ∧ left.day = right.day := by
    rw [DateBefore] at notBefore ⊢
    omega
  rcases rest with after | ⟨year, month, day⟩
  · exact Nat.lt_asymm less (dayNumber_lt right left after)
  · rw [dayNumber_congr left right year month day] at less
    exact Nat.lt_irrefl _ less

theorem day_lt : left.day < 10 ^ 2 := by
  have known := left.day_mem.2
  have short := Calendar.monthLength_le left.year left.month
  omega

theorem date_lt_iff : left.date < right.date ↔ left.dayNumber < right.dayNumber := by
  have leftYear := left.year_lt
  have rightYear := right.year_lt
  have leftMonth := left.month_mem
  have rightMonth := right.month_mem
  rw [dayNumber_lt_iff, DateBefore, date, date, List.append_assoc, List.append_assoc,
    List.cons_append, List.cons_append, padded_append_lt_iff (by omega) (by omega),
    padded_append_lt_iff (by omega) (by omega), padded_lt_iff left.day_lt right.day_lt]

theorem second_lt : left.second < 10 ^ 2 := by
  have known := left.second_mem
  omega

theorem time_lt_iff : left.time < right.time ↔ left.seconds < right.seconds := by
  have leftHour := left.hour_lt
  have rightHour := right.hour_lt
  have leftMinute := left.minute_lt
  have rightMinute := right.minute_lt
  have leftSecond := left.second_mem
  have rightSecond := right.second_mem
  rw [seconds, seconds, time, time, List.append_assoc, List.append_assoc, List.cons_append,
    List.cons_append, padded_append_lt_iff (by omega) (by omega),
    padded_append_lt_iff (by omega) (by omega), padded_lt_iff left.second_lt right.second_lt]
  omega

theorem share_nonneg (fraction : List (Fin 10)) : 0 ≤ share fraction := by
  induction fraction with
  | nil => exact le_refl 0
  | cons first rest ih =>
      rw [share]
      positivity

theorem share_lt_one (fraction : List (Fin 10)) : share fraction < 1 := by
  induction fraction with
  | nil => exact zero_lt_one
  | cons first rest ih =>
      have small : (first.val : ℚ) ≤ 9 := by exact_mod_cast Nat.le_of_lt_succ first.isLt
      rw [share]
      linarith

theorem share_pos_iff (fraction : List (Fin 10)) : 0 < share fraction ↔ ∃ some ∈ fraction, some ≠ 0 := by
  induction fraction with
  | nil => simp [share]
  | cons first rest ih =>
      have nonneg := share_nonneg rest
      rw [share, List.exists_mem_cons_iff, ← ih]
      by_cases zero : first = 0
      · simp [zero]
      · have positive : (0 : ℚ) < first.val := by
          exact_mod_cast Fin.pos_iff_ne_zero.mpr zero
        simp only [ne_eq, zero, not_false_eq_true, true_or, iff_true]
        positivity

/-- The first digits break off within the others, of which something is left. -/
def CutShort (short long : List (Fin 10)) : Prop :=
  short <+: long ∧ ∃ further ∈ long.drop short.length, further ≠ 0

theorem cutShort_nil (long : List (Fin 10)) : CutShort [] long ↔ 0 < share long := by
  simp [CutShort, share_pos_iff]

theorem cutShort_cons (first second : Fin 10) (short long : List (Fin 10)) :
    CutShort (first :: short) (second :: long) ↔ first = second ∧ CutShort short long := by
  simp [CutShort, List.cons_prefix_cons, and_assoc]

theorem not_cutShort_nil (first : Fin 10) (short : List (Fin 10)) :
    ¬CutShort (first :: short) [] := by
  simp [CutShort]

theorem digit_lt_iff (first second : Fin 10) : digit first < digit second ↔ first < second :=
  digitChar_lt_iff first first.isLt second second.isLt

theorem digit_lt_end : ∀ value : Fin 10, digit value < 'Z' := by
  decide

theorem share_lt_of_cutShort {short long : List (Fin 10)} (cut : CutShort short long) :
    share short < share long := by
  induction short generalizing long with
  | nil => exact (cutShort_nil long).mp cut
  | cons first short ih =>
      cases long with
      | nil => exact absurd cut (not_cutShort_nil first short)
      | cons second long =>
          obtain ⟨rfl, rest⟩ := (cutShort_cons first second short long).mp cut
          have less := ih rest
          rw [share, share]
          linarith

theorem digits_lt_of_cutShort {short long : List (Fin 10)} (cut : CutShort short long) :
    long.map digit ++ ['Z'] < short.map digit ++ ['Z'] := by
  induction short generalizing long with
  | nil =>
      cases long with
      | nil => simp [CutShort] at cut
      | cons second long => exact List.cons_lt_cons_iff.mpr (.inl (digit_lt_end second))
  | cons first short ih =>
      cases long with
      | nil => exact absurd cut (not_cutShort_nil first short)
      | cons second long =>
          obtain ⟨rfl, rest⟩ := (cutShort_cons first second short long).mp cut
          exact List.cons_lt_cons_iff.mpr (.inr ⟨rfl, ih rest⟩)

theorem digits_lt_or_cutShort {left right : List (Fin 10)} (less : share left < share right) :
    left.map digit ++ ['Z'] < right.map digit ++ ['Z'] ∨ CutShort left right := by
  induction left generalizing right with
  | nil => exact .inr ((cutShort_nil right).mpr less)
  | cons first left ih =>
      cases right with
      | nil => exact absurd less (not_lt.mpr (share_nonneg (first :: left)))
      | cons second right =>
          rw [List.map_cons, List.map_cons, List.cons_append, List.cons_append,
            List.cons_lt_cons_iff, digit_lt_iff, cutShort_cons]
          rcases lt_trichotomy first second with lower | rfl | higher
          · exact .inl (.inl lower)
          · have later : share left < share right := by
              rw [share, share] at less
              linarith
            exact (ih later).imp (fun digits => .inr ⟨rfl, digits⟩) fun cut => ⟨rfl, cut⟩
          · have more : (second.val : ℚ) + 1 ≤ first.val := by exact_mod_cast higher
            have nonneg := share_nonneg left
            have below := share_lt_one right
            rw [share, share] at less
            linarith

theorem fractionText_lt_of_cutShort {short long : List (Fin 10)} (cut : CutShort short long) :
    fractionText long ++ ['Z'] < fractionText short ++ ['Z'] := by
  have some : long ≠ [] := by
    rintro rfl
    simp [CutShort] at cut
  rw [fractionText, fractionText, if_neg some]
  split
  · exact List.cons_lt_cons_iff.mpr (.inl (by decide))
  · exact List.cons_lt_cons_iff.mpr (.inr ⟨rfl, digits_lt_of_cutShort cut⟩)

theorem fractionText_lt_or_cutShort {left right : List (Fin 10)}
    (less : share left < share right) :
    fractionText left ++ ['Z'] < fractionText right ++ ['Z'] ∨ CutShort left right := by
  by_cases none : left = []
  · rw [none]
    exact .inr ((cutShort_nil right).mpr (by rwa [none] at less))
  · have some : right ≠ [] := by
      rintro rfl
      exact absurd less (not_lt.mpr (share_nonneg left))
    rw [fractionText, fractionText, if_neg none, if_neg some]
    exact (digits_lt_or_cutShort less).imp_left fun digits =>
      List.cons_lt_cons_iff.mpr (.inr ⟨rfl, digits⟩)

theorem length_date : left.date.length = 10 := by
  simp [date, length_padded]

theorem length_time : left.time.length = 8 := by
  simp [time, length_padded]

theorem date_inj : left.date = right.date ↔ left.dayNumber = right.dayNumber :=
  eq_iff_of_lt_iff (date_lt_iff left right) (date_lt_iff right left)

theorem time_inj : left.time = right.time ↔ left.seconds = right.seconds :=
  eq_iff_of_lt_iff (time_lt_iff left right) (time_lt_iff right left)

theorem text_lt_iff :
    left.text < right.text ↔ left.dayNumber < right.dayNumber ∨
      left.dayNumber = right.dayNumber ∧ (left.mark < right.mark ∨
        left.mark = right.mark ∧ (left.seconds < right.seconds ∨
          left.seconds = right.seconds ∧
            fractionText left.fraction ++ ['Z'] < fractionText right.fraction ++ ['Z'])) := by
  rw [String.lt_iff_toList_lt, text, text, String.toList_ofList, String.toList_ofList,
    append_lt_append_iff (by rw [length_date, length_date]), List.cons_lt_cons_iff,
    append_lt_append_iff (by rw [length_time, length_time]), date_lt_iff, date_inj, time_lt_iff,
    time_inj]

theorem instant_lt_iff :
    left.instant < right.instant ↔ left.dayNumber < right.dayNumber ∨
      left.dayNumber = right.dayNumber ∧ (left.seconds < right.seconds ∨
        left.seconds = right.seconds ∧ share left.fraction < share right.fraction) := by
  have leftNonneg := share_nonneg left.fraction
  have leftBelow := share_lt_one left.fraction
  have rightNonneg := share_nonneg right.fraction
  have rightBelow := share_lt_one right.fraction
  have within : (left.seconds + share left.fraction < right.seconds + share right.fraction) ↔
      left.seconds < right.seconds ∨
        left.seconds = right.seconds ∧ share left.fraction < share right.fraction := by
    rcases lt_trichotomy left.seconds right.seconds with less | same | more
    · have gap : (left.seconds : ℚ) + 1 ≤ right.seconds := by exact_mod_cast less
      simp only [less, true_or, iff_true]
      linarith
    · simp [same]
    · have gap : (right.seconds : ℚ) + 1 ≤ left.seconds := by exact_mod_cast more
      have notLess : ¬left.seconds < right.seconds := by omega
      have notSame : left.seconds ≠ right.seconds := by omega
      simp only [notLess, notSame, false_and, or_self, iff_false, not_lt]
      linarith
  rw [instant, instant, Prod.Lex.toLex_lt_toLex, within]

/-- On one day the first stamp comes before the second one, and yet its text is the greater one: its
digits are cut short, or it has the greater mark. -/
def Overtakes : Prop :=
  left.dayNumber = right.dayNumber ∧
    (left.mark = right.mark ∧ left.seconds = right.seconds ∧
        CutShort left.fraction right.fraction ∨
      right.mark < left.mark ∧ left.instant < right.instant)

theorem lt_of_overtakes (overtakes : Overtakes left right) :
    left.instant < right.instant ∧ right.text < left.text := by
  rw [text_lt_iff]
  obtain ⟨day, ⟨mark, seconds, cut⟩ | ⟨mark, earlier⟩⟩ := overtakes
  · constructor
    · exact (instant_lt_iff left right).mpr (.inr ⟨day, .inr ⟨seconds, share_lt_of_cutShort cut⟩⟩)
    · exact .inr ⟨day.symm, .inr ⟨mark.symm, .inr ⟨seconds.symm, fractionText_lt_of_cutShort cut⟩⟩⟩
  · exact ⟨earlier, .inr ⟨day.symm, .inl mark⟩⟩

theorem text_lt_or_overtakes (earlier : left.instant < right.instant) :
    left.text < right.text ∨ Overtakes left right := by
  rw [text_lt_iff]
  rcases (instant_lt_iff left right).mp earlier with day | ⟨day, within⟩
  · exact .inl (.inl day)
  rcases lt_trichotomy left.mark right.mark with less | same | more
  · exact .inl (.inr ⟨day, .inl less⟩)
  · rcases within with seconds | ⟨seconds, less⟩
    · exact .inl (.inr ⟨day, .inr ⟨same, .inl seconds⟩⟩)
    · refine (fractionText_lt_or_cutShort less).imp (fun fraction => ?_) fun cut => ?_
      · exact .inr ⟨day, .inr ⟨same, .inr ⟨seconds, fraction⟩⟩⟩
      · exact ⟨day, .inl ⟨same, seconds, cut⟩⟩
  · exact .inr ⟨day, .inr ⟨more, earlier⟩⟩

theorem overtakes_iff :
    Overtakes left right ↔ left.instant < right.instant ∧ right.text < left.text := by
  refine ⟨lt_of_overtakes left right, fun ⟨earlier, greater⟩ => ?_⟩
  exact (text_lt_or_overtakes left right earlier).resolve_left (String.lt_asymm greater)

theorem not_overtakes_of_length (mark : left.mark = right.mark)
    (even : left.fraction.length = right.fraction.length) : ¬Overtakes left right := by
  rintro ⟨_, ⟨_, _, _, further, member, _⟩ | ⟨greater, _⟩⟩
  · rw [even, List.drop_length] at member
    cases member
  · rw [mark] at greater
    exact lt_irrefl _ greater

end Stamp

end Chartbook

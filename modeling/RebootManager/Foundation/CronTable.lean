/-
# RebootManager.Foundation.CronTable -- lines of a cron table, and the minutes they are due in

A line has five fields (minute, hour, day of the month, month, day of the week) and a command. A field is
`*`, a number of its range, or a step `*/n`, which admits every n-th number of the range from its first one
on. A line that is not of this form is refused and never runs.

Time is counted in minutes from some midnight; what day it is, is left to a calendar. `FirstDue` is the
first minute after the present one in which a line is due, which for a line with a plain minute and a plain
hour is a question modulo 1440 (`firstDue_daily`).
-/
import RebootManager.Foundation.Decimal

namespace RebootManager.Foundation

/-! ## Fields -/

/-- One of the five fields. -/
inductive CronField where
  /-- `*` -/
  | any
  /-- `*/step` -/
  | every (step : Nat)
  | at (n : Nat)
  deriving DecidableEq

/-- The range of a field. -/
structure CronRange where
  low : Nat
  high : Nat

/-- The numbers a field admits. -/
def CronField.admits (range : CronRange) : CronField → Nat → Bool
  | .any, _ => true
  | .every step, v => (v - range.low) % step = 0
  | .at n, v => v = n

/-- A number in a field: digits only. -/
def cronNumber (text : Bytes) : Option Nat :=
  if text ≠ [] ∧ text.all Char.isDigit then some (Nat.ofDigitChars 10 text 0) else none

/-- A field; a step of zero and a number outside the range are refused. -/
def parseCronField (range : CronRange) : Bytes → Option CronField
  | ['*'] => some .any
  | '*' :: '/' :: step => (cronNumber step).bind fun n => if n = 0 then none else some (.every n)
  | text => (cronNumber text).bind fun n =>
    if range.low ≤ n ∧ n ≤ range.high then some (.at n) else none

/-! ## Lines -/

def minuteRange : CronRange := ⟨0, 59⟩

def hourRange : CronRange := ⟨0, 23⟩

def dayRange : CronRange := ⟨1, 31⟩

def monthRange : CronRange := ⟨1, 12⟩

def weekdayRange : CronRange := ⟨0, 7⟩

structure CronLine where
  minute : CronField
  hour : CronField
  day : CronField
  month : CronField
  weekday : CronField
  command : Bytes
  deriving DecidableEq

/-- The first word of a text and what follows the blanks behind it. -/
def nextWord (text : Bytes) : Bytes × Bytes :=
  (text.takeWhile (· ≠ ' '), (text.dropWhile (· ≠ ' ')).dropWhile (· = ' '))

/-- A line of the table, `none` where cron refuses it. -/
def parseCronLine (text : Bytes) : Option CronLine := do
  let (minute, text) := nextWord text
  let (hour, text) := nextWord text
  let (day, text) := nextWord text
  let (month, text) := nextWord text
  let (weekday, command) := nextWord text
  let minute ← parseCronField minuteRange minute
  let hour ← parseCronField hourRange hour
  let day ← parseCronField dayRange day
  let month ← parseCronField monthRange month
  let weekday ← parseCronField weekdayRange weekday
  return ⟨minute, hour, day, month, weekday, command⟩

/-! ## When a line is due -/

/-- A day as cron looks at it. -/
structure CronDay where
  day : Nat
  month : Nat
  weekday : Nat

/-- The day part of a line: where both day fields are given, one of them is enough. -/
def CronLine.dueOn (line : CronLine) (date : CronDay) : Bool :=
  let day := line.day.admits dayRange date.day
  let weekday := line.weekday.admits weekdayRange date.weekday
  line.month.admits monthRange date.month &&
    if line.day = .any ∨ line.weekday = .any then day && weekday else day || weekday

/-- A line is due in the minute `t`, counted from midnight of the day 0 of the calendar. -/
def CronLine.due (calendar : Nat → CronDay) (line : CronLine) (t : Nat) : Bool :=
  line.minute.admits minuteRange (t % 60) && line.hour.admits hourRange (t / 60 % 24) &&
    line.dueOn (calendar (t / 1440))

/-- The next minute after `now` in which something is due is `k` minutes away. -/
def FirstDue (due : Nat → Bool) (now k : Nat) : Prop :=
  0 < k ∧ due (now + k) = true ∧ ∀ j, 0 < j → j < k → due (now + j) = false

/-- Every day of the week, of the month and of the year. -/
def CronLine.Daily (line : CronLine) : Prop :=
  line.day = .any ∧ line.month = .any ∧ line.weekday = .any

section Due

variable {calendar : Nat → CronDay} {line : CronLine}

theorem CronLine.Daily.dueOn (h : line.Daily) (date : CronDay) : line.dueOn date = true := by
  obtain ⟨hday, hmonth, hweekday⟩ := h
  simp [CronLine.dueOn, hday, hmonth, hweekday, CronField.admits]

/-- A daily line at `hour:minute` is due once a day. -/
theorem due_daily_iff (h : line.Daily) {minute hour : Nat} (hmin : line.minute = .at minute)
    (hhour : line.hour = .at hour) (hmin60 : minute < 60) (hhour24 : hour < 24) (t : Nat) :
    line.due calendar t = true ↔ t % 1440 = 60 * hour + minute := by
  simp only [CronLine.due, hmin, hhour, CronField.admits, h.dueOn, Bool.and_true, Bool.and_eq_true,
    decide_eq_true_eq]
  omega

/-- **The next time of a daily line** is less than a day and a minute away, and that is all there is to
it: no other distance inside a day shows the same time. -/
theorem firstDue_daily (h : line.Daily) {minute hour : Nat} (hmin : line.minute = .at minute)
    (hhour : line.hour = .at hour) (hmin60 : minute < 60) (hhour24 : hour < 24) {now k : Nat}
    (hpos : 0 < k) (hday : k ≤ 1440) (htime : (now + k) % 1440 = 60 * hour + minute) :
    FirstDue (line.due calendar) now k := by
  refine ⟨hpos, (due_daily_iff h hmin hhour hmin60 hhour24 _).mpr htime, ?_⟩
  intro j hj hlt
  rw [← Bool.not_eq_true, due_daily_iff h hmin hhour hmin60 hhour24]
  omega

end Due

/-! ## What is printed is parsed -/

/-- A printed number is a number. -/
theorem cronNumber_decimal (n : Nat) : cronNumber (decimal n) = some n := by
  have hall : (decimal n).all Char.isDigit = true :=
    List.all_eq_true.mpr fun c hc => isDigit_of_mem_decimal hc
  rw [cronNumber, if_pos ⟨decimal_ne_nil n, hall⟩]
  exact congrArg some Nat.ofDigitChars_ten_toDigits

/-- A text of digits is not one of the star forms. -/
theorem parseCronField_digits (range : CronRange) {text : Bytes} {n : Nat} (h : cronNumber text = some n)
    (hlow : range.low ≤ n) (hhigh : n ≤ range.high) : parseCronField range text = some (.at n) := by
  have hplain : text ≠ [] ∧ text.all Char.isDigit = true := by
    by_contra hno
    rw [cronNumber, if_neg hno] at h
    cases h
  have hstar : ∀ rest, text ≠ '*' :: rest := by
    rintro rest rfl
    simp at hplain
  unfold parseCronField
  split
  · exact absurd rfl (hstar [])
  · exact absurd rfl (hstar _)
  · rw [h, Option.bind_some, if_pos ⟨hlow, hhigh⟩]

/-- A word ends at the blank behind it. -/
theorem nextWord_append {word rest : Bytes} (hword : ' ' ∉ word) (hrest : rest.head? ≠ some ' ') :
    nextWord (word ++ ' ' :: rest) = (word, rest) := by
  have hskip : (' ' :: rest).dropWhile (· = ' ') = rest := by
    rw [List.dropWhile_cons_of_pos (by simp)]
    cases rest with
    | nil => rfl
    | cons c rest =>
      have hc : c ≠ ' ' := fun heq => hrest (by rw [heq]; rfl)
      exact List.dropWhile_cons_of_neg (by simp [hc])
  unfold nextWord
  rw [takeWhile_append_cons hword, List.dropWhile_append_of_pos (ne_of_not_mem hword),
    List.dropWhile_cons_of_neg (by simp), hskip]

/-- Minute and hour as printed, the rest of the fields open. -/
theorem parseCronLine_daily {minute hour command : Bytes} (hminute : ' ' ∉ minute) (hhour : ' ' ∉ hour)
    (hne : hour ≠ []) (hcommand : command.head? ≠ some ' ') :
    parseCronLine (minute ++ ' ' :: (hour ++ " * * * ".toList ++ command)) =
      (parseCronField minuteRange minute).bind fun minuteField =>
        (parseCronField hourRange hour).map fun hourField =>
          ⟨minuteField, hourField, .any, .any, .any, command⟩ := by
  have hstars : " * * * ".toList ++ command
      = ' ' :: (['*'] ++ ' ' :: (['*'] ++ ' ' :: (['*'] ++ ' ' :: command))) := rfl
  have hhead : (hour ++ ' ' :: (['*'] ++ ' ' :: (['*'] ++ ' ' :: (['*'] ++ ' ' :: command)))).head?
      ≠ some ' ' := by
    obtain ⟨c, cs, rfl⟩ := List.exists_cons_of_ne_nil hne
    intro heq
    exact hhour (by rw [show c = ' ' from Option.some.inj heq]; exact List.mem_cons_self)
  rw [List.append_assoc, hstars, parseCronLine]
  simp only [nextWord_append hminute hhead,
    nextWord_append hhour (show ((['*'] : Bytes) ++ ' ' :: (['*'] ++ ' ' :: (['*'] ++ ' ' :: command))).head?
      ≠ some ' ' by simp),
    nextWord_append (show ' ' ∉ ['*'] by simp)
      (show ((['*'] : Bytes) ++ ' ' :: (['*'] ++ ' ' :: command)).head? ≠ some ' ' by simp),
    nextWord_append (show ' ' ∉ ['*'] by simp)
      (show ((['*'] : Bytes) ++ ' ' :: command).head? ≠ some ' ' by simp),
    nextWord_append (show ' ' ∉ ['*'] by simp) hcommand]
  cases parseCronField minuteRange minute with
  | none => rfl
  | some minuteField =>
    cases parseCronField hourRange hour with
    | none => rfl
    | some hourField => rfl

end RebootManager.Foundation

/-
# RebootManager.Platform.Clock -- broken-down time and its `strftime` text

Both programs stamp a record with `strftime("%a %b %d %H:%M:%S UTC %Y")` of `gmtime`. The text is made
of letters, digits, spaces and colons only, which is what lets a record be read back past it.
-/
import RebootManager.Foundation.Decimal

namespace RebootManager

open Foundation

/-- `struct tm`, with the year counted from zero. `tm_year` is an `int`. -/
structure Tm where
  wday : Fin 7
  mon : Fin 12
  mday : Fin 32
  hour : Fin 24
  min : Fin 60
  sec : Fin 61
  year : Fin (2 ^ 32)
  deriving DecidableEq

/-- Thu Jan 01 00:00:00 1970, the clock of a device that has not heard of the time yet. -/
def Tm.epoch : Tm := ⟨4, 0, 1, 0, 0, 0, 1970⟩

/-- `%a` in the C locale. -/
def wdayName (d : Fin 7) : Bytes :=
  match d with
  | 0 => "Sun".toList
  | 1 => "Mon".toList
  | 2 => "Tue".toList
  | 3 => "Wed".toList
  | 4 => "Thu".toList
  | 5 => "Fri".toList
  | 6 => "Sat".toList

/-- `%b` in the C locale. -/
def monName (m : Fin 12) : Bytes :=
  match m with
  | 0 => "Jan".toList
  | 1 => "Feb".toList
  | 2 => "Mar".toList
  | 3 => "Apr".toList
  | 4 => "May".toList
  | 5 => "Jun".toList
  | 6 => "Jul".toList
  | 7 => "Aug".toList
  | 8 => "Sep".toList
  | 9 => "Oct".toList
  | 10 => "Nov".toList
  | 11 => "Dec".toList

/-- `strftime("%a %b %d %H:%M:%S UTC %Y", tm)`. -/
def strftime (t : Tm) : Bytes :=
  wdayName t.wday ++ [' '] ++ monName t.mon ++ [' '] ++ twoDigits t.mday ++ [' '] ++
    twoDigits t.hour ++ [':'] ++ twoDigits t.min ++ [':'] ++ twoDigits t.sec ++
    " UTC ".toList ++ decimal t.year

/-- `timestamp_update(buf, 64)`, and `get_current_timestamp` of the other program: the formatted time,
or nothing where it does not fit. -/
def timestampUpdate (t : Tm) : Bytes := if (strftime t).length < 64 then strftime t else []

/-! ## The text of a timestamp -/

/-- The bytes a timestamp is made of. -/
def isStampChar (c : Char) : Bool := c.isAlphanum || c = ' ' || c = ':'

theorem stampChar_digitChar {n : Nat} (h : n < 10) : isStampChar n.digitChar = true := by
  simp [isStampChar, Char.isAlphanum, Nat.isDigit_digitChar, h]

theorem stampChar_twoDigits (n : Nat) : ∀ c ∈ twoDigits n, isStampChar c = true := by
  intro c hc
  simp only [twoDigits, List.mem_cons, List.not_mem_nil, or_false] at hc
  rcases hc with rfl | rfl
  · exact stampChar_digitChar (Nat.mod_lt _ (by decide))
  · exact stampChar_digitChar (Nat.mod_lt _ (by decide))

theorem stampChar_decimal (n : Nat) : ∀ c ∈ decimal n, isStampChar c = true := by
  intro c hc
  simp [isStampChar, Char.isAlphanum, isDigit_of_mem_decimal hc]

theorem stampChar_wdayName (d : Fin 7) : ∀ c ∈ wdayName d, isStampChar c = true := by
  have hall : (wdayName d).all isStampChar = true := by decide +revert
  exact List.all_eq_true.mp hall

theorem stampChar_monName (m : Fin 12) : ∀ c ∈ monName m, isStampChar c = true := by
  have hall : (monName m).all isStampChar = true := by decide +revert
  exact List.all_eq_true.mp hall

theorem length_wdayName (d : Fin 7) : (wdayName d).length = 3 := by
  decide +revert

theorem length_monName (m : Fin 12) : (monName m).length = 3 := by
  decide +revert

theorem stampChar_strftime (t : Tm) : ∀ c ∈ strftime t, isStampChar c = true := by
  have hutc : ∀ c ∈ " UTC ".toList, isStampChar c = true := List.all_eq_true.mp (by decide)
  intro c hc
  simp only [strftime, List.mem_append, List.mem_singleton] at hc
  rcases hc with ((((((((((((h | rfl) | h) | rfl) | h) | rfl) | h) | rfl) | h) | rfl) | h) | h) | h)
  · exact stampChar_wdayName _ c h
  · decide
  · exact stampChar_monName _ c h
  · decide
  · exact stampChar_twoDigits _ c h
  · decide
  · exact stampChar_twoDigits _ c h
  · decide
  · exact stampChar_twoDigits _ c h
  · decide
  · exact stampChar_twoDigits _ c h
  · exact hutc c h
  · exact stampChar_decimal _ c h

/-- A year has at most ten digits, so a formatted time always fits its buffer. -/
theorem length_strftime_le (t : Tm) : (strftime t).length ≤ 34 := by
  have hyear : (decimal t.year).length ≤ 10 :=
    length_decimal_le (by decide) (Nat.lt_of_lt_of_le t.year.isLt (by decide))
  have hutc : " UTC ".toList.length = 5 := by decide
  simp only [strftime, List.length_append, length_wdayName, length_monName, hutc, twoDigits,
    List.length_cons, List.length_nil]
  omega

theorem timestampUpdate_eq (t : Tm) : timestampUpdate t = strftime t := by
  have h := length_strftime_le t
  rw [timestampUpdate, if_pos (by omega)]

theorem length_timestampUpdate_lt (t : Tm) : (timestampUpdate t).length < 64 := by
  rw [timestampUpdate_eq]
  exact Nat.lt_of_le_of_lt (length_strftime_le t) (by decide)

/-- No byte outside the timestamp alphabet occurs in a timestamp. -/
theorem not_mem_timestampUpdate (t : Tm) {c : Char} (hc : isStampChar c = false) :
    c ∉ timestampUpdate t := by
  rw [timestampUpdate_eq]
  intro hmem
  rw [stampChar_strftime t c hmem] at hc
  cases hc

end RebootManager

/-
# RebootManager.Helper.StopDuration -- how long the pause lasts (utils.c, cyclic_reboot.c)

RebootStop.Duration is a text, and `handle_cyclic_reboot` takes it for the minutes of the pause when it
denotes a number inside a day, else thirty. On the way it is a `long`, clamped, and then an `int`, wrapped:
a number beyond the range of `int` that wraps into the day is taken for one inside it
(`pauseConfigured_iff`). The numbers beyond the range of `long` are clamped to the ends of the range, which
wrap to 0 and -1 and do no harm.
-/
import RebootManager.Helper.CyclicReboot

namespace RebootManager

open Foundation

/-! ## The configured number -/

/-- The value without a pair of double quotes around it. -/
def unquoted (value : Bytes) : Bytes :=
  if 2 ≤ value.length ∧ value.head? = some '"' ∧ value.getLast? = some '"' then
    (value.drop 1).take (value.length - 2)
  else value

/-- The value is the decimal notation of `n`, whatever stands on the lines behind it. -/
def Configures (value : Bytes) (n : Int) : Prop :=
  ∃ rest, Denotes (unquoted value) n rest ∧ (rest = [] ∨ rest.head? = some '\n')

/-- Between one minute and a day. -/
def InsideDay (n : Int) : Prop := 0 < n ∧ n < 1440

instance (n : Int) : Decidable (InsideDay n) := inferInstanceAs (Decidable (_ ∧ _))

/-- The pause is the number that is configured, if there is one, and thirty minutes otherwise. -/
structure PauseConfigured (value : Bytes) (duration : Int) : Prop where
  number : ∀ n, Configures value n → InsideDay n → duration = n
  default : (∀ n, Configures value n → ¬ InsideDay n) → duration = 30

/-- A number outside the day and inside the range of `long` whose remainder modulo 2^32 is inside it. -/
def WrapsInside (n : Int) : Prop :=
  ¬ InsideDay n ∧ -2 ^ 63 ≤ n ∧ n < 2 ^ 63 ∧ InsideDay (n % 2 ^ 32) ∧ n % 2 ^ 32 ≠ 30

/-! ## The way to the number -/

/-- A value that fits the buffer is read whole. -/
theorem rfcReadParamValue_strtol {value : Bytes} (hnul : '\x00' ∉ value) (hfits : value.length ≤ 63) :
    (rfcReadParamValue (some value) 64).bind strtol = strtol (unquoted value) := by
  rw [rfcReadParamValue, Option.map_some, cstr_eq_self hnul]
  cases value with
  | nil => rfl
  | cons c cs =>
    dsimp only
    unfold unquoted
    split
    · rw [Nat.min_eq_left (by omega), Option.bind_some]
    · rw [List.take_of_length_le hfits, Option.bind_some]

/-- `rfc_get_int_param` gives the number of the value, clamped and wrapped, or nothing. -/
theorem rfcGetIntParam_eq_some_iff {value : Bytes} (hnul : '\x00' ∉ value) (hfits : value.length ≤ 63) {v : Int} :
    rfcGetIntParam (some value) = some v ↔ ∃ n, Configures value n ∧ v = toInt (clampLong n) := by
  rw [rfcGetIntParam, rfcReadParamValue_strtol hnul hfits]
  constructor
  · intro h
    split at h
    · rename_i w rest hstrtol
      split at h
      · rename_i hrest
        obtain ⟨n, hdenotes, rfl⟩ := strtol_eq_some_iff.mp hstrtol
        exact ⟨n, ⟨rest, hdenotes, hrest⟩, (Option.some.inj h).symm⟩
      · cases h
    · cases h
  · rintro ⟨n, ⟨rest, hdenotes, hrest⟩, rfl⟩
    rw [strtol_eq_some_iff.mpr ⟨n, hdenotes, rfl⟩]
    exact if_pos hrest

/-- A value has one number. -/
theorem configures_unique {value : Bytes} {m n : Int} (hm : Configures value m) (hn : Configures value n) :
    m = n := by
  obtain ⟨_, hm, -⟩ := hm
  obtain ⟨_, hn, -⟩ := hn
  exact (hm.unique hn).1

/-- `strtol` finds it, where it is not clamped. -/
theorem configures_of_strtol {value rest : Bytes} {n : Int} (hstrtol : strtol (unquoted value) = some (n, rest))
    (hrest : rest = [] ∨ rest.head? = some '\n') (hlow : -2 ^ 63 < n) (hhigh : n < 2 ^ 63 - 1) :
    Configures value n := by
  obtain ⟨m, hdenotes, hclamp⟩ := strtol_eq_some_iff.mp hstrtol
  have hsame : n = m := by
    unfold clampLong at hclamp
    omega
  exact ⟨rest, hsame ▸ hdenotes, hrest⟩

/-! ## Clamped and wrapped -/

/-- What the day sees of a number: the number, or the remainder of one that wraps. -/
theorem insideDay_toInt_clampLong {n : Int} :
    InsideDay (toInt (clampLong n)) ↔ -2 ^ 63 ≤ n ∧ n < 2 ^ 63 ∧ InsideDay (n % 2 ^ 32) := by
  unfold InsideDay toInt clampLong
  rw [Int.bmod_def]
  omega

theorem toInt_clampLong {n : Int} (h : InsideDay (toInt (clampLong n))) : toInt (clampLong n) = n % 2 ^ 32 := by
  unfold InsideDay toInt clampLong at *
  rw [Int.bmod_def] at *
  omega

/-- A number inside the day is kept. -/
theorem toInt_clampLong_of_insideDay {n : Int} (h : InsideDay n) : toInt (clampLong n) = n := by
  unfold InsideDay at h
  have hclamp : clampLong n = n := by
    unfold clampLong
    omega
  rw [hclamp]
  exact toInt_of_int (by omega) (by omega)

/-! ## The pause -/

section Pause

variable {value : Bytes} {d : Device}

/-- `stop_duration` of a configured number. -/
theorem stopDuration_of_configures (hnul : '\x00' ∉ value) (hfits : value.length ≤ 63)
    (hd : d.rfc .rebootStopDuration = some value) {n : Int} (hn : Configures value n) :
    stopDuration d = if InsideDay (toInt (clampLong n)) then toInt (clampLong n) else 30 := by
  rw [stopDuration, hd, (rfcGetIntParam_eq_some_iff hnul hfits).mpr ⟨n, hn, rfl⟩]
  rfl

/-- `stop_duration` where no number is configured. -/
theorem stopDuration_of_none (hnul : '\x00' ∉ value) (hfits : value.length ≤ 63)
    (hd : d.rfc .rebootStopDuration = some value) (hnone : ∀ n, ¬ Configures value n) :
    stopDuration d = 30 := by
  rw [stopDuration, hd]
  cases hparam : rfcGetIntParam (some value) with
  | none => rfl
  | some v =>
    obtain ⟨n, hn, -⟩ := (rfcGetIntParam_eq_some_iff hnul hfits).mp hparam
    exact absurd hn (hnone n)

/-- **The pause lasts as configured unless the number wraps into the day.** -/
theorem pauseConfigured_iff (hnul : '\x00' ∉ value) (hfits : value.length ≤ 63)
    (hd : d.rfc .rebootStopDuration = some value) :
    PauseConfigured value (stopDuration d) ↔ ¬ ∃ n, Configures value n ∧ WrapsInside n := by
  constructor
  · rintro ⟨-, hdefault⟩ ⟨n, hn, houtside, hlow, hhigh, hinside, hthirty⟩
    have hwraps : InsideDay (toInt (clampLong n)) := insideDay_toInt_clampLong.mpr ⟨hlow, hhigh, hinside⟩
    have hduration := stopDuration_of_configures hnul hfits hd hn
    rw [if_pos hwraps, toInt_clampLong hwraps,
      hdefault fun m hm => configures_unique hn hm ▸ houtside] at hduration
    exact hthirty hduration.symm
  · intro hnone
    refine ⟨fun n hn hinside => ?_, fun houtside => ?_⟩
    · rw [stopDuration_of_configures hnul hfits hd hn, toInt_clampLong_of_insideDay hinside, if_pos hinside]
    · by_cases hconfigured : ∃ n, Configures value n
      · obtain ⟨n, hn⟩ := hconfigured
        rw [stopDuration_of_configures hnul hfits hd hn]
        split
        · rename_i hwraps
          obtain ⟨hlow, hhigh, hinside⟩ := insideDay_toInt_clampLong.mp hwraps
          rw [toInt_clampLong hwraps]
          by_contra hthirty
          exact hnone ⟨n, hn, houtside n hn, hlow, hhigh, hinside, hthirty⟩
        · rfl
      · exact stopDuration_of_none hnul hfits hd fun n hn => hconfigured ⟨n, hn⟩

end Pause

/-- `tr181 -s -v 45` on the parameter, in quotes as the store keeps it. -/
def quotedDuration : Bytes := "\"0045\"".toList

theorem pauseConfigured_quotedDuration :
    PauseConfigured quotedDuration
      (stopDuration (Device.blank.setRfc .rebootStopDuration quotedDuration)) := by
  refine (pauseConfigured_iff (by decide) (by decide) (by simp)).mpr ?_
  rintro ⟨n, hn, houtside, -⟩
  have hfortyfive : Configures quotedDuration 45 :=
    configures_of_strtol (by decide +kernel) (Or.inl rfl) (by decide) (by decide)
  rw [configures_unique hn hfortyfive] at houtside
  exact houtside (by decide)

/-- 2^32 + 60 minutes. -/
def hugeDuration : Bytes := "4294967356".toList

/-- The pause is one hour, though the number is far outside the day. -/
theorem not_pauseConfigured_hugeDuration :
    stopDuration (Device.blank.setRfc .rebootStopDuration hugeDuration) = 60 ∧
      ¬ PauseConfigured hugeDuration
        (stopDuration (Device.blank.setRfc .rebootStopDuration hugeDuration)) := by
  have hduration : stopDuration (Device.blank.setRfc .rebootStopDuration hugeDuration) = 60 := by
    decide +kernel
  have hnumber : Configures hugeDuration 4294967356 :=
    configures_of_strtol (by decide +kernel) (Or.inl rfl) (by decide) (by decide)
  refine ⟨hduration, fun hpause => ?_⟩
  have hthirty := hpause.default fun n hn => configures_unique hnumber hn ▸ by decide
  rw [hduration] at hthirty
  cases hthirty

end RebootManager

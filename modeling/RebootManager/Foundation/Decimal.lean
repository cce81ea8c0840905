/-
# RebootManager.Foundation.Decimal -- `%d` on the way out, `strtol` on the way in

Counters and process ids live in small text files: one side prints them with `%d`, the other scans
them back with `fscanf("%ld")` or `atoi`. Both scanners are `strtol` in base ten: white space, one
optional sign, as many digits as there are, the value clamped to the range of `long`.
-/
import RebootManager.Foundation.CString

namespace RebootManager.Foundation

/-! ## Printing -/

/-- `%d` of a number that is not negative. -/
def decimal (n : Nat) : Bytes := Nat.toDigits 10 n

theorem isDigit_of_mem_decimal {n : Nat} {c : Char} (h : c ∈ decimal n) : c.isDigit = true :=
  Nat.isDigit_of_mem_toDigits (by decide) (by decide) h

theorem not_mem_decimal {c : Char} (hc : c.isDigit = false) (n : Nat) : c ∉ decimal n := by
  intro hmem
  rw [isDigit_of_mem_decimal hmem] at hc
  cases hc

theorem decimal_ne_nil (n : Nat) : decimal n ≠ [] := Nat.toDigits_ne_nil

theorem length_decimal_le {n k : Nat} (hk : 0 < k) (h : n < 10 ^ k) : (decimal n).length ≤ k :=
  (Nat.length_toDigits_le_iff (by decide) hk).mpr h

/-- `%d` of an `int`. -/
def decimalInt : Int → Bytes
  | .ofNat n => decimal n
  | .negSucc n => '-' :: decimal (n + 1)

/-- `%02d` of a number below one hundred. -/
def twoDigits (n : Nat) : Bytes := [(n / 10 % 10).digitChar, (n % 10).digitChar]

/-! ## Scanning -/

/-- `isspace` in the C locale. -/
def isSpace (c : Char) : Bool :=
  c = ' ' || c = '\t' || c = '\n' || c = '\x0b' || c = '\x0c' || c = '\x0d'

/-- The range of `long`. -/
def clampLong (v : Int) : Int := max (-2 ^ 63) (min (2 ^ 63 - 1) v)

/-- Conversion of a `long` to `int`. -/
def toInt (v : Int) : Int := v.bmod (2 ^ 32)

/-- `strtol(s, &end, 10)`: the value and the rest of the string, `none` where no digit was found
(`end == s`). -/
def strtol (s : Bytes) : Option (Int × Bytes) :=
  let body := s.dropWhile isSpace
  let negative := body.head? = some '-'
  let digits := if negative ∨ body.head? = some '+' then body.drop 1 else body
  let run := digits.takeWhile Char.isDigit
  if run = [] then none
  else
    let magnitude : Int := Nat.ofDigitChars 10 run 0
    some (clampLong (if negative then -magnitude else magnitude), digits.dropWhile Char.isDigit)

/-- `fscanf(f, "%ld", &v)` on a file with this content. -/
def scanLong (content : Bytes) : Option Int := (strtol content).map Prod.fst

/-- `atoi`. -/
def atoi (s : Bytes) : Int := toInt ((strtol s).elim 0 Prod.fst)

theorem isDigit_head_not_sign {c : Char} (h : c.isDigit = true) :
    isSpace c = false ∧ c ≠ '-' ∧ c ≠ '+' := by
  have hd : ∀ d : Char, d.isDigit = false → c ≠ d := by
    rintro d hd rfl
    rw [h] at hd
    cases hd
  refine ⟨?_, hd '-' (by decide), hd '+' (by decide)⟩
  simp [isSpace, hd ' ' (by decide), hd '\t' (by decide), hd '\n' (by decide),
    hd '\x0b' (by decide), hd '\x0c' (by decide), hd '\x0d' (by decide)]

/-- Digits end where something else begins. -/
theorem span_digits_append {digits rest : Bytes} (hdigits : ∀ c ∈ digits, c.isDigit = true)
    (hrest : ∀ c ∈ rest.head?, c.isDigit = false) :
    (digits ++ rest).takeWhile Char.isDigit = digits ∧ (digits ++ rest).dropWhile Char.isDigit = rest := by
  rw [List.takeWhile_append_of_pos hdigits, List.dropWhile_append_of_pos hdigits]
  cases rest with
  | nil => simp
  | cons c cs =>
    have hc : c.isDigit = false := hrest c (by simp)
    simp [hc]

/-! ## Decimal notation -/

/-- The number that digits behind a sign denote. -/
def signedValue (sign digits : Bytes) : Int :=
  if sign = ['-'] then -(Nat.ofDigitChars 10 digits 0 : Int) else Nat.ofDigitChars 10 digits 0

/-- The text denotes `n`: white space, an optional sign, as many digits as one likes, and then something
else, or nothing. -/
def Denotes (text : Bytes) (n : Int) (rest : Bytes) : Prop :=
  ∃ blanks sign digits, text = blanks ++ (sign ++ (digits ++ rest)) ∧
    (∀ c ∈ blanks, isSpace c = true) ∧ sign ∈ [[], ['+'], ['-']] ∧
    digits ≠ [] ∧ (∀ c ∈ digits, c.isDigit = true) ∧ (∀ c ∈ rest.head?, c.isDigit = false) ∧
    n = signedValue sign digits

/-- The part of `strtol` behind the white space. -/
theorem strtol_eq {text sign tail : Bytes} (hbody : text.dropWhile isSpace = sign ++ tail)
    (hsign : sign ∈ [[], ['+'], ['-']])
    (hunsigned : sign = [] → tail.head? ≠ some '-' ∧ tail.head? ≠ some '+') :
    strtol text =
      if tail.takeWhile Char.isDigit = [] then none
      else some (clampLong (signedValue sign (tail.takeWhile Char.isDigit)), tail.dropWhile Char.isDigit) := by
  simp only [List.mem_cons, List.not_mem_nil, or_false] at hsign
  rcases hsign with rfl | rfl | rfl
  · obtain ⟨hminus, hplus⟩ := hunsigned rfl
    rw [List.nil_append] at hbody
    simp only [strtol, hbody, hminus, hplus, or_self, if_false]
    rfl
  · have hplus : ('+' :: tail).head? = some '+' := rfl
    rw [List.singleton_append] at hbody
    simp only [strtol, hbody, hplus, or_true, if_true, List.drop_succ_cons, List.drop_zero]
    rfl
  · have hminus : ('-' :: tail).head? = some '-' := rfl
    rw [List.singleton_append] at hbody
    simp only [strtol, hbody, hminus, true_or, if_true, List.drop_succ_cons, List.drop_zero]
    rfl

/-- Every text has a sign behind its white space, or none. -/
theorem exists_sign (body : Bytes) :
    ∃ sign tail, body = sign ++ tail ∧ sign ∈ [[], ['+'], ['-']] ∧
      (sign = [] → tail.head? ≠ some '-' ∧ tail.head? ≠ some '+') := by
  cases body with
  | nil => exact ⟨[], [], rfl, by simp, by simp⟩
  | cons c body =>
    by_cases hminus : c = '-'
    · exact ⟨['-'], body, by rw [hminus]; rfl, by simp, fun h => absurd h (List.cons_ne_nil _ _)⟩
    · by_cases hplus : c = '+'
      · exact ⟨['+'], body, by rw [hplus]; rfl, by simp, fun h => absurd h (List.cons_ne_nil _ _)⟩
      · exact ⟨[], c :: body, rfl, by simp, by simp [hminus, hplus]⟩

/-- White space ends at the sign or the digits. -/
theorem dropWhile_blanks {blanks sign digits rest : Bytes} (hblanks : ∀ c ∈ blanks, isSpace c = true)
    (hsign : sign ∈ [[], ['+'], ['-']]) (hne : digits ≠ []) (hdigits : ∀ c ∈ digits, c.isDigit = true) :
    (blanks ++ (sign ++ (digits ++ rest))).dropWhile isSpace = sign ++ (digits ++ rest) := by
  rw [List.dropWhile_append_of_pos hblanks]
  simp only [List.mem_cons, List.not_mem_nil, or_false] at hsign
  rcases hsign with rfl | rfl | rfl
  · obtain ⟨d, ds, rfl⟩ := List.exists_cons_of_ne_nil hne
    have hspace := (isDigit_head_not_sign (hdigits d List.mem_cons_self)).1
    exact List.dropWhile_cons_of_neg (by simp [hspace])
  · exact List.dropWhile_cons_of_neg (by decide)
  · exact List.dropWhile_cons_of_neg (by decide)

/-- **What `strtol` reads**: the number the text denotes, clamped, and where its digits end. -/
theorem strtol_eq_some_iff {text rest : Bytes} {v : Int} :
    strtol text = some (v, rest) ↔ ∃ n, Denotes text n rest ∧ v = clampLong n := by
  constructor
  · intro h
    obtain ⟨sign, tail, hbody, hsign, hunsigned⟩ := exists_sign (text.dropWhile isSpace)
    rw [strtol_eq hbody hsign hunsigned] at h
    split at h
    · cases h
    · rename_i hne
      obtain ⟨rfl, rfl⟩ := Prod.mk.inj (Option.some.inj h)
      refine ⟨_, ⟨text.takeWhile isSpace, sign, tail.takeWhile Char.isDigit, ?_, ?_, hsign, hne, ?_, ?_, rfl⟩,
        rfl⟩
      · rw [List.takeWhile_append_dropWhile, ← hbody, List.takeWhile_append_dropWhile]
      · exact fun c hc => List.mem_takeWhile_imp hc
      · exact fun c hc => List.mem_takeWhile_imp hc
      · exact fun c hc => head?_dropWhile hc
  · rintro ⟨n, ⟨blanks, sign, digits, rfl, hblanks, hsign, hne, hdigits, hrest, rfl⟩, rfl⟩
    obtain ⟨hrun, hleft⟩ := span_digits_append hdigits hrest
    have hunsigned : sign = [] → (digits ++ rest).head? ≠ some '-' ∧ (digits ++ rest).head? ≠ some '+' := by
      -- the first digit is no sign
      obtain ⟨d, ds, rfl⟩ := List.exists_cons_of_ne_nil hne
      obtain ⟨-, hminus, hplus⟩ := isDigit_head_not_sign (hdigits d List.mem_cons_self)
      exact fun _ => ⟨by simp [hminus], by simp [hplus]⟩
    rw [strtol_eq (dropWhile_blanks hblanks hsign hne hdigits) hsign hunsigned, hrun, hleft, if_neg hne]

/-- The sign is the first byte behind the white space, if that is one. -/
theorem sign_eq {sign digits rest : Bytes} (hsign : sign ∈ [[], ['+'], ['-']]) (hne : digits ≠ [])
    (hdigits : ∀ c ∈ digits, c.isDigit = true) :
    sign = (sign ++ (digits ++ rest)).head?.toList.filter (fun c => c = '-' ∨ c = '+') := by
  obtain ⟨d, ds, rfl⟩ := List.exists_cons_of_ne_nil hne
  obtain ⟨-, hminus, hplus⟩ := isDigit_head_not_sign (hdigits d List.mem_cons_self)
  simp only [List.mem_cons, List.not_mem_nil, or_false] at hsign
  rcases hsign with rfl | rfl | rfl
  · simp [hminus, hplus]
  · rfl
  · rfl

/-- A text denotes one number. -/
theorem Denotes.unique {text rest rest' : Bytes} {m n : Int} (hm : Denotes text m rest)
    (hn : Denotes text n rest') : m = n ∧ rest = rest' := by
  obtain ⟨blanks, sign, digits, htext, hblanks, hsign, hne, hdigits, hrest, rfl⟩ := hm
  obtain ⟨blanks', sign', digits', htext', hblanks', hsign', hne', hdigits', hrest', rfl⟩ := hn
  have hbody : sign ++ (digits ++ rest) = sign' ++ (digits' ++ rest') := by
    rw [← dropWhile_blanks hblanks hsign hne hdigits, ← htext, htext',
      dropWhile_blanks hblanks' hsign' hne' hdigits']
  have hsame : sign = sign' := by
    rw [@sign_eq sign digits rest hsign hne hdigits, hbody, ← sign_eq hsign' hne' hdigits']
  subst hsame
  have htail := List.append_cancel_left hbody
  obtain ⟨hrun, hleft⟩ := span_digits_append hdigits hrest
  obtain ⟨hrun', hleft'⟩ := span_digits_append hdigits' hrest'
  rw [htail] at hrun hleft
  rw [← hrun, hrun', ← hleft, hleft']
  exact ⟨rfl, rfl⟩

/-! ## What is printed is scanned -/

/-- A printed number denotes itself, and what follows is left over. -/
theorem denotes_decimalInt (v : Int) {rest : Bytes} (hrest : ∀ c ∈ rest.head?, c.isDigit = false) :
    Denotes (decimalInt v ++ rest) v rest := by
  have hvalue : ∀ n, Nat.ofDigitChars 10 (decimal n) 0 = n := fun n => Nat.ofDigitChars_ten_toDigits
  have hdigits : ∀ n, ∀ c ∈ decimal n, c.isDigit = true := fun n c hc => isDigit_of_mem_decimal hc
  cases v with
  | ofNat n =>
    refine ⟨[], [], decimal n, rfl, List.forall_mem_nil _, by simp, decimal_ne_nil n, hdigits n, hrest, ?_⟩
    rw [signedValue, if_neg (by simp), hvalue]
    rfl
  | negSucc n =>
    refine ⟨[], ['-'], decimal (n + 1), rfl, List.forall_mem_nil _, by simp, decimal_ne_nil _, hdigits _,
      hrest, ?_⟩
    rw [signedValue, if_pos rfl, hvalue]
    rfl

/-- A printed `long` is scanned back. -/
theorem strtol_decimalInt_append {v : Int} {rest : Bytes} (hlow : -2 ^ 63 ≤ v) (hhigh : v < 2 ^ 63)
    (hrest : ∀ c ∈ rest.head?, c.isDigit = false) : strtol (decimalInt v ++ rest) = some (v, rest) := by
  have hclamp : v = clampLong v := by
    unfold clampLong
    omega
  exact strtol_eq_some_iff.mpr ⟨v, denotes_decimalInt v hrest, hclamp⟩

/-- An `int` written as `"%d\n"` is read back. -/
theorem scanLong_decimalInt_newline {v : Int} (hlow : -2 ^ 31 ≤ v) (hhigh : v < 2 ^ 31) :
    scanLong (decimalInt v ++ ['\n']) = some v := by
  have hnewline : ∀ c ∈ ['\n'].head?, c.isDigit = false := by
    intro c hc
    rw [← Option.some.inj hc]
    decide
  rw [scanLong, strtol_decimalInt_append (by omega) (by omega) hnewline]
  rfl

/-- An `int` survives the trip through `long`. -/
theorem toInt_of_int {v : Int} (hlow : -2 ^ 31 ≤ v) (hhigh : v < 2 ^ 31) : toInt v = v := by
  unfold toInt
  exact Int.bmod_eq_of_le (by omega) (by omega)

theorem toInt_bounds (v : Int) : -2 ^ 31 ≤ toInt v ∧ toInt v < 2 ^ 31 := by
  have hlow := @Int.le_bmod v (2 ^ 32) (by decide)
  have hhigh := @Int.bmod_lt v (2 ^ 32) (by decide)
  unfold toInt
  omega

/-- A pid file written as `"%d"` is read back. -/
theorem atoi_decimal {n : Nat} (hn : n < 2 ^ 31) : atoi (decimal n) = n := by
  have h : strtol (decimalInt n ++ []) = some ((n : Int), []) :=
    strtol_decimalInt_append (by omega) (by omega) (by simp)
  rw [List.append_nil] at h
  show toInt ((strtol (decimalInt n)).elim 0 Prod.fst) = n
  rw [h]
  show toInt (n : Int) = n
  exact toInt_of_int (by omega) (by omega)

end RebootManager.Foundation

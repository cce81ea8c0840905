/-
# RebootManager.Foundation.CString -- byte strings as the C string functions see them

A file, a buffer or a command-line argument is a `List Char`, one `Char` for each byte. This module
gives the handful of `<string.h>` functions a string-scraping C program is made of, as pure functions
on such lists, and the facts about first matches that its readers rest on.

The convention throughout: `strstr` and `strchr` return the *suffix* that the C pointer points to, so
pointer arithmetic on the result is `List.drop`, and a difference of two pointers is a difference of
two lengths.
-/
import Mathlib

namespace RebootManager.Foundation

/-- A byte string: one `Char` for each byte. -/
abbrev Bytes := List Char

/-! ## Strings without a terminator inside -/

/-- A C string as a program receives one (an `argv` entry, a string constant): no byte of it is the
terminator. -/
structure CString where
  bytes : Bytes
  noNul : '\x00' ∉ bytes
  deriving DecidableEq

@[ext]
theorem CString.ext {s t : CString} (h : s.bytes = t.bytes) : s = t := by
  cases s
  cases t
  cases h
  rfl

/-- What a string function sees of a buffer: everything before the first terminator. -/
def cstr (buf : Bytes) : Bytes := buf.takeWhile (· ≠ '\x00')

/-- Every byte of a text without `c` is another one. -/
theorem ne_of_not_mem {c : Char} {text : Bytes} (h : c ∉ text) : ∀ x ∈ text, decide (x ≠ c) = true := by
  intro x hx
  have hne : x ≠ c := fun heq => h (heq ▸ hx)
  exact decide_eq_true hne

theorem takeWhile_of_not_mem {c : Char} {text : Bytes} (h : c ∉ text) : text.takeWhile (· ≠ c) = text :=
  List.takeWhile_eq_self_iff.mpr (ne_of_not_mem h)

theorem cstr_eq_self {buf : Bytes} (h : '\x00' ∉ buf) : cstr buf = buf := takeWhile_of_not_mem h

/-- `snprintf(buf, size, "%s", text)`: the text, cut so that the terminator fits. -/
def snprintf (size : Nat) (text : Bytes) : Bytes := text.take (size - 1)

theorem snprintf_of_fits {size : Nat} {text : Bytes} (h : text.length < size) :
    snprintf size text = text :=
  List.take_of_length_le (by omega)

/-! ## Searching -/

/-- `strstr`: the suffix that starts at the first occurrence of `needle`. -/
def strstr : Bytes → Bytes → Option Bytes
  | [], needle => if needle.isPrefixOf [] then some [] else none
  | c :: cs, needle => if needle.isPrefixOf (c :: cs) then some (c :: cs) else strstr cs needle

/-- `strchr`: the suffix that starts at the first occurrence of `c`. -/
def strchr (s : Bytes) (c : Char) : Option Bytes :=
  if c ∈ s then some (s.dropWhile (· ≠ c)) else none

/-- `strcspn(s, reject)`: the length of the longest prefix without a byte of `reject`. -/
def strcspn (s reject : Bytes) : Nat := (s.takeWhile (· ∉ reject)).length

theorem strstr_head {hay needle : Bytes} (h : needle <+: hay) :
    strstr hay needle = some hay := by
  cases hay with
  | nil => simp [strstr, List.isPrefixOf_iff_prefix.mpr h]
  | cons c cs => simp [strstr, List.isPrefixOf_iff_prefix.mpr h]

theorem strstr_tail {c : Char} {cs needle : Bytes} (h : ¬ needle <+: c :: cs) :
    strstr (c :: cs) needle = strstr cs needle := by
  have hb : needle.isPrefixOf (c :: cs) = false := by
    rw [Bool.eq_false_iff]
    exact fun hp => h (List.isPrefixOf_iff_prefix.mp hp)
  simp [strstr, hb]

/-- A stretch without the needle's first byte cannot hold the start of a match. -/
theorem strstr_skip {c : Char} {pre rest needle : Bytes} (h : c ∉ pre) :
    strstr (pre ++ rest) (c :: needle) = strstr rest (c :: needle) := by
  induction pre with
  | nil => rfl
  | cons x xs ih =>
    have hx : ¬ (c :: needle) <+: x :: (xs ++ rest) := by
      intro hp
      have hcx : c = x := (List.cons_prefix_cons.mp hp).1
      exact h (by simp [hcx])
    rw [List.cons_append, strstr_tail hx]
    exact ih (fun hmem => h (List.mem_cons_of_mem x hmem))

/-- `strstr` finds something exactly when the needle occurs. -/
theorem isSome_strstr_iff {hay needle : Bytes} :
    (strstr hay needle).isSome ↔ needle <:+: hay := by
  induction hay with
  | nil =>
    simp only [strstr, List.infix_nil]
    cases needle <;> simp
  | cons c cs ih =>
    by_cases hp : needle <+: c :: cs
    · simp [strstr_head hp, hp.isInfix]
    · rw [strstr_tail hp, ih, List.infix_cons_iff]
      simp [hp]

/-- The result of `strstr` is a suffix of the haystack that begins with the needle. -/
theorem match_of_strstr {hay needle found : Bytes} (h : strstr hay needle = some found) :
    found <:+ hay ∧ needle <+: found := by
  induction hay with
  | nil =>
    simp only [strstr] at h
    split at h <;> simp_all
  | cons c cs ih =>
    by_cases hp : needle <+: c :: cs
    · rw [strstr_head hp] at h
      cases h
      exact ⟨List.suffix_refl _, hp⟩
    · rw [strstr_tail hp] at h
      obtain ⟨hsuffix, hpre⟩ := ih h
      exact ⟨hsuffix.trans (List.suffix_cons c cs), hpre⟩

theorem suffix_of_strstr {hay needle found : Bytes} (h : strstr hay needle = some found) :
    found <:+ hay := (match_of_strstr h).1

theorem prefix_of_strstr {hay needle found : Bytes} (h : strstr hay needle = some found) :
    needle <+: found := (match_of_strstr h).2

/-- A first match stays the first match, whatever is put behind the haystack. -/
theorem strstr_append {hay needle found : Bytes} (h : strstr hay needle = some found) (rest : Bytes) :
    strstr (hay ++ rest) needle = some (found ++ rest) := by
  induction hay with
  | nil =>
    obtain rfl : found = [] := List.suffix_nil.mp (suffix_of_strstr h)
    have hnil : needle = [] := List.prefix_nil.mp (prefix_of_strstr h)
    rw [hnil]
    exact strstr_head List.nil_prefix
  | cons c cs ih =>
    by_cases hp : needle <+: c :: cs
    · rw [strstr_head hp] at h
      cases h
      exact strstr_head (hp.trans (List.prefix_append _ _))
    · rw [strstr_tail hp] at h
      -- the match is in what follows, so the needle is too short to reach past it from here
      have hshort : needle.length ≤ (c :: cs).length := by
        have hneedle := (prefix_of_strstr h).length_le
        have hfound := (suffix_of_strstr h).length_le
        rw [List.length_cons]
        omega
      have hlater : ¬ needle <+: c :: (cs ++ rest) := fun hlong =>
        hp (List.prefix_of_prefix_length_le hlong (List.prefix_append (c :: cs) rest) hshort)
      rw [List.cons_append, strstr_tail hlater]
      exact ih h

/-- A string without the byte `c` occurs on one side of `c` or on the other. -/
theorem infix_append_cons_iff {c : Char} {needle a b : Bytes} (h : c ∉ needle) :
    needle <:+: a ++ c :: b ↔ needle <:+: a ∨ needle <:+: b := by
  constructor
  · rintro ⟨s, t, heq⟩
    rcases List.append_eq_append_iff.mp heq with ⟨rest, ha, -⟩ | ⟨rest, hs, hb⟩
    · exact Or.inl ⟨s, rest, ha.symm⟩
    · cases rest with
      | nil => exact Or.inl ⟨s, [], by simpa using hs⟩
      | cons x rest =>
        obtain ⟨rfl, rfl⟩ := List.cons.inj hb
        -- the occurrence ends behind `c`, so it begins there too
        have hends : needle <:+ c :: rest ∨ c :: rest <:+ needle :=
          List.suffix_or_suffix_of_suffix ⟨s, hs⟩ ⟨a, rfl⟩
        rcases hends with hshort | hlong
        · rcases List.suffix_cons_iff.mp hshort with rfl | hbehind
          · exact absurd List.mem_cons_self h
          · exact Or.inr (hbehind.isInfix.trans ⟨[], t, by simp⟩)
        · exact absurd (hlong.subset List.mem_cons_self) h
  · rintro (hin | hin)
    · exact hin.trans ⟨[], c :: b, by simp⟩
    · exact hin.trans ⟨a ++ [c], [], by simp⟩

/-- A byte behind the haystack that the needle does not have makes no match. -/
theorem strstr_append_singleton {c : Char} {needle : Bytes} (h : c ∉ needle) (hay : Bytes) :
    strstr (hay ++ [c]) needle = (strstr hay needle).map (· ++ [c]) := by
  cases hfound : strstr hay needle with
  | some found => exact strstr_append hfound [c]
  | none =>
    have hnone : ¬ needle <:+: hay := by
      rw [← isSome_strstr_iff, hfound]
      exact Bool.false_ne_true
    rw [Option.map_none, ← Option.not_isSome_iff_eq_none, isSome_strstr_iff, infix_append_cons_iff h]
    rintro (hin | hin)
    · exact hnone hin
    · rw [List.infix_nil.mp hin] at hnone
      exact hnone (List.nil_infix)

/-- A string without the separator occurs in the joined text exactly when it occurs in one of the parts. -/
theorem infix_intercalate_iff {c : Char} {needle : Bytes} (h : c ∉ needle) {parts : List Bytes}
    (hne : parts ≠ []) : needle <:+: [c].intercalate parts ↔ ∃ part ∈ parts, needle <:+: part := by
  induction parts with
  | nil => exact absurd rfl hne
  | cons part parts ih =>
    cases parts with
    | nil => simp
    | cons next rest =>
      rw [List.intercalate_cons_cons, List.append_assoc, List.singleton_append,
        infix_append_cons_iff h, ih (List.cons_ne_nil _ _)]
      simp

/-- Two runs of one byte: the shorter one begins the longer one. -/
theorem prefix_of_all_eq {c : Char} {a b : Bytes} (ha : ∀ x ∈ a, x = c) (hb : ∀ x ∈ b, x = c)
    (hlength : a.length ≤ b.length) : a <+: b := by
  rw [List.eq_replicate_of_mem ha, List.eq_replicate_of_mem hb]
  refine ⟨List.replicate (b.length - a.length) c, ?_⟩
  rw [List.replicate_append_replicate, Nat.add_sub_cancel' hlength]

/-- **A string and the bytes at its end.** `needle` does not end with `c`; with some `c` behind it, it occurs
in a text with some `c` behind it where enough of them follow. -/
theorem infix_trailing_iff {c : Char} {text textEnd needle needleEnd : Bytes}
    (htext : ∀ x ∈ textEnd, x = c) (hneedle : ∀ x ∈ needleEnd, x = c)
    (hlast : ∀ hne : needle ≠ [], needle.getLast hne ≠ c) :
    needle ++ needleEnd <:+: text ++ textEnd ↔
      ∃ before after, text = before ++ needle ++ after ∧ needleEnd <+: after ++ textEnd := by
  constructor
  · rintro ⟨before, rest, heq⟩
    rw [← List.append_assoc, List.append_assoc] at heq
    rcases List.append_eq_append_iff.mp heq with ⟨after, hsplit, hend⟩ | ⟨reach, hsplit, hend⟩
    · exact ⟨before, after, hsplit, rest, hend⟩
    · -- the needle reaches into the bytes at the end, so there is nothing of it but those
      have hcover : ∀ x ∈ reach, x = c := fun x hx => htext x (hend ▸ List.mem_append_left _ hx)
      have hroom : needleEnd <+: textEnd := by
        apply prefix_of_all_eq hneedle htext
        rw [hend, List.length_append, List.length_append]
        omega
      by_cases hreach : reach = []
      · rw [hreach, List.append_nil] at hsplit
        exact ⟨before, [], by rw [List.append_nil, hsplit], hroom⟩
      · have hnil : needle = [] := by
          by_contra hne
          have hends : (before ++ needle).getLast (by simp [hne]) = (text ++ reach).getLast (by simp [hreach]) :=
            List.getLast_congr _ _ hsplit
          rw [List.getLast_append_of_ne_nil _ hne, List.getLast_append_of_ne_nil _ hreach] at hends
          exact hlast hne (hends.trans (hcover _ (List.getLast_mem hreach)))
        exact ⟨text, [], by simp [hnil], hroom⟩
  · rintro ⟨before, after, rfl, rest, hrest⟩
    refine ⟨before, rest, ?_⟩
    rw [List.append_assoc _ after, ← hrest]
    simp

/-- Two texts are the same up to the first `c` and behind it. -/
theorem eq_of_append_cons {c : Char} {a b restA restB : Bytes} (ha : c ∉ a) (hb : c ∉ b)
    (h : a ++ c :: restA = b ++ c :: restB) : a = b ∧ restA = restB := by
  rcases List.append_eq_append_iff.mp h with ⟨more, rfl, hrest⟩ | ⟨more, rfl, hrest⟩
  · cases more with
    | nil =>
      rw [List.nil_append, List.cons.injEq] at hrest
      exact ⟨(List.append_nil a).symm, hrest.2⟩
    | cons x more =>
      obtain ⟨rfl, -⟩ := List.cons.inj hrest
      exact absurd (List.mem_append_right a List.mem_cons_self) hb
  · cases more with
    | nil =>
      rw [List.nil_append, List.cons.injEq] at hrest
      exact ⟨List.append_nil b, hrest.2.symm⟩
    | cons x more =>
      obtain ⟨rfl, -⟩ := List.cons.inj hrest
      exact absurd (List.mem_append_right b List.mem_cons_self) ha

/-- The bytes before the first `c`. -/
theorem takeWhile_append_cons {a : Bytes} {c : Char} (h : c ∉ a) (b : Bytes) :
    (a ++ c :: b).takeWhile (· ≠ c) = a := by
  rw [List.takeWhile_append_of_pos (ne_of_not_mem h), List.takeWhile_cons_of_neg (by simp), List.append_nil]

/-- `strchr` reaches it. -/
theorem strchr_append_cons {a : Bytes} {c : Char} (h : c ∉ a) (b : Bytes) :
    strchr (a ++ c :: b) c = some (c :: b) := by
  rw [strchr, if_pos (List.mem_append_right a List.mem_cons_self),
    List.dropWhile_append_of_pos (ne_of_not_mem h), List.dropWhile_cons_of_neg (by simp)]

theorem head?_of_isPrefix {part text : Bytes} (h : part <+: text) {c : Char} (hc : c ∈ part.head?) :
    c ∈ text.head? := by
  obtain ⟨rest, rfl⟩ := h
  cases part with
  | nil => cases hc
  | cons x part => exact hc

/-- The byte at which a scan stops is none that it passes over. -/
theorem head?_dropWhile {p : Char → Bool} {text : Bytes} {c : Char} (hc : c ∈ (text.dropWhile p).head?) :
    p c = false := by
  have hstop := List.head?_dropWhile_not p text
  rw [Option.mem_def.mp hc] at hstop
  exact hstop

/-- The bytes before the first `c`, when `strchr` reaches one. -/
theorem take_sub_strchr {s q : Bytes} {c : Char} (h : strchr s c = some q) :
    s.take (s.length - q.length) = s.takeWhile (· ≠ c) := by
  unfold strchr at h
  split at h
  · cases h
    have happ := List.takeWhile_append_dropWhile (p := (· ≠ c)) (l := s)
    have hlen := congrArg List.length happ
    rw [List.length_append] at hlen
    have hsub : s.length - (s.dropWhile (· ≠ c)).length = (s.takeWhile (· ≠ c)).length := by omega
    rw [hsub]
    exact List.prefix_iff_eq_take.mp (List.takeWhile_prefix _) |>.symm
  · cases h

end RebootManager.Foundation

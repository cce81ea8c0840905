/-
# RebootManager.Foundation.FlatRecord -- a flat `"key":"value"` record and its first-match reader

The writer prints one `"key":"value"` line for each field, and escapes nothing. The reader looks for
the first `"key":"` in the text and takes what follows up to the next double quote, cut to the size of
the buffer it goes to.

Two facts settle when such a pair round-trips. Whatever is read is free of double quotes and fits the
buffer (`extractField_bounds`), so a value that is not both can never come back as it was. Conversely
(`strstr_skip_lines`, `extractField_of_found`) the reader steps over every line whose key differs and whose
value has no double quote, so among such lines the field it is asked for is found, whole.

A reader whose buffer is too small sees the beginning of the record. It gets a field as it is or not at
all, by whether the buffer has its closing quote (`extractField_cut`).
-/
import RebootManager.Foundation.CString

namespace RebootManager.Foundation

/-! ## The reader -/

/-- `"key":"`. -/
def keyPattern (key : Bytes) : Bytes := ['"'] ++ key ++ ['"', ':', '"']

/-- What follows the first `"key":"`, up to the next double quote, cut to `size - 1` bytes. -/
def extractField (buf key : Bytes) (size : Nat) : Option Bytes :=
  match strstr buf (keyPattern key) with
  | none => none
  | some found =>
    let p := found.drop (keyPattern key).length
    match strchr p '"' with
    | none => none
    | some q => some ((p.take (p.length - q.length)).take (size - 1))

/-- Whatever is read has no double quote in it and leaves room for the terminator. -/
theorem extractField_bounds {buf key value : Bytes} {size : Nat}
    (h : extractField buf key size = some value) : '"' ∉ value ∧ value.length ≤ size - 1 := by
  unfold extractField at h
  split at h
  · cases h
  · rename_i found _
    dsimp only at h
    split at h
    · cases h
    · rename_i q hq
      rw [take_sub_strchr hq] at h
      cases h
      refine ⟨fun hmem => ?_, by rw [List.length_take]; omega⟩
      have hkept := List.mem_takeWhile_imp (List.mem_of_mem_take hmem)
      simp at hkept

/-! ## The writer -/

/-- One line of a record: `"key":"value"` and what ends the line. -/
def fieldLine (key value ending : Bytes) : Bytes := keyPattern key ++ value ++ ['"'] ++ ending

/-- A key that can be searched for: not empty, no double quote, and not mistaken for what stands
between two strings. -/
structure PlainKey (key : Bytes) : Prop where
  noQuote : '"' ∉ key
  head : ∃ c rest, key = c :: rest ∧ c ≠ ':' ∧ c ≠ ',' ∧ c ≠ '\n'

/-- What may stand between a value's closing quote and the next key. -/
structure PlainEnding (ending : Bytes) : Prop where
  noQuote : '"' ∉ ending
  head : ∃ c rest, ending = c :: rest ∧ (c = ',' ∨ c = '\n')

/-- Two quote-free strings followed by a quote are equal when one such text starts the other. -/
theorem eq_of_quoted_initial {a b restA restB : Bytes} (ha : '"' ∉ a) (hb : '"' ∉ b)
    (h : a ++ '"' :: restA <+: b ++ '"' :: restB) : a = b ∧ restA <+: restB := by
  induction a generalizing b with
  | nil =>
    cases b with
    | nil => exact ⟨rfl, (List.cons_prefix_cons.mp h).2⟩
    | cons y ys =>
      have hy : '"' = y := (List.cons_prefix_cons.mp h).1
      exact absurd (hy ▸ List.mem_cons_self) hb
  | cons x xs ih =>
    cases b with
    | nil =>
      have hx : x = '"' := (List.cons_prefix_cons.mp h).1
      exact absurd (hx ▸ List.mem_cons_self) ha
    | cons y ys =>
      obtain ⟨rfl, htail⟩ := List.cons_prefix_cons.mp h
      obtain ⟨rfl, hrest⟩ := ih (fun hm => ha (List.mem_cons_of_mem x hm))
        (fun hm => hb (List.mem_cons_of_mem x hm)) htail
      exact ⟨rfl, hrest⟩

/-- At a quote that opens a string `b`, the pattern of `key` matches only if `b` is `key` and is
followed by `":"`. -/
theorem keyPattern_initial {key b rest : Bytes} (hkey : '"' ∉ key) (hb : '"' ∉ b)
    (h : keyPattern key <+: '"' :: (b ++ '"' :: rest)) : key = b ∧ [':', '"'] <+: rest := by
  have htail : key ++ '"' :: [':', '"'] <+: b ++ '"' :: rest := by
    have := (List.cons_prefix_cons.mp (show '"' :: (key ++ ['"', ':', '"']) <+: _ from h)).2
    exact this
  exact eq_of_quoted_initial hkey hb htail

/-- At a quote followed by a byte no key starts with, nothing matches. -/
theorem not_keyPattern_at {key rest : Bytes} {c : Char} (hkey : PlainKey key)
    (hc : c = ':' ∨ c = ',' ∨ c = '\n') : ¬ keyPattern key <+: '"' :: c :: rest := by
  intro h
  obtain ⟨k, ks, rfl, hk1, hk2, hk3⟩ := hkey.head
  have hhead : k = c := (List.cons_prefix_cons.mp (List.cons_prefix_cons.mp
    (show '"' :: k :: (ks ++ ['"', ':', '"']) <+: _ from h)).2).1
  subst hhead
  rcases hc with h | h | h
  · exact hk1 h
  · exact hk2 h
  · exact hk3 h

/-- **The reader steps over a line.** A line with another key and a quote-free value holds no match of
the pattern, wherever the match might start. -/
theorem strstr_skip_line {key other value ending rest : Bytes} (hkey : PlainKey key)
    (hother : PlainKey other) (hne : key ≠ other) (hvalue : '"' ∉ value)
    (hend : PlainEnding ending) :
    strstr (fieldLine other value ending ++ rest) (keyPattern key)
      = strstr rest (keyPattern key) := by
  obtain ⟨e, es, hes, he⟩ := hend.head
  have hpat : keyPattern key = '"' :: (key ++ ['"', ':', '"']) := rfl
  have hshape : fieldLine other value ending ++ rest
      = '"' :: (other ++ '"' :: ':' :: '"' :: (value ++ '"' :: (ending ++ rest))) := by
    simp [fieldLine, keyPattern]
  -- the four quotes of the line, one after the other
  have h1 : ¬ keyPattern key <+: '"' :: (other ++ '"' :: ':' :: '"' :: (value ++ '"' :: (ending ++ rest))) :=
    fun h => hne (keyPattern_initial hkey.noQuote hother.noQuote h).1
  have h2 : ¬ keyPattern key <+: '"' :: ':' :: '"' :: (value ++ '"' :: (ending ++ rest)) :=
    not_keyPattern_at hkey (Or.inl rfl)
  have h3 : ¬ keyPattern key <+: '"' :: (value ++ '"' :: (ending ++ rest)) := by
    intro h
    have hcolon := (keyPattern_initial hkey.noQuote hvalue h).2
    rw [hes, List.cons_append] at hcolon
    have hc : ':' = e := (List.cons_prefix_cons.mp hcolon).1
    rcases he with rfl | rfl <;> exact absurd hc (by decide)
  have h4 : ¬ keyPattern key <+: '"' :: (ending ++ rest) := by
    rw [hes, List.cons_append]
    exact not_keyPattern_at hkey (Or.inr he)
  rw [hshape, strstr_tail h1, hpat, strstr_skip hother.noQuote, ← hpat, strstr_tail h2, hpat,
    show ':' :: '"' :: (value ++ '"' :: (ending ++ rest))
      = [':'] ++ '"' :: (value ++ '"' :: (ending ++ rest)) from rfl,
    strstr_skip (by decide), ← hpat, strstr_tail h3, hpat, strstr_skip hvalue, ← hpat,
    strstr_tail h4, hpat, strstr_skip hend.noQuote]

/-- What is read where the pattern has been found, with a quote-free value behind it. -/
theorem extractField_of_found {buf key value after : Bytes} {size : Nat} (hvalue : '"' ∉ value)
    (hfound : strstr buf (keyPattern key) = some (keyPattern key ++ value ++ '"' :: after)) :
    extractField buf key size = some (value.take (size - 1)) := by
  have hdrop : (keyPattern key ++ value ++ '"' :: after).drop (keyPattern key).length
      = value ++ '"' :: after := by
    rw [List.append_assoc, List.drop_left]
  have hq : strchr (value ++ '"' :: after) '"' = some ('"' :: after) := strchr_append_cons hvalue after
  have hlen : (value ++ '"' :: after).length - ('"' :: after).length = value.length := by
    rw [List.length_append]
    omega
  simp only [extractField, hfound, hdrop, hq, hlen, List.take_left]

/-- **The reader at a cut text.** Of a text in which the pattern is found, what is left in front of a cut
gives the value while it has the closing quote, and nothing from there on. -/
theorem extractField_cut {buf cut key value after : Bytes} {size : Nat} (hvalue : '"' ∉ value)
    (hfound : strstr (buf ++ cut) (keyPattern key) = some (keyPattern key ++ value ++ '"' :: after)) :
    extractField buf key size =
      if cut.length ≤ after.length then some (value.take (size - 1)) else none := by
  split
  · rename_i hclosed
    obtain ⟨skipped, hskipped⟩ := suffix_of_strstr hfound
    obtain ⟨left, rfl⟩ : cut <:+ after := by
      apply List.suffix_of_suffix_length_le ⟨buf, rfl⟩ _ hclosed
      exact ⟨skipped ++ (keyPattern key ++ value ++ ['"']), by rw [← hskipped]; simp⟩
    have hbuf : buf = skipped ++ (keyPattern key ++ value ++ '"' :: left) := by
      have hwhole : buf ++ cut = skipped ++ (keyPattern key ++ value ++ '"' :: left) ++ cut := by
        rw [← hskipped]
        simp
      exact List.append_cancel_right hwhole
    have hsome : (strstr buf (keyPattern key)).isSome := by
      apply isSome_strstr_iff.mpr
      exact ⟨skipped, value ++ '"' :: left, by rw [hbuf]; simp⟩
    obtain ⟨found, hthere⟩ := Option.isSome_iff_exists.mp hsome
    have hsame := strstr_append hthere cut
    rw [hfound, Option.some.injEq] at hsame
    have hleft : found = keyPattern key ++ value ++ '"' :: left := by
      have hwhole : found ++ cut = keyPattern key ++ value ++ '"' :: left ++ cut := by
        rw [← hsame]
        simp
      exact List.append_cancel_right hwhole
    exact extractField_of_found hvalue (hleft ▸ hthere)
  · rename_i hopen
    cases hthere : strstr buf (keyPattern key) with
    | none => simp only [extractField, hthere]
    | some found =>
      have hsame := strstr_append hthere cut
      rw [hfound, Option.some.injEq] at hsame
      -- what was found ends before the closing quote
      have hinitial : found <+: keyPattern key ++ value := by
        have hvalue : keyPattern key ++ value <+: found ++ cut := by
          rw [← hsame]
          exact List.prefix_append _ _
        apply List.prefix_of_prefix_length_le (List.prefix_append found cut) hvalue
        have hlength := congrArg List.length hsame
        simp only [List.length_append, List.length_cons] at hlength ⊢
        omega
      have hnone : '"' ∉ found.drop (keyPattern key).length := by
        obtain ⟨rest, hrest⟩ := hinitial
        have hdrop := congrArg (List.drop (keyPattern key).length) hrest
        rw [List.drop_left, List.drop_append_of_le_length (prefix_of_strstr hthere).length_le] at hdrop
        exact fun hmem => hvalue (hdrop ▸ List.mem_append_left _ hmem)
      simp only [extractField, hthere, strchr, if_neg hnone]

/-- A line of a record, as data. -/
structure Line where
  key : Bytes
  value : Bytes
  ending : Bytes

namespace Line

def text (l : Line) : Bytes := fieldLine l.key l.value l.ending

/-- A line the reader steps over on its way to another key. -/
structure Plain (l : Line) : Prop where
  key : PlainKey l.key
  value : '"' ∉ l.value
  ending : PlainEnding l.ending

end Line

/-- The text of a record's lines. -/
def linesText (ls : List Line) : Bytes := ls.flatMap Line.text

/-- **The reader finds its field among plain lines**, as it steps over those before it. -/
theorem strstr_skip_lines {pre key : Bytes} {ls : List Line} (hpre : '"' ∉ pre) (hkey : PlainKey key)
    (hls : ∀ x ∈ ls, x.Plain ∧ key ≠ x.key) (rest : Bytes) :
    strstr (pre ++ linesText ls ++ rest) (keyPattern key) = strstr rest (keyPattern key) := by
  rw [List.append_assoc]
  have hpat : keyPattern key = '"' :: (key ++ ['"', ':', '"']) := rfl
  rw [hpat, strstr_skip hpre, ← hpat]
  induction ls with
  | nil => rfl
  | cons x xs ih =>
    have hx := hls x (by simp)
    rw [linesText, List.flatMap_cons, List.append_assoc, Line.text]
    rw [strstr_skip_line hkey hx.1.key hx.2 hx.1.value hx.1.ending]
    exact ih fun y hy => hls y (List.mem_cons_of_mem x hy)

end RebootManager.Foundation

/-
# RebootManager.Foundation.ShellWords -- the words of a simple shell command

What `sh` makes of a command line without expansions: words between blanks, where a part in double quotes
keeps its blanks. A character that means more than itself to the shell is refused, so that `shellWords`
answers only where nothing but splitting and quote removal takes place.

Words that are written down, bare or between quotes, are the words that are read (`shellWords_written`).
-/
import RebootManager.Foundation.CronTable

namespace RebootManager.Foundation

/-- A character that stands for itself outside of quotes. -/
def bareChar (c : Char) : Bool := c.isAlphanum || c ∈ ['/', '-', '.', '_', ',', ':', '+', '@']

/-- A character that stands for itself in double quotes. -/
def quotedChar (c : Char) : Bool := c ∉ ['"', '$', '\x60', '\\']

/-- The scanner: whether it is between quotes, and the word it is in. -/
def scanShell : Bool → Option Bytes → Bytes → Option (List Bytes)
  | false, word, [] => some word.toList
  -- an unclosed quote
  | true, _, [] => none
  | false, word, c :: text =>
    if c = ' ' then (scanShell false none text).map (word.toList ++ ·)
    else if c = '"' then scanShell true (some (word.getD [])) text
    else if bareChar c then scanShell false (some (word.getD [] ++ [c])) text
    else none
  | true, word, c :: text =>
    if c = '"' then scanShell false word text
    else if quotedChar c then scanShell true (some (word.getD [] ++ [c])) text
    else none

/-- The words of a command line, `none` where the shell would do more than split it. -/
def shellWords (text : Bytes) : Option (List Bytes) := scanShell false none text

/-- The words of a line's command; cron ends the command at a percent sign. -/
def CronLine.words (line : CronLine) : Option (List Bytes) :=
  if '%' ∈ line.command then none else shellWords line.command

/-! ## Writing words -/

/-- A word as it stands in a command line. -/
inductive WrittenWord where
  | bare (text : Bytes)
  | quoted (text : Bytes)

namespace WrittenWord

def text : WrittenWord → Bytes
  | .bare text => text
  | .quoted text => text

def written : WrittenWord → Bytes
  | .bare text => text
  | .quoted text => '"' :: (text ++ ['"'])

/-- The word needs no more than the quotes it has. -/
def plain : WrittenWord → Bool
  | .bare text => text ≠ [] && text.all bareChar
  | .quoted text => text.all quotedChar

end WrittenWord

/-- Words with a blank between each two. -/
def writeWords : List WrittenWord → Bytes
  | [] => []
  | [w] => w.written
  | w :: ws => w.written ++ ' ' :: writeWords ws

section Scanning

variable {text : Bytes}

theorem bareChar_ne {c : Char} (h : bareChar c = true) : c ≠ ' ' ∧ c ≠ '"' := by
  constructor
  · rintro rfl
    exact absurd h (by decide)
  · rintro rfl
    exact absurd h (by decide)

/-- Bare characters go to the word. -/
theorem scanShell_bare (h : text.all bareChar = true) (word rest : Bytes) :
    scanShell false (some word) (text ++ rest) = scanShell false (some (word ++ text)) rest := by
  induction text generalizing word with
  | nil => simp
  | cons c text ih =>
    obtain ⟨hbare, htext⟩ := Bool.and_eq_true_iff.mp (List.all_cons ▸ h)
    obtain ⟨hblank, hquote⟩ := bareChar_ne hbare
    rw [List.cons_append, scanShell, if_neg hblank, if_neg hquote, if_pos hbare, Option.getD_some,
      ih htext]
    simp

/-- So does everything up to the closing quote. -/
theorem scanShell_quoted (h : text.all quotedChar = true) (word rest : Bytes) :
    scanShell true (some word) (text ++ '"' :: rest) = scanShell false (some (word ++ text)) rest := by
  induction text generalizing word with
  | nil => simp [scanShell]
  | cons c text ih =>
    obtain ⟨hquoted, htext⟩ := Bool.and_eq_true_iff.mp (List.all_cons ▸ h)
    have hquote : c ≠ '"' := by
      rintro rfl
      exact absurd hquoted (by decide)
    rw [List.cons_append, scanShell, if_neg hquote, if_pos hquoted, Option.getD_some, ih htext]
    simp

/-- A written word is read as its text, up to the blank or the end behind it. -/
theorem scanShell_written {w : WrittenWord} (h : w.plain = true) (rest : Bytes) :
    scanShell false none (w.written ++ rest) = scanShell false (some w.text) rest := by
  cases w with
  | bare text =>
    obtain ⟨hne, hbare⟩ := Bool.and_eq_true_iff.mp h
    obtain ⟨c, text, rfl⟩ := List.exists_cons_of_ne_nil (of_decide_eq_true hne)
    obtain ⟨hfirst, htext⟩ := Bool.and_eq_true_iff.mp (List.all_cons ▸ hbare)
    obtain ⟨hblank, hquote⟩ := bareChar_ne hfirst
    show scanShell false none (c :: (text ++ rest)) = scanShell false (some (c :: text)) rest
    rw [scanShell, if_neg hblank, if_neg hquote, if_pos hfirst, scanShell_bare htext]
    rfl
  | quoted text =>
    have hquote : '"' ≠ ' ' := by decide
    show scanShell false none ('"' :: (text ++ ['"'] ++ rest)) = scanShell false (some text) rest
    rw [scanShell, if_neg hquote, if_pos rfl, List.append_assoc, List.singleton_append, Option.getD_none,
      scanShell_quoted h]
    rfl

end Scanning

/-- **What is written is read.** -/
theorem shellWords_written {ws : List WrittenWord} (h : ws.all WrittenWord.plain = true) :
    shellWords (writeWords ws) = some (ws.map WrittenWord.text) := by
  induction ws with
  | nil => rfl
  | cons w ws ih =>
    obtain ⟨hw, hws⟩ := Bool.and_eq_true_iff.mp (List.all_cons ▸ h)
    cases ws with
    | nil =>
      have hread := scanShell_written hw []
      rw [List.append_nil] at hread
      rw [shellWords, writeWords, hread]
      rfl
    | cons w' ws =>
      have hrest := ih hws
      rw [shellWords] at hrest ⊢
      rw [writeWords, scanShell_written hw, scanShell, if_pos rfl, hrest]
      · rfl
      · exact List.cons_ne_nil _ _

end RebootManager.Foundation

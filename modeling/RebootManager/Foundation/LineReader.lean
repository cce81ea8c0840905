/-
# RebootManager.Foundation.LineReader -- a text file read through a fixed line buffer

`while (fgets(buf, size, fp))` is how a C program goes through the lines of a file. What it sees are not
lines: a line longer than the buffer comes in pieces, each of them a buffer of its own, and `strstr` and
its relatives see a buffer up to the first NUL only.

`fgetsLines` is that loop and `lines` the lines it is taken for. The file is read line by line
(`fgetsFill_lines`); a line that fits is one buffer (`fgetsFill_of_fits`) and any other goes in pieces of
the buffer's size (`fgetsFill_of_long`). From these two rules comes what a search of the buffers finds:
exactly the strings that stand within one piece with no NUL before them (`search_line_iff`).
-/
import RebootManager.Foundation.CString

namespace RebootManager.Foundation

/-! ## Buffers and lines -/

/-- The buffers `fgets` fills one after the other: `left` bytes still fit the current one, which holds
`held` in reverse. -/
def fgetsFill (room : Nat) : Nat → Bytes → Bytes → List Bytes
  | _, held, [] => if held = [] then [] else [held.reverse]
  | left, held, c :: cs =>
    if c = '\n' ∨ left ≤ 1 then (c :: held).reverse :: fgetsFill room room [] cs
    else fgetsFill room (left - 1) (c :: held) cs

/-- What `while (fgets(line, size, fp))` sees of a file: each buffer as a C string. -/
def fgetsLines (size : Nat) (content : Bytes) : List Bytes :=
  (fgetsFill (size - 1) (size - 1) [] content).map cstr

/-- The lines of a text behind what is `held`, in reverse, of the first one. -/
def linesFrom (held : Bytes) : Bytes → List Bytes
  | [] => if held = [] then [] else [held.reverse]
  | c :: cs =>
    if c = '\n' then (c :: held).reverse :: linesFrom [] cs else linesFrom (c :: held) cs

/-- The lines of a text, each with the newline that ends it; the last one may have none. -/
def lines (content : Bytes) : List Bytes := linesFrom [] content

/-- A line: no newline before its last byte. -/
def IsLine (line : Bytes) : Prop := ∃ init last, line = init ++ [last] ∧ '\n' ∉ init

theorem isLine_append_newline {text : Bytes} (h : '\n' ∉ text) : IsLine (text ++ ['\n']) :=
  ⟨text, '\n', rfl, h⟩

theorem isLine_of_not_mem {text : Bytes} (h : '\n' ∉ text) (hne : text ≠ []) : IsLine text := by
  obtain hnil | ⟨init, last, rfl⟩ := List.eq_nil_or_concat text
  · exact absurd hnil hne
  · rw [List.concat_eq_append] at h ⊢
    exact ⟨init, last, rfl, fun hmem => h (List.mem_append_left [last] hmem)⟩

/-- **Line induction.** A text is empty, an unfinished line, or a line and a text behind it. -/
theorem line_induction {P : Bytes → Prop} (nil : P [])
    (last : ∀ text, text ≠ [] → '\n' ∉ text → P text)
    (line : ∀ text rest, '\n' ∉ text → P rest → P (text ++ '\n' :: rest)) (content : Bytes) :
    P content := by
  induction hn : content.length using Nat.strong_induction_on generalizing content with
  | _ n ih =>
    by_cases hmem : '\n' ∈ content
    · obtain ⟨text, rest, rfl, htext⟩ := List.eq_append_cons_of_mem hmem
      apply line text rest htext
      refine ih rest.length ?_ rest rfl
      rw [← hn, List.length_append, List.length_cons]
      omega
    · cases content with
      | nil => exact nil
      | cons c cs => exact last (c :: cs) (by simp) hmem

theorem linesFrom_append {text : Bytes} (h : '\n' ∉ text) (held rest : Bytes) :
    linesFrom held (text ++ rest) = linesFrom (text.reverse ++ held) rest := by
  induction text generalizing held with
  | nil => rfl
  | cons c cs ih =>
    have hc : c ≠ '\n' := fun heq => h (by simp [heq])
    rw [List.cons_append, linesFrom, if_neg hc, ih fun hmem => h (List.mem_cons_of_mem c hmem)]
    simp

theorem lines_cons {text : Bytes} (h : '\n' ∉ text) (rest : Bytes) :
    lines (text ++ '\n' :: rest) = (text ++ ['\n']) :: lines rest := by
  rw [lines, linesFrom_append h, linesFrom, if_pos rfl]
  simp [lines]

theorem lines_of_not_mem {text : Bytes} (h : '\n' ∉ text) (hne : text ≠ []) : lines text = [text] := by
  have happend := linesFrom_append h [] []
  rw [List.append_nil] at happend
  rw [lines, happend, linesFrom, if_neg (by simpa using hne)]
  simp

theorem isLine_of_mem_lines {content line : Bytes} (h : line ∈ lines content) : IsLine line := by
  induction content using line_induction with
  | nil => cases h
  | last text hne htext =>
    rw [lines_of_not_mem htext hne, List.mem_singleton] at h
    exact h ▸ isLine_of_not_mem htext hne
  | line text rest htext ih =>
    rw [lines_cons htext, List.mem_cons] at h
    rcases h with rfl | h
    · exact isLine_append_newline htext
    · exact ih h

/-! ## Lines written one behind the other -/

/-- A line with the newline that ends it, and no other. -/
def EndedLine (line : Bytes) : Prop := ∃ text, line = text ++ ['\n'] ∧ '\n' ∉ text

/-- Ended lines are read as they were written. -/
theorem lines_flatten {ls : List Bytes} (h : ∀ line ∈ ls, EndedLine line) : lines ls.flatten = ls := by
  induction ls with
  | nil => rfl
  | cons line ls ih =>
    obtain ⟨text, rfl, htext⟩ := h line List.mem_cons_self
    have hrest : lines ls.flatten = ls := ih fun l hl => h l (List.mem_cons_of_mem _ hl)
    have hsplit : ((text ++ ['\n']) :: ls).flatten = text ++ '\n' :: ls.flatten := by simp
    rw [hsplit, lines_cons htext, hrest]

/-- Where every line of a text ends with a newline, there are as many of them as newlines. -/
theorem count_newline {content : Bytes} (h : ∀ line ∈ lines content, ['\n'] <:+ line) :
    content.count '\n' = (lines content).length := by
  induction content using line_induction with
  | nil => rfl
  | last text hne htext =>
    have hends := h text (by rw [lines_of_not_mem htext hne]; exact List.mem_singleton_self text)
    exact absurd (hends.subset (List.mem_singleton_self _)) htext
  | line text rest htext ih =>
    rw [lines_cons htext] at h ⊢
    have hrest := ih fun line hline => h line (List.mem_cons_of_mem _ hline)
    rw [List.count_append, List.count_cons_self, List.count_eq_zero.mpr htext, hrest, List.length_cons,
      Nat.zero_add]

/-- A buffer that is too small for the line loses its newline. -/
theorem count_newline_snprintf {size : Nat} {line : Bytes} (h : EndedLine line) :
    (snprintf size line).count '\n' = if line.length < size then 1 else 0 := by
  obtain ⟨text, rfl, htext⟩ := h
  by_cases hfits : (text ++ ['\n']).length < size
  · rw [snprintf_of_fits hfits, if_pos hfits, List.count_append, List.count_eq_zero.mpr htext]
    rfl
  · rw [if_neg hfits, snprintf, List.count_eq_zero]
    rw [List.length_append, List.length_singleton] at hfits
    rw [List.take_append_of_le_length (by omega)]
    exact fun hmem => htext (List.mem_of_mem_take hmem)

/-- Of the lines written through a buffer, those that fit leave their newline. -/
theorem count_newline_flatten {size : Nat} {ls : List Bytes} (h : ∀ line ∈ ls, EndedLine line) :
    (ls.map (snprintf size)).flatten.count '\n' = ls.countP (·.length < size) := by
  induction ls with
  | nil => rfl
  | cons line ls ih =>
    have hrest := ih fun l hl => h l (List.mem_cons_of_mem _ hl)
    rw [List.map_cons, List.flatten_cons, List.count_append, hrest,
      count_newline_snprintf (h line List.mem_cons_self), List.countP_cons, Nat.add_comm]
    simp

/-- Lines that fit the buffer come out one for one. -/
theorem lines_through_buffer {size : Nat} {ls : List Bytes} (h : ∀ line ∈ ls, EndedLine line)
    (hfits : ∀ line ∈ ls, line.length < size) : lines (ls.map (snprintf size)).flatten = ls := by
  have hwhole : ls.map (snprintf size) = ls := by
    rw [List.map_congr_left fun line hline => snprintf_of_fits (hfits line hline), List.map_id']
  rw [hwhole, lines_flatten h]

/-- As many lines as were written, each with its newline: then all of them fit the buffer. -/
theorem fits_of_lines_through_buffer {size : Nat} {ls : List Bytes} (h : ∀ line ∈ ls, EndedLine line)
    (hlength : (lines (ls.map (snprintf size)).flatten).length = ls.length)
    (hends : ∀ line ∈ lines (ls.map (snprintf size)).flatten, ['\n'] <:+ line) :
    ∀ line ∈ ls, line.length < size := by
  have hcount : ls.countP (·.length < size) = ls.length := by
    rw [← count_newline_flatten h, count_newline hends, hlength]
  intro line hline
  exact of_decide_eq_true (List.countP_eq_length.mp hcount line hline)

/-! ## Filling the buffer -/

section Fill

variable {room : Nat}

/-- Bytes that are no newline go into the buffer while there is room. -/
theorem fgetsFill_append {head : Bytes} (h : '\n' ∉ head) {left : Nat} (hfits : head.length < left)
    (held rest : Bytes) :
    fgetsFill room left held (head ++ rest)
      = fgetsFill room (left - head.length) (head.reverse ++ held) rest := by
  induction head generalizing left held with
  | nil => rfl
  | cons c cs ih =>
    rw [List.length_cons] at hfits
    have hc : ¬ (c = '\n' ∨ left ≤ 1) := by
      rintro (rfl | hfull)
      · exact h (by simp)
      · omega
    rw [List.cons_append, fgetsFill, if_neg hc,
      ih (fun hmem => h (List.mem_cons_of_mem c hmem)) (by omega)]
    rw [List.reverse_cons, List.append_assoc, List.singleton_append, List.length_cons,
      Nat.sub_sub, Nat.add_comm 1]

/-- A line that fits is one buffer. -/
theorem fgetsFill_of_fits {line : Bytes} (h : IsLine line) (hfits : line.length ≤ room) :
    fgetsFill room room [] line = [line] := by
  obtain ⟨init, last, rfl, hinit⟩ := h
  rw [List.length_append, List.length_singleton] at hfits
  rw [fgetsFill_append hinit (by omega), List.append_nil, fgetsFill]
  split
  · simp [fgetsFill]
  · simp [fgetsFill]

/-- A longer one is a full buffer and what is left of the line. -/
theorem fgetsFill_of_long {line : Bytes} (h : IsLine line) (hroom : 0 < room)
    (hlong : room < line.length) :
    fgetsFill room room [] line = line.take room :: fgetsFill room room [] (line.drop room) ∧
      IsLine (line.drop room) := by
  obtain ⟨init, last, rfl, hinit⟩ := h
  rw [List.length_append, List.length_singleton] at hlong
  have htake : (init ++ [last]).take room = init.take room := List.take_append_of_le_length (by omega)
  have hdrop : (init ++ [last]).drop room = init.drop room ++ [last] :=
    List.drop_append_of_le_length (by omega)
  refine ⟨?_, init.drop room, last, hdrop, fun hmem => hinit (List.mem_of_mem_drop hmem)⟩
  -- the last byte that fits is no newline, but fills the buffer
  obtain ⟨head, c, hhead⟩ : ∃ head c, init.take room = head ++ [c] := by
    obtain hnil | ⟨head, c, hcat⟩ := List.eq_nil_or_concat (init.take room)
    · have hlen := congrArg List.length hnil
      rw [List.length_take, List.length_nil] at hlen
      omega
    · exact ⟨head, c, by rw [hcat, List.concat_eq_append]⟩
  have hlen : head.length + 1 = room := by
    have := congrArg List.length hhead
    rw [List.length_take, List.length_append, List.length_singleton] at this
    omega
  have hnewline : '\n' ∉ head := by
    intro hmem
    have : '\n' ∈ init.take room := hhead ▸ List.mem_append_left [c] hmem
    exact hinit (List.mem_of_mem_take this)
  have hcut : head ++ c :: init.drop room = init := by
    rw [← List.singleton_append, ← List.append_assoc, ← hhead, List.take_append_drop]
  have hsplit : init ++ [last] = head ++ c :: (init.drop room ++ [last]) := by
    rw [← List.cons_append, ← List.append_assoc, hcut]
  rw [htake, hdrop, hhead, hsplit, fgetsFill_append hnewline (by omega), fgetsFill,
    if_pos (Or.inr (by omega))]
  simp

/-- A newline ends its buffer, whatever comes behind it. -/
theorem fgetsFill_newline (text : Bytes) (left : Nat) (held rest : Bytes) :
    fgetsFill room left held (text ++ '\n' :: rest)
      = fgetsFill room left held (text ++ ['\n']) ++ fgetsFill room room [] rest := by
  induction text generalizing left held with
  | nil => simp [fgetsFill]
  | cons c cs ih =>
    rw [List.cons_append, List.cons_append, fgetsFill, fgetsFill]
    split
    · rw [ih, List.cons_append]
    · exact ih _ _

/-- The file is read line by line. -/
theorem fgetsFill_lines (content : Bytes) :
    fgetsFill room room [] content = (lines content).flatMap (fgetsFill room room []) := by
  induction content using line_induction with
  | nil => simp [fgetsFill, lines, linesFrom]
  | last text hne htext => simp [lines_of_not_mem htext hne]
  | line text rest htext ih => rw [lines_cons htext, List.flatMap_cons, fgetsFill_newline, ih]

/-- Where every line fits, the buffers are the lines. -/
theorem fgetsLines_of_fits {size : Nat} {content : Bytes}
    (h : ∀ line ∈ lines content, line.length ≤ size - 1) :
    fgetsLines size content = (lines content).map cstr := by
  have hone : ∀ line ∈ lines content, fgetsFill (size - 1) (size - 1) [] line = [line] :=
    fun line hline => fgetsFill_of_fits (isLine_of_mem_lines hline) (h line hline)
  rw [fgetsLines, fgetsFill_lines, List.flatMap_congr hone, List.flatMap_singleton']

/-- Every buffer is a part of the text. -/
theorem infix_of_mem_fgetsFill {content buffer : Bytes} {left : Nat} {held : Bytes}
    (h : buffer ∈ fgetsFill room left held content) : buffer <:+: held.reverse ++ content := by
  induction content generalizing left held with
  | nil =>
    rw [fgetsFill] at h
    split at h
    · cases h
    · rw [List.mem_singleton.mp h, List.append_nil]
  | cons c cs ih =>
    rw [fgetsFill] at h
    split at h
    · rcases List.mem_cons.mp h with rfl | h
      · rw [List.reverse_cons]
        exact ⟨[], cs, by simp⟩
      · have hrest := ih h
        rw [List.reverse_nil, List.nil_append] at hrest
        exact hrest.trans ⟨held.reverse ++ [c], [], by simp⟩
    · have hrest := ih h
      rw [List.reverse_cons, List.append_assoc, List.singleton_append] at hrest
      exact hrest

end Fill

/-! ## The buffers as strings -/

section Buffers

variable {size : Nat}

/-- The loop goes on behind a newline as it began. -/
theorem fgetsLines_newline (text rest : Bytes) :
    fgetsLines size (text ++ '\n' :: rest) = fgetsLines size (text ++ ['\n']) ++ fgetsLines size rest := by
  rw [fgetsLines, fgetsFill_newline, List.map_append]
  rfl

/-- A line that fits is seen as it is. -/
theorem fgetsLines_line {text : Bytes} (hnewline : '\n' ∉ text) (hnul : '\x00' ∉ text)
    (hfits : text.length + 1 ≤ size - 1) (rest : Bytes) :
    fgetsLines size (text ++ '\n' :: rest) = (text ++ ['\n']) :: fgetsLines size rest := by
  have hlength : (text ++ ['\n']).length ≤ size - 1 := by
    rw [List.length_append]
    exact hfits
  have hcstr : cstr (text ++ ['\n']) = text ++ ['\n'] := by
    apply cstr_eq_self
    simp [hnul]
  have hone : fgetsLines size (text ++ ['\n']) = [text ++ ['\n']] := by
    rw [fgetsLines, fgetsFill_of_fits (isLine_append_newline hnewline) hlength, List.map_singleton, hcstr]
  rw [fgetsLines_newline, hone]
  rfl

/-- What the loop sees is part of the file. -/
theorem infix_of_mem_fgetsLines {content buffer : Bytes} (h : buffer ∈ fgetsLines size content) :
    buffer <:+: content := by
  obtain ⟨filled, hfilled, rfl⟩ := List.mem_map.mp h
  have hcstr : cstr filled <:+: filled := (List.takeWhile_prefix _).isInfix
  exact hcstr.trans (by simpa using infix_of_mem_fgetsFill hfilled)

end Buffers

/-! ## The newline of a buffer -/

/-- No newline before the last byte. -/
def NewlineLast (text : Bytes) : Prop := '\n' ∉ text.dropLast

theorem IsLine.newlineLast {line : Bytes} (h : IsLine line) : NewlineLast line := by
  obtain ⟨init, last, rfl, hinit⟩ := h
  rwa [NewlineLast, List.dropLast_concat]

/-- A line is its text, with or without a newline behind it. -/
theorem NewlineLast.text_cases {line : Bytes} (h : NewlineLast line) :
    '\n' ∉ line.takeWhile (· ≠ '\n') ∧
      (line = line.takeWhile (· ≠ '\n') ∨ line = line.takeWhile (· ≠ '\n') ++ ['\n']) := by
  obtain rfl | ⟨init, last, rfl⟩ := List.eq_nil_or_concat line
  · exact ⟨List.not_mem_nil, Or.inl rfl⟩
  · rw [List.concat_eq_append] at h ⊢
    rw [NewlineLast, List.dropLast_concat] at h
    by_cases hlast : last = '\n'
    · subst hlast
      rw [takeWhile_append_cons h]
      exact ⟨h, Or.inr rfl⟩
    · have hnewline : '\n' ∉ init ++ [last] := by
        rw [List.mem_append, List.mem_singleton]
        exact fun hmem => hmem.elim h fun heq => hlast heq.symm
      rw [takeWhile_of_not_mem hnewline]
      exact ⟨hnewline, Or.inl rfl⟩

/-- It holds of every part of a text of which it holds. -/
theorem NewlineLast.of_infix {part text : Bytes} (h : NewlineLast text) (hpart : part <:+: text) :
    NewlineLast part := by
  obtain ⟨before, after, rfl⟩ := hpart
  obtain rfl | ⟨init, last, rfl⟩ := List.eq_nil_or_concat part
  · exact List.not_mem_nil
  · rw [List.concat_eq_append] at h ⊢
    intro hmem
    rw [List.dropLast_concat] at hmem
    have hlater : before ++ (init ++ [last]) ++ after = before ++ init ++ last :: after := by simp
    apply h
    rw [hlater, List.dropLast_append_of_ne_nil (List.cons_ne_nil _ _)]
    exact List.mem_append_left _ (List.mem_append_right before hmem)

/-- A byte before the last one is no newline. -/
theorem NewlineLast.not_mem_left {before after : Bytes} (h : NewlineLast (before ++ after))
    (hne : after ≠ []) : '\n' ∉ before := by
  intro hmem
  apply h
  rw [List.dropLast_append_of_ne_nil hne]
  exact List.mem_append_left _ hmem

/-- And where the last byte is none either, there is none. -/
theorem NewlineLast.not_mem {text : Bytes} (h : NewlineLast text) (hlast : text.getLast? ≠ some '\n') :
    '\n' ∉ text := by
  obtain rfl | ⟨init, last, rfl⟩ := List.eq_nil_or_concat text
  · exact List.not_mem_nil
  · rw [List.concat_eq_append] at *
    rw [List.mem_append, List.mem_singleton]
    rintro (hmem | rfl)
    · exact h.not_mem_left (List.cons_ne_nil _ _) hmem
    · exact hlast List.getLast?_concat

/-- A buffer ends with the newline it has, and is no longer than its size allows. -/
theorem newlineLast_of_mem_fgetsFill {room left : Nat} {held content buffer : Bytes}
    (hroom : held.length + left = room) (hleft : 0 < left) (hheld : '\n' ∉ held)
    (h : buffer ∈ fgetsFill room left held content) : NewlineLast buffer ∧ buffer.length ≤ room := by
  induction content generalizing left held with
  | nil =>
    rw [fgetsFill] at h
    split at h
    · cases h
    · rw [List.mem_singleton.mp h, List.length_reverse]
      refine ⟨fun hmem => hheld ?_, by omega⟩
      exact List.mem_reverse.mp (List.mem_of_mem_dropLast hmem)
  | cons c cs ih =>
    rw [fgetsFill] at h
    split at h
    · rcases List.mem_cons.mp h with rfl | h
      · rw [List.reverse_cons, NewlineLast, List.dropLast_concat, List.length_append, List.length_reverse,
          List.length_singleton]
        exact ⟨fun hmem => hheld (List.mem_reverse.mp hmem), by omega⟩
      · exact ih (by rw [List.length_nil]; omega) (by omega) List.not_mem_nil h
    · rename_i hgo
      obtain ⟨hc, hmore⟩ := not_or.mp hgo
      refine ih ?_ (by omega) ?_ h
      · rw [List.length_cons]
        omega
      · rw [List.mem_cons]
        exact fun hmem => hmem.elim (fun heq => hc heq.symm) hheld

theorem newlineLast_of_mem_fgetsLines {size : Nat} (hsize : 1 < size) {content buffer : Bytes}
    (h : buffer ∈ fgetsLines size content) : NewlineLast buffer ∧ buffer.length < size := by
  obtain ⟨filled, hfilled, rfl⟩ := List.mem_map.mp h
  obtain ⟨hlast, hlength⟩ := newlineLast_of_mem_fgetsFill (by rw [List.length_nil]; omega) (by omega)
    List.not_mem_nil hfilled
  have hpre : cstr filled <+: filled := List.takeWhile_prefix _
  refine ⟨hlast.of_infix hpre.isInfix, ?_⟩
  have hshorter := hpre.length_le
  omega

/-! ## Searching the buffers -/

/-- The string stands within one piece of the line (a piece begins at each multiple of `room`), and no NUL
stands before it in the piece. -/
def Reached (room : Nat) (line needle : Bytes) : Prop :=
  ∃ before inside after, line = before ++ (inside ++ needle ++ after) ∧ room ∣ before.length ∧
    inside.length + needle.length ≤ room ∧ '\x00' ∉ inside

theorem Reached.infix {room : Nat} {line needle : Bytes} (h : Reached room line needle) :
    needle <:+: line := by
  obtain ⟨before, inside, after, rfl, -⟩ := h
  exact ⟨before ++ inside, after, by simp⟩

/-- A string without a NUL is found in a buffer where nothing before it ends the buffer. -/
theorem infix_cstr_iff {buffer needle : Bytes} (hneedle : '\x00' ∉ needle) :
    needle <:+: cstr buffer ↔ ∃ inside after, buffer = inside ++ needle ++ after ∧ '\x00' ∉ inside := by
  constructor
  · rintro ⟨inside, after, hcut⟩
    have hbuffer : buffer = cstr buffer ++ buffer.dropWhile (· ≠ '\x00') :=
      (List.takeWhile_append_dropWhile).symm
    refine ⟨inside, after ++ buffer.dropWhile (· ≠ '\x00'), ?_, fun hmem => ?_⟩
    · rw [← List.append_assoc, hcut]
      exact hbuffer
    · have hin : '\x00' ∈ cstr buffer := hcut ▸ by simp [hmem]
      have hkept := List.mem_takeWhile_imp hin
      simp at hkept
  · rintro ⟨inside, after, rfl, hinside⟩
    have hkept : '\x00' ∉ inside ++ needle := fun hmem =>
      (List.mem_append.mp hmem).elim hinside hneedle
    rw [cstr, List.takeWhile_append_of_pos (ne_of_not_mem hkept)]
    exact ⟨inside, _, rfl⟩

section Search

variable {room : Nat} {line needle : Bytes}

/-- In a line that fits, everything before the first NUL is reached. -/
theorem reached_of_fits_iff (hneedle : '\x00' ∉ needle) (hfits : line.length ≤ room) :
    needle <:+: cstr line ↔ Reached room line needle := by
  rw [infix_cstr_iff hneedle]
  constructor
  · rintro ⟨inside, after, rfl, hinside⟩
    refine ⟨[], inside, after, by simp, Nat.dvd_zero room, ?_, hinside⟩
    rw [List.length_append, List.length_append] at hfits
    omega
  · rintro ⟨before, inside, after, rfl, hdvd, -, hinside⟩
    by_cases hbefore : before.length = 0
    · rw [List.length_eq_zero_iff.mp hbefore]
      exact ⟨inside, after, by simp, hinside⟩
    · -- the one piece of the line is before the string, which is empty then
      have hroom := Nat.le_of_dvd (Nat.pos_of_ne_zero hbefore) hdvd
      simp only [List.length_append] at hfits
      have hnil : needle = [] := List.eq_nil_of_length_eq_zero (by omega)
      exact ⟨[], before ++ (inside ++ needle ++ after), by simp [hnil], List.not_mem_nil⟩

/-- In a longer line, a string is reached in the first piece or behind it. -/
theorem reached_of_long_iff (hneedle : '\x00' ∉ needle) (hlong : room ≤ line.length) :
    Reached room line needle ↔
      needle <:+: cstr (line.take room) ∨ Reached room (line.drop room) needle := by
  rw [infix_cstr_iff hneedle]
  constructor
  · rintro ⟨before, inside, after, rfl, hdvd, hfits, hinside⟩
    by_cases hbefore : before.length = 0
    · left
      rw [List.length_eq_zero_iff.mp hbefore, List.nil_append]
      refine ⟨inside, after.take (room - (inside ++ needle).length), ?_, hinside⟩
      rw [List.take_append, List.take_of_length_le]
      rw [List.length_append]
      exact hfits
    · right
      have hroom := Nat.le_of_dvd (Nat.pos_of_ne_zero hbefore) hdvd
      refine ⟨before.drop room, inside, after, List.drop_append_of_le_length hroom, ?_, hfits, hinside⟩
      rw [List.length_drop]
      exact Nat.dvd_sub hdvd (Nat.dvd_refl room)
  · rintro (⟨inside, after, hcut, hinside⟩ | ⟨before, inside, after, hcut, hdvd, hfits, hinside⟩)
    · refine ⟨[], inside, after ++ line.drop room, ?_, Nat.dvd_zero room, ?_, hinside⟩
      · rw [List.nil_append, ← List.append_assoc, ← hcut, List.take_append_drop]
      · have hlen := congrArg List.length hcut
        rw [List.length_take, List.length_append, List.length_append] at hlen
        omega
    · refine ⟨line.take room ++ before, inside, after, ?_, ?_, hfits, hinside⟩
      · rw [List.append_assoc, ← hcut, List.take_append_drop]
      · rw [List.length_append, List.length_take, Nat.min_eq_left hlong]
        exact Nat.dvd_add (Nat.dvd_refl room) hdvd

/-- **What the search of a line finds**: the strings that are reached. -/
theorem search_line_iff (hroom : 0 < room) (hline : IsLine line) (hneedle : '\x00' ∉ needle) :
    (∃ buffer ∈ fgetsFill room room [] line, needle <:+: cstr buffer) ↔ Reached room line needle := by
  induction hn : line.length using Nat.strong_induction_on generalizing line with
  | _ n ih =>
    by_cases hfits : line.length ≤ room
    · rw [fgetsFill_of_fits hline hfits, ← reached_of_fits_iff hneedle hfits]
      simp
    · obtain ⟨hfill, hrest⟩ := fgetsFill_of_long hline hroom (Nat.lt_of_not_le hfits)
      have hshorter : (line.drop room).length < n := by
        rw [List.length_drop]
        omega
      rw [hfill, reached_of_long_iff hneedle (Nat.le_of_not_le hfits), ← ih _ hshorter hrest rfl]
      simp

/-- What the search of a file finds. -/
theorem search_lines_iff {size : Nat} (hsize : 1 < size) (hneedle : '\x00' ∉ needle) (content : Bytes) :
    (∃ buffer ∈ fgetsLines size content, (strstr buffer needle).isSome = true) ↔
      ∃ line ∈ lines content, Reached (size - 1) line needle := by
  rw [fgetsLines, fgetsFill_lines]
  constructor
  · rintro ⟨_, hmem, hin⟩
    obtain ⟨buffer, hbuffer, rfl⟩ := List.mem_map.mp hmem
    obtain ⟨line, hline, hbuffer⟩ := List.mem_flatMap.mp hbuffer
    exact ⟨line, hline, (search_line_iff (by omega) (isLine_of_mem_lines hline) hneedle).mp
      ⟨buffer, hbuffer, isSome_strstr_iff.mp hin⟩⟩
  · rintro ⟨line, hline, hreached⟩
    obtain ⟨buffer, hbuffer, hin⟩ :=
      (search_line_iff (by omega) (isLine_of_mem_lines hline) hneedle).mpr hreached
    exact ⟨cstr buffer, List.mem_map_of_mem (List.mem_flatMap.mpr ⟨line, hline, hbuffer⟩),
      isSome_strstr_iff.mpr hin⟩

end Search

end RebootManager.Foundation

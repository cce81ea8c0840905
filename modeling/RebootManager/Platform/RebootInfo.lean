/-
# RebootManager.Platform.RebootInfo -- the five-field reboot record

reboot.info and previousreboot.info hold one flat JSON object of five string fields. Both programs
print it with the same seven `fprintf`s and nothing is escaped. `rebootnow` reads it back with
`read_previous_reboot_info`, through a 4095-byte file buffer and four fixed field buffers.

The result of this module is the exact round trip: a record is read back as it was written if and only
if its four compared fields hold no double quote and fit the buffers they are read into
(`readBack_iff`).
-/
import RebootManager.Foundation.FlatRecord
import RebootManager.Platform.Clock

namespace RebootManager

open Foundation

/-- `RebootInfo`: the five values of a record, each as the C string it holds. -/
structure RebootInfo where
  timestamp : Bytes
  source : Bytes
  reason : Bytes
  customReason : Bytes
  otherReason : Bytes
  deriving DecidableEq

/-- The text the seven `fprintf`s of `write_reboot_info` (json.c) and of `main` (reboot_main.c) make. -/
def rebootInfoText (r : RebootInfo) : Bytes :=
  "\x7b\n".toList ++
  ("\"timestamp\":\"".toList ++ r.timestamp ++ "\",\n".toList) ++
  ("\"source\":\"".toList ++ r.source ++ "\",\n".toList) ++
  ("\"reason\":\"".toList ++ r.reason ++ "\",\n".toList) ++
  ("\"customReason\":\"".toList ++ r.customReason ++ "\",\n".toList) ++
  ("\"otherReason\":\"".toList ++ r.otherReason ++ "\"\n".toList) ++
  "\x7d\n".toList

/-- `"PreviousRebootInfo:<timestamp>,<reason>,<customReason>,<source>\n"`: the line parodus sends. -/
def parodusLine (r : RebootInfo) : Bytes :=
  "PreviousRebootInfo:".toList ++ r.timestamp ++ [','] ++ r.reason ++ [','] ++ r.customReason
    ++ [','] ++ r.source ++ ['\n']

/-- What `rebootnow` compares: the cause of a reboot. -/
structure Cause where
  source : Bytes
  reason : Bytes
  customReason : Bytes
  otherReason : Bytes
  deriving DecidableEq

/-- The record of a cause at a time. -/
def Cause.record (c : Cause) (timestamp : Bytes) : RebootInfo :=
  ⟨timestamp, c.source, c.reason, c.customReason, c.otherReason⟩

/-- The part of `read_previous_reboot_info` after `fread`: the four fields that must all be found, from
a buffer of 4096 bytes into fields of 128, 128, 128 and 256. (The fifth, the timestamp, is only
logged.) -/
def parsePreviousRebootInfo (content : Bytes) : Option Cause :=
  let buf := cstr (content.take 4095)
  match extractField buf "source".toList 128, extractField buf "reason".toList 128,
      extractField buf "customReason".toList 128, extractField buf "otherReason".toList 256 with
  | some source, some reason, some customReason, some otherReason =>
    some ⟨source, reason, customReason, otherReason⟩
  | _, _, _, _ => none

/-- A cause its record can carry: no double quote, and short enough for the fields it is read into. -/
structure Cause.Recordable (c : Cause) : Prop where
  source : '"' ∉ c.source ∧ c.source.length ≤ 127
  reason : '"' ∉ c.reason ∧ c.reason.length ≤ 127
  customReason : '"' ∉ c.customReason ∧ c.customReason.length ≤ 127
  otherReason : '"' ∉ c.otherReason ∧ c.otherReason.length ≤ 255

/-- The strings of a cause come from `argv` and from string constants. -/
structure Cause.NoNul (c : Cause) : Prop where
  source : '\x00' ∉ c.source
  reason : '\x00' ∉ c.reason
  customReason : '\x00' ∉ c.customReason
  otherReason : '\x00' ∉ c.otherReason

/-- Whatever is read back is recordable, whatever the file holds. -/
theorem recordable_of_parse {content : Bytes} {c : Cause}
    (h : parsePreviousRebootInfo content = some c) : c.Recordable := by
  unfold parsePreviousRebootInfo at h
  dsimp only at h
  split at h
  · rename_i source reason customReason otherReason hs hr hc ho
    cases h
    exact ⟨extractField_bounds hs, extractField_bounds hr, extractField_bounds hc,
      extractField_bounds ho⟩
  · cases h

/-! ## The record as lines -/

/-- The lines of a record, before the closing brace. -/
def recordLines (r : RebootInfo) : List Line :=
  [⟨"timestamp".toList, r.timestamp, ",\n".toList⟩, ⟨"source".toList, r.source, ",\n".toList⟩,
   ⟨"reason".toList, r.reason, ",\n".toList⟩, ⟨"customReason".toList, r.customReason, ",\n".toList⟩,
   ⟨"otherReason".toList, r.otherReason, "\n".toList⟩]

theorem rebootInfoText_eq_lines (r : RebootInfo) :
    rebootInfoText r = "\x7b\n".toList ++ linesText (recordLines r) ++ "\x7d\n".toList := by
  simp [rebootInfoText, recordLines, linesText, Line.text, fieldLine, keyPattern]

theorem plainKey_of_letter {c : Char} {rest : Bytes} (hquote : '"' ∉ c :: rest)
    (hc : c.isAlpha = true) : PlainKey (c :: rest) := by
  have hne : ∀ d : Char, d.isAlpha = false → c ≠ d := by
    rintro d hd rfl
    rw [hc] at hd
    cases hd
  exact ⟨hquote, c, rest, rfl, hne ':' (by decide), hne ',' (by decide), hne '\n' (by decide)⟩

theorem plainKey_timestamp : PlainKey "timestamp".toList :=
  plainKey_of_letter (by decide) (by decide)

theorem plainKey_source : PlainKey "source".toList :=
  plainKey_of_letter (by decide) (by decide)

theorem plainKey_reason : PlainKey "reason".toList :=
  plainKey_of_letter (by decide) (by decide)

theorem plainKey_customReason : PlainKey "customReason".toList :=
  plainKey_of_letter (by decide) (by decide)

theorem plainKey_otherReason : PlainKey "otherReason".toList :=
  plainKey_of_letter (by decide) (by decide)

theorem plainEnding_comma : PlainEnding ",\n".toList := ⟨by decide, ',', ['\n'], by decide, by decide⟩

theorem plainEnding_newline : PlainEnding "\n".toList := ⟨by decide, '\n', [], by decide, by decide⟩

/-- The lines of a quote-free record are plain. -/
theorem plain_recordLines {r : RebootInfo} (ht : '"' ∉ r.timestamp) (hs : '"' ∉ r.source)
    (hr : '"' ∉ r.reason) (hc : '"' ∉ r.customReason) (ho : '"' ∉ r.otherReason) :
    ∀ l ∈ recordLines r, l.Plain := by
  intro l hl
  simp only [recordLines, List.mem_cons, List.not_mem_nil, or_false] at hl
  rcases hl with rfl | rfl | rfl | rfl | rfl
  · exact ⟨plainKey_timestamp, ht, plainEnding_comma⟩
  · exact ⟨plainKey_source, hs, plainEnding_comma⟩
  · exact ⟨plainKey_reason, hr, plainEnding_comma⟩
  · exact ⟨plainKey_customReason, hc, plainEnding_comma⟩
  · exact ⟨plainKey_otherReason, ho, plainEnding_newline⟩

/-- The keys of a record are distinct. -/
theorem keys_recordLines (r : RebootInfo) :
    (recordLines r).Pairwise fun x y => y.key ≠ x.key := by
  simp [recordLines]

/-- The reader finds a line of a quote-free record behind the lines before it. -/
theorem strstr_record {r : RebootInfo} (hplain : ∀ l ∈ recordLines r, l.Plain)
    {before after : List Line} {l : Line} (hsplit : recordLines r = before ++ l :: after) :
    strstr (rebootInfoText r) (keyPattern l.key) = some (keyPattern l.key ++ l.value ++
      '"' :: (l.ending ++ linesText after ++ "\x7d\n".toList)) := by
  have hkeys := keys_recordLines r
  rw [hsplit, List.pairwise_append] at hkeys
  have hbefore : ∀ x ∈ before, x.Plain ∧ l.key ≠ x.key := fun x hx =>
    ⟨hplain x (by rw [hsplit]; simp [hx]), hkeys.2.2 x hx l (by simp)⟩
  have hl : l.Plain := hplain l (by rw [hsplit]; simp)
  have htext : rebootInfoText r = "\x7b\n".toList ++ linesText before ++
      (keyPattern l.key ++ l.value ++ '"' :: (l.ending ++ linesText after ++ "\x7d\n".toList)) := by
    rw [rebootInfoText_eq_lines, hsplit]
    simp [linesText, Line.text, fieldLine]
  rw [htext, strstr_skip_lines (by decide) hl.key hbefore]
  apply strstr_head
  rw [List.append_assoc]
  exact List.prefix_append _ _

/-- Reading a field of a quote-free record. -/
theorem extractField_record {r : RebootInfo} (hplain : ∀ l ∈ recordLines r, l.Plain) {l : Line}
    (hmem : l ∈ recordLines r) {size : Nat} (hfits : l.value.length < size) :
    extractField (rebootInfoText r) l.key size = some l.value := by
  obtain ⟨before, after, hsplit⟩ := List.append_of_mem hmem
  rw [extractField_of_found (hplain l hmem).value (strstr_record hplain hsplit),
    List.take_of_length_le (by omega)]

/-- Two records of the same text have the same timestamp, if it holds no double quote. -/
theorem timestamp_of_rebootInfoText {r r' : RebootInfo} (h : rebootInfoText r = rebootInfoText r')
    (hr : '"' ∉ r.timestamp) (hr' : '"' ∉ r'.timestamp) : r.timestamp = r'.timestamp := by
  have hopen : ∀ r : RebootInfo, ∃ rest, rebootInfoText r =
      "\x7b\n\"timestamp\":\"".toList ++ (r.timestamp ++ '"' :: rest) := by
    intro r
    refine ⟨",\n".toList ++ ("\"source\":\"".toList ++ r.source ++ "\",\n".toList) ++
      ("\"reason\":\"".toList ++ r.reason ++ "\",\n".toList) ++
      ("\"customReason\":\"".toList ++ r.customReason ++ "\",\n".toList) ++
      ("\"otherReason\":\"".toList ++ r.otherReason ++ "\"\n".toList) ++ "\x7d\n".toList, ?_⟩
    simp [rebootInfoText]
  obtain ⟨rest, hrest⟩ := hopen r
  obtain ⟨rest', hrest'⟩ := hopen r'
  rw [hrest, hrest', List.append_cancel_left_eq] at h
  exact (eq_of_append_cons hr hr' h).1

/-! ## The round trip -/

theorem length_rebootInfoText (r : RebootInfo) :
    (rebootInfoText r).length = r.timestamp.length + r.source.length + r.reason.length
      + r.customReason.length + r.otherReason.length + 82 := by
  simp only [rebootInfoText, List.length_append]
  simp
  omega

theorem noNul_rebootInfoText {r : RebootInfo} (ht : '\x00' ∉ r.timestamp) (hs : '\x00' ∉ r.source)
    (hr : '\x00' ∉ r.reason) (hc : '\x00' ∉ r.customReason) (ho : '\x00' ∉ r.otherReason) :
    '\x00' ∉ rebootInfoText r := by
  simp [rebootInfoText, ht, hs, hr, hc, ho]

/-- A recordable cause is read back from its record, under any timestamp that is a short plain text. -/
theorem parsePreviousRebootInfo_record {c : Cause} (hnul : c.NoNul) (h : c.Recordable) {ts : Bytes}
    (hquote : '"' ∉ ts) (htsNul : '\x00' ∉ ts) (hts : ts.length < 64) :
    parsePreviousRebootInfo (rebootInfoText (c.record ts)) = some c := by
  have hlen : (rebootInfoText (c.record ts)).length ≤ 4095 := by
    have := h.source.2
    have := h.reason.2
    have := h.customReason.2
    have := h.otherReason.2
    rw [length_rebootInfoText]
    simp only [Cause.record]
    omega
  have hbuf : cstr ((rebootInfoText (c.record ts)).take 4095) = rebootInfoText (c.record ts) := by
    rw [List.take_of_length_le hlen]
    exact cstr_eq_self (noNul_rebootInfoText htsNul hnul.source hnul.reason hnul.customReason
      hnul.otherReason)
  -- every field is found behind plain lines, and none is cut
  have hplain : ∀ l ∈ recordLines (c.record ts), l.Plain :=
    plain_recordLines hquote h.source.1 h.reason.1 h.customReason.1 h.otherReason.1
  have hfield : ∀ {key value ending : Bytes} {size : Nat},
      (⟨key, value, ending⟩ : Line) ∈ recordLines (c.record ts) → value.length < size →
      extractField (rebootInfoText (c.record ts)) key size = some value := by
    intro key value ending size hmem hfits
    exact extractField_record hplain hmem hfits
  have hsource := @hfield "source".toList c.source ",\n".toList 128
    (by simp [recordLines, Cause.record]) (Nat.lt_succ_of_le h.source.2)
  have hreason := @hfield "reason".toList c.reason ",\n".toList 128
    (by simp [recordLines, Cause.record]) (Nat.lt_succ_of_le h.reason.2)
  have hcustom := @hfield "customReason".toList c.customReason ",\n".toList 128
    (by simp [recordLines, Cause.record]) (Nat.lt_succ_of_le h.customReason.2)
  have hother := @hfield "otherReason".toList c.otherReason "\n".toList 256
    (by simp [recordLines, Cause.record]) (Nat.lt_succ_of_le h.otherReason.2)
  simp only [parsePreviousRebootInfo, hbuf, hsource, hreason, hcustom, hother]

/-- **The record round trip.** The record of a cause, stamped with any time, is read back as that very
cause if and only if the cause is recordable. -/
theorem readBack_iff {c : Cause} (hnul : c.NoNul) (t : Tm) :
    parsePreviousRebootInfo (rebootInfoText (c.record (timestampUpdate t))) = some c ↔
      c.Recordable := by
  constructor
  · exact recordable_of_parse
  · intro h
    have hquote : '"' ∉ timestampUpdate t := not_mem_timestampUpdate t (by decide)
    have hts : '\x00' ∉ timestampUpdate t := not_mem_timestampUpdate t (by decide)
    exact parsePreviousRebootInfo_record hnul h hquote hts (length_timestampUpdate_lt t)

end RebootManager

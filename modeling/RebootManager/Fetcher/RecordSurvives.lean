/-
# RebootManager.Fetcher.RecordSurvives -- a request on the other side of the reboot

`rebootnow` writes what it is asked for into three files and into rebootInfo.log; the backup of the logs moves
the log away; the fetcher of the next boot makes two records of the three files and a new rebootInfo.log of the
record and the old log. For a request that every one of the formats can carry, nothing is lost on the way: each
of the four readers of the next boot, `rebootnow`'s own among them, recovers the request that was made
(`request_survives_boot`).
-/
import RebootManager.Fetcher.RecordsAgree
import RebootManager.Fetcher.RecordReadBack
import RebootManager.Helper.LoopState

namespace RebootManager

open Foundation

/-! ## What every format can carry -/

/-- A request made at this time that fits the lines of the log, the record and what the fetcher reads of it. -/
structure Request.Legible (req : Request) (env : HelperEnv) : Prop where
  source : LogValue .source req.source.bytes
  customReason : LogValue .customReason req.customReason.bytes
  otherReason : LogValue .otherReason req.otherReason.bytes
  noQuote : ∀ v ∈ [req.source.bytes, req.customReason.bytes, req.otherReason.bytes], '"' ∉ v
  noReasonKey : ∀ v ∈ [req.source.bytes, req.otherReason.bytes], ¬ "RebootReason:".toList <:+: v
  fits : closingQuote (req.record env) .otherReason ≤ maxBufferSize - 1

theorem not_mem_twoDigits {c : Char} (hc : c.isDigit = false) (n : Nat) : c ∉ twoDigits n := by
  have hdigit : ∀ m, m < 10 → m.digitChar ≠ c := by
    intro m hm heq
    have hone := Nat.isDigit_digitChar (n := m)
    rw [heq, hc] at hone
    simp [hm] at hone
  intro hmem
  simp only [twoDigits, List.mem_cons, List.not_mem_nil, or_false] at hmem
  rcases hmem with heq | heq
  · exact hdigit _ (Nat.mod_lt _ (by decide)) heq.symm
  · exact hdigit _ (Nat.mod_lt _ (by decide)) heq.symm

/-- No name of a day or a month has the letter every marker has. -/
theorem not_mem_strftime (t : Tm) : 'R' ∉ strftime t := by
  have hday : ∀ day : Fin 7, 'R' ∉ wdayName day := by decide
  have hmonth : ∀ month : Fin 12, 'R' ∉ monName month := by decide
  have hdigit : ('R').isDigit = false := by decide
  simp [strftime, hday, hmonth, not_mem_twoDigits hdigit, not_mem_decimal hdigit]

/-- A formatted time is a value of the log. -/
theorem logValue_timestampUpdate (t : Tm) : LogValue .timestamp (timestampUpdate t) where
  fits := length_timestampUpdate_lt t
  noNul := not_mem_timestampUpdate t rfl
  noNewline := not_mem_timestampUpdate t rfl
  head := by
    have hday : ∀ day : Fin 7, (wdayName day).head?.all (fun c => !isBlank c) = true := by decide
    have hne : ∀ day : Fin 7, wdayName day ≠ [] := by decide
    intro c hc
    rw [timestampUpdate_eq, strftime] at hc
    simp only [List.append_assoc] at hc
    rw [List.head?_append_of_ne_nil _ (hne _)] at hc
    have hfirst := hday t.wday
    rw [hc] at hfirst
    simpa using hfirst
  last := by
    intro c hc
    rw [timestampUpdate_eq, strftime, List.getLast?_append_of_ne_nil _ (decimal_ne_nil _)] at hc
    have hdigit := isDigit_of_mem_decimal (List.mem_of_mem_getLast? hc)
    constructor
    · simp only [isBlank, Bool.or_eq_false_iff, decide_eq_false_iff_not]
      exact ⟨fun heq => by simp [heq] at hdigit, fun heq => by simp [heq] at hdigit⟩
    · exact fun heq => by simp [heq] at hdigit
  noMarker := by
    rw [timestampUpdate_eq]
    exact noMarker_of_not_mem (Or.inl rfl) (not_mem_strftime t)

theorem Request.fields_record (req : Request) (env : HelperEnv) :
    (req.record env).timestamp = timestampUpdate env.now ∧ (req.record env).source = req.source.bytes ∧
      (req.record env).reason = categorize req.source.bytes req.customReason.bytes ∧
      (req.record env).customReason = req.customReason.bytes ∧
      (req.record env).otherReason = req.otherReason.bytes := by
  dsimp only [Request.record, Cause.record, Request.cause]
  exact ⟨rfl, rfl, rfl, rfl, rfl⟩

namespace Request.Legible

variable {req : Request} {env : HelperEnv}

theorem logValues (h : req.Legible env) : req.LogValues (timestampUpdate env.now) :=
  ⟨h.source, logValue_timestampUpdate env.now, h.customReason, h.otherReason⟩

theorem logValue_field (h : req.Legible env) (f : LogField) : LogValue f ((req.record env).field f) := by
  obtain ⟨htime, hsource, -, hcustom, hother⟩ := req.fields_record env
  cases f with
  | source =>
    rw [RebootInfo.field, hsource]
    exact h.source
  | timestamp =>
    rw [RebootInfo.field, htime]
    exact logValue_timestampUpdate env.now
  | customReason =>
    rw [RebootInfo.field, hcustom]
    exact h.customReason
  | otherReason =>
    rw [RebootInfo.field, hother]
    exact h.otherReason

theorem recordable (h : req.Legible env) : req.cause.Recordable := by
  have hsource : req.source.bytes.length < 128 := h.source.fits
  have hcustom : req.customReason.bytes.length < 128 := h.customReason.fits
  have hother : req.otherReason.bytes.length < 128 := h.otherReason.fits
  refine req.recordable_cause_iff.mpr ⟨⟨h.noQuote _ (by simp), ?_⟩, ⟨h.noQuote _ (by simp), ?_⟩,
    h.noQuote _ (by simp), ?_⟩ <;> omega

theorem printable (h : req.Legible env) : (req.record env).Printable := by
  have hwords : ∀ w ∈ ["MAINTENANCE_REBOOT".toList, "APP_TRIGGERED".toList, "OPS_TRIGGERED".toList,
      "FIRMWARE_FAILURE".toList], '\x00' ∉ w ∧ '"' ∉ w ∧ '\n' ∉ w := by decide
  obtain ⟨hnul, hquote, hnewline⟩ := hwords _ (categorize_cases req.source.bytes req.customReason.bytes)
  have hstamp : ∀ {c : Char}, isStampChar c = false → c ∉ timestampUpdate env.now :=
    not_mem_timestampUpdate env.now
  obtain ⟨htime, hsource, hreason, hcustom, hother⟩ := req.fields_record env
  have hfields : ∀ {P : Bytes → Prop}, P (timestampUpdate env.now) → P req.source.bytes →
      P (categorize req.source.bytes req.customReason.bytes) → P req.customReason.bytes →
      P req.otherReason.bytes → ∀ v ∈ [(req.record env).timestamp, (req.record env).source,
        (req.record env).reason, (req.record env).customReason, (req.record env).otherReason], P v := by
    intro P ht hs hr hc ho
    rw [htime, hsource, hreason, hcustom, hother]
    simp only [List.forall_mem_cons]
    exact ⟨ht, hs, hr, hc, ho, fun _ hv => nomatch hv⟩
  exact {
    noNul := hfields (hstamp rfl) h.source.noNul hnul h.customReason.noNul h.otherReason.noNul
    noQuote := hfields (hstamp rfl) (h.noQuote _ (by simp)) hquote (h.noQuote _ (by simp))
      (h.noQuote _ (by simp))
    noNewline := hfields (hstamp rfl) h.source.noNewline hnewline h.customReason.noNewline
      h.otherReason.noNewline }

/-- The line for parodus is shorter than the record. -/
theorem shortLine (h : req.Legible env) : req.ShortLine env := by
  have hfits := h.fits
  unfold Request.ShortLine
  rw [length_parodusLine]
  simp only [closingQuote] at hfits
  omega

/-- The record is read back whole. -/
theorem load (h : req.Legible env) (f : LogField) :
    (loadPreviousInfo ((rebootInfoText (req.record env)).take (maxBufferSize - 1))).field f
      = (req.record env).field f := by
  have hclosed : closingQuote (req.record env) f ≤ maxBufferSize - 1 := by
    have hfits := h.fits
    cases f <;> simp only [closingQuote] at hfits ⊢ <;> omega
  rw [field_loadPreviousInfo_record h.printable, if_pos hclosed, RebootInfo.field_cut]
  exact List.take_of_length_le (Nat.le_pred_of_lt (h.logValue_field f).fits)

end Request.Legible

/-! ## The first line of the log -/

section FirstLine

variable {req : Request}

/-- The first line ends with what was said last, not with an end of a line. -/
theorem getLast?_reasonText (hother : LogValue .otherReason req.otherReason.bytes) :
    ∀ c ∈ req.reasonText.getLast?, (c = '\n' || c = '\r') = false := by
  have htrigger : req.trigger ≠ [] ∧ ∀ c ∈ req.trigger.getLast?, (c = '\n' || c = '\r') = false := by
    have hlast : ∀ w ∈ ["process failure or crash..!".toList, "process".toList],
        w ≠ [] ∧ w.getLast?.all (fun c => !(c = '\n' || c = '\r')) = true := by decide +kernel
    have hword : req.trigger ∈ ["process failure or crash..!".toList, "process".toList] := by
      unfold Request.trigger
      split <;> simp
    obtain ⟨hne, hall⟩ := hlast _ hword
    refine ⟨hne, fun c hc => ?_⟩
    rw [hc] at hall
    simpa using hall
  have hend : ∀ c ∈ (req.trigger ++ req.shownReason).getLast?, (c = '\n' || c = '\r') = false := by
    intro c hc
    unfold Request.shownReason at hc
    split at hc
    · rw [List.append_nil] at hc
      exact htrigger.2 c hc
    · rw [List.getLast?_append_of_ne_nil _ (List.cons_ne_nil _ _), List.getLast?_cons] at hc
      cases hlast : req.otherReason.bytes.getLast? with
      | none =>
        rw [hlast] at hc
        obtain rfl := Option.some.inj hc
        rfl
      | some last =>
        rw [hlast] at hc
        obtain rfl := Option.some.inj hc
        have hnewline : last ≠ '\n' := fun heq =>
          hother.noNewline (heq ▸ List.mem_of_mem_getLast? hlast)
        simp [hnewline, (hother.last last hlast).2]
  have hne : req.trigger ++ req.shownReason ≠ [] := fun hnil =>
    htrigger.1 (List.append_eq_nil_iff.mp hnil).1
  intro c hc
  unfold Request.reasonText at hc
  generalize "RebootReason:".toList = a at hc
  generalize "Triggered".toList = b at hc
  generalize "from".toList = d at hc
  have hall : a ++ ' ' :: (b ++ ' ' :: (d ++ ' ' :: (req.source.bytes ++
      ' ' :: (req.trigger ++ req.shownReason)))) =
        (a ++ ' ' :: (b ++ ' ' :: (d ++ ' ' :: (req.source.bytes ++ [' '])))) ++
          (req.trigger ++ req.shownReason) := by
    simp
  rw [hall, List.getLast?_append_of_ne_nil _ hne] at hc
  exact hend c hc

/-- The fetcher's own name for the line is not in it. -/
theorem not_previous_reasonText (hsource : ¬ "RebootReason:".toList <:+: req.source.bytes)
    (hother : ¬ "RebootReason:".toList <:+: req.otherReason.bytes) :
    ¬ "PreviousRebootReason:".toList <:+: req.reasonText ++ ['\n'] := by
  have hkey : "RebootReason:".toList <:+: "PreviousRebootReason:".toList :=
    ⟨"Previous".toList, [], by decide⟩
  have hblank : ' ' ∉ "PreviousRebootReason:".toList := by decide
  have hnewline : '\n' ∉ "PreviousRebootReason:".toList := by decide
  have hcapital : 'P' ∈ "PreviousRebootReason:".toList := by decide
  have hmissing : ∀ w ∈ [[], "RebootReason:".toList, "Triggered".toList, "from".toList,
      "process failure or crash..!".toList, "process".toList], 'P' ∉ w := by decide +kernel
  have hwords : ∀ w ∈ [[], "RebootReason:".toList, "Triggered".toList, "from".toList,
      "process failure or crash..!".toList, "process".toList],
      ¬ "PreviousRebootReason:".toList <:+: w :=
    fun w hw hin => hmissing w hw (hin.subset hcapital)
  have htrigger : ¬ "PreviousRebootReason:".toList <:+: req.trigger := by
    unfold Request.trigger
    split <;> exact hwords _ (by simp)
  have hshown : ¬ "PreviousRebootReason:".toList <:+: req.trigger ++ req.shownReason := by
    unfold Request.shownReason
    split
    · rw [List.append_nil]
      exact htrigger
    · rw [infix_append_cons_iff hblank]
      exact fun hin => hin.elim htrigger fun hin => hother (hkey.trans hin)
  have hnil := hwords [] (by simp)
  have hlabel := hwords "RebootReason:".toList (by simp)
  have htriggered := hwords "Triggered".toList (by simp)
  have hfrom := hwords "from".toList (by simp)
  have hvalue : ¬ "PreviousRebootReason:".toList <:+: req.source.bytes :=
    fun hin => hsource (hkey.trans hin)
  clear hwords hmissing hcapital hkey hsource hother
  unfold Request.reasonText
  generalize "PreviousRebootReason:".toList = key at *
  generalize "RebootReason:".toList = label at *
  generalize "Triggered".toList = triggered at *
  generalize "from".toList = origin at *
  rw [infix_append_cons_iff hnewline, infix_append_cons_iff hblank, infix_append_cons_iff hblank,
    infix_append_cons_iff hblank, infix_append_cons_iff hblank]
  simp only [hlabel, htriggered, hfrom, hvalue, hshown, hnil, or_self, not_false_eq_true]

/-- The line the fetcher takes over from the log of a request is the first one. -/
theorem loadPreviousRebootReasonLine_rebootInfoLogLines {env : HelperEnv} (h : req.Legible env) :
    loadPreviousRebootReasonLine (rebootInfoLogLines req (timestampUpdate env.now)).flatten
      = req.reasonText := by
  set value := "Triggered".toList ++ ' ' :: ("from".toList ++
    ' ' :: (req.source.bytes ++ ' ' :: (req.trigger ++ req.shownReason))) with hvalue
  have htext : req.reasonText = "RebootReason:".toList ++ ' ' :: value := rfl
  have hlength := length_reasonText_le h.source.fits_reason h.otherReason.fits_reason
  have hroom : maxBufferSize = 512 := rfl
  have hprevious := @not_previous_reasonText req (h.noReasonKey _ (by simp)) (h.noReasonKey _ (by simp))
  have hheading : "RebootReason: ".toList = "RebootReason:".toList ++ [' '] := by decide
  have htrimmed : (req.reasonText ++ ['\n']).dropWhile isBlank = req.reasonText ++ ['\n'] :=
    List.dropWhile_cons_of_neg (by decide)
  have hbehind : ((req.reasonText ++ ['\n']).drop "RebootReason:".toList.length).dropWhile isBlank
      = value ++ ['\n'] := by
    have hletter : ((' ' :: value) ++ ['\n']).dropWhile isBlank = value ++ ['\n'] := by
      rw [List.cons_append, List.dropWhile_cons_of_pos (by decide)]
      exact List.dropWhile_cons_of_neg (by decide)
    rw [htext, List.append_assoc, List.drop_left]
    exact hletter
  have hfound : strstr (req.reasonText ++ ['\n']) "RebootReason:".toList
      = some (req.reasonText ++ ['\n']) :=
    strstr_head (htext ▸ (List.prefix_append _ _).trans (List.prefix_append _ _))
  have hfirst : (fgetsLines maxBufferSize (rebootInfoLogLines req (timestampUpdate env.now)).flatten).findSome?
      (fun line =>
        let trimmed := line.dropWhile isBlank
        if (strstr trimmed "PreviousRebootReason:".toList).isSome then none
        else (strstr trimmed "RebootReason:".toList).map fun reasonPos =>
          (reasonPos.drop "RebootReason:".toList.length).dropWhile isBlank) = some (value ++ ['\n']) := by
    rw [fgetsLines_rebootInfoLogLines h.logValues, List.findSome?_cons]
    dsimp only
    rw [htrimmed, if_neg (isSome_strstr_iff.not.mpr hprevious), hfound, Option.map_some, hbehind]
  have hwhole : "RebootReason: ".toList ++ (value ++ ['\n']) = req.reasonText ++ ['\n'] := by
    rw [hheading, htext]
    simp
  have hfits : snprintf maxBufferSize (req.reasonText ++ ['\n']) = req.reasonText ++ ['\n'] := by
    apply snprintf_of_fits
    rw [List.length_append, List.length_singleton]
    omega
  rw [loadPreviousRebootReasonLine]
  dsimp only
  rw [hfirst]
  dsimp only
  rw [hwhole, hfits]
  refine (List.rdropWhile_concat_pos (fun c => c = '\n' || c = '\r') _ '\n' (by decide)).trans ?_
  apply List.rdropWhile_eq_self_iff.mpr
  intro hne hend
  rw [getLast?_reasonText h.otherReason _ (List.getLast?_eq_some_getLast hne)] at hend
  cases hend

end FirstLine

/-! ## The log of both programs -/

/-- The log of a complete request is its five lines. -/
theorem files_rebootInfoLog_rebootnowMain {env : HelperEnv} {opts : List Opt} {d : Device} {req : Request}
    (hio : env.io.Ok) (hreq : Requests env opts d req) :
    ((rebootnowMain env opts).final d).files .rebootInfoLog
      = some (rebootInfoLogLines req (timestampUpdate env.now)).flatten := by
  have hfinal : (rebootnowMain env opts).final d = cleanupPidfile.final
      ((requestReboot env req).final ((pidfileWriteAndGuard env).final d)) := by
    rw [rebootnowMain, Prog.final_bind, hreq.guard, if_pos rfl, hreq.options]
    dsimp only
    rw [Prog.final_bind, Prog.final_bind, Prog.final_pure]
  have hclean : cleanupPidfile.Emits (TouchesOnly [.pidFile]) :=
    (emits_unlinkFile .pidFile).mono fun _ => FilesOnly.touchesOnly (List.Subset.refl _)
  rw [hfinal, files_final_of_touchesOnly hclean (by decide), final_requestReboot, files_finishRequest_of_ne _ _ _ (by decide), decideReboot, Prog.final_bind,
    files_final_of_touchesOnly (emits_handleCyclicReboot env _) (by decide)]
  exact files_rebootInfoLog_saveRebootInfo hio req _

section Boot

variable {boot : FetcherEnv} {ctx : EnvContext} {up : Device} {r : RebootInfo}

/-- Behind the rename, the log is written of the record that has been renamed. -/
theorem logHolds_fetcherMain (hok : boot.Ok) (h : Passes boot ctx up)
    (hfile : up.files .rebootInfoFile = some (rebootInfoText r)) :
    LogHolds boot (loadPreviousInfo ((rebootInfoText r).take (maxBufferSize - 1)))
      ((fetcherMain boot).final up) := by
  set d₁ := DeviceOp.run (.file (.rename .rebootInfoFile .previousRebootInfoFile)) up with hd₁
  have hout : renameOutcome boot up = .renamed := by
    simp [renameOutcome, hok.rename, Device.exists, hfile]
  have hprevious : d₁.files .previousRebootInfoFile = some (rebootInfoText r) := by
    simp [hd₁, DeviceOp.run, FileOp.run, hfile, Function.update_of_ne]
  have hhanded : ((updateKernelLog boot ctx boot.blankInfo).final
      ((handleParodusRebootFile boot boot.blankInfo).final d₁)).files .previousRebootInfoFile
        = some (rebootInfoText r) := by
    rw [files_final_sideOnly (logsOnly_updateKernelLog boot ctx _).sideOnly (by decide)]
    exact ((emits_handleParodusRebootFile boot _).final (fun d => d.files .previousRebootInfoFile)
      (fun o ho d => ho.files_eq (by decide) d) d₁).trans hprevious
  have hkeypress : (copyKeypressInfo boot).Emits (FilesOnly [.previousKeypressInfoFile]) := by
    refine Prog.emits_get.bind fun d => ?_
    split
    · exact emits_writeFile _ _ _
    · exact Prog.emits_pure ()
  have hops := @ops_updatePreviousReboot_renamed boot ctx up hout
  rw [← hd₁] at hops
  have hfinal : (updatePreviousReboot boot ctx).final up = (finishRenamed boot ctx).final d₁ := by
    rw [Prog.final, hops, execOps_cons]
    rfl
  unfold LogHolds
  rw [files_fetcherMain_of_passes h (by decide), hfinal]
  simp only [finishRenamed, Prog.final_bind, Prog.final_pure]
  refine (hkeypress.final (fun d => d.files .rebootInfoLog) (fun o ho d => ho.files_eq (by decide) d) _).trans ?_
  exact logHolds_update hok.io hhanded

end Boot

/-! ## The next boot -/

/-- What is known of a request on a device of the boot after it: by either record, by the log and its
parser, and by the next `rebootnow`. -/
structure Request.Known (req : Request) (env : HelperEnv) (boot : FetcherEnv) (d : Device) : Prop where
  pending : Shows d none
  info : d.files .previousRebootInfoFile = some (rebootInfoText (req.record env))
  parodus : d.files .previousParodusRebootInfoFile = some (parodusLine (req.record env))
  log : d.files .rebootInfoLog =
    some (previousLines (fun n => timestampString (boot.logTime n)) req.reasonText (req.record env))
  parsed : ∀ content, d.files .rebootInfoLog = some content → ∀ info,
    parseLegacyLog content info = some { req.record env with reason := info.reason }
  compared : ∀ io : Io File, io.Ok → readPreviousRebootInfo io d = some req.cause

/-- **A request survives the reboot.** A complete request that all the formats can carry, and behind it,
with its record still pending and its log as the previous one, a complete run of the fetcher past the gate:
the pair of records, the log and what is read back of them are those of the request. -/
theorem request_survives_boot {env : HelperEnv} {opts : List Opt} {d : Device} {req : Request}
    (hio : env.io.Ok) (hreq : Requests env opts d req) (hlegible : req.Legible env)
    {boot : FetcherEnv} {ctx : EnvContext} {up : Device} (hok : boot.Ok) (hpasses : Passes boot ctx up)
    (hkept : ∀ f ∈ recordFiles, up.files f = ((rebootnowMain env opts).final d).files f)
    (hlog : boot.previousLog = ((rebootnowMain env opts).final d).files .rebootInfoLog) :
    req.Known env boot ((fetcherMain boot).final up) := by
  have hshort := hlegible.shortLine
  have hslot : Shows up (some ⟨req.record env, hshort.copyable⟩) := by
    have hshown := shows_rebootnowMain hio hreq hshort
    unfold Shows pending at hshown ⊢
    rwa [hkept _ (by simp [recordFiles]), hkept _ (by simp [recordFiles])]
  have hinfo : up.files .rebootInfoFile = some (rebootInfoText (req.record env)) := congrArg Prod.fst hslot
  obtain ⟨hprevious, hparodus⟩ := takes_slot hok hpasses hslot
  rw [Slot.taken_some] at hprevious hparodus
  have hreason : boot.previousLog.elim [] loadPreviousRebootReasonLine = req.reasonText := by
    rw [hlog, files_rebootInfoLog_rebootnowMain hio hreq]
    exact loadPreviousRebootReasonLine_rebootInfoLogLines hlegible
  have hwritten : ((fetcherMain boot).final up).files .rebootInfoLog = some (previousLines
      (fun n => timestampString (boot.logTime n)) req.reasonText (req.record env)) := by
    have hholds := logHolds_fetcherMain hok hpasses hinfo
    unfold LogHolds at hholds
    rw [hholds, hreason, previousLines_congr hlegible.load]
  have hmarkers := noMarker_reasonText hlegible.source.noMarker hlegible.otherReason.noMarker
  exact {
    pending := shows_none_of_passes hok hpasses
    info := hprevious
    parodus := hparodus
    log := hwritten
    parsed := by
      intro content hcontent info
      rw [hwritten] at hcontent
      obtain rfl := Option.some.inj hcontent
      exact parse_previousLines (fun _ => Or.inr ⟨_, rfl⟩) hmarkers hlegible.logValue_field info
    compared := by
      intro io hreads
      rw [readPreviousRebootInfo_of_ok hreads, hprevious, Option.bind_some]
      exact Request.readBack hlegible.recordable env.now }

/-! ## A service asks for it -/

theorem legible_serviceRequest : serviceRequest.Legible (.plain .epoch 300) where
  source := LogValue.of_word (by decide) (by decide)
  customReason := LogValue.of_word (by decide) (by decide)
  otherReason := LogValue.of_word (by decide) (by decide)
  noQuote := by decide
  noReasonKey := by
    intro v hv hin
    have hcolon : ∀ v ∈ [serviceRequest.source.bytes, serviceRequest.otherReason.bytes], ':' ∉ v := by decide
    exact hcolon v hv (hin.subset (by decide))
  fits := by decide +kernel

theorem files_received_rebooted {f : File} (hf : f ∈ recordFiles) (d : Device) :
    d.rebooted.received.files f = d.files f := by
  have hlasting : ∀ f ∈ recordFiles, f.volatile = false ∧ f ≠ .sttFlag := by decide
  obtain ⟨hkept, hne⟩ := hlasting f hf
  exact (Function.update_of_ne hne _ _).trans (Device.rebooted_files hkept)

/-- A device on which the service has asked for a reboot. -/
def servedDevice : Device :=
  (rebootnowMain (.plain .epoch 300) [.s serviceRequest.source]).final Device.blank

/-- The boot behind it, with the log of the request as the previous one. -/
def servedBoot : FetcherEnv :=
  { brcmRun .epoch with previousLog := servedDevice.files .rebootInfoLog }

/-- What the service has asked for is known behind the reboot, when the system time has been received. -/
theorem request_survives_boot_service : serviceRequest.Known (.plain .epoch 300) servedBoot
    ((fetcherMain servedBoot).final servedDevice.rebooted.received) := by
  have hreq : Requests (.plain .epoch 300) [.s serviceRequest.source] Device.blank serviceRequest :=
    ⟨by decide +kernel, rfl⟩
  have hpasses : Passes servedBoot ⟨"BRCM".toList, "STB".toList, [], "hybrid".toList, false⟩
      servedDevice.rebooted.received :=
    ⟨rfl, rfl, updateRebootInfo_received _, rfl⟩
  have hlog : servedBoot.previousLog = servedDevice.files .rebootInfoLog := by
    rw [servedBoot]
  exact request_survives_boot (HelperEnv.plain_ok _ _).io hreq legible_serviceRequest
    ⟨Io.plain_ok, rfl, rfl, rfl⟩ hpasses (fun f hf => files_received_rebooted hf servedDevice) hlog

end RebootManager

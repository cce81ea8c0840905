/-
# RebootManager.Helper.TriggerOptions -- one trigger a command line (reboot_main.c)

`-s` and `-c` both name the source of a reboot, the second with the crash flag, so a command line ought
to have one or the other. The test for that is in the arm of `-c` alone: a `-c` behind a `-s` or another
`-c` ends the program, a `-s` behind a `-c` takes its place (`triggersSettled_iff`). What is recorded in
the end is always the source and the flag of one option, the last of the two kinds.
-/
import RebootManager.Helper.RebootMain

namespace RebootManager

open Foundation

/-! ## The options that trigger -/

/-- The source an option gives, and whether it is a crash. -/
def Opt.trigger : Opt → Option (CString × Bool)
  | .s arg => some (arg, false)
  | .c arg => some (arg, true)
  | _ => none

/-- `getopt` takes the command line as it is, and nobody asks for help. -/
def Accepted (opts : List Opt) : Prop := ∀ o ∈ opts, o ≠ .h ∧ o ≠ .unknown

def HasSource (opts : List Opt) : Prop := ∃ arg, Opt.s arg ∈ opts

def HasCrash (opts : List Opt) : Prop := ∃ arg, Opt.c arg ∈ opts

/-- Some `-c` has a `-s` or a `-c` before it. -/
def CrashComesLate (opts : List Opt) : Prop :=
  ∃ before arg after, opts = before ++ .c arg :: after ∧ ∃ o ∈ before, o.trigger.isSome = true

theorem crashComesLate_cons {o : Opt} {opts : List Opt} :
    CrashComesLate (o :: opts) ↔ (o.trigger.isSome = true ∧ HasCrash opts) ∨ CrashComesLate opts := by
  constructor
  · rintro ⟨before, arg, after, heq, earlier, hmem, htrigger⟩
    cases before with
    | nil => exact absurd hmem List.not_mem_nil
    | cons first before =>
      obtain ⟨rfl, rfl⟩ := List.cons.inj heq
      rcases List.mem_cons.mp hmem with rfl | hmem
      · exact Or.inl ⟨htrigger, arg, by simp⟩
      · exact Or.inr ⟨before, arg, after, rfl, earlier, hmem, htrigger⟩
  · rintro (⟨htrigger, arg, hcrash⟩ | ⟨before, arg, after, rfl, earlier, hmem, htrigger⟩)
    · obtain ⟨before, after, rfl⟩ := List.append_of_mem hcrash
      exact ⟨o :: before, arg, after, rfl, o, List.mem_cons_self, htrigger⟩
    · exact ⟨o :: before, arg, after, rfl, earlier, List.mem_cons_of_mem o hmem, htrigger⟩

theorem hasCrash_cons {o : Opt} {opts : List Opt} :
    HasCrash (o :: opts) ↔ (∃ arg, o = .c arg) ∨ HasCrash opts := by
  constructor
  · rintro ⟨arg, hmem⟩
    rcases List.mem_cons.mp hmem with rfl | hmem
    · exact Or.inl ⟨arg, rfl⟩
    · exact Or.inr ⟨arg, hmem⟩
  · rintro (⟨arg, rfl⟩ | ⟨arg, hmem⟩)
    · exact ⟨arg, List.mem_cons_self⟩
    · exact ⟨arg, List.mem_cons_of_mem o hmem⟩

/-! ## The option loop -/

/-- What the arm of `-c` tests. -/
def OptState.triggered (st : OptState) : Bool := st.isCrash || st.source.isSome

section Loop

variable {opts : List Opt}

/-- The loop ends early when a `-c` comes behind another trigger, one of the command line or one from before. -/
theorem parseOpts_error_iff (h : Accepted opts) (st : OptState) :
    parseOpts opts st = .error 1 ↔ (st.triggered = true ∧ HasCrash opts) ∨ CrashComesLate opts := by
  induction opts generalizing st with
  | nil =>
    have hcrash : ¬ HasCrash [] := fun ⟨_, hmem⟩ => absurd hmem List.not_mem_nil
    have hlate : ¬ CrashComesLate [] := fun ⟨before, arg, after, heq, _⟩ => by simp at heq
    simp [parseOpts, hcrash, hlate]
  | cons o opts ih =>
    have hrest : Accepted opts := fun o ho => h o (List.mem_cons_of_mem _ ho)
    rw [crashComesLate_cons, hasCrash_cons]
    cases o with
    | s arg =>
      rw [parseOpts, ih hrest]
      simp [OptState.triggered, Opt.trigger]
      exact fun _ hcrash => Or.inl hcrash
    | c arg =>
      rw [parseOpts]
      show (if st.triggered = true then _ else _) = _ ↔ _
      by_cases hbefore : st.triggered = true
      · rw [if_pos hbefore]
        simp [hbefore]
      · have hafter : OptState.triggered { st with source := some arg, isCrash := true } = true := rfl
        rw [if_neg hbefore, ih hrest]
        simp [hbefore, hafter, Opt.trigger]
    | r arg =>
      rw [parseOpts, ih hrest]
      simp [OptState.triggered, Opt.trigger]
    | o arg =>
      rw [parseOpts, ih hrest]
      simp [OptState.triggered, Opt.trigger]
    | h => exact absurd rfl (h .h List.mem_cons_self).1
    | unknown => exact absurd rfl (h .unknown List.mem_cons_self).2

/-- What it ends with is what it began with, or the source and the flag of one of the options. -/
theorem parseOpts_trigger {st st' : OptState} (hok : parseOpts opts st = .ok st') :
    (st'.source = st.source ∧ st'.isCrash = st.isCrash ∧ ¬ HasSource opts) ∨
      ∃ o ∈ opts, ∃ source, st'.source = some source ∧ o.trigger = some (source, st'.isCrash) := by
  induction opts generalizing st with
  | nil =>
    obtain rfl := Except.ok.inj hok
    exact Or.inl ⟨rfl, rfl, fun ⟨_, hmem⟩ => absurd hmem List.not_mem_nil⟩
  | cons o opts ih =>
    -- an option that triggers stands for itself where no later one does
    have hlater : ∀ {st₁ : OptState}, parseOpts opts st₁ = .ok st' →
        (∃ source, st₁.source = some source ∧ o.trigger = some (source, st₁.isCrash)) →
        ∃ o' ∈ o :: opts, ∃ source, st'.source = some source ∧
          o'.trigger = some (source, st'.isCrash) := by
      rintro st₁ hst₁ ⟨source, hsource, htrigger⟩
      rcases ih hst₁ with ⟨hsame, hflag, -⟩ | ⟨o', hmem, hfound⟩
      · exact ⟨o, List.mem_cons_self, source, hsame.trans hsource, hflag ▸ htrigger⟩
      · exact ⟨o', List.mem_cons_of_mem o hmem, hfound⟩
    -- and one that gives neither is passed over
    have hother : ∀ {st₁ : OptState}, parseOpts opts st₁ = .ok st' → st₁.source = st.source →
        st₁.isCrash = st.isCrash → (∀ arg, o ≠ .s arg) →
        (st'.source = st.source ∧ st'.isCrash = st.isCrash ∧ ¬ HasSource (o :: opts)) ∨
          ∃ o' ∈ o :: opts, ∃ source, st'.source = some source ∧
            o'.trigger = some (source, st'.isCrash) := by
      intro st₁ hst₁ hsource hcrash hno
      rcases ih hst₁ with ⟨hsame, hflag, hnone⟩ | ⟨o', hmem, hfound⟩
      · refine Or.inl ⟨hsame.trans hsource, hflag.trans hcrash, fun ⟨arg, hmem⟩ => ?_⟩
        rcases List.mem_cons.mp hmem with heq | hmem
        · exact hno arg heq.symm
        · exact hnone ⟨arg, hmem⟩
      · exact Or.inr ⟨o', List.mem_cons_of_mem o hmem, hfound⟩
    cases o with
    | s arg => exact Or.inr (hlater hok ⟨arg, rfl, rfl⟩)
    | c arg =>
      rw [parseOpts] at hok
      split at hok
      · cases hok
      · exact Or.inr (hlater hok ⟨arg, rfl, rfl⟩)
    | r arg => exact hother hok rfl rfl (fun _ heq => nomatch heq)
    | o arg => exact hother hok rfl rfl (fun _ heq => nomatch heq)
    | h => cases hok
    | unknown => cases hok

end Loop

/-! ## A request -/

/-- The source and the crash flag of a request are those of one option. -/
theorem trigger_of_parseRequest {opts : List Opt} {req : Request} (h : parseRequest opts = .ok req) :
    ∃ o ∈ opts, o.trigger = some (req.source, req.isCrash) := by
  unfold parseRequest at h
  cases hopts : parseOpts opts OptState.start with
  | error status =>
    rw [hopts] at h
    cases h
  | ok st =>
    rw [hopts] at h
    cases hsource : st.source with
    | none => simp [hsource] at h
    | some source =>
      simp only [hsource] at h
      obtain rfl := Except.ok.inj h
      rcases parseOpts_trigger hopts with ⟨hstart, -⟩ | ⟨o, hmem, found, hfound, htrigger⟩
      · rw [hsource] at hstart
        cases hstart
      · rw [hsource] at hfound
        obtain rfl := Option.some.inj hfound
        exact ⟨o, hmem, htrigger⟩

/-- A command line with a `-s` is rejected exactly when a `-c` comes late. -/
theorem parseRequest_error_iff {opts : List Opt} (h : Accepted opts) (hsource : HasSource opts) :
    parseRequest opts = .error 1 ↔ CrashComesLate opts := by
  have hloop : parseOpts opts OptState.start = .error 1 ↔ CrashComesLate opts := by
    rw [parseOpts_error_iff h]
    simp [OptState.triggered, OptState.start]
  rw [← hloop, parseRequest]
  cases hopts : parseOpts opts OptState.start with
  | error status => simp
  | ok st =>
    rcases parseOpts_trigger hopts with ⟨-, -, hnone⟩ | ⟨o, -, source, hfound, -⟩
    · exact absurd hsource hnone
    · simp [hfound]

/-- Options that end in a status make no record: the pid file comes and goes. -/
theorem rebootnowMain_of_error {opts : List Opt} {status : Nat} (h : parseRequest opts = .error status)
    (env : HelperEnv) (d : Device) :
    ((rebootnowMain env opts).result d = status ∨ (rebootnowMain env opts).result d = 1) ∧
      ∀ o ∈ (rebootnowMain env opts).ops d, FilesOnly [.pidFile] o := by
  have hguard := emits_pidfileWriteAndGuard env d
  simp only [rebootnowMain, Prog.result_bind, Prog.ops_bind, h]
  cases (pidfileWriteAndGuard env).result d with
  | false =>
    refine ⟨Or.inr rfl, fun o ho => ?_⟩
    exact hguard o (by simpa using ho)
  | true =>
    refine ⟨Or.inl rfl, fun o ho => ?_⟩
    rcases List.mem_append.mp ho with ho | ho
    · exact hguard o ho
    · exact emits_unlinkFile .pidFile _ o (by simpa [cleanupPidfile] using ho)

/-! ## Conflicting triggers -/

/-- With both triggers on the command line `rebootnow` returns 1 and writes no record; otherwise what is
recorded has its source and its crash flag from the same option. -/
def TriggersSettled (opts : List Opt) : Prop :=
  (HasSource opts ∧ HasCrash opts → ∀ env d, (rebootnowMain env opts).result d = 1 ∧
    ∀ o ∈ (rebootnowMain env opts).ops d, FilesOnly [.pidFile] o) ∧
  (¬ (HasSource opts ∧ HasCrash opts) → ∀ req, parseRequest opts = .ok req →
    ∃ o ∈ opts, o.trigger = some (req.source, req.isCrash))

/-- Where nothing fails and nobody holds the guard, an accepted request is carried out. -/
theorem result_rebootnowMain_of_request {opts : List Opt} {req : Request}
    (h : parseRequest opts = .ok req) :
    (rebootnowMain (HelperEnv.plain .epoch 30) opts).result Device.blank = 0 := by
  simp only [rebootnowMain, Prog.result_bind, h]
  rfl

/-- **Conflicting triggers are rejected unless the one `-c` stands before every `-s`.** -/
theorem triggersSettled_iff {opts : List Opt} (h : Accepted opts) :
    TriggersSettled opts ↔ (HasSource opts ∧ HasCrash opts → CrashComesLate opts) := by
  constructor
  · rintro ⟨hconflict, -⟩ hboth
    rw [← parseRequest_error_iff h hboth.1]
    cases hparse : parseRequest opts with
    | error status =>
      have hstatus := (hconflict hboth (HelperEnv.plain .epoch 30) Device.blank).1
      simp only [rebootnowMain, Prog.result_bind, hparse] at hstatus
      have hone : status = 1 := hstatus
      rw [hone]
    | ok req =>
      have hresult := (hconflict hboth (HelperEnv.plain .epoch 30) Device.blank).1
      rw [result_rebootnowMain_of_request hparse] at hresult
      cases hresult
  · intro hlate
    refine ⟨fun hboth env d => ?_, fun _ req hreq => trigger_of_parseRequest hreq⟩
    have herror := (parseRequest_error_iff h hboth.1).mpr (hlate hboth)
    obtain ⟨hresult, hops⟩ := rebootnowMain_of_error herror env d
    exact ⟨hresult.elim id id, hops⟩

/-- `rebootnow -s A -c B` -/
def sourceFirst : List Opt := [.s ⟨['A'], by decide⟩, .c ⟨['B'], by decide⟩]

/-- `rebootnow -c B -s A` -/
def crashFirst : List Opt := [.c ⟨['B'], by decide⟩, .s ⟨['A'], by decide⟩]

theorem accepted_of_pair {o o' : Opt} (h : o.trigger.isSome = true) (h' : o'.trigger.isSome = true) :
    Accepted [o, o'] := by
  intro p hp
  have htrigger : p.trigger.isSome = true := by
    rcases List.mem_cons.mp hp with rfl | hp
    · exact h
    · exact List.mem_singleton.mp hp ▸ h'
  exact ⟨fun hh => by simp [hh, Opt.trigger] at htrigger,
    fun hu => by simp [hu, Opt.trigger] at htrigger⟩

theorem triggersSettled_sourceFirst : TriggersSettled sourceFirst :=
  (triggersSettled_iff (accepted_of_pair rfl rfl)).mpr fun _ =>
    ⟨[_], _, [], rfl, _, List.mem_cons_self, rfl⟩

/-- The order of the two decides: here a record is written. -/
theorem crashFirst_accepted : Accepted crashFirst ∧ ¬ TriggersSettled crashFirst := by
  refine ⟨accepted_of_pair rfl rfl, fun hsettled => ?_⟩
  have hboth : HasSource crashFirst ∧ HasCrash crashFirst :=
    ⟨⟨_, List.mem_cons_of_mem _ List.mem_cons_self⟩, ⟨_, List.mem_cons_self⟩⟩
  have hresult := (hsettled.1 hboth (HelperEnv.plain .epoch 30) Device.blank).1
  have hparse : parseRequest crashFirst =
      .ok ⟨⟨['A'], by decide⟩, false, unknownReason, unknownReason⟩ := rfl
  rw [result_rebootnowMain_of_request hparse] at hresult
  cases hresult

end RebootManager

/-
# RebootManager.Fetcher.DeviceProperties -- the order of /etc/device.properties (log_parser.c)

`parse_device_properties` goes through the file from top to bottom and gives each line to the first field
that is empty and takes its key. A field with one key does not depend on the order of the lines. The device
type has two: a DEVICE_NAME that stands above the DEVICE_TYPE takes its place, so that the same properties
select other logs in another order (`orderIndependent_iff`).
-/
import RebootManager.Fetcher.Evidence

namespace RebootManager

open Foundation

/-! ## The properties of a file -/

/-- The lines of the file, without their newlines. -/
def propertyTexts (content : Bytes) : List Bytes := (lines content).map (·.takeWhile (· ≠ '\n'))

/-- The key of a line and its value, cut to the field. -/
def property (line : Bytes) : Option (Bytes × Bytes) :=
  (strchr (cstr line) '=').map fun eq =>
    ((cstr line).takeWhile (· ≠ '='), ((eq.drop 1).takeWhile (· ≠ '\n')).take 63)

/-- The line gives this value to this key. -/
def HasProperty (content key value : Bytes) : Prop :=
  ∃ text ∈ propertyTexts content, property text = some (key, value)

/-- A file of short lines with one line for each key. -/
structure PropertyFile (content : Bytes) : Prop where
  short : ∀ text ∈ propertyTexts content, text.length < 255
  keys : ((propertyTexts content).filterMap fun text => (property text).map Prod.fst).Nodup

/-! ## A field that takes its first value -/

/-- What a line has for a field with these keys: nothing, or a value that may be empty. -/
def valueFor (keys : List Bytes) (line : Bytes) : Bytes :=
  match property line with
  | none => []
  | some (key, value) => if key ∈ keys then value else []

/-- The values the lines have for a field, in their order. -/
def candidates (keys : List Bytes) (texts : List Bytes) : List Bytes :=
  (texts.map (valueFor keys)).filter (· ≠ [])

/-- A field that is empty takes the first of them. -/
def firstOr (field : Bytes) (values : List Bytes) : Bytes :=
  if field = [] then values.head?.getD [] else field

theorem firstOr_nil (field : Bytes) : firstOr field [] = field := by
  unfold firstOr
  split
  · exact (‹field = []›).symm
  · rfl

/-- The field after a line takes the first of what is left. -/
theorem firstOr_cons (keys : List Bytes) (field text : Bytes) (texts : List Bytes) :
    firstOr (if field = [] then valueFor keys text else field) (candidates keys texts)
      = firstOr field (candidates keys (text :: texts)) := by
  by_cases hfield : field = []
  · by_cases hvalue : valueFor keys text = []
    · simp [candidates, hfield, hvalue]
    · simp [candidates, firstOr, hfield, hvalue]
  · simp [firstOr, hfield]

/-- Where all values are the same, their order does not matter. -/
theorem firstOr_perm {field : Bytes} {values values' : List Bytes} (hperm : values'.Perm values)
    (hsame : ∀ v ∈ values, ∀ w ∈ values, v = w) : firstOr field values' = firstOr field values := by
  have hhead : values'.head? = values.head? := by
    cases values' with
    | nil => rw [hperm.nil_eq]
    | cons v' values' =>
      cases values with
      | nil => exact absurd hperm.eq_nil (List.cons_ne_nil _ _)
      | cons v values =>
        have hmem := hperm.subset List.mem_cons_self
        rw [List.head?_cons, List.head?_cons, hsame _ hmem _ List.mem_cons_self]
  rw [firstOr, hhead, firstOr]

/-- And any of them is the value of an empty field. -/
theorem firstOr_of_mem {values : List Bytes} (hsame : ∀ v ∈ values, ∀ w ∈ values, v = w) {v : Bytes}
    (hv : v ∈ values) : firstOr [] values = v := by
  cases values with
  | nil => cases hv
  | cons first values => exact hsame _ List.mem_cons_self _ hv

theorem candidates_perm {keys texts texts' : List Bytes} (h : texts'.Perm texts) :
    (candidates keys texts').Perm (candidates keys texts) := (h.map _).filter _

theorem mem_candidates_iff {keys texts : List Bytes} {v : Bytes} :
    v ∈ candidates keys texts ↔
      v ≠ [] ∧ ∃ text ∈ texts, ∃ key ∈ keys, property text = some (key, v) := by
  simp only [candidates, List.mem_filter, List.mem_map, decide_eq_true_eq]
  constructor
  · rintro ⟨⟨text, htext, rfl⟩, hne⟩
    refine ⟨hne, text, htext, ?_⟩
    unfold valueFor at hne ⊢
    split at hne
    · exact absurd rfl hne
    · rename_i key value hproperty
      split at hne
      · exact ⟨key, ‹key ∈ keys›, by simp [hproperty, ‹key ∈ keys›]⟩
      · exact absurd rfl hne
  · rintro ⟨hne, text, htext, key, hkey, hproperty⟩
    exact ⟨⟨text, htext, by simp [valueFor, hproperty, hkey]⟩, hne⟩

/-! ## The loop -/

/-- The keys of the three fields a line can fill. -/
def socKeys : List Bytes := ["SOC".toList]

def rdkProfileKeys : List Bytes := ["RDK_PROFILE".toList]

def deviceTypeKeys : List Bytes := ["DEVICE_TYPE".toList, "DEVICE_NAME".toList]

/-- The chain of the loop gives the line to one field at most: no two of them share a key. -/
theorem fill_eq {soc profile type name : Bytes} (hprofile : profile ≠ soc) (htype : type ≠ soc)
    (hname : name ≠ soc) (htype' : type ≠ profile) (hname' : name ≠ profile) (ctx : EnvContext)
    (key val : Bytes) :
    (if ctx.soc = [] ∧ key = soc then { ctx with soc := val }
      else if ctx.rdkProfile = [] ∧ key = profile then { ctx with rdkProfile := val }
      else if ctx.deviceType = [] ∧ (key = type ∨ key = name) then { ctx with deviceType := val }
      else ctx) =
      { ctx with
        soc := if ctx.soc = [] then (if key ∈ [soc] then val else []) else ctx.soc
        rdkProfile := if ctx.rdkProfile = [] then (if key ∈ [profile] then val else []) else ctx.rdkProfile
        deviceType :=
          if ctx.deviceType = [] then (if key ∈ [type, name] then val else []) else ctx.deviceType } := by
  obtain ⟨socField, profileField, buildField, typeField, stt⟩ := ctx
  simp only [List.mem_cons, List.not_mem_nil, or_false]
  by_cases hsoc : key = soc
  · subst hsoc
    simp only [hprofile.symm, htype.symm, hname.symm, if_false, and_true, and_false, or_self]
    split <;> simp_all
  · by_cases hkey : key = profile
    · subst hkey
      simp only [hsoc, htype'.symm, hname'.symm, if_false, and_true, and_false, or_self]
      split <;> simp_all
    · simp only [hsoc, hkey, if_false, and_false]
      split <;> simp_all

/-- What a line does to each of the fields. -/
theorem takeLine_eq_fields (ctx : EnvContext) (line : Bytes) :
    ctx.takeLine (cstr line) =
      { ctx with
        soc := if ctx.soc = [] then valueFor socKeys line else ctx.soc
        rdkProfile := if ctx.rdkProfile = [] then valueFor rdkProfileKeys line else ctx.rdkProfile
        deviceType := if ctx.deviceType = [] then valueFor deviceTypeKeys line else ctx.deviceType } := by
  cases heq : strchr (cstr line) '=' with
  | none =>
    have hnone : property line = none := by rw [property, heq, Option.map_none]
    have hstay : ∀ field : Bytes, (if field = [] then [] else field) = field := firstOr_nil
    simp only [EnvContext.takeLine, heq, valueFor, hnone, hstay]
  | some eq =>
    have hsome : property line =
        some ((cstr line).takeWhile (· ≠ '='), ((eq.drop 1).takeWhile (· ≠ '\n')).take 63) := by
      rw [property, heq, Option.map_some]
    simp only [EnvContext.takeLine, heq, valueFor, hsome, take_sub_strchr heq]
    exact fill_eq (by decide) (by decide) (by decide) (by decide) (by decide) ctx _ _

/-- What all the lines do to them. -/
theorem foldl_takeLine (texts : List Bytes) (ctx : EnvContext) :
    (texts.map cstr).foldl EnvContext.takeLine ctx =
      { ctx with
        soc := firstOr ctx.soc (candidates socKeys texts)
        rdkProfile := firstOr ctx.rdkProfile (candidates rdkProfileKeys texts)
        deviceType := firstOr ctx.deviceType (candidates deviceTypeKeys texts) } := by
  induction texts generalizing ctx with
  | nil =>
    simp only [List.map_nil, List.foldl_nil, candidates, List.filter_nil, firstOr_nil]
  | cons text texts ih =>
    rw [List.map_cons, List.foldl_cons, takeLine_eq_fields, ih]
    simp only [firstOr_cons]

/-! ## Lines and texts -/

/-- The newline is no part of the property. -/
theorem property_newline {text : Bytes} (h : '\n' ∉ text) : property (text ++ ['\n']) = property text := by
  by_cases hnul : '\x00' ∈ text
  · obtain ⟨head, rest, rfl, hhead⟩ := List.eq_append_cons_of_mem hnul
    have hcut : cstr (head ++ '\x00' :: rest ++ ['\n']) = cstr (head ++ '\x00' :: rest) := by
      rw [List.append_assoc, List.cons_append, cstr, takeWhile_append_cons hhead, cstr,
        takeWhile_append_cons hhead]
    rw [property, hcut, property]
  · have hline : '\x00' ∉ text ++ ['\n'] := by simpa using hnul
    rw [property, property, cstr_eq_self hnul, cstr_eq_self hline]
    by_cases heq : '=' ∈ text
    · obtain ⟨key, value, rfl, hkey⟩ := List.eq_append_cons_of_mem heq
      have hvalue : '\n' ∉ value := fun hmem =>
        h (List.mem_append_right key (List.mem_cons_of_mem '=' hmem))
      rw [List.append_assoc, List.cons_append, strchr_append_cons hkey, strchr_append_cons hkey,
        takeWhile_append_cons hkey, takeWhile_append_cons hkey]
      simp only [Option.map_some, List.drop_succ_cons, List.drop_zero]
      rw [takeWhile_append_cons hvalue, takeWhile_of_not_mem hvalue]
    · have hnone : '=' ∉ text ++ ['\n'] := by simpa using heq
      rw [strchr, strchr, if_neg heq, if_neg hnone]
      rfl

theorem property_takeWhile {line : Bytes} (h : IsLine line) :
    property (line.takeWhile (· ≠ '\n')) = property line := by
  obtain ⟨hnewline, hline | hline⟩ := h.newlineLast.text_cases
  · rw [← hline]
  · rw [← property_newline hnewline, ← hline]

/-- The fields do not see the newlines. -/
theorem candidates_propertyTexts (keys : List Bytes) (content : Bytes) :
    candidates keys (propertyTexts content) = candidates keys (lines content) := by
  have hsame : ∀ line ∈ lines content, valueFor keys (line.takeWhile (· ≠ '\n')) = valueFor keys line := by
    intro line hline
    rw [valueFor, property_takeWhile (isLine_of_mem_lines hline), valueFor]
  rw [candidates, propertyTexts, List.map_map, candidates]
  exact congrArg _ (List.map_congr_left hsame)

/-- Where the texts are short, the buffers are the lines. -/
theorem fgetsLines_of_short {content : Bytes} (h : ∀ text ∈ propertyTexts content, text.length < 255) :
    fgetsLines 256 content = (lines content).map cstr := by
  apply fgetsLines_of_fits
  intro line hline
  have hshort := h _ (List.mem_map_of_mem hline)
  obtain ⟨-, hline | hline⟩ := (isLine_of_mem_lines hline).newlineLast.text_cases
  · rw [← hline] at hshort
    omega
  · rw [hline, List.length_append, List.length_singleton]
    omega

/-! ## Two orders of one file -/

section Orders

variable {env : FetcherEnv} {d : Device} {content content' : Bytes}

/-- The context as `getDevicePropertyData` leaves it. -/
def obtainedContext (env : FetcherEnv) : EnvContext where
  soc := propertyField env "SOC".toList
  rdkProfile := propertyField env "RDK_PROFILE".toList
  buildType := propertyField env "BUILD_TYPE".toList
  deviceType := propertyField env "DEVICE_TYPE".toList
  rebootInfoSttSupport :=
    (env.deviceProperty "REBOOT_INFO_STT_SUPPORT".toList).any fun value =>
      (cstr value).map Char.toLower = "true".toList

/-- The context with the empty fields filled from the lines. -/
def filledContext (env : FetcherEnv) (texts : List Bytes) : EnvContext :=
  { obtainedContext env with
    soc := firstOr (obtainedContext env).soc (candidates socKeys texts)
    rdkProfile := firstOr (obtainedContext env).rdkProfile (candidates rdkProfileKeys texts)
    deviceType := firstOr (obtainedContext env).deviceType (candidates deviceTypeKeys texts) }

/-- The file with this content. -/
def Device.withProperties (d : Device) (content : Bytes) : Device :=
  d.setFile .devicePropertiesFile (some content)

/-- The file is not needed, or it can be read. -/
def ContextComplete (env : FetcherEnv) : Prop :=
  ((obtainedContext env).soc ≠ [] ∧ (obtainedContext env).deviceType ≠ [] ∧
    (obtainedContext env).rdkProfile ≠ []) ∨ env.io.canRead .devicePropertiesFile = true

theorem firstOr_of_ne {field : Bytes} (h : field ≠ []) (values : List Bytes) :
    firstOr field values = field := if_neg h

@[ext]
theorem EnvContext.ext {ctx ctx' : EnvContext} (hsoc : ctx.soc = ctx'.soc)
    (hprofile : ctx.rdkProfile = ctx'.rdkProfile) (hbuild : ctx.buildType = ctx'.buildType)
    (htype : ctx.deviceType = ctx'.deviceType)
    (hstt : ctx.rebootInfoSttSupport = ctx'.rebootInfoSttSupport) : ctx = ctx' := by
  cases ctx
  cases ctx'
  simp_all

theorem parseDeviceProperties_eq (env : FetcherEnv) (d : Device) :
    parseDeviceProperties env d =
      if (obtainedContext env).soc = [] ∨ (obtainedContext env).deviceType = [] ∨
          (obtainedContext env).rdkProfile = [] then
        (env.open .devicePropertiesFile d).map fun content =>
          (fgetsLines 256 content).foldl EnvContext.takeLine (obtainedContext env)
      else some (obtainedContext env) := rfl

theorem openProperties (env : FetcherEnv) (d : Device) (content : Bytes) :
    env.open .devicePropertiesFile (d.withProperties content)
      = if env.io.canRead .devicePropertiesFile then some content else none := by
  simp [FetcherEnv.open, Device.withProperties]

theorem parse_withProperties (hshort : ∀ text ∈ propertyTexts content, text.length < 255)
    (hcomplete : ContextComplete env) :
    parseDeviceProperties env (d.withProperties content)
      = some (filledContext env (propertyTexts content)) := by
  have hloop : (fgetsLines 256 content).foldl EnvContext.takeLine (obtainedContext env)
      = filledContext env (propertyTexts content) := by
    rw [fgetsLines_of_short hshort, foldl_takeLine]
    simp only [← candidates_propertyTexts]
    rfl
  rw [parseDeviceProperties_eq]
  split
  · rename_i hempty
    rcases hcomplete with ⟨hsoc, htype, hprofile⟩ | hread
    · exact absurd hempty (by simp [hsoc, htype, hprofile])
    · rw [openProperties, if_pos hread, Option.map_some, hloop]
  · rename_i hfull
    simp only [not_or] at hfull
    obtain ⟨hsoc, htype, hprofile⟩ := hfull
    rw [filledContext, firstOr_of_ne hsoc, firstOr_of_ne htype, firstOr_of_ne hprofile]

theorem parse_withProperties_of_incomplete (h : ¬ ContextComplete env) (content : Bytes) :
    parseDeviceProperties env (d.withProperties content) = none := by
  obtain ⟨hempty, hread⟩ := not_or.mp h
  rw [parseDeviceProperties_eq]
  split
  · rw [openProperties, if_neg hread, Option.map_none]
  · rename_i hfull
    simp only [not_or] at hfull
    exact absurd hfull hempty

/-- `parse_device_properties` goes by the properties and not by their order, and DEVICE_NAME counts only
where there is no DEVICE_TYPE. -/
structure OrderIndependent (env : FetcherEnv) (d : Device) (content : Bytes) : Prop where
  perm : ∀ content', (propertyTexts content').Perm (propertyTexts content) →
    parseDeviceProperties env (d.withProperties content')
      = parseDeviceProperties env (d.withProperties content)
  deviceType : ∀ ctx, parseDeviceProperties env (d.withProperties content) = some ctx →
    (propertyField env "DEVICE_TYPE".toList ≠ [] →
      ctx.deviceType = propertyField env "DEVICE_TYPE".toList) ∧
    (propertyField env "DEVICE_TYPE".toList = [] → ∀ value ≠ [],
      HasProperty content "DEVICE_TYPE".toList value → ctx.deviceType = value)

/-- The file decides the device type, and has both keys for it, with two values. -/
def DeviceConflict (env : FetcherEnv) (content : Bytes) : Prop :=
  propertyField env "DEVICE_TYPE".toList = [] ∧ env.io.canRead .devicePropertiesFile = true ∧
    ∃ type name, type ≠ [] ∧ name ≠ [] ∧ type ≠ name ∧
      HasProperty content "DEVICE_TYPE".toList type ∧ HasProperty content "DEVICE_NAME".toList name

/-- With one line for each key, a key has one value. -/
theorem PropertyFile.unique (h : PropertyFile content) {key v w : Bytes}
    (hv : HasProperty content key v) (hw : HasProperty content key w) : v = w := by
  obtain ⟨text, htext, hv⟩ := hv
  obtain ⟨text', htext', hw⟩ := hw
  have hkeys := h.keys
  rw [← List.map_filterMap] at hkeys
  have hsame := List.inj_on_of_nodup_map hkeys (List.mem_filterMap.mpr ⟨text, htext, hv⟩)
    (List.mem_filterMap.mpr ⟨text', htext', hw⟩) rfl
  exact (Prod.mk.inj hsame).2

/-- Texts written out as a file. -/
theorem propertyTexts_flatten {texts : List Bytes} (h : ∀ text ∈ texts, '\n' ∉ text) :
    propertyTexts (texts.map (· ++ ['\n'])).flatten = texts := by
  have hended : ∀ line ∈ texts.map (· ++ ['\n']), EndedLine line := by
    intro line hline
    obtain ⟨text, htext, rfl⟩ := List.mem_map.mp hline
    exact ⟨text, rfl, h text htext⟩
  have hback : ∀ text ∈ texts, (text ++ ['\n']).takeWhile (· ≠ '\n') = text :=
    fun text htext => takeWhile_append_cons (h text htext) []
  rw [propertyTexts, lines_flatten hended, List.map_map]
  exact (List.map_congr_left hback).trans (List.map_id' texts)

/-- The lines of a file in another order, any of them first. -/
theorem exists_order {text : Bytes} (h : text ∈ propertyTexts content) :
    ∃ content' texts, (propertyTexts content').Perm (propertyTexts content) ∧
      propertyTexts content' = text :: texts := by
  have hperm := (List.perm_cons_erase h).symm
  have hnewline : ∀ text' ∈ text :: (propertyTexts content).erase text, '\n' ∉ text' := by
    intro text' htext'
    obtain ⟨line, hline, rfl⟩ := List.mem_map.mp (hperm.subset htext')
    exact (isLine_of_mem_lines hline).newlineLast.text_cases.1
  refine ⟨_, _, ?_, propertyTexts_flatten hnewline⟩
  rw [propertyTexts_flatten hnewline]
  exact hperm

/-- A permutation of short lines has short lines. -/
theorem short_of_perm (h : PropertyFile content)
    (hperm : (propertyTexts content').Perm (propertyTexts content)) :
    ∀ text ∈ propertyTexts content', text.length < 255 :=
  fun text htext => h.short text (hperm.subset htext)

/-- A field with one key takes the same value in every order. -/
theorem firstOr_perm_of_key (h : PropertyFile content) (key field : Bytes)
    (hperm : (propertyTexts content').Perm (propertyTexts content)) :
    firstOr field (candidates [key] (propertyTexts content'))
      = firstOr field (candidates [key] (propertyTexts content)) := by
  apply firstOr_perm (candidates_perm hperm)
  intro v hv w hw
  obtain ⟨-, text, htext, k, hk, hv⟩ := mem_candidates_iff.mp hv
  obtain ⟨-, text', htext', k', hk', hw⟩ := mem_candidates_iff.mp hw
  rw [List.mem_singleton.mp hk] at hv
  rw [List.mem_singleton.mp hk'] at hw
  exact h.unique ⟨text, htext, hv⟩ ⟨text', htext', hw⟩

/-- The lines for the device type: those of its two keys. -/
theorem mem_deviceTypes_iff {v : Bytes} :
    v ∈ candidates deviceTypeKeys (propertyTexts content) ↔
      v ≠ [] ∧ (HasProperty content "DEVICE_TYPE".toList v ∨ HasProperty content "DEVICE_NAME".toList v) := by
  rw [mem_candidates_iff]
  constructor
  · rintro ⟨hne, text, htext, key, hkey, hproperty⟩
    rcases List.mem_cons.mp hkey with rfl | hkey
    · exact ⟨hne, Or.inl ⟨text, htext, hproperty⟩⟩
    · rw [List.mem_singleton.mp hkey] at hproperty
      exact ⟨hne, Or.inr ⟨text, htext, hproperty⟩⟩
  · rintro ⟨hne, ⟨text, htext, hproperty⟩ | ⟨text, htext, hproperty⟩⟩
    · exact ⟨hne, text, htext, _, List.mem_cons_self, hproperty⟩
    · exact ⟨hne, text, htext, _, List.mem_cons_of_mem _ List.mem_cons_self, hproperty⟩

/-- Without a conflict the lines for the device type have one value. -/
theorem deviceTypes_same (h : PropertyFile content)
    (htype : propertyField env "DEVICE_TYPE".toList = [])
    (hread : env.io.canRead .devicePropertiesFile = true) (hnone : ¬ DeviceConflict env content) :
    ∀ v ∈ candidates deviceTypeKeys (propertyTexts content),
      ∀ w ∈ candidates deviceTypeKeys (propertyTexts content), v = w := by
  intro v hv w hw
  obtain ⟨hv, hvtype | hvname⟩ := mem_deviceTypes_iff.mp hv
  · obtain ⟨hw, hwtype | hwname⟩ := mem_deviceTypes_iff.mp hw
    · exact h.unique hvtype hwtype
    · by_contra hdiffer
      exact hnone ⟨htype, hread, v, w, hv, hw, hdiffer, hvtype, hwname⟩
  · obtain ⟨hw, hwtype | hwname⟩ := mem_deviceTypes_iff.mp hw
    · by_contra hdiffer
      exact hnone ⟨htype, hread, w, v, hw, hv, Ne.symm hdiffer, hwtype, hvname⟩
    · exact h.unique hvname hwname

/-- Without one, the device type is the same in every order. -/
theorem deviceType_perm (h : PropertyFile content) (hcomplete : ContextComplete env)
    (hnone : ¬ DeviceConflict env content)
    (hperm : (propertyTexts content').Perm (propertyTexts content)) :
    (filledContext env (propertyTexts content')).deviceType
      = (filledContext env (propertyTexts content)).deviceType := by
  by_cases htype : (obtainedContext env).deviceType = []
  · have hread : env.io.canRead .devicePropertiesFile = true :=
      hcomplete.resolve_left fun hfull => hfull.2.1 htype
    exact firstOr_perm (candidates_perm hperm) (deviceTypes_same h htype hread hnone)
  · exact (firstOr_of_ne htype _).trans (firstOr_of_ne htype _).symm

/-- In the order that has it first, any of the values becomes the device type. -/
theorem exists_order_deviceType (h : PropertyFile content)
    (htype : propertyField env "DEVICE_TYPE".toList = [])
    (hread : env.io.canRead .devicePropertiesFile = true) (d : Device) {v : Bytes}
    (hv : v ∈ candidates deviceTypeKeys (propertyTexts content)) :
    ∃ content', (propertyTexts content').Perm (propertyTexts content) ∧
      ∃ ctx, parseDeviceProperties env (d.withProperties content') = some ctx ∧ ctx.deviceType = v := by
  obtain ⟨hne, text, htext, key, hkey, hproperty⟩ := mem_candidates_iff.mp hv
  obtain ⟨content', texts, hperm, hfirst⟩ := exists_order htext
  refine ⟨content', hperm, _, parse_withProperties (short_of_perm h hperm) (Or.inr hread), ?_⟩
  have hvalue : valueFor deviceTypeKeys text = v := by simp [valueFor, hproperty, hkey]
  have hobtained : (obtainedContext env).deviceType = [] := htype
  simp [filledContext, hfirst, candidates, hvalue, hne, firstOr, hobtained]

/-- **The order of the lines matters exactly where DEVICE_TYPE and DEVICE_NAME are two values for the
device type.** -/
theorem orderIndependent_iff (h : PropertyFile content) (env : FetcherEnv) (d : Device) :
    OrderIndependent env d content ↔ ¬ DeviceConflict env content := by
  constructor
  · rintro hindependent ⟨htype, hread, type, name, htypene, hnamene, hdiffer, hastype, hasname⟩
    obtain ⟨byType, hperm, ctx, hctx, hval⟩ := exists_order_deviceType h htype hread d
      (mem_deviceTypes_iff.mpr ⟨htypene, Or.inl hastype⟩)
    obtain ⟨byName, hperm', ctx', hctx', hval'⟩ := exists_order_deviceType h htype hread d
      (mem_deviceTypes_iff.mpr ⟨hnamene, Or.inr hasname⟩)
    have hsame : some ctx = some ctx' := by
      rw [← hctx, ← hctx', hindependent.perm _ hperm, hindependent.perm _ hperm']
    rw [Option.some.inj hsame, hval'] at hval
    exact hdiffer hval.symm
  · intro hnone
    by_cases hcomplete : ContextComplete env
    · refine ⟨fun content' hperm => ?_, fun ctx hctx => ?_⟩
      · rw [parse_withProperties (short_of_perm h hperm) hcomplete, parse_withProperties h.short hcomplete,
          Option.some.injEq]
        ext1
        · exact firstOr_perm_of_key h _ _ hperm
        · exact firstOr_perm_of_key h _ _ hperm
        · rfl
        · exact deviceType_perm h hcomplete hnone hperm
        · rfl
      · rw [parse_withProperties h.short hcomplete] at hctx
        obtain rfl := Option.some.inj hctx
        refine ⟨fun htype => firstOr_of_ne htype _, fun htype value hvalue hhas => ?_⟩
        have hread : env.io.canRead .devicePropertiesFile = true :=
          hcomplete.resolve_left fun hfull => hfull.2.1 htype
        have hfield : (filledContext env (propertyTexts content)).deviceType
            = firstOr [] (candidates deviceTypeKeys (propertyTexts content)) :=
          congrArg (firstOr · _) htype
        rw [hfield]
        exact firstOr_of_mem (deviceTypes_same h htype hread hnone)
          (mem_deviceTypes_iff.mpr ⟨hvalue, Or.inl hhas⟩)
    · have hfail := fun content => parse_withProperties_of_incomplete (d := d) hcomplete content
      refine ⟨fun content' _ => by rw [hfail, hfail], fun ctx hctx => ?_⟩
      rw [hfail] at hctx
      cases hctx

end Orders

/-- A gateway that has a type and no name. -/
def gatewayProperties : Bytes := "SOC=BRCM\nDEVICE_TYPE=mediaclient\n".toList

theorem orderIndependent_gatewayProperties :
    OrderIndependent (FetcherEnv.plain .epoch fun _ => none) Device.blank gatewayProperties := by
  refine (orderIndependent_iff ⟨by decide +kernel, by decide +kernel⟩ _ _).mpr ?_
  rintro ⟨-, -, -, name, -, -, -, -, text, htext, hname⟩
  have hnone : ∀ text ∈ propertyTexts gatewayProperties,
      (property text).map Prod.fst ≠ some "DEVICE_NAME".toList := by decide +kernel
  exact hnone text htext (by rw [hname]; rfl)

/-- The same with a name above the type. -/
def namedProperties : Bytes := "DEVICE_NAME=XiOne\nDEVICE_TYPE=mediaclient\n".toList

/-- The name is taken for the type, though the file has both. -/
theorem not_orderIndependent_namedProperties : PropertyFile namedProperties ∧
    ¬ OrderIndependent (FetcherEnv.plain .epoch fun _ => none) Device.blank namedProperties := by
  refine ⟨⟨by decide +kernel, by decide +kernel⟩, fun hindependent => ?_⟩
  have hparse : (parseDeviceProperties (FetcherEnv.plain .epoch fun _ => none)
      (Device.blank.withProperties namedProperties)).map EnvContext.deviceType
        = some "XiOne".toList := by decide +kernel
  obtain ⟨ctx, hctx, hname⟩ := Option.map_eq_some_iff.mp hparse
  have hhas : HasProperty namedProperties "DEVICE_TYPE".toList "mediaclient".toList :=
    ⟨"DEVICE_TYPE=mediaclient".toList, by decide +kernel, by decide +kernel⟩
  have htype := (hindependent.deviceType ctx hctx).2 rfl _ (by decide) hhas
  rw [hname] at htype
  exact absurd htype (by decide)

end RebootManager

/-
# RebootManager.Helper.Categories -- one category from two programs

`rebootnow` and the script it can fall back to both make a category of the source, from three lists of
names. The binary looks for the source in each name of a list, the script in the text of the whole list,
with the names joined by blanks. A source without a blank cannot reach over the border of a name
(`joinedListHas_iff`), so what is left between the two is the one name that only the binary's list has.
-/
import RebootManager.Helper.RebootNowScript

namespace RebootManager

open Foundation

/-- What the binary tests: some name of the list has the source in it. -/
theorem checkStringValue_iff {list : List String} {source : Bytes} :
    checkStringValue list source = true ↔ ∃ name ∈ list, source <:+: name.toList := by
  rw [checkStringValue, List.any_eq_true]
  simp only [isSome_strstr_iff]

/-- What the script tests comes to the same for a source without a blank. -/
theorem joinedListHas_iff {list : List String} (hne : list ≠ []) {source : Bytes}
    (hsource : ' ' ∉ source) :
    joinedListHas list source = true ↔ ∃ name ∈ list, source <:+: name.toList := by
  have hnames : list.map String.toList ≠ [] := by simpa using hne
  rw [joinedListHas, isSome_strstr_iff, infix_intercalate_iff hsource hnames]
  simp

theorem joinedListHas_eq {list : List String} (hne : list ≠ []) {source : Bytes}
    (hsource : ' ' ∉ source) : joinedListHas list source = checkStringValue list source :=
  Bool.eq_iff_iff.mpr ((joinedListHas_iff hne hsource).trans checkStringValue_iff.symm)

/-- The binary's list has one name more. -/
theorem opsTriggeredReasons_eq :
    opsTriggeredReasons = scriptOpsTriggeredReasons ++ ["CyclicReboot"] := by
  decide

/-- A source that does not occur in that name finds the same in either list. -/
theorem checkStringValue_ops {source : Bytes} (hcyclic : ¬ source <:+: "CyclicReboot".toList) :
    checkStringValue opsTriggeredReasons source = checkStringValue scriptOpsTriggeredReasons source := by
  have hlast : (strstr "CyclicReboot".toList source).isSome = false := by
    rw [← Bool.not_eq_true, isSome_strstr_iff]
    exact hcyclic
  rw [opsTriggeredReasons_eq, checkStringValue, List.any_append, List.any_cons, hlast, checkStringValue,
    List.any_nil, Bool.or_self, Bool.or_false]

/-- **The two programs categorise alike**, but for the sources that occur in "CyclicReboot". -/
theorem categorize_eq_script (env : ScriptEnv) {source customReason : Bytes} (hsource : ' ' ∉ source)
    (hcyclic : ¬ source <:+: "CyclicReboot".toList) (hcustom : plainWord customReason = true) :
    categorize source customReason = scriptRebootReason env source customReason := by
  have happ : joinedListHas appTriggeredReasons source = checkStringValue appTriggeredReasons source :=
    joinedListHas_eq (by decide) hsource
  have hops : joinedListHas scriptOpsTriggeredReasons source =
      checkStringValue opsTriggeredReasons source := by
    rw [joinedListHas_eq (by decide) hsource, checkStringValue_ops hcyclic]
  have hmaintenance : joinedListHas maintenanceTriggeredReasons source =
      checkStringValue maintenanceTriggeredReasons source :=
    joinedListHas_eq (by decide) hsource
  unfold categorize scriptRebootReason
  rw [happ, hops, hmaintenance, if_pos hcustom]
  dsimp only
  simp only [decide_eq_true_eq]

/-- A maintenance reboot asked for by an application. -/
theorem categorize_eq_script_maintenance :
    categorize "HtmlDiagnostics".toList "MAINTENANCE_REBOOT".toList =
      scriptRebootReason (ScriptEnv.plain (HelperEnv.plain .epoch 30)) "HtmlDiagnostics".toList
        "MAINTENANCE_REBOOT".toList :=
  categorize_eq_script _ (by decide) (by decide) (by decide)

end RebootManager

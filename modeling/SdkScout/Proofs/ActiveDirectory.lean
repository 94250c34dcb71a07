import SdkScout.Installation
import SdkScout.Proofs.Text.Blank
import SdkScout.Proofs.Text.Utf8

/-!
# The active developer directory

The variable decides alone if it is set, and its value is taken as it stands. If it is not set, the
helper is run once, and its run decides (`HelperRun.Reports`): there is a failure if it cannot be
started or ends with a status other than zero; else its output is decoded, and the white space around
it is left out. Every output names a directory then, be it well-formed UTF-8 or not
(`HelperRun.exists_path_eq_ok`).
-/

namespace SdkScout

/-- The commands that were run to get a result. -/
def Asked.commands {α : Type} (asked : Asked α) : List (List String) :=
  List.replicate asked.runs helperCommand

namespace HelperRun

/-- What a run of the helper comes to. -/
inductive Reports : HelperRun → Except Failure Path → Prop
  | notStarted (code : Nat) : Reports (.notStarted code) (.error (.helperNotStarted code))
  | failed {status : Int} (h : status ≠ 0) (output : List UInt8) :
    Reports (.exited status output) (.error (.helperStatus status))
  | succeeded {output : List UInt8} {text : List Char} (htrimmed : Text.IsTrimmed text)
    (hsurrounded : Text.Surrounded text (Text.Utf8.decodeLossy output)) :
    Reports (.exited 0 output) (.ok (.ofString (String.ofList text)))

/-- Each way in which a run of the helper ends has one outcome. -/
theorem path_eq_iff_reports {run : HelperRun} {outcome : Except Failure Path} :
    run.path = outcome ↔ run.Reports outcome := by
  constructor
  · rintro rfl
    cases run with
    | notStarted code => exact .notStarted code
    | exited status output =>
      by_cases h : status = 0
      · subst h
        exact .succeeded (Text.isTrimmed_strip _) (Text.surrounded_strip _)
      · rw [path, if_pos h]
        exact .failed h output
  · intro h
    cases h with
    | notStarted code => rfl
    | failed h output => rw [path, if_pos h]
    | succeeded htrimmed hsurrounded =>
      rw [path, if_neg (by simp), Text.strip_eq_iff.mpr ⟨htrimmed, hsurrounded⟩]

theorem exists_path_eq_ok (output : List UInt8) :
    ∃ directory, path (.exited 0 output) = .ok directory :=
  ⟨_, path_eq_iff_reports.mpr (.succeeded (Text.isTrimmed_strip _) (Text.surrounded_strip _))⟩

/-- An output in UTF-8 is read as it was written. -/
theorem path_encode {front text back : String} (hfront : ∀ c ∈ front.toList, Text.isBlank c = true)
    (hback : ∀ c ∈ back.toList, Text.isBlank c = true) (h : Text.IsTrimmed text.toList) :
    path (.exited 0 (Text.Utf8.encode (front ++ text ++ back).toList)) = .ok (.ofString text) := by
  have hsurrounded : Text.Surrounded text.toList
      (Text.Utf8.decodeLossy (Text.Utf8.encode (front ++ text ++ back).toList)) := by
    rw [Text.Utf8.decodeLossy_encode, String.toList_append, String.toList_append]
    exact ⟨_, _, hfront, hback, rfl⟩
  rw [path_eq_iff_reports.mpr (.succeeded h hsurrounded), String.ofList_toList]

end HelperRun

namespace World

/-- A variable that is set, be it to nothing, is taken as it stands, and nothing is run. Else the
helper is run once, and the outcome is what its run comes to. -/
theorem activeDeveloperDirectory_outcome (w : World) (environment : List (String × String)) :
    (∀ value, environment.lookup "DEVELOPER_DIR" = some value → ∀ helper,
      ({ w with helper }.activeDeveloperDirectoryIn environment).result = .ok (.ofString value) ∧
        ({ w with helper }.activeDeveloperDirectoryIn environment).commands = []) ∧
      (environment.lookup "DEVELOPER_DIR" = none → ∀ helper,
        ({ w with helper }.activeDeveloperDirectoryIn environment).commands =
            [["xcode-select", "--print-path"]] ∧
          (∀ outcome, ({ w with helper }.activeDeveloperDirectoryIn environment).result = outcome ↔
            helper.Reports outcome) ∧
          (∀ front text back : String, (∀ c ∈ front.toList, Text.isBlank c = true) →
            (∀ c ∈ back.toList, Text.isBlank c = true) → Text.IsTrimmed text.toList →
            helper = .exited 0 (Text.Utf8.encode (front ++ text ++ back).toList) →
            ({ w with helper }.activeDeveloperDirectoryIn environment).result =
              .ok (.ofString text)) ∧
          ∀ output, helper = .exited 0 output → ∃ directory,
            ({ w with helper }.activeDeveloperDirectoryIn environment).result = .ok directory) := by
  refine ⟨fun value hvalue helper => ?_, fun hnone helper => ?_⟩
  · have hset : { w with helper }.activeDeveloperDirectoryIn environment =
        ⟨.ok (.ofString value), 0⟩ := by
      rw [activeDeveloperDirectoryIn, developerVariable, hvalue]
    rw [hset]
    exact ⟨rfl, rfl⟩
  · have hunset : { w with helper }.activeDeveloperDirectoryIn environment = ⟨helper.path, 1⟩ := by
      rw [activeDeveloperDirectoryIn, developerVariable, hnone]
    rw [hunset]
    refine ⟨rfl, fun outcome => HelperRun.path_eq_iff_reports, ?_, ?_⟩
    · rintro front text back hfront hback htext rfl
      exact HelperRun.path_encode hfront hback htext
    · rintro output rfl
      exact HelperRun.exists_path_eq_ok output

end World

end SdkScout

import SdkScout.Failure
import SdkScout.Value

/-! The settings of an SDK, as far as they are understood. -/

namespace SdkScout

/-- One platform that an SDK can build for. Only the shape of its entry is checked, so the values are
kept as they stand in the document. -/
structure Target where
  name : Value
  archs : List Value
  defaultDeployment : Value
  minimumDeployment : Value
  maximumDeployment : Value
  deriving Inhabited

structure Settings where
  canonicalName : String
  version : Version
  displayName : Value
  maximumDeployment : Value
  platformName : Value
  targets : List (Value × Target)

namespace Settings

def requiredText (entries : List (Value × Value)) (key : String) : Except SettingsFault String :=
  match Value.field entries key with
  | .null => .error (.keyMissing key)
  | .text s => .ok s
  | _ => .error (.keyNotText key)

/-- The entries of a section; one that is absent or counts as nothing has none. -/
def section? (entries : List (Value × Value)) (key : String) :
    Except SettingsFault (List (Value × Value)) :=
  match Value.field entries key with
  | .mapping es => .ok es
  | value => if value.isFalsy then .ok [] else .error (.sectionNotMapping key)

/-- The elements of the value under `Archs`; one that is absent or counts as nothing has none. -/
def archs (entries : List (Value × Value)) : Except Failure (List Value) :=
  let value := Value.field entries "Archs"
  if value.isFalsy then .ok []
  else
    match value.elements? with
    | some elements => .ok elements
    | none => .error .archsNotIterable

def target (source : String) (name : Value) : Value → Except Failure Target
  | .mapping entries => do
    return {
      name
      archs := ← archs entries
      defaultDeployment := Value.field entries "DefaultDeploymentTarget"
      minimumDeployment := Value.field entries "MinimumDeploymentTarget"
      maximumDeployment := Value.field entries "MaximumDeploymentTarget" }
  | _ => do throw (.settings source (.targetNotMapping (← name.written)))

/-- The settings in a decoded document, or the first fault. -/
def ofValue (source : String) : Value → Except Failure Settings
  | .mapping entries => do
    let faulty {α : Type} : Except SettingsFault α → Except Failure α :=
      Except.mapError (Failure.settings source)
    let canonicalName ← faulty (requiredText entries "CanonicalName")
    let version ← faulty (requiredText entries "Version")
    let defaults ← faulty (section? entries "DefaultProperties")
    let targets ← faulty (section? entries "SupportedTargets")
    let targets ← targets.mapM fun (name, entry) => return (name, ← target source name entry)
    return {
      canonicalName
      version := ⟨version⟩
      displayName := Value.field entries "DisplayName"
      maximumDeployment := Value.field entries "MaximumDeploymentTarget"
      platformName := Value.field defaults "PLATFORM_NAME"
      targets }
  | _ => .error (.settings source .notMapping)

end Settings

end SdkScout

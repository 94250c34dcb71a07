import SdkScout.Platform
import SdkScout.Text.Digit
import SdkScout.Version

/-! Names of SDK directories: `<platform><version>.sdk`. The version starts at the first decimal digit
of any script and may be missing. -/

namespace SdkScout

structure SdkPath where
  path : Path
  platform : Platform
  version : Option Version
  deriving DecidableEq

namespace SdkPath

def suffix : List Char := ".sdk".toList

/-- What stands before the suffix `.sdk`. -/
def stem? (name : List Char) : Option (List Char) :=
  if suffix.isSuffixOf name then some (name.take (name.length - suffix.length)) else none

/-- Splits before the first decimal digit. -/
def splitVersion (stem : List Char) : List Char × List Char :=
  (stem.takeWhile (!Text.isDecimalDigit ·), stem.dropWhile (!Text.isDecimalDigit ·))

def ofPath? (path : Path) : Option SdkPath :=
  (stem? path.name.toList).map fun stem =>
    let (platform, version) := splitVersion stem
    { path
      platform := ⟨String.ofList platform⟩
      version := if version = [] then none else some ⟨String.ofList version⟩ }

end SdkPath

end SdkScout

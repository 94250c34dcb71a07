import SdkScout.Failure

/-! Target platforms, identified by the name they have in directory names. -/

namespace SdkScout

/-- The platforms with a name of their own. -/
inductive KnownPlatform
  | appleTvOs
  | appleTvSimulator
  | driverKit
  | iphoneOs
  | iphoneSimulator
  | macOsx
  | watchOs
  | watchSimulator
  deriving DecidableEq, Repr

namespace KnownPlatform

def all : List KnownPlatform :=
  [appleTvOs, appleTvSimulator, driverKit, iphoneOs, iphoneSimulator, macOsx, watchOs,
    watchSimulator]

def name : KnownPlatform → String
  | appleTvOs => "AppleTVOS"
  | appleTvSimulator => "AppleTVSimulator"
  | driverKit => "DriverKit"
  | iphoneOs => "iPhoneOS"
  | iphoneSimulator => "iPhoneSimulator"
  | macOsx => "MacOSX"
  | watchOs => "WatchOS"
  | watchSimulator => "WatchSimulator"

/-- The upper-case word that stands for the platform where it is named symbolically. -/
def label : KnownPlatform → String
  | appleTvOs => "APPLE_TV_OS"
  | appleTvSimulator => "APPLE_TV_SIMULATOR"
  | driverKit => "DRIVER_KIT"
  | iphoneOs => "IPHONE_OS"
  | iphoneSimulator => "IPHONE_SIMULATOR"
  | macOsx => "MACOSX"
  | watchOs => "WATCH_OS"
  | watchSimulator => "WATCH_SIMULATOR"

def ofName? (name : String) : Option KnownPlatform :=
  all.find? (·.name = name)

def ofLabel? (label : String) : Option KnownPlatform :=
  all.find? (·.label = label)

/-- The lower-case form of a character, as far as it decides whether a text folds to a known
platform's name: the ASCII letters, and the kelvin sign, which folds to a `k`. -/
def foldChar (c : Char) : Char :=
  if c = '\u212A' then 'k' else c.toLower

def folded (text : String) : String :=
  String.ofList (text.toList.map foldChar)

/-- The platform with this name in any mixture of cases. -/
def ofFolded? (name : String) : Option KnownPlatform :=
  all.find? fun p => folded p.name = folded name

end KnownPlatform

structure Platform where
  name : String
  deriving DecidableEq, Repr

namespace Platform

def ofKnown (k : KnownPlatform) : Platform := ⟨k.name⟩

def known? (p : Platform) : Option KnownPlatform :=
  KnownPlatform.ofName? p.name

def isUnknown (p : Platform) : Bool :=
  p.known?.isNone

def directoryName (p : Platform) : String :=
  p.name ++ ".platform"

/-- The shown form: the label of a known platform, the quoted name of any other. -/
def shown (p : Platform) : String :=
  match p.known? with
  | some k => "ApplePlatform." ++ k.label
  | none => "ApplePlatform.unknown(" ++ Text.quote p.name ++ ")"

/-- A platform directory is named by a platform's name without dots, then `.platform`. -/
def ofDirectoryName? (name : String) : Option Platform :=
  let stem := name.toList.takeWhile (· ≠ '.')
  if name.toList.drop stem.length = ".platform".toList then some ⟨String.ofList stem⟩ else none

/-- The platform of a path whose last component names a platform directory. -/
def ofPath? (path : Path) : Option Platform :=
  ofDirectoryName? path.name

/-- The platform that names a directory, or the failure that shows the name. -/
def ofDirectoryName (name : String) : Except Failure Platform :=
  match ofDirectoryName? name with
  | some platform => .ok platform
  | none => .error (.notPlatform name)

/-- The platform of a path, or the failure that shows the whole path. -/
def ofPath (path : Path) : Except Failure Platform :=
  match ofPath? path with
  | some platform => .ok platform
  | none => .error (.notPlatform path.toString)

def platformsDirectory : Path.Component := ⟨"Platforms", by decide⟩

/-- The platform's directory under a developer directory. -/
def pathIn (p : Platform) (developer : Path) : Path :=
  (developer.child platformsDirectory).join (Path.ofString p.directoryName)

end Platform

end SdkScout

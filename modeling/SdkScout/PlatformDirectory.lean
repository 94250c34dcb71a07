import SdkScout.Platform

/-! Platform directories: `<developer directory>/Platforms/<name>.platform`. The platform is a
function of the path, so directories are compared by their paths. -/

namespace SdkScout

structure PlatformDirectory where
  path : Path
  platform : Platform
  deriving DecidableEq

namespace PlatformDirectory

def ofPath? (path : Path) : Option PlatformDirectory :=
  (Platform.ofPath? path).map fun platform => { path, platform }

def developer : Path.Component := ⟨"Developer", by decide⟩

def sdks : Path.Component := ⟨"SDKs", by decide⟩

/-- Where the platform's SDKs are. -/
def sdksPath (d : PlatformDirectory) : Path :=
  (d.path.child developer).child sdks

def sorted (ds : List PlatformDirectory) : List PlatformDirectory :=
  Path.sortOn path ds

end PlatformDirectory

end SdkScout

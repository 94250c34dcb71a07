import SdkScout.Failure
import SdkScout.Host
import SdkScout.Text.Utf8

/-! The surroundings in which SDKs are looked for: a tree of files with symbolic links, parts of which
the system may refuse to look at, environment variables, and the helper command that knows the active
developer directory. -/

namespace SdkScout

/-- What the system refuses to do with a directory: to open it for reading, to list what is in it, or
to go on from it to an entry. -/
structure Access where
  opening : Option Refusal := none
  listing : Option Refusal := none
  entering : Option Refusal := none
  deriving DecidableEq, Inhabited

/-- What keeps a directory from delivering its entries. It is opened first. -/
def Access.listingRefusal? (access : Access) : Option Refusal :=
  access.opening.or access.listing

/-- What a directory entry is. A directory delivers its entries in the order of the list; an entry
hides all later ones of its name. -/
inductive Node
  | file (content : Except Refusal (List UInt8))
  | link (target : String)
  | directory (access : Access) (entries : List (Path.Component × Node))
  /-- An entry of which the system refuses to say what it is. -/
  | sealed (refusal : Refusal)
  deriving Inhabited

/-- What happens when the helper command is run. -/
inductive HelperRun
  | notStarted (code : Nat)
  | exited (status : Int) (output : List UInt8)
  deriving DecidableEq

/-- Where the system keeps its developer tools. -/
structure Places where
  applications : Path
  xcodeApp : Path
  commandLineTools : Path
  deriving DecidableEq

def Places.standard : Places where
  applications := .ofString "/Applications"
  xcodeApp := .ofString "/Applications/Xcode.app"
  commandLineTools := .ofString "/Library/Developer/CommandLineTools"

structure World where
  root : Node
  /-- The working directory, as it is reached from the root. -/
  workingDirectory : List Path.Component
  places : Places
  environment : List (String × String)
  /-- Home directories by user name. -/
  homes : List (String × String)
  /-- The home directory on record for the user of the session. -/
  ownHome : Option String := none
  helper : HelperRun
  /-- What decoding files depends on. -/
  host : Host := {}

namespace Node

def entry? (name : String) (entries : List (Path.Component × Node)) : Option Node :=
  (entries.find? (·.1.text = name)).map (·.2)

/-- The names in a directory, each of them once. -/
def names (entries : List (Path.Component × Node)) : List Path.Component :=
  (entries.map (·.1)).eraseDups

def isFile : Node → Bool
  | .file _ => true
  | _ => false

def isLink : Node → Bool
  | .link _ => true
  | _ => false

end Node

/-- Why a path leads nowhere. -/
inductive Obstacle
  | missing
  | notDirectory
  | nameTooLong
  | tooManyLinks
  /-- A name with a NUL character names nothing. -/
  | unnameable
  | refused (refusal : Refusal)
  deriving DecidableEq

namespace Obstacle

def failure (path : String) : Obstacle → Failure
  | missing => .system ⟨2, path⟩
  | notDirectory => .system ⟨20, path⟩
  | nameTooLong => .system ⟨36, path⟩
  | tooManyLinks => .system ⟨40, path⟩
  | unnameable => .nulInPath
  | refused refusal => .system ⟨refusal.code, path⟩

/-- Whether a path that meets this obstacle counts as one that does not exist. -/
def isAbsence : Obstacle → Bool
  | nameTooLong | refused _ => false
  | _ => true

end Obstacle

/-- A path as the system walks it: the names to go by, of which a lone dot stays where it is and two
dots go up. A slash at the end asks for a directory, which the empty name stands for. -/
structure Route where
  absolute : Bool
  steps : List String

namespace Route

def ofString (text : String) : Route :=
  let cs := text.toList
  let names := ((cs.splitOn '/').filter (· ≠ [])).map String.ofList
  { absolute := cs.head? = some '/'
    steps := if cs.getLast? = some '/' then names ++ [""] else names }

end Route

namespace Node

def nameLimit : Nat := 255

def pathLimit : Nat := 4095

def linkLimit : Nat := 40

/-- Walks from a directory with its ancestors, innermost first. Every step but the empty one needs the
permission to go on from where it starts. What a link on the way leads to is left to `follow`; a link
at the end is followed only if asked for. -/
def walkWith (top : Node) (followLast : Bool)
    (follow : Node → List Node → List String → Except Obstacle Node) (here : Node)
    (above : List Node) : (steps : List String) → Except Obstacle Node
  | [] =>
    match here with
    | .sealed refusal => .error (.refused refusal)
    | _ => .ok here
  | name :: rest =>
    match here with
    | .directory access entries =>
      if name = "" then walkWith top followLast follow here above rest
      else
        match access.entering with
        | some refusal => .error (.refused refusal)
        | none =>
          if name = "." then walkWith top followLast follow here above rest
          else if name = ".." then
            match above with
            | [] => walkWith top followLast follow here [] rest
            | parent :: above => walkWith top followLast follow parent above rest
          else if nameLimit < name.utf8ByteSize then .error .nameTooLong
          else
            match entry? name entries with
            | none => .error .missing
            | some (.link target) =>
              if rest = [] ∧ followLast = false then .ok (.link target)
              else
                let route := Route.ofString target
                if route.absolute then follow top [] (route.steps ++ rest)
                else follow here above (route.steps ++ rest)
            | some node => walkWith top followLast follow node (here :: above) rest
    | .sealed refusal => .error (.refused refusal)
    | _ => .error .notDirectory

/-- Walks as `walkWith`, through a number of links at most. -/
def walk (top : Node) (followLast : Bool) :
    (links : Nat) → Node → List Node → List String → Except Obstacle Node
  | 0 => walkWith top followLast fun _ _ _ => .error .tooManyLinks
  | links + 1 => walkWith top followLast (walk top followLast links)

/-- The directory of a name in another one. One that is gone has nothing in it. -/
def subdirectory (c : Path.Component) : Node → Node
  | .directory _ entries =>
    match entry? c.text entries with
    | some (.directory access entries) => .directory access entries
    | _ => .directory {} []
  | _ => .directory {} []

/-- The directory that some names lead down to, with its ancestors. -/
def descend (here : Node) (above : List Node) : List Path.Component → Node × List Node
  | [] => (here, above)
  | c :: cs => descend (here.subdirectory c) (here :: above) cs

end Node

namespace World

def variableValue? (w : World) (name : String) : Option String :=
  w.environment.lookup name

/-- Where a walk starts, with the ancestors of that place: at the root, or at the working directory,
whatever may lie in the way to it. -/
def start (w : World) (route : Route) : Node × List Node :=
  if route.absolute then (w.root, []) else w.root.descend [] w.workingDirectory

/-- What a text leads to as a path. The empty text leads nowhere. -/
def find (w : World) (followLast : Bool) (text : String) : Except Obstacle Node :=
  if text.toList.contains '\x00' then .error .unnameable
  else if text = "" then .error .missing
  else if Node.pathLimit < text.utf8ByteSize then .error .nameTooLong
  else
    let route := Route.ofString text
    let (here, above) := w.start route
    Node.walk w.root followLast Node.linkLimit here above route.steps

/-- Whether a path leads to something of a kind. Only an obstacle that is no absence is an error. -/
def test (w : World) (followLast : Bool) (accept : Node → Bool) (path : Path) :
    Except Failure Bool :=
  match w.find followLast path.toString with
  | .ok node => .ok (accept node)
  | .error obstacle =>
    if obstacle.isAbsence then .ok false else .error (obstacle.failure path.toString)

def pathExists (w : World) (path : Path) : Except Failure Bool :=
  w.test true (fun _ => true) path

/-- Links are followed. -/
def isFile (w : World) (path : Path) : Except Failure Bool :=
  w.test true Node.isFile path

def isSymlink (w : World) (path : Path) : Except Failure Bool :=
  w.test false Node.isLink path

/-- The content of a file. A directory can be opened, if at all, but not read. -/
def read (w : World) (text : String) : Except Failure (List UInt8) :=
  match w.find true text with
  | .ok (.file (.ok content)) => .ok content
  | .ok (.file (.error refusal)) => .error (.system ⟨refusal.code, text⟩)
  | .ok (.directory access _) =>
    .error (.system ⟨(access.opening.map (·.code)).getD 21, text⟩)
  | .ok _ => .error (.system ⟨21, text⟩)
  | .error obstacle => .error (obstacle.failure text)

/-- The children of a directory, in the order in which it delivers them. -/
def children (w : World) (path : Path) : Except Failure (List Path) :=
  match w.find true path.toString with
  | .ok (.directory access entries) =>
    match access.listingRefusal? with
    | some refusal => .error (.system ⟨refusal.code, path.toString⟩)
    | none => .ok ((Node.names entries).map path.child)
  | .ok _ => .error (.system ⟨20, path.toString⟩)
  | .error obstacle => .error (obstacle.failure path.toString)

/-- The children of a directory; a directory that does not exist has none. -/
def childrenIfPresent (w : World) (path : Path) : Except Failure (List Path) :=
  match w.children path with
  | .error (.system ⟨2, _⟩) => .ok []
  | result => result

/-- The home directory that the first component of a path asks for: of the user of the session for a
lone tilde, else of the user it names. The variable goes before what is on record. -/
def home? (w : World) (component : String) : Option String :=
  if component = "~" then (w.variableValue? "HOME").or w.ownHome
  else w.homes.lookup (String.ofList (component.toList.drop 1))

/-- Replaces a leading tilde component by the home directory, without the slashes at its end. A home
directory that starts with a tilde is none, and nobody has a name with a NUL character. -/
def expandHome (w : World) (path : Path) : Except Failure Path :=
  match path.root, path.parts with
  | .relative, first :: rest =>
    if first.text.toList.head? = some '~' then
      if first.text.toList.contains '\x00' then .error .nulInPath
      else match w.home? first.text with
      | none => .error .unknownHome
      | some home =>
        let trimmed := (home.toList.reverse.dropWhile (· = '/')).reverse
        if trimmed.head? = some '~' then .error .unknownHome
        else
          let base := Path.ofString (if trimmed = [] then "/" else String.ofList trimmed)
          .ok (base.descend rest)
    else .ok path
  | _, _ => .ok path

end World

end SdkScout

import SdkScout.Host
import SdkScout.Plist.Fault
import SdkScout.Text.Utf16
import SdkScout.Value

/-! Binary property lists: objects that refer to each other by number, a table of their offsets, and a
trailer that says where the table is. All objects below the top one are read first, each of them once,
and then put together. -/

namespace SdkScout.Plist.Binary

abbrev Bytes := List UInt8

/-- The number that bytes denote, the first being the most significant. -/
def natOfBytes (bytes : Bytes) : Nat :=
  bytes.foldl (fun n b => 256 * n + b.toNat) 0

/-- The number that bytes denote in two's complement. -/
def intOfBytes (bytes : Bytes) : Int :=
  let n := natOfBytes bytes
  if bytes.head?.any (128 ≤ ·.toNat) then (n : Int) - Binary64.pow2 (8 * bytes.length) else n

/-- The longest byte string; with its header it has the largest size there is. -/
def bytesLimit : Nat := 9223372036854775774

/-- A fixed count of bytes, and those after them. A long enough request fails for want of memory,
however few bytes there are. -/
def take (host : Host) (count : Nat) (bytes : Bytes) : Except Fault (Bytes × Bytes) :=
  if bytesLimit < count then .error .malformed
  else if host.memory < count then .error .tooLarge
  else
    let taken := bytes.take count
    if taken.length = count then .ok (taken, bytes.drop count) else .error .malformed

/-- A count of numbers with a fixed width. -/
def numbers (host : Host) (width count : Nat) (bytes : Bytes) : Except Fault (List Nat) := do
  let (taken, _) ← take host (width * count) bytes
  if width = 0 then throw .malformed
  return (List.range count).map fun i => natOfBytes ((taken.drop (width * i)).take width)

/-- What the end of a document says about it. -/
structure Trailer where
  offsetWidth : Nat
  referenceWidth : Nat
  objectCount : Nat
  top : Nat
  table : Nat

def trailerLength : Nat := 32

def trailer? (bytes : Bytes) : Option Trailer :=
  if bytes.length < trailerLength then none
  else
    let t := bytes.drop (bytes.length - trailerLength)
    let field (start count : Nat) := natOfBytes ((t.drop start).take count)
    some {
      offsetWidth := field 6 1
      referenceWidth := field 7 1
      objectCount := field 8 8
      top := field 16 8
      table := field 24 8 }

/-- An object before its references are followed. -/
inductive Object
  | scalar (value : Value)
  | list (references : List Nat)
  | mapping (keys values : List Nat)

/-- The size of an object: the low half of its tag, or a number of its own behind the tag. -/
def size (host : Host) (low : Nat) (bytes : Bytes) : Except Fault (Nat × Bytes) :=
  if low ≠ 15 then .ok (low, bytes)
  else
    match bytes with
    | [] => .error .malformed
    | tag :: bytes => do
      let (n, rest) ← take host (Binary64.pow2 (tag.toNat % 4 : Nat)) bytes
      return (natOfBytes n, rest)

/-- The time that lies a number of seconds after 1 January 2001. -/
def time? : Binary64 → Option Timestamp
  | .finite negative m e =>
    let micros : Int := Binary64.divNearest (m * Binary64.pow2 e * 1000000) (Binary64.pow2 (-e))
    let epoch := Timestamp.instant ⟨⟨2001, 1, 1⟩, 0, 0, 0, 0, none⟩
    (Timestamp.ofInstant? (if negative then epoch - micros else epoch + micros))
  | _ => none

def asciiText? (bytes : Bytes) : Option String :=
  if bytes.all (·.toNat < 128) then some (String.ofList (bytes.map fun b => Char.ofNat b.toNat))
  else none

/-- What is there, or else the document is malformed. -/
def orMalformed : Option α → Except Fault α
  | some a => .ok a
  | none => .error .malformed

/-- The object at the start of the bytes. -/
def object (host : Host) (referenceWidth : Nat) : Bytes → Except Fault Object
  | [] => .error .malformed
  | tag :: bytes =>
    let high := tag.toNat / 16
    let low := tag.toNat % 16
    match high, low with
    | 0, 0 => .ok (.scalar .null)
    | 0, 8 => .ok (.scalar (.bool false))
    | 0, 9 => .ok (.scalar (.bool true))
    | 0, 15 => .ok (.scalar (.bytes []))
    | 1, low =>
      let n := bytes.take (Binary64.pow2 low)
      .ok (.scalar (.int (if 3 ≤ low then intOfBytes n else natOfBytes n)))
    | 2, 2 => do
      let (n, _) ← take host 4 bytes
      return .scalar (.float (.ofBits32 (natOfBytes n)))
    | 2, 3 => do
      let (n, _) ← take host 8 bytes
      return .scalar (.float (.ofBits64 (natOfBytes n)))
    | 3, 3 => do
      let (n, _) ← take host 8 bytes
      return .scalar (.time (← orMalformed (time? (.ofBits64 (natOfBytes n)))))
    | 4, low => do
      let (size, rest) ← size host low bytes
      let (data, _) ← take host size rest
      return .scalar (.bytes data)
    | 5, low => do
      let (size, rest) ← size host low bytes
      let (data, _) ← take host size rest
      return .scalar (.text (← orMalformed (asciiText? data)))
    | 6, low => do
      let (size, rest) ← size host low bytes
      let (data, _) ← take host (2 * size) rest
      return .scalar (.text (String.ofList (← orMalformed (Text.Utf16.decode? .big data))))
    | 8, low =>
      let n := natOfBytes (bytes.take (low + 1))
      if n < Binary64.pow2 64 then .ok (.scalar (.uid n)) else .error .malformed
    | 10, low => do
      let (size, rest) ← size host low bytes
      return .list (← numbers host referenceWidth size rest)
    | 13, low => do
      let (size, rest) ← size host low bytes
      let keys ← numbers host referenceWidth size rest
      let values ← numbers host referenceWidth size (rest.drop (referenceWidth * size))
      return .mapping keys values
    | _, _ => .error .malformed

/-- A document: its bytes, the offsets of its objects, and how wide references are. -/
structure Document where
  bytes : Bytes
  offsets : List Nat
  referenceWidth : Nat

namespace Document

def object (host : Host) (d : Document) (reference : Nat) : Except Fault Object := do
  let offset ← orMalformed d.offsets[reference]?
  Binary.object host d.referenceWidth (d.bytes.drop offset)

/-- Reads an object and all that lie below it, and adds them to those that have been read. An object
takes one call of the reader, and a list two more for what is in it. The value of an entry is read
before its key, and a collection is no key. -/
def visit (host : Host) (d : Document) :
    (frames : Nat) → (seen : List Nat) → (reference : Nat) → Except Fault (List Nat)
  | 0, _, _ => .error .tooDeep
  | frames + 1, seen, reference =>
    if reference ∈ seen then .ok seen
    else do
      let seen := reference :: seen
      match ← d.object host reference with
      | .scalar _ => return seen
      | .list references =>
        match frames with
        | frames + 2 => references.foldlM (visit host d frames) seen
        | _ => throw .tooDeep
      | .mapping keys values =>
        (keys.zip values).foldlM (fun seen (key, value) => do
          let seen ← visit host d frames seen value
          let seen ← visit host d frames seen key
          match ← d.object host key with
          | .scalar _ => return seen
          | _ => throw .malformed) seen

end Document

/-- What stands for a collection inside itself where it is no longer unfolded. -/
def Object.emptied : Object → Value
  | scalar value => value
  | list _ => .list []
  | mapping .. => .mapping []

/-- The value of an object, by following the references in it. A collection that holds itself is
unfolded a number of times. -/
def Document.value (host : Host) (d : Document) : (fuel unfold : Nat) → (path : List Nat) →
    (reference : Nat) → Except Fault Value
  | 0, _, _, _ => .error .malformed
  | fuel + 1, unfold, path, reference => do
    let object ← d.object host reference
    let again := path.contains reference
    if again && unfold = 0 then return object.emptied
    let (unfold, path) := if again then (unfold - 1, [reference]) else (unfold, reference :: path)
    match object with
    | .scalar value => return value
    | .list references => return .list (← references.mapM (d.value host fuel unfold path))
    | .mapping keys values =>
      let keys ← keys.mapM (d.value host fuel unfold path)
      let values ← values.mapM (d.value host fuel unfold path)
      return .mapping (Value.ofEntries (keys.zip values))

/-- Twice is deeper than settings are looked into. -/
def unfoldLimit : Nat := 2

/-- The document in some bytes, and the number of its top object. -/
def document (host : Host) (bytes : Bytes) : Except Fault (Document × Nat) := do
  let trailer ← orMalformed (trailer? bytes)
  if host.furthest < trailer.table then throw .malformed
  let offsets ← numbers host trailer.offsetWidth trailer.objectCount (bytes.drop trailer.table)
  return ({ bytes, offsets, referenceWidth := trailer.referenceWidth }, trailer.top)

def read (host : Host) (bytes : Bytes) : Except Fault Value := do
  let (d, top) ← document host bytes
  let _ ← d.visit host host.plistFrames [] top
  d.value host ((unfoldLimit + 1) * (d.offsets.length + 1)) unfoldLimit [] top

end SdkScout.Plist.Binary

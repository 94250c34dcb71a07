import SdkScout.Markup.Event
import SdkScout.Number.Literal
import SdkScout.Plist.Encoding
import SdkScout.Text.Base64
import SdkScout.Value

/-! XML property lists. Elements that the format does not know are passed over, and their content is
read as if it stood in their place; the last object outside of all collections is the document. -/

namespace SdkScout.Plist

/-- Where an object belongs: under a key of the collection around it, at its end, or nowhere else. -/
inductive Slot
  | entry (key : String)
  | item
  | document

/-- A collection that is still open, with its place in the collection around it. -/
inductive Frame
  | mapping (slot : Slot) (entries : List (Value × Value))
  | list (slot : Slot) (items : List Value)

/-- What has been read so far: the characters since the last opening tag, the key that waits for its
value, the open collections from the innermost on, and the document. -/
structure Reading where
  text : List Char
  key : Option String
  frames : List Frame
  document : Value

namespace Reading

def start : Reading := ⟨[], none, [], .null⟩

/-- The characters that have been read are used up. -/
def takeText (r : Reading) : List Char × Reading :=
  (r.text, { r with text := [] })

/-- The place of the next object. A waiting key is used up. -/
def slot (r : Reading) : Except Fault (Slot × Reading) :=
  match r.key, r.frames with
  | some _, [] => .error .outsideCollection
  | some key, .mapping .. :: _ => .ok (.entry key, { r with key := none })
  | some _, .list .. :: _ => .error .malformed
  | none, [] => .ok (.document, r)
  | none, .list .. :: _ => .ok (.item, r)
  | none, .mapping .. :: _ => .error .malformed

/-- Puts an object into its place. -/
def put (r : Reading) (slot : Slot) (value : Value) : Reading :=
  match slot, r.frames with
  | .entry key, .mapping slot entries :: frames =>
    { r with frames := .mapping slot (Value.insertEntry (.text key) value entries) :: frames }
  | .item, .list slot items :: frames => { r with frames := .list slot (items ++ [value]) :: frames }
  | _, _ => { r with document := value }

def add (r : Reading) (value : Value) : Except Fault Reading := do
  let (slot, r) ← r.slot
  return r.put slot value

/-- Whether a key waits for its value. An empty key does not count. -/
def keyWaits (r : Reading) : Bool :=
  r.key.any (· ≠ "")

def openMapping (r : Reading) : Except Fault Reading := do
  let (slot, r) ← r.slot
  return { r with frames := .mapping slot [] :: r.frames }

def openList (r : Reading) : Except Fault Reading := do
  let (slot, r) ← r.slot
  return { r with frames := .list slot [] :: r.frames }

/-- Ends the innermost collection and puts it where it was opened. -/
def close (r : Reading) : Except Fault Reading :=
  match r.frames with
  | .mapping slot entries :: frames => .ok ({ r with frames }.put slot (.mapping entries))
  | .list slot items :: frames => .ok ({ r with frames }.put slot (.list items))
  | [] => .error .outsideCollection

def endKey (r : Reading) : Except Fault Reading :=
  if r.keyWaits then .error .malformed
  else
    match r.frames with
    | [] => .error .outsideCollection
    | .list .. :: _ => .error .malformed
    | .mapping .. :: _ =>
      let (text, r) := r.takeText
      .ok { r with key := some (String.ofList text) }

end Reading

/-- An integer, hexadecimal if it starts with `0x`. -/
def readInteger (cs : List Char) : Except Fault Int :=
  if "0x".toList.isPrefixOf cs || "0X".toList.isPrefixOf cs then
    match Number.hexInteger? cs with
    | some n => .ok n
    | none => .error .malformed
  else (Number.decimalInteger cs).mapError fun _ => .malformed

/-- Reads a number with a fixed count of digits. -/
def fixedNumber? (count : Nat) (cs : List Char) : Option (Nat × List Char) :=
  let digits := cs.take count
  if digits.length = count ∧ digits.all Char.isDigit then
    some (Text.natOfDigits digits, cs.drop count)
  else none

/-- Two-digit numbers, each behind the next of some marks, as far as they go; and the rest. -/
def dateParts (marks : List Char) (cs : List Char) : List Nat × List Char :=
  match marks, cs with
  | mark :: marks, c :: rest =>
    match if c = mark then fixedNumber? 2 rest else none with
    | some (n, rest) =>
      let (parts, rest) := dateParts marks rest
      (n :: parts, rest)
    | none => ([], cs)
  | _, cs => ([], cs)

/-- A date and a time at the start of a text, as far as they go, ended by a `Z`. -/
def readDate (cs : List Char) : Except Fault Timestamp :=
  match fixedNumber? 4 cs with
  | none => .error .notDate
  | some (year, rest) =>
    match dateParts ['-', '-', 'T', ':', ':'] rest with
    | (parts, 'Z' :: _) =>
      match parts with
      | month :: day :: time =>
        let t : Timestamp :=
          { date := ⟨year, month, day⟩
            hour := time.getD 0 0
            minute := time.getD 1 0
            second := time.getD 2 0
            microsecond := 0
            offset := none }
        if t.isValid then .ok t else .error .malformed
      | _ => .error .incompleteDate
    | _ => .error .notDate

/-- What the end of an element adds. Elements without a meaning add nothing. -/
def closeElement (name : String) (r : Reading) : Except Fault Reading :=
  let (text, taken) := r.takeText
  match name with
  | "dict" => if r.keyWaits then .error .malformed else r.close
  | "array" => r.close
  | "key" => r.endKey
  | "true" => r.add (.bool true)
  | "false" => r.add (.bool false)
  | "string" => taken.add (.text (String.ofList text))
  | "integer" => do taken.add (.int (← readInteger text))
  | "real" =>
    match Number.float? text with
    | some x => taken.add (.float x)
    | none => .error .malformed
  | "data" =>
    match Text.Base64.decode? text with
    | some bytes => taken.add (.bytes bytes)
    | none => .error .malformed
  | "date" => do taken.add (.time (← readDate text))
  | _ => .ok r

def step (r : Reading) : Markup.Event → Except Fault Reading
  | .text chars => .ok { r with text := r.text ++ chars }
  | .entity => .error .malformed
  | .opened name =>
    let r := { r with text := [] }
    match String.ofList name with
    | "dict" => r.openMapping
    | "array" => r.openList
    | _ => .ok r
  | .closed name => closeElement (String.ofList name) r

/-- The object of a document. A fault in an element counts before a later fault of form. -/
def ofEvents (events : Markup.Events) : Except Fault Value := do
  let r ← events.list.foldlM step .start
  if events.wellFormed then return r.document else .error .malformed

def readXml (host : Host) (bytes : List UInt8) : Except Fault Value := do
  ofEvents (Markup.events (← decode host bytes))

end SdkScout.Plist

import SdkScout.Host
import SdkScout.Markup.Syntax
import SdkScout.Plist.Fault
import SdkScout.Text.Utf16
import SdkScout.Text.Utf8

/-! The characters of an XML property list. A byte order mark or the XML declaration names the
encoding; without either it is UTF-8. A few encodings are built in, and any other of single bytes is
looked up by its name. A byte that encodes nothing becomes a NUL character, which no document may
hold. -/

namespace SdkScout.Plist

inductive Encoding
  | utf8
  | utf16 (order : Text.Utf16.Order)
  | latin1
  | ascii
  /-- The characters of all bytes in order. -/
  | table (chars : List Char)
  deriving DecidableEq, Repr

namespace Encoding

def decode (bytes : List UInt8) : Encoding → List Char
  | utf8 => (Text.Utf8.decodeParts bytes).map (·.getD '\x00')
  | utf16 order => (Text.Utf16.decodeParts order bytes).map (·.getD '\x00')
  | latin1 => bytes.map fun b => Char.ofNat b.toNat
  | ascii => bytes.map fun b => if b.toNat < 0x80 then Char.ofNat b.toNat else '\x00'
  | table chars => bytes.map fun b => chars.getD b.toNat '\x00'

/-- Whether a character takes part in the syntax of a document: white space and visible ASCII, except
for a few marks. -/
def isSyntax (c : Char) : Bool :=
  c = '\t' || c = '\n' || c = '\r' ||
    (' ' ≤ c && c < '\x7f' && !"$@\\^`\x7b\x7d~".toList.contains c)

/-- Whether an encoding may have a character for a byte: all syntax has the bytes of ASCII, and no
character lies beyond the first plane. -/
def fits (byte : Nat) (c : Char) : Bool :=
  c.toNat ≤ 0xffff && (c.toNat = byte || !(isSyntax c || isSyntax (Char.ofNat byte)))

/-- The encoding of single bytes that the host knows by a name. A replacement character stands for
each byte that encodes nothing. -/
def looked (host : Host) (name : List Char) : Except Fault Encoding :=
  match host.encoding name with
  | none => .error .unknownEncoding
  | some chars =>
    if chars.length = 256 && (chars.zipIdx.all fun (c, byte) => fits byte c) then
      .ok (.table (chars.map fun c => if c = '\uFFFD' then '\x00' else c))
    else .error .malformed

/-- The encodings that need no looking up. -/
def builtIn? (name : List Char) : Option Encoding :=
  match String.ofList (name.map Char.toUpper) with
  | "UTF-8" => some utf8
  | "ISO-8859-1" => some latin1
  | "US-ASCII" => some ascii
  | "UTF-16" | "UTF-16BE" => some (utf16 .big)
  | "UTF-16LE" => some (utf16 .little)
  | _ => none

end Encoding

/-- The name of the encoding in the declaration at the start of a document, and what follows the
declaration. -/
def declaredEncoding? (cs : List Char) : Option (List Char × List Char) := do
  let rest ← Markup.after? "<?xml".toList cs
  let (declaration, rest) ← Markup.declaration? rest
  return (← declaration.encoding, rest)

/-- The characters of a document of single bytes. -/
def decodeNarrow (host : Host) (bytes : List UInt8) : Except Fault (List Char) :=
  match declaredEncoding? (Encoding.latin1.decode bytes) with
  | none => .ok (Encoding.utf8.decode bytes)
  | some (name, _) =>
    match Encoding.builtIn? name with
    | some (.utf16 _) => .error .malformed
    | some encoding => .ok (encoding.decode bytes)
    | none => do return (← Encoding.looked host name).decode bytes

/-- The characters of a document of two-byte units. Its declaration may name their encoding, or one of
single bytes that what follows the declaration is in. -/
def decodeWide (host : Host) (order : Text.Utf16.Order) (bytes : List UInt8) :
    Except Fault (List Char) :=
  let cs := (Encoding.utf16 order).decode bytes
  match declaredEncoding? cs with
  | none => .ok cs
  | some (name, rest) =>
    if name.map Char.toUpper = "UTF-16".toList then .ok cs
    else
      match Encoding.builtIn? name with
      | some encoding => if encoding = .utf16 order then .ok cs else .error .malformed
      | none => do
        let units := cs.length - rest.length
        return cs.take units ++ (← Encoding.looked host name).decode (bytes.drop (2 * units))

/-- The characters of a document after its byte order mark. -/
def decode (host : Host) : List UInt8 → Except Fault (List Char)
  | 0xfe :: 0xff :: rest => decodeWide host .big rest
  | 0xff :: 0xfe :: rest => decodeWide host .little rest
  | 0xef :: 0xbb :: 0xbf :: rest => decodeNarrow host rest
  | bytes => decodeNarrow host bytes

end SdkScout.Plist

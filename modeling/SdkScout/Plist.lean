import SdkScout.Plist.Binary
import SdkScout.Plist.Xml

/-! Property lists, in whichever of the two forms the first bytes announce. -/

namespace SdkScout.Plist

def headerLength : Nat := 32

/-- ASCII characters in an encoding of two-byte units. -/
def wide (order : Text.Utf16.Order) (bytes : List UInt8) : List UInt8 :=
  bytes.flatMap fun b =>
    match order with
    | .big => [0, b]
    | .little => [b, 0]

/-- What an XML document may start with, in each encoding. -/
def xmlHeaders : List (List UInt8) :=
  ["<?xml", "<plist"].flatMap fun text =>
    let bytes := Text.Utf8.encode text.toList
    [bytes, 0xef :: 0xbb :: 0xbf :: bytes, 0xfe :: 0xff :: wide .big bytes,
      0xff :: 0xfe :: wide .little bytes]

def read (host : Host) (bytes : List UInt8) : Except Fault Value :=
  let header := bytes.take headerLength
  if xmlHeaders.any (·.isPrefixOf header) then readXml host bytes
  else if (Text.Utf8.encode "bplist00".toList).isPrefixOf header then Binary.read host bytes
  else .error .malformed

end SdkScout.Plist

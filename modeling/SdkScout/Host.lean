/-! What decoding depends on beyond the document: how deep the readers of nested documents can go, how
many bytes can be had at once, how far a file can reach, and the character encodings that are known by
name. -/

namespace SdkScout

structure Host where
  /-- How many collections of a JSON document may lie within each other. -/
  jsonDepth : Nat := 900
  /-- How many calls within each other the reader of binary property lists can make. -/
  plistFrames : Nat := 900
  /-- The most bytes that can be had at once. -/
  memory : Nat := 17179869184
  /-- The furthest position that a file can have. -/
  furthest : Nat := 9223372036854775807
  /-- What the encoding of a name makes of all bytes in order, with a replacement character for each
  that encodes nothing; nothing if there is no encoding of that name. -/
  encoding : List Char → Option (List Char) := fun _ => none

end SdkScout

/-! Why a YAML document is refused. A document can be well formed and still hold a scalar that its tag
gives no value to; these faults are told apart by the tag. -/

namespace SdkScout.Yaml

inductive Fault
  /-- Any fault of form: of characters, tokens, structure, anchors, tags and keys. -/
  | malformed
  /-- A scalar tagged as an integer that is none, or has too many digits. -/
  | badInteger
  /-- A scalar tagged as a number that is empty. -/
  | emptyNumber
  /-- A scalar tagged as a floating-point number that is none. -/
  | badFloat
  /-- A floating-point number with more places of base sixty than there are magnitudes. -/
  | tooManyPlaces
  /-- A scalar tagged as a truth value that is none. -/
  | badBoolean
  /-- A scalar tagged as a time stamp that does not have the form of one. -/
  | notTimestamp
  /-- A time stamp with a component out of range. -/
  | badTimestamp
  /-- An escaped character number beyond the last character. -/
  | badCharacterNumber
  /-- Collections that lie deeper within each other than the reader can go. -/
  | nestedTooDeep
  deriving DecidableEq, Repr

end SdkScout.Yaml

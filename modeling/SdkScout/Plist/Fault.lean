/-! Why a property list is refused. Most documents that are refused are malformed; a few kinds of
broken documents are told apart from these. -/

namespace SdkScout.Plist

inductive Fault
  /-- Any fault without a kind of its own. -/
  | malformed
  /-- A document that declares a character encoding nobody knows. -/
  | unknownEncoding
  /-- A date element whose text does not start with a date. -/
  | notDate
  /-- A date that breaks off before its day. -/
  | incompleteDate
  /-- A key, or a value for a key, outside of every collection. -/
  | outsideCollection
  /-- Objects lie deeper within each other than the reader can go. -/
  | tooDeep
  /-- A document asks for more bytes at once than there is memory. -/
  | tooLarge
  deriving DecidableEq, Repr

end SdkScout.Plist

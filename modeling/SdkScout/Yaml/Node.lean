import SdkScout.Yaml.Schema
import SdkScout.Yaml.Timestamp
import SdkScout.Yaml.Token

/-! The tree of a YAML document: scalars, lists and mappings with their tags. An alias stands for the
node of its anchor; inside of that node it is a node of its own, since trees have no cycles. -/

namespace SdkScout.Yaml

inductive Node
  | scalar (tag : Tag) (text : String)
  | list (tag : Tag) (items : List Node)
  | mapping (tag : Tag) (entries : List (Node × Node))
  /-- A list inside itself. -/
  | innerList
  /-- A mapping inside itself. -/
  | innerMapping
  deriving Inhabited

namespace Node

/-- What an anchor stands for: a node that has been read, or one that is being read. -/
abbrev Anchors := List (String × Node)

/-- Tag handles and what they stand for. -/
abbrev Handles := List (String × String)

def defaultHandles : Handles :=
  [("!", "!"), ("!!", Tag.domain)]

/-- The properties of a node as they are written. -/
structure Properties where
  anchor : Option String
  tag : Option String
  deriving DecidableEq

/-- A written tag that asks for the tag of a plain scalar. -/
def nonspecific : String := "!"

def tagUri? (handles : Handles) (handle : Option String) (suffix : String) : Option String :=
  match handle with
  | none => some suffix
  | some handle => (handles.lookup handle).map (· ++ suffix)

/-- An anchor and a tag in either order, each of which may be missing. -/
def takeProperties (handles : Handles) : List Token → Except Fault (Properties × List Token)
  | .anchor name :: .tag handle suffix :: rest | .tag handle suffix :: .anchor name :: rest =>
    match tagUri? handles handle suffix with
    | some uri => .ok (⟨some name, some uri⟩, rest)
    | none => .error .malformed
  | .anchor name :: rest => .ok (⟨some name, none⟩, rest)
  | .tag handle suffix :: rest =>
    match tagUri? handles handle suffix with
    | some uri => .ok (⟨none, some uri⟩, rest)
    | none => .error .malformed
  | rest => .ok (⟨none, none⟩, rest)

/-- The tag of a collection: the one that is written, or that of its kind. -/
def collectionTag (kind : Tag) (tag : Option String) : Tag :=
  match tag with
  | none => kind
  | some uri => if uri = nonspecific then kind else .ofUri uri

/-- The tag of a scalar: the one that is written, or the one that it has by its form if it is plain. -/
def scalarTag (plain : Bool) (text : String) (tag : Option String) : Tag :=
  match tag with
  | none => if plain then Schema.implicitTag text.toList else .str
  | some uri => if uri = nonspecific then Schema.implicitTag text.toList else .ofUri uri

/-- An anchor may be set once. -/
def bind (anchor : Option String) (node : Node) (anchors : Anchors) : Except Fault Anchors :=
  match anchor with
  | none => .ok anchors
  | some name =>
    if (anchors.lookup name).isSome then .error .malformed else .ok ((name, node) :: anchors)

/-- Replaces what stands for a node while it is read by the node. -/
def rebind (anchor : Option String) (node : Node) (anchors : Anchors) : Anchors :=
  match anchor with
  | none => anchors
  | some name => anchors.map fun entry => if entry.1 = name then (name, node) else entry

def empty : Node := .scalar .null ""

/-- What is left after a node: the tokens and the anchors. -/
structure Read (α : Type) where
  result : α
  tokens : List Token
  anchors : Anchors

/-- Where a node stands, which decides what may start it and what may follow it. -/
inductive Context
  /-- A block collection may start here. -/
  | block
  /-- So may a list whose entries are not indented. -/
  | blockOrEntries
  | flow
  deriving DecidableEq

/-- Whether the next token is one of those before which a node is left out. -/
def startsWith (tokens : List Token) (omitted : List Token) : Bool :=
  tokens.head?.any omitted.contains

mutual
/-- A node with its properties. -/
def readNode (handles : Handles) (context : Context) : (fuel : Nat) → List Token → Anchors →
    Except Fault (Read Node)
  | 0, _, _ => .error .malformed
  | _ + 1, .alias name :: rest, anchors =>
    match anchors.lookup name with
    | some node => .ok ⟨node, rest, anchors⟩
    | none => .error .malformed
  | fuel + 1, tokens, anchors => do
    let (properties, tokens) ← takeProperties handles tokens
    let anchor := properties.anchor
    let listTag := collectionTag .list properties.tag
    let mappingTag := collectionTag .mapping properties.tag
    let asList (read : Anchors → Except Fault (Read (List Node))) : Except Fault (Read Node) := do
      let r ← read (← bind anchor .innerList anchors)
      let node := Node.list listTag r.result
      return ⟨node, r.tokens, rebind anchor node r.anchors⟩
    let asMapping (read : Anchors → Except Fault (Read (List (Node × Node)))) :
        Except Fault (Read Node) := do
      let r ← read (← bind anchor .innerMapping anchors)
      let node := Node.mapping mappingTag r.result
      return ⟨node, r.tokens, rebind anchor node r.anchors⟩
    let asScalar (plain : Bool) (text : String) (rest : List Token) : Except Fault (Read Node) := do
      let node := Node.scalar (scalarTag plain text properties.tag) text
      return ⟨node, rest, ← bind anchor node anchors⟩
    match tokens, context with
    | .blockEntry :: _, .blockOrEntries => asList (readEntries handles fuel tokens)
    | .scalar text plain :: rest, _ => asScalar plain text rest
    | .flowListStart :: rest, _ => asList (readFlowItems handles true fuel rest)
    | .flowMappingStart :: rest, _ => asMapping (readFlowPairs handles true fuel rest)
    | .blockListStart :: rest, .block | .blockListStart :: rest, .blockOrEntries =>
      asList (readBlockItems handles fuel rest)
    | .blockMappingStart :: rest, .block | .blockMappingStart :: rest, .blockOrEntries =>
      asMapping (readBlockPairs handles fuel rest)
    | rest, _ =>
      if properties.anchor.isSome || properties.tag.isSome then asScalar true "" rest
      else .error .malformed

/-- A node, or the empty node before one of some tokens. -/
def readOptional (handles : Handles) (context : Context) (omitted : List Token) : (fuel : Nat) →
    List Token → Anchors → Except Fault (Read Node)
  | 0, _, _ => .error .malformed
  | fuel + 1, tokens, anchors =>
    if startsWith tokens omitted then .ok ⟨empty, tokens, anchors⟩
    else readNode handles context fuel tokens anchors

/-- The entries of a list that are not indented. Whatever else follows ends them. -/
def readEntries (handles : Handles) : (fuel : Nat) → List Token → Anchors →
    Except Fault (Read (List Node))
  | fuel + 1, .blockEntry :: rest, anchors => do
    let item ← readOptional handles .block [.blockEntry, .key, .value, .blockEnd] fuel rest anchors
    let items ← readEntries handles fuel item.tokens item.anchors
    return { items with result := item.result :: items.result }
  | 0, _, _ => .error .malformed
  | _, tokens, anchors => .ok ⟨[], tokens, anchors⟩

/-- The items of a block list up to its end. -/
def readBlockItems (handles : Handles) : (fuel : Nat) → List Token → Anchors →
    Except Fault (Read (List Node))
  | fuel + 1, .blockEntry :: rest, anchors => do
    let item ← readOptional handles .block [.blockEntry, .blockEnd] fuel rest anchors
    let items ← readBlockItems handles fuel item.tokens item.anchors
    return { items with result := item.result :: items.result }
  | _ + 1, .blockEnd :: rest, anchors => .ok ⟨[], rest, anchors⟩
  | _, _, _ => .error .malformed

/-- The pairs of a block mapping up to its end. -/
def readBlockPairs (handles : Handles) : (fuel : Nat) → List Token → Anchors →
    Except Fault (Read (List (Node × Node)))
  | fuel + 1, .key :: rest, anchors => do
    let omitted : List Token := [.key, .value, .blockEnd]
    let key ← readOptional handles .blockOrEntries omitted fuel rest anchors
    let value ←
      match key.tokens with
      | .value :: rest => readOptional handles .blockOrEntries omitted fuel rest key.anchors
      | tokens => .ok ⟨empty, tokens, key.anchors⟩
    let pairs ← readBlockPairs handles fuel value.tokens value.anchors
    return { pairs with result := (key.result, value.result) :: pairs.result }
  | _ + 1, .blockEnd :: rest, anchors => .ok ⟨[], rest, anchors⟩
  | _, _, _ => .error .malformed

/-- The items of a flow list up to its bracket. A pair among them is a mapping of its own. -/
def readFlowItems (handles : Handles) (first : Bool) : (fuel : Nat) → List Token → Anchors →
    Except Fault (Read (List Node))
  | 0, _, _ => .error .malformed
  | fuel + 1, tokens, anchors =>
    match tokens with
    | .flowListEnd :: rest => .ok ⟨[], rest, anchors⟩
    | tokens => do
      let tokens ←
        match first, tokens with
        | true, tokens => Except.ok tokens
        | false, .flowEntry :: rest => Except.ok rest
        | false, _ => Except.error Fault.malformed
      match tokens with
      | .flowListEnd :: rest => return ⟨[], rest, anchors⟩
      | .key :: rest => do
        let key ← readOptional handles .flow [.value, .flowEntry, .flowListEnd] fuel rest anchors
        let value ←
          match key.tokens with
          | .value :: rest =>
            readOptional handles .flow [.flowEntry, .flowListEnd] fuel rest key.anchors
          | tokens => .ok ⟨empty, tokens, key.anchors⟩
        let items ← readFlowItems handles false fuel value.tokens value.anchors
        let item := Node.mapping .mapping [(key.result, value.result)]
        return { items with result := item :: items.result }
      | tokens => do
        let item ← readNode handles .flow fuel tokens anchors
        let items ← readFlowItems handles false fuel item.tokens item.anchors
        return { items with result := item.result :: items.result }

/-- The pairs of a flow mapping up to its bracket. A node alone is a key. -/
def readFlowPairs (handles : Handles) (first : Bool) : (fuel : Nat) → List Token → Anchors →
    Except Fault (Read (List (Node × Node)))
  | 0, _, _ => .error .malformed
  | fuel + 1, tokens, anchors =>
    match tokens with
    | .flowMappingEnd :: rest => .ok ⟨[], rest, anchors⟩
    | tokens => do
      let tokens ←
        match first, tokens with
        | true, tokens => Except.ok tokens
        | false, .flowEntry :: rest => Except.ok rest
        | false, _ => Except.error Fault.malformed
      match tokens with
      | .flowMappingEnd :: rest => return ⟨[], rest, anchors⟩
      | .key :: rest => do
        let key ← readOptional handles .flow [.value, .flowEntry, .flowMappingEnd] fuel rest anchors
        let value ←
          match key.tokens with
          | .value :: rest =>
            readOptional handles .flow [.flowEntry, .flowMappingEnd] fuel rest key.anchors
          | tokens => .ok ⟨empty, tokens, key.anchors⟩
        let pairs ← readFlowPairs handles false fuel value.tokens value.anchors
        return { pairs with result := (key.result, value.result) :: pairs.result }
      | tokens => do
        let key ← readNode handles .flow fuel tokens anchors
        let pairs ← readFlowPairs handles false fuel key.tokens key.anchors
        return { pairs with result := (key.result, empty) :: pairs.result }
end

/-- The directives before a document: at most one version, which has to be 1.x, and handles that are
declared once. -/
def readDirectives : (version : Bool) → (handles : Handles) → List Token →
    Except Fault (Handles × List Token)
  | version, handles, .directive (.version major) :: rest =>
    if version || major ≠ 1 then .error .malformed else readDirectives true handles rest
  | version, handles, .directive (.tag handle expansion) :: rest =>
    if (handles.lookup handle).isSome then .error .malformed
    else readDirectives version ((handle, expansion) :: handles) rest
  | version, handles, .directive .other :: rest => readDirectives version handles rest
  | _, handles, tokens => .ok (handles, tokens)

/-- What may follow a document and ends the text. -/
def isEnd (tokens : List Token) : Bool :=
  tokens.dropWhile (· = .documentEnd) = [.streamEnd]

/-- The node of a text with at most one document. -/
def ofTokens (tokens : List Token) : Except Fault (Option Node) := do
  let fuel := 2 * tokens.length + 2
  match tokens with
  | [.streamEnd] => return none
  | .directive _ :: _ | .documentStart :: _ =>
    let (handles, tokens) ← readDirectives false [] tokens
    let .documentStart :: tokens := tokens | throw .malformed
    let r ← readOptional (handles ++ defaultHandles) .block
      [.documentStart, .documentEnd, .streamEnd] fuel tokens []
    if isEnd r.tokens then return some r.result else throw .malformed
  | tokens =>
    let r ← readNode defaultHandles .block fuel tokens []
    if isEnd r.tokens then return some r.result else throw .malformed

end Node

end SdkScout.Yaml

import IntegrationBuild.Yaml.Scalar
import IntegrationBuild.Yaml.Token

/-!
Nodes of a YAML document.  Every node has a tag, given or found from its form;
an alias stands for a copy of the node it names, and inside that node for the
way back to it.
-/

namespace IntegrationBuild.Yaml

/-- A node of a document. -/
inductive Node where
  | scalar (tag : Tag) (text : String)
  | sequence (tag : Tag) (items : List Node)
  | mapping (tag : Tag) (entries : List (Node × Node))
  | back (anchor : String)
deriving Inhabited, Repr

/-- What the reading of nodes carries along: the nodes that have an anchor and
the anchors that are under way. -/
structure NodeState where
  tokens : List Token
  handles : List (String × String)
  anchored : List (String × Node) := []
  underWay : List String := []
deriving Inhabited

namespace NodeState

/-- The next token. -/
def next (s : NodeState) : Token :=
  s.tokens.headD .streamEnd

/-- Steps over one token. -/
def step (s : NodeState) : NodeState :=
  { s with tokens := s.tokens.drop 1 }

/-- Whether the next token is one of the given ones. -/
def isAt (s : NodeState) (tokens : List Token) : Bool :=
  tokens.contains s.next

end NodeState

/-- The properties of a node: an anchor and a tag, in either order. -/
structure Properties where
  anchor : Option String := none
  tag : Option String := none
deriving Inhabited

/-- The full name of a tag. -/
def expandTag (handles : List (String × String)) (handle : Option String) (suffix : String) :
    Option String :=
  match handle with
  | none => some suffix
  | some handle => (handles.lookup handle).map (· ++ suffix)

/-- Reads the properties of a node. -/
def readProperties (s : NodeState) : Option (Properties × NodeState) :=
  match s.tokens with
  | .anchor anchor :: .tag handle suffix :: rest => do
    let tag ← expandTag s.handles handle suffix
    some ({ anchor := some anchor, tag := some tag }, { s with tokens := rest })
  | .anchor anchor :: rest => some ({ anchor := some anchor }, { s with tokens := rest })
  | .tag handle suffix :: .anchor anchor :: rest => do
    let tag ← expandTag s.handles handle suffix
    some ({ anchor := some anchor, tag := some tag }, { s with tokens := rest })
  | .tag handle suffix :: rest => do
    let tag ← expandTag s.handles handle suffix
    some ({ tag := some tag }, { s with tokens := rest })
  | _ => some ({}, s)

/-- The tag of a collection. -/
def collectionTag (properties : Properties) (default : Tag) : Tag :=
  match properties.tag with
  | none => default
  | some "!" => default
  | some name => .ofName name

/-- The tag of a scalar. -/
def scalarTag (properties : Properties) (text : String) (plain : Bool) : Tag :=
  match properties.tag with
  | none => if plain then plainTag text else .text
  | some "!" => plainTag text
  | some name => .ofName name

/-- An empty plain scalar. -/
def emptyNode : Node :=
  .scalar .null ""

/-- Where a node stands, which decides the collections it may be. -/
inductive Place where
  | block
  | blockOrIndentless
  | flow
deriving DecidableEq

/-- Properties without content make an empty scalar. -/
def emptyContent (properties : Properties) (s : NodeState) : Option (Node × NodeState) :=
  if properties.anchor.isSome || properties.tag.isSome then
    some (.scalar (scalarTag properties "" true) "", s)
  else none

mutual

/-- Reads a node. -/
def readNode (place : Place) : Nat → NodeState → Option (Node × NodeState)
  | 0, _ => none
  | fuel + 1, s =>
    match s.next with
    | .alias name =>
      match s.anchored.lookup name with
      | some node => some (node, s.step)
      | none => if s.underWay.contains name then some (.back name, s.step) else none
    | _ => do
      let (properties, s) ← readProperties s
      let s ←
        match properties.anchor with
        | none => some s
        | some name =>
          if s.underWay.contains name || (s.anchored.lookup name).isSome then none
          else some { s with underWay := name :: s.underWay }
      let (node, s) ← readContent place fuel properties s
      match properties.anchor with
      | none => some (node, s)
      | some name =>
        some (node, { s with anchored := (name, node) :: s.anchored
                             underWay := s.underWay.erase name })

/-- Reads the content of a node after its properties. -/
def readContent (place : Place) : Nat → Properties → NodeState → Option (Node × NodeState)
  | 0, _, _ => none
  | fuel + 1, properties, s =>
    match s.next with
    | .blockEntry =>
      if place == .blockOrIndentless then do
        let (items, s) ← readIndentless fuel s []
        some (.sequence (collectionTag properties .sequence) items, s)
      else emptyContent properties s
    | .scalar text plain => some (.scalar (scalarTag properties text plain) text, s.step)
    | .flowSequenceStart => do
      let (items, s) ← readFlowSequence fuel true s.step []
      some (.sequence (collectionTag properties .sequence) items, s)
    | .flowMappingStart => do
      let (entries, s) ← readFlowMapping fuel true s.step []
      some (.mapping (collectionTag properties .mapping) entries, s)
    | .blockSequenceStart =>
      if place == .flow then emptyContent properties s
      else do
        let (items, s) ← readBlockSequence fuel s.step []
        some (.sequence (collectionTag properties .sequence) items, s)
    | .blockMappingStart =>
      if place == .flow then emptyContent properties s
      else do
        let (entries, s) ← readBlockMapping fuel s.step []
        some (.mapping (collectionTag properties .mapping) entries, s)
    | _ => emptyContent properties s

/-- Reads the entries of a block sequence and its end. -/
def readBlockSequence : Nat → NodeState → List Node → Option (List Node × NodeState)
  | 0, _, _ => none
  | fuel + 1, s, acc =>
    match s.next with
    | .blockEntry =>
      let s := s.step
      if s.isAt [.blockEntry, .blockEnd] then readBlockSequence fuel s (emptyNode :: acc)
      else do
        let (node, s) ← readNode .block fuel s
        readBlockSequence fuel s (node :: acc)
    | .blockEnd => some (acc.reverse, s.step)
    | _ => none

/-- Reads the entries of a sequence that is indented like its key. -/
def readIndentless : Nat → NodeState → List Node → Option (List Node × NodeState)
  | 0, _, _ => none
  | fuel + 1, s, acc =>
    match s.next with
    | .blockEntry =>
      let s := s.step
      if s.isAt [.blockEntry, .key, .value, .blockEnd] then
        readIndentless fuel s (emptyNode :: acc)
      else do
        let (node, s) ← readNode .block fuel s
        readIndentless fuel s (node :: acc)
    | _ => some (acc.reverse, s)

/-- Reads the entries of a block mapping and its end. -/
def readBlockMapping : Nat → NodeState → List (Node × Node) →
    Option (List (Node × Node) × NodeState)
  | 0, _, _ => none
  | fuel + 1, s, acc =>
    match s.next with
    | .key => do
      let s := s.step
      let (key, s) ←
        if s.isAt [.key, .value, .blockEnd] then some (emptyNode, s)
        else readNode .blockOrIndentless fuel s
      let (value, s) ← readBlockValue fuel s
      readBlockMapping fuel s ((key, value) :: acc)
    | .blockEnd => some (acc.reverse, s.step)
    | _ => none

/-- Reads the value of an entry of a block mapping. -/
def readBlockValue : Nat → NodeState → Option (Node × NodeState)
  | 0, _ => none
  | fuel + 1, s =>
    match s.next with
    | .value =>
      let s := s.step
      if s.isAt [.key, .value, .blockEnd] then some (emptyNode, s)
      else readNode .blockOrIndentless fuel s
    | _ => some (emptyNode, s)

/-- Reads the items of a flow sequence and its end.  An item with a key is a
mapping of one entry. -/
def readFlowSequence : Nat → Bool → NodeState → List Node → Option (List Node × NodeState)
  | 0, _, _, _ => none
  | fuel + 1, first, s, acc =>
    match s.next with
    | .flowSequenceEnd => some (acc.reverse, s.step)
    | _ => do
      let s ← if first then some s else if s.next == .flowEntry then some s.step else none
      match s.next with
      | .key => do
        let s := s.step
        let (key, s) ←
          if s.isAt [.value, .flowEntry, .flowSequenceEnd] then some (emptyNode, s)
          else readNode .flow fuel s
        let (value, s) ←
          if s.next == .value then
            let s := s.step
            if s.isAt [.flowEntry, .flowSequenceEnd] then some (emptyNode, s)
            else readNode .flow fuel s
          else some (emptyNode, s)
        readFlowSequence fuel false s (.mapping .mapping [(key, value)] :: acc)
      | .flowSequenceEnd => some (acc.reverse, s.step)
      | _ => do
        let (node, s) ← readNode .flow fuel s
        readFlowSequence fuel false s (node :: acc)

/-- Reads the entries of a flow mapping and its end. -/
def readFlowMapping : Nat → Bool → NodeState → List (Node × Node) →
    Option (List (Node × Node) × NodeState)
  | 0, _, _, _ => none
  | fuel + 1, first, s, acc =>
    match s.next with
    | .flowMappingEnd => some (acc.reverse, s.step)
    | _ => do
      let s ← if first then some s else if s.next == .flowEntry then some s.step else none
      match s.next with
      | .key => do
        let s := s.step
        let (key, s) ←
          if s.isAt [.value, .flowEntry, .flowMappingEnd] then some (emptyNode, s)
          else readNode .flow fuel s
        let (value, s) ←
          if s.next == .value then
            let s := s.step
            if s.isAt [.flowEntry, .flowMappingEnd] then some (emptyNode, s)
            else readNode .flow fuel s
          else some (emptyNode, s)
        readFlowMapping fuel false s ((key, value) :: acc)
      | .flowMappingEnd => some (acc.reverse, s.step)
      | _ => do
        let (node, s) ← readNode .flow fuel s
        readFlowMapping fuel false s ((node, emptyNode) :: acc)

end

/-- The handles that need no directive. -/
def defaultHandles : List (String × String) :=
  [("!", "!"), ("!!", "tag:yaml.org,2002:")]

/-- Reads the directives before a document: at most one version, which has to
be 1, and no handle twice. -/
def readDirectives : List Token → Bool → List (String × String) →
    Option (List (String × String) × List Token)
  | .directive (.version major _) :: rest, seen, handles =>
    if seen || major != 1 then none else readDirectives rest true handles
  | .directive (.tag handle expansion) :: rest, seen, handles =>
    if (handles.lookup handle).isSome then none
    else readDirectives rest seen ((handle, expansion) :: handles)
  | .directive (.other _) :: rest, seen, handles => readDirectives rest seen handles
  | tokens, _, handles => some (handles, tokens)

/-- Whether the next token cannot begin the content of a document. -/
def noContent (tokens : List Token) : Bool :=
  match tokens.headD .streamEnd with
  | .directive _ => true
  | .documentStart => true
  | .documentEnd => true
  | .streamEnd => true
  | _ => false

/-- Reads a document and the end of the text after it. -/
def readDocument (handles : List (String × String)) (tokens : List Token) : Option Node := do
  let (node, s) ← readNode .block (6 * tokens.length + 6)
    { tokens := tokens, handles := handles }
  match s.tokens.dropWhile (· == .documentEnd) with
  | [.streamEnd] => some node
  | _ => none

/-- The only document of a list of tokens; nothing stands for no document. -/
def nodeOfTokens? (tokens : List Token) : Option (Option Node) :=
  match tokens with
  | .streamEnd :: _ => some none
  | .directive _ :: _ => explicit tokens
  | .documentStart :: _ => explicit tokens
  | _ => (readDocument defaultHandles tokens).map some
where
  explicit (tokens : List Token) : Option (Option Node) := do
    let (handles, rest) ← readDirectives tokens false []
    match rest with
    | .documentStart :: rest =>
      let missing := defaultHandles.filter fun (handle, _) => (handles.lookup handle).isNone
      if noContent rest then
        match rest.dropWhile (· == .documentEnd) with
        | [.streamEnd] => some (some emptyNode)
        | _ => none
      else (readDocument (handles ++ missing) rest).map some
    | _ => none

end IntegrationBuild.Yaml

import FraudScreen.Yaml.Token

/-!
# Nodes of YAML

The tree of a document: scalars, sequences and mappings. A node may be given a name, and an alias then
stands for it. Names are replaced by numbers: the number of a name is how many names are in use where it is
given, so that a name which is given anew may share its number with the next one. An alias stands for the
last node of its number, wherever that is.
-/
namespace FraudScreen.Yaml

/-- A node of a document. -/
inductive Node where
  | scalar (style : Style) (tag : Option Tag) (text : String)
  | sequence (items : List Node)
  | mapping (entries : List (Node × Node))
  /-- A node that aliases can stand for. -/
  | anchored (number : Nat) (content : Node)
  | aliasOf (number : Nat)

namespace Node

/-- The node that stands where nothing is written. -/
def blank : Node := scalar .plain none ""

mutual

/-- The anchored nodes with their numbers, each before those inside it. -/
def targets : Node → List (Nat × Node)
  | anchored n content => (n, content) :: targets content
  | sequence items => targetsOfItems items
  | mapping entries => targetsOfEntries entries
  | _ => []

def targetsOfItems : List Node → List (Nat × Node)
  | [] => []
  | item :: rest => targets item ++ targetsOfItems rest

def targetsOfEntries : List (Node × Node) → List (Nat × Node)
  | [] => []
  | (k, v) :: rest => targets k ++ (targets v ++ targetsOfEntries rest)

end

/-! ## Names and properties -/

/-- The numbers of the names so far, each name once. -/
abbrev Names := List (String × Nat)

/-- Gives a name its number. -/
def Names.define (names : Names) (name : String) : Names :=
  (name, names.length) :: names.filter (·.1 ≠ name)

/-- What is written in front of the content of a node. -/
structure Properties where
  name : Option String
  tag : Option Tag

/-- Something is written in front of the content, so that the content may be missing. -/
def Properties.areWritten (p : Properties) : Bool := p.name.isSome || p.tag.isSome

/-- Reads a name and a tag, in either order. -/
def Properties.read (handles : Handles) : List Token → Option (Properties × List Token)
  | .anchor name :: .tag t :: rest | .tag t :: .anchor name :: rest =>
    (handles.tag? t).map fun tag => (⟨some name, some tag⟩, rest)
  | .anchor name :: rest => some (⟨some name, none⟩, rest)
  | .tag t :: rest => (handles.tag? t).map fun tag => (⟨none, some tag⟩, rest)
  | rest => some (⟨none, none⟩, rest)

/-- The names inside the node. -/
def Properties.names (p : Properties) (names : Names) : Names :=
  match p.name with
  | some name => names.define name
  | none => names

/-- The node with its content; `names` are those before it. -/
def Properties.node (p : Properties) (names : Names) (content : Node) : Node :=
  match p.name with
  | some _ => anchored names.length content
  | none => content

/-! ## Reading tokens -/

/-- What one part of the reader leaves: what was read, the names, and the tokens that follow. -/
abbrev Step (α : Type) := α × Names × List Token

mutual

/-- Reads a node. `inBlock` allows block collections, `listBelow` a sequence that is not indented. -/
def read (handles : Handles) (inBlock listBelow : Bool) : Nat → Names → List Token → Option (Step Node)
  | 0, _, _ => none
  | _ + 1, names, .aliasOf name :: rest => (names.lookup name).map (aliasOf ·, names, rest)
  | fuel + 1, outer, ts => do
    let (p, ts) ← Properties.read handles ts
    let names := p.names outer
    let empty : Option (Step Node) :=
      if p.areWritten then some (p.node outer (scalar .plain p.tag ""), names, ts) else none
    match ts with
    | .scalar style text :: rest =>
      return (p.node outer (scalar style (p.tag.filter (· ≠ Tag.unspecific)) text), names, rest)
    | .flowSequenceStart :: rest =>
      let (items, names, rest) ← flowItems handles true fuel names rest
      return (p.node outer (sequence items), names, rest)
    | .flowMappingStart :: rest =>
      let (entries, names, rest) ← flowEntries handles true fuel names rest
      return (p.node outer (mapping entries), names, rest)
    | .blockSequenceStart :: rest =>
      if inBlock then
        let (items, names, rest) ← blockItems handles true fuel names rest
        return (p.node outer (sequence items), names, rest)
      else empty
    | .blockMappingStart :: rest =>
      if inBlock then
        let (entries, names, rest) ← blockEntries handles fuel names rest
        return (p.node outer (mapping entries), names, rest)
      else empty
    | .blockEntry :: _ =>
      if listBelow then
        let (items, names, rest) ← blockItems handles false fuel names ts
        return (p.node outer (sequence items), names, rest)
      else empty
    | _ => empty

/-- The items of a block sequence. One that is not indented has no closing token. -/
def blockItems (handles : Handles) (closed : Bool) : Nat → Names → List Token → Option (Step (List Node))
  | 0, _, _ => none
  | fuel + 1, names, ts =>
    match ts with
    | .blockEntry :: rest => do
      let (item, names, rest) ← match rest with
        | .blockEntry :: _ | .blockEnd :: _ => some (blank, names, rest)
        | .key :: _ | .value :: _ =>
          if closed then read handles true false fuel names rest else some (blank, names, rest)
        | _ => read handles true false fuel names rest
      let (items, names, rest) ← blockItems handles closed fuel names rest
      return (item :: items, names, rest)
    | .blockEnd :: rest => some ([], names, if closed then rest else ts)
    | _ => if closed then none else some ([], names, ts)

/-- The entries of a block mapping. -/
def blockEntries (handles : Handles) : Nat → Names → List Token → Option (Step (List (Node × Node)))
  | 0, _, _ => none
  | fuel + 1, names, ts =>
    match ts with
    | .key :: rest => do
      let (k, names, rest) ← match rest with
        | .key :: _ | .value :: _ | .blockEnd :: _ => some (blank, names, rest)
        | _ => read handles true true fuel names rest
      let (v, names, rest) ← match rest with
        | .value :: more =>
          match more with
          | .key :: _ | .value :: _ | .blockEnd :: _ => some (blank, names, more)
          | _ => read handles true true fuel names more
        | _ => some (blank, names, rest)
      let (entries, names, rest) ← blockEntries handles fuel names rest
      return ((k, v) :: entries, names, rest)
    | .blockEnd :: rest => some ([], names, rest)
    | _ => none

/-- The value of an entry in a flow collection, if there is a colon. -/
def flowValue (handles : Handles) : Nat → Names → List Token → Option (Step Node)
  | 0, _, _ => none
  | fuel + 1, names, ts =>
    match ts with
    | .value :: rest =>
      match rest with
      | .flowEntry :: _ | .flowSequenceEnd :: _ | .flowMappingEnd :: _ => some (blank, names, rest)
      | _ => read handles false false fuel names rest
    | _ => some (blank, names, ts)

/-- The items of a flow sequence; a key among them makes a mapping of one entry. Where the mark of a key
is followed by no key, the token after it counts for nothing. -/
def flowItems (handles : Handles) (isFirst : Bool) :
    Nat → Names → List Token → Option (Step (List Node))
  | 0, _, _ => none
  | fuel + 1, names, ts =>
    match ts with
    | .flowSequenceEnd :: rest => some ([], names, rest)
    | _ => do
      let ts ← if isFirst then some ts else
        match ts with
        | .flowEntry :: rest => some rest
        | _ => none
      match ts with
      | .flowSequenceEnd :: rest => some ([], names, rest)
      | .key :: rest =>
        let (k, names, rest) ← match rest with
          | .value :: rest | .flowEntry :: rest | .flowSequenceEnd :: rest => some (blank, names, rest)
          | _ => read handles false false fuel names rest
        let (v, names, rest) ← flowValue handles fuel names rest
        let (items, names, rest) ← flowItems handles false fuel names rest
        return (mapping [(k, v)] :: items, names, rest)
      | _ =>
        let (item, names, rest) ← read handles false false fuel names ts
        let (items, names, rest) ← flowItems handles false fuel names rest
        return (item :: items, names, rest)

/-- The entries of a flow mapping; a node without a colon after it is a key without a value. -/
def flowEntries (handles : Handles) (isFirst : Bool) :
    Nat → Names → List Token → Option (Step (List (Node × Node)))
  | 0, _, _ => none
  | fuel + 1, names, ts =>
    match ts with
    | .flowMappingEnd :: rest => some ([], names, rest)
    | _ => do
      let ts ← if isFirst then some ts else
        match ts with
        | .flowEntry :: rest => some rest
        | _ => none
      match ts with
      | .flowMappingEnd :: rest => some ([], names, rest)
      | .key :: rest =>
        let (k, names, rest) ← match rest with
          | .value :: _ | .flowEntry :: _ | .flowMappingEnd :: _ => some (blank, names, rest)
          | _ => read handles false false fuel names rest
        let (v, names, rest) ← flowValue handles fuel names rest
        let (entries, names, rest) ← flowEntries handles false fuel names rest
        return ((k, v) :: entries, names, rest)
      | _ =>
        let (k, names, rest) ← read handles false false fuel names ts
        let (entries, names, rest) ← flowEntries handles false fuel names rest
        return ((k, blank) :: entries, names, rest)

end

/-! ## Documents -/

/-- The directives at the front: at most one version, which must be 1.1 or 1.2, and the handles, each given
once. -/
def directives (versioned : Bool) (handles : Handles) : List Token → Option (Handles × List Token)
  | .versionDirective major minor :: rest =>
    if !versioned && major == 1 && (minor == 1 || minor == 2) then directives true handles rest else none
  | .tagDirective handle start :: rest =>
    if (handles.lookup handle).isSome then none
    else directives versioned ((handle, start) :: handles) rest
  | ts => some (handles, ts)

/-- Reads the only document of a stream of tokens: a document start must follow directives, and nothing
but end marks the document. -/
def ofTokens? (ts : List Token) : Option Node := do
  let (handles, content) ← directives false [] ts
  let (n, _, rest) ← match content with
    | .documentStart :: rest =>
      match rest with
      | [] | .documentStart :: _ | .documentEnd :: _ | .versionDirective .. :: _
      | .tagDirective .. :: _ => some (blank, [], rest)
      | _ => read handles true false (4 * ts.length + 4) [] rest
    | _ =>
      if content.length < ts.length then none
      else read handles true false (4 * ts.length + 4) [] content
  if rest.all (· == .documentEnd) then some n else none

/-- Reads a text. -/
def parse (s : String) : Option Node := (Token.scan s).bind ofTokens?

end Node

/-- A node together with the nodes that the aliases of its document stand for. -/
structure Cursor where
  targets : List (Nat × Node)
  node : Node

namespace Cursor

/-- The node, or the one that an alias stands for. -/
def content (c : Cursor) : Node :=
  match c.node with
  | .aliasOf n => (c.targets.lookup n).getD c.node
  | .anchored _ n => n
  | n => n

/-- The same document at another node. -/
def goto (c : Cursor) (n : Node) : Cursor := ⟨c.targets, n⟩

/-- Reads a text, of which the last node of each number counts. -/
def parse (s : String) : Option Cursor := (Node.parse s).map fun n => ⟨n.targets.reverse, n⟩

end Cursor

end FraudScreen.Yaml

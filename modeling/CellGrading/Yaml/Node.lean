import CellGrading.Yaml.Token

/-!
# Nodes of YAML

The tokens of a text make up one document: a tree of scalars, sequences and
mappings, in which an alias stands for a node that was given an anchor before.
A node may hold an alias of itself, so aliases are kept and looked up when a
document is taken apart.
-/

namespace CellGrading.Yaml

inductive Node where
  /-- A scalar with the text of its tag, which is empty where it has none. -/
  | scalar (text : String) (plain : Bool) (tag : List Char)
  | sequence (items : List Node)
  | mapping (entries : List (Node × Node))
  /-- The node with an anchor in a slot. -/
  | alias (slot : Nat)

def Node.empty : Node := .scalar "" true []

structure Document where
  root : Node
  anchored : List (Nat × Node)

def Document.resolve (document : Document) : Node → Node
  | .alias slot => (document.anchored.lookup slot).getD .empty
  | node => node

/-! ## Reading tokens -/

/-- What is left of the tokens, and what is known of tags and anchors.  An anchor
is kept in a slot, which is the number of other names before it; so an anchor whose
name is given again leaves its slot, and may share the new one with the next. -/
structure Progress where
  tokens : List Token
  /-- What the handles of directives stand for. -/
  handles : List (List Char × List Char) := []
  names : List (List Char × Nat) := []
  slots : List Nat := []
  /-- The nodes that have an anchor, with the number of anchors before theirs. -/
  anchored : List (Nat × Node) := []

namespace Progress

def head? (state : Progress) : Option Token := state.tokens.head?

def skip (state : Progress) : Progress := { state with tokens := state.tokens.tail }

def at? (state : Progress) (tokens : List Token) : Bool := state.head?.any tokens.contains

def expect? (state : Progress) (token : Token) : Option Progress :=
  if state.head? = some token then some state.skip else none

/-! ### Properties of nodes -/

def nameAnchor (state : Progress) (name : List Char) : Nat × Progress :=
  let slot := state.names.length
  (state.slots.length, { state with
    names := (name, slot) :: state.names.filter fun known => known.1 != name
    slots := slot :: state.slots })

def keep (state : Progress) (anchor : Option Nat) (node : Node) : Progress :=
  match anchor with
  | some anchor => { state with anchored := (anchor, node) :: state.anchored }
  | none => state

/-- The node of each slot; of anchors that share one, the last has it. -/
def slotNodes (state : Progress) : List (Nat × Node) :=
  (state.slots.reverse.zipIdx.reverse).filterMap fun (slot, anchor) =>
    (state.anchored.lookup anchor).map (slot, ·)

def knownHandles : List (List Char × List Char) :=
  [(['!'], ['!']), (['!', '!'], "tag:yaml.org,2002:".toList)]

def tagText? (state : Progress) (handle text : List Char) : Option (List Char) :=
  if handle.isEmpty then some text
  else ((state.handles ++ knownHandles).lookup handle).map (· ++ text)

structure Properties where
  anchor : Option Nat := none
  tag : Option (List Char) := none

def Properties.isEmpty (properties : Properties) : Bool :=
  properties.anchor.isNone && properties.tag.isNone

/-- The text of the tag of a scalar; a `!` by itself does not count. -/
def Properties.scalarTag (properties : Properties) : List Char :=
  (properties.tag.filter (· != ['!'])).getD []

def properties? (state : Progress) : Option (Properties × Progress) :=
  match state.tokens with
  | .anchor name :: .tag handle text :: rest => do
      let tag ← state.tagText? handle text
      let (anchor, state) := { state with tokens := rest }.nameAnchor name
      return (⟨some anchor, some tag⟩, state)
  | .tag handle text :: .anchor name :: rest => do
      let tag ← state.tagText? handle text
      let (anchor, state) := { state with tokens := rest }.nameAnchor name
      return (⟨some anchor, some tag⟩, state)
  | .anchor name :: rest =>
      let (anchor, state) := { state with tokens := rest }.nameAnchor name
      some (⟨some anchor, none⟩, state)
  | .tag handle text :: rest => do
      let tag ← state.tagText? handle text
      return (⟨none, some tag⟩, { state with tokens := rest })
  | _ => some ({}, state)

end Progress

/-! ## Nodes -/

mutual

/-- Reads a node.  `block` tells whether it may be a block collection, and
`indentless` whether it may be a sequence at the indentation of its parent. -/
def node? : Nat → Bool → Bool → Progress → Option (Node × Progress)
  | 0, _, _, _ => none
  | fuel + 1, block, indentless, state =>
      match state.tokens with
      | .alias name :: _ => do
          let anchor ← state.names.lookup name
          return (.alias anchor, state.skip)
      | _ => do
          let (properties, state) ← state.properties?
          let empty := if properties.isEmpty then none else some (Node.empty, state)
          let (node, state) ←
            match state.head? with
            | some (.scalar text plain) =>
                some (Node.scalar (.ofList text) plain properties.scalarTag, state.skip)
            | some .blockEntry =>
                if indentless then do
                  let (items, state) ← indentlessItems? fuel state
                  some (.sequence items, state)
                else empty
            | some .flowSequenceStart => do
                let (items, state) ← flowItems? fuel true state.skip
                some (.sequence items, state)
            | some .flowMappingStart => do
                let (entries, state) ← flowEntries? fuel true state.skip
                some (.mapping entries, state)
            | some .blockSequenceStart =>
                if block then do
                  let (items, state) ← blockItems? fuel state.skip
                  some (.sequence items, state)
                else empty
            | some .blockMappingStart =>
                if block then do
                  let (entries, state) ← blockEntries? fuel state.skip
                  some (.mapping entries, state)
                else empty
            | _ => empty
          return (node, state.keep properties.anchor node)

def nodeUnless? : Nat → Bool → Bool → List Token → Progress → Option (Node × Progress)
  | 0, _, _, _, _ => none
  | fuel + 1, block, indentless, ends, state =>
      if state.at? ends then some (.empty, state) else node? fuel block indentless state

def blockItems? : Nat → Progress → Option (List Node × Progress)
  | 0, _ => none
  | fuel + 1, state =>
      match state.head? with
      | some .blockEntry => do
          let (item, state) ← nodeUnless? fuel true false [.blockEntry, .blockEnd] state.skip
          let (items, state) ← blockItems? fuel state
          return (item :: items, state)
      | some .blockEnd => some ([], state.skip)
      | _ => none

def indentlessItems? : Nat → Progress → Option (List Node × Progress)
  | 0, _ => none
  | fuel + 1, state =>
      match state.head? with
      | some .blockEntry => do
          let (item, state) ←
            nodeUnless? fuel true false [.blockEntry, .key, .value, .blockEnd] state.skip
          let (items, state) ← indentlessItems? fuel state
          return (item :: items, state)
      | _ => some ([], state)

def blockEntries? : Nat → Progress → Option (List (Node × Node) × Progress)
  | 0, _ => none
  | fuel + 1, state =>
      match state.head? with
      | some .key => do
          let ends := [.key, .value, .blockEnd]
          let (key, state) ← nodeUnless? fuel true true ends state.skip
          let (value, state) ←
            if state.at? [.value] then nodeUnless? fuel true true ends state.skip
            else some (.empty, state)
          let (entries, state) ← blockEntries? fuel state
          return ((key, value) :: entries, state)
      | some .blockEnd => some ([], state.skip)
      | _ => none

/-- Reads the entries of a flow sequence to its end.  A key makes an entry a
mapping of its own. -/
def flowItems? : Nat → Bool → Progress → Option (List Node × Progress)
  | 0, _, _ => none
  | fuel + 1, first, state =>
      if state.at? [.flowSequenceEnd] then some ([], state.skip)
      else do
        let state ← if first then some state else state.expect? .flowEntry
        if state.at? [.flowSequenceEnd] then return ([], state.skip)
        else
          let (item, state) ←
            if state.at? [.key] then do
              let (entry, state) ← flowPair? fuel state.skip
              some (Node.mapping [entry], state)
            else node? fuel false false state
          let (items, state) ← flowItems? fuel false state
          return (item :: items, state)

/-- Reads the one entry of a mapping within a flow sequence.  A key that is left
out takes the token behind it along. -/
def flowPair? : Nat → Progress → Option ((Node × Node) × Progress)
  | 0, _ => none
  | fuel + 1, state => do
      let ends := [.flowEntry, .flowSequenceEnd]
      let (key, state) ←
        if state.at? (.value :: ends) then some (Node.empty, state.skip)
        else node? fuel false false state
      let (value, state) ←
        if state.at? [.value] then nodeUnless? fuel false false ends state.skip
        else some (.empty, state)
      return ((key, value), state)

def flowEntries? : Nat → Bool → Progress → Option (List (Node × Node) × Progress)
  | 0, _, _ => none
  | fuel + 1, first, state =>
      if state.at? [.flowMappingEnd] then some ([], state.skip)
      else do
        let state ← if first then some state else state.expect? .flowEntry
        if state.at? [.flowMappingEnd] then return ([], state.skip)
        else
          let (entry, state) ←
            if state.at? [.key] then do
              let ends := [.flowEntry, .flowMappingEnd]
              let (key, state) ← nodeUnless? fuel false false (.value :: ends) state.skip
              let (value, state) ←
                if state.at? [.value] then nodeUnless? fuel false false ends state.skip
                else some (Node.empty, state)
              some ((key, value), state)
            else do
              let (key, state) ← node? fuel false false state
              some ((key, Node.empty), state)
          let (entries, state) ← flowEntries? fuel false state
          return (entry :: entries, state)

end

/-! ## Documents -/

/-- Takes the directives in front of a document: at most one version, which has
to be a known one, and handles that differ. -/
def directives? (version : Bool) : Progress → List Token → Option Progress
  | state, .versionDirective major minor :: rest =>
      if version || major != 1 || (minor != 1 && minor != 2) then none
      else directives? true state rest
  | state, .tagDirective handle start :: rest =>
      if (state.handles.lookup handle).isSome then none
      else directives? version { state with handles := (handle, start) :: state.handles } rest
  | state, tokens => some { state with tokens := tokens }

def markedRoot? (fuel : Nat) (state : Progress) : Option (Node × Progress) :=
  match state.head? with
  | some (.versionDirective _ _) => some (.empty, state)
  | some (.tagDirective _ _) => some (.empty, state)
  | some .documentStart => some (.empty, state)
  | some .documentEnd => some (.empty, state)
  | some .streamEnd => some (.empty, state)
  | _ => node? fuel true false state

def skipEnds : List Token → List Token
  | .documentEnd :: rest => skipEnds rest
  | tokens => tokens

def Token.isOutside : Token → Bool
  | .versionDirective _ _ => true
  | .tagDirective _ _ => true
  | .documentStart => true
  | .streamEnd => true
  | _ => false

def Document.read? (text : List Char) : Option Document := do
  let tokens ← tokens? text
  let fuel := 3 * tokens.length + 3
  let first ← tokens.head?
  if first = .streamEnd then none
  else
    let (root, state) ←
      if first.isOutside then do
        let state ← directives? false { tokens := tokens } tokens
        let state ← state.expect? .documentStart
        markedRoot? fuel state
      else node? fuel true false { tokens := tokens }
    if skipEnds state.tokens = [.streamEnd] then return ⟨root, state.slotNodes⟩ else none

end CellGrading.Yaml

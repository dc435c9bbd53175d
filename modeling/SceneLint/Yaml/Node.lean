import SceneLint.Yaml.Scalar
import SceneLint.Yaml.Token

/-!
# YAML nodes

A `Node` is a scalar, sequence or mapping with the kind its tag gives it. `Node.ofTokens` reads the
single document of a stream: an alias stands for the node its anchor names, and a name may be
anchored once. `Node.value` turns a node into a configuration value; the entries of a merged
mapping come before the mapping's own, and a set is written as a mapping, of which the keys are its
members.
-/

namespace SceneLint.Yaml

/-- A `Tag` is the kind of a node: that of a scalar, a sequence, a sequence of pairs, a set, a
mapping, or one without meaning here. -/
inductive Tag where
  | scalar (kind : Kind)
  | sequence
  | pairs
  | set
  | mapping
  | other
deriving DecidableEq

/-- `Tag.ofUri uri` is the kind that the full name of a tag stands for. -/
def Tag.ofUri (uri : String) : Tag :=
  match (uri.toList.splitAt 18) with
  | (lead, name) =>
      if String.ofList lead = "tag:yaml.org,2002:" then
        match String.ofList name with
        | "null" => .scalar .null
        | "bool" => .scalar .bool
        | "int" => .scalar .int
        | "float" => .scalar .float
        | "timestamp" => .scalar .moment
        | "str" => .scalar .text
        | "binary" => .scalar .bytes
        | "merge" => .scalar .merge
        | "value" => .scalar .default
        | "seq" => .sequence
        | "omap" => .pairs
        | "pairs" => .pairs
        | "set" => .set
        | "map" => .mapping
        | _ => .other
      else .other

/-- A `Node` is a part of a document. -/
inductive Node where
  | scalar (tag : Tag) (text : String)
  | sequence (tag : Tag) (items : List Node)
  | mapping (tag : Tag) (entries : List (Node × Node))

/-- `Node.empty` is the node that stands where nothing is written. -/
def Node.empty : Node := .scalar (.scalar .null) ""

/-- A `Reader` is the tokens still to read, the anchored nodes, and the handles of tags. -/
structure Reader where
  tokens : List Token
  anchors : List (String × Node)
  handles : List (String × String)

namespace Reader

/-- `defaultHandles` are the handles that every document has. -/
def defaultHandles : List (String × String) :=
  [("!", "!"), ("!!", "tag:yaml.org,2002:")]

/-- `peek r` is the next token. -/
def peek (r : Reader) : Token :=
  r.tokens.headD .streamEnd

/-- `next r` moves over one token. -/
def next (r : Reader) : Reader :=
  { r with tokens := r.tokens.tail }

/-- `resolve r handle suffix` is the full name of a tag. -/
def resolve (r : Reader) (handle : Option String) (suffix : String) : Except Fault String :=
  match handle with
  | none => .ok suffix
  | some handle =>
      match r.handles.lookup handle with
      | some start => .ok (start ++ suffix)
      | none => .error .tag

/-- `readTag r` reads a tag, if one comes next. -/
def readTag (r : Reader) : Except Fault (Option String × Reader) :=
  match r.peek with
  | .tag handle suffix => do
      let uri ← r.resolve handle suffix
      .ok (some uri, r.next)
  | _ => .ok (none, r)

/-- `readAnchor r` reads an anchor, if one comes next. -/
def readAnchor (r : Reader) : Option String × Reader :=
  match r.peek with
  | .anchor name => (some name, r.next)
  | _ => (none, r)

/-- `readProperties r` reads the anchor and the tag of a node, in either order. -/
def readProperties (r : Reader) : Except Fault (Option String × Option String × Reader) :=
  match r.readAnchor with
  | (some name, r) => do
      let (tag, r) ← r.readTag
      .ok (some name, tag, r)
  | (none, r) => do
      let (tag, r) ← r.readTag
      match tag with
      | some _ =>
          let (anchor, r) := r.readAnchor
          .ok (anchor, tag, r)
      | none => .ok (none, none, r)

/-- `name anchor node r` lets later aliases find a node. -/
def name (anchor : Option String) (node : Node) (r : Reader) : Except Fault (Node × Reader) :=
  match anchor with
  | none => .ok (node, r)
  | some anchor =>
      if (r.anchors.lookup anchor).isSome then .error .reference
      else .ok (node, { r with anchors := (anchor, node) :: r.anchors })

/-- `explicitTag tag` is the tag of a node unless its kind is to be found out. -/
def explicitTag (tag : Option String) : Option Tag :=
  match tag with
  | none => none
  | some uri => if uri = "!" then none else some (Tag.ofUri uri)

/-- `scalarTag tag plain text` is the kind of a scalar. -/
def scalarTag (tag : Option String) (plain : Bool) (text : String) : Tag :=
  match explicitTag tag with
  | some tag => tag
  | none => if plain || tag.isSome then .scalar (.ofPlain text) else .scalar .text

mutual
/-- `node fuel block indentless r` reads a node; `block` allows block collections, `indentless` a
sequence that is not indented further than its key. -/
def node : Nat → Bool → Bool → Reader → Except Fault (Node × Reader)
  | 0, _, _, _ => .error .layout
  | fuel + 1, block, indentless, r =>
      match r.peek with
      | .alias anchor =>
          match r.anchors.lookup anchor with
          | some node => .ok (node, r.next)
          | none => .error .reference
      | _ => do
          let (anchor, tag, r) ← r.readProperties
          let explicit := explicitTag tag
          match r.peek with
          | .scalar text plain => r.next.name anchor (.scalar (scalarTag tag plain text) text)
          | .flowSequence => do
              let (items, r) ← flowItems fuel true r.next
              r.name anchor (.sequence (explicit.getD .sequence) items)
          | .flowMapping => do
              let (entries, r) ← flowEntries fuel true r.next
              r.name anchor (.mapping (explicit.getD .mapping) entries)
          | .blockEntry =>
              if indentless then do
                let (items, r) ← indentlessItems fuel r
                r.name anchor (.sequence (explicit.getD .sequence) items)
              else nothing anchor tag r
          | .blockSequence =>
              if block then do
                let (items, r) ← blockItems fuel r.next
                r.name anchor (.sequence (explicit.getD .sequence) items)
              else nothing anchor tag r
          | .blockMapping =>
              if block then do
                let (entries, r) ← blockEntries fuel r.next
                r.name anchor (.mapping (explicit.getD .mapping) entries)
              else nothing anchor tag r
          | _ => nothing anchor tag r

/-- `nothing anchor tag r` is the empty node, which only an anchor or tag allows. -/
def nothing (anchor tag : Option String) (r : Reader) : Except Fault (Node × Reader) :=
  if anchor.isNone && tag.isNone then .error .layout
  else r.name anchor (.scalar (scalarTag tag true "") "")

/-- `blockItems fuel r` reads the items of a block sequence up to its end. -/
def blockItems : Nat → Reader → Except Fault (List Node × Reader)
  | 0, _ => .error .layout
  | fuel + 1, r =>
      match r.peek with
      | .blockEntry => do
          let r := r.next
          let (item, r) ← (
            match r.peek with
            | .blockEntry => .ok (Node.empty, r)
            | .blockEnd => .ok (Node.empty, r)
            | _ => node fuel true false r : Except Fault (Node × Reader))
          let (items, r) ← blockItems fuel r
          .ok (item :: items, r)
      | .blockEnd => .ok ([], r.next)
      | _ => .error .layout

/-- `indentlessItems fuel r` reads the items of a sequence that ends where its dashes end. -/
def indentlessItems : Nat → Reader → Except Fault (List Node × Reader)
  | 0, _ => .error .layout
  | fuel + 1, r =>
      match r.peek with
      | .blockEntry => do
          let r := r.next
          let (item, r) ← (
            match r.peek with
            | .blockEntry => .ok (Node.empty, r)
            | .key => .ok (Node.empty, r)
            | .value => .ok (Node.empty, r)
            | .blockEnd => .ok (Node.empty, r)
            | _ => node fuel true false r : Except Fault (Node × Reader))
          let (items, r) ← indentlessItems fuel r
          .ok (item :: items, r)
      | _ => .ok ([], r)

/-- `blockPart fuel r` reads a key or value of a block mapping behind its sign. -/
def blockPart : Nat → Reader → Except Fault (Node × Reader)
  | 0, _ => .error .layout
  | fuel + 1, r =>
      match r.peek with
      | .key => .ok (Node.empty, r)
      | .value => .ok (Node.empty, r)
      | .blockEnd => .ok (Node.empty, r)
      | _ => node fuel true true r

/-- `blockEntries fuel r` reads the entries of a block mapping up to its end. -/
def blockEntries : Nat → Reader → Except Fault (List (Node × Node) × Reader)
  | 0, _ => .error .layout
  | fuel + 1, r =>
      match r.peek with
      | .key => do
          let (key, r) ← blockPart fuel r.next
          let (value, r) ← (
            match r.peek with
            | .value => blockPart fuel r.next
            | _ => .ok (Node.empty, r) : Except Fault (Node × Reader))
          let (entries, r) ← blockEntries fuel r
          .ok ((key, value) :: entries, r)
      | .blockEnd => .ok ([], r.next)
      | _ => .error .layout

/-- `flowPart fuel r` reads a key or value between brackets or braces; before a comma or a closing
sign, and a key also before its colon, nothing is written. -/
def flowPart : Nat → Bool → Reader → Except Fault (Node × Reader)
  | 0, _, _ => .error .layout
  | fuel + 1, isKey, r =>
      match r.peek with
      | .flowEntry => .ok (Node.empty, r)
      | .flowSequenceEnd => .ok (Node.empty, r)
      | .flowMappingEnd => .ok (Node.empty, r)
      | .value => if isKey then .ok (Node.empty, r) else node fuel false false r
      | _ => node fuel false false r

/-- `flowPair fuel r` reads a key and, behind a colon, its value. -/
def flowPair : Nat → Reader → Except Fault ((Node × Node) × Reader)
  | 0, _ => .error .layout
  | fuel + 1, r => do
      let (key, r) ← flowPart fuel true r
      match r.peek with
      | .value => do
          let (value, r) ← flowPart fuel false r.next
          .ok ((key, value), r)
      | _ => .ok ((key, Node.empty), r)

/-- `flowItems fuel first r` reads the items of a flow sequence up to its bracket. -/
def flowItems : Nat → Bool → Reader → Except Fault (List Node × Reader)
  | 0, _, _ => .error .layout
  | fuel + 1, first, r =>
      match r.peek with
      | .flowSequenceEnd => .ok ([], r.next)
      | _ => do
          let r ← (
            if first then .ok r
            else
              match r.peek with
              | .flowEntry => .ok r.next
              | _ => .error .layout : Except Fault Reader)
          match r.peek with
          | .flowSequenceEnd => .ok ([], r.next)
          | .key => do
              let ((key, value), r) ← flowPair fuel r.next
              let (items, r) ← flowItems fuel false r
              .ok (.mapping .mapping [(key, value)] :: items, r)
          | _ => do
              let (item, r) ← node fuel false false r
              let (items, r) ← flowItems fuel false r
              .ok (item :: items, r)

/-- `flowEntries fuel first r` reads the entries of a flow mapping up to its brace. -/
def flowEntries : Nat → Bool → Reader → Except Fault (List (Node × Node) × Reader)
  | 0, _, _ => .error .layout
  | fuel + 1, first, r =>
      match r.peek with
      | .flowMappingEnd => .ok ([], r.next)
      | _ => do
          let r ← (
            if first then .ok r
            else
              match r.peek with
              | .flowEntry => .ok r.next
              | _ => .error .layout : Except Fault Reader)
          match r.peek with
          | .flowMappingEnd => .ok ([], r.next)
          | .key => do
              let (entry, r) ← flowPair fuel r.next
              let (entries, r) ← flowEntries fuel false r
              .ok (entry :: entries, r)
          | _ => do
              let (key, r) ← node fuel false false r
              let (entries, r) ← flowEntries fuel false r
              .ok ((key, Node.empty) :: entries, r)
end

/-- `isDocumentMark token` says that a token stands between documents. -/
def isDocumentMark : Token → Bool
  | .directive _ => true
  | .documentStart => true
  | .documentEnd => true
  | .streamEnd => true
  | _ => false

/-- `dropEnds tokens` drops the signs that end a document. -/
def dropEnds : List Token → List Token
  | .documentEnd :: tokens => dropEnds tokens
  | tokens => tokens

/-- `directives versioned r` reads the directives in front of a document. -/
def directives : Bool → List (String × String) → List Token →
    Except Fault (List (String × String) × List Token)
  | versioned, handles, .directive d :: tokens =>
      match d with
      | .version major _ =>
          if versioned || major ≠ 1 then .error .layout else directives true handles tokens
      | .tag handle uri =>
          if (handles.lookup handle).isSome then .error .layout
          else directives versioned ((handle, uri) :: handles) tokens
      | .other => directives versioned handles tokens
  | _, handles, tokens => .ok (handles, tokens)

/-- `content fuel r` reads the node of a document. -/
def content (fuel : Nat) (r : Reader) : Except Fault (Node × Reader) :=
  if isDocumentMark r.peek then .ok (Node.empty, r) else node fuel true false r

/-- `document fuel tokens` reads the only document of a stream, if there is one. -/
def document (fuel : Nat) (tokens : List Token) : Except Fault (Option Node) := do
  let start : Reader := ⟨tokens, [], defaultHandles⟩
  let implicit :=
    match start.peek with
    | .directive _ => false
    | .documentStart => false
    | .streamEnd => false
    | _ => true
  let (node?, r) ← (
    if implicit then do
      let (node, r) ← node fuel true false start
      .ok (some node, r)
    else
      match start.peek with
      | .streamEnd => .ok (none, start)
      | _ => do
          let (handles, tokens) ← directives false [] tokens
          match tokens with
          | .documentStart :: tokens => do
              let (node, r) ← content fuel ⟨tokens, [], handles ++ defaultHandles⟩
              .ok (some node, r)
          | _ => .error .layout : Except Fault (Option Node × Reader))
  match dropEnds r.tokens with
  | [.streamEnd] => .ok node?
  | _ => .error .layout

end Reader

/-- `Node.ofTokens tokens` is the node of the only document, if there is one. -/
def Node.ofTokens (tokens : List Token) : Except Fault (Option Node) :=
  Reader.document (4 * tokens.length + 4) tokens

namespace Node

/-- `isMergeKey node` says that an entry with this key brings in other mappings. -/
def isMergeKey : Node → Bool
  | .scalar tag _ => tag == .scalar .merge
  | _ => false

/-- `hasDefaultTag node` says that a node has the tag of the sign for a default. -/
def hasDefaultTag : Node → Bool
  | .scalar tag _ => tag == .scalar .default
  | .sequence tag _ => tag == .scalar .default
  | .mapping tag _ => tag == .scalar .default

mutual
/-- `defaultText? node` is the text of a scalar, or of the default of a mapping. -/
def defaultText? : Node → Option String
  | .scalar _ text => some text
  | .sequence _ _ => none
  | .mapping _ entries => entriesDefault? entries

/-- `entriesDefault? entries` is the text of the first entry that is a default. -/
def entriesDefault? : List (Node × Node) → Option String
  | [] => none
  | (key, target) :: entries =>
      if key.hasDefaultTag then defaultText? target else entriesDefault? entries
end

mutual
/-- `value order node` is the configuration value of a node; `order` puts the members of a set in
their order. -/
def value (order : List Data → List Data) : Node → Except Fault Data
  | .scalar (.scalar kind) text => kind.value text
  | .scalar _ _ => .error .tag
  | .sequence .sequence items => do
      let items ← values order items
      .ok (.list items)
  | .sequence .pairs items => do
      let pairs ← pairValues order items
      .ok (.list pairs)
  | .sequence _ _ => .error .tag
  | .mapping .mapping entries => do
      let (merged, own) ← entryValues order entries
      .ok (.map (Data.collect (merged ++ own)))
  | .mapping .set entries => do
      let (merged, own) ← entryValues order entries
      .ok (.set (order ((Data.collect (merged ++ own)).map (·.1))))
  | .mapping (.scalar kind) entries =>
      match entriesDefault? entries with
      | some text => if kind = .moment then .error .tag else kind.value text
      | none => .error .tag
  | .mapping _ _ => .error .tag

/-- `values order nodes` are the values of the items of a sequence. -/
def values (order : List Data → List Data) : List Node → Except Fault (List Data)
  | [] => .ok []
  | node :: nodes => do
      let v ← value order node
      let vs ← values order nodes
      .ok (v :: vs)

/-- `pairValues order nodes` are the values of mappings of one entry each, as pairs. -/
def pairValues (order : List Data → List Data) : List Node → Except Fault (List Data)
  | [] => .ok []
  | .mapping _ [(key, target)] :: nodes => do
      let k ← value order key
      let v ← value order target
      let pairs ← pairValues order nodes
      .ok (.pair k v :: pairs)
  | _ :: _ => .error .tag

/-- `entryValues order entries` are the entries that merge keys bring in and the own entries of a
mapping. -/
def entryValues (order : List Data → List Data) :
    List (Node × Node) → Except Fault (List (Data × Data) × List (Data × Data))
  | [] => .ok ([], [])
  | (key, target) :: entries =>
      if key.isMergeKey then do
        let brought ← mergeValues order target
        let (merged, own) ← entryValues order entries
        .ok (brought ++ merged, own)
      else do
        let k ← keyValue key
        if !k.isKey then .error .tag
        else
          let v ← value order target
          let (merged, own) ← entryValues order entries
          .ok (merged, (k, v) :: own)

/-- `keyValue node` is the value of a key; the sign for a default stands for itself. -/
def keyValue : Node → Except Fault Data
  | .scalar (.scalar kind) text =>
      if kind = .default then .ok (.text text) else kind.value text
  | _ => .error .tag

/-- `mergeValues order node` are the entries of a merged mapping, or of a list of mappings of which
the earlier ones count more. -/
def mergeValues (order : List Data → List Data) : Node → Except Fault (List (Data × Data))
  | .mapping _ entries => do
      let (merged, own) ← entryValues order entries
      .ok (merged ++ own)
  | .sequence _ items => mergeItems order items
  | .scalar _ _ => .error .tag

/-- `mergeItems order nodes` are the entries of merged mappings, the last mapping first. -/
def mergeItems (order : List Data → List Data) :
    List Node → Except Fault (List (Data × Data))
  | [] => .ok []
  | .mapping _ entries :: nodes => do
      let (merged, own) ← entryValues order entries
      let others ← mergeItems order nodes
      .ok (others ++ merged ++ own)
  | _ :: _ => .error .tag
end

end Node

/-- `Node.load order tokens` is the value of the only document, and nothing if there is none. -/
def Node.load (order : List Data → List Data) (tokens : List Token) : Except Fault Data := do
  let node? ← Node.ofTokens tokens
  match node? with
  | none => .ok .null
  | some node => node.value order

end SceneLint.Yaml

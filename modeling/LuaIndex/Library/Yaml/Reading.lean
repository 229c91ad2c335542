import LuaIndex.Library.Yaml.Token
import LuaIndex.Library.Yaml.Graph
import LuaIndex.Table

namespace LuaIndex.Yaml

/-- Tokens still to be read, the tag handles, the nodes that anchors name, and the nodes read. -/
structure Reading where
  tokens : List Token
  handles : List (Text × Text)
  names : Table Nat
  graph : Graph

namespace Reading

def peek (r : Reading) : Except Fault (Option Token) :=
  match r.tokens with
  | .fault cause :: _ => .error cause
  | t :: _ => .ok (some t)
  | [] => .ok none

def step (r : Reading) : Reading :=
  { r with tokens := r.tokens.drop 1 }

/-- One of the given tokens comes next. -/
def meets (r : Reading) (ts : List Token) : Except Fault Bool :=
  r.peek.map fun
    | some t => t ∈ ts
    | none => false

/-- Starts a node, which gets the next number. Its name must be new. -/
def start (r : Reading) (name : Option Text) : Except Fault (Nat × Reading) :=
  let i := r.graph.size
  let r' := { r with graph := r.graph.add .empty }
  match name with
  | none => .ok (i, r')
  | some name =>
    match r.names.get? name with
    | some _ => .error .invalid
    | none => .ok (i, { r' with names := r.names.put name i })

def finish (r : Reading) (i : Nat) (n : Node) : Reading :=
  { r with graph := r.graph.put i n }

/-- An empty node. -/
def blank (r : Reading) : Nat × Reading :=
  (r.graph.size, { r with graph := r.graph.add .empty })

def plainHandle : Text := ['!']

/-- The full tag; a lone mark leaves the kind to the content. -/
def fullTag (r : Reading) (handle : Option Text) (suffix : Text) : Except Fault Text :=
  match handle with
  | some handle => (Fault.require (r.handles.lookup handle)).map (· ++ suffix)
  | none => .ok suffix

/-- An anchor and a tag in either order, each at most once. -/
def properties (r : Reading) : Except Fault (Option Text × Option Text × Reading) := do
  match ← r.peek with
  | some (.anchor a) =>
    match ← r.step.peek with
    | some (.tag h s) => return (some a, some (← r.fullTag h s), r.step.step)
    | _ => return (some a, none, r.step)
  | some (.tag h s) =>
    match ← r.step.peek with
    | some (.anchor a) => return (some a, some (← r.fullTag h s), r.step.step)
    | _ => return (none, some (← r.fullTag h s), r.step)
  | _ => return (none, none, r)

/-- The kind of a scalar. -/
def scalarKind (tag : Option Text) (plain : Bool) (t : Text) : Kind :=
  match tag with
  | none => if plain then .ofPlain t else .text
  | some tag => if tag = plainHandle then .ofPlain t else .ofTag tag

/-- The kind of a collection. -/
def collectionKind (tag : Option Text) (usual : Kind) : Kind :=
  match tag with
  | none => usual
  | some tag => if tag = plainHandle then usual else .ofTag tag

mutual

/-- A node, in block style if `block` is set; with `dashes`, entries may follow without more
indentation. `levels` is how many more may be nested. -/
def node (block dashes : Bool) (levels : Nat) :
    (fuel : Nat) → Reading → Except Fault (Nat × Reading)
  | 0, _ => .error .invalid
  | fuel + 1, r =>
    if levels = 0 then .error (.slip .tooDeep)
    else do
      match ← r.peek with
      | some (.alias name) => return (← Fault.require (r.names.get? name), r.step)
      | _ =>
        let (anchor, tag, r) ← r.properties
        let next ← r.peek
        let sequence (items : Reading → Except Fault (List Nat × Reading)) (r : Reading) := do
          let (i, r) ← r.start anchor
          let (is, r) ← items r
          return (i, r.finish i ⟨collectionKind tag .sequence, .sequence is⟩)
        let mapping (entries : Reading → Except Fault (List (Nat × Nat) × Reading)) := do
          let (i, r) ← r.start anchor
          let (es, r) ← entries r.step
          return (i, r.finish i ⟨collectionKind tag .mapping, .mapping es⟩)
        if dashes && next == some .blockEntry then sequence (dashItems (levels - 1) fuel) r
        else
          match next with
          | some (.scalar t plain) =>
            let (i, r) ← r.start anchor
            return (i, r.step.finish i ⟨scalarKind tag plain t, .scalar t⟩)
          | some .flowSequenceStart =>
            sequence (fun r => flowItems true (levels - 1) fuel r.step) r
          | some .flowMappingStart => mapping (flowEntries true (levels - 1) fuel)
          | next =>
            if block && next == some .blockSequenceStart then
              sequence (fun r => blockItems (levels - 1) fuel r.step) r
            else if block && next == some .blockMappingStart then
              mapping (blockEntries (levels - 1) fuel)
            else if anchor.isSome || tag.isSome then
              let (i, r) ← r.start anchor
              return (i, r.finish i ⟨scalarKind tag true [], .scalar []⟩)
            else .error .invalid
termination_by structural fuel => fuel

/-- A node in block style, or an empty one if one of the given tokens comes next. -/
def blockNodeUnless (stops : List Token) (dashes : Bool) (levels : Nat) :
    (fuel : Nat) → Reading → Except Fault (Nat × Reading)
  | 0, _ => .error .invalid
  | fuel + 1, r => do
    if ← r.meets stops then return r.blank else node true dashes levels fuel r
termination_by structural fuel => fuel

/-- A node in flow style, or an empty one if one of the given tokens comes next. -/
def flowNodeUnless (stops : List Token) (levels : Nat) :
    (fuel : Nat) → Reading → Except Fault (Nat × Reading)
  | 0, _ => .error .invalid
  | fuel + 1, r => do
    if ← r.meets stops then return r.blank else node false false levels fuel r
termination_by structural fuel => fuel

/-- Entries after dashes at the indentation of the key before them. -/
def dashItems (levels : Nat) : (fuel : Nat) → Reading → Except Fault (List Nat × Reading)
  | 0, _ => .error .invalid
  | fuel + 1, r => do
    if ← r.meets [.blockEntry] then
      let (n, r) ← blockNodeUnless [.blockEntry, .key, .value, .blockEnd] false levels fuel r.step
      let (rest, r) ← dashItems levels fuel r
      return (n :: rest, r)
    else return ([], r)
termination_by structural fuel => fuel

/-- The entries of a sequence in block style up to its end. -/
def blockItems (levels : Nat) : (fuel : Nat) → Reading → Except Fault (List Nat × Reading)
  | 0, _ => .error .invalid
  | fuel + 1, r => do
    if ← r.meets [.blockEntry] then
      let (n, r) ← blockNodeUnless [.blockEntry, .blockEnd] false levels fuel r.step
      let (rest, r) ← blockItems levels fuel r
      return (n :: rest, r)
    else if ← r.meets [.blockEnd] then return ([], r.step)
    else .error .invalid
termination_by structural fuel => fuel

/-- The entries of a mapping in block style up to its end. A key may lack its value. -/
def blockEntries (levels : Nat) :
    (fuel : Nat) → Reading → Except Fault (List (Nat × Nat) × Reading)
  | 0, _ => .error .invalid
  | fuel + 1, r => do
    if ← r.meets [.key] then
      let (k, r) ← blockNodeUnless [.key, .value, .blockEnd] true levels fuel r.step
      let (v, r) ← if ← r.meets [.value] then
          blockNodeUnless [.key, .value, .blockEnd] true levels fuel r.step
        else pure r.blank
      let (rest, r) ← blockEntries levels fuel r
      return ((k, v) :: rest, r)
    else if ← r.meets [.blockEnd] then return ([], r.step)
    else .error .invalid
termination_by structural fuel => fuel

/-- The entries of a sequence in brackets up to its end. A lone pair is a mapping of one entry. -/
def flowItems (first : Bool) (levels : Nat) :
    (fuel : Nat) → Reading → Except Fault (List Nat × Reading)
  | 0, _ => .error .invalid
  | fuel + 1, r => do
    if ← r.meets [.flowSequenceEnd] then return ([], r.step)
    else
      let r ← if first then pure r
        else if ← r.meets [.flowEntry] then pure r.step else .error .invalid
      if ← r.meets [.key] then
        let (i, r) ← r.start none
        let (k, r) ← flowNodeUnless [.value, .flowEntry, .flowSequenceEnd] (levels - 1) fuel r.step
        let (v, r) ← if ← r.meets [.value] then
            flowNodeUnless [.flowEntry, .flowSequenceEnd] (levels - 1) fuel r.step
          else pure r.blank
        let (rest, r) ← flowItems false levels fuel (r.finish i ⟨.mapping, .mapping [(k, v)]⟩)
        return (i :: rest, r)
      else if ← r.meets [.flowSequenceEnd] then return ([], r.step)
      else
        let (n, r) ← node false false levels fuel r
        let (rest, r) ← flowItems false levels fuel r
        return (n :: rest, r)
termination_by structural fuel => fuel

/-- The entries of a mapping in braces up to its end. -/
def flowEntries (first : Bool) (levels : Nat) :
    (fuel : Nat) → Reading → Except Fault (List (Nat × Nat) × Reading)
  | 0, _ => .error .invalid
  | fuel + 1, r => do
    if ← r.meets [.flowMappingEnd] then return ([], r.step)
    else
      let r ← if first then pure r
        else if ← r.meets [.flowEntry] then pure r.step else .error .invalid
      if ← r.meets [.key] then
        let (k, r) ← flowNodeUnless [.value, .flowEntry, .flowMappingEnd] levels fuel r.step
        let (v, r) ← if ← r.meets [.value] then
            flowNodeUnless [.flowEntry, .flowMappingEnd] levels fuel r.step
          else pure r.blank
        let (rest, r) ← flowEntries false levels fuel r
        return ((k, v) :: rest, r)
      else if ← r.meets [.flowMappingEnd] then return ([], r.step)
      else
        let (k, r) ← node false false levels fuel r
        let (v, r) := r.blank
        let (rest, r) ← flowEntries false levels fuel r
        return ((k, v) :: rest, r)
termination_by structural fuel => fuel

end

def usualHandles : List (Text × Text) :=
  [(['!'], ['!']), (['!', '!'], Kind.stem)]

/-- The directives before a document: at most one version, which must be 1, and new tag handles. -/
def directives? (version : Bool) : List Token → List (Text × Text) →
    Option (List (Text × Text) × List Token)
  | .version major :: rest, hs =>
    if version || major ≠ 1 then none else directives? true rest hs
  | .tagHandle handle stem :: rest, hs =>
    if (hs.lookup handle).isSome then none else directives? version rest ((handle, stem) :: hs)
  | .otherDirective :: rest, hs => directives? version rest hs
  | ts, hs => some (hs ++ usualHandles, ts)

def isDirective : Token → Bool
  | .version _ => true
  | .tagHandle _ _ => true
  | .otherDirective => true
  | _ => false

/-- Nothing but ends of documents may follow. -/
def checkEnd : List Token → Except Fault Unit
  | [] => .ok ()
  | .documentEnd :: rest => checkEnd rest
  | .fault cause :: _ => .error cause
  | _ => .error .invalid

/-- The graph of a document whose content starts with the given tokens, and its root. -/
def content (levels : Nat) (handles : List (Text × Text)) (ts : List Token) :
    Except Fault (Nat × Graph) := do
  let (i, r) ← node true false levels (4 * ts.length + 4) ⟨ts, handles, [], .empty⟩
  checkEnd r.tokens
  return (i, r.graph)

/-- A document that holds nothing. -/
def emptyContent (ts : List Token) : Except Fault (Nat × Graph) := do
  checkEnd ts
  return (0, Graph.empty.add .empty)

/-- The graph of the only document and its root: nothing at all, a bare document, or one that starts
with directives or a mark. Nodes may be nested to so many `levels`. -/
def document (levels : Nat) (ts : List Token) : Except Fault (Option (Nat × Graph)) :=
  match ts with
  | [] => .ok none
  | t :: _ =>
    if isDirective t || t = .documentStart then do
      let (handles, rest) ← Fault.require (directives? false ts [])
      match rest with
      | .fault cause :: _ => .error cause
      | .documentStart :: rest =>
        match rest with
        | [] => some <$> emptyContent rest
        | t :: _ =>
          if isDirective t || t = .documentStart || t = .documentEnd then some <$> emptyContent rest
          else some <$> content levels handles rest
      | _ => .error .invalid
    else some <$> content levels usualHandles ts

end Reading

end LuaIndex.Yaml

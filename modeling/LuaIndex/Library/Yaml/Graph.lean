import LuaIndex.Library.Yaml.Value

namespace LuaIndex.Yaml

/-- What a node holds. -/
inductive Content where
  | scalar (text : Text)
  | sequence (items : List Nat)
  | mapping (entries : List (Nat × Nat))
deriving DecidableEq

structure Node where
  kind : Kind
  content : Content
deriving DecidableEq

def Node.empty : Node :=
  ⟨.null, .scalar []⟩

structure Graph where
  nodes : Array Node

namespace Graph

def empty : Graph :=
  ⟨#[]⟩

def size (g : Graph) : Nat :=
  g.nodes.size

def node (g : Graph) (i : Nat) : Node :=
  g.nodes.getD i .empty

def kind (g : Graph) (i : Nat) : Kind :=
  (g.node i).kind

/-- The graph with one more node, whose number is the old size. -/
def add (g : Graph) (n : Node) : Graph :=
  ⟨g.nodes.push n⟩

def put (g : Graph) (i : Nat) (n : Node) : Graph :=
  ⟨g.nodes.setIfInBounds i n⟩

/-- The entries of a mapping; other nodes have none. -/
def entries (g : Graph) (i : Nat) : List (Nat × Nat) :=
  match (g.node i).content with
  | .mapping es => es
  | _ => []

def setEntries (g : Graph) (i : Nat) (es : List (Nat × Nat)) : Graph :=
  g.put i { g.node i with content := .mapping es }

def setKind (g : Graph) (i : Nat) (k : Kind) : Graph :=
  g.put i { g.node i with kind := k }

def isScalar (g : Graph) (i : Nat) : Bool :=
  match (g.node i).content with
  | .scalar _ => true
  | _ => false

def isMapping (g : Graph) (i : Nat) : Bool :=
  match (g.node i).content with
  | .mapping _ => true
  | _ => false

/-- The number of entries of all mappings. -/
def entryCount (g : Graph) : Nat :=
  g.nodes.foldl (fun n node =>
    match node.content with
    | .mapping es => n + es.length
    | _ => n) 0

/-- The text of a scalar, or of the default entry of a mapping. A chain of defaults that is longer
than there are nodes has no end. -/
def text (g : Graph) : (fuel : Nat) → Nat → Except Fault Text
  | 0, _ => .error (.slip .tooDeep)
  | fuel + 1, i =>
    match (g.node i).content with
    | .scalar t => .ok t
    | .sequence _ => .error .invalid
    | .mapping es =>
      match es.find? fun e => g.kind e.1 = .default with
      | some e => g.text fuel e.2
      | none => .error .invalid

/-- The value of a node that is no collection. A date must be written as a scalar. -/
def value (g : Graph) (i : Nat) : Except Fault Value :=
  let k := g.kind i
  if k.isScalar then do
    let t ← g.text (g.size + 1) i
    if k = .timestamp && !g.isScalar i then .error .invalid else Value.ofScalar k t
  else .error .invalid

/-- The first entry that merges: the entries before it, what it merges, the entries after it. -/
def splitMerge (g : Graph) :
    List (Nat × Nat) → Option (List (Nat × Nat) × Nat × List (Nat × Nat))
  | [] => none
  | (k, v) :: rest =>
    if g.kind k = .merge then some ([], v, rest)
    else (g.splitMerge rest).map fun (before, merged, after) => ((k, v) :: before, merged, after)

/-- Makes texts of the keys that mark defaults. -/
def plainKeys (g : Graph) (es : List (Nat × Nat)) : Graph :=
  es.foldl (fun g e => if g.kind e.1 = .default then g.setKind e.1 .text else g) g

/-- Takes into a mapping the entries of all that it merges, before its own ones so that these win; of
a sequence of mappings the first wins. `found` has those collected so far. Each step takes one
merging entry out of the graph, so their number is fuel enough. -/
def flatten : (fuel : Nat) → Graph → (i : Nat) → (found : List (Nat × Nat)) → Except Fault Graph
  | 0, _, _, _ => .error .invalid
  | fuel + 1, g, i, found =>
    match g.splitMerge (g.entries i) with
    | none =>
      let own := g.entries i
      .ok ((g.setEntries i (found ++ own)).plainKeys own)
    | some (before, merged, after) =>
      let g := g.setEntries i (before ++ after)
      match (g.node merged).content with
      | .mapping _ => do
        let g ← flatten fuel g merged []
        flatten fuel g i (found ++ g.entries merged)
      | .sequence items => do
        let (g, more) ← items.foldlM (fun (g, more) n =>
          if g.isMapping n then do
            let g ← flatten fuel g n []
            return (g, g.entries n ++ more)
          else .error .invalid) (g, [])
        flatten fuel g i (found ++ more)
      | .scalar _ => .error .invalid

end Graph

end LuaIndex.Yaml

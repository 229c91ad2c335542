import LuaIndex.Library.Yaml.Reading

namespace LuaIndex.Yaml

/-- The work on a document: values found so far and collections in the order in which they are met.
`merges` bounds the number of entries that merge. -/
structure Building where
  graph : Graph
  values : Array (Option Value)
  queue : Array Nat
  merges : Nat

namespace Building

def ofGraph (g : Graph) : Building :=
  ⟨g, Array.replicate g.size none, #[], g.entryCount⟩

def value? (b : Building) (i : Nat) : Option Value :=
  b.values.getD i none

def setValue (b : Building) (i : Nat) (v : Value) : Building :=
  { b with values := b.values.setIfInBounds i (some v) }

/-- Meets a node: its value is found at once, and a collection is filled later. -/
def meet (b : Building) (i : Nat) : Except Fault Building :=
  match b.value? i with
  | some _ => .ok b
  | none =>
    if (b.graph.kind i).isCollection then
      .ok { b.setValue i .other with queue := b.queue.push i }
    else (b.graph.value i).map (b.setValue i)

/-- Meets a key, which may be no collection, and its value. -/
def meetEntry (b : Building) (e : Nat × Nat) : Except Fault Building := do
  let b ← b.meet e.1
  if (b.graph.kind e.1).isCollection then .error .invalid else b.meet e.2

/-- Meets the key and the value of a mapping with one entry. -/
def meetPair (b : Building) (i : Nat) : Except Fault Building :=
  match (b.graph.node i).content with
  | .mapping [(k, v)] => do
    let b ← b.meet k
    b.meet v
  | _ => .error .invalid

/-- Meets all that a collection holds. -/
def fill (b : Building) (i : Nat) : Except Fault Building :=
  let n := b.graph.node i
  match n.kind, n.content with
  | .sequence, .sequence items => items.foldlM meet b
  | .orderedMap, .sequence items => items.foldlM meetPair b
  | .pairs, .sequence items => items.foldlM meetPair b
  | .mapping, .mapping _ => fillEntries
  | .set, .mapping _ => fillEntries
  | _, _ => .error .invalid
where
  fillEntries : Except Fault Building := do
    let g ← Graph.flatten (b.merges + 1) b.graph i []
    (g.entries i).foldlM meetEntry { b with graph := g }

/-- Fills the collections from a place of the queue on. -/
def fillFrom (place : Nat) : (fuel : Nat) → Building → Except Fault Building
  | 0, b => .ok b
  | fuel + 1, b =>
    match b.queue[place]? with
    | none => .ok b
    | some i => do fillFrom (place + 1) fuel (← b.fill i)

end Building

/-- A document: its graph with nothing left to merge, and the values of the nodes. -/
structure Document where
  root : Nat
  graph : Graph
  values : Array (Option Value)

namespace Document

def ofGraph (root : Nat) (g : Graph) : Except Fault Document := do
  let b ← (Building.ofGraph g).meet root
  let b ← b.fillFrom 0 (g.size + 1)
  return ⟨root, b.graph, b.values⟩

/-- The document in a text whose nodes are nested to so many `levels` at most; an empty text has none. -/
def ofText (levels : Nat) (t : Text) : Except Fault (Option Document) := do
  match ← Reading.document levels (Token.ofText t) with
  | none => return none
  | some (root, g) => return some (← ofGraph root g)

/-- The value of a node that is no collection. -/
def value? (d : Document) (i : Nat) : Option Value :=
  d.values.getD i none

def text? (d : Document) (i : Nat) : Option Text :=
  match d.value? i with
  | some (.text t) => some t
  | _ => none

/-- What a node says, down to so many steps below it. Of several entries under one key the last counts. -/
def data (d : Document) : (steps : Nat) → Nat → Data
  | 0, _ => .other
  | steps + 1, i =>
    match d.graph.kind i, (d.graph.node i).content with
    | .sequence, .sequence items => .list (items.map (d.data steps))
    | .orderedMap, .sequence items => .list (items.map fun _ => .other)
    | .pairs, .sequence items => .list (items.map fun _ => .other)
    | .mapping, .mapping entries =>
      .mapping (entries.reverse.filterMap fun e => (d.text? e.1).map fun key => (key, d.data steps e.2))
    | _, _ =>
      match d.value? i with
      | some (.bool b) => .bool b
      | some (.int n) => .int n
      | some (.text t) => .text t
      | _ => .other

end Document

/-- The steps from a document to the texts in a list of its settings. -/
def settingSteps : Nat := 4

/-- What a text says to a reader of settings. -/
def read (levels : Nat) (t : Text) : Except DataFault Data :=
  match Document.ofText levels t with
  | .ok (some d) => .ok (d.data settingSteps d.root)
  | .ok none => .ok .other
  | .error .invalid => .error .invalid
  | .error (.slip s) => .error (.failure s.failure)

end LuaIndex.Yaml

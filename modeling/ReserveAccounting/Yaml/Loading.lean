import ReserveAccounting.Document.Fields
import ReserveAccounting.Yaml.Node

/-!
# Loading

The document that a text of this language denotes. Mappings may take entries
over from others under the merge key; what they say themselves comes later and
wins. A key must be a value that does not change, so no list and no mapping.

Nodes are loaded level by level: what lies in a sequence or mapping is loaded
after everything on the level of that node. A node is loaded once, so that an
alias stands for the very value of its node; a value that comes to lie within
itself is marked.
-/

namespace ReserveAccounting
namespace Yaml

/-! ## Keys -/

/-- Keys of the numeric kinds are compared by value. -/
def numberOf? : Document → Option (Int ⊕ Float)
  | .bool b => some (.inl (if b then 1 else 0))
  | .int n => some (.inl n)
  | .float x =>
      match Document.truncateFloat x with
      | some n => if Float.ofInt n == x then some (.inl n) else some (.inr x)
      | none => some (.inr x)
  | _ => none

def sameKey (a b : Document) : Bool :=
  match a, b with
  | .null, .null => true
  | .text s, .text t => s == t
  | .bytes s, .bytes t => s == t
  | .day d, .day e => d == e
  | .moment d t, .moment e u => ClockTime.isSame d t e u
  | a, b =>
      match numberOf? a, numberOf? b with
      | some (.inl m), some (.inl n) => m == n
      | some (.inr x), some (.inr y) => x == y || (x.isNaN && y.isNaN)
      | _, _ => false

/-- Writes an entry; a key that is there keeps its place. -/
def writeEntry {α : Type} (entries : List (Document × α)) (e : Document × α) : List (Document × α) :=
  if entries.any fun old => sameKey old.1 e.1 then
    entries.map fun old => if sameKey old.1 e.1 then (old.1, e.2) else old
  else entries ++ [e]

/-! ## Loading nodes -/

inductive Made where
  | scalar (value : Document)
  | list (items : List Nat)
  | tuples (items : List (Nat × Nat))
  | set (keys : List Document)
  | map (entries : List (Document × Nat))
deriving Inhabited

namespace Made

def key? : Made → Option Document
  | scalar d => some d
  | _ => none

def isMap : Made → Bool
  | map _ => true
  | _ => false

end Made

structure Loader where
  nodes : Nodes
  made : Array (Option Made)
  /-- Sequences and mappings whose parts are yet to be loaded, the latest first. -/
  waiting : List Nat

abbrev Loading (α : Type) : Type := StateT Loader (Except Failure) α

namespace Loading

def stop {α : Type} : Loading α := throw .malformed

def node (n : Nat) : Loading Node := do
  match (← get).nodes[n]? with
  | some node => return node
  | none => stop

def tagOf (n : Nat) : Loading Tag := return (← node n).tag

def setTag (n : Nat) (tag : Tag) : Loading Unit :=
  modify fun l => { l with nodes := l.nodes.modify n fun node => { node with tag := tag } }

def entriesOf (n : Nat) : Loading (List (Nat × Nat)) := do
  match (← node n).body with
  | .mapping entries => return entries
  | _ => stop

def setEntries (n : Nat) (entries : List (Nat × Nat)) : Loading Unit :=
  modify fun l =>
    { l with nodes := l.nodes.modify n fun node => { node with body := .mapping entries } }

def setMade (n : Nat) (m : Made) : Loading Unit :=
  modify fun l => { l with made := l.made.setIfInBounds n (some m) }

def bound : Loading Nat := return (← get).nodes.size + 1

/-! ### Merging -/

/-- What a list of mappings brings: of two entries with one key that of the earlier mapping counts. -/
def bringAll (flatten : Nat → Loading Unit) (items : List Nat) : Loading (List (Nat × Nat)) := do
  let parts ← items.mapM fun item => do
    let _ ← entriesOf item
    flatten item
    entriesOf item
  return parts.reverse.flatten

def bring (flatten : Nat → Loading Unit) (value : Nat) : Loading (List (Nat × Nat)) := do
  match (← node value).body with
  | .mapping _ =>
      flatten value
      entriesOf value
  | .sequence items => bringAll flatten items
  | .scalar _ => stop

/--
Looks at the entry of a mapping at a place. A merge key is taken out, with what it brings added to
what was brought before; a default key becomes an ordinary text.
-/
def sift (flatten : Nat → Loading Unit) (n : Nat) (place : Nat) (brought : List (Nat × Nat)) :
    Loading (Nat × List (Nat × Nat)) := do
  let entries ← entriesOf n
  match entries[place]? with
  | none => return (place, brought)
  | some (key, value) =>
      match ← tagOf key with
      | .merge =>
          setEntries n (entries.eraseIdx place)
          let more ← bring flatten value
          return (place, brought ++ more)
      | .defaultKey =>
          setTag key .text
          return (place + 1, brought)
      | _ => return (place + 1, brought)

def flatten : Nat → Nat → Loading Unit
  | 0, _ => stop
  | fuel + 1, n => do
      let count := (← entriesOf n).length
      let (_, brought) ← (List.range count).foldlM
        (fun (r : Nat × List (Nat × Nat)) _ => sift (flatten fuel) n r.1 r.2) (0, [])
      setEntries n (brought ++ (← entriesOf n))

/-! ### Scalars -/

/-- The text of a scalar; a mapping lends the value of its default key, and may not lend itself. -/
def scalarText : Nat → Nat → Loading String
  | 0, _ => throw (.value .nestedTooDeep)
  | fuel + 1, n => do
      match (← node n).body with
      | .scalar s => return s
      | .sequence _ => stop
      | .mapping entries =>
          match ← entries.findM? fun e => return (← tagOf e.1) = .defaultKey with
          | some e => scalarText fuel e.2
          | none => stop

def scalarValue (n : Nat) (tag : Tag) : Loading Document := do
  let text ← scalarText (← bound) n
  match tag, (← node n).body with
  | .timestamp, .mapping _ => throw (.value .wrongKind)
  | tag, _ => tag.valueOf text

/-! ### Levels -/

def visit (n : Nat) : Loading Unit := do
  match (← get).made[n]? with
  | some (some _) => return
  | _ =>
      let tag ← tagOf n
      if tag.isCollection then
        setMade n (.list [])
        modify fun l => { l with waiting := n :: l.waiting }
      else setMade n (.scalar (← scalarValue n tag))

def visitKey (n : Nat) : Loading Document := do
  visit n
  match ((← get).made[n]?).join.bind Made.key? with
  | some d => return d
  | none => stop

def fillMapping (n : Nat) : Loading (List (Document × Nat)) := do
  let _ ← entriesOf n
  flatten (← bound) n
  (← entriesOf n).foldlM
    (fun entries e => do
      let key ← visitKey e.1
      visit e.2
      return writeEntry entries (key, e.2)) []

def fillSequence (n : Nat) : Loading (List Nat) := do
  match (← node n).body with
  | .sequence items =>
      items.forM visit
      return items
  | _ => stop

def fillTuples (n : Nat) : Loading (List (Nat × Nat)) := do
  match (← node n).body with
  | .sequence items =>
      items.mapM fun item => do
        match ← entriesOf item with
        | [e] =>
            visit e.1
            visit e.2
            return e
        | _ => stop
  | _ => stop

def fill (n : Nat) : Loading Unit := do
  match ← tagOf n with
  | .sequence => setMade n (.list (← fillSequence n))
  | .mapping => setMade n (.map (← fillMapping n))
  | .set => setMade n (.set ((← fillMapping n).map Prod.fst))
  | _ => setMade n (.tuples (← fillTuples n))

def settle : Nat → Loading Unit
  | 0 => stop
  | fuel + 1 => do
      match (← get).waiting with
      | [] => return
      | level =>
          modify fun l => { l with waiting := [] }
          level.reverse.forM fill
          settle fuel

end Loading

/-! ## Documents -/

abbrev Finished : Type := Array (Option Document)

abbrev Part : Type := Document × List Nat

/-- Marks a value if it lies within itself, and keeps it if nothing in it refers outward. -/
def finish (n : Nat) (d : Document) (labels : List Nat) : StateM Finished Part := do
  let part : Part :=
    if labels.contains n then (.marked n d, labels.filter (· ≠ n)) else (d, labels)
  if part.2.isEmpty then modify fun f => f.setIfInBounds n (some part.1)
  return part

def assemble (made : Array (Option Made)) : Nat → List Nat → Nat → StateM Finished Part
  | 0, _, _ => return (.null, [])
  | fuel + 1, path, n => do
      match ((← get)[n]?).join, (made[n]?).join with
      | some d, _ => return (d, [])
      | none, none => return (.null, [])
      | none, some m =>
          if path.contains n then return (.again n m.isMap, [n])
          else
            let below := assemble made fuel (n :: path)
            match m with
            | .scalar d => return (d, [])
            | .set keys => return (.set keys, [])
            | .list items => do
                let parts ← items.mapM below
                finish n (.list (parts.map Prod.fst)) (parts.flatMap Prod.snd)
            | .map entries => do
                let parts ← entries.mapM fun e => below e.2
                finish n (.map ((entries.map Prod.fst).zip (parts.map Prod.fst)))
                  (parts.flatMap Prod.snd)
            | .tuples items => do
                let parts ← items.mapM fun e => do
                  let first ← below e.1
                  let second ← below e.2
                  return (first, second)
                finish n (.list (parts.map fun p => .tuple [p.1.1, p.2.1]))
                  (parts.flatMap fun p => p.1.2 ++ p.2.2)

def Nodes.document (nodes : Nodes) (root : Nat) : Except Failure Document := do
  let start : Loader := ⟨nodes, Array.replicate nodes.size none, []⟩
  let ((), loaded) ← (do
    Loading.visit root
    Loading.settle (nodes.size + 2) : Loading Unit).run start
  .ok ((assemble loaded.made (nodes.size + 2) [] root).run (Array.replicate nodes.size none)).1.1

def read (text : String) : Except Failure Document := do
  let cs := unifyLines text.toList
  if !cs.all isAdmitted then .error .malformed
  let (nodes, root) ← Node.ofText cs
  match root with
  | none => .ok .null
  | some n => nodes.document n

end Yaml
end ReserveAccounting

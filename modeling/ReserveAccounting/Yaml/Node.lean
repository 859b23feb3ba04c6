import ReserveAccounting.Yaml.Tag
import ReserveAccounting.Yaml.Token

/-!
# Nodes

The nodes that the tokens of a document describe, each under a number. Every node
has a type; an alias is the node that its anchor names, which may be one that
the alias lies in.
-/

namespace ReserveAccounting
namespace Yaml

/-- What a node holds; the nodes in it are named by their numbers. -/
inductive NodeBody where
  | scalar (text : String)
  | sequence (items : List Nat)
  | mapping (entries : List (Nat × Nat))
deriving Inhabited

structure Node where
  tag : Tag
  body : NodeBody
deriving Inhabited

abbrev Nodes : Type := Array Node

structure NodeReader where
  stream : TokenStream
  nodes : Nodes
  depth : Nat
  anchors : List (String × Nat)
  handles : List (String × String)

abbrev Reading (α : Type) : Type := StateT NodeReader (Except Failure) α

namespace Reading

def stop {α : Type} : Reading α := fun _ => .error .malformed

def maxDepth : Nat := 488

def add (n : Node) : Reading Nat := fun r => .ok (r.nodes.size, { r with nodes := r.nodes.push n })

def setBody (number : Nat) (body : NodeBody) : Reading Unit :=
  modify fun r => { r with nodes := r.nodes.modify number fun n => { n with body := body } }

def deeper {α : Type} (m : Reading α) : Reading α := do
  let depth := (← get).depth
  if maxDepth ≤ depth then throw (.value .nestedTooDeep)
  modify fun r => { r with depth := depth + 1 }
  let a ← m
  modify fun r => { r with depth := depth }
  return a

def peek : Reading Token := fun r =>
  match r.stream.tokens with
  | t :: _ => .ok (t, r)
  | [] => .error (r.stream.failure.getD .malformed)

def skip : Reading Unit := fun r =>
  .ok ((), { r with stream := { r.stream with tokens := r.stream.tokens.tail } })

def accept (t : Token) : Reading Bool := do
  if (← peek) = t then
    skip
    return true
  else return false

def expect (t : Token) : Reading Unit := do
  if ← accept t then return else stop

end Reading

namespace Node

open Reading

def absent : Reading Nat := add ⟨.null, .scalar ""⟩

/-! ## Properties of a node -/

def resolveTag (handle : Option String) (suffix : String) : Reading String := do
  match handle with
  | none => return suffix
  | some h =>
      match (← get).handles.lookup h with
      | some home => return home ++ suffix
      | none => stop

def takeAnchor : Reading (Option String) := do
  match ← peek with
  | .anchor name =>
      skip
      return some name
  | _ => return none

def takeTag : Reading (Option String) := do
  match ← peek with
  | .tag handle suffix =>
      skip
      return some (← resolveTag handle suffix)
  | _ => return none

def properties : Reading (Option String × Option String) := do
  let anchor ← takeAnchor
  let tag ← takeTag
  match anchor with
  | some _ => return (anchor, tag)
  | none => return (← takeAnchor, tag)

def name (anchor : Option String) (n : Nat) : Reading Unit := do
  match anchor with
  | none => return
  | some a =>
      let r ← get
      if (r.anchors.lookup a).isSome then stop else set { r with anchors := (a, n) :: r.anchors }

def named (a : String) : Reading Nat := do
  match (← get).anchors.lookup a with
  | some n => return n
  | none => stop

/-- A tag that says nothing leaves the type open. -/
def isOpen (tag : Option String) : Bool := tag.isNone || tag == some "!"

def collectionTag (tag : Option String) (usual : Tag) : Tag :=
  match tag with
  | some uri => if uri = "!" then usual else .ofUri uri
  | none => usual

/-- A quoted scalar is a text, a plain one is what it looks like, unless a tag says otherwise. -/
def scalarTag (tag : Option String) (text : String) (isPlain : Bool) : Tag :=
  match tag with
  | some uri => if uri = "!" then .ofPlain text else .ofUri uri
  | none => if isPlain then .ofPlain text else .text

/-! ## Nodes of every kind -/

def addScalar (anchor : Option String) (tag : Tag) (text : String) : Reading Nat := do
  let n ← add ⟨tag, .scalar text⟩
  name anchor n
  return n

def leftOut (anchor tag : Option String) : Reading Nat := do
  if anchor.isNone && tag.isNone then stop
  else addScalar anchor (if isOpen tag then .null else scalarTag tag "" false) ""

def around (anchor : Option String) (tag : Tag) (parts : Reading NodeBody) : Reading Nat := do
  let n ← add ⟨tag, .scalar ""⟩
  name anchor n
  setBody n (← deeper parts)
  return n

def readSequence (anchor tag : Option String) (items : Reading (List Nat)) : Reading Nat :=
  around anchor (collectionTag tag .sequence) (return .sequence (← items))

def readMapping (anchor tag : Option String) (entries : Reading (List (Nat × Nat))) : Reading Nat :=
  around anchor (collectionTag tag .mapping) (return .mapping (← entries))

def orAbsent (ends : List Token) (node : Reading Nat) : Reading Nat := do
  if ends.contains (← peek) then absent else node

def valuePart (ends : List Token) (node : Reading Nat) : Reading Nat := do
  if ← accept .value then orAbsent ends node else absent

def flowEnd (closing : Token) (isFirst : Bool) : Reading Bool := do
  if ← accept closing then return true
  else if isFirst then return false
  else
    expect .flowEntry
    accept closing

mutual

/-- A node. In a block it may be a block itself, and after a key a sequence need not be indented. -/
def read : Nat → (inBlock afterKey : Bool) → Reading Nat
  | 0, _, _ => stop
  | fuel + 1, inBlock, afterKey => do
      match ← peek with
      | .alias a =>
          skip
          named a
      | _ =>
          let (anchor, tag) ← properties
          match ← peek with
          | .scalar text isPlain =>
              skip
              addScalar anchor (scalarTag tag text isPlain) text
          | .flowSequenceStart =>
              skip
              readSequence anchor tag (flowItems fuel true)
          | .flowMappingStart =>
              skip
              readMapping anchor tag (flowEntries fuel true)
          | .blockSequenceStart =>
              if inBlock then
                skip
                readSequence anchor tag (blockItems fuel)
              else leftOut anchor tag
          | .blockMappingStart =>
              if inBlock then
                skip
                readMapping anchor tag (blockEntries fuel)
              else leftOut anchor tag
          | .blockEntry =>
              if afterKey then readSequence anchor tag (looseItems fuel) else leftOut anchor tag
          | _ => leftOut anchor tag

def blockItems : Nat → Reading (List Nat)
  | 0 => stop
  | fuel + 1 => do
      if ← accept .blockEntry then
        let item ← orAbsent [.blockEntry, .blockEnd] (read fuel true false)
        return item :: (← blockItems fuel)
      else
        expect .blockEnd
        return []

/-- The items of a sequence that is not indented below its key. -/
def looseItems : Nat → Reading (List Nat)
  | 0 => stop
  | fuel + 1 => do
      if ← accept .blockEntry then
        let item ← orAbsent [.blockEntry, .key, .value, .blockEnd] (read fuel true false)
        return item :: (← looseItems fuel)
      else return []

def blockEntries : Nat → Reading (List (Nat × Nat))
  | 0 => stop
  | fuel + 1 => do
      if ← accept .key then
        let ends := [.key, .value, .blockEnd]
        let key ← orAbsent ends (read fuel true true)
        let value ← valuePart ends (read fuel true true)
        return (key, value) :: (← blockEntries fuel)
      else
        expect .blockEnd
        return []

def flowItems : Nat → Bool → Reading (List Nat)
  | 0, _ => stop
  | fuel + 1, isFirst => do
      if ← flowEnd .flowSequenceEnd isFirst then return []
      else
        let ends := [.flowEntry, .flowSequenceEnd]
        if ← accept .key then
          let item ← readMapping none none do
            let key ← orAbsent (.value :: ends) (read fuel false false)
            let value ← valuePart ends (read fuel false false)
            return [(key, value)]
          return item :: (← flowItems fuel false)
        else
          let item ← read fuel false false
          return item :: (← flowItems fuel false)

/-- Entries between braces; a node alone is a key without a value. -/
def flowEntries : Nat → Bool → Reading (List (Nat × Nat))
  | 0, _ => stop
  | fuel + 1, isFirst => do
      if ← flowEnd .flowMappingEnd isFirst then return []
      else
        let ends := [.flowEntry, .flowMappingEnd]
        if ← accept .key then
          let key ← orAbsent (.value :: ends) (read fuel false false)
          let value ← valuePart ends (read fuel false false)
          return (key, value) :: (← flowEntries fuel false)
        else
          let key ← read fuel false false
          let value ← absent
          return (key, value) :: (← flowEntries fuel false)

end

/-! ## Documents -/

def usualHandles : List (String × String) := [("!", "!"), ("!!", Tag.home)]

def directives : Nat → Bool → List (String × String) → Reading (List (String × String))
  | 0, _, _ => stop
  | fuel + 1, versioned, handles => do
      match ← peek with
      | .versionDirective major =>
          if versioned || major ≠ 1 then stop
          else
            skip
            directives fuel true handles
      | .tagDirective handle uri =>
          if (handles.lookup handle).isSome then stop
          else
            skip
            directives fuel versioned ((handle, uri) :: handles)
      | .otherDirective =>
          skip
          directives fuel versioned handles
      | _ => return handles

def skipDocumentEnds : Nat → Reading Unit
  | 0 => stop
  | fuel + 1 => do
      if ← accept .documentEnd then skipDocumentEnds fuel else return

def startsExplicitly : Token → Bool
  | .versionDirective _ => true
  | .tagDirective _ _ => true
  | .otherDirective => true
  | .documentStart => true
  | _ => false

def endsDocument (t : Token) : Bool :=
  startsExplicitly t || t = .documentEnd || t = .streamEnd

def document (fuel : Nat) : Reading (Option Nat) := do
  let first ← peek
  if first = .streamEnd then return none
  else
    let n ←
      if startsExplicitly first then do
        let handles ← directives fuel false []
        modify fun r => { r with handles := handles ++ usualHandles }
        expect .documentStart
        if endsDocument (← peek) then absent else read fuel true false
      else read fuel true false
    skipDocumentEnds fuel
    expect .streamEnd
    return some n

def ofText (cs : List Char) : Except Failure (Nodes × Option Nat) := do
  let stream := Token.scan cs
  let (n, r) ← (document (3 * stream.tokens.length + 3)).run ⟨stream, #[], 0, [], usualHandles⟩
  .ok (r.nodes, n)

end Node
end Yaml
end ReserveAccounting

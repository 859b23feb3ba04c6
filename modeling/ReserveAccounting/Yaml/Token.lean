import ReserveAccounting.Yaml.Scalar

/-!
# Tokens

The tokens of a text. Indentation opens and closes blocks; a mapping key in one
line is recognised only at the colon behind it, so the places where such a key
may have started are remembered, one for each level of brackets.
-/

namespace ReserveAccounting
namespace Yaml

inductive Token where
  | streamEnd
  | versionDirective (major : Nat)
  | tagDirective (handle uri : String)
  | otherDirective
  | documentStart
  | documentEnd
  | blockSequenceStart
  | blockMappingStart
  | blockEnd
  | flowSequenceStart
  | flowSequenceEnd
  | flowMappingStart
  | flowMappingEnd
  | blockEntry
  | flowEntry
  | key
  | value
  | alias (name : String)
  | anchor (name : String)
  | tag (handle : Option String) (suffix : String)
  | scalar (text : String) (isPlain : Bool)
deriving DecidableEq, Repr, Inhabited

/-- The tokens of a text, and why there are no more of them if the text breaks off. -/
structure TokenStream where
  tokens : List Token
  failure : Option Failure

structure PendingKey where
  number : Nat
  /-- A token at the indentation of its block must turn out to be a key. -/
  required : Bool
  index : Nat
  line : Nat
  column : Nat

structure Lexer where
  cursor : Cursor
  flowLevel : Nat
  emitted : List Token
  indent : Int
  outer : List Int
  keyAllowed : Bool
  pending : List (Nat × PendingKey)
deriving Inhabited

namespace Lexer

def start (cs : List Char) : Lexer := ⟨.start cs, 0, [], -1, [], true, []⟩

def emit (t : Token) (l : Lexer) : Lexer := { l with emitted := t :: l.emitted }

def moveTo (c : Cursor) (l : Lexer) : Lexer := { l with cursor := c }

def inFlow (l : Lexer) : Bool := l.flowLevel ≠ 0

/-! ## Keys that may have started -/

/-- A key must end within so many characters. -/
def maxKeyLength : Nat := 1024

def isStale (l : Lexer) (k : PendingKey) : Bool :=
  k.line ≠ l.cursor.line || maxKeyLength < l.cursor.index - k.index

def dropStale (l : Lexer) : Except Failure Lexer :=
  if l.pending.any fun e => l.isStale e.2 && e.2.required then .error .malformed
  else .ok { l with pending := l.pending.filter fun e => !l.isStale e.2 }

def dropKey (l : Lexer) : Except Failure Lexer :=
  match l.pending.lookup l.flowLevel with
  | some k =>
      if k.required then .error .malformed
      else .ok { l with pending := l.pending.filter fun e => e.1 ≠ l.flowLevel }
  | none => .ok l

def saveKey (l : Lexer) : Except Failure Lexer :=
  if l.keyAllowed then do
    let l ← l.dropKey
    let c := l.cursor
    let key : PendingKey :=
      ⟨l.emitted.length, !l.inFlow && l.indent = c.column, c.index, c.line, c.column⟩
    .ok { l with pending := (l.flowLevel, key) :: l.pending }
  else .ok l

def insertAt (number : Nat) (ts : List Token) (l : Lexer) : Lexer :=
  let newer := l.emitted.length - number
  { l with emitted := l.emitted.take newer ++ ts.reverse ++ l.emitted.drop newer }

/-! ## Blocks -/

def unwindTo (column : Int) : List Int → Lexer → Lexer
  | [], l => l
  | i :: rest, l =>
      if column < l.indent then
        unwindTo column rest { l with indent := i, outer := rest, emitted := .blockEnd :: l.emitted }
      else l

def unwind (column : Int) (l : Lexer) : Lexer :=
  if l.inFlow then l else unwindTo column l.outer l

def openBlock (column : Nat) (l : Lexer) : Option Lexer :=
  if l.indent < column then some { l with indent := column, outer := l.indent :: l.outer } else none

def openBlockHere (t : Token) (l : Lexer) : Lexer :=
  match l.openBlock l.cursor.column with
  | some l => l.emit t
  | none => l

/-! ## Blanks and comments -/

/-- Skips blanks, comments and line ends; outside brackets a key may start on a new line. -/
def skipBlanks : Nat → Lexer → Lexer
  | 0, l => l
  | fuel + 1, l =>
      let c := l.cursor.skipSpaces.skipComment
      match c.takeBreak? with
      | some (_, c) => skipBlanks fuel { l with cursor := c, keyAllowed := l.keyAllowed || !l.inFlow }
      | none => { l with cursor := c }

def skipMark (l : Lexer) : Lexer :=
  if l.cursor.index = 0 && l.cursor.peek = some '\ufeff' then l.moveTo l.cursor.next else l

/-! ## Directives -/

def isUriChar (c : Char) : Bool :=
  isNameChar c ||
    [';', '/', '?', ':', '@', '&', '=', '+', '$', ',', '.', '!', '~', '*', '\'', '(', ')', '[', ']'].contains c

def uriBytes : Nat → Cursor → Except Failure (List UInt8 × Cursor)
  | 0, _ => .error .malformed
  | fuel + 1, c =>
      if c.peek = some '%' then
        let digits := c.next.rest.take 2
        match ofHex? digits with
        | some n =>
            if digits.length = 2 then do
              let (more, c) ← uriBytes fuel (c.advance 3)
              .ok (n.toUInt8 :: more, c)
            else .error .malformed
        | none => .error .malformed
      else .ok ([], c)

def uriParts : Nat → Cursor → Except Failure (List Char × Cursor)
  | 0, _ => .error .malformed
  | fuel + 1, c =>
      let (part, c) := c.takeWhile isUriChar
      if c.peek = some '%' then do
        let (bytes, c) ← uriBytes c.fuel c
        match String.fromUTF8? ⟨bytes.toArray⟩ with
        | none => .error .malformed
        | some s => do
            let (more, c) ← uriParts fuel c
            .ok (part ++ s.toList ++ more, c)
      else .ok (part, c)

def uri (c : Cursor) : Except Failure (String × Cursor) := do
  let (cs, c) ← uriParts c.fuel c
  if cs.isEmpty then .error .malformed else .ok (String.ofList cs, c)

def handle (c : Cursor) : Except Failure (String × Cursor) :=
  if c.peek ≠ some '!' then .error .malformed
  else if c.peekAt 1 = some ' ' then .ok ("!", c.next)
  else
    let (name, c) := c.next.takeWhile isNameChar
    if c.peek = some '!' then .ok (String.ofList ('!' :: name ++ ['!']), c.next)
    else .error .malformed

def number (c : Cursor) : Except Failure (Nat × Cursor) :=
  let (digits, c) := c.takeWhile isDecimal
  if digits.isEmpty then .error .malformed
  else .ok (digits.foldl (fun n d => 10 * n + (d.toNat - '0'.toNat)) 0, c)

def versionDirective (c : Cursor) : Except Failure (Token × Cursor) := do
  let (major, c) ← number c.skipSpaces
  if c.peek ≠ some '.' then .error .malformed
  else
    let (_, c) ← number c.next
    if endsPart c.peek then .ok (.versionDirective major, c) else .error .malformed

def tagDirective (c : Cursor) : Except Failure (Token × Cursor) := do
  let (h, c) ← handle c.skipSpaces
  if c.peek ≠ some ' ' then .error .malformed
  else
    let (u, c) ← uri c.skipSpaces
    if endsPart c.peek then .ok (.tagDirective h u, c) else .error .malformed

def directive (c : Cursor) : Except Failure (Token × Cursor) := do
  let (name, c) := c.next.takeWhile isNameChar
  if name.isEmpty || !endsPart c.peek then .error .malformed
  else
    let (t, c) ←
      if name = "YAML".toList then versionDirective c
      else if name = "TAG".toList then tagDirective c
      else Except.ok (.otherDirective, c.skipWhile fun ch => !isBreak ch)
    let c ← c.finishLine
    .ok (t, c)

/-! ## Anchors, aliases and tags -/

def nodeName (c : Cursor) : Except Failure (String × Cursor) :=
  let (name, c) := c.next.takeWhile isNameChar
  let ends := endsWord c.peek ||
    c.peek.any fun ch => ['?', ':', ',', ']', '}', '%', '@', '`'].contains ch
  if name.isEmpty || !ends then .error .malformed else .ok (String.ofList name, c)

def namesHandle (c : Cursor) : Bool :=
  ((c.next.rest.takeWhile fun ch => !endsPart (some ch)).contains '!')

def tag (c : Cursor) : Except Failure (Token × Cursor) := do
  let (t, c) ←
    if c.peekAt 1 = some '<' then do
      let (u, c) ← uri (c.advance 2)
      if c.peek = some '>' then Except.ok (Token.tag none u, c.next) else Except.error .malformed
    else if endsWord (c.peekAt 1) then Except.ok (Token.tag none "!", c.next)
    else if namesHandle c then do
      let (h, c) ← handle c
      let (u, c) ← uri c
      Except.ok (Token.tag (some h) u, c)
    else do
      let (u, c) ← uri c.next
      Except.ok (Token.tag (some "!") u, c)
  if endsPart c.peek then .ok (t, c) else .error .malformed

/-! ## One token -/

def topLevel (l : Lexer) (t : Token) (c : Cursor) : Except Failure Lexer := do
  let l ← (l.unwind (-1)).dropKey
  .ok ({ l with keyAllowed := false, cursor := c }.emit t)

def flowStart (l : Lexer) (t : Token) : Except Failure Lexer := do
  let l ← l.saveKey
  .ok ({ l with flowLevel := l.flowLevel + 1, keyAllowed := true, cursor := l.cursor.next }.emit t)

def flowEnd (l : Lexer) (t : Token) : Except Failure Lexer := do
  if l.inFlow then
    let l ← l.dropKey
    .ok ({ l with flowLevel := l.flowLevel - 1, keyAllowed := false, cursor := l.cursor.next }.emit t)
  else .error .malformed

def flowEntry (l : Lexer) : Except Failure Lexer := do
  let l ← l.dropKey
  .ok ({ l with keyAllowed := true, cursor := l.cursor.next }.emit .flowEntry)

def blockEntry (l : Lexer) : Except Failure Lexer := do
  if !l.inFlow && !l.keyAllowed then .error .malformed
  else
    let l := if l.inFlow then l else l.openBlockHere .blockSequenceStart
    let l ← l.dropKey
    .ok ({ l with keyAllowed := true, cursor := l.cursor.next }.emit .blockEntry)

def explicitKey (l : Lexer) : Except Failure Lexer := do
  if !l.inFlow && !l.keyAllowed then .error .malformed
  else
    let l := if l.inFlow then l else l.openBlockHere .blockMappingStart
    let l ← l.dropKey
    .ok ({ l with keyAllowed := !l.inFlow, cursor := l.cursor.next }.emit .key)

/-- A colon: what started at the pending place is a key, or the key came before. -/
def valueMark (l : Lexer) : Except Failure Lexer := do
  match l.pending.lookup l.flowLevel with
  | some k =>
      let l := { l with pending := l.pending.filter fun e => e.1 ≠ l.flowLevel }
      let l :=
        match if l.inFlow then none else l.openBlock k.column with
        | some l => l.insertAt k.number [.blockMappingStart, .key]
        | none => l.insertAt k.number [.key]
      .ok ({ l with keyAllowed := false, cursor := l.cursor.next }.emit .value)
  | none =>
      if !l.inFlow && !l.keyAllowed then .error .malformed
      else
        let l := if l.inFlow then l else l.openBlockHere .blockMappingStart
        let l ← { l with keyAllowed := !l.inFlow }.dropKey
        .ok ({ l with cursor := l.cursor.next }.emit .value)

def keyed (l : Lexer) (read : Cursor → Except Failure (Token × Cursor)) : Except Failure Lexer := do
  let l ← l.saveKey
  let (t, c) ← read l.cursor
  .ok ({ l with keyAllowed := false, cursor := c }.emit t)

def plainScalar (l : Lexer) : Except Failure Lexer := do
  let l ← l.saveKey
  let (cs, c, lineEnded) := plain l.inFlow (l.indent + 1) l.cursor.fuel [] false l.cursor
  .ok ({ l with keyAllowed := lineEnded, cursor := c }.emit (.scalar (String.ofList cs) true))

def quotedScalar (l : Lexer) (double : Bool) : Except Failure Lexer :=
  l.keyed fun c => do
    let (cs, c) ← quoted double c
    .ok (.scalar (String.ofList cs) false, c)

def blockScalar (l : Lexer) (isFolded : Bool) : Except Failure Lexer := do
  let l ← { l with keyAllowed := true }.dropKey
  let (cs, c) ← block isFolded l.indent l.cursor
  .ok ((l.moveTo c).emit (.scalar (String.ofList cs) false))

def isIndicator (c : Char) : Bool :=
  ['-', '?', ':', ',', '[', ']', '{', '}', '#', '&', '*', '!', '|', '>', '\'', '"', '%', '@', '`'].contains c

def startsPlain (l : Lexer) (c : Char) : Bool :=
  (!endsWord (some c) && !isIndicator c) ||
    (!endsWord (l.cursor.peekAt 1) && (c = '-' || (!l.inFlow && (c = '?' || c = ':'))))

def tokenAt (l : Lexer) (ch : Char) : Except Failure Lexer :=
  let c := l.cursor
  let marks := l.inFlow || endsWord (c.peekAt 1)
  if ch = '%' && c.column = 0 then do
    let (t, c') ← directive c
    topLevel l t c'
  else if ch = '-' && c.column = 0 && c.atDocumentMark then topLevel l .documentStart (c.advance 3)
  else if ch = '.' && c.column = 0 && c.atDocumentMark then topLevel l .documentEnd (c.advance 3)
  else if ch = '[' then l.flowStart .flowSequenceStart
  else if ch = '{' then l.flowStart .flowMappingStart
  else if ch = ']' then l.flowEnd .flowSequenceEnd
  else if ch = '}' then l.flowEnd .flowMappingEnd
  else if ch = ',' then l.flowEntry
  else if ch = '-' && endsWord (c.peekAt 1) then l.blockEntry
  else if ch = '?' && marks then l.explicitKey
  else if ch = ':' && marks then l.valueMark
  else if ch = '*' then l.keyed fun c => do
    let (name, c) ← nodeName c
    .ok (.alias name, c)
  else if ch = '&' then l.keyed fun c => do
    let (name, c) ← nodeName c
    .ok (.anchor name, c)
  else if ch = '!' then l.keyed tag
  else if ch = '|' && !l.inFlow then l.blockScalar false
  else if ch = '>' && !l.inFlow then l.blockScalar true
  else if ch = '\'' then l.quotedScalar false
  else if ch = '"' then l.quotedScalar true
  else if l.startsPlain ch then l.plainScalar
  else .error .malformed

def step (l : Lexer) : Except Failure (Lexer × Bool) := do
  let l := skipBlanks l.cursor.fuel l.skipMark
  let l ← l.dropStale
  let l := l.unwind l.cursor.column
  match l.cursor.peek with
  | none =>
      let l ← (l.unwind (-1)).dropKey
      .ok (l.emit .streamEnd, true)
  | some ch =>
      let l ← l.tokenAt ch
      .ok (l, false)

def run : Nat → Lexer → TokenStream
  | 0, l => ⟨l.emitted.reverse, some .malformed⟩
  | fuel + 1, l =>
      match l.step with
      | .error f => ⟨l.emitted.reverse, some f⟩
      | .ok (l, true) => ⟨l.emitted.reverse, none⟩
      | .ok (l, false) => run fuel l

end Lexer

def Token.scan (cs : List Char) : TokenStream := Lexer.run (cs.length + 2) (.start cs)

end Yaml
end ReserveAccounting

import ReserveAccounting.Yaml.Cursor

/-!
# Scalars in a text

The three ways to write a scalar: plain, between quotes, and as a block of
lines. A single line end inside a scalar counts as a space, more of them count
as one less; a block keeps its line ends unless it is folded.
-/

namespace ReserveAccounting
namespace Yaml

/-- A line end between words, given the line ends that follow it. -/
def folded (lineEnd : Char) (more : List Char) : List Char :=
  (if lineEnd ≠ '\n' then [lineEnd] else if more.isEmpty then [' '] else []) ++ more

/-! ## Plain scalars -/

def endsKey (inFlow : Bool) (c : Option Char) : Bool :=
  endsWord c || (inFlow && (c.any fun c => [',', '[', ']', '{', '}'].contains c))

def plainWord (inFlow : Bool) : List Char → List Char
  | [] => []
  | c :: rest =>
      if endsWord (some c) || (c = ':' && endsKey inFlow rest.head?) ||
          (inFlow && [',', '?', '[', ']', '{', '}'].contains c)
      then []
      else c :: plainWord inFlow rest

def plainBreaks : Nat → Cursor → Option (List Char) × Cursor
  | 0, c => (none, c)
  | fuel + 1, c =>
      let c := c.skipSpaces
      match c.takeBreak? with
      | none => (some [], c)
      | some (b, c) =>
          if c.atDocumentMark then (none, c)
          else
            let (more, c) := plainBreaks fuel c
            (more.map (b :: ·), c)

/-- What stands between two words of a plain scalar, and whether a line has ended. -/
def plainGap (c : Cursor) : List Char × Cursor × Bool :=
  let (spaces, c) := c.takeWhile (· = ' ')
  match c.takeBreak? with
  | none => (spaces, c, false)
  | some (b, c) =>
      if c.atDocumentMark then ([], c, true)
      else
        match plainBreaks c.fuel c with
        | (none, c) => ([], c, true)
        | (some more, c) => (folded b more, c, true)

def plain (inFlow : Bool) (indent : Int) : Nat → List Char → Bool → Cursor → List Char × Cursor × Bool
  | 0, _, lineEnded, c => ([], c, lineEnded)
  | fuel + 1, gap, lineEnded, c =>
      let word := if c.peek = some '#' then [] else plainWord inFlow c.rest
      if word.isEmpty then ([], c, lineEnded)
      else
        let (gap', c, lineEnded) := plainGap (c.advance word.length)
        if gap'.isEmpty || c.peek = some '#' || (!inFlow && (c.column : Int) < indent) then
          (gap ++ word, c, lineEnded)
        else
          let (more, c, lineEnded) := plain inFlow indent fuel gap' lineEnded c
          (gap ++ word ++ more, c, lineEnded)

/-! ## Quoted scalars -/

def escapes : List (Char × Char) :=
  [('0', '\x00'), ('a', '\x07'), ('b', '\x08'), ('t', '\t'), ('\t', '\t'), ('n', '\n'), ('v', '\x0b'),
    ('f', '\x0c'), ('r', '\r'), ('e', '\x1b'), (' ', ' '), ('"', '"'), ('\\', '\\'), ('/', '/'),
    ('N', '\x85'), ('_', '\u00a0'), ('L', '\u2028'), ('P', '\u2029')]

def codeWidth? (c : Char) : Option Nat :=
  if c = 'x' then some 2 else if c = 'u' then some 4 else if c = 'U' then some 8 else none

def charOfCode (n : Nat) : Except Failure Char :=
  if n < 0x110000 then .ok (if n.isValidChar then Char.ofNat n else '\ufffd')
  else if n < 0x80000000 then .error (.value .unreadable)
  else .error (.value (.decimal .infiniteInteger))

/-- The line ends of a quoted scalar behind its first one; blanks around them are dropped. -/
def quotedBreaks : Nat → Cursor → Except Failure (List Char × Cursor)
  | 0, _ => .error .malformed
  | fuel + 1, c =>
      if c.atDocumentMark then .error .malformed
      else
        let c := c.skipWhile isGap
        match c.takeBreak? with
        | none => .ok ([], c)
        | some (b, c) => do
            let (more, c) ← quotedBreaks fuel c
            .ok (b :: more, c)

def code? (c : Cursor) : Option (Nat × Cursor) := do
  let width ← codeWidth? (← c.peek)
  let digits := c.next.rest.take width
  if digits.length < width then none
  else some (← ofHex? digits, c.next.advance width)

def pairedCode? (high : Nat) (c : Cursor) : Option (Char × Cursor) := do
  if !(0xD800 ≤ high && high ≤ 0xDBFF && c.peek = some '\\') then none
  let (low, c) ← code? c.next
  if 0xDC00 ≤ low && low ≤ 0xDFFF then
    some (Char.ofNat (0x10000 + (high - 0xD800) * 0x400 + (low - 0xDC00)), c)
  else none

def escaped (c : Cursor) : Except Failure (List Char × Cursor) :=
  match c.takeBreak? with
  | some (_, c) => quotedBreaks c.fuel c
  | none =>
      match c.peek with
      | none => .error .malformed
      | some ch =>
          match escapes.lookup ch with
          | some r => .ok ([r], c.next)
          | none =>
              match code? c with
              | none => .error .malformed
              | some (n, c) =>
                  match pairedCode? n c with
                  | some (r, c) => .ok ([r], c)
                  | none => do
                      let r ← charOfCode n
                      .ok ([r], c)

def isQuotedPlain (c : Char) : Bool := !(c = '\'' || c = '"' || c = '\\' || isGap c || isBreak c)

def quotedWord (double : Bool) : Nat → Cursor → Except Failure (List Char × Cursor)
  | 0, _ => .error .malformed
  | fuel + 1, c =>
      let (word, c) := c.takeWhile isQuotedPlain
      let continueWith (more : List Char) (c : Cursor) : Except Failure (List Char × Cursor) := do
        let (rest, c) ← quotedWord double fuel c
        .ok (word ++ more ++ rest, c)
      match c.peek with
      | some '\'' =>
          if double then continueWith ['\''] c.next
          else if c.peekAt 1 = some '\'' then continueWith ['\''] (c.advance 2)
          else .ok (word, c)
      | some '"' => if double then .ok (word, c) else continueWith ['"'] c.next
      | some '\\' =>
          if double then do
            let (more, c) ← escaped c.next
            continueWith more c
          else continueWith ['\\'] c.next
      | _ => .ok (word, c)

def quotedGap (c : Cursor) : Except Failure (List Char × Cursor) :=
  let (blanks, c) := c.takeWhile isGap
  match c.takeBreak? with
  | some (b, c) => do
      let (more, c) ← quotedBreaks c.fuel c
      .ok (folded b more, c)
  | none => if c.peek.isNone then .error .malformed else .ok (blanks, c)

def quotedRest (double : Bool) : Nat → Cursor → Except Failure (List Char × Cursor)
  | 0, _ => .error .malformed
  | fuel + 1, c =>
      if c.peek = some (if double then '"' else '\'') then .ok ([], c.next)
      else do
        let (gap, c) ← quotedGap c
        let (word, c) ← quotedWord double c.fuel c
        let (rest, c) ← quotedRest double fuel c
        .ok (gap ++ word ++ rest, c)

def quoted (double : Bool) (c : Cursor) : Except Failure (List Char × Cursor) := do
  let (word, c) ← quotedWord double c.fuel c.next
  let (rest, c) ← quotedRest double c.fuel c
  .ok (word ++ rest, c)

/-! ## Blocks -/

inductive Chomping where
  | strip
  | clip
  | keep
deriving DecidableEq, Repr

def chomping? : Option Char → Option Chomping
  | some '+' => some .keep
  | some '-' => some .strip
  | _ => none

/-- An indentation indicator is a digit other than zero. -/
def indentStep (c : Cursor) : Except Failure (Option Nat × Cursor) :=
  match c.peek with
  | some d =>
      if isDecimal d then
        if d = '0' then .error .malformed else .ok (some (d.toNat - '0'.toNat), c.next)
      else .ok (none, c)
  | none => .ok (none, c)

def blockHeader (c : Cursor) : Except Failure (Chomping × Option Nat × Cursor) := do
  let (chomping, step, c) ← match chomping? c.peek with
    | some chomping => do
        let (step, c) ← indentStep c.next
        Except.ok (chomping, step, c)
    | none => do
        let (step, c) ← indentStep c
        match step, chomping? c.peek with
        | some _, some chomping => Except.ok (chomping, step, c.next)
        | _, _ => Except.ok (.clip, step, c)
  if endsPart c.peek then .ok (chomping, step, c) else .error .malformed

def blockStart : Nat → Nat → Cursor → List Char × Nat × Cursor
  | 0, widest, c => ([], widest, c)
  | fuel + 1, widest, c =>
      match c.takeBreak? with
      | some (b, c) =>
          let (more, widest, c) := blockStart fuel widest c
          (b :: more, widest, c)
      | none =>
          if c.peek = some ' ' then blockStart fuel (max widest c.next.column) c.next
          else ([], widest, c)

def skipIndent (indent : Nat) (c : Cursor) : Cursor :=
  c.advance ((c.rest.take (indent - c.column)).takeWhile (· = ' ')).length

def blockBreaks (indent : Nat) : Nat → Cursor → List Char × Cursor
  | 0, c => ([], c)
  | fuel + 1, c =>
      let c := skipIndent indent c
      match c.takeBreak? with
      | none => ([], c)
      | some (b, c) =>
          let (more, c) := blockBreaks indent fuel c
          (b :: more, c)

/-- The line end of a block's line; the last line of a text may have none. -/
def optionalBreak (c : Cursor) : List Char × Cursor :=
  match c.takeBreak? with
  | some (b, c) => ([b], c)
  | none => ([], c)

/-- Lines of a block with the empty lines before them; answers also what ends the block. -/
def blockLines (isFolded : Bool) (indent : Nat) :
    Nat → List Char → Cursor → List Char × List Char × List Char × Cursor
  | 0, breaks, c => ([], [], breaks, c)
  | fuel + 1, breaks, c =>
      let startsWithText := !(c.peek.any isGap)
      let (line, c) := c.takeWhile fun ch => !isBreak ch
      let (lineEnd, c) := optionalBreak c
      let (more, c) := blockBreaks indent c.fuel c
      if c.column = indent && c.peek.isSome then
        let joint :=
          if isFolded && lineEnd = ['\n'] && startsWithText && !(c.peek.any isGap) then
            (if more.isEmpty then [' '] else [])
          else lineEnd
        let (text, lastEnd, trailing, c) := blockLines isFolded indent fuel more c
        (breaks ++ line ++ joint ++ text, lastEnd, trailing, c)
      else (breaks ++ line, lineEnd, more, c)

def block (isFolded : Bool) (outer : Int) (c : Cursor) : Except Failure (List Char × Cursor) := do
  let (chomping, step, c) ← blockHeader c.next
  let c ← c.finishLine
  let least := (max (outer + 1) 1).toNat
  let (breaks, indent, c) :=
    match step with
    | none =>
        let (breaks, widest, c) := blockStart c.fuel 0 c
        (breaks, max least widest, c)
    | some n =>
        let indent := least + n - 1
        let (breaks, c) := blockBreaks indent c.fuel c
        (breaks, indent, c)
  let (text, lastEnd, trailing, c) :=
    if c.column = indent && c.peek.isSome then blockLines isFolded indent c.fuel breaks c
    else ([], [], breaks, c)
  .ok (text ++ (if chomping = .strip then [] else lastEnd) ++
    (if chomping = .keep then trailing else []), c)

end Yaml
end ReserveAccounting

import ReserveAccounting.Refusal

/-!
# Places in a text

A cursor is what is left of a text together with the place where it starts. Line
ends are a line feed, a next line, and the two separators of Unicode; a byte
order mark takes no column.
-/

namespace ReserveAccounting
namespace Yaml

inductive Failure where
  /-- The text is no document of this language, or has a value of no known type. -/
  | malformed
  /-- A scalar says what type it has and denotes no value of it. -/
  | value (fault : Fault)
deriving Inhabited

/-! ## Characters -/

def isBreak (c : Char) : Bool := c = '\n' || c = '\x85' || c = '\u2028' || c = '\u2029'

def isGap (c : Char) : Bool := c = ' ' || c = '\t'

def endsLine : Option Char → Bool
  | none => true
  | some c => isBreak c

def endsPart (c : Option Char) : Bool := endsLine c || c == some ' '

def endsWord (c : Option Char) : Bool := endsPart c || c == some '\t'

def isDecimal (c : Char) : Bool := '0' ≤ c && c ≤ '9'

def isNameChar (c : Char) : Bool :=
  isDecimal c || ('A' ≤ c && c ≤ 'Z') || ('a' ≤ c && c ≤ 'z') || c = '-' || c = '_'

def hexValue? (c : Char) : Option Nat :=
  if isDecimal c then some (c.toNat - '0'.toNat)
  else if 'a' ≤ c && c ≤ 'f' then some (c.toNat - 'a'.toNat + 10)
  else if 'A' ≤ c && c ≤ 'F' then some (c.toNat - 'A'.toNat + 10)
  else none

def ofHex? (cs : List Char) : Option Nat :=
  cs.foldlM (fun n c => (hexValue? c).map (16 * n + ·)) 0

def isAdmitted (c : Char) : Bool :=
  c = '\t' || c = '\n' || (' ' ≤ c && c ≤ '~') || c = '\x85' ||
    ('\u00a0' ≤ c && c ≠ '\ufffe' && c ≠ '\uffff')

/-- Every kind of line end of a text file becomes a line feed. -/
def unifyLines : List Char → List Char
  | [] => []
  | '\r' :: '\n' :: rest => '\n' :: unifyLines rest
  | '\r' :: rest => '\n' :: unifyLines rest
  | c :: rest => c :: unifyLines rest

/-! ## Cursors -/

structure Cursor where
  rest : List Char
  index : Nat
  line : Nat
  column : Nat
deriving Inhabited

namespace Cursor

def start (cs : List Char) : Cursor := ⟨cs, 0, 0, 0⟩

def next (c : Cursor) : Cursor :=
  match c.rest with
  | [] => c
  | ch :: rest =>
      if isBreak ch then ⟨rest, c.index + 1, c.line + 1, 0⟩
      else if ch = '\ufeff' then ⟨rest, c.index + 1, c.line, c.column⟩
      else ⟨rest, c.index + 1, c.line, c.column + 1⟩

def advance : Nat → Cursor → Cursor
  | 0, c => c
  | n + 1, c => advance n c.next

def peek (c : Cursor) : Option Char := c.rest.head?

def peekAt (c : Cursor) (n : Nat) : Option Char := c.rest[n]?

/-- A bound for loops that move forward. -/
def fuel (c : Cursor) : Nat := c.rest.length + 1

def takeWhile (p : Char → Bool) (c : Cursor) : List Char × Cursor :=
  let taken := c.rest.takeWhile p
  (taken, c.advance taken.length)

def skipWhile (p : Char → Bool) (c : Cursor) : Cursor := (c.takeWhile p).2

def skipSpaces (c : Cursor) : Cursor := c.skipWhile (· = ' ')

def skipComment (c : Cursor) : Cursor :=
  if c.peek = some '#' then c.skipWhile fun ch => !isBreak ch else c

/-- The line end at the cursor as it counts in a value, and the cursor behind it. -/
def takeBreak? (c : Cursor) : Option (Char × Cursor) :=
  match c.peek with
  | some ch =>
      if isBreak ch then some (if ch = '\x85' then '\n' else ch, c.next) else none
  | none => none

def atDocumentMark (c : Cursor) : Bool :=
  let mark := c.rest.take 3
  (mark = ['-', '-', '-'] || mark = ['.', '.', '.']) && endsWord (c.peekAt 3)

def finishLine (c : Cursor) : Except Failure Cursor :=
  let c := c.skipSpaces.skipComment
  if endsLine c.peek then
    .ok (match c.takeBreak? with
      | some (_, c) => c
      | none => c)
  else .error .malformed

theorem rest_start (cs : List Char) : (start cs).rest = cs := rfl

theorem rest_next (c : Cursor) : c.next.rest = c.rest.tail := by
  unfold next
  split
  · next h => simp [h]
  · next h =>
      rw [h]
      split
      · rfl
      · split <;> rfl

theorem rest_advance (n : Nat) (c : Cursor) : (c.advance n).rest = c.rest.drop n := by
  induction n generalizing c with
  | zero => rfl
  | succ n ih => rw [advance, ih, rest_next, List.drop_tail]

end Cursor
end Yaml
end ReserveAccounting

import ReserveAccounting.Text.Blank
import ReserveAccounting.Text.WidthTable

/-!
# Wrapping

Text is set into lines of bounded width. Words go to the next line whole if they
fit there; a word that is wider than a line is folded or cut. Blanks stay behind
the word that they follow; those at the end of a line that is too long go first.
-/

namespace ReserveAccounting
namespace Console

def splitLines (cs : List Char) : List (List Char) := cs.splitOn '\n'

def tabWidth : Nat := 8

def expandTabs : Nat → List Char → List Char
  | _, [] => []
  | position, '\t' :: rest =>
      let n := tabWidth - position % tabWidth
      List.replicate n ' ' ++ expandTabs (position + n) rest
  | position, c :: rest => c :: expandTabs (position + Text.charWidth c) rest

def wordsAfter (seen : List Char) : List Char → List (List Char)
  | [] => [seen.reverse]
  | c :: rest =>
      if !Text.isBlank c && seen.any (!Text.isBlank ·) && (seen.head?.any Text.isBlank) then
        seen.reverse :: wordsAfter [c] rest
      else wordsAfter (c :: seen) rest

def words (cs : List Char) : List (List Char) := wordsAfter [] cs

/-- Words cut a line up and lose nothing of it. -/
theorem flatten_wordsAfter (seen cs : List Char) :
    (wordsAfter seen cs).flatten = seen.reverse ++ cs := by
  induction cs generalizing seen with
  | nil => simp [wordsAfter]
  | cons c rest ih =>
      simp only [wordsAfter]
      split <;> simp [ih]

theorem flatten_words (cs : List Char) : (words cs).flatten = cs := flatten_wordsAfter [] cs

def trimEnd (cs : List Char) : List Char := (cs.reverse.dropWhile Text.isBlank).reverse

/-- Folds a word into parts that fit; `seen` is the part so far, reversed, `used` wide. -/
def fold (width : Nat) (seen : List Char) (used : Nat) : List Char → List (List Char)
  | [] => [seen.reverse]
  | c :: rest =>
      if width < used + Text.charWidth c then seen.reverse :: fold width [c] (Text.charWidth c) rest
      else fold width (c :: seen) (used + Text.charWidth c) rest

theorem flatten_fold (width : Nat) (seen : List Char) (used : Nat) (cs : List Char) :
    (fold width seen used cs).flatten = seen.reverse ++ cs := by
  induction cs generalizing seen used with
  | nil => simp [fold]
  | cons c rest ih =>
      simp only [fold]
      split <;> simp [ih]

inductive Overflow where
  | fold
  | ellipsis
deriving DecidableEq, Repr, Inhabited

/-- Sets words behind a line that is begun; `first` tells that no word came before. -/
def setWords (overflow : Overflow) (width : Nat) :
    Bool → List Char → Nat → List (List Char) → List (List Char)
  | _, line, _, [] => [line]
  | first, line, used, word :: rest =>
      let needed := Text.width (trimEnd word)
      if used + needed ≤ width then
        setWords overflow width false (line ++ word) (used + Text.width word) rest
      else if width < needed then
        let parts := if overflow = .fold then fold width [] 0 word else [word]
        let last := parts.getLastD []
        (if first then [] else [line]) ++ parts.dropLast ++
          setWords overflow width false last (Text.width last) rest
      else if used ≠ 0 && !first then
        line :: setWords overflow width false word (Text.width word) rest
      else setWords overflow width false (line ++ word) used rest

/-! ## Lines of a width -/

def blanks (n : Nat) : List Char := List.replicate n ' '

def startOfWidth (total : Nat) (line : List Char) : Nat → Nat → Nat → List Char
  | 0, low, _ => line.take (low + 1)
  | fuel + 1, low, high =>
      let middle := (low + high) / 2
      let start := line.take (middle + 1)
      let width := Text.width start
      if width = total + 1 && start.getLast?.any fun c => Text.charWidth c = 2 then
        start.dropLast ++ [' ']
      else if width = total then start
      else if total < width then startOfWidth total line fuel low middle
      else startOfWidth total line fuel middle high

def sized (total : Nat) (line : List Char) : List Char :=
  let width := Text.width line
  if total = 0 then []
  else if width ≤ total then line ++ blanks (total - width)
  else startOfWidth total line (line.length + 1) 0 line.length

def ellipsis : Char := '…'

def cutTo (overflow : Overflow) (width : Nat) (line : List Char) : List Char :=
  if Text.width line ≤ width then line
  else
    match overflow with
    | .fold => sized width line
    | .ellipsis => sized (width - 1) line ++ [ellipsis]

/-- Takes blanks off the end of a line that has more characters than its width. -/
def trimExcess (width : Nat) (line : List Char) : List Char :=
  let trailing := (line.reverse.takeWhile Text.isBlank).length
  line.take (line.length - min trailing (line.length - width))

inductive Side where
  | free
  | left
  | right
  | middle
deriving DecidableEq, Repr, Inhabited

def aligned (side : Side) (overflow : Overflow) (width : Nat) (line : List Char) : List Char :=
  match side with
  | .free => cutTo overflow width line
  | .left =>
      let line := cutTo overflow width line
      line ++ blanks (width - Text.width line)
  | .right =>
      let line := cutTo overflow width (trimEnd line)
      blanks (width - Text.width line) ++ line
  | .middle =>
      let line := cutTo overflow width (trimEnd line)
      let rest := width - Text.width line
      blanks (rest / 2) ++ line ++ blanks (rest - rest / 2)

def wrap (side : Side) (overflow : Overflow) (width : Nat) (cs : List Char) : List (List Char) :=
  (splitLines cs).flatMap fun line =>
    (setWords overflow width true [] 0 (words (expandTabs 0 line))).map fun line =>
      aligned side overflow width (trimExcess width line)

end Console
end ReserveAccounting

import ReserveAccounting.Console.Markup
import ReserveAccounting.Console.Wrapping
import ReserveAccounting.Text.Lines

/-!
# Grids and panels

A grid is a table with a title, named columns and rows of cells. Its columns are
as wide as their widest cell, unless the whole is wider than the console: then
the widest columns give way first. A panel is a frame as wide as the console,
with a title in its upper edge.
-/

namespace ReserveAccounting
namespace Console

inductive Frame where
  | rounded
  /-- One line below the names of the columns. -/
  | simple
deriving DecidableEq, Repr, Inhabited

structure Column where
  name : String
  side : Side
deriving Repr, Inhabited

structure Grid where
  title : String
  columns : List Column
  headed : Bool
  rows : List (List String)
  frame : Frame
deriving Repr, Inhabited

/-! ## Widths -/

def naturalWidth (cs : List Char) : Nat := ((Text.linesAfter [] cs).map Text.width).foldl max 0

def roundedQuotient (a b : Nat) : Nat :=
  let q := a / b
  let twice := 2 * (a % b)
  if b < twice then q + 1 else if twice < b then q else q + q % 2

/--
Takes an excess evenly from the columns marked to give way, at most `most` from
each; `sharing` of them are still to come.
-/
def takeEvenly (most : Nat) : Nat → Nat → List (Nat × Bool) → List Nat
  | _, _, [] => []
  | excess, sharing, (w, gives) :: rest =>
      if gives && 0 < sharing then
        let part := min most (roundedQuotient excess sharing)
        (w - part) :: takeEvenly most (excess - part) (sharing - 1) rest
      else w :: takeEvenly most excess sharing rest

/-- One round of narrowing: the widest columns give way down to the next in width. -/
def narrowOnce (excess : Nat) (widths : List Nat) : Option (List Nat) :=
  let widest := widths.foldl max 0
  let next := (widths.map fun w => if w = widest then 0 else w).foldl max 0
  if widest = next then none
  else
    let marked := widths.map fun w => (w, w == widest)
    some (takeEvenly (min excess (widest - next)) excess (widths.count widest) marked)

def totalWidth (widths : List Nat) : Nat := widths.foldl (· + ·) 0

def narrow (available : Nat) : Nat → List Nat → List Nat
  | 0, widths => widths
  | rounds + 1, widths =>
      if totalWidth widths ≤ available then widths
      else
        match narrowOnce (totalWidth widths - available) widths with
        | some widths => narrow available rounds widths
        | none => widths

def cellPadding : Nat := 2

def edges (columns : Nat) : Nat := columns - 1 + 2

def columnWidths (available : Nat) (columns : List (List (List Char))) : List Nat :=
  let natural := columns.map fun cells =>
    min available ((cells.map naturalWidth).foldl max 0 + cellPadding)
  narrow available (available + columns.length) natural

/-! ## Lines of a grid -/

def joinWith (left separator right : Char) (parts : List (List Char)) : List Char :=
  left :: (List.intercalate [separator] parts) ++ [right]

def Frame.side : Frame → Char
  | rounded => '│'
  | simple => ' '

def rule (left cross right : Char) (widths : List Nat) : List Char :=
  joinWith left cross right (widths.map fun w => List.replicate w '─')

def Frame.top : Frame → List Nat → List (List Char)
  | rounded, widths => [rule '╭' '┬' '╮' widths]
  | simple, _ => []

def Frame.belowNames : Frame → List Nat → List Char
  | rounded, widths => rule '├' '┼' '┤' widths
  | simple, widths => rule ' ' '─' ' ' widths

def Frame.bottom : Frame → List Nat → List (List Char)
  | rounded, widths => [rule '╰' '┴' '╯' widths]
  | simple, _ => []

def rowLines (frame : Frame) (columns : List (Nat × Side)) (cells : List (List Char)) :
    List (List Char) :=
  let wrapped := (columns.zip cells).map fun c =>
    let width := c.1.1 - cellPadding
    (width, wrap c.1.2 .ellipsis width c.2)
  let height := (wrapped.map fun c => c.2.length).foldl max 0
  (List.range height).map fun i =>
    joinWith frame.side frame.side frame.side
      (wrapped.map fun c => ' ' :: (c.2[i]?).getD (blanks c.1) ++ [' '])

def columnAt {α : Type} (rows : List (List α)) (i : Nat) : List α := rows.filterMap (·[i]?)

/--
The lines of a grid on a console of a width. All cells are read before any is
set, since the widths of the columns depend on them.
-/
def Grid.lines (g : Grid) (width : Nat) : Except Fault (List (List Char)) := do
  let count := g.columns.length
  let texts := if g.headed then g.columns.map (·.name) :: g.rows else g.rows
  let columns ← (List.range count).mapM fun i => (columnAt texts i).mapM Markup.read
  let widths := columnWidths (width - edges count) (columns.map fun cells => cells.map (·.text))
  let total := totalWidth widths + edges count
  let title ← Markup.read g.title
  title.check
  let rows := (List.range texts.length).map (columnAt columns)
  rows.forM fun cells => cells.forM Markup.Shown.check
  let places := widths.zip (g.columns.map (·.side))
  let parts := rows.map fun cells => rowLines g.frame places (cells.map (·.text))
  let body :=
    if g.headed then parts.take 1 ++ [[g.frame.belowNames widths]] ++ parts.drop 1 else parts
  .ok ((if g.title.isEmpty then [] else wrap .middle .fold total title.text) ++
    g.frame.top widths ++ body.flatten ++ g.frame.bottom widths)

/-! ## Panels and paragraphs -/

def titledEdge (width : Nat) (title : List Char) : List Char :=
  let oneLine := expandTabs 0 (title.map fun c => if c = '\n' then ' ' else c)
  let label := cutTo .fold (width - 4) (' ' :: oneLine ++ [' '])
  let rest := width - 4 - Text.width label
  let bar (n : Nat) : List Char := List.replicate n '─'
  ['╭', '─'] ++ bar (rest / 2) ++ label ++ bar (rest - rest / 2) ++ ['─', '╮']

def panel (width : Nat) (title : String) (content : Grid) : Except Fault (List (List Char)) := do
  let title ← Markup.read title
  let inner ← content.lines (width - 4)
  title.check
  let framed (line : List Char) : List Char :=
    ['│', ' '] ++ line ++ blanks (width - 4 - Text.width line) ++ [' ', '│']
  .ok (titledEdge width title.text :: inner.map framed ++ [['╰'] ++ List.replicate (width - 2) '─' ++ ['╯']])

def paragraph (width : Nat) (text : String) : Except Fault (List (List Char)) := do
  let shown ← Markup.read text
  shown.check
  .ok (wrap .free .fold width shown.text)

end Console
end ReserveAccounting

import ReserveAccounting.Console.Emoji
import ReserveAccounting.Console.Literal
import ReserveAccounting.Console.Style
import ReserveAccounting.Refusal

/-!
# Style tags

Texts for the console carry tags between square brackets that open and close
styles. A console without colors shows the text alone, but it still refuses a
closing tag that closes nothing, and a handler that cannot be read. Backslashes
in front of a tag escape it. Between tags, codes of emoji become pictures.
-/

namespace ReserveAccounting
namespace Console
namespace Markup

/-! ## Pieces -/

inductive Piece where
  | plain (text : List Char)
  | tag (content : List Char)
deriving DecidableEq, Repr

def startsTag (c : Char) : Bool := ('a' ≤ c && c ≤ 'z') || c = '#' || c = '/' || c = '@'

/-- The content of a tag, behind its opening bracket; another opening bracket spoils it. -/
def tagContent? : List Char → Option (List Char)
  | c :: rest =>
      if startsTag c then
        match rest.dropWhile (fun d => d ≠ ']' && d ≠ '[') with
        | ']' :: _ => some (c :: rest.takeWhile (fun d => d ≠ ']' && d ≠ '['))
        | _ => none
      else none
  | [] => none

def backslashes (n : Nat) : List Char := List.replicate n '\\'

/--
Splits a text into its pieces. `skip` characters belong to a tag that was read
already, `seen` is the plain text since the last tag, in reverse, and `slashes`
backslashes stand right in front. Two of them in front of a tag show one; an odd
one escapes the tag, or a bracket that opens none.
-/
def pieces : Nat → List Char → Nat → List Char → List Piece
  | _, seen, slashes, [] => [.plain (seen.reverse ++ backslashes slashes)]
  | skip + 1, seen, slashes, _ :: rest => pieces skip seen slashes rest
  | 0, seen, slashes, '\\' :: rest => pieces 0 seen (slashes + 1) rest
  | 0, seen, slashes, '[' :: rest =>
      match tagContent? rest with
      | some content =>
          let piece := if slashes % 2 = 1 then .plain ('[' :: content ++ [']']) else .tag content
          .plain seen.reverse :: .plain (backslashes (slashes / 2)) :: piece ::
            pieces (content.length + 1) [] 0 rest
      | none => pieces 0 ('[' :: backslashes (slashes - 1) ++ seen) 0 rest
  | 0, seen, slashes, c :: rest => pieces 0 (c :: backslashes slashes ++ seen) 0 rest

/-! ## Tags -/

structure OpenTag where
  style : String
  parameter : Option (List Char)
deriving Repr

namespace OpenTag

def nameOf (content : List Char) : String := String.ofList (content.takeWhile (· ≠ '='))

def parameterOf (content : List Char) : Option (List Char) :=
  match content.dropWhile (· ≠ '=') with
  | [] => none
  | _ :: parameter => some parameter

def description (t : OpenTag) : String :=
  match t.parameter with
  | none => t.style
  | some parameter => t.style ++ " " ++ String.ofList parameter

def isHandled (t : OpenTag) : Bool := t.style.startsWith "@"

def isInOrder (t : OpenTag) : Bool :=
  match t.parameter with
  | none => true
  | some parameter =>
      parameter.isEmpty || !t.isHandled || Literal.isHandler (Text.trimWhere Text.isBlank parameter)

end OpenTag

def readable {α : Type} : Except StyleFault α → Except Fault α
  | .ok a => .ok a
  | .error _ => .error .unreadable

/-- Checks a style before it is applied; a description that means nothing has no effect. -/
def checkStyle (t : OpenTag) : Except Fault Unit :=
  match Style.ofText t.description with
  | .error .notNumber => .error .unreadable
  | _ => .ok ()

def close? (style : String) : List OpenTag → Option (OpenTag × List OpenTag)
  | [] => none
  | t :: outer =>
      if t.style = style then some (t, outer)
      else (close? style outer).map fun r => (r.1, t :: r.2)

structure Shown where
  text : List Char
  styled : List OpenTag

/-- Drops the tags; `opened` holds the open ones, the latest first. -/
def withoutTags (opened : List OpenTag) : List Piece → Except Fault Shown
  | [] => .ok ⟨[], opened⟩
  | .plain text :: rest => do
      let shown ← withoutTags opened rest
      .ok ⟨Emoji.replaceCodes text ++ shown.text, shown.styled⟩
  | .tag ('/' :: content) :: rest => do
      let name := Text.strip (OpenTag.nameOf content)
      let closed ← if name.isEmpty then .ok (opened.head?.map (·, opened.tail)) else do
        .ok (close? (← readable (Style.normalForm name)) opened)
      match closed with
      | none => .error .malformedTag
      | some (t, outer) =>
          if !t.isInOrder then .error .malformedTag
          let shown ← withoutTags outer rest
          .ok ⟨shown.text, if t.isHandled then shown.styled else t :: shown.styled⟩
  | .tag content :: rest => do
      let style ← readable (Style.normalForm (OpenTag.nameOf content))
      withoutTags (⟨style, OpenTag.parameterOf content⟩ :: opened) rest

def isHidden (c : Char) : Bool := [7, 8, 11, 12, 13].contains c.toNat

def read (text : String) : Except Fault Shown := do
  let shown ← withoutTags [] (pieces 0 [] 0 text.toList)
  .ok { shown with text := shown.text.filter fun c => !isHidden c }

def Shown.check (shown : Shown) : Except Fault Unit := shown.styled.forM checkStyle

end Markup
end Console
end ReserveAccounting

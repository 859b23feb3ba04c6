import ReserveAccounting.Console.ColorTable
import ReserveAccounting.Text.Case
import ReserveAccounting.Text.Integer

/-!
# Styles

A style is described by words: attributes, which may be negated, a color, a
background behind `on` and a target behind `link`. Descriptions with the same
effect have one normal form, so that a style can be closed under another
description than the one that opened it.
-/

namespace ReserveAccounting
namespace Console

/-! ## Attributes -/

inductive Attribute where
  | bold
  | dim
  | italic
  | underline
  | blink
  | fastBlink
  | reverse
  | conceal
  | strike
  | doubleUnderline
  | frame
  | encircle
  | overline
deriving DecidableEq, Repr

namespace Attribute

def all : List Attribute :=
  [bold, dim, italic, underline, blink, fastBlink, reverse, conceal, strike, doubleUnderline, frame,
    encircle, overline]

def name : Attribute → String
  | bold => "bold"
  | dim => "dim"
  | italic => "italic"
  | underline => "underline"
  | blink => "blink"
  | fastBlink => "blink2"
  | reverse => "reverse"
  | conceal => "conceal"
  | strike => "strike"
  | doubleUnderline => "underline2"
  | frame => "frame"
  | encircle => "encircle"
  | overline => "overline"

def shortName? : Attribute → Option String
  | bold => some "b"
  | dim => some "d"
  | italic => some "i"
  | underline => some "u"
  | reverse => some "r"
  | conceal => some "c"
  | strike => some "s"
  | doubleUnderline => some "uu"
  | overline => some "o"
  | _ => none

def ofWord? (word : String) : Option Attribute :=
  all.find? fun a => a.name = word || a.shortName? = some word

theorem ofWord?_name (a : Attribute) : ofWord? a.name = some a := by cases a <;> decide

end Attribute

/-! ## Colors -/

inductive StyleFault where
  /-- A word has no meaning where it stands. -/
  | unknown
  /-- A part of a color is no number. -/
  | notNumber
deriving DecidableEq, Repr

namespace Color

def greatest : Int := 255

def argument? (word : String) (cs : List Char) : Option (List Char) :=
  let front := word.toList ++ ['(']
  if front.isPrefixOf cs && cs.getLast? = some ')' then some (cs.drop front.length).dropLast else none

def isHexDigit (c : Char) : Bool := c.isDigit || ('a' ≤ c && c ≤ 'f')

def isHex : List Char → Bool
  | '#' :: digits => digits.length = 6 && digits.all isHexDigit
  | _ => false

def isNumber (digits : List Char) : Bool :=
  !digits.isEmpty && digits.length ≤ 3 && digits.all Char.isDigit &&
    (digits.foldl (fun n c => 10 * n + (c.toNat - '0'.toNat)) 0 : Nat) ≤ greatest

def checkParts (cs : List Char) : Except StyleFault Unit := do
  if cs.isEmpty || cs.any fun c => !(Text.isDigit c || Text.isBlank c || c = ',') then .error .unknown
  let parts := (String.ofList cs).splitOn ","
  if parts.length ≠ 3 then .error .unknown
  let numbers ← parts.mapM fun part => (Text.integer? part).elim (.error .notNumber) .ok
  if numbers.all (· ≤ greatest) then .ok () else .error .unknown

def ofWord (word : String) : Except StyleFault String := do
  let name := Text.strip (Text.lower word)
  let cs := name.toList
  if name = "default" || colorNames.contains name || isHex cs then .ok name
  else
    match argument? "color" cs with
    | some digits => if isNumber digits then .ok name else .error .unknown
    | none =>
        match argument? "rgb" cs with
        | some parts => do
            checkParts parts
            .ok name
        | none => .error .unknown

end Color

/-! ## Descriptions -/

structure Style where
  /-- Attributes that are turned on or off, the latest first. -/
  attributes : List (Attribute × Bool)
  color : Option String
  background : Option String
  link : Option String
deriving Repr, Inhabited

namespace Style

def plain : Style := ⟨[], none, none, none⟩

def plainName : String := "none"

def read (style : Style) : List String → Except StyleFault Style
  | [] => .ok style
  | first :: rest =>
      let word := Text.lower first
      if word = "on" then
        match rest with
        | [] => .error .unknown
        | color :: rest => do
            let color ← Color.ofWord color
            read { style with background := some color } rest
      else if word = "not" then
        match rest with
        | [] => .error .unknown
        | name :: rest =>
            match Attribute.ofWord? name with
            | some a => read { style with attributes := (a, false) :: style.attributes } rest
            | none => .error .unknown
      else if word = "link" then
        match rest with
        | [] => .error .unknown
        | target :: rest => read { style with link := some target } rest
      else
        match Attribute.ofWord? word with
        | some a => read { style with attributes := (a, true) :: style.attributes } rest
        | none => do
            let color ← Color.ofWord word
            read { style with color := some color } rest

def ofText (text : String) : Except StyleFault Style :=
  if text.isEmpty || Text.strip text = plainName then .ok plain else read plain (Text.words text)

def attributeWord? (style : Style) (a : Attribute) : Option String :=
  (style.attributes.lookup a).map fun on => if on then a.name else "not " ++ a.name

def text (style : Style) : String :=
  let parts := Attribute.all.filterMap style.attributeWord? ++ style.color.toList ++
    (style.background.map ("on " ++ ·)).toList ++ (style.link.map ("link " ++ ·)).toList
  if parts.isEmpty then plainName else " ".intercalate parts

/-- The normal form of a description; a text that describes no style is only lowered. -/
def normalForm (text : String) : Except StyleFault String :=
  match ofText text with
  | .ok style => .ok style.text
  | .error .unknown => .ok (Text.lower (Text.strip text))
  | .error .notNumber => .error .notNumber

end Style
end Console
end ReserveAccounting

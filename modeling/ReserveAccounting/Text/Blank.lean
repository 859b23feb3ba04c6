import ReserveAccounting.Text.Ranges

/-!
# Blanks

The characters that separate words, and the text that is left when they are
taken off both ends.
-/

namespace ReserveAccounting
namespace Text

/-- The blanks of Unicode, with the four information separators among them. -/
def blankRanges : List (Nat × Nat) :=
  [(0x9, 0xD), (0x1C, 0x20), (0x85, 0x85), (0xA0, 0xA0), (0x1680, 0x1680), (0x2000, 0x200A),
    (0x2028, 0x2029), (0x202F, 0x202F), (0x205F, 0x205F), (0x3000, 0x3000)]

def isBlank (c : Char) : Bool := inRanges blankRanges c

def trimWhere (p : Char → Bool) (cs : List Char) : List Char :=
  ((cs.dropWhile p).reverse.dropWhile p).reverse

def strip (s : String) : String := String.ofList (trimWhere isBlank s.toList)

def wordsAfter (begun : List Char) : List Char → List (List Char)
  | [] => if begun.isEmpty then [] else [begun.reverse]
  | c :: rest =>
      if !isBlank c then wordsAfter (c :: begun) rest
      else if begun.isEmpty then wordsAfter [] rest
      else begun.reverse :: wordsAfter [] rest

def words (s : String) : List String := (wordsAfter [] s.toList).map String.ofList

end Text
end ReserveAccounting

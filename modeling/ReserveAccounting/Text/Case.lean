import ReserveAccounting.Text.CaseTable

/-!
# Small and capital letters

The full case mappings of Unicode. A letter may grow into several characters,
and a capital sigma becomes a final sigma at the end of a word; nothing else
depends on the neighbours of a letter.
-/

namespace ReserveAccounting
namespace Text

def CaseRun.shifted? (runs : List CaseRun) (c : Char) : Option Char :=
  (runs.find? fun r =>
      r.first ≤ c.toNat && c.toNat ≤ r.last && (c.toNat - r.first) % r.step == 0).map
    fun r => Char.ofNat ((c.toNat : Int) + r.shift).toNat

def caseForm (runs : List CaseRun) (expansions : List (Nat × List Nat)) (c : Char) : List Char :=
  match expansions.lookup c.toNat with
  | some codes => codes.map Char.ofNat
  | none => [(CaseRun.shifted? runs c).getD c]

def lowerChar (c : Char) : List Char :=
  if c.toNat < 128 then [c.toLower] else caseForm smallRuns smallExpansions c

def upperChar (c : Char) : List Char :=
  if c.toNat < 128 then [c.toUpper] else caseForm capitalRuns capitalExpansions c

def nextIsCased (cs : List Char) : Bool :=
  match cs.dropWhile (inRanges caseIgnorable) with
  | c :: _ => inRanges casedLetters c
  | [] => false

/--
The small form of a text whose earlier characters are `before`, nearest first.
A capital sigma is final if a cased letter stands before it and none after it.
-/
def lowerFrom (before : List Char) : List Char → List Char
  | [] => []
  | c :: rest =>
      (if c = 'Σ' then
          [if nextIsCased before && !nextIsCased rest then 'ς' else 'σ']
        else lowerChar c) ++ lowerFrom (c :: before) rest

/-- The text in small letters; the normal form of an account name. -/
def lower (s : String) : String := String.ofList (lowerFrom [] s.toList)

def upper (s : String) : String := String.ofList (s.toList.flatMap upperChar)

end Text
end ReserveAccounting

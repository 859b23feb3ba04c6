import ReserveAccounting.Console.EmojiTable
import ReserveAccounting.Text.Case

/-!
# Emoji codes

A name between colons stands for a picture, if there is one of that name. Behind
the name a code may ask for the colored or for the plain form of the picture.
-/

namespace ReserveAccounting
namespace Console
namespace Emoji

def forms : List (String × Char) := [("-emoji", '\ufe0f'), ("-text", '\ufe0e')]

def withoutEnd? (ending cs : List Char) : Option (List Char) :=
  if ending.isSuffixOf cs then some (cs.take (cs.length - ending.length)) else none

def nameAndForm (code : List Char) : List Char × List Char :=
  match forms.findSome? fun f => (withoutEnd? f.1.toList code).map (·, [f.2]) with
  | some r => r
  | none => (code, [])

def picture? (code : List Char) : Option (List Char) :=
  let (name, form) := nameAndForm code
  (emojiNames.lookup (Text.lower (String.ofList name))).map fun picture => picture.toList ++ form

/-- What stands in front of the next colon, unless a blank comes first; and what is behind it. -/
def upToColon : List Char → Option (List Char × List Char)
  | [] => none
  | c :: rest =>
      if c = ':' then some ([], rest)
      else if Text.isBlank c then none
      else (upToColon rest).map fun r => (c :: r.1, r.2)

/--
Puts pictures in the place of codes; `skip` characters belong to a code that was
read already. Between colons that give no picture nothing changes.
-/
def replaceFrom : Nat → List Char → List Char
  | _, [] => []
  | skip + 1, _ :: rest => replaceFrom skip rest
  | 0, c :: rest =>
      if c = ':' then
        match upToColon rest with
        | none => c :: replaceFrom 0 rest
        | some (code, _) =>
            (picture? code).getD (c :: code ++ [':']) ++ replaceFrom (code.length + 1) rest
      else c :: replaceFrom 0 rest

def replaceCodes (cs : List Char) : List Char := replaceFrom 0 cs

end Emoji
end Console
end ReserveAccounting

import ReserveAccounting.Table
import ReserveAccounting.Text.PathName
import ReserveAccounting.Text.Quoted

/-!
# The log folder

Log files are named by paths that start in a folder. To open a file, the
directories above it are made first. The folder knows what has been made, and so
it can tell why a file cannot be opened. Places beside the folder can be written
to as well, but are not listed as its files.
-/

namespace ReserveAccounting

inductive PathProblem where
  | taken
  | notDirectory
  | isDirectory
  | nameTooLong
deriving DecidableEq, Repr

namespace PathProblem

def number : PathProblem → Nat
  | taken => 17
  | notDirectory => 20
  | isDirectory => 21
  | nameTooLong => 36

def text : PathProblem → String
  | taken => "File exists"
  | notDirectory => "Not a directory"
  | isDirectory => "Is a directory"
  | nameTooLong => "File name too long"

end PathProblem

inductive OpenFault where
  | problem (cause : PathProblem) (path : String)
  /-- The path holds a character that no path can have. -/
  | notPath
deriving DecidableEq, Repr

def OpenFault.message : OpenFault → String
  | problem cause path =>
      "[Errno " ++ toString cause.number ++ "] " ++ cause.text ++ ": " ++ Text.quoted path
  | notPath => "embedded null byte"

/--
A place in a tree of directories: parts that lead down from the folder, behind
steps up from it; a place that is given from the top of the tree starts there.
-/
abbrev FolderPlace : Type := List String

namespace FolderPlace

def up : String := ".."

def top : String := "/"

def descend (place : FolderPlace) (part : String) : FolderPlace :=
  if part = up then
    match place.getLast? with
    | none => [up]
    | some last => if last = up then place ++ [up] else if last = top then place else place.dropLast
  else place ++ [part]

def startOf (path : String) : FolderPlace := if PathName.isAbsolute path then [top] else []

def ofPath (path : String) : FolderPlace := (PathName.parts path).foldl descend (startOf path)

def isInside (place : FolderPlace) : Bool := place.head? != some up && place.head? != some top

def textFrom (start : FolderPlace) (parts : List String) : String :=
  (if start = [top] then top else "") ++ "/".intercalate parts

def text : FolderPlace → String
  | [] => "."
  | part :: parts => if part = top then textFrom [top] parts else textFrom [] (part :: parts)

end FolderPlace

inductive FolderEntry where
  | directory
  | file
deriving DecidableEq, Repr

structure LogFolder where
  made : Table FolderPlace FolderEntry
deriving Inhabited

namespace LogFolder

def empty : LogFolder := ⟨∅⟩

/-- The entry at a place; the folder and the directories above it are always there. -/
def entryAt (folder : LogFolder) (place : FolderPlace) : Option FolderEntry :=
  if place = [FolderPlace.top] || place.all (· = FolderPlace.up) then some .directory
  else folder.made.get? place

def files (folder : LogFolder) : List String :=
  (folder.made.toList.filter fun e => e.2 = .file && FolderPlace.isInside e.1).map
    fun e => FolderPlace.text e.1

def longestName : Nat := 255

def longestPath : Nat := 4095

inductive Obstacle where
  | absent
  | problem (cause : PathProblem)
deriving DecidableEq, Repr

def locate (folder : LogFolder) (start : FolderPlace) (parts : List String) :
    Except Obstacle FolderPlace :=
  if longestPath < (FolderPlace.textFrom start parts).utf8ByteSize then
    .error (.problem .nameTooLong)
  else
    parts.foldlM
      (fun place part =>
        match folder.entryAt place with
        | none => .error .absent
        | some .file => .error (.problem .notDirectory)
        | some .directory =>
            if longestName < part.utf8ByteSize then .error (.problem .nameTooLong)
            else .ok (FolderPlace.descend place part)) start

def hasDirectory (folder : LogFolder) (start : FolderPlace) (parts : List String) : Bool :=
  match folder.locate start parts with
  | .ok place => folder.entryAt place = some .directory
  | .error _ => false

def makeOne (folder : LogFolder) (start : FolderPlace) (parts : List String) :
    Except Obstacle LogFolder := do
  let place ← folder.locate start parts
  if (folder.entryAt place).isSome then .error (.problem .taken)
  else .ok ⟨folder.made.put place .directory⟩

/--
Makes a directory, given by its parts in reverse, and first those above it if they
are not there. What has been made stays, also if the rest cannot be made.
-/
def make (start : FolderPlace) : List String → LogFolder → Except OpenFault Unit × LogFolder
  | [], folder => (.ok (), folder)
  | part :: above, folder =>
      let parts := (part :: above).reverse
      let settle (folder : LogFolder) (cause : PathProblem) : Except OpenFault Unit × LogFolder :=
        (if folder.hasDirectory start parts then .ok ()
          else .error (.problem cause (FolderPlace.textFrom start parts)), folder)
      match folder.makeOne start parts with
      | .ok folder => (.ok (), folder)
      | .error (.problem cause) => settle folder cause
      | .error .absent =>
          match make start above folder with
          | (.error fault, folder) => (.error fault, folder)
          | (.ok (), folder) =>
              match folder.makeOne start parts with
              | .ok folder => (.ok (), folder)
              | .error (.problem cause) => settle folder cause
              | .error .absent => (.ok (), folder)

def isForbidden (c : Char) : Bool := c.toNat = 0

def hasForbidden (s : String) : Bool := s.toList.any isForbidden

def makeFile (path : String) (folder : LogFolder) : Except OpenFault String × LogFolder :=
  let place := FolderPlace.ofPath path
  let fails (cause : PathProblem) : Except OpenFault String × LogFolder :=
    (.error (.problem cause (FolderPlace.text place)), folder)
  if hasForbidden path then (.error .notPath, folder)
  else if folder.entryAt place = some .directory then fails .isDirectory
  else if longestName < (PathName.fileName path).utf8ByteSize then fails .nameTooLong
  else (.ok (FolderPlace.text place), ⟨folder.made.put place .file⟩)

/-- Opens a log file, with the directories above it; the answer is the path of its place. -/
def openFile (path : String) (folder : LogFolder) : Except OpenFault String × LogFolder :=
  let above := (PathName.parts path).dropLast
  if above.any hasForbidden then (.error .notPath, folder)
  else
    match make (FolderPlace.startOf path) above.reverse folder with
    | (.ok (), folder) => makeFile path folder
    | (.error fault, folder) => (.error fault, folder)

end LogFolder
end ReserveAccounting

/-!
# Path names

Paths are parts divided by slashes. Empty parts and single points say nothing,
so a path has a plain form without them.
-/

namespace ReserveAccounting
namespace PathName

def parts (path : String) : List String :=
  (path.splitOn "/").filter fun part => part != "" && part != "."

def isAbsolute (path : String) : Bool := path.startsWith "/"

def plain (path : String) : String :=
  (if isAbsolute path then "/" else "") ++ "/".intercalate (parts path)

def fileName (path : String) : String := (parts path).getLastD ""

def lastPart (path : String) : String := (path.splitOn "/").getLastD ""

/-- A file name without its last suffix; a point in front or at the end starts no suffix. -/
def stem (fileName : String) : String :=
  let reversed := fileName.toList.reverse
  let suffix := reversed.takeWhile (· ≠ '.')
  match reversed.dropWhile (· ≠ '.') with
  | _ :: before => if suffix.isEmpty || before.isEmpty then fileName else String.ofList before.reverse
  | [] => fileName

/-- A file name up to its last point; points in front belong to the name. -/
def upToPoint (fileName : String) : String :=
  let cs := fileName.toList
  let front := cs.takeWhile (· = '.')
  let reversed := (cs.dropWhile (· = '.')).reverse
  match reversed.dropWhile (· ≠ '.') with
  | _ :: before => String.ofList (front ++ before.reverse)
  | [] => fileName

end PathName
end ReserveAccounting

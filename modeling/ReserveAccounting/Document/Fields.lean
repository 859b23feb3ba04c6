import ReserveAccounting.Document.Basic
import ReserveAccounting.Refusal
import ReserveAccounting.Text.Case
import ReserveAccounting.Text.Integer

/-!
# Reading fields

Typed access to the parts of a document, with the fault that arises when a part
is missing or of another kind than the reader can work with.
-/

namespace ReserveAccounting
namespace Document

def entries (d : Document) : Except Fault (List (Document × Document)) :=
  match d.unmarked with
  | map es => .ok es
  | _ => .error .notSupported

def field? (d : Document) (key : String) : Except Fault (Option Document) := do
  let es ← d.entries
  .ok (lookup key es)

def fieldOr (d : Document) (key : String) (fallback : Document) : Except Fault Document := do
  let v ← d.field? key
  .ok (v.getD fallback)

def require (d : Document) (key : String) : Except Fault Document := do
  match ← d.field? key with
  | some v => .ok v
  | none => .error (.missingKey key)

/-- The integer that a scalar stands for: fractions are dropped and texts are read. -/
def toInt : Document → Except Fault Int
  | int n => .ok n
  | bool b => .ok (if b then 1 else 0)
  | float x =>
      match truncateFloat x with
      | some n => .ok n
      | none =>
          .error (if x.isNaN then .unreadable else .numberTooLarge)
  | text s =>
      match Text.integer? s with
      | some n => .ok n
      | none => .error .unreadable
  | bytes bs =>
      match if bs.all (· < 128) then Text.integer? (String.ofList (bs.map Char.ofNat)) else none with
      | some n => .ok n
      | none => .error .unreadable
  | _ => .error .wrongKind

def asInt : Document → Except Fault Int
  | int n => .ok n
  | bool b => .ok (if b then 1 else 0)
  | _ => .error .wrongKind

def written (d : Document) : Except Fault String :=
  if d.isWritable then .ok d.asText else .error .unreadable

def asString : Document → Except Fault String
  | text s => .ok s
  | _ => .error .notSupported

def items (d : Document) : Except Fault (List Document) :=
  match d.unmarked with
  | list xs => .ok xs
  | tuple xs => .ok xs
  | set xs => .ok xs
  | map es => .ok (es.map Prod.fst)
  | text s => .ok (s.toList.map fun c => .text c.toString)
  | bytes bs => .ok (bs.map fun b => .int (b : Nat))
  | _ => .error .wrongKind

def lowered (d : Document) : Except Fault String := do
  let s ← d.asString
  .ok (Text.lower s)

end Document
end ReserveAccounting

import ReserveAccounting.Calendar
import ReserveAccounting.Decimal.Shortest
import ReserveAccounting.Text.Integer
import ReserveAccounting.Text.Quoted

/-!
# Documents

The values that scenarios, snapshots, reports and log records are made of:
scalars, sequences and mappings whose entries keep their order. A mapping of a
scenario file may have keys that are not texts, and a list or mapping of such a
file may occur within itself: it then carries a label, and the label stands for
it inside.
-/

namespace ReserveAccounting

inductive Document where
  | null
  | bool (value : Bool)
  | int (value : Int)
  | float (value : Float)
  | text (value : String)
  | bytes (value : List Nat)
  | day (value : CalendarDay)
  | moment (date : CalendarDay) (time : ClockTime)
  | list (items : List Document)
  | tuple (items : List Document)
  | set (items : List Document)
  | map (entries : List (Document × Document))
  /-- A list or mapping that occurs within itself. -/
  | marked (label : Nat) (value : Document)
  /-- The list or mapping around this place that carries the label. -/
  | again (label : Nat) (isMapping : Bool)
deriving Inhabited

namespace Document

def record (fields : List (String × Document)) : Document :=
  .map (fields.map fun f => (.text f.1, f.2))

def texts (items : List String) : Document := .list (items.map .text)

/-- Whether a value counts as given: empty and zero values do not. -/
def isGiven : Document → Bool
  | null => false
  | bool b => b
  | int n => n ≠ 0
  | float x => !(x == 0.0)
  | text s => !s.isEmpty
  | bytes bs => !bs.isEmpty
  | day _ => true
  | moment _ _ => true
  | list items => !items.isEmpty
  | tuple items => !items.isEmpty
  | set items => !items.isEmpty
  | map entries => !entries.isEmpty
  | marked _ value => value.isGiven
  | again _ _ => true

def isMap : Document → Bool
  | map _ => true
  | marked _ value => value.isMap
  | again _ isMapping => isMapping
  | _ => false

mutual

def fill (label : Nat) (whole : Document) : Document → Document
  | list items => list (fillItems label whole items)
  | tuple items => tuple (fillItems label whole items)
  | set items => set (fillItems label whole items)
  | map entries => map (fillEntries label whole entries)
  | marked l value => if l = label then marked l value else marked l (fill label whole value)
  | again l isMapping => if l = label then whole else again l isMapping
  | d => d

def fillItems (label : Nat) (whole : Document) : List Document → List Document
  | [] => []
  | item :: rest => fill label whole item :: fillItems label whole rest

def fillEntries (label : Nat) (whole : Document) :
    List (Document × Document) → List (Document × Document)
  | [] => []
  | (k, v) :: rest => (fill label whole k, fill label whole v) :: fillEntries label whole rest

end

/-- A value without the label around it; where the label stood inside, the whole value stands. -/
def unmarked : Document → Document
  | marked label value => fill label (marked label value) value
  | d => d

def lookup (key : String) : List (Document × Document) → Option Document
  | [] => none
  | (text k, v) :: rest => if k = key then some v else lookup key rest
  | _ :: rest => lookup key rest

def get? (d : Document) (key : String) : Option Document :=
  match d.unmarked with
  | map entries => lookup key entries
  | _ => none

def shownBytes (bs : List Nat) : String :=
  let cs := bs.map Char.ofNat
  let quote := Text.quoteFor cs
  let one (c : Char) : List Char :=
    if c.toNat < 127 then Text.quoteChar quote c else '\\' :: 'x' :: Text.hexDigits 2 c.toNat
  String.ofList ('b' :: quote :: cs.flatMap one ++ [quote])

def shownAgain (isMapping : Bool) : String := if isMapping then "\x7b...\x7d" else "[...]"

mutual

/-- The form of a value inside others, of which those with the given labels are not shown again. -/
def shownInside (seen : List Nat) : Document → String
  | null => "None"
  | bool b => if b then "True" else "False"
  | int n => toString n
  | float x => FloatStyle.standard.text x
  | text s => Text.quoted s
  | bytes bs => shownBytes bs
  | day d => d.shown
  | moment d t => ClockTime.shown d t
  | list items => "[" ++ ", ".intercalate (shownItems seen items) ++ "]"
  | tuple items =>
      match items with
      | [item] => "(" ++ shownInside seen item ++ ",)"
      | items => "(" ++ ", ".intercalate (shownItems seen items) ++ ")"
  | set items =>
      if items.isEmpty then "set()"
      else "\x7b" ++ ", ".intercalate (shownItems seen items) ++ "\x7d"
  | map entries => "\x7b" ++ ", ".intercalate (shownEntries seen entries) ++ "\x7d"
  | marked label value =>
      if seen.contains label then shownAgain value.isMap else shownInside (label :: seen) value
  | again _ isMapping => shownAgain isMapping

def shownItems (seen : List Nat) : List Document → List String
  | [] => []
  | item :: rest => shownInside seen item :: shownItems seen rest

def shownEntries (seen : List Nat) : List (Document × Document) → List String
  | [] => []
  | (k, v) :: rest => (shownInside seen k ++ ": " ++ shownInside seen v) :: shownEntries seen rest

end

def shown (d : Document) : String := shownInside [] d

mutual

def isWritable : Document → Bool
  | int n => Text.isWritable n
  | list items => areWritable items
  | tuple items => areWritable items
  | set items => areWritable items
  | map entries => haveWritable entries
  | marked _ value => isWritable value
  | _ => true

def areWritable : List Document → Bool
  | [] => true
  | item :: rest => isWritable item && areWritable rest

def haveWritable : List (Document × Document) → Bool
  | [] => true
  | (k, v) :: rest => isWritable k && isWritable v && haveWritable rest

end

def asText : Document → String
  | text s => s
  | day d => d.text
  | moment d t => d.text ++ " " ++ t.text
  | d => d.shown

def truncateFloat (x : Float) : Option Int :=
  if x.isNaN || x.isInf then none
  else
    let bits := x.toBits.toNat
    let b := Shortest.Binary.ofBits (bits % Shortest.signBit)
    let magnitude : Nat := b.significand * Nat.pow 2 b.exponent.toNat / Nat.pow 2 (-b.exponent).toNat
    some (if bits ≥ Shortest.signBit then -(magnitude : Int) else magnitude)

theorem lookup_record (fields : List (String × Document)) (key : String) :
    (record fields).get? key = fields.lookup key := by
  simp only [record, get?, unmarked]
  induction fields with
  | nil => rfl
  | cons f rest ih =>
      obtain ⟨k, v⟩ := f
      by_cases h : k = key
      · subst h; simp [lookup]
      · have h' : (key == k) = false := by simpa using fun e => h e.symm
        simp [lookup, h, List.lookup_cons, h', ih]

end Document
end ReserveAccounting

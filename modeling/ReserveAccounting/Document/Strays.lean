import ReserveAccounting.Document.Fields

/-!
# Stray values

A snapshot may hold other values where integers belong. They are kept beside the
integers, by their places, and are shown again as they were; a computation that
needs the integer of such a place fails. Without stray values, every figure is
its integer.
-/

namespace ReserveAccounting

/-- Values that stand where an integer belongs, by their places. -/
abbrev Strays (π : Type) : Type := List (π × Document)

namespace Strays

variable {π : Type} [DecidableEq π]

def at? (strays : Strays π) (place : π) : Option Document :=
  (strays.find? fun s => s.1 = place).map Prod.snd

/-- The figure at a place, for computing; a stray value has none unless it counts as an integer. -/
def figure (strays : Strays π) (place : π) (n : Int) : Except Fault Int :=
  match strays.at? place with
  | none => .ok n
  | some d => d.asInt

def shown (strays : Strays π) (place : π) (n : Int) : Document := (strays.at? place).getD (.int n)

def without (strays : Strays π) (gone : π → Bool) : Strays π := strays.filter fun s => !gone s.1

def copied (strays : Strays π) (source target : π) : Strays π :=
  let others := strays.without (· = target)
  match strays.at? source with
  | none => others
  | some d => (target, d) :: others

/-- What a snapshot holds at a place: the integer, and the stray value if it is none. -/
def ofField (place : π) (fallback : Int) : Option Document → Int × Strays π
  | none => (fallback, [])
  | some (.int n) => (n, [])
  | some d => (fallback, [(place, d)])

@[simp] theorem figure_nil (place : π) (n : Int) : figure ([] : Strays π) place n = .ok n := rfl

omit [DecidableEq π] in
@[simp] theorem without_nil (gone : π → Bool) : without ([] : Strays π) gone = [] := rfl

end Strays
end ReserveAccounting

import ReserveAccounting.Scenario.Basic
import ReserveAccounting.Text.PathName
import ReserveAccounting.Yaml.Loading

/-!
# Scenario files

A scenario file holds the description of a scenario. The name of the scenario is
given in it, or else taken from the name of the file.
-/

namespace ReserveAccounting
namespace Scenario

def nameIn (d : Document) (path : String) : Except Fault String :=
  match d.get? "name" with
  | some v => v.written
  | none => .ok (PathName.stem (PathName.fileName path))

/-- The description that a file holds; a file that gives nothing holds an empty one. -/
def describedIn (path text : String) : Except Fault Document := do
  match Yaml.read text with
  | .error .malformed => .error (.ofRefusal (.scenarioUnreadable path))
  | .error (.value f) => .error f
  | .ok d =>
      let d := orEmpty (some d)
      if d.isMap then .ok d else .error (.ofRefusal (.scenarioFileNotMapping path))

/-- Sets a scenario up from its description, under the name in it or that of a path. -/
def setUpNamed (settings : Settings) (path : String) (d : Document) : Setup :=
  match nameIn d path with
  | .error f => ⟨.error f, []⟩
  | .ok name => setUp settings name d

def ofFile (settings : Settings) (path text : String) : Setup :=
  let path := PathName.plain path
  match describedIn path text with
  | .error f => ⟨.error f, []⟩
  | .ok d => setUpNamed settings path d

end Scenario
end ReserveAccounting

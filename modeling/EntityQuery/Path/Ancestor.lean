import EntityQuery.Path.Basic

/-!
# Ancestors of a path

Two ancestors decide how a path is stored: the one whose identifier its rows refer to, and the one
whose table it is stored in.
-/

namespace EntityQuery.Schema

/-- The proper ancestors of the path from the nearest on, until one satisfies the test.  The root
path ends the climb in any case. -/
def climbTo (schema : Schema) (root : Entity) (found : Path → Bool) :
    List Segment → Result (List Path)
  | [] => .error .rootWithoutParent
  | [segment] => do return [← schema.rootPath segment.property.owner]
  | _ :: parents =>
      let parent : Path := ⟨root, parents⟩
      if found parent then .ok [parent]
      else do return parent :: (← schema.climbTo root found parents)

/-- The ancestors looked at on the way to the one that rows refer to, which is the last. -/
def identifierTrail (schema : Schema) (path : Path) : Result (List Path) :=
  schema.climbTo path.root schema.hasIdentifier path.climb

def storesRows (path : Path) : Bool :=
  path.leaf?.all fun property => property.shape.ownsTable

/-- The ancestors looked at on the way to the one whose table holds the path; none if it is the path
itself. -/
def tableTrail (schema : Schema) (path : Path) : Result (List Path) :=
  if storesRows path then .ok [] else schema.climbTo path.root storesRows path.climb

/-- The nearest proper ancestor that is the root or has an identifier. -/
def identifierParent (schema : Schema) (path : Path) : Result Path := do
  return (← schema.identifierTrail path).getLastD path

/-- The nearest ancestor, or the path itself, that is the root or has a table of its own. -/
def tableOwner (schema : Schema) (path : Path) : Result Path := do
  return (← schema.tableTrail path).getLastD path

end EntityQuery.Schema

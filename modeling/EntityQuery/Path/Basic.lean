import EntityQuery.Schema.Basic
import EntityQuery.Text.Pieces

/-!
# Property paths

A path leads from a root entity through properties to a leaf.  It is resolved against a schema from
the names of the properties, separated by points.  The segments are kept from the leaf up to the
root, since most questions about a path climb towards its root.
-/

namespace EntityQuery

structure Segment where
  owner : Entity
  property : Property
deriving DecidableEq, Inhabited

/-- The numbers of the root, and of owner and property of each segment. -/
structure PathKey where
  root : EntityId
  segments : List (EntityId × Nat)
deriving DecidableEq, Inhabited

structure Path where
  root : Entity
  /-- The segments from the leaf up to the root. -/
  climb : List Segment
deriving DecidableEq, Inhabited

namespace Segment

def key (segment : Segment) : EntityId × Nat :=
  (segment.owner.id, segment.property.index)

/-- What a segment adds to the alias of a table. -/
def label (segment : Segment) : String :=
  segment.property.shape.lead?.getD segment.property.name

def text (segment : Segment) : String :=
  segment.owner.name ++ "." ++ segment.property.name

end Segment

namespace Path

def ofRoot (root : Entity) : Path := ⟨root, []⟩

/-- The segments from the root down to the leaf. -/
def segments (path : Path) : List Segment :=
  path.climb.reverse

def length (path : Path) : Nat :=
  path.climb.length

def isRoot (path : Path) : Bool :=
  path.climb.isEmpty

def push (path : Path) (segment : Segment) : Path :=
  { path with climb := segment :: path.climb }

def leaf? (path : Path) : Option Property :=
  path.climb.head?.map Segment.property

def base? (path : Path) : Option Property :=
  path.climb.getLast?.map Segment.property

def key (path : Path) : PathKey :=
  ⟨path.root.id, path.segments.map Segment.key⟩

/-- Two paths are the same if they take the same properties. -/
def same (path other : Path) : Bool :=
  path.key == other.key

def startsWith (path other : Path) : Bool :=
  path.root.id == other.root.id &&
    (other.segments.map Segment.key).isPrefixOf (path.segments.map Segment.key)

def names (path : Path) : List String :=
  path.segments.map fun segment => segment.property.name

def dotted (path : Path) : String :=
  ".".intercalate path.names

/-- The path without its last segments, so many of them. -/
def above (path : Path) (steps : Nat) : Path :=
  { path with climb := path.climb.drop steps }

/-- The path without its leaf; nothing for the root. -/
def dropLeaf? (path : Path) : Option Path :=
  match path.climb with
  | [] => none
  | _ :: parents => some ⟨path.root, parents⟩

def outline (path : Path) : String :=
  if path.isRoot then path.root.name else path.root.name ++ "." ++ path.dotted

def text (path : Path) : String :=
  "AggregatePath[" ++ path.outline ++ "]"

def isEntity (path : Path) : Bool :=
  path.leaf?.all fun property => !property.shape.isSimple

def isEmbedded (path : Path) : Bool :=
  path.leaf?.any fun property => property.shape.isEmbedded

def isListOrSet (path : Path) : Bool :=
  path.leaf?.any fun property => property.shape.isListOrSet

def isMap (path : Path) : Bool :=
  path.leaf?.any fun property => property.shape.isMap

def isMultiValued (path : Path) : Bool :=
  path.isListOrSet || path.isMap

def isKeyed (path : Path) : Bool :=
  path.leaf?.any fun property => property.shape.isKeyed

end Path

namespace Schema

/-- Follows names from an entity; `whole` is the path that they are part of. -/
def walk (schema : Schema) (whole : String) : Entity → List String → Result (List Segment)
  | _, [] => .ok []
  | entity, name :: names =>
      match entity.property? name with
      | none => .error (.noProperty name entity.name (some whole))
      | some property =>
          match names with
          | [] => .ok [⟨entity, property⟩]
          | next :: rest =>
              match property.shape.target? with
              | none => .error (.simpleOnPath name entity.name whole)
              | some target => do
                  let related ← schema.required target
                  let segments ← schema.walk whole related (next :: rest)
                  return ⟨entity, property⟩ :: segments

/-- The path with these names; the empty text is the root. -/
def resolve (schema : Schema) (root : Entity) (path : String) : Result Path :=
  if path = "" then .ok (.ofRoot root)
  else do
    let segments ← schema.walk path root (Text.pieces '.' path)
    return ⟨root, segments.reverse⟩

def rootPath (schema : Schema) (id : EntityId) : Result Path := do
  return .ofRoot (← schema.required id)

/-- The entity at the end of the path, if it is registered. -/
def leafEntity? (schema : Schema) (path : Path) : Option Entity :=
  match path.leaf? with
  | none => some path.root
  | some property => property.shape.target?.bind schema.entity?

def requiredLeafEntity (schema : Schema) (path : Path) : Result Entity :=
  match path.leaf? with
  | none => .ok path.root
  | some property =>
      match property.shape.target? with
      | some target => schema.required target
      | none => .error (.noLeafEntity path.text)

def hasIdentifier (schema : Schema) (path : Path) : Bool :=
  (schema.leafEntity? path).any Entity.hasIdentifier

/-- Extends the path by a property of its leaf entity. -/
def append (schema : Schema) (path : Path) (name : String) : Result Path :=
  if !path.isEntity then .error (.appendToSimple name path.text)
  else do
    let entity ← schema.requiredLeafEntity path
    match entity.property? name with
    | some property => return path.push ⟨entity, property⟩
    | none => throw (.noProperty name entity.name none)

/-- The path one segment shorter; above a single segment stands the root path of its owner. -/
def parent (schema : Schema) (path : Path) : Result Path :=
  match path.climb with
  | [] => .error .rootWithoutParent
  | [segment] => schema.rootPath segment.property.owner
  | _ :: parents => .ok ⟨path.root, parents⟩

end Schema

end EntityQuery

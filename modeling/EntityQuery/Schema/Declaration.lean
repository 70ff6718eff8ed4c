/-!
# Declared entities

What an entity type says about itself before it is registered: its name, its table and its
properties.  `ε` names the entity types that properties refer to.
-/

namespace EntityQuery

inductive CollectionKind where
  | list
  | set
  | map
deriving DecidableEq, Inhabited

/-- How a property is stored: in a column, as a row of another table, in columns of the owner's
table that start with a lead text, or as rows of another table. -/
inductive Shape (ε : Type) where
  | simple
  | reference (target : ε)
  | embedded (target : ε) (lead : String)
  | collection (kind : CollectionKind) (element : ε)
deriving DecidableEq, Inhabited

namespace Shape

def target? : Shape ε → Option ε
  | .simple => none
  | .reference target | .embedded target _ | .collection _ target => some target

def map (f : ε → δ) : Shape ε → Shape δ
  | .simple => .simple
  | .reference target => .reference (f target)
  | .embedded target lead => .embedded (f target) lead
  | .collection kind element => .collection kind (f element)

def mapM [Monad m] (f : ε → m δ) : Shape ε → m (Shape δ)
  | .simple => pure .simple
  | .reference target => return .reference (← f target)
  | .embedded target lead => return .embedded (← f target) lead
  | .collection kind element => return .collection kind (← f element)

def isSimple : Shape ε → Bool
  | .simple => true
  | _ => false

theorem isSome_target? (shape : Shape ε) : shape.target?.isSome = !shape.isSimple := by
  cases shape <;> rfl

theorem target?_eq_none_iff {shape : Shape ε} : shape.target? = none ↔ shape.isSimple = true := by
  rw [← Option.not_isSome_iff_eq_none, isSome_target?]
  simp

theorem isSimple_eq_false_of_target? {shape : Shape ε} {target : ε}
    (h : shape.target? = some target) : shape.isSimple = false := by
  simpa [h] using shape.isSome_target?.symm

def lead? : Shape ε → Option String
  | .embedded _ lead => some lead
  | _ => none

def isEmbedded (shape : Shape ε) : Bool :=
  shape.lead?.isSome

def isListOrSet : Shape ε → Bool
  | .collection .list _ | .collection .set _ => true
  | _ => false

def isMap : Shape ε → Bool
  | .collection .map _ => true
  | _ => false

/-- Lists and maps have a key column. -/
def isKeyed : Shape ε → Bool
  | .collection .list _ | .collection .map _ => true
  | _ => false

/-- Whether the values are rows of a table of their own. -/
def ownsTable : Shape ε → Bool
  | .reference _ | .collection _ _ => true
  | _ => false

end Shape

structure PropertyDeclaration (ε : Type) where
  name : String
  shape : Shape ε
  column : Option String
  reverseColumn : Option String
  keyColumn : Option String
  isIdentifier : Bool
deriving DecidableEq, Inhabited

structure EntityDeclaration (ε : Type) where
  name : String
  table : Option String
  properties : List (PropertyDeclaration ε)
deriving DecidableEq, Inhabited

/-- The entity types that the properties refer to, in order. -/
def EntityDeclaration.related (declaration : EntityDeclaration ε) : List ε :=
  declaration.properties.filterMap fun property => property.shape.target?

/-- What each of `n` entity types declares. -/
abbrev Catalog (n : Nat) := Fin n → EntityDeclaration (Fin n)

end EntityQuery

import EntityQuery.Value.Basic

/-!
# Criteria

A criteria is one comparison of a field, or a group of criteria joined by AND or OR.  Groups may be
empty: a criteria without any condition restricts nothing, and combining with it changes nothing.
-/

namespace EntityQuery

inductive Comparator where
  | eq | ne | gt | gte | lt | lte | like | notLike | isIn | notIn
  | isNull | isNotNull | isTrue | isFalse
deriving DecidableEq, Inhabited

def Comparator.sql : Comparator → String
  | .eq => "="
  | .ne => "!="
  | .gt => ">"
  | .gte => ">="
  | .lt => "<"
  | .lte => "<="
  | .like => "LIKE"
  | .notLike => "NOT LIKE"
  | .isIn => "IN"
  | .notIn => "NOT IN"
  | .isNull => "IS NULL"
  | .isNotNull => "IS NOT NULL"
  | .isTrue => "IS TRUE"
  | .isFalse => "IS FALSE"

structure Condition where
  field : String
  comparator : Comparator
  value : Option Value
deriving Inhabited

inductive Combinator where
  | and
  | or
deriving DecidableEq, Inhabited

def Combinator.sql : Combinator → String
  | .and => " AND "
  | .or => " OR "

inductive Criteria where
  | condition (leaf : Condition)
  | group (combinator : Combinator) (parts : List Criteria)
deriving Inhabited

namespace Condition

def compare (comparator : Comparator) (field : String) (value : Value) : Condition :=
  ⟨field, comparator, some value⟩

def test (comparator : Comparator) (field : String) : Condition :=
  ⟨field, comparator, none⟩

def equal (a b : Condition) : Bool :=
  a.field == b.field && a.comparator == b.comparator &&
    match a.value, b.value with
    | some x, some y => x.equal y
    | none, none => true
    | _, _ => false

end Condition

namespace Criteria

def compare (comparator : Comparator) (field : String) (value : Value) : Criteria :=
  .condition (.compare comparator field value)

/-- The criteria without any condition. -/
def empty : Criteria := .group .and []

mutual

/-- Whether the tree holds no condition at all. -/
def isEmpty : Criteria → Bool
  | .condition _ => false
  | .group _ parts => areEmpty parts

def areEmpty : List Criteria → Bool
  | [] => true
  | part :: rest => part.isEmpty && areEmpty rest

end

/-- Combines two criteria; a group of the same kind on the left is extended. -/
def combine (combinator : Combinator) (left right : Criteria) : Criteria :=
  if left.isEmpty then right
  else if right.isEmpty then left
  else
    match left with
    | .group existing parts =>
        if existing = combinator then .group combinator (parts ++ [right])
        else .group combinator [left, right]
    | .condition _ => .group combinator [left, right]

def andWith (left right : Criteria) : Criteria :=
  combine .and left right

def orWith (left right : Criteria) : Criteria :=
  combine .or left right

/-- A group of one part is that part, and a group of none is nothing. -/
def ofParts? (combinator : Combinator) : List Criteria → Option Criteria
  | [] => none
  | [part] => some part
  | parts => some (.group combinator parts)

mutual

/-- Drops what holds no condition and unwraps groups of one part. -/
def simplify? : Criteria → Option Criteria
  | .condition leaf => some (.condition leaf)
  | .group combinator parts => ofParts? combinator (simplifyParts parts)

def simplifyParts : List Criteria → List Criteria
  | [] => []
  | part :: rest =>
      match part.simplify? with
      | some simple => simple :: simplifyParts rest
      | none => simplifyParts rest

end

mutual

/-- The conditions from left to right. -/
def conditions : Criteria → List Condition
  | .condition leaf => [leaf]
  | .group _ parts => conditionsOf parts

def conditionsOf : List Criteria → List Condition
  | [] => []
  | part :: rest => part.conditions ++ conditionsOf rest

end

mutual

def equal : Criteria → Criteria → Bool
  | .condition a, .condition b => a.equal b
  | .group kind a, .group kind' b => kind == kind' && equalParts a b
  | _, _ => false

def equalParts : List Criteria → List Criteria → Bool
  | [], [] => true
  | a :: as, b :: bs => equal a b && equalParts as bs
  | _, _ => false

end

end Criteria

end EntityQuery

import EntityQuery.Number.Decimal

/-!
# Memoised values

A memo keeps the value first computed for each key and counts the look-ups that were served from it.
A disabled memo keeps nothing.  A failed computation is not kept.
-/

namespace EntityQuery

inductive MemoError where
  | invalidCapacity (capacity : Nat)
deriving DecidableEq, Inhabited

def MemoError.message : MemoError → String
  | .invalidCapacity capacity => "Invalid cache capacity: " ++ toString capacity

structure MemoConfig where
  enabled : Bool
  initialCapacity : Nat
deriving DecidableEq, Inhabited

def MemoConfig.standard : MemoConfig := ⟨true, 64⟩

structure MemoStats where
  hits : Nat
  misses : Nat
  entries : Nat
deriving DecidableEq, Inhabited

/-- The share of look-ups that were hits, and zero when there were none. -/
def MemoStats.hitRatio (stats : MemoStats) : Binary64 :=
  let total := stats.hits + stats.misses
  if total = 0 then .zero false
  else .ofRatio false (Binary64.ofNat stats.hits).truncate (Binary64.ofNat total).truncate

structure Memo (κ ν : Type) where
  enabled : Bool
  entries : List (κ × ν)
  hits : Nat
  misses : Nat
deriving Inhabited

namespace Memo

variable {κ ν ε : Type} [BEq κ]

def empty : Memo κ ν := ⟨true, [], 0, 0⟩

def disabled : Memo κ ν := ⟨false, [], 0, 0⟩

/-- An enabled memo needs room for at least one entry. -/
def ofConfig? (config : MemoConfig) : Except MemoError (Memo κ ν) :=
  if !config.enabled then .ok disabled
  else if config.initialCapacity = 0 then .error (.invalidCapacity config.initialCapacity)
  else .ok empty

/-- The kept value, without counting the look-up. -/
def get? (memo : Memo κ ν) (key : κ) : Option ν :=
  memo.entries.lookup key

def hit (memo : Memo κ ν) : Memo κ ν :=
  { memo with hits := memo.hits + 1 }

def miss (memo : Memo κ ν) : Memo κ ν :=
  { memo with misses := memo.misses + 1 }

def insert (memo : Memo κ ν) (key : κ) (value : ν) : Memo κ ν :=
  { memo with entries := (key, value) :: memo.entries }

/-- Whether a look-up of the key has to compute. -/
def computes (memo : Memo κ ν) (key : κ) : Bool :=
  !memo.enabled || (memo.get? key).isNone

/-- Looks the key up, where `computed` is what a computation would give. -/
def tryGetOrInsert (memo : Memo κ ν) (key : κ) (computed : Except ε ν) :
    Except ε ν × Memo κ ν :=
  if !memo.enabled then (computed, memo.miss)
  else
    match memo.get? key with
    | some value => (.ok value, memo.hit)
    | none =>
        match computed with
        | .ok value => (.ok value, memo.miss.insert key value)
        | .error error => (.error error, memo.miss)

def getOrInsert (memo : Memo κ ν) (key : κ) (computed : ν) : ν × Memo κ ν :=
  if !memo.enabled then (computed, memo.miss)
  else
    match memo.get? key with
    | some value => (value, memo.hit)
    | none => (computed, memo.miss.insert key computed)

/-- Forgets the values and keeps the counters. -/
def clear (memo : Memo κ ν) : Memo κ ν :=
  { memo with entries := [] }

def size (memo : Memo κ ν) : Nat :=
  memo.entries.length

def stats (memo : Memo κ ν) : MemoStats :=
  ⟨memo.hits, memo.misses, memo.size⟩

/-- A one-line description of the state. -/
def description (memo : Memo κ ν) : String :=
  "MemoCache \x7b enabled: " ++ (if memo.enabled then "true" else "false") ++ ", entries: \"" ++
    toString memo.size ++ "\", hits: " ++ toString memo.hits ++ ", misses: " ++
    toString memo.misses ++ " \x7d"

end Memo

end EntityQuery

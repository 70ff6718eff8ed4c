import EntityQuery.Memo
import Mathlib.Data.List.DropRight

/-!
# Memos and computations

A memo runs a computation for a key only if none has succeeded since it was cleared, and answers
with the value of the one that has.  What it will do and what it has counted is told by its past: by
the calls, and by the events that they led to, which are the computations that were run and the
times at which the memo was cleared.
-/

namespace EntityQuery

variable {ε κ ν : Type}

/-- A call to a memo, with what its computation gives if it is run. -/
inductive MemoCall (ε κ ν : Type) where
  | get (key : κ)
  | getOrInsert (key : κ) (value : ν)
  | tryGetOrInsert (key : κ) (computed : Except ε ν)
  | clear

inductive MemoEvent (ε κ ν : Type) where
  | computed (key : κ) (result : Except ε ν)
  | cleared

namespace MemoCall

def isLookUp : MemoCall ε κ ν → Bool
  | getOrInsert _ _ | tryGetOrInsert _ _ => true
  | get _ | clear => false

end MemoCall

namespace MemoEvent

def isComputed : MemoEvent ε κ ν → Bool
  | computed _ _ => true
  | cleared => false

def success? : MemoEvent ε κ ν → Option (κ × ν)
  | computed key (.ok value) => some (key, value)
  | computed _ (.error _) | cleared => none

/-- The computations that have succeeded since the memo was cleared last, in their order. -/
def successes (events : List (MemoEvent ε κ ν)) : List (κ × ν) :=
  (events.rtakeWhile isComputed).filterMap success?

/-- The value of the first computation for the key that has succeeded since then. -/
def first? [BEq κ] (key : κ) (events : List (MemoEvent ε κ ν)) : Option ν :=
  (successes events).lookup key

theorem successes_concat_ok (events : List (MemoEvent ε κ ν)) (key : κ) (value : ν) :
    successes (events ++ [computed key (.ok value)]) = successes events ++ [(key, value)] := by
  rw [successes, List.rtakeWhile_concat_pos _ _ _ rfl, List.filterMap_append]
  rfl

theorem successes_concat_error (events : List (MemoEvent ε κ ν)) (key : κ) (error : ε) :
    successes (events ++ [computed key (.error error)]) = successes events := by
  rw [successes, List.rtakeWhile_concat_pos _ _ _ rfl, List.filterMap_append]
  exact List.append_nil _

theorem successes_concat_cleared (events : List (MemoEvent ε κ ν)) :
    successes (events ++ [cleared]) = [] := by
  rw [successes, List.rtakeWhile_concat_neg _ _ _ Bool.false_ne_true, List.filterMap_nil]

end MemoEvent

namespace Memo

variable [BEq κ]

/-- The ways in which a memo is made. -/
inductive IsNew : Memo κ ν → Prop
  | empty : IsNew .empty
  | disabled : IsNew .disabled
  | ofConfig {config : MemoConfig} {memo : Memo κ ν} (h : ofConfig? config = .ok memo) : IsNew memo

/-- Keeps what was computed, unless the computation failed. -/
def store (memo : Memo κ ν) (key : κ) : Except ε ν → Memo κ ν
  | .ok value => memo.insert key value
  | .error _ => memo

section Computing

variable {m : Type → Type} [Monad m]

/-- Looks the key up, and runs the computation if there is no value.  The second look is taken
behind the lock for writing: another caller may have been faster. -/
def tryGetOrCompute (memo : Memo κ ν) (key : κ) (compute : m (Except ε ν)) :
    m (Except ε ν × Memo κ ν) :=
  if !memo.enabled then do
    let computed ← compute
    return (computed, memo.miss)
  else
    match memo.get? key with
    | some value => return (.ok value, memo.hit)
    | none =>
        match memo.get? key with
        | some value => return (.ok value, memo.hit)
        | none => do
            match ← compute with
            | .ok value => return (.ok value, memo.miss.insert key value)
            | .error error => return (.error error, memo.miss)

/-- The same for a computation that cannot fail. -/
def getOrCompute (memo : Memo κ ν) (key : κ) (compute : m ν) : m (Except ε ν × Memo κ ν) :=
  memo.tryGetOrCompute key (.ok <$> compute)

end Computing

/-! ### Looking up -/

variable {memo : Memo κ ν} {key : κ} {value : ν}

theorem tryGetOrInsert_of_disabled (h : memo.enabled = false) (computed : Except ε ν) :
    memo.tryGetOrInsert key computed = (computed, memo.miss) := by
  unfold tryGetOrInsert
  rw [h]
  rfl

theorem tryGetOrInsert_of_some (henabled : memo.enabled = true) (h : memo.get? key = some value)
    (computed : Except ε ν) : memo.tryGetOrInsert key computed = (.ok value, memo.hit) := by
  unfold tryGetOrInsert
  rw [henabled, h]
  rfl

theorem tryGetOrInsert_of_none (henabled : memo.enabled = true) (h : memo.get? key = none)
    (computed : Except ε ν) :
    memo.tryGetOrInsert key computed = (computed, memo.miss.store key computed) := by
  unfold tryGetOrInsert
  rw [henabled, h]
  cases computed <;> rfl

theorem tryGetOrInsert_ok (key : κ) (value : ν) :
    memo.tryGetOrInsert key (.ok value : Except ε ν) =
      (.ok (memo.getOrInsert key value).1, (memo.getOrInsert key value).2) := by
  unfold tryGetOrInsert getOrInsert
  split
  · rfl
  · cases memo.get? key <;> rfl

section Computing

variable {m : Type → Type} [Monad m]

/-- The computation is run if the look-up has to compute, and what it gives is looked up. -/
theorem tryGetOrCompute_of_computes [LawfulMonad m] (h : memo.computes key = true)
    (compute : m (Except ε ν)) :
    memo.tryGetOrCompute key compute = memo.tryGetOrInsert key <$> compute := by
  unfold tryGetOrCompute
  rw [map_eq_pure_bind]
  cases henabled : memo.enabled with
  | false =>
      simp only [tryGetOrInsert_of_disabled henabled]
      rfl
  | true =>
      have hnone : memo.get? key = none := by
        simpa [computes, henabled] using h
      simp only [tryGetOrInsert_of_none henabled hnone, hnone]
      refine bind_congr fun computed => ?_
      cases computed <;> rfl

/-- Otherwise it is not run, whatever it would do. -/
theorem tryGetOrCompute_of_not_computes (h : memo.computes key = false)
    (compute : m (Except ε ν)) (computed : Except ε ν) :
    memo.tryGetOrCompute key compute = pure (memo.tryGetOrInsert key computed) := by
  obtain ⟨henabled, value, hvalue⟩ : memo.enabled = true ∧ ∃ value, memo.get? key = some value := by
    simpa [computes, Option.isSome_iff_exists] using h
  rw [tryGetOrCompute, henabled, tryGetOrInsert_of_some henabled hvalue, hvalue]
  rfl

end Computing

/-! ### Calls one after another -/

/-- A computation that leaves an event when it is run. -/
def noted (key : κ) (result : Except ε ν) (given : α) : StateM (List (MemoEvent ε κ ν)) α := do
  modify (· ++ [.computed key result])
  return given

def perform (memo : Memo κ ν) : MemoCall ε κ ν → StateM (List (MemoEvent ε κ ν)) (Memo κ ν)
  | .get _ => return memo
  | .getOrInsert key value => do
      let answer : Except ε ν × Memo κ ν ←
        memo.getOrCompute key (noted key (.ok value : Except ε ν) value)
      return answer.2
  | .tryGetOrInsert key computed => do
      let answer ← memo.tryGetOrCompute key (noted key computed computed)
      return answer.2
  | .clear => do
      modify (· ++ [.cleared])
      return memo.clear

/-- The memo after the calls, and the events that they have led to. -/
def run (memo : Memo κ ν) (calls : List (MemoCall ε κ ν)) : Memo κ ν × List (MemoEvent ε κ ν) :=
  (calls.foldlM perform memo).run []

theorem run_concat (memo : Memo κ ν) (calls : List (MemoCall ε κ ν)) (call : MemoCall ε κ ν) :
    memo.run (calls ++ [call]) = ((memo.run calls).1.perform call).run (memo.run calls).2 := by
  simp only [run, List.foldlM_append, List.foldlM_cons, List.foldlM_nil, bind_pure]
  rfl

theorem perform_tryGetOrInsert (memo : Memo κ ν) (key : κ) (computed : Except ε ν)
    (events : List (MemoEvent ε κ ν)) :
    (memo.perform (.tryGetOrInsert key computed)).run events =
      ((memo.tryGetOrInsert key computed).2,
        events ++ if memo.computes key then [.computed key computed] else []) := by
  unfold perform
  cases h : memo.computes key with
  | false =>
      simp only [tryGetOrCompute_of_not_computes h _ computed]
      rw [if_neg Bool.false_ne_true, List.append_nil]
      rfl
  | true =>
      simp only [tryGetOrCompute_of_computes h]
      rfl

theorem perform_getOrInsert (memo : Memo κ ν) (key : κ) (value : ν)
    (events : List (MemoEvent ε κ ν)) :
    (memo.perform (.getOrInsert key value)).run events =
      ((memo.getOrInsert key value).2,
        events ++ if memo.computes key then [.computed key (.ok value)] else []) := by
  have hsame : memo.perform (.getOrInsert key value : MemoCall ε κ ν) =
      memo.perform (.tryGetOrInsert key (.ok value)) := rfl
  rw [hsame, perform_tryGetOrInsert, tryGetOrInsert_ok]

/-! ### What a memo keeps and counts -/

/-- What an enabled memo has kept and counted after these calls and events. -/
structure Records (calls : List (MemoCall ε κ ν)) (events : List (MemoEvent ε κ ν))
    (memo : Memo κ ν) : Prop where
  enabled : memo.enabled = true
  entries_eq : memo.entries = (MemoEvent.successes events).reverse
  distinct :
    (MemoEvent.successes events).Pairwise fun earlier later => (earlier.1 == later.1) = false
  lookUps_eq : memo.hits + memo.misses = calls.countP MemoCall.isLookUp
  misses_eq : memo.misses = events.countP MemoEvent.isComputed

theorem records_empty : Records [] ([] : List (MemoEvent ε κ ν)) (empty : Memo κ ν) where
  enabled := rfl
  entries_eq := rfl
  distinct := .nil
  lookUps_eq := rfl
  misses_eq := rfl

/-- If all keys differ, it does not matter from which end a key is looked up. -/
theorem lookup_reverse [EquivBEq κ] {entries : List (κ × ν)}
    (h : entries.Pairwise fun earlier later => (earlier.1 == later.1) = false) (key : κ) :
    entries.reverse.lookup key = entries.lookup key := by
  induction entries with
  | nil => rfl
  | cons entry entries ih =>
      obtain ⟨hentry, hentries⟩ := List.pairwise_cons.mp h
      obtain ⟨first, value⟩ := entry
      rw [List.reverse_cons, List.lookup_append, ih hentries]
      cases hkey : key == first with
      | false => simp [List.lookup_cons, hkey]
      | true =>
          have hnone : entries.lookup key = none := by
            rw [List.lookup_eq_none_iff]
            intro other hother
            rw [bne, BEq.congr_left hkey, hentry other hother]
            rfl
          simp [List.lookup_cons, hkey, hnone]

theorem eraseDups_eq_self [EquivBEq κ] {keys : List κ}
    (h : keys.Pairwise fun earlier later => (earlier == later) = false) :
    keys.eraseDups = keys := by
  induction keys with
  | nil => rfl
  | cons key keys ih =>
      obtain ⟨hkey, hkeys⟩ := List.pairwise_cons.mp h
      have hfilter : keys.filter (fun other => !other == key) = keys := by
        rw [List.filter_eq_self]
        intro other hother
        rw [BEq.comm, hkey other hother]
        rfl
      rw [List.eraseDups_cons, hfilter, ih hkeys]

namespace Records

variable {calls : List (MemoCall ε κ ν)} {events : List (MemoEvent ε κ ν)} {memo : Memo κ ν}
  (h : Records calls events memo)

include h

theorem get?_eq [EquivBEq κ] (key : κ) : memo.get? key = MemoEvent.first? key events := by
  rw [get?, h.entries_eq, lookup_reverse h.distinct, MemoEvent.first?]

theorem of_first?_some [EquivBEq κ] {key : κ} {value : ν}
    (hfirst : MemoEvent.first? key events = some value) :
    memo.computes key = false ∧
      ∀ computed : Except ε ν, memo.tryGetOrInsert key computed = (.ok value, memo.hit) := by
  have hget : memo.get? key = some value := (h.get?_eq key).trans hfirst
  refine ⟨?_, tryGetOrInsert_of_some h.enabled hget⟩
  rw [computes, h.enabled, hget]
  rfl

theorem of_first?_none [EquivBEq κ] {key : κ} (hfirst : MemoEvent.first? key events = none) :
    memo.computes key = true ∧ ∀ computed : Except ε ν,
      memo.tryGetOrInsert key computed = (computed, memo.miss.store key computed) := by
  have hget : memo.get? key = none := (h.get?_eq key).trans hfirst
  refine ⟨?_, tryGetOrInsert_of_none h.enabled hget⟩
  rw [computes, h.enabled, hget]
  rfl

/-- The value that is kept is not there yet. -/
theorem distinct_concat [EquivBEq κ] {key : κ} (hnone : MemoEvent.first? key events = none)
    (value : ν) :
    (MemoEvent.successes events ++ [(key, value)]).Pairwise
      fun earlier later => (earlier.1 == later.1) = false := by
  rw [List.pairwise_append]
  refine ⟨h.distinct, List.pairwise_singleton _ _, fun earlier hearlier later hlater => ?_⟩
  obtain rfl := List.mem_singleton.mp hlater
  have hne := List.lookup_eq_none_iff.mp hnone earlier hearlier
  rwa [bne, Bool.not_eq_true', BEq.comm] at hne

theorem hit {call : MemoCall ε κ ν} (hcall : call.isLookUp = true) :
    Records (calls ++ [call]) events memo.hit where
  enabled := h.enabled
  entries_eq := h.entries_eq
  distinct := h.distinct
  lookUps_eq := by
    have hbefore := h.lookUps_eq
    rw [List.countP_append, List.countP_singleton, if_pos hcall, ← hbefore]
    exact Nat.add_right_comm memo.hits 1 memo.misses
  misses_eq := h.misses_eq

theorem miss {call : MemoCall ε κ ν} (hcall : call.isLookUp = true) [EquivBEq κ] {key : κ}
    (hnone : MemoEvent.first? key events = none) (computed : Except ε ν) :
    Records (calls ++ [call]) (events ++ [.computed key computed])
      (memo.miss.store key computed) := by
  have hlookUps : memo.hits + (memo.misses + 1) = (calls ++ [call]).countP MemoCall.isLookUp := by
    rw [List.countP_append, List.countP_singleton, if_pos hcall, ← h.lookUps_eq, Nat.add_assoc]
  have hmisses : memo.misses + 1 =
      (events ++ [MemoEvent.computed key computed]).countP MemoEvent.isComputed := by
    rw [List.countP_append, h.misses_eq]
    rfl
  cases computed with
  | ok value =>
      refine ⟨h.enabled, ?_, ?_, hlookUps, hmisses⟩
      · rw [MemoEvent.successes_concat_ok, List.reverse_append, ← h.entries_eq]
        rfl
      · rw [MemoEvent.successes_concat_ok]
        exact h.distinct_concat hnone value
  | error error =>
      refine ⟨h.enabled, ?_, ?_, hlookUps, hmisses⟩
      · rw [MemoEvent.successes_concat_error]
        exact h.entries_eq
      · rw [MemoEvent.successes_concat_error]
        exact h.distinct

theorem clear {call : MemoCall ε κ ν} (hcall : call.isLookUp = false) :
    Records (calls ++ [call]) (events ++ [.cleared]) memo.clear where
  enabled := h.enabled
  entries_eq := by
    rw [MemoEvent.successes_concat_cleared]
    rfl
  distinct := by
    rw [MemoEvent.successes_concat_cleared]
    exact .nil
  lookUps_eq := by
    rw [List.countP_append, List.countP_singleton, hcall]
    exact h.lookUps_eq
  misses_eq := by
    rw [List.countP_append]
    exact h.misses_eq

/-- A look-up is a hit or a miss, and runs its computation only if it is a miss. -/
theorem lookUp [EquivBEq κ] {call : MemoCall ε κ ν} (hcall : call.isLookUp = true) (key : κ)
    (computed : Except ε ν) :
    Records (calls ++ [call])
      (events ++ if memo.computes key then [.computed key computed] else [])
      (memo.tryGetOrInsert key computed).2 := by
  cases hfirst : MemoEvent.first? key events with
  | none =>
      obtain ⟨hcomputes, hlookUp⟩ := h.of_first?_none hfirst
      rw [hcomputes, if_pos rfl, hlookUp]
      exact h.miss hcall hfirst computed
  | some value =>
      obtain ⟨hcomputes, hlookUp⟩ := h.of_first?_some hfirst
      rw [hcomputes, if_neg Bool.false_ne_true, List.append_nil, hlookUp]
      exact h.hit hcall

theorem perform [EquivBEq κ] (call : MemoCall ε κ ν) :
    Records (calls ++ [call]) ((memo.perform call).run events).2
      ((memo.perform call).run events).1 := by
  cases call with
  | get key =>
      refine ⟨h.enabled, h.entries_eq, h.distinct, ?_, h.misses_eq⟩
      rw [List.countP_append]
      exact h.lookUps_eq
  | getOrInsert key value =>
      have hcall : (MemoCall.getOrInsert key value : MemoCall ε κ ν).isLookUp = true := rfl
      have hlookUp := h.lookUp hcall key (.ok value)
      rw [tryGetOrInsert_ok] at hlookUp
      rwa [perform_getOrInsert]
  | tryGetOrInsert key computed =>
      rw [perform_tryGetOrInsert]
      exact h.lookUp rfl key computed
  | clear => exact h.clear rfl

theorem size_eq [EquivBEq κ] :
    memo.size = ((MemoEvent.successes events).map Prod.fst).eraseDups.length := by
  have hkeys : ((MemoEvent.successes events).map Prod.fst).Pairwise
      fun earlier later => (earlier == later) = false := List.pairwise_map.mpr h.distinct
  rw [eraseDups_eq_self hkeys, List.length_map, size, h.entries_eq, List.length_reverse]

end Records

theorem records_run [EquivBEq κ] (calls : List (MemoCall ε κ ν)) :
    Records calls ((empty : Memo κ ν).run calls).2 ((empty : Memo κ ν).run calls).1 := by
  induction calls using List.reverseRecOn with
  | nil => exact records_empty
  | append_singleton calls call ih =>
      rw [run_concat]
      exact ih.perform call

/-! ### New memos -/

/-- How an enabled memo behaves and what it has counted, after these calls and events. -/
structure Memoises (calls : List (MemoCall ε κ ν)) (events : List (MemoEvent ε κ ν))
    (memo : Memo κ ν) : Prop where
  get?_eq (key : κ) : memo.get? key = MemoEvent.first? key events
  /-- Nothing is run if there is a value, -/
  kept {key : κ} {value : ν} (h : MemoEvent.first? key events = some value) {m : Type → Type}
    [Monad m] (compute : m (Except ε ν)) :
    memo.tryGetOrCompute key compute = pure (.ok value, memo.hit)
  /-- and otherwise the computation is run once, and kept if it succeeds. -/
  computed {key : κ} (h : MemoEvent.first? key events = none) {m : Type → Type} [Monad m]
    [LawfulMonad m] (compute : m (Except ε ν)) :
    memo.tryGetOrCompute key compute =
      (fun result => (result, memo.miss.store key result)) <$> compute
  lookUps_eq : memo.stats.hits + memo.stats.misses = calls.countP MemoCall.isLookUp
  misses_eq : memo.stats.misses = events.countP MemoEvent.isComputed
  entries_eq : memo.stats.entries = ((MemoEvent.successes events).map Prod.fst).eraseDups.length
  stats_clear : memo.clear.stats = { memo.stats with entries := 0 }

/-- How a disabled memo behaves and what it has counted, after these calls and events. -/
structure Recomputes (calls : List (MemoCall ε κ ν)) (events : List (MemoEvent ε κ ν))
    (memo : Memo κ ν) : Prop where
  get?_eq (key : κ) : memo.get? key = none
  computed (key : κ) {m : Type → Type} [Monad m] [LawfulMonad m] (compute : m (Except ε ν)) :
    memo.tryGetOrCompute key compute = (fun result => (result, memo.miss)) <$> compute
  stats_eq : memo.stats = ⟨0, calls.countP MemoCall.isLookUp, 0⟩
  misses_eq : memo.stats.misses = events.countP MemoEvent.isComputed

theorem Records.memoises [EquivBEq κ] {calls : List (MemoCall ε κ ν)}
    {events : List (MemoEvent ε κ ν)} {memo : Memo κ ν} (h : Records calls events memo) :
    Memoises calls events memo where
  get?_eq := h.get?_eq
  kept {key value} hfirst m _ compute := by
    obtain ⟨hcomputes, hlookUp⟩ := h.of_first?_some hfirst
    rw [tryGetOrCompute_of_not_computes hcomputes compute (.ok value), hlookUp]
  computed {key} hfirst m _ _ compute := by
    obtain ⟨hcomputes, hlookUp⟩ := h.of_first?_none hfirst
    rw [tryGetOrCompute_of_computes hcomputes]
    congr 1
    funext result
    exact hlookUp result
  lookUps_eq := h.lookUps_eq
  misses_eq := h.misses_eq
  entries_eq := h.size_eq
  stats_clear := rfl

/-- A disabled memo with so many misses. -/
theorem run_disabled (calls : List (MemoCall ε κ ν)) :
    ((disabled : Memo κ ν).run calls).1 =
        { disabled with misses := calls.countP MemoCall.isLookUp } ∧
      ((disabled : Memo κ ν).run calls).2.countP MemoEvent.isComputed =
        calls.countP MemoCall.isLookUp := by
  induction calls using List.reverseRecOn with
  | nil => exact ⟨rfl, rfl⟩
  | append_singleton calls call ih =>
      obtain ⟨hmemo, hevents⟩ := ih
      rw [run_concat, hmemo, List.countP_append]
      cases call with
      | get key => exact ⟨rfl, hevents⟩
      | getOrInsert key value =>
          rw [perform_getOrInsert]
          refine ⟨rfl, ?_⟩
          rw [List.countP_append, hevents]
          rfl
      | tryGetOrInsert key computed =>
          rw [perform_tryGetOrInsert]
          refine ⟨rfl, ?_⟩
          rw [List.countP_append, hevents]
          rfl
      | clear =>
          refine ⟨rfl, ?_⟩
          exact (List.countP_append ..).trans hevents

theorem recomputes_run (calls : List (MemoCall ε κ ν)) :
    Recomputes calls ((disabled : Memo κ ν).run calls).2 ((disabled : Memo κ ν).run calls).1 := by
  obtain ⟨hmemo, hevents⟩ := @run_disabled ε κ ν _ calls
  rw [hmemo]
  refine ⟨fun key => rfl, fun key m _ _ compute => ?_, rfl, hevents.symm⟩
  rw [tryGetOrCompute_of_computes rfl]
  rfl

omit [BEq κ] in
theorem IsNew.eq_empty_or_disabled {memo : Memo κ ν} (h : memo.IsNew) :
    memo = .empty ∨ memo = .disabled := by
  cases h with
  | empty => exact .inl rfl
  | disabled => exact .inr rfl
  | @ofConfig config _ h =>
      unfold ofConfig? at h
      split_ifs at h
      · exact .inr (Except.ok.inj h).symm
      · exact .inl (Except.ok.inj h).symm

/-- A memo that was made enabled runs a computation for a key only as long as none has succeeded,
and one that was made disabled runs every computation; both count what they have done. -/
theorem memoises_or_recomputes [EquivBEq κ] {start : Memo κ ν} (hnew : start.IsNew)
    (calls : List (MemoCall ε κ ν)) :
    (start.enabled = true → Memoises calls (start.run calls).2 (start.run calls).1) ∧
      (start.enabled = false → Recomputes calls (start.run calls).2 (start.run calls).1) := by
  obtain rfl | rfl := hnew.eq_empty_or_disabled
  · refine ⟨fun _ => (records_run calls).memoises, fun hdisabled => ?_⟩
    exact absurd hdisabled.symm Bool.false_ne_true
  · exact ⟨fun henabled => absurd henabled Bool.false_ne_true, fun _ => recomputes_run calls⟩

/-- A computation fails, one succeeds, one is not run, and one is run behind a clearing. -/
theorem memoises_or_recomputes_of_standard :
    let calls : List (MemoCall String String Nat) :=
      [.tryGetOrInsert "a" (.error "refused"), .getOrInsert "a" 1, .tryGetOrInsert "a" (.ok 2),
        .get "a", .clear, .getOrInsert "b" 3]
    let events : List (MemoEvent String String Nat) :=
      [.computed "a" (.error "refused"), .computed "a" (.ok 1), .cleared, .computed "b" (.ok 3)]
    let memo : Memo String Nat := ⟨true, [("b", 3)], 1, 3⟩
    ofConfig? .standard = .ok (empty : Memo String Nat) ∧ empty.run calls = (memo, events) ∧
      Memoises calls events memo ∧
      Recomputes calls (disabled.run calls).2 (⟨false, [], 0, 4⟩ : Memo String Nat) := by
  intro calls events memo
  have hnew : ofConfig? .standard = .ok (empty : Memo String Nat) := rfl
  have hrun : empty.run calls = (memo, events) := rfl
  have hmemoises := (memoises_or_recomputes (.ofConfig hnew) calls).1 rfl
  rw [hrun] at hmemoises
  exact ⟨hnew, hrun, hmemoises, (memoises_or_recomputes .disabled calls).2 rfl⟩

end Memo

end EntityQuery

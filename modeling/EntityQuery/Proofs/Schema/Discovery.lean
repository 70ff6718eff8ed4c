import EntityQuery.Schema.Basic
import Mathlib.Data.List.Nodup
import Mathlib.Logic.Function.Iterate
import Mathlib.Logic.Relation

/-!
# What a discovery finds

From a type, the types that can be reached and were not known before, each once.  The known types
refer to each other only, so that the walk loses nothing by stopping at them.  Nor do they change
the order: what is found is what would be found with nothing known, without the known types.
-/

namespace EntityQuery.Catalog

variable {n : Nat} {catalog : Catalog n} {known found pending : List (Fin n)} {type other : Fin n}

/-- Properties lead from the one type to the other, in any number of steps. -/
def Reaches (catalog : Catalog n) : Fin n → Fin n → Prop :=
  Relation.ReflTransGen fun type other => other ∈ (catalog type).related

/-- No property of these types leads out of them. -/
def Closed (catalog : Catalog n) (types : List (Fin n)) : Prop :=
  ∀ type ∈ types, ∀ other ∈ (catalog type).related, other ∈ types

theorem Closed.mem_of_reaches {types : List (Fin n)} (hclosed : catalog.Closed types)
    (hmem : type ∈ types) (hreaches : catalog.Reaches type other) : other ∈ types := by
  induction hreaches with
  | refl => exact hmem
  | tail _ hrelated ih => exact hclosed _ ih _ hrelated

/-! ### The walk -/

theorem discover_nil : catalog.discover known found [] = found := by
  rw [discover]

theorem discover_cons_of_mem (h : type ∈ known ∨ type ∈ found) :
    catalog.discover known found (type :: pending) = catalog.discover known found pending := by
  rw [discover, dif_pos]
  simpa only [List.contains_iff_mem] using h

theorem discover_cons_of_notMem (hknown : type ∉ known) (hfound : type ∉ found) :
    catalog.discover known found (type :: pending) =
      catalog.discover known (found ++ [type]) ((catalog type).related ++ pending) := by
  rw [discover, dif_neg]
  simpa only [List.contains_iff_mem, not_or] using ⟨hknown, hfound⟩

/-- One step: the first pending type is dropped, or else it is found and what it refers to becomes
pending. -/
def pop (catalog : Catalog n) (known : List (Fin n)) :
    List (Fin n) × List (Fin n) → List (Fin n) × List (Fin n)
  | (found, []) => (found, [])
  | (found, type :: pending) =>
      if type ∈ known ∨ type ∈ found then (found, pending)
      else (found ++ [type], (catalog type).related ++ pending)

/-- The walk comes to an end on every graph, with cycles too: after finitely many steps nothing is
pending. -/
theorem exists_iterate_pop (catalog : Catalog n) (known found pending : List (Fin n)) :
    ∃ steps, (catalog.pop known)^[steps] (found, pending) =
      (catalog.discover known found pending, []) := by
  induction found, pending using Catalog.discover.induct catalog known with
  | case1 found => exact ⟨0, by rw [Function.iterate_zero, discover_nil]; rfl⟩
  | case2 found type pending hseen ih =>
      simp only [List.contains_iff_mem] at hseen
      obtain ⟨steps, hsteps⟩ := ih
      refine ⟨steps + 1, ?_⟩
      rw [Function.iterate_succ_apply, pop, if_pos hseen, hsteps, discover_cons_of_mem hseen]
  | case3 found type pending hnew ih =>
      simp only [List.contains_iff_mem] at hnew
      obtain ⟨steps, hsteps⟩ := ih
      refine ⟨steps + 1, ?_⟩
      rw [Function.iterate_succ_apply, pop, if_neg hnew, hsteps]
      rw [not_or] at hnew
      rw [discover_cons_of_notMem hnew.1 hnew.2]

/-- What holds while types are discovered: those found are new and different, and what they refer to
is known, found or pending. -/
structure Frontier (catalog : Catalog n) (known found pending : List (Fin n)) : Prop where
  nodup : found.Nodup
  notMem : ∀ type ∈ found, type ∉ known
  followed : ∀ type ∈ found, ∀ other ∈ (catalog type).related,
    other ∈ known ∨ other ∈ found ∨ other ∈ pending

namespace Frontier

theorem start (known pending : List (Fin n)) : catalog.Frontier known [] pending :=
  ⟨List.nodup_nil, by simp, by simp⟩

theorem skip (h : catalog.Frontier known found (type :: pending))
    (hseen : type ∈ known ∨ type ∈ found) : catalog.Frontier known found pending := by
  refine ⟨h.nodup, h.notMem, fun origin horigin other hother => ?_⟩
  rcases h.followed origin horigin other hother with hknown | hfound | hpending
  · exact .inl hknown
  · exact .inr (.inl hfound)
  · rcases List.mem_cons.mp hpending with rfl | hpending
    · exact hseen.imp_right .inl
    · exact .inr (.inr hpending)

theorem visit (h : catalog.Frontier known found (type :: pending)) (hknown : type ∉ known)
    (hfound : type ∉ found) :
    catalog.Frontier known (found ++ [type]) ((catalog type).related ++ pending) where
  nodup := by
    rw [List.nodup_append]
    refine ⟨h.nodup, List.nodup_singleton type, fun a ha b hb => ?_⟩
    rw [List.mem_singleton.mp hb]
    exact fun heq => hfound (heq ▸ ha)
  notMem := by
    intro origin horigin
    rcases List.mem_append.mp horigin with horigin | horigin
    · exact h.notMem origin horigin
    · rw [List.mem_singleton.mp horigin]
      exact hknown
  followed := by
    intro origin horigin other hother
    rcases List.mem_append.mp horigin with horigin | horigin
    · rcases h.followed origin horigin other hother with hold | hold | hold
      · exact .inl hold
      · exact .inr (.inl (List.mem_append_left _ hold))
      · rcases List.mem_cons.mp hold with rfl | hold
        · exact .inr (.inl (List.mem_append_right _ List.mem_cons_self))
        · exact .inr (.inr (List.mem_append_right _ hold))
    · rw [List.mem_singleton.mp horigin] at hother
      exact .inr (.inr (List.mem_append_left _ hother))

theorem discover (h : catalog.Frontier known found pending) :
    catalog.Frontier known (catalog.discover known found pending) [] := by
  induction found, pending using Catalog.discover.induct catalog known with
  | case1 found =>
      rw [discover_nil]
      exact h
  | case2 found type pending hseen ih =>
      simp only [List.contains_iff_mem] at hseen
      rw [discover_cons_of_mem hseen]
      exact ih (h.skip hseen)
  | case3 found type pending hnew ih =>
      simp only [List.contains_iff_mem, not_or] at hnew
      rw [discover_cons_of_notMem hnew.1 hnew.2]
      exact ih (h.visit hnew.1 hnew.2)

end Frontier

theorem mem_discover_of_mem_found (h : type ∈ found) :
    type ∈ catalog.discover known found pending := by
  induction found, pending using Catalog.discover.induct catalog known with
  | case1 found =>
      rw [discover_nil]
      exact h
  | case2 found other pending hseen ih =>
      rw [discover, dif_pos hseen]
      exact ih h
  | case3 found other pending hnew ih =>
      rw [discover, dif_neg hnew]
      exact ih (List.mem_append_left _ h)

theorem mem_discover_of_mem_pending (h : type ∈ pending) (hknown : type ∉ known) :
    type ∈ catalog.discover known found pending := by
  induction found, pending using Catalog.discover.induct catalog known with
  | case1 found => cases h
  | case2 found other pending hseen ih =>
      simp only [List.contains_iff_mem] at hseen
      rw [discover_cons_of_mem hseen]
      rcases List.mem_cons.mp h with rfl | h
      · exact mem_discover_of_mem_found (hseen.resolve_left hknown)
      · exact ih h
  | case3 found other pending hnew ih =>
      simp only [List.contains_iff_mem, not_or] at hnew
      rw [discover_cons_of_notMem hnew.1 hnew.2]
      rcases List.mem_cons.mp h with rfl | h
      · exact mem_discover_of_mem_found (List.mem_append_right _ List.mem_cons_self)
      · exact ih (List.mem_append_right _ h)

/-- Whatever holds of the types to start with and is handed on by properties holds of all found. -/
theorem forall_mem_discover (holds : Fin n → Prop)
    (hstep : ∀ type, holds type → ∀ other ∈ (catalog type).related, holds other)
    (hfound : ∀ type ∈ found, holds type) (hpending : ∀ type ∈ pending, holds type) :
    ∀ type ∈ catalog.discover known found pending, holds type := by
  induction found, pending using Catalog.discover.induct catalog known with
  | case1 found =>
      rw [discover_nil]
      exact hfound
  | case2 found type pending hseen ih =>
      rw [discover, dif_pos hseen]
      exact ih hfound (List.forall_mem_cons.mp hpending).2
  | case3 found type pending hnew ih =>
      rw [discover, dif_neg hnew]
      obtain ⟨htype, hrest⟩ := List.forall_mem_cons.mp hpending
      refine ih ?_ ?_
      · exact List.forall_mem_append.mpr ⟨hfound, List.forall_mem_singleton.mpr htype⟩
      · exact List.forall_mem_append.mpr ⟨hstep type htype, hrest⟩

/-! ### From one type -/

theorem nodup_discover : (catalog.discover known [] pending).Nodup :=
  (Frontier.start known pending).discover.nodup

theorem notMem_of_mem_discover (h : type ∈ catalog.discover known [] pending) : type ∉ known :=
  (Frontier.start known pending).discover.notMem type h

/-- What was found refers to known types and to types that were found. -/
theorem closed_append_discover (hknown : catalog.Closed known) :
    catalog.Closed (known ++ catalog.discover known [] pending) := by
  intro type htype other hother
  rcases List.mem_append.mp htype with htype | htype
  · exact List.mem_append_left _ (hknown type htype other hother)
  · rcases (Frontier.start known pending).discover.followed type htype other hother with h | h | h
    · exact List.mem_append_left _ h
    · exact List.mem_append_right _ h
    · cases h

theorem mem_discover_iff (hknown : catalog.Closed known) :
    other ∈ catalog.discover known [] [type] ↔ catalog.Reaches type other ∧ other ∉ known := by
  constructor
  · intro h
    refine ⟨?_, notMem_of_mem_discover h⟩
    refine forall_mem_discover (catalog.Reaches type) ?_ (by simp) ?_ other h
    · exact fun middle hmiddle next hnext => hmiddle.tail hnext
    · exact List.forall_mem_singleton.mpr .refl
  · rintro ⟨hreaches, hnew⟩
    have hmem : type ∈ known ++ catalog.discover known [] [type] := by
      by_cases htype : type ∈ known
      · exact List.mem_append_left _ htype
      · exact List.mem_append_right _ (mem_discover_of_mem_pending List.mem_cons_self htype)
    have hother := (closed_append_discover hknown).mem_of_reaches hmem hreaches
    exact (List.mem_append.mp hother).resolve_left hnew

/-! ### The order -/

/-- The types that are not known, in their order. -/
def unknown (known types : List (Fin n)) : List (Fin n) :=
  types.filter fun type => !known.contains type

theorem unknown_append (known first second : List (Fin n)) :
    unknown known (first ++ second) = unknown known first ++ unknown known second :=
  List.filter_append ..

theorem unknown_cons_of_mem (h : type ∈ known) (types : List (Fin n)) :
    unknown known (type :: types) = unknown known types :=
  List.filter_cons_of_neg (by simpa using h)

theorem unknown_cons_of_notMem (h : type ∉ known) (types : List (Fin n)) :
    unknown known (type :: types) = type :: unknown known types :=
  List.filter_cons_of_pos (by simpa using h)

theorem mem_unknown_iff {types : List (Fin n)} :
    type ∈ unknown known types ↔ type ∈ types ∧ type ∉ known := by
  simp [unknown]

theorem discover_append_of_known {first : List (Fin n)} (h : ∀ type ∈ first, type ∈ known) :
    catalog.discover known found (first ++ pending) = catalog.discover known found pending := by
  induction first with
  | nil => rfl
  | cons type first ih =>
      obtain ⟨htype, hfirst⟩ := List.forall_mem_cons.mp h
      rw [List.cons_append, discover_cons_of_mem (.inl htype), ih hfirst]

/-- Nothing else changes when types are known before. -/
theorem unknown_discover (hknown : catalog.Closed known) :
    unknown known (catalog.discover [] found pending) =
      catalog.discover known (unknown known found) pending := by
  induction found, pending using Catalog.discover.induct catalog [] with
  | case1 found =>
      rw [discover_nil, discover_nil]
  | case2 found type pending hseen ih =>
      simp only [List.contains_iff_mem, List.not_mem_nil, false_or] at hseen
      have hskipped : type ∈ known ∨ type ∈ unknown known found := by
        by_cases htype : type ∈ known
        · exact .inl htype
        · exact .inr (mem_unknown_iff.mpr ⟨hseen, htype⟩)
      rw [discover_cons_of_mem (.inr hseen), discover_cons_of_mem hskipped]
      exact ih
  | case3 found type pending hnew ih =>
      simp only [List.contains_iff_mem, List.not_mem_nil, false_or] at hnew
      rw [discover_cons_of_notMem List.not_mem_nil hnew, ih, unknown_append]
      by_cases htype : type ∈ known
      · rw [unknown_cons_of_mem htype, discover_cons_of_mem (.inl htype),
          discover_append_of_known (hknown type htype)]
        simp [unknown]
      · have hfound : type ∉ unknown known found := fun h => hnew (mem_unknown_iff.mp h).1
        rw [unknown_cons_of_notMem htype, discover_cons_of_notMem htype hfound]
        rfl

end EntityQuery.Catalog

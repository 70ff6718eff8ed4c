import EntityQuery.Derive.Entity
import Mathlib.Data.List.Basic

/-!
# Types of fields

What is left of a type without its wrappers, and which types are collections.  Both are asked of the
path that a type is: of its last name, and of the types in the angle brackets after this name.  A
type is whole if it closes no angle bracket that was opened before it; then what is left of it is
whole, and so are the types in angle brackets anyway.
-/

namespace EntityQuery.Tokens

/-! ### Brackets -/

/-- The tokens close all brackets that are open, and none of the signs stands outside these. -/
inductive Closes (signs : List String) : Depth → Tokens → Prop
  | nil : Closes signs .none []
  | cons {depth : Depth} {token : String} {rest : Tokens}
      (hsign : depth.isOutside = true → token ∉ signs)
      (hrest : Closes signs (depth.after token) rest) : Closes signs depth (token :: rest)

/-- A bracket that follows the type is not closed by it. -/
def IsWhole (type : Tokens) : Prop :=
  untilClosed? .none (type ++ [">"]) = some (type, [])

theorem Depth.eq_none_of_isOutside {depth : Depth} (h : depth.isOutside = true) :
    depth = .none := by
  obtain ⟨angles, others⟩ := depth
  rw [isOutside, Bool.and_eq_true, beq_iff_eq, beq_iff_eq] at h
  exact congrArg₂ Depth.mk h.1 h.2

theorem Closes.mono {signs fewer : List String} {depth : Depth} {tokens : Tokens}
    (hsub : fewer ⊆ signs) (h : Closes signs depth tokens) : Closes fewer depth tokens := by
  induction h with
  | nil => exact .nil
  | cons hsign _ ih => exact .cons (fun houtside hmem => hsign houtside (hsub hmem)) ih

theorem Closes.append {signs : List String} {depth : Depth} {tokens rest : Tokens}
    (h : Closes signs depth tokens) (hrest : Closes signs .none rest) :
    Closes signs depth (tokens ++ rest) := by
  induction h with
  | nil => exact hrest
  | cons hsign _ ih => exact .cons hsign ih

/-- The bracket that closes one opened before is the first one outside those of the tokens. -/
theorem untilClosed?_eq_some_iff {depth : Depth} {tokens inside after : Tokens} :
    untilClosed? depth tokens = some (inside, after) ↔
      Closes [">"] depth inside ∧ tokens = inside ++ ">" :: after := by
  constructor
  · intro h
    induction tokens generalizing depth inside after with
    | nil => cases h
    | cons token rest ih =>
        rw [untilClosed?] at h
        by_cases hclosing : (depth.isOutside && token == ">") = true
        · rw [if_pos hclosing] at h
          cases h
          obtain ⟨houtside, htoken⟩ := (Bool.and_eq_true _ _).mp hclosing
          obtain rfl := Depth.eq_none_of_isOutside houtside
          exact ⟨.nil, by rw [beq_iff_eq.mp htoken, List.nil_append]⟩
        · rw [if_neg hclosing] at h
          obtain ⟨⟨inner, outer⟩, hinner, heq⟩ := Option.map_eq_some_iff.mp h
          cases heq
          obtain ⟨hcloses, rfl⟩ := ih hinner
          exact ⟨.cons (by simpa using hclosing) hcloses, rfl⟩
  · rintro ⟨h, rfl⟩
    induction h with
    | nil => rfl
    | cons hsign _ ih =>
        rw [List.cons_append, untilClosed?, if_neg (by simpa using hsign), ih]
        rfl

theorem isWhole_iff {type : Tokens} : type.IsWhole ↔ Closes [">"] .none type :=
  untilClosed?_eq_some_iff.trans (and_iff_left rfl)

theorem IsWhole.untilClosed?_eq {type : Tokens} (h : type.IsWhole) (rest : Tokens) :
    untilClosed? .none (type ++ ">" :: rest) = some (type, rest) :=
  untilClosed?_eq_some_iff.mpr ⟨isWhole_iff.mp h, rfl⟩

/-! ### Arguments -/

/-- Arguments with a comma between any two. -/
inductive Lists : Tokens → List Tokens → Prop
  | last {argument : Tokens} (hargument : Closes [">", ","] .none argument) :
      Lists argument [argument]
  | more {argument rest : Tokens} {others : List Tokens}
      (hargument : Closes [">", ","] .none argument) (hrest : Lists rest others) :
      Lists (argument ++ "," :: rest) (argument :: others)

theorem parts_of_closes {depth : Depth} {part : Tokens} (h : Closes [">", ","] depth part) :
    parts depth part = [part] := by
  induction h with
  | nil => rfl
  | cons hsign _ ih => rw [parts, if_neg (by simp_all), ih]

theorem parts_append_comma {depth : Depth} {part : Tokens} (h : Closes [">", ","] depth part)
    (rest : Tokens) : parts depth (part ++ "," :: rest) = part :: parts .none rest := by
  induction h with
  | nil => rfl
  | cons hsign _ ih => rw [List.cons_append, parts, if_neg (by simp_all), ih]

namespace Lists

variable {inside : Tokens} {arguments : List Tokens}

theorem closes (h : Lists inside arguments) : Closes [">"] .none inside := by
  induction h with
  | last hargument => exact hargument.mono (by simp)
  | more hargument _ ih => exact (hargument.mono (by simp)).append (.cons (by simp) ih)

theorem parts_eq (h : Lists inside arguments) : parts .none inside = arguments := by
  induction h with
  | last hargument => exact parts_of_closes hargument
  | more hargument _ ih => rw [parts_append_comma hargument, ih]

theorem isWhole_of_mem {argument : Tokens} (h : Lists inside arguments)
    (hargument : argument ∈ arguments) : argument.IsWhole := by
  rw [isWhole_iff]
  induction h with
  | last hpart =>
      rw [List.mem_singleton] at hargument
      exact hargument ▸ hpart.mono (by simp)
  | more hpart _ ih =>
      rcases List.mem_cons.mp hargument with rfl | hother
      · exact hpart.mono (by simp)
      · exact ih hother

theorem length_le_of_mem {argument : Tokens} (h : Lists inside arguments)
    (hargument : argument ∈ arguments) : argument.length ≤ inside.length := by
  induction h with
  | last => exact Nat.le_of_eq (congrArg List.length (List.mem_singleton.mp hargument))
  | more _ _ ih =>
      rw [List.length_append, List.length_cons]
      rcases List.mem_cons.mp hargument with rfl | hother
      · exact Nat.le_add_right _ _
      · exact Nat.le_add_left_of_le (Nat.le_succ_of_le (ih hother))

end Lists

/-- The tokens up to the first comma, and the arguments after it. -/
theorem exists_part_of_closes {depth : Depth} {tokens : Tokens} (h : Closes [">"] depth tokens) :
    ∃ part, Closes [">", ","] depth part ∧
      (tokens = part ∨ ∃ rest others, tokens = part ++ "," :: rest ∧ Lists rest others) := by
  induction h with
  | nil => exact ⟨[], .nil, .inl rfl⟩
  | @cons depth token rest hsign hrest ih =>
      obtain ⟨part, hpart, hsplit⟩ := ih
      by_cases hcomma : depth.isOutside = true ∧ token = ","
      · obtain ⟨houtside, rfl⟩ := hcomma
        obtain rfl := Depth.eq_none_of_isOutside houtside
        refine ⟨[], .nil, .inr ⟨rest, ?_⟩⟩
        obtain rfl | ⟨after, others, rfl, hothers⟩ := hsplit
        · exact ⟨[rest], rfl, .last hpart⟩
        · exact ⟨part :: others, rfl, .more hpart hothers⟩
      · refine ⟨token :: part, .cons (fun houtside => ?_) hpart, ?_⟩
        · have := hsign houtside
          simp_all
        · obtain rfl | ⟨after, others, rfl, hothers⟩ := hsplit
          · exact .inl rfl
          · exact .inr ⟨after, others, rfl, hothers⟩

theorem lists_parts {inside : Tokens} (h : Closes [">"] .none inside) :
    Lists inside (parts .none inside) := by
  obtain ⟨part, hpart, rfl | ⟨rest, others, rfl, hothers⟩⟩ := exists_part_of_closes h
  · rw [parts_of_closes hpart]
    exact .last hpart
  · rw [parts_append_comma hpart, hothers.parts_eq]
    exact .more hpart hothers

/-! ### Paths -/

/-- A path that ends in a name, with the types among the arguments of this name. -/
inductive IsPath : Tokens → String → List Tokens → Prop
  | name {name : String} (hname : isName name = true) : IsPath [name] name []
  | applied {name : String} {opening inside : Tokens} {arguments : List Tokens}
      (hname : isName name = true) (hopening : opening = ["<"] ∨ opening = ["::", "<"])
      (harguments : Lists inside arguments) :
      IsPath (name :: (opening ++ (inside ++ [">"]))) name (arguments.filter isType)
  | within {outer name : String} {path : Tokens} {types : List Tokens}
      (houter : isName outer = true) (hpath : IsPath path name types) :
      IsPath (outer :: "::" :: path) name types
  | withinApplied {outer name : String} {opening inside path : Tokens} {types : List Tokens}
      (houter : isName outer = true) (hopening : opening = ["<"] ∨ opening = ["::", "<"])
      (hinside : Closes [">"] .none inside) (hpath : IsPath path name types) :
      IsPath (outer :: (opening ++ (inside ++ ">" :: "::" :: path))) name types

/-- A type that is a path, which may start with a sign of its own. -/
def IsApplied (type : Tokens) (name : String) (types : List Tokens) : Prop :=
  ∃ path, IsPath path name types ∧ (type = path ∨ type = "::" :: path)

theorem IsPath.exists_eq_cons {path : Tokens} {name : String} {types : List Tokens}
    (h : IsPath path name types) : ∃ first rest, path = first :: rest ∧ isName first = true := by
  cases h with
  | name hname | applied hname | within hname | withinApplied hname => exact ⟨_, _, rfl, hname⟩

theorem isPath_of_lastSegment? {path : Tokens} {name : String} {types : List Tokens}
    (h : lastSegment? path = some (name, types)) : IsPath path name types := by
  fun_induction lastSegment? path with
  | case1 | case2 | case6 | case9 | case11 => cases h
  | case3 name hname =>
      cases h
      exact .name (by simpa using hname)
  | case4 name hname opened inside hinside =>
      cases h
      obtain ⟨hcloses, rfl⟩ := untilClosed?_eq_some_iff.mp hinside
      exact .applied (by simpa using hname) (.inr rfl) (lists_parts hcloses)
  | case7 name hname opened inside hinside =>
      cases h
      obtain ⟨hcloses, rfl⟩ := untilClosed?_eq_some_iff.mp hinside
      exact .applied (by simpa using hname) (.inl rfl) (lists_parts hcloses)
  | case5 name hname opened inside after hinside hlength ih =>
      obtain ⟨hcloses, rfl⟩ := untilClosed?_eq_some_iff.mp hinside
      exact .withinApplied (by simpa using hname) (.inr rfl) hcloses (ih h)
  | case8 name hname opened inside after hinside hlength ih =>
      obtain ⟨hcloses, rfl⟩ := untilClosed?_eq_some_iff.mp hinside
      exact .withinApplied (by simpa using hname) (.inl rfl) hcloses (ih h)
  | case10 name hname rest _ ih => exact .within (by simpa using hname) (ih h)

theorem lastSegment?_of_closed {name : String} {opening opened inside : Tokens}
    (hname : isName name = true) (hopening : opening = ["<"] ∨ opening = ["::", "<"])
    (hclosed : untilClosed? .none opened = some (inside, [])) :
    lastSegment? (name :: (opening ++ opened)) =
      some (name, (parts .none inside).filter isType) := by
  obtain rfl | rfl := hopening
  all_goals
    simp only [List.cons_append, List.nil_append, lastSegment?, hname, Bool.not_true,
      Bool.false_eq_true, if_false]
    split
    · next h =>
        cases h.symm.trans hclosed
        rfl
    · next h => cases h.symm.trans hclosed
    · next hnone _ => exact absurd hclosed (hnone _)

theorem lastSegment?_of_continued {name : String} {opening opened inside path : Tokens}
    (hname : isName name = true) (hopening : opening = ["<"] ∨ opening = ["::", "<"])
    (hclosed : untilClosed? .none opened = some (inside, "::" :: path)) :
    lastSegment? (name :: (opening ++ opened)) = lastSegment? path := by
  obtain rfl | rfl := hopening
  all_goals
    simp only [List.cons_append, List.nil_append, lastSegment?, hname, Bool.not_true,
      Bool.false_eq_true, if_false]
    split
    · next h => cases h.symm.trans hclosed
    · next h =>
        cases h.symm.trans hclosed
        rfl
    · next _ hnone => exact absurd hclosed (hnone _ _)

theorem lastSegment?_of_isPath {path : Tokens} {name : String} {types : List Tokens}
    (h : IsPath path name types) : lastSegment? path = some (name, types) := by
  induction h with
  | name hname => rw [lastSegment?, if_neg (by simpa using hname)]
  | applied hname hopening harguments =>
      rw [lastSegment?_of_closed hname hopening
        (untilClosed?_eq_some_iff.mpr ⟨harguments.closes, rfl⟩), harguments.parts_eq]
  | within houter hpath ih =>
      obtain ⟨first, rest, rfl, hfirst⟩ := hpath.exists_eq_cons
      rw [lastSegment?, if_neg (by simpa using houter)]
      · exact ih
      · intro opened h
        cases h
        exact absurd hfirst (by decide)
  | withinApplied houter hopening hinside _ ih =>
      rw [lastSegment?_of_continued houter hopening
        (untilClosed?_eq_some_iff.mpr ⟨hinside, rfl⟩), ih]

/-- The last name and its types are those of the path. -/
theorem applied?_eq_some_iff {type : Tokens} {name : String} {types : List Tokens} :
    applied? type = some (name, types) ↔ IsApplied type name types := by
  constructor
  · intro h
    unfold applied? at h
    split at h
    · next path => exact ⟨path, isPath_of_lastSegment? h, .inr rfl⟩
    · exact ⟨type, isPath_of_lastSegment? h, .inl rfl⟩
  · rintro ⟨path, hpath, rfl | rfl⟩
    · obtain ⟨first, rest, rfl, hfirst⟩ := hpath.exists_eq_cons
      rw [applied?]
      · exact lastSegment?_of_isPath hpath
      · intro other h
        cases h
        exact absurd hfirst (by decide)
    · exact lastSegment?_of_isPath hpath

/-- Of these arguments the first one is a lifetime and the second one a constant. -/
example :
    applied? ["Pair", "<", "'a", ",", "\"x\"", ",", "'a", "+", "Key", ",", "Map", "<", "K", ",", "V",
      ">", ">"] = some ("Pair", [["'a", "+", "Key"], ["Map", "<", "K", ",", "V", ">"]]) := by
  decide +kernel

theorem IsApplied.unique {type : Tokens} {name other : String} {types others : List Tokens}
    (h : IsApplied type name types) (hother : IsApplied type other others) :
    name = other ∧ types = others := by
  have heq := (applied?_eq_some_iff.mpr h).symm.trans (applied?_eq_some_iff.mpr hother)
  simpa using heq

theorem IsPath.isWhole_of_mem {path argument : Tokens} {name : String} {types : List Tokens}
    (h : IsPath path name types) (hargument : argument ∈ types) : argument.IsWhole := by
  induction h with
  | name => cases hargument
  | applied _ _ harguments => exact harguments.isWhole_of_mem (List.mem_of_mem_filter hargument)
  | within _ _ ih | withinApplied _ _ _ _ ih => exact ih hargument

theorem IsPath.length_lt_of_mem {path argument : Tokens} {name : String} {types : List Tokens}
    (h : IsPath path name types) (hargument : argument ∈ types) :
    argument.length < path.length := by
  induction h with
  | name => cases hargument
  | applied _ _ harguments =>
      have hlength := harguments.length_le_of_mem (List.mem_of_mem_filter hargument)
      simp only [List.length_cons, List.length_append]
      omega
  | within _ _ ih =>
      have hlength := ih hargument
      simp only [List.length_cons]
      omega
  | withinApplied _ _ _ _ ih =>
      have hlength := ih hargument
      simp only [List.length_cons, List.length_append]
      omega

theorem IsApplied.isWhole_of_mem {type argument : Tokens} {name : String} {types : List Tokens}
    (h : IsApplied type name types) (hargument : argument ∈ types) : argument.IsWhole := by
  obtain ⟨path, hpath, -⟩ := h
  exact hpath.isWhole_of_mem hargument

theorem IsApplied.length_lt_of_mem {type argument : Tokens} {name : String} {types : List Tokens}
    (h : IsApplied type name types) (hargument : argument ∈ types) :
    argument.length < type.length := by
  obtain ⟨path, hpath, rfl | rfl⟩ := h
  · exact hpath.length_lt_of_mem hargument
  · exact Nat.lt_succ_of_lt (hpath.length_lt_of_mem hargument)

/-! ### Wrappers -/

/-- The wrappers around a type are taken off, one inside the other, until there is none. -/
inductive Strips : Tokens → Tokens → Prop
  | wrapper {type inner target : Tokens} {name : String} (hname : name = "Option" ∨ name = "Box")
      (happlied : IsApplied type name [inner]) (h : Strips inner target) :
      Strips type target
  | bare {type : Tokens} (h : ∀ name inner, IsApplied type name [inner] →
      ¬ (name = "Option" ∨ name = "Box")) : Strips type type

theorem strips_unwrapped (type : Tokens) : Strips type type.unwrapped := by
  fun_induction unwrapped type with
  | case1 type name inner happlied hwrapper ih =>
      exact .wrapper hwrapper.1 (applied?_eq_some_iff.mp happlied) ih
  | case2 type name inner happlied hbare =>
      refine .bare fun other rest hother hwrapper => ?_
      have hlength := hother.length_lt_of_mem List.mem_cons_self
      cases happlied.symm.trans (applied?_eq_some_iff.mpr hother)
      exact hbare ⟨hwrapper, hlength⟩
  | case3 type hbare =>
      exact .bare fun name inner happlied =>
        absurd (applied?_eq_some_iff.mpr happlied) (hbare name inner)

theorem Strips.unique {type target other : Tokens} (h : Strips type target)
    (hother : Strips type other) : target = other := by
  induction h with
  | wrapper hname happlied _ ih =>
      cases hother with
      | wrapper _ happlied' h' =>
          obtain ⟨rfl, heq⟩ := happlied.unique happlied'
          cases heq
          exact ih h'
      | bare hbare => exact absurd hname (hbare _ _ happlied)
  | bare hbare =>
      cases hother with
      | wrapper hname happlied _ => exact absurd hname (hbare _ _ happlied)
      | bare _ => rfl

theorem Strips.isWhole {type target : Tokens} (h : Strips type target) (htype : type.IsWhole) :
    target.IsWhole := by
  induction h with
  | wrapper _ happlied _ ih => exact ih (happlied.isWhole_of_mem List.mem_cons_self)
  | bare _ => exact htype

/-! ### Collections -/

/-- A collection of elements, which are the values of a map. -/
inductive IsCollection (type : Tokens) : CollectionKind → Tokens → Prop
  | list {name : String} {element : Tokens}
      (hname : name = "Vec" ∨ name = "VecDeque" ∨ name = "LinkedList")
      (happlied : IsApplied type name [element]) : IsCollection type .list element
  | set {name : String} {element : Tokens} (hname : name = "HashSet" ∨ name = "BTreeSet")
      (happlied : IsApplied type name [element]) : IsCollection type .set element
  | map {name : String} {key value : Tokens} (hname : name = "HashMap" ∨ name = "BTreeMap")
      (happlied : IsApplied type name [key, value]) : IsCollection type .map value

theorem IsCollection.isWhole {type element : Tokens} {kind : CollectionKind}
    (h : IsCollection type kind element) : element.IsWhole := by
  cases h with
  | list _ happlied | set _ happlied => exact happlied.isWhole_of_mem List.mem_cons_self
  | map _ happlied =>
      exact happlied.isWhole_of_mem (List.mem_cons_of_mem _ List.mem_cons_self)

theorem collection?_eq_some_iff {type target : Tokens} {kind : CollectionKind} :
    type.collection? = some (kind, target) ↔
      ∃ element, IsCollection type kind element ∧ element.unwrapped = target := by
  constructor
  · intro h
    unfold collection? at h
    split at h
    next name element happlied =>
      rw [applied?_eq_some_iff] at happlied
      split_ifs at h with hlist hset
      · cases h
        exact ⟨element, .list (by simpa using hlist) happlied, rfl⟩
      · cases h
        exact ⟨element, .set (by simpa using hset) happlied, rfl⟩
    next name key value happlied =>
      rw [applied?_eq_some_iff] at happlied
      split_ifs at h with hmap
      cases h
      exact ⟨value, .map (by simpa using hmap) happlied, rfl⟩
    next => cases h
  · rintro ⟨element, hcollection, rfl⟩
    cases hcollection with
    | list hname happlied | map hname happlied =>
        rw [collection?, applied?_eq_some_iff.mpr happlied]
        simp [hname]
    | set hname happlied =>
        rw [collection?, applied?_eq_some_iff.mpr happlied]
        obtain rfl | rfl := hname <;> rfl

end EntityQuery.Tokens

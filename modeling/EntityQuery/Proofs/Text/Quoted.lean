import Mathlib.Data.List.Basic

/-!
# Names between quotes

A name between quotes goes on up to the first closing quote that is not doubled, and a doubled one
in it stands for a single one.
-/

namespace EntityQuery.Text

/-- The name up to the closing quote, and what stands behind the quote. -/
def readQuoted (closing : Char) : List Char → Option (List Char × List Char)
  | [] => none
  | [c] => if c = closing then some ([], []) else none
  | c :: next :: rest =>
      if c = closing then
        if next = closing then
          (readQuoted closing rest).map fun (name, behind) => (closing :: name, behind)
        else
          some ([], next :: rest)
      else
        (readQuoted closing (next :: rest)).map fun (name, behind) => (c :: name, behind)

/-- The name with its closing quotes doubled. -/
def doubled (closing : Char) (name : List Char) : List Char :=
  name.flatMap fun c => if c = closing then [closing, closing] else [c]

variable {c closing : Char} {text name behind : List Char}

theorem doubled_nil : doubled closing [] = [] :=
  rfl

theorem doubled_cons_self :
    doubled closing (closing :: name) = closing :: closing :: doubled closing name := by
  rw [doubled, List.flatMap_cons, if_pos rfl]
  rfl

theorem doubled_cons_of_ne (hc : c ≠ closing) :
    doubled closing (c :: name) = c :: doubled closing name := by
  rw [doubled, List.flatMap_cons, if_neg hc]
  rfl

theorem length_doubled : (doubled closing name).length = name.length + name.count closing := by
  induction name with
  | nil => rfl
  | cons c rest ih =>
      by_cases hc : c = closing
      · rw [hc, doubled_cons_self, List.count_cons_self]
        simp only [List.length_cons, ih]
        omega
      · rw [doubled_cons_of_ne hc, List.count_cons_of_ne hc]
        simp only [List.length_cons, ih]
        omega

theorem doubled_of_notMem (h : closing ∉ name) : doubled closing name = name := by
  induction name with
  | nil => rfl
  | cons c rest ih =>
      have hc : c ≠ closing := fun heq => h (heq ▸ List.mem_cons_self)
      rw [doubled_cons_of_ne hc, ih fun hmem => h (List.mem_cons_of_mem c hmem)]

theorem doubled_eq_iff : doubled closing name = name ↔ closing ∉ name := by
  refine ⟨fun h => ?_, doubled_of_notMem⟩
  have hlength := congrArg List.length h
  rw [length_doubled] at hlength
  exact List.count_eq_zero.mp (by omega)

theorem readQuoted_cons_of_ne (hc : c ≠ closing) (htext : text ≠ []) :
    readQuoted closing (c :: text) =
      (readQuoted closing text).map fun (name, behind) => (c :: name, behind) := by
  cases text with
  | nil => exact absurd rfl htext
  | cons next rest => rw [readQuoted, if_neg hc]

theorem readQuoted_doubled (hbehind : behind.head? ≠ some closing) :
    readQuoted closing (doubled closing name ++ closing :: behind) = some (name, behind) := by
  induction name with
  | nil =>
      rw [doubled_nil, List.nil_append]
      cases behind with
      | nil => rw [readQuoted, if_pos rfl]
      | cons next rest =>
          have hnext : next ≠ closing := fun h => hbehind (congrArg some h)
          rw [readQuoted, if_pos rfl, if_neg hnext]
  | cons c rest ih =>
      by_cases hc : c = closing
      · rw [hc, doubled_cons_self, List.cons_append, List.cons_append, readQuoted, if_pos rfl,
          if_pos rfl, ih]
        rfl
      · rw [doubled_cons_of_ne hc, List.cons_append, readQuoted_cons_of_ne hc (by simp), ih]
        rfl

/-- What can be read are the texts that were written with doubled quotes. -/
theorem readQuoted_eq_some_iff :
    readQuoted closing text = some (name, behind) ↔
      text = doubled closing name ++ closing :: behind ∧ behind.head? ≠ some closing := by
  refine ⟨fun h => ?_, fun ⟨htext, hbehind⟩ => htext ▸ readQuoted_doubled hbehind⟩
  fun_induction readQuoted closing text generalizing name with
  | case1 => cases h
  | case2 =>
      cases h
      exact ⟨rfl, nofun⟩
  | case3 => cases h
  | case4 rest ih =>
      obtain ⟨⟨read, remaining⟩, hread, heq⟩ := Option.map_eq_some_iff.mp h
      cases heq
      obtain ⟨htext, hbehind⟩ := ih hread
      refine ⟨?_, hbehind⟩
      rw [htext, doubled_cons_self]
      rfl
  | case5 next rest hnext =>
      cases h
      exact ⟨rfl, fun h => hnext (Option.some.inj h)⟩
  | case6 c next rest hc ih =>
      obtain ⟨⟨read, remaining⟩, hread, heq⟩ := Option.map_eq_some_iff.mp h
      cases heq
      obtain ⟨htext, hbehind⟩ := ih hread
      refine ⟨?_, hbehind⟩
      rw [htext, doubled_cons_of_ne hc]
      rfl

end EntityQuery.Text

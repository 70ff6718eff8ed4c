import EntityQuery.Proofs.Text.Consists

/-!
# Parentheses and words

A text with balanced parentheses is read as words: the parts between the blanks that stand outside
of all parentheses.  Texts that are put together with a blank between them have the words of both,
and a text in parentheses is a single word.
-/

namespace EntityQuery.Text

/-- The number of parentheses that are open behind a character, unless it closes one that is not
open. -/
def depthBehind? (depth : Nat) (c : Char) : Option Nat :=
  if c = '(' then some (depth + 1)
  else if c = ')' then if depth = 0 then none else some (depth - 1)
  else some depth

/-- Every parenthesis is closed, and none that was not opened. -/
def Balanced (text : List Char) : Prop :=
  text.foldlM depthBehind? 0 = some 0

instance (text : List Char) : Decidable (Balanced text) :=
  inferInstanceAs (Decidable (_ = _))

/-- The words of a text before which so many parentheses are open. -/
def outerWordsFrom : Nat → List Char → List (List Char)
  | _, [] => [[]]
  | depth, c :: rest =>
      if depth = 0 ∧ c = ' ' then [] :: outerWordsFrom 0 rest
      else (outerWordsFrom ((depthBehind? depth c).getD 0) rest).modifyHead (c :: ·)

def outerWords (text : List Char) : List (List Char) := outerWordsFrom 0 text

/-- What stands in the parentheses, if the text stands in a pair of them. -/
def inside? (text : List Char) : Option (List Char) :=
  if text.head? = some '(' ∧ text.getLast? = some ')' ∧ Balanced text.tail.dropLast then
    some text.tail.dropLast
  else none

/-! ### Depth -/

theorem depthBehind?_of_ne {c : Char} (h : c ≠ '(' ∧ c ≠ ')') (depth : Nat) :
    depthBehind? depth c = some depth := by
  rw [depthBehind?, if_neg h.1, if_neg h.2]

theorem depthBehind?_add {depth after : Nat} {c : Char} (h : depthBehind? depth c = some after)
    (more : Nat) : depthBehind? (depth + more) c = some (after + more) := by
  unfold depthBehind? at h ⊢
  by_cases hopen : c = '('
  · rw [if_pos hopen] at h ⊢
    cases h
    rw [Nat.add_right_comm]
  · rw [if_neg hopen] at h ⊢
    by_cases hclose : c = ')'
    · rw [if_pos hclose] at h ⊢
      by_cases hzero : depth = 0
      · rw [if_pos hzero] at h
        cases h
      · rw [if_neg hzero] at h
        cases h
        rw [if_neg (by omega), Nat.sub_add_comm (Nat.one_le_iff_ne_zero.mpr hzero)]
    · rw [if_neg hclose] at h ⊢
      cases h
      rfl

theorem foldlM_depthBehind?_cons {depth after : Nat} {c : Char} {rest : List Char} :
    (c :: rest).foldlM depthBehind? depth = some after ↔
      ∃ middle, depthBehind? depth c = some middle ∧
        rest.foldlM depthBehind? middle = some after := by
  rw [List.foldlM_cons]
  exact Option.bind_eq_some_iff

theorem foldlM_depthBehind?_add {text : List Char} {depth after : Nat}
    (h : text.foldlM depthBehind? depth = some after) (more : Nat) :
    text.foldlM depthBehind? (depth + more) = some (after + more) := by
  induction text generalizing depth with
  | nil =>
      cases h
      rfl
  | cons c rest ih =>
      obtain ⟨middle, hmiddle, hrest⟩ := foldlM_depthBehind?_cons.mp h
      exact foldlM_depthBehind?_cons.mpr ⟨middle + more, depthBehind?_add hmiddle more, ih hrest⟩

theorem foldlM_depthBehind?_append {left right : List Char} {depth middle after : Nat}
    (hleft : left.foldlM depthBehind? depth = some middle)
    (hright : right.foldlM depthBehind? middle = some after) :
    (left ++ right).foldlM depthBehind? depth = some after := by
  rw [List.foldlM_append, hleft]
  exact hright

theorem exists_of_foldlM_append {left right : List Char} {depth after : Nat}
    (h : (left ++ right).foldlM depthBehind? depth = some after) :
    ∃ middle, left.foldlM depthBehind? depth = some middle ∧
      right.foldlM depthBehind? middle = some after := by
  rw [List.foldlM_append] at h
  exact Option.bind_eq_some_iff.mp h

/-- What is open at the end are the parentheses that were open before and those opened since, less
those closed. -/
theorem add_count_of_foldlM {text : List Char} {depth after : Nat}
    (h : text.foldlM depthBehind? depth = some after) :
    depth + text.count '(' = after + text.count ')' := by
  induction text generalizing depth with
  | nil =>
      cases h
      simp
  | cons c rest ih =>
      obtain ⟨middle, hmiddle, hrest⟩ := foldlM_depthBehind?_cons.mp h
      have hcounts := ih hrest
      unfold depthBehind? at hmiddle
      rw [List.count_cons, List.count_cons]
      by_cases hopen : c = '('
      · rw [if_pos hopen] at hmiddle
        cases hmiddle
        subst hopen
        simp
        omega
      · rw [if_neg hopen] at hmiddle
        by_cases hclose : c = ')'
        · rw [if_pos hclose] at hmiddle
          by_cases hzero : depth = 0
          · rw [if_pos hzero] at hmiddle
            cases hmiddle
          · rw [if_neg hzero] at hmiddle
            cases hmiddle
            subst hclose
            simp
            omega
        · rw [if_neg hclose] at hmiddle
          cases hmiddle
          simpa [hopen, hclose] using hcounts

theorem Balanced.count_eq {text : List Char} (h : Balanced text) :
    text.count '(' = text.count ')' := by
  have hcounts := add_count_of_foldlM h
  omega

theorem Balanced.count_le_of_prefix {text before : List Char} (h : Balanced text)
    (hbefore : before <+: text) : before.count ')' ≤ before.count '(' := by
  obtain ⟨rest, rfl⟩ := hbefore
  obtain ⟨depth, hdepth, -⟩ := exists_of_foldlM_append h
  have hcounts := add_count_of_foldlM hdepth
  omega

/-- A balanced part of a balanced text closes none of the parentheses that are open before it, and
behind it the same ones are open. -/
theorem Balanced.around {left part right : List Char} (h : Balanced (left ++ part ++ right))
    (hpart : Balanced part) :
    ∃ depth, left.foldlM depthBehind? 0 = some depth ∧
      (∀ before, before <+: part → ∃ more,
        (left ++ before).foldlM depthBehind? 0 = some (depth + more)) ∧
      (left ++ part).foldlM depthBehind? 0 = some depth ∧
      right.foldlM depthBehind? depth = some 0 := by
  obtain ⟨middle, hmiddle, hright⟩ := exists_of_foldlM_append h
  obtain ⟨depth, hleft, hinner⟩ := exists_of_foldlM_append hmiddle
  have hkept : part.foldlM depthBehind? depth = some depth := by
    simpa using foldlM_depthBehind?_add hpart depth
  obtain rfl : depth = middle := by
    rw [hkept] at hinner
    exact Option.some.inj hinner
  refine ⟨depth, hleft, ?_, foldlM_depthBehind?_append hleft hkept, hright⟩
  rintro before ⟨rest, rfl⟩
  obtain ⟨more, hmore, -⟩ := exists_of_foldlM_append hpart
  refine ⟨more, foldlM_depthBehind?_append hleft ?_⟩
  have hshifted := foldlM_depthBehind?_add hmore depth
  rwa [Nat.zero_add, Nat.add_comm] at hshifted

theorem balanced_append {left right : List Char} (hleft : Balanced left) (hright : Balanced right) :
    Balanced (left ++ right) :=
  foldlM_depthBehind?_append hleft hright

theorem balanced_blank_cons {text : List Char} (h : Balanced text) : Balanced (' ' :: text) :=
  foldlM_depthBehind?_cons.mpr ⟨0, rfl, h⟩

theorem balanced_of_forall_ne {text : List Char} (h : ∀ c ∈ text, c ≠ '(' ∧ c ≠ ')') :
    Balanced text := by
  induction text with
  | nil => rfl
  | cons c rest ih =>
      obtain ⟨hc, hrest⟩ := List.forall_mem_cons.mp h
      exact foldlM_depthBehind?_cons.mpr ⟨0, depthBehind?_of_ne hc 0, ih hrest⟩

theorem balanced_enclosed {text : List Char} (h : Balanced text) :
    Balanced ('(' :: (text ++ [')'])) := by
  have hinner : text.foldlM depthBehind? 1 = some 1 := foldlM_depthBehind?_add h 1
  exact foldlM_depthBehind?_cons.mpr ⟨1, rfl, foldlM_depthBehind?_append hinner rfl⟩

theorem inside?_enclosed {text : List Char} (h : Balanced text) :
    inside? ('(' :: (text ++ [')'])) = some text := by
  have htail : ('(' :: (text ++ [')'])).tail.dropLast = text := by
    rw [List.tail_cons, List.dropLast_concat]
  rw [inside?, htail, if_pos]
  refine ⟨rfl, ?_, h⟩
  rw [← List.cons_append, List.getLast?_concat]

/-! ### Words -/

theorem outerWordsFrom_ne_nil (depth : Nat) (text : List Char) :
    outerWordsFrom depth text ≠ [] := by
  induction text generalizing depth with
  | nil => exact List.cons_ne_nil _ _
  | cons c rest ih =>
      rw [outerWordsFrom]
      split
      · exact List.cons_ne_nil _ _
      · exact fun hnil => ih _ (List.modifyHead_eq_nil_iff.mp hnil)

/-- No character of the text is lost. -/
theorem intercalate_outerWordsFrom (depth : Nat) (text : List Char) :
    [' '].intercalate (outerWordsFrom depth text) = text := by
  induction text generalizing depth with
  | nil => rfl
  | cons c rest ih =>
      rw [outerWordsFrom]
      split
      · rename_i hblank
        rw [List.intercalate_cons_of_ne_nil (outerWordsFrom_ne_nil _ _), ih, hblank.2]
        rfl
      · have hrest := ih ((depthBehind? depth c).getD 0)
        cases hwords : outerWordsFrom ((depthBehind? depth c).getD 0) rest with
        | nil => exact absurd hwords (outerWordsFrom_ne_nil _ _)
        | cons word others =>
            rw [hwords] at hrest
            cases others with
            | nil =>
                rw [List.intercalate_singleton] at hrest
                rw [List.modifyHead_cons, List.intercalate_singleton, hrest]
            | cons next others =>
                rw [List.intercalate_cons_cons] at hrest
                rw [List.modifyHead_cons, List.intercalate_cons_cons, List.cons_append,
                  List.cons_append, hrest]

theorem outerWordsFrom_append_blank {left : List Char} {depth : Nat}
    (h : left.foldlM depthBehind? depth = some 0) (right : List Char) :
    outerWordsFrom depth (left ++ ' ' :: right) =
      outerWordsFrom depth left ++ outerWordsFrom 0 right := by
  induction left generalizing depth with
  | nil =>
      cases h
      rfl
  | cons c left ih =>
      obtain ⟨middle, hmiddle, hleft⟩ := foldlM_depthBehind?_cons.mp h
      rw [List.cons_append, outerWordsFrom, outerWordsFrom]
      by_cases hblank : depth = 0 ∧ c = ' '
      · obtain ⟨rfl, rfl⟩ := hblank
        cases hmiddle
        rw [if_pos ⟨rfl, rfl⟩, if_pos ⟨rfl, rfl⟩, ih hleft, List.cons_append]
      · rw [if_neg hblank, if_neg hblank, hmiddle, Option.getD_some, ih hleft]
        cases hwords : outerWordsFrom middle left with
        | nil => exact absurd hwords (outerWordsFrom_ne_nil _ _)
        | cons word others => rfl

theorem outerWords_append_blank {left : List Char} (h : Balanced left) (right : List Char) :
    outerWords (left ++ ' ' :: right) = outerWords left ++ outerWords right :=
  outerWordsFrom_append_blank h right

theorem outerWordsFrom_of_forall_ne {text : List Char} (h : ∀ c ∈ text, c ≠ ' ') (depth : Nat) :
    outerWordsFrom depth text = [text] := by
  induction text generalizing depth with
  | nil => rfl
  | cons c rest ih =>
      obtain ⟨hc, hrest⟩ := List.forall_mem_cons.mp h
      rw [outerWordsFrom, if_neg fun hblank => hc hblank.2, ih hrest, List.modifyHead_cons]

/-- Blanks in parentheses do not end a word. -/
theorem outerWordsFrom_append_of_nested {text : List Char} {depth after : Nat}
    (h : text.foldlM depthBehind? depth = some after) (rest : List Char) :
    outerWordsFrom (depth + 1) (text ++ rest) =
      (outerWordsFrom (after + 1) rest).modifyHead (text ++ ·) := by
  induction text generalizing depth with
  | nil =>
      cases h
      rw [List.nil_append]
      exact (congrFun List.modifyHead_id _).symm
  | cons c text ih =>
      obtain ⟨middle, hmiddle, htext⟩ := foldlM_depthBehind?_cons.mp h
      rw [List.cons_append, outerWordsFrom,
        if_neg fun hblank => absurd hblank.1 (Nat.succ_ne_zero _), depthBehind?_add hmiddle 1,
        Option.getD_some, ih htext, List.modifyHead_modifyHead]
      rfl

theorem outerWords_enclosed {text : List Char} (h : Balanced text) :
    outerWords ('(' :: (text ++ [')'])) = ['(' :: (text ++ [')'])] := by
  have hdepth : (depthBehind? 0 '(').getD 0 = 0 + 1 := rfl
  rw [outerWords, outerWordsFrom, if_neg (by decide), hdepth, outerWordsFrom_append_of_nested h]
  rfl

end EntityQuery.Text

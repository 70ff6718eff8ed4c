import Mathlib.Data.List.SplitBy

/-!
# Words, numbers and signs

A text is read as a list of words, numbers and signs; blanks only keep them apart.  A number that is
written between two texts is read as it was meant, unless a digit stands next to it.
-/

namespace EntityQuery.Text

inductive CharClass where
  | digit
  | blank
  | letter
  | sign
deriving DecidableEq

def charClass (c : Char) : CharClass :=
  if c.isDigit then .digit
  else if c.isWhitespace then .blank
  else if c.isAlpha then .letter
  else .sign

inductive Lexeme where
  | word (letters : String)
  | number (value : Nat)
  | sign (c : Char)
deriving DecidableEq

/-- Characters of one class stand together, but a sign stands alone. -/
def isJoined (c next : Char) : Bool :=
  charClass c == charClass next && charClass c != .sign

/-- What characters that stand together are read as. -/
def lexeme? : List Char → Option Lexeme
  | [] => none
  | c :: rest =>
      match charClass c with
      | .digit => some (.number (Nat.ofDigitChars 10 (c :: rest) 0))
      | .blank => none
      | .letter => some (.word (String.ofList (c :: rest)))
      | .sign => some (.sign c)

def lexemes (text : String) : List Lexeme :=
  (text.toList.splitBy isJoined).filterMap lexeme?

example : lexemes "LIMIT 10, 7" = [.word "LIMIT", .number 10, .sign ',', .number 7] := by decide

theorem charClass_eq_digit_iff {c : Char} : charClass c = .digit ↔ c.isDigit = true := by
  unfold charClass
  constructor
  · intro h
    by_contra hdigit
    rw [if_neg hdigit] at h
    split at h
    · cases h
    · split at h <;> cases h
  · exact fun h => if_pos h

theorem isJoined_of_isDigit {c next : Char} (hc : c.isDigit = true) (hnext : next.isDigit = true) :
    isJoined c next = true := by
  rw [isJoined, charClass_eq_digit_iff.mpr hc, charClass_eq_digit_iff.mpr hnext]
  rfl

theorem isJoined_of_isDigit_ne {c next : Char} (h : c.isDigit ≠ next.isDigit) :
    isJoined c next = false := by
  have hclass : charClass c ≠ charClass next := by
    intro heq
    apply h
    rw [Bool.eq_iff_iff, ← charClass_eq_digit_iff, ← charClass_eq_digit_iff, heq]
  rw [isJoined, beq_eq_false_iff_ne.mpr hclass, Bool.false_and]

theorem lexemes_append {before after : String}
    (h : ∀ c ∈ before.toList.getLast?, ∀ next ∈ after.toList.head?, isJoined c next = false) :
    lexemes (before ++ after) = lexemes before ++ lexemes after := by
  unfold lexemes
  rw [String.toList_append, List.splitBy_append h, List.filterMap_append]

theorem toList_toString (n : UInt64) : (toString n).toList = Nat.toDigits 10 n.toNat :=
  Nat.toList_repr

theorem isDigit_of_mem_toString {n : UInt64} {c : Char} (h : c ∈ (toString n).toList) :
    c.isDigit = true := by
  rw [toList_toString] at h
  exact Nat.isDigit_of_mem_toDigits (by decide) (by decide) h

theorem toList_toString_ne_nil (n : UInt64) : (toString n).toList ≠ [] := by
  rw [toList_toString]
  exact Nat.toDigits_ne_nil

theorem lexemes_toString (n : UInt64) : lexemes (toString n) = [.number n.toNat] := by
  have hchain : (toString n).toList.IsChain fun c next => isJoined c next = true := by
    apply List.Pairwise.isChain
    rw [List.pairwise_iff_forall_sublist]
    intro c next hsublist
    have hmem := hsublist.subset
    exact isJoined_of_isDigit (isDigit_of_mem_toString (hmem List.mem_cons_self))
      (isDigit_of_mem_toString (hmem (List.mem_cons_of_mem _ List.mem_cons_self)))
  have hlexeme : lexeme? (toString n).toList = some (.number n.toNat) := by
    obtain ⟨c, rest, hdigits⟩ := List.exists_cons_of_ne_nil (toList_toString_ne_nil n)
    have hc : c.isDigit = true := isDigit_of_mem_toString (hdigits ▸ List.mem_cons_self)
    have hvalue : Nat.ofDigitChars 10 (toString n).toList 0 = n.toNat := by
      rw [toList_toString, Nat.ofDigitChars_ten_toDigits]
    rw [hdigits] at hvalue ⊢
    rw [lexeme?, charClass_eq_digit_iff.mpr hc]
    simp only [hvalue]
  rw [lexemes, List.splitBy_of_isChain (toList_toString_ne_nil n) hchain, List.filterMap_cons,
    hlexeme]
  rfl

theorem isDigit_eq_false {edge : Option Char} {c : Char} (h : edge.any Char.isDigit = false)
    (hc : c ∈ edge) : c.isDigit = false := by
  cases hc
  exact h

/-- No digit ends a text that no digit ends behind another one. -/
theorem any_getLast?_append {after : String} (hne : after ≠ "")
    (h : after.toList.getLast?.any Char.isDigit = false) (before : String) :
    (before ++ after).toList.getLast?.any Char.isDigit = false := by
  rwa [String.toList_append, List.getLast?_append_of_ne_nil _ (mt String.toList_eq_nil_iff.mp hne)]

theorem lexemes_append_toString {before : String} (n : UInt64)
    (h : before.toList.getLast?.any Char.isDigit = false) :
    lexemes (before ++ toString n) = lexemes before ++ [.number n.toNat] := by
  rw [lexemes_append, lexemes_toString]
  intro c hc next hnext
  apply isJoined_of_isDigit_ne
  rw [isDigit_eq_false h hc, isDigit_of_mem_toString (List.mem_of_mem_head? hnext)]
  exact Bool.false_ne_true

/-- A number is read as such between two texts that do not continue it. -/
theorem lexemes_append_toString_append {before after : String} (n : UInt64)
    (hbefore : before.toList.getLast?.any Char.isDigit = false)
    (hafter : after.toList.head?.any Char.isDigit = false) :
    lexemes (before ++ toString n ++ after) =
      lexemes before ++ .number n.toNat :: lexemes after := by
  rw [lexemes_append, lexemes_append_toString n hbefore, List.append_assoc, List.singleton_append]
  intro c hc next hnext
  rw [String.toList_append, List.getLast?_append_of_ne_nil _ (toList_toString_ne_nil n)] at hc
  apply isJoined_of_isDigit_ne
  rw [isDigit_of_mem_toString (List.mem_of_mem_getLast? hc), isDigit_eq_false hafter hnext]
  exact Bool.false_ne_true.symm

end EntityQuery.Text

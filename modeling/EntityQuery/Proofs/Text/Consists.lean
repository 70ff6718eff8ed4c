import EntityQuery.Proofs.Checked

/-!
# Texts made of given characters

A text consists of a class of characters when all of its characters are in the class.  The class of
interest is that of the characters which keywords, operators, numbers and checked names are written
with.
-/

namespace EntityQuery

/-- The characters of keywords, operators, numbers and checked names. -/
def Name.isSyntax (c : Char) : Bool :=
  isExpressionPart c || c == ' ' || c == ',' || c == '=' || c == '<' || c == '>' || c == '!' ||
    c == '*'

theorem Name.isSyntax_of_isExpressionPart {c : Char} (h : isExpressionPart c = true) :
    isSyntax c = true := by
  simp only [isSyntax, h, Bool.true_or]

namespace Text

def Consists (p : Char → Prop) (text : String) : Prop :=
  ∀ c ∈ text.toList, p c

variable {p : Char → Prop}

@[simp]
theorem consists_empty : Consists p "" := by
  intro c hc
  cases hc

@[simp]
theorem consists_append {first second : String} :
    Consists p (first ++ second) ↔ Consists p first ∧ Consists p second := by
  unfold Consists
  rw [String.toList_append, List.forall_mem_append]

theorem isAsciiDigit_of_mem_toString {n : Nat} {c : Char} (h : c ∈ (toString n).toList) :
    Name.isAsciiDigit c = true := by
  rw [Nat.toString_eq_repr, Nat.toList_repr] at h
  have hdigit := Nat.isDigit_of_mem_toDigits (by decide) (by decide) h
  simpa [Char.isDigit, Name.isAsciiDigit, Char.le_def] using hdigit

theorem isPart_of_mem_toString {n : Nat} {c : Char} (h : c ∈ (toString n).toList) :
    Name.isPart c = true := by
  simp only [Name.isPart, isAsciiDigit_of_mem_toString h, Bool.or_true, Bool.true_or]

section Syntax

variable (hclass : ∀ c, Name.isSyntax c = true → p c)

include hclass

theorem consists_of_isSyntax {text : String} (h : text.toList.all Name.isSyntax = true) :
    Consists p text :=
  fun c hc => hclass c (List.all_eq_true.mp h c hc)

theorem consists_of_isExpression {name : String} (h : Name.IsExpression name) : Consists p name :=
  fun c hc => hclass c (Name.isSyntax_of_isExpressionPart (h.parts c hc))

theorem consists_of_isIdentifier {name : String} (h : Name.IsIdentifier name) : Consists p name :=
  consists_of_isExpression hclass h.isExpression

end Syntax

end Text

end EntityQuery

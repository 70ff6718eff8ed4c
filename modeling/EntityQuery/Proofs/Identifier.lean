import EntityQuery.Proofs.Text.Casing
import EntityQuery.Proofs.Text.Quoted

/-!
# Quoted names are read back

A quoted name is written between quotes as it is, once it has the letter case of the dialect.  So a
database reads it back unless the closing quote stands in it, which would have to be doubled.
-/

namespace EntityQuery

namespace Dialect

def openingQuote : Dialect → Char
  | .postgres => '"'
  | .mysql => '\x60'
  | .sqlserver => '['

def closingQuote : Dialect → Char
  | .postgres => '"'
  | .mysql => '\x60'
  | .sqlserver => ']'

/-- The quoted name at the start of a text, as the database reads it, and what stands behind it. -/
def readName? (dialect : Dialect) (text : String) : Option (String × String) :=
  match text.toList with
  | [] => none
  | c :: rest =>
      if c = dialect.openingQuote then
        (Text.readQuoted dialect.closingQuote rest).map fun (name, behind) =>
          (String.ofList name, String.ofList behind)
      else none

variable {dialect : Dialect} {name behind read : String}

theorem toList_sql_quoted :
    ((Identifier.quoted name).sql dialect.nameStyle).toList = dialect.openingQuote ::
      ((dialect.nameStyle.standardCase name).toList ++ [dialect.closingQuote]) := by
  have hsql : (Identifier.quoted name).sql dialect.nameStyle =
      dialect.nameStyle.quoting.opening ++ dialect.nameStyle.standardCase name ++
        dialect.nameStyle.quoting.closing := rfl
  have hopening : dialect.nameStyle.quoting.opening.toList = [dialect.openingQuote] := by
    cases dialect <;> rfl
  have hclosing : dialect.nameStyle.quoting.closing.toList = [dialect.closingQuote] := by
    cases dialect <;> rfl
  rw [hsql, String.toList_append, String.toList_append, hopening, hclosing, List.append_assoc]
  rfl

theorem closingQuote_mem_standardCase :
    dialect.closingQuote ∈ (dialect.nameStyle.standardCase name).toList ↔
      dialect.closingQuote ∈ name.toList := by
  cases dialect with
  | postgres => exact Text.mem_lower_iff (by decide) (by decide)
  | mysql => exact Iff.rfl
  | sqlserver => exact Iff.rfl

theorem sql_quoted_inj {other : String}
    (h : (Identifier.quoted name).sql dialect.nameStyle =
      (Identifier.quoted other).sql dialect.nameStyle) :
    dialect.nameStyle.standardCase name = dialect.nameStyle.standardCase other := by
  have hlists := congrArg String.toList h
  rw [toList_sql_quoted, toList_sql_quoted] at hlists
  exact String.toList_injective (List.append_left_injective _ (List.cons.inj hlists).2)

theorem readName?_eq_some_iff {rest : String} :
    dialect.readName? ((Identifier.quoted name).sql dialect.nameStyle ++ behind) =
        some (read, rest) ↔
      (dialect.nameStyle.standardCase name).toList ++ dialect.closingQuote :: behind.toList =
          Text.doubled dialect.closingQuote read.toList ++ dialect.closingQuote :: rest.toList ∧
        rest.toList.head? ≠ some dialect.closingQuote := by
  have hread : dialect.readName? ((Identifier.quoted name).sql dialect.nameStyle ++ behind) =
      (Text.readQuoted dialect.closingQuote ((dialect.nameStyle.standardCase name).toList ++
        dialect.closingQuote :: behind.toList)).map fun (name, behind) =>
          (String.ofList name, String.ofList behind) := by
    rw [readName?, String.toList_append, toList_sql_quoted, List.cons_append, List.append_assoc]
    exact if_pos rfl
  rw [hread, ← Text.readQuoted_eq_some_iff, Option.map_eq_some_iff]
  constructor
  · rintro ⟨⟨name, behind⟩, h, heq⟩
    cases heq
    rwa [String.toList_ofList, String.toList_ofList]
  · intro h
    exact ⟨_, h, congrArg₂ Prod.mk String.ofList_toList String.ofList_toList⟩

theorem readName?_append_iff (hbehind : behind.toList.head? ≠ some dialect.closingQuote) :
    dialect.readName? ((Identifier.quoted name).sql dialect.nameStyle ++ behind) =
        some (dialect.nameStyle.standardCase name, behind) ↔
      dialect.closingQuote ∉ name.toList := by
  rw [readName?_eq_some_iff, ← closingQuote_mem_standardCase, ← Text.doubled_eq_iff]
  constructor
  · rintro ⟨h, -⟩
    exact (List.append_cancel_right h).symm
  · intro h
    exact ⟨by rw [h], hbehind⟩

theorem readName?_whole_iff :
    dialect.readName? ((Identifier.quoted name).sql dialect.nameStyle) = some (read, "") ↔
      (dialect.nameStyle.standardCase name).toList =
        Text.doubled dialect.closingQuote read.toList := by
  have h := @readName?_eq_some_iff dialect name "" read ""
  rw [String.append_empty] at h
  rw [h]
  constructor
  · rintro ⟨h, -⟩
    exact List.append_cancel_right h
  · intro h
    exact ⟨by rw [h], nofun⟩

/-- A quoted name starts with the opening quote, and two of them differ unless their names agree up
to the letter case.  It is read back, and nothing behind it with it, unless the closing quote stands
in the name; then it is one quoted name only if all of these quotes are doubled. -/
theorem readName?_quoted (dialect : Dialect) (name : String) :
    ((Identifier.quoted name).sql dialect.nameStyle).toList.head? = some dialect.openingQuote ∧
      (∀ behind : String, behind.toList.head? ≠ some dialect.closingQuote →
        (dialect.readName? ((Identifier.quoted name).sql dialect.nameStyle ++ behind) =
            some (dialect.nameStyle.standardCase name, behind) ↔
          dialect.closingQuote ∉ name.toList)) ∧
      (∀ read : String,
        dialect.readName? ((Identifier.quoted name).sql dialect.nameStyle) = some (read, "") ↔
          (dialect.nameStyle.standardCase name).toList =
            Text.doubled dialect.closingQuote read.toList) ∧
      ∀ other : String, (Identifier.quoted name).sql dialect.nameStyle =
          (Identifier.quoted other).sql dialect.nameStyle →
        dialect.nameStyle.standardCase name = dialect.nameStyle.standardCase other := by
  refine ⟨?_, fun behind => readName?_append_iff, fun read => readName?_whole_iff,
    fun other => sql_quoted_inj⟩
  rw [toList_sql_quoted]
  rfl

/-- A quote in the name ends the quoted name early. -/
theorem readName?_quote_in_name :
    Dialect.postgres.readName? ((Identifier.quoted "a\"b").sql Dialect.postgres.nameStyle) =
        some ("a", "b\"") ∧
      Dialect.postgres.readName? ((Identifier.quoted "a\"b").sql Dialect.postgres.nameStyle) ≠
        some (Dialect.postgres.nameStyle.standardCase "a\"b", "") := by
  decide

end Dialect

end EntityQuery

import EntityQuery.Dialect
import Mathlib.Data.List.Basic

/-!
# Spelling adds no punctuation

The lower case of a text holds no character before the letters in the order of code points that the
text itself does not hold.  So an identifier that is written for a dialect holds none either, the
quotes around it apart.
-/

namespace EntityQuery.Text

/-- No run of the case data leads before the letters. -/
theorem le_image_of_mem_lowerRuns : ∀ run ∈ lowerRuns, 65 ≤ run.first + run.shift := by
  decide +kernel

theorem toNat_ofNat_eq_zero_or (n : Nat) : (Char.ofNat n).toNat = n ∨ (Char.ofNat n).toNat = 0 := by
  by_cases hvalid : n.isValidChar
  · rw [Char.ofNat, dif_pos hvalid]
    exact .inl rfl
  · rw [Char.ofNat, dif_neg hvalid]
    exact .inr rfl

theorem mapByRuns_lowerRuns (c : Char) :
    mapByRuns lowerRuns c = c ∨ 65 ≤ (mapByRuns lowerRuns c).toNat ∨
      (mapByRuns lowerRuns c).toNat = 0 := by
  unfold mapByRuns
  cases hfound : lowerRuns.findSome? fun run => run.image? c.toNat with
  | none => exact .inl rfl
  | some code =>
      obtain ⟨run, hrun, himage⟩ := List.exists_of_findSome?_eq_some hfound
      have hleast := le_image_of_mem_lowerRuns run hrun
      unfold CaseRun.image? at himage
      split at himage
      · rename_i hinside
        have hcode : (c.toNat + run.shift).toNat = code := Option.some.inj himage
        have hbound : 65 ≤ code := by omega
        rcases toNat_ofNat_eq_zero_or code with hcode | hcode
        · exact .inr (.inl (by simpa only [hcode] using hbound))
        · exact .inr (.inr hcode)
      · cases himage

theorem toLower_eq_or (c : Char) : c.toLower = c ∨ 65 ≤ c.toLower.toNat := by
  unfold Char.toLower
  split
  · rename_i hletter
    refine .inr ?_
    simp only [UInt32.le_iff_toNat_le, Char.toNat_val, ge_iff_le] at hletter
    simp only [Char.toNat, UInt32.toNat_add]
    simp only [Char.toNat_val]
    change 65 ≤ c.toNat ∧ c.toNat ≤ 90 at hletter
    change 65 ≤ (c.toNat + 32) % 4294967296
    omega
  · exact .inl rfl

/-- Characters that stand before the letters, the character zero apart, are not made by lower
case. -/
theorem mem_of_mem_lowerChars {c : Char} (hzero : c.toNat ≠ 0) (hc : c.toNat < 65)
    {before text : List Char} (h : c ∈ lowerAfter before text) : c ∈ text := by
  induction text generalizing before with
  | nil => simp [lowerAfter] at h
  | cons first rest ih =>
      rw [lowerAfter, List.mem_append] at h
      rcases h with hfirst | hrest
      · have hsame : c = first := by
          split at hfirst
          · rw [List.mem_singleton.mp hfirst] at hc
            exact absurd hc (by decide)
          · unfold lowerChar at hfirst
            split at hfirst
            · rw [List.mem_singleton.mp hfirst] at hc ⊢
              rcases toLower_eq_or first with hsame | hlarge
              · exact hsame
              · omega
            · split at hfirst
              · simp only [List.mem_cons, List.not_mem_nil, or_false] at hfirst
                rcases hfirst with rfl | rfl
                · exact absurd hc (by decide)
                · exact absurd hc (by decide)
              · rw [List.mem_singleton.mp hfirst] at hc hzero ⊢
                rcases mapByRuns_lowerRuns first with hsame | hlarge | hnone
                · exact hsame
                · omega
                · exact absurd hnone hzero
        rw [hsame]
        exact List.mem_cons_self
      · exact List.mem_cons_of_mem _ (ih hrest)

theorem mem_of_mem_lower {c : Char} (hzero : c.toNat ≠ 0) (hc : c.toNat < 65) {text : String}
    (h : c ∈ (lower text).toList) : c ∈ text.toList := by
  rw [lower, String.toList_ofList] at h
  exact mem_of_mem_lowerChars hzero hc h

theorem toLower_of_lt {c : Char} (hc : c.toNat < 65) : c.toLower = c := by
  unfold Char.toLower
  rw [dif_neg]
  rintro ⟨hletter, -⟩
  simp only [UInt32.le_iff_toNat_le, Char.toNat_val, ge_iff_le] at hletter
  change 65 ≤ c.toNat at hletter
  omega

/-- Characters that stand before the letters are kept by lower case. -/
theorem mem_lowerChars {c : Char} (hc : c.toNat < 65) {before text : List Char} (h : c ∈ text) :
    c ∈ lowerAfter before text := by
  induction text generalizing before with
  | nil => cases h
  | cons first rest ih =>
      rw [lowerAfter, List.mem_append]
      rcases List.mem_cons.mp h with rfl | hrest
      · have hsigma : c ≠ 'Σ' := fun heq => absurd (heq ▸ hc) (by decide)
        have hascii : c.toNat < 128 := by omega
        refine .inl ?_
        simp [lowerChar, hsigma, hascii, toLower_of_lt hc]
      · exact .inr (ih hrest)

theorem mem_lower_iff {c : Char} (hzero : c.toNat ≠ 0) (hc : c.toNat < 65) {text : String} :
    c ∈ (lower text).toList ↔ c ∈ text.toList := by
  refine ⟨mem_of_mem_lower hzero hc, fun h => ?_⟩
  rw [lower, String.toList_ofList]
  exact mem_lowerChars hc h

theorem forall_mem_of_all {p : Char → Prop} [DecidablePred p] {text : String}
    (h : text.toList.all p = true) : ∀ c ∈ text.toList, p c :=
  fun c hc => of_decide_eq_true (List.all_eq_true.mp h c hc)

end EntityQuery.Text

namespace EntityQuery.Dialect

theorem eq_or_le_of_mem_quoting (dialect : Dialect) :
    (∀ c ∈ dialect.nameStyle.quoting.opening.toList, c = '"' ∨ 65 ≤ c.toNat) ∧
      ∀ c ∈ dialect.nameStyle.quoting.closing.toList, c = '"' ∨ 65 ≤ c.toNat := by
  constructor
  · cases dialect <;> exact Text.forall_mem_of_all (by decide)
  · cases dialect <;> exact Text.forall_mem_of_all (by decide)

theorem mem_of_mem_sql {c : Char} (hzero : c.toNat ≠ 0) (hc : c.toNat < 65) (hquote : c ≠ '"')
    {dialect : Dialect} {identifier : Identifier}
    (h : c ∈ (identifier.sql dialect.nameStyle).toList) : c ∈ identifier.name.toList := by
  cases identifier with
  | plain name => exact h
  | expression name => exact h
  | quoted name =>
      change c ∈ (dialect.nameStyle.quoting.opening ++ dialect.nameStyle.standardCase name ++
        dialect.nameStyle.quoting.closing).toList at h
      rw [String.toList_append, String.toList_append] at h
      obtain ⟨hopening, hclosing⟩ := dialect.eq_or_le_of_mem_quoting
      rcases List.mem_append.mp h with h | h
      · rcases List.mem_append.mp h with h | h
        · rcases hopening c h with heq | hle
          · exact absurd heq hquote
          · exact absurd hc (Nat.not_lt.mpr hle)
        · cases dialect with
          | postgres => exact Text.mem_of_mem_lower hzero hc h
          | mysql => exact h
          | sqlserver => exact h
      · rcases hclosing c h with heq | hle
        · exact absurd heq hquote
        · exact absurd hc (Nat.not_lt.mpr hle)

end EntityQuery.Dialect

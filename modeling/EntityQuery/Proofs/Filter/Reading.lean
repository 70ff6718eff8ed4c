import EntityQuery.Proofs.Filter.Formula
import EntityQuery.Proofs.Text.Nesting

/-!
# Reading a filter

The text of a filter is read with the precedence of SQL, without knowledge of how it was made.  It
is a list of words; OR separates alternatives, AND separates the factors of an alternative, and a
factor is either a filter in parentheses or a condition.

A text is taken for the one or the other only if its own words hold no connective.  Texts of this
kind are put together by the connectives, and in parentheses the result is of this kind again.
-/

namespace EntityQuery

namespace Combinator

def word : Combinator → List Char
  | .and => ['A', 'N', 'D']
  | .or => ['O', 'R']

theorem word_injective : Function.Injective word := by
  intro combinator other h
  cases combinator <;> cases other <;> first | rfl | cases h

theorem toList_sql (combinator : Combinator) :
    combinator.sql.toList = ' ' :: (combinator.word ++ [' ']) := by
  cases combinator <;> decide

theorem outerWords_word (combinator : Combinator) :
    Text.outerWords combinator.word = [combinator.word] := by
  cases combinator <;> decide

theorem balanced_word (combinator : Combinator) : Text.Balanced combinator.word := by
  cases combinator <;> decide

end Combinator

namespace Formula

def readFactor (readInside : List Char → Formula String) : List (List Char) → Formula String
  | [word] =>
      match Text.inside? word with
      | some inside => readInside inside
      | none => .atom (String.ofList word)
  | words => .atom (String.ofList ([' '].intercalate words))

/-- Reads a text in which parentheses are nested less deep than `fuel`. -/
def readNested : Nat → List Char → Formula String
  | 0, text => .atom (String.ofList text)
  | fuel + 1, text =>
      .any (((Text.outerWords text).splitOn Combinator.or.word).map fun alternative =>
        .all ((alternative.splitOn Combinator.and.word).map (readFactor (readNested fuel))))

/-- The formula that a text stands for; its atoms are the texts of conditions. -/
def read (text : String) : Formula String :=
  readNested (text.length + 1) text.toList

end Formula

open Formula Text

/-! ### Phrases -/

/-- A text that no connective outside of parentheses takes apart. -/
structure Text.IsPhrase (text : String) : Prop where
  balanced : Balanced text.toList
  word_notMem : ∀ combinator : Combinator, combinator.word ∉ outerWords text.toList

namespace Text.IsPhrase

theorem outerWords_append {first second : String} (hfirst : IsPhrase first) :
    outerWords (first ++ " " ++ second).toList =
      outerWords first.toList ++ outerWords second.toList := by
  rw [String.toList_append, String.toList_append, List.append_assoc]
  exact outerWords_append_blank hfirst.balanced _

theorem two_le_length_append {first second : String} (hfirst : IsPhrase first) :
    2 ≤ (outerWords (first ++ " " ++ second).toList).length := by
  rw [hfirst.outerWords_append, List.length_append]
  exact Nat.add_le_add (List.length_pos_iff.mpr (outerWordsFrom_ne_nil 0 first.toList))
    (List.length_pos_iff.mpr (outerWordsFrom_ne_nil 0 second.toList))

theorem append {first second : String} (hfirst : IsPhrase first) (hsecond : IsPhrase second) :
    IsPhrase (first ++ " " ++ second) := by
  constructor
  · rw [String.toList_append, String.toList_append]
    exact balanced_append (balanced_append hfirst.balanced (by decide)) hsecond.balanced
  · rw [hfirst.outerWords_append]
    intro combinator hmem
    rcases List.mem_append.mp hmem with hmem | hmem
    · exact hfirst.word_notMem combinator hmem
    · exact hsecond.word_notMem combinator hmem

theorem toList_enclosed (text : String) :
    ("(" ++ text ++ ")").toList = '(' :: (text.toList ++ [')']) := by
  rw [String.toList_append, String.toList_append]
  rfl

theorem enclosed {text : String} (h : Balanced text.toList) : IsPhrase ("(" ++ text ++ ")") := by
  constructor
  · rw [toList_enclosed]
    exact balanced_enclosed h
  · rw [toList_enclosed, outerWords_enclosed h]
    intro combinator hmem
    cases combinator <;> cases List.mem_singleton.mp hmem

/-- A word with a character that no connective has. -/
theorem of_word {text : String} (hbalanced : Balanced text.toList)
    (hblank : ∀ c ∈ text.toList, c ≠ ' ') {c : Char} (hc : c ∈ text.toList)
    (hword : ∀ combinator, c ∉ Combinator.word combinator) : IsPhrase text := by
  refine ⟨hbalanced, ?_⟩
  rw [outerWords, outerWordsFrom_of_forall_ne hblank]
  intro combinator hmem
  exact hword combinator (List.mem_singleton.mp hmem ▸ hc)

end Text.IsPhrase

/-! ### Phrases joined by a connective -/

namespace Text

variable (combinator : Combinator)

theorem toList_append_sql (first second : String) :
    (first ++ combinator.sql ++ second).toList =
      first.toList ++ ' ' :: (combinator.word ++ ' ' :: second.toList) := by
  rw [String.toList_append, String.toList_append, combinator.toList_sql]
  simp only [List.append_assoc, List.cons_append, List.nil_append]

theorem outerWords_append_sql {first : String} (h : IsPhrase first) (second : String) :
    outerWords (first ++ combinator.sql ++ second).toList =
      outerWords first.toList ++ combinator.word :: outerWords second.toList := by
  rw [toList_append_sql, outerWords_append_blank h.balanced,
    outerWords_append_blank combinator.balanced_word, combinator.outerWords_word,
    List.singleton_append]

theorem balanced_intercalate {texts : List String} (h : ∀ text ∈ texts, IsPhrase text) :
    Balanced (combinator.sql.intercalate texts).toList := by
  induction texts with
  | nil =>
      rw [String.intercalate_nil]
      decide
  | cons first rest ih =>
      obtain ⟨hfirst, hrest⟩ := List.forall_mem_cons.mp h
      cases rest with
      | nil =>
          rw [String.intercalate_singleton]
          exact hfirst.balanced
      | cons next rest =>
          rw [String.intercalate_cons_cons, toList_append_sql]
          exact balanced_append hfirst.balanced <| balanced_blank_cons <|
            balanced_append combinator.balanced_word <| balanced_blank_cons (ih hrest)

theorem outerWords_intercalate {texts : List String} (hne : texts ≠ [])
    (h : ∀ text ∈ texts, IsPhrase text) :
    outerWords (combinator.sql.intercalate texts).toList =
      [combinator.word].intercalate (texts.map fun text => outerWords text.toList) := by
  induction texts with
  | nil => exact absurd rfl hne
  | cons first rest ih =>
      obtain ⟨hfirst, hrest⟩ := List.forall_mem_cons.mp h
      cases rest with
      | nil =>
          rw [String.intercalate_singleton, List.map_cons, List.map_nil,
            List.intercalate_singleton]
      | cons next rest =>
          have hwords := ih (List.cons_ne_nil _ _) hrest
          rw [List.map_cons] at hwords
          rw [String.intercalate_cons_cons, outerWords_append_sql combinator hfirst, hwords,
            List.map_cons, List.map_cons, List.intercalate_cons_cons, List.append_assoc,
            List.singleton_append]

/-- The only connective among the words is the one that joins the phrases. -/
theorem word_notMem_intercalate {texts : List String} (hne : texts ≠ [])
    (h : ∀ text ∈ texts, IsPhrase text) {other : Combinator} (hother : other ≠ combinator) :
    other.word ∉ outerWords (combinator.sql.intercalate texts).toList := by
  induction texts with
  | nil => exact absurd rfl hne
  | cons first rest ih =>
      obtain ⟨hfirst, hrest⟩ := List.forall_mem_cons.mp h
      cases rest with
      | nil =>
          rw [String.intercalate_singleton]
          exact hfirst.word_notMem other
      | cons next rest =>
          rw [String.intercalate_cons_cons, outerWords_append_sql combinator hfirst]
          intro hmem
          rcases List.mem_append.mp hmem with hmem | hmem
          · exact hfirst.word_notMem other hmem
          · rcases List.mem_cons.mp hmem with hword | hmem
            · exact hother (Combinator.word_injective hword)
            · exact ih (List.cons_ne_nil _ _) hrest hmem

theorem length_le_intercalate {texts : List String} {text : String} (h : text ∈ texts) :
    text.length ≤ (combinator.sql.intercalate texts).length := by
  induction texts with
  | nil => cases h
  | cons first rest ih =>
      cases rest with
      | nil => rw [List.mem_singleton.mp h, String.intercalate_singleton]
      | cons next rest =>
          rw [String.intercalate_cons_cons, String.length_append, String.length_append]
          rcases List.mem_cons.mp h with rfl | h
          · omega
          · have := ih h
            omega

end Text

/-! ### Parts of a filter -/

/-- A part of a filter: its text, the texts of its conditions, and what it means. -/
structure Excerpt where
  text : String
  conditions : List String
  meaning : Formula Condition

namespace Excerpt

def enclosed (excerpt : Excerpt) : Excerpt :=
  { excerpt with text := "(" ++ excerpt.text ++ ")" }

def joined (combinator : Combinator) (parts : List Excerpt) : Excerpt where
  text := combinator.sql.intercalate (parts.map text)
  conditions := parts.flatMap conditions
  meaning := .combined combinator (parts.map meaning)

structure IsReadAs (excerpt : Excerpt) (reading : Formula String) : Prop where
  atoms_eq : reading.atoms = excerpt.conditions
  agrees : reading.Agrees excerpt.meaning

structure IsFactor (excerpt : Excerpt) : Prop where
  phrase : IsPhrase excerpt.text
  reading : ∀ fuel, excerpt.text.length ≤ fuel →
    excerpt.IsReadAs (readFactor (readNested fuel) (outerWords excerpt.text.toList))

structure IsFilter (excerpt : Excerpt) : Prop where
  balanced : Balanced excerpt.text.toList
  reading : ∀ fuel, excerpt.text.length < fuel →
    excerpt.IsReadAs (readNested fuel excerpt.text.toList)

theorem IsFilter.read {excerpt : Excerpt} (h : excerpt.IsFilter) :
    excerpt.IsReadAs (Formula.read excerpt.text) :=
  h.reading _ (Nat.lt_succ_self _)

theorem IsReadAs.singleton {excerpt : Excerpt} {reading : Formula String}
    (h : excerpt.IsReadAs reading) (combinator : Combinator) :
    excerpt.IsReadAs (.combined combinator [reading]) := by
  refine ⟨?_, (combined_singleton_agrees combinator reading).trans h.agrees⟩
  rw [atoms_combined, List.flatMap_singleton, h.atoms_eq]

theorem isReadAs_joined (combinator : Combinator) {parts : List Excerpt}
    {readPart : Excerpt → Formula String} (h : ∀ part ∈ parts, part.IsReadAs (readPart part)) :
    (joined combinator parts).IsReadAs (.combined combinator (parts.map readPart)) := by
  constructor
  · rw [atoms_combined, List.flatMap_map]
    exact List.flatMap_congr fun part hpart => (h part hpart).atoms_eq
  · refine .combined combinator (List.forall₂_map_left_iff.mpr (List.forall₂_map_right_iff.mpr ?_))
    exact List.forall₂_same.mpr fun part hpart => (h part hpart).agrees

/-- Several words without a connective are a condition. -/
theorem isFactor_condition {text : String} {leaf : Condition} (hphrase : IsPhrase text)
    (hwords : 2 ≤ (outerWords text.toList).length) : IsFactor ⟨text, [text], .atom leaf⟩ := by
  refine ⟨hphrase, fun fuel _ => ?_⟩
  have hreading : readFactor (readNested fuel) (outerWords text.toList) = .atom text := by
    have htext : [' '].intercalate (outerWords text.toList) = text.toList :=
      intercalate_outerWordsFrom 0 _
    generalize outerWords text.toList = texts at hwords htext
    rcases texts with _ | ⟨first, _ | ⟨second, rest⟩⟩
    · exact absurd hwords (by simp)
    · exact absurd hwords (by simp)
    · rw [readFactor, htext, String.ofList_toList]
      exact fun _ hsingle => absurd (List.cons.inj hsingle).2 (List.cons_ne_nil _ _)
  rw [hreading]
  refine ⟨by rw [atoms], ?_, ?_⟩
  · rw [atoms, atoms, List.length_singleton, List.length_singleton]
  · intro τ _ _ assigned index
    rw [truth, truth]

theorem IsFilter.enclosed {excerpt : Excerpt} (h : excerpt.IsFilter) :
    excerpt.enclosed.IsFactor := by
  refine ⟨IsPhrase.enclosed h.balanced, fun fuel hfuel => ?_⟩
  have hlength : excerpt.text.length < fuel := by
    have : excerpt.enclosed.text.length = excerpt.text.length + 2 := by
      unfold Excerpt.enclosed
      simp only [String.length_append]
      have hopen : "(".length = 1 := rfl
      have hclose : ")".length = 1 := rfl
      omega
    omega
  have hread := h.reading fuel hlength
  have hwords : outerWords excerpt.enclosed.text.toList =
      ['(' :: (excerpt.text.toList ++ [')'])] := by
    rw [Excerpt.enclosed, IsPhrase.toList_enclosed, outerWords_enclosed h.balanced]
  rw [hwords, readFactor, inside?_enclosed h.balanced]
  exact ⟨hread.atoms_eq, hread.agrees⟩

/-- What is read of joined factors: one alternative of all of them, or one for each. -/
theorem readNested_joined (combinator : Combinator) {parts : List Excerpt} (hne : parts ≠ [])
    (h : ∀ part ∈ parts, IsPhrase part.text) (fuel : Nat) :
    let readPart := fun part : Excerpt =>
      readFactor (readNested fuel) (outerWords part.text.toList)
    readNested (fuel + 1) (joined combinator parts).text.toList =
      match combinator with
      | .and => .any [.all (parts.map readPart)]
      | .or => .any (parts.map fun part => .all [readPart part]) := by
  intro readPart
  have hphrases : ∀ text ∈ parts.map Excerpt.text, IsPhrase text := List.forall_mem_map.mpr h
  have htexts : parts.map Excerpt.text ≠ [] := fun hnil => hne (List.map_eq_nil_iff.mp hnil)
  have hwords := outerWords_intercalate combinator htexts hphrases
  have hsplit : (outerWords (joined combinator parts).text.toList).splitOn combinator.word =
      parts.map fun part => outerWords part.text.toList := by
    rw [joined, hwords, List.map_map]
    refine List.splitOn_intercalate _ ?_ (fun hnil => hne (List.map_eq_nil_iff.mp hnil))
    refine List.forall_mem_map.mpr fun part hpart hword => ?_
    exact (h part hpart).word_notMem combinator hword
  rw [readNested]
  cases combinator with
  | and =>
      rw [List.splitOn_eq_singleton, List.map_singleton, hsplit, List.map_map]
      · rfl
      · exact word_notMem_intercalate .and htexts hphrases (by decide)
  | or =>
      rw [hsplit, List.map_map]
      congr 1
      refine List.map_congr_left fun part hpart => ?_
      rw [Function.comp_apply, List.splitOn_eq_singleton ((h part hpart).word_notMem .and),
        List.map_singleton]

theorem isFilter_joined (combinator : Combinator) {parts : List Excerpt} (hne : parts ≠ [])
    (h : ∀ part ∈ parts, part.IsFactor) : (joined combinator parts).IsFilter := by
  refine ⟨balanced_intercalate combinator ?_, fun fuel hfuel => ?_⟩
  · exact List.forall_mem_map.mpr fun part hpart => (h part hpart).phrase
  obtain ⟨fuel, rfl⟩ : ∃ less, fuel = less + 1 := ⟨fuel - 1, by omega⟩
  rw [readNested_joined combinator hne fun part hpart => (h part hpart).phrase]
  have hparts : ∀ part ∈ parts,
      part.IsReadAs (readFactor (readNested fuel) (outerWords part.text.toList)) := by
    intro part hpart
    have hlength : part.text.length ≤ (joined combinator parts).text.length :=
      length_le_intercalate combinator (List.mem_map_of_mem hpart)
    exact (h part hpart).reading fuel (Nat.le_of_lt_succ (Nat.lt_of_le_of_lt hlength hfuel))
  cases combinator with
  | and => exact (isReadAs_joined .and hparts).singleton .or
  | or => exact isReadAs_joined .or fun part hpart => (hparts part hpart).singleton .and

theorem IsFilter.of_agrees {excerpt : Excerpt} (h : excerpt.IsFilter) {meaning : Formula Condition}
    (hagrees : excerpt.meaning.Agrees meaning) : IsFilter { excerpt with meaning } :=
  ⟨h.balanced, fun fuel hfuel =>
    ⟨(h.reading fuel hfuel).atoms_eq, (h.reading fuel hfuel).agrees.trans hagrees⟩⟩

/-! ### Conjunctions -/

/-- One factor or more, joined by AND, so that further factors may be added. -/
def IsConjunction (excerpt : Excerpt) : Prop :=
  ∃ parts : List Excerpt, parts ≠ [] ∧ (∀ part ∈ parts, part.IsFactor) ∧
    (joined .and parts).text = excerpt.text ∧
    (joined .and parts).conditions = excerpt.conditions ∧
    (joined .and parts).meaning.Agrees excerpt.meaning

theorem IsFactor.isConjunction {excerpt : Excerpt} (h : excerpt.IsFactor) :
    excerpt.IsConjunction := by
  refine ⟨[excerpt], List.cons_ne_nil _ _, List.forall_mem_singleton.mpr h, ?_, ?_,
    combined_singleton_agrees .and excerpt.meaning⟩
  · rw [joined, List.map_singleton, String.intercalate_singleton]
  · exact List.flatMap_singleton _ _

theorem IsConjunction.isFilter {excerpt : Excerpt} (h : excerpt.IsConjunction) :
    excerpt.IsFilter := by
  obtain ⟨parts, hne, hparts, htext, hconditions, hagrees⟩ := h
  have hfilter := (isFilter_joined .and hne hparts).of_agrees hagrees
  rwa [htext, hconditions] at hfilter

theorem intercalate_flatMap {separator : String} {parts : Excerpt → List Excerpt}
    {excerpts : List Excerpt} (hne : ∀ excerpt ∈ excerpts, parts excerpt ≠ [])
    (htext : ∀ excerpt ∈ excerpts,
      separator.intercalate ((parts excerpt).map text) = excerpt.text) :
    separator.intercalate ((excerpts.flatMap parts).map text) =
      separator.intercalate (excerpts.map text) := by
  induction excerpts with
  | nil => rfl
  | cons first rest ih =>
      obtain ⟨hfirst, hrest⟩ := List.forall_mem_cons.mp hne
      obtain ⟨hfirstText, hrestText⟩ := List.forall_mem_cons.mp htext
      cases rest with
      | nil =>
          rw [List.flatMap_singleton, hfirstText, List.map_singleton, String.intercalate_singleton]
      | cons next rest =>
          have hothers : ((next :: rest).flatMap parts).map text ≠ [] := by
            rw [Ne, List.map_eq_nil_iff, List.flatMap_eq_nil_iff]
            exact fun hnil => hrest next List.mem_cons_self (hnil next List.mem_cons_self)
          rw [List.flatMap_cons, List.map_append, String.intercalate_append_of_ne_nil
            (fun hnil => hfirst (List.map_eq_nil_iff.mp hnil)) hothers, hfirstText,
            ih hrest hrestText, @List.map_cons _ _ _ first,
            String.intercalate_cons_of_ne_nil (List.map_eq_nil_iff.not.mpr (List.cons_ne_nil _ _))]

theorem isConjunction_joined {excerpts : List Excerpt} (hne : excerpts ≠ [])
    (h : ∀ excerpt ∈ excerpts, excerpt.IsConjunction) : (joined .and excerpts).IsConjunction := by
  choose! parts hparts hfactors htext hconditions hagrees using h
  refine ⟨excerpts.flatMap parts, ?_, ?_, ?_, ?_, ?_⟩
  · obtain ⟨first, hfirst⟩ := List.exists_mem_of_ne_nil excerpts hne
    intro hnil
    exact hparts first hfirst (List.flatMap_eq_nil_iff.mp hnil first hfirst)
  · exact List.forall_mem_flatMap.mpr hfactors
  · exact intercalate_flatMap hparts htext
  · rw [joined, joined, List.flatMap_assoc]
    exact List.flatMap_congr fun excerpt hexcerpt => hconditions excerpt hexcerpt
  · have hflat : (joined .and (excerpts.flatMap parts)).meaning =
        .all (excerpts.map fun excerpt => (parts excerpt).map meaning).flatten := by
      rw [← List.flatMap_def, ← List.map_flatMap]
      rfl
    rw [hflat]
    refine (combined_flatten_agrees .and _).trans ?_
    rw [List.map_map]
    refine .combined .and (List.forall₂_map_left_iff.mpr (List.forall₂_map_right_iff.mpr ?_))
    exact List.forall₂_same.mpr hagrees

end Excerpt

end EntityQuery

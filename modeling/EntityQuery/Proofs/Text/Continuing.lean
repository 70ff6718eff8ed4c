import Mathlib.Data.List.Basic

/-!
# Texts that go on with a sign

Two texts that are equal as a whole may be parted by a sign at different places: then the sign
stands inside the longer part, right where the shorter one ends.
-/

namespace EntityQuery.Text

/-- The other text has the sign behind this one, and perhaps more. -/
def Continues (sign part other : String) : Prop :=
  ∃ more, other = part ++ sign ++ more

theorem append_cons_cases {c : Char} {part other rest otherRest : List Char}
    (h : part ++ c :: rest = other ++ c :: otherRest) :
    (part = other ∧ rest = otherRest) ∨
      (∃ more, other = part ++ c :: more ∧ rest = more ++ c :: otherRest) ∨
      ∃ more, part = other ++ c :: more ∧ otherRest = more ++ c :: rest := by
  rcases List.append_eq_append_iff.mp h with ⟨between, hother, hrest⟩ | ⟨between, hpart, hrest⟩
  · cases between with
    | nil =>
        rw [List.append_nil] at hother
        exact .inl ⟨hother.symm, (List.cons.inj hrest).2⟩
    | cons first more =>
        obtain ⟨rfl, hbehind⟩ := List.cons.inj hrest
        exact .inr (.inl ⟨more, hother, hbehind⟩)
  · cases between with
    | nil =>
        rw [List.append_nil] at hpart
        exact .inl ⟨hpart, (List.cons.inj hrest).2.symm⟩
    | cons first more =>
        obtain ⟨rfl, hbehind⟩ := List.cons.inj hrest
        exact .inr (.inr ⟨more, hpart, hbehind⟩)

/-- Where two texts are equal but parted by different signs, the part that lacks the other sign is
the shorter one. -/
theorem exists_of_append_cons_ne {c d : Char} {part other rest otherRest : List Char} (hne : c ≠ d)
    (hpart : d ∉ part) (h : part ++ c :: rest = other ++ d :: otherRest) :
    ∃ more, other = part ++ c :: more := by
  rcases List.append_eq_append_iff.mp h with ⟨between, hother, hrest⟩ | ⟨between, hlonger, hrest⟩
  · cases between with
    | nil => exact absurd (List.cons.inj hrest).1 hne
    | cons first more =>
        obtain ⟨rfl, -⟩ := List.cons.inj hrest
        exact ⟨more, hother⟩
  · cases between with
    | nil => exact absurd (List.cons.inj hrest).1.symm hne
    | cons first more =>
        obtain ⟨rfl, -⟩ := List.cons.inj hrest
        rw [hlonger] at hpart
        exact absurd (List.mem_append_right _ List.mem_cons_self) hpart

variable {sign mark part other rest otherRest : String} {c d : Char}

theorem toList_append_sign (hsign : sign.toList = [c]) :
    (part ++ sign ++ rest).toList = part.toList ++ c :: rest.toList := by
  rw [String.toList_append, String.toList_append, hsign, List.append_assoc, List.singleton_append]

theorem append_sign_ne_empty (hsign : sign.toList = [c]) : part ++ sign ++ rest ≠ "" := by
  intro hempty
  have hlist := congrArg String.toList hempty
  rw [toList_append_sign hsign] at hlist
  exact List.append_ne_nil_of_right_ne_nil _ (List.cons_ne_nil _ _) hlist

/-- Equal texts are parted alike by a sign, or one part goes on with it. -/
theorem append_sign_cases (hsign : sign.toList = [c])
    (h : part ++ sign ++ rest = other ++ sign ++ otherRest) :
    (part = other ∧ rest = otherRest) ∨
      (∃ more, other = part ++ sign ++ more ∧ rest = more ++ sign ++ otherRest) ∨
      ∃ more, part = other ++ sign ++ more ∧ otherRest = more ++ sign ++ rest := by
  simp only [← String.toList_inj, toList_append_sign hsign] at h ⊢
  rcases append_cons_cases h with hsame | ⟨more, hother, hrest⟩ | ⟨more, hpart, hrest⟩
  · exact .inl hsame
  · refine .inr (.inl ⟨String.ofList more, ?_⟩)
    simp only [String.toList_ofList, hother, hrest, and_self]
  · refine .inr (.inr ⟨String.ofList more, ?_⟩)
    simp only [String.toList_ofList, hpart, hrest, and_self]

theorem continues_of_append_ne (hsign : sign.toList = [c]) (hmark : mark.toList = [d]) (hne : c ≠ d)
    (hpart : d ∉ part.toList) (h : part ++ sign ++ rest = other ++ mark ++ otherRest) :
    Continues sign part other := by
  have hlists := congrArg String.toList h
  rw [toList_append_sign hsign, toList_append_sign hmark] at hlists
  obtain ⟨more, hother⟩ := exists_of_append_cons_ne hne hpart hlists
  refine ⟨String.ofList more, String.toList_injective ?_⟩
  rw [toList_append_sign hsign, String.toList_ofList, hother]

theorem continues_iff : Continues sign part other ↔ (part ++ sign).toList <+: other.toList := by
  constructor
  · rintro ⟨more, rfl⟩
    exact ⟨more.toList, String.toList_append.symm⟩
  · rintro ⟨more, hmore⟩
    refine ⟨String.ofList more, String.toList_injective ?_⟩
    rw [String.toList_append, String.toList_ofList, hmore]

instance : Decidable (Continues sign part other) :=
  decidable_of_iff _ continues_iff.symm

/-- A text that goes on with a sign holds it. -/
theorem Continues.mem (hsign : c ∈ sign.toList) (h : Continues sign part other) :
    c ∈ other.toList := by
  obtain ⟨more, rfl⟩ := h
  rw [String.toList_append, String.toList_append]
  exact List.mem_append_left _ (List.mem_append_right _ hsign)

theorem Continues.ne (hsign : c ∈ sign.toList) (h : Continues sign part other) : part ≠ other := by
  obtain ⟨more, rfl⟩ := h
  intro heq
  have hlength := congrArg List.length (congrArg String.toList heq)
  have hpos := List.length_pos_of_mem hsign
  rw [String.toList_append, String.toList_append, List.length_append, List.length_append] at hlength
  omega

end EntityQuery.Text

import EntityQuery.Error
import Mathlib.Data.List.Forall2

/-!
# Results that succeed

A computation that may fail is taken apart along its steps: it succeeds when each step does, and its
value is put together from theirs.
-/

namespace EntityQuery.Result

variable {ε : Type}

def Succeeds (result : Result α) : Prop := ∃ value, result = .ok value

@[simp]
theorem succeeds_ok (value : α) : Succeeds (.ok value) := ⟨value, rfl⟩

@[simp]
theorem not_succeeds_error (error : Error) : ¬ Succeeds (.error error : Result α) := by
  rintro ⟨value, hvalue⟩
  cases hvalue

@[simp]
theorem succeeds_pure (value : α) : Succeeds (pure value) := ⟨value, rfl⟩

@[simp]
theorem not_succeeds_throw (error : Error) : ¬ Succeeds (throw error : Result α) :=
  not_succeeds_error error

@[simp]
theorem pure_eq_ok {value other : α} : (pure value : Except ε α) = .ok other ↔ value = other := by
  change Except.ok value = Except.ok other ↔ value = other
  rw [Except.ok.injEq]

theorem bind_eq_ok {first : Except ε α} {next : α → Except ε β} {value : β} :
    (first >>= next) = .ok value ↔ ∃ middle, first = .ok middle ∧ next middle = .ok value := by
  cases first with
  | error error =>
      constructor
      · intro hok
        cases hok
      · rintro ⟨middle, hfirst, -⟩
        cases hfirst
  | ok middle =>
      constructor
      · intro hok
        exact ⟨middle, rfl, hok⟩
      · rintro ⟨other, hfirst, hnext⟩
        cases hfirst
        exact hnext

theorem mapError_eq_ok {δ : Type} {result : Except ε α} {f : ε → δ} {value : α} :
    result.mapError f = .ok value ↔ result = .ok value := by
  cases result with
  | error error =>
      constructor
      · intro hok
        cases hok
      · intro hok
        cases hok
  | ok other =>
      change Except.ok other = Except.ok value ↔ Except.ok other = Except.ok value
      rw [Except.ok.injEq, Except.ok.injEq]

theorem succeeds_bind {first : Result α} {next : α → Result β} :
    Succeeds (first >>= next) ↔ ∃ middle, first = .ok middle ∧ Succeeds (next middle) := by
  unfold Succeeds
  simp only [bind_eq_ok]
  constructor
  · rintro ⟨value, middle, hfirst, hnext⟩
    exact ⟨middle, hfirst, value, hnext⟩
  · rintro ⟨middle, hfirst, value, hnext⟩
    exact ⟨value, middle, hfirst, hnext⟩

/-- When the rest cannot fail, only the first step decides. -/
theorem succeeds_bind_of_forall {first : Result α} {next : α → Result β}
    (hnext : ∀ middle, Succeeds (next middle)) : Succeeds (first >>= next) ↔ Succeeds first := by
  rw [succeeds_bind]
  constructor
  · rintro ⟨middle, hfirst, -⟩
    exact ⟨middle, hfirst⟩
  · rintro ⟨middle, hfirst⟩
    exact ⟨middle, hfirst, hnext middle⟩

theorem mapM_eq_ok {step : α → Except ε β} {inputs : List α} {outputs : List β} :
    inputs.mapM step = .ok outputs ↔
      List.Forall₂ (fun input output => step input = .ok output) inputs outputs := by
  induction inputs generalizing outputs with
  | nil =>
      rw [List.mapM_nil, pure_eq_ok, List.forall₂_nil_left_iff]
      exact eq_comm
  | cons input inputs ih =>
      rw [List.mapM_cons, bind_eq_ok]
      simp only [bind_eq_ok, pure_eq_ok, ih]
      constructor
      · rintro ⟨output, hstep, rest, hrest, rfl⟩
        exact .cons hstep hrest
      · rintro (_ | ⟨hstep, hrest⟩)
        exact ⟨_, hstep, _, hrest, rfl⟩

theorem exists_of_mem_mapM {step : α → Except ε β} {inputs : List α} {outputs : List β}
    (h : inputs.mapM step = .ok outputs) {output : β} (houtput : output ∈ outputs) :
    ∃ input ∈ inputs, step input = .ok output := by
  rw [mapM_eq_ok] at h
  induction h with
  | nil => cases houtput
  | cons hstep _ ih =>
      rcases List.mem_cons.mp houtput with rfl | houtput
      · exact ⟨_, List.mem_cons_self, hstep⟩
      · obtain ⟨input, hinput, hok⟩ := ih houtput
        exact ⟨input, List.mem_cons_of_mem _ hinput, hok⟩

theorem exists_of_mapM_eq_error {step : α → Except ε β} {inputs : List α} {error : ε}
    (h : inputs.mapM step = .error error) : ∃ input ∈ inputs, step input = .error error := by
  induction inputs with
  | nil => cases h
  | cons input inputs ih =>
      rw [List.mapM_cons] at h
      cases hfirst : step input with
      | error cause =>
          rw [hfirst] at h
          cases h
          exact ⟨input, List.mem_cons_self, hfirst⟩
      | ok output =>
          rw [hfirst] at h
          change (inputs.mapM step >>= fun outputs => pure (output :: outputs)) = _ at h
          cases hrest : inputs.mapM step with
          | ok outputs =>
              rw [hrest] at h
              cases h
          | error cause =>
              rw [hrest] at h
              cases h
              obtain ⟨other, hother, hstep⟩ := ih hrest
              exact ⟨other, List.mem_cons_of_mem _ hother, hstep⟩

/-- Steps that are given by checks fail as these do. -/
theorem mapM_eq_map_of_forall {step : α → Except ε β} {check : α → Except ε γ} {value : α → β}
    {inputs : List α} (h : ∀ input ∈ inputs, step input = (check input).map fun _ => value input) :
    inputs.mapM step = (inputs.mapM check).map fun _ => inputs.map value := by
  induction inputs with
  | nil => rfl
  | cons input inputs ih =>
      obtain ⟨hinput, hrest⟩ := List.forall_mem_cons.mp h
      rw [List.mapM_cons, List.mapM_cons, hinput, ih hrest]
      cases check input with
      | error error => rfl
      | ok _ => cases inputs.mapM check <;> rfl

theorem exists_mapM_iff {step : α → Except ε β} {inputs : List α} :
    (∃ outputs, inputs.mapM step = .ok outputs) ↔
      ∀ input ∈ inputs, ∃ output, step input = .ok output := by
  induction inputs with
  | nil => simp
  | cons input inputs ih =>
      rw [List.mapM_cons, List.forall_mem_cons, ← ih]
      simp only [bind_eq_ok, pure_eq_ok]
      constructor
      · rintro ⟨_, output, hstep, rest, hrest, -⟩
        exact ⟨⟨output, hstep⟩, rest, hrest⟩
      · rintro ⟨⟨output, hstep⟩, rest, hrest⟩
        exact ⟨_, output, hstep, rest, hrest, rfl⟩

theorem succeeds_mapM {step : α → Result β} {inputs : List α} :
    Succeeds (inputs.mapM step) ↔ ∀ input ∈ inputs, Succeeds (step input) :=
  exists_mapM_iff

/-! ### Failure -/

/-- Whatever error there is, it is of this kind. -/
def FailsAs (kind : ErrorKind) (result : Result α) : Prop :=
  ∀ error, result = .error error → error.kind = kind

theorem failsAs_ok {kind : ErrorKind} (value : α) : FailsAs kind (.ok value) := by
  intro error herror
  cases herror

theorem failsAs_error_iff {kind : ErrorKind} {error : Error} :
    FailsAs kind (.error error : Result α) ↔ error.kind = kind := by
  constructor
  · exact fun h => h error rfl
  · intro h other hother
    cases hother
    exact h

theorem FailsAs.bind {kind : ErrorKind} {first : Result α} {next : α → Result β}
    (hfirst : FailsAs kind first) (hnext : ∀ value, first = .ok value → FailsAs kind (next value)) :
    FailsAs kind (first >>= next) := by
  cases first with
  | error error => exact failsAs_error_iff.mpr (failsAs_error_iff.mp hfirst)
  | ok value => exact hnext value rfl

theorem failsAs_mapM {kind : ErrorKind} {step : α → Result β} {inputs : List α}
    (h : ∀ input ∈ inputs, FailsAs kind (step input)) : FailsAs kind (inputs.mapM step) := by
  intro error herror
  obtain ⟨input, hinput, hstep⟩ := exists_of_mapM_eq_error herror
  exact h input hinput error hstep

/-- A result that is not a success is an error. -/
theorem exists_eq_error {result : Result α} (h : ¬ Succeeds result) :
    ∃ error, result = .error error := by
  cases result with
  | error error => exact ⟨error, rfl⟩
  | ok value => exact absurd ⟨value, rfl⟩ h

/-- Fails under the condition and no other, with an error of this kind. -/
def FailsExactlyIf (kind : ErrorKind) (condition : Prop) (result : Result α) : Prop :=
  FailsAs kind result ∧ (Succeeds result ↔ ¬ condition)

namespace FailsExactlyIf

variable {kind : ErrorKind} {condition : Prop}

theorem of_ok {value : α} (h : ¬ condition) : FailsExactlyIf kind condition (.ok value) :=
  ⟨failsAs_ok value, iff_of_true (succeeds_ok value) h⟩

theorem of_error {error : Error} (herror : error.kind = kind) (h : condition) :
    FailsExactlyIf kind condition (.error error : Result α) :=
  ⟨failsAs_error_iff.mpr herror, iff_of_false (not_succeeds_error error) (not_not_intro h)⟩

theorem of_succeeds {result : Result α} (hresult : Succeeds result) (h : ¬ condition) :
    FailsExactlyIf kind condition result := by
  obtain ⟨value, rfl⟩ := hresult
  exact of_ok h

theorem succeeds {result : Result α} (hresult : FailsExactlyIf kind condition result)
    (h : ¬ condition) : Succeeds result :=
  hresult.2.mpr h

theorem toOption_eq_none_iff {result : Result α} (hresult : FailsExactlyIf kind condition result) :
    result.toOption = none ↔ condition := by
  rw [← not_iff_not, ← hresult.2]
  cases result with
  | error error => simp [Except.toOption]
  | ok value => simp [Except.toOption]

/-- When the rest cannot fail, the first step fails for both. -/
theorem bind {first : Result α} {next : α → Result β} (hfirst : FailsExactlyIf kind condition first)
    (hnext : ∀ value, first = .ok value → Succeeds (next value)) :
    FailsExactlyIf kind condition (first >>= next) := by
  cases first with
  | error error =>
      refine of_error (failsAs_error_iff.mp hfirst.1) ?_
      by_contra h
      exact not_succeeds_error error (hfirst.succeeds h)
  | ok value => exact of_succeeds (hnext value rfl) (hfirst.2.mp (succeeds_ok value))

end FailsExactlyIf

/-! ### Two computations -/

/-- Both fail with the same error, or both succeed with values that are related. -/
inductive Related (R : α → β → Prop) : Result α → Result β → Prop
  | ok {value : α} {other : β} (h : R value other) : Related R (.ok value) (.ok other)
  | error (error : Error) : Related R (.error error) (.error error)

namespace Related

variable {R : α → β → Prop} {S : γ → δ → Prop}

theorem refl {R : α → α → Prop} (h : ∀ value, R value value) (result : Result α) :
    Related R result result := by
  cases result with
  | error error => exact .error error
  | ok value => exact .ok (h value)

theorem bind {first : Result α} {second : Result β} {next : α → Result γ} {other : β → Result δ}
    (h : Related R first second)
    (hnext : ∀ value related, R value related → Related S (next value) (other related)) :
    Related S (first >>= next) (second >>= other) := by
  cases h with
  | ok hvalue => exact hnext _ _ hvalue
  | error error => exact .error error

theorem mapM {step : α → Result γ} {other : β → Result δ} {inputs : List α} {others : List β}
    (h : List.Forall₂ (fun input related => Related S (step input) (other related))
      inputs others) : Related (List.Forall₂ S) (inputs.mapM step) (others.mapM other) := by
  induction h with
  | nil => exact .ok .nil
  | cons hstep _ ih =>
      rw [List.mapM_cons, List.mapM_cons]
      apply hstep.bind
      intro output related houtput
      apply ih.bind
      intro outputs relateds houtputs
      exact .ok (.cons houtput houtputs)

end Related

/-- Both succeed with the same value, or both fail with errors of this kind. -/
inductive AgreesAs (kind : ErrorKind) : Result α → Result α → Prop
  | ok (value : α) : AgreesAs kind (.ok value) (.ok value)
  | error {error other : Error} (herror : error.kind = kind) (hother : other.kind = kind) :
      AgreesAs kind (.error error) (.error other)

theorem AgreesAs.cases {kind : ErrorKind} {first second : Result α}
    (h : AgreesAs kind first second) :
    (∃ value, first = .ok value ∧ second = .ok value) ∨
      ∃ error other, first = .error error ∧ second = .error other ∧
        error.kind = kind ∧ other.kind = kind := by
  cases h with
  | ok value => exact .inl ⟨value, rfl, rfl⟩
  | error herror hother => exact .inr ⟨_, _, rfl, rfl, herror, hother⟩

theorem AgreesAs.eq_ok {kind : ErrorKind} {first second : Result α} {value : α}
    (h : AgreesAs kind first second) (hsecond : second = .ok value) : first = .ok value := by
  cases h with
  | ok other => exact hsecond
  | error herror hother => cases hsecond

end EntityQuery.Result

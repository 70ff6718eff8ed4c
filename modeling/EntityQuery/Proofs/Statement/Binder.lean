import EntityQuery.Proofs.Result
import EntityQuery.Proofs.Statement.Pieces

/-!
# What a rendering writes

The text of a rendering and the record of its binder come about apart from each other, along one
counter.  Still every rendering does as if it wrote a list of pieces from left to right: its text has
the markers from the counter on, and behind it the counter and the record are further by the values
of the pieces.
-/

namespace EntityQuery

namespace Binder

/-- The binder behind these values. -/
def after (binder : Binder) (values : List Value) : Binder where
  markers := { binder.markers with count := binder.markers.count + values.length }
  bindings := binder.bindings ++
    (values.zipIdx binder.markers.count).map fun (value, index) =>
      ⟨index, binder.markers.style.marker index, value⟩

/-- Writes the pieces at the place where the binder stands. -/
def write (binder : Binder) (pieces : Pieces) : String × Binder :=
  (pieces.sqlFrom binder.markers.style binder.markers.count, binder.after pieces.values)

/-- Writes several lists of pieces, one behind the other. -/
def writeAll (binder : Binder) (parts : List Pieces) : List String × Binder :=
  (Pieces.textsFrom binder.markers.style binder.markers.count parts,
    binder.after (parts.flatMap Pieces.values))

/-- One value moves the counter by one and gets the marker where it stood. -/
theorem bind_eq (binder : Binder) (value : Value) :
    binder.bind value =
      (binder.markers.style.marker binder.markers.count, binder.after [value]) := rfl

@[simp]
theorem after_nil (binder : Binder) : binder.after [] = binder := by
  simp [after]

theorem after_append (binder : Binder) (left right : List Value) :
    binder.after (left ++ right) = (binder.after left).after right := by
  simp only [after, List.length_append, List.zipIdx_append, List.map_append, List.append_assoc,
    Nat.add_assoc]

theorem writeAll_cons (binder : Binder) (part : Pieces) (rest : List Pieces) :
    binder.writeAll (part :: rest) =
      let (first, middle) := binder.write part
      let (others, behind) := middle.writeAll rest
      (first :: others, behind) := by
  rw [writeAll, List.flatMap_cons, after_append]
  rfl

theorem write_text (binder : Binder) (content : String) :
    binder.write [.text content] = (content, binder) := by
  rw [write, Pieces.sqlFrom_text]
  exact congrArg (Prod.mk content) binder.after_nil

theorem write_value (binder : Binder) (value : Value) :
    binder.write [.value value] = binder.bind value := by
  rw [bind_eq, write, Pieces.sqlFrom, Pieces.sqlFrom_nil, String.append_empty]
  rfl

theorem write_text_cons (binder : Binder) (content : String) (rest : Pieces) :
    binder.write (.text content :: rest) =
      (binder.write rest).map (fun sql => content ++ sql) id := rfl

theorem write_enclosed (binder : Binder) (pieces : Pieces) :
    binder.write (Pieces.enclosed pieces) =
      (binder.write pieces).map (fun sql => "(" ++ sql ++ ")") id := by
  rw [write, Pieces.sqlFrom_enclosed, Pieces.values_enclosed]
  rfl

theorem write_separated (binder : Binder) (separator : String) (parts : List Pieces) :
    binder.write (Pieces.separated separator parts) =
      (binder.writeAll parts).map separator.intercalate id := by
  rw [write, Pieces.sqlFrom_separated, Pieces.values_separated]
  rfl

end Binder

namespace Rendering

variable {α : Type} {render : α → Rendering Result String} {pieces : α → Result Pieces}

/-- A rendered list is written part by part, with the counter of each part where that of the part
before it ends. -/
theorem run_mapM {inputs : List α}
    (h : ∀ input ∈ inputs, ∀ binder, (render input).run binder = (pieces input).map binder.write)
    (binder : Binder) :
    (inputs.mapM render).run binder = (inputs.mapM pieces).map binder.writeAll := by
  induction inputs generalizing binder with
  | nil => exact congrArg (fun behind => Except.ok ([], behind)) binder.after_nil.symm
  | cons input rest ih =>
      obtain ⟨hinput, hrest⟩ := List.forall_mem_cons.mp h
      rw [List.mapM_cons, List.mapM_cons, StateT.run_bind, hinput]
      cases hfirst : pieces input with
      | error error => rfl
      | ok part =>
          change (StateT.run (do let others ← rest.mapM render; pure (_ :: others)) _) = _
          rw [StateT.run_bind, ih hrest]
          cases rest.mapM pieces with
          | error error => rfl
          | ok parts => exact congrArg Except.ok (binder.writeAll_cons part parts).symm

theorem run_mapM_markerFor (values : List Value) (binder : Binder) :
    (values.mapM markerFor : Rendering Result (List String)).run binder =
      .ok (binder.writeAll (values.map fun value => [.value value])) := by
  have hmarker : ∀ value ∈ values, ∀ binder,
      (markerFor value : Rendering Result String).run binder =
        (Except.ok [Piece.value value] : Result Pieces).map binder.write :=
    fun value _ binder => congrArg Except.ok (binder.write_value value).symm
  rw [run_mapM hmarker]
  exact congrArg (Except.map binder.writeAll) List.mapM_pure

end Rendering

end EntityQuery

import DuckDbConn.Arrow.DataType

/-!
# DuckDbConn.SchemaValidator — the Arrow types `DuckDbConnection` accepts

`impl SchemaValidator for DuckDbConnection`: `is_data_type_supported` checks the
element type of a `List`, `FixedSizeList` or `LargeList`, descends into the
members of a `Struct`, and accepts every other type as it is;
`is_field_supported` also asks DuckDB's `to_duckdb_type_id` (not in the
repository, so a parameter here) whether it maps the field's type.

`isDataTypeSupported_iff` says exactly what is checked: the list nodes among
`structNodes t`, the type and, below structs, the member types. A list inside
a map, a union, a dictionary, a run-end encoded array or a list view is not
(`map_of_list_of_struct_supported`).
-/

namespace DuckDbConn

open Arrow

/-- What a list's element may be: `dt if dt.is_primitive()`, or one of five. -/
def isListElementSupported (dt : DataType) : Bool :=
  dt.isPrimitive ||
    match dt with
    | .utf8 | .binary | .utf8View | .binaryView | .boolean => true
    | _ => false

mutual
/-- `DuckDbConnection::is_data_type_supported`. -/
def isDataTypeSupported : DataType → Bool
  | .list (.mk _ dt _) | .fixedSizeList (.mk _ dt _) _ | .largeList (.mk _ dt _) =>
    isListElementSupported dt
  | .struct fields => areFieldsSupported fields
  | _ => true

/-- `inner_fields.iter().all(|field| Self::is_data_type_supported(field.data_type()))` -/
def areFieldsSupported : List Field → Bool
  | [] => true
  | .mk _ dt _ :: fields => isDataTypeSupported dt && areFieldsSupported fields
end

/-- `DuckDbConnection::is_field_supported`, given DuckDB's `to_duckdb_type_id`. -/
def isFieldSupported {TypeId : Type} (toDuckdbTypeId : DataType → Except String TypeId)
    (field : Field) : Bool :=
  isDataTypeSupported field.dataType && (toDuckdbTypeId field.dataType).isOk

/-! ## What is checked -/

/-- A `List`, `FixedSizeList` or `LargeList` node has an element type a list
may have; any other node passes. -/
def listNodeOk : DataType → Bool
  | .list f | .fixedSizeList f _ | .largeList f => isListElementSupported f.dataType
  | _ => true

mutual
/-- The type, and below a struct the nodes of each member's type. -/
def structNodes : DataType → List DataType
  | .struct fields => .struct fields :: memberNodes fields
  | t => [t]

def memberNodes : List Field → List DataType
  | [] => []
  | .mk _ dt _ :: fields => structNodes dt ++ memberNodes fields
end

theorem isDataTypeSupported_struct (fields : List Field) :
    isDataTypeSupported (.struct fields) = areFieldsSupported fields := rfl

theorem structNodes_struct (fields : List Field) :
    structNodes (.struct fields) = .struct fields :: memberNodes fields := rfl

theorem listNodeOk_struct (fields : List Field) : listNodeOk (.struct fields) = true := rfl

section
variable {t : DataType}

theorem isDataTypeSupported_of_ne_struct (h : ∀ fs, t ≠ .struct fs) :
    isDataTypeSupported t = listNodeOk t := by
  cases t
  case struct fs => exact absurd rfl (h fs)
  case list f | fixedSizeList f _ | largeList f => cases f; rfl
  all_goals rfl

theorem structNodes_of_ne_struct (h : ∀ fs, t ≠ .struct fs) : structNodes t = [t] := by
  cases t <;> first | rfl | exact absurd rfl (h _)

end

theorem areFieldsSupported_iff (fields : List Field) :
    areFieldsSupported fields = true ↔ ∀ f ∈ fields, isDataTypeSupported f.dataType = true := by
  induction fields with
  | nil => simp [areFieldsSupported]
  | cons f fields ih => cases f; simp [areFieldsSupported, ih, Field.dataType]

theorem mem_memberNodes {u : DataType} (fields : List Field) :
    u ∈ memberNodes fields ↔ ∃ f ∈ fields, u ∈ structNodes f.dataType := by
  induction fields with
  | nil => simp [memberNodes]
  | cons f fields ih => cases f; simp [memberNodes, ih, Field.dataType]

/-- `is_data_type_supported` holds exactly when every list node reached from the
type through struct members only has a supported element type. -/
theorem isDataTypeSupported_iff_structNodes (t : DataType) :
    isDataTypeSupported t = true ↔ ∀ u ∈ structNodes t, listNodeOk u = true := by
  induction t using DataType.structInduction with
  | base t ht => simp [isDataTypeSupported_of_ne_struct ht, structNodes_of_ne_struct ht]
  | struct fields ih =>
    simp only [isDataTypeSupported_struct, areFieldsSupported_iff, structNodes_struct, List.mem_cons,
      forall_eq_or_imp, listNodeOk_struct, mem_memberNodes, true_and]
    constructor
    · rintro h u ⟨f, hf, hu⟩; exact (ih f hf).1 (h f hf) u hu
    · exact fun h f hf => (ih f hf).2 fun u hu => h u ⟨f, hf, hu⟩

/-- The nodes `is_data_type_supported` visits all occur in the type. -/
theorem occurs_of_mem_structNodes (t : DataType) : ∀ u ∈ structNodes t, Occurs t u := by
  induction t using DataType.structInduction with
  | base t ht => simp [structNodes_of_ne_struct ht, Occurs.refl]
  | struct fields ih =>
    simp only [structNodes_struct, List.mem_cons, forall_eq_or_imp, mem_memberNodes]
    refine ⟨.refl, fun u ⟨f, hf, hu⟩ => ?_⟩
    exact Occurs.trans (.child .refl (List.mem_map_of_mem _ hf)) (ih f hf u hu)

/-- What `is_data_type_supported` and `is_field_supported` check: the list
nodes reached from the type through struct members, which occur in it, and no
other node; `is_field_supported` also needs DuckDB to map the type. -/
theorem supported_iff_struct_list_nodes :
    (∀ t, isDataTypeSupported t = true ↔ ∀ u ∈ structNodes t, listNodeOk u = true) ∧
    (∀ t, ∀ u ∈ structNodes t, Occurs t u) ∧
    (∀ {TypeId : Type} (toDuckdbTypeId : DataType → Except String TypeId) (field : Field),
      isFieldSupported toDuckdbTypeId field = true ↔
        (∀ u ∈ structNodes field.dataType, listNodeOk u = true) ∧
          (toDuckdbTypeId field.dataType).isOk = true) :=
  ⟨isDataTypeSupported_iff_structNodes, occurs_of_mem_structNodes, fun _ field => by
    rw [isFieldSupported, Bool.and_eq_true, isDataTypeSupported_iff_structNodes]⟩

/-- A map whose values are lists of structs passes, yet a list of structs
occurs in it. -/
theorem map_of_list_of_struct_supported :
    let item : DataType := .struct [.mk "a" .int64 true]
    let t : DataType := .map (.mk "entries" (.struct [.mk "key" .utf8 false,
      .mk "value" (.list (.mk "item" item true)) true]) false) false
    isDataTypeSupported t = true ∧ Occurs t (.list (.mk "item" item true)) ∧
      isListElementSupported item = false :=
  ⟨rfl, .child (.child .refl (List.mem_singleton_self _))
    (List.mem_cons_of_mem _ (List.mem_singleton_self _)), rfl⟩

end DuckDbConn

import Mathlib.Data.List.Basic

/-!
# DuckDbConn.Arrow.DataType — Arrow's type descriptors

The `arrow_schema::DataType` and `Field` that `duckdbconn.rs` inspects, as a
tree: container types hold fields, and a field holds a type. A field is written
with its name, type and nullability, as arrow builds it; the modelled functions
read only its type, and its metadata is left out.

`DataType.isPrimitive` is arrow's `is_primitive` (numeric or temporal), and
`DataType.children` are the types a container holds directly; `Occurs t u`
says that `u` occurs anywhere inside `t`. `DataType.structInduction` descends
into struct members only, as `is_data_type_supported` does.
-/

namespace DuckDbConn.Arrow

inductive TimeUnit where
  | second | millisecond | microsecond | nanosecond

inductive IntervalUnit where
  | yearMonth | dayTime | monthDayNano

inductive UnionMode where
  | sparse | dense

mutual
/-- `arrow_schema::DataType`. -/
inductive DataType where
  | null | boolean
  | int8 | int16 | int32 | int64 | uint8 | uint16 | uint32 | uint64
  | float16 | float32 | float64
  | timestamp (unit : TimeUnit) (tz : Option String)
  | date32 | date64
  | time32 (unit : TimeUnit) | time64 (unit : TimeUnit)
  | duration (unit : TimeUnit) | interval (unit : IntervalUnit)
  | binary | fixedSizeBinary (size : Int) | largeBinary | binaryView
  | utf8 | largeUtf8 | utf8View
  | list (field : Field)
  | listView (field : Field)
  | fixedSizeList (field : Field) (size : Int)
  | largeList (field : Field)
  | largeListView (field : Field)
  | struct (fields : List Field)
  | union (fields : List (Int × Field)) (mode : UnionMode)
  | dictionary (key value : DataType)
  | decimal128 (precision : Nat) (scale : Int)
  | decimal256 (precision : Nat) (scale : Int)
  | map (entries : Field) (sorted : Bool)
  | runEndEncoded (runEnds values : Field)

/-- `arrow_schema::Field`. -/
inductive Field where
  | mk (name : String) (dataType : DataType) (nullable : Bool)
end

def Field.dataType : Field → DataType
  | .mk _ dataType _ => dataType

namespace DataType

/-- `DataType::is_numeric`. -/
def isNumeric : DataType → Bool
  | .uint8 | .uint16 | .uint32 | .uint64 | .int8 | .int16 | .int32 | .int64
  | .float16 | .float32 | .float64 | .decimal128 _ _ | .decimal256 _ _ => true
  | _ => false

/-- `DataType::is_temporal`. -/
def isTemporal : DataType → Bool
  | .date32 | .date64 | .timestamp _ _ | .time32 _ | .time64 _ | .duration _ | .interval _ => true
  | _ => false

/-- `DataType::is_primitive`: numeric or temporal. -/
def isPrimitive (t : DataType) : Bool := t.isNumeric || t.isTemporal

/-- The types a container holds directly: element, member, key, value and
run-end types. -/
def children : DataType → List DataType
  | .list f | .listView f | .fixedSizeList f _ | .largeList f | .largeListView f => [f.dataType]
  | .struct fs => fs.map Field.dataType
  | .union fs _ => fs.map fun f => f.2.dataType
  | .dictionary k v => [k, v]
  | .map entries _ => [entries.dataType]
  | .runEndEncoded r v => [r.dataType, v.dataType]
  | _ => []

end DataType

/-- `u` occurs in `t`, at any depth, through any container. -/
inductive Occurs (t : DataType) : DataType → Prop where
  | refl : Occurs t t
  | child {u v : DataType} : Occurs t u → v ∈ u.children → Occurs t v

theorem Occurs.trans {t u v : DataType} (h₁ : Occurs t u) (h₂ : Occurs u v) : Occurs t v := by
  induction h₂ with
  | refl => exact h₁
  | child _ hv ih => exact .child ih hv

/-! ## Induction through struct members -/

mutual
/-- To prove `motive` of every type, prove it of every type other than a struct,
and of a struct given it for each member's type. -/
theorem DataType.structInduction {motive : DataType → Prop}
    (base : ∀ t, (∀ fs, t ≠ .struct fs) → motive t)
    (struct : ∀ fs, (∀ f ∈ fs, motive (Field.dataType f)) → motive (.struct fs)) : ∀ t, motive t
  | .struct fs => struct fs (DataType.structInduction_fields base struct fs)
  | .null | .boolean | .int8 | .int16 | .int32 | .int64 | .uint8 | .uint16 | .uint32 | .uint64
  | .float16 | .float32 | .float64 | .timestamp _ _ | .date32 | .date64 | .time32 _ | .time64 _
  | .duration _ | .interval _ | .binary | .fixedSizeBinary _ | .largeBinary | .binaryView | .utf8
  | .largeUtf8 | .utf8View | .list _ | .listView _ | .fixedSizeList _ _ | .largeList _
  | .largeListView _ | .union _ _ | .dictionary _ _ | .decimal128 _ _ | .decimal256 _ _ | .map _ _
  | .runEndEncoded _ _ => base _ fun _ h => DataType.noConfusion h

theorem DataType.structInduction_fields {motive : DataType → Prop}
    (base : ∀ t, (∀ fs, t ≠ .struct fs) → motive t)
    (struct : ∀ fs, (∀ f ∈ fs, motive (Field.dataType f)) → motive (.struct fs)) :
    ∀ fs : List Field, ∀ f ∈ fs, motive f.dataType
  | [], _, hf => absurd hf (List.not_mem_nil _)
  | .mk _ dt _ :: fs, _, hf => by
    rcases List.mem_cons.1 hf with rfl | hf
    · exact DataType.structInduction base struct dt
    · exact DataType.structInduction_fields base struct fs _ hf
end

end DuckDbConn.Arrow

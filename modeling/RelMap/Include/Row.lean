import RelMap.Include.Plan

/-!
# Rows

A row of a result set holds a part for every type of a plan. The layout of a result set says which
of its columns belong to which type and slot; it is worked out once and applied to every row.
-/

namespace RelMap

/-- The part of a row that belongs to one type, in slot order. -/
structure Fragment where
  /-- The values, in slot order. -/
  values : List Value
  deriving DecidableEq

/-- Whether an outer join found no row for a type. -/
def Fragment.isAllNull (f : Fragment) : Bool := f.values.all Value.isNull

/-- Where the values of one type lie in a row. -/
structure FragmentLayout where
  /-- The place of the first column. -/
  start : Nat
  /-- The slots of the columns, in order. -/
  slots : List Nat
  /-- How many slots the type has. -/
  slotCount : Nat
  deriving DecidableEq

/-- Where the values of all types lie in a row. -/
structure RowLayout where
  /-- The root type. -/
  root : String
  /-- How many columns the result set has. -/
  width : Nat
  /-- The layouts of the types, in the order of the plan. -/
  fragments : List FragmentLayout
  deriving DecidableEq

namespace FragmentLayout

/-- Values put into slots; of two values for one slot the later one stays. -/
def fill (slots : List Value) : List (Nat × Value) → List Value
  | [] => slots
  | (slot, v) :: rest => fill (slots.set slot v) rest

/-- The part of a row; a slot without a column is null. -/
def fragment (l : FragmentLayout) (row : List Value) : Fragment :=
  ⟨fill (List.replicate l.slotCount .null) (l.slots.zip (row.drop l.start))⟩

end FragmentLayout

/-- The parts of a row, which has to have a value for every column. -/
def RowLayout.split (l : RowLayout) (row : List Value) : Except Error (List Fragment) :=
  if row.length ≠ l.width then .error (.mapping l.root (.rowWidth row.length l.width))
  else .ok (l.fragments.map (·.fragment row))

namespace Plan

/-- The place of the first occurrence of a name at or behind a place. -/
def indexFrom (names : List String) (start : Nat) (name : String) : Option Nat :=
  ((names.drop start).findIdx? (· == name)).map (start + ·)

/-- The places of the columns at which the parts of the joined types begin, each behind the last. -/
def boundaries (columns : List String) (last : Nat) :
    List String → Except MappingFault (List Nat)
  | [] => .ok []
  | split :: splits =>
    match indexFrom columns (last + 1) split with
    | none => .error (.missingSplit split)
    | some place => do
      let rest ← boundaries columns place splits
      return place :: rest

/-- The slot of a column within the part of a planned type. -/
def columnSlot (root : String) (e : PlannedEntity) (column : String) : Except Error Nat := do
  let property ← match Text.cut? aliasSeparator column with
    | some (tableAlias, property) =>
      if tableAlias = e.tableAlias then .ok property
      else .error (.mapping root (.misplacedColumn column tableAlias e.tableAlias))
    | none => .ok column
  match e.mapping.slot? property with
  | some slot => .ok slot
  | none => .error (.mapping e.mapping.entityType (.unknownColumn column))

/-- The slots of several columns. -/
def columnSlots (root : String) (e : PlannedEntity) : List String → Except Error (List Nat)
  | [] => .ok []
  | c :: cs => do
    let slot ← columnSlot root e c
    let rest ← columnSlots root e cs
    return slot :: rest

/-- The layouts of several types, given where each part begins and where the last one ends. -/
def fragmentLayouts (root : String) (columns : List String) :
    List PlannedEntity → List Nat → Except Error (List FragmentLayout)
  | e :: es, start :: stop :: bounds => do
    let slots ← columnSlots root e ((columns.drop start).take (stop - start))
    let rest ← fragmentLayouts root columns es (stop :: bounds)
    return ⟨start, slots, e.mapping.slotCount⟩ :: rest
  | _, _ => .ok []

/-- The layout of a result set with the given columns. -/
def layout (p : Plan) (columns : List String) : Except Error RowLayout := do
  let root := p.root.entityType
  let starts ← match boundaries columns 0 p.splitPoints with
    | .ok starts => .ok starts
    | .error f => .error (.mapping root f)
  let fragments ← fragmentLayouts root columns p.entities (0 :: starts ++ [columns.length])
  return { root, width := columns.length, fragments }

/-- The parts of one row of a result set with the given columns. -/
def splitRow (p : Plan) (columns : List String) (row : List Value) :
    Except Error (List Fragment) := do
  let l ← p.layout columns
  l.split row

end Plan

end RelMap

import RelMap.Number.Binary

/-!
# Values

The values that a filter captures, a statement binds and a row holds. Two values are equal only if
they are of one kind and have one content; floating-point numbers are told apart by their bits, so
that values can serve as keys.
-/

namespace RelMap

/-- The kinds of value. -/
inductive Kind where
  | null | bool | int32 | int64 | float32 | float64 | string | bytes | timestamp | uuid | list
  deriving DecidableEq, Repr

/-- The name of a kind in messages. -/
def Kind.name : Kind → String
  | .null => "Null"
  | .bool => "Bool"
  | .int32 => "Int32"
  | .int64 => "Int64"
  | .float32 => "Float32"
  | .float64 => "Float64"
  | .string => "String"
  | .bytes => "Bytes"
  | .timestamp => "Timestamp"
  | .uuid => "Uuid"
  | .list => "List"

/-- Every kind, in the order of their declaration. -/
def Kind.all : List Kind :=
  [.null, .bool, .int32, .int64, .float32, .float64, .string, .bytes, .timestamp, .uuid, .list]

/-- A value of one of the eleven kinds. -/
inductive Value where
  | null
  | bool (b : Bool)
  | int32 (i : Int32)
  | int64 (i : Int64)
  | float32 (x : Binary32)
  | float64 (x : Binary64)
  | string (s : String)
  | bytes (content : List UInt8)
  /-- Microseconds since the start of 1970. -/
  | timestamp (micros : Int64)
  | uuid (content : Vector UInt8 16)
  | list (items : List Value)

namespace Value

instance : Inhabited Value := ⟨.null⟩

mutual

/-- Equality of values, as a test. -/
def beq : Value → Value → Bool
  | .null, .null => true
  | .bool a, .bool b => a == b
  | .int32 a, .int32 b => a == b
  | .int64 a, .int64 b => a == b
  | .float32 a, .float32 b => a == b
  | .float64 a, .float64 b => a == b
  | .string a, .string b => a == b
  | .bytes a, .bytes b => a == b
  | .timestamp a, .timestamp b => a == b
  | .uuid a, .uuid b => a == b
  | .list a, .list b => beqList a b
  | _, _ => false

/-- Equality of lists of values, item by item. -/
def beqList : List Value → List Value → Bool
  | [], [] => true
  | a :: as, b :: bs => beq a b && beqList as bs
  | _, _ => false

end

mutual

theorem eq_of_beq : ∀ {a b : Value}, beq a b = true → a = b
  | .list as, .list bs, h => congrArg Value.list (eq_of_beqList (by simpa [beq] using h))
  | .null, b, h => by cases b <;> simp_all [beq]
  | .bool _, b, h => by cases b <;> simp_all [beq]
  | .int32 _, b, h => by cases b <;> simp_all [beq]
  | .int64 _, b, h => by cases b <;> simp_all [beq]
  | .float32 _, b, h => by cases b <;> simp_all [beq]
  | .float64 _, b, h => by cases b <;> simp_all [beq]
  | .string _, b, h => by cases b <;> simp_all [beq]
  | .bytes _, b, h => by cases b <;> simp_all [beq]
  | .timestamp _, b, h => by cases b <;> simp_all [beq]
  | .uuid _, b, h => by cases b <;> simp_all [beq]
  | .list _, .null, h | .list _, .bool _, h | .list _, .int32 _, h | .list _, .int64 _, h
  | .list _, .float32 _, h | .list _, .float64 _, h | .list _, .string _, h
  | .list _, .bytes _, h | .list _, .timestamp _, h | .list _, .uuid _, h => by simp [beq] at h

theorem eq_of_beqList : ∀ {as bs : List Value}, beqList as bs = true → as = bs
  | [], [], _ => rfl
  | a :: as, b :: bs, h => by
    simp only [beqList, Bool.and_eq_true] at h
    rw [eq_of_beq h.1, eq_of_beqList h.2]
  | [], _ :: _, h | _ :: _, [], h => by simp [beqList] at h

end

mutual

theorem beq_self : ∀ a : Value, beq a a = true
  | .list as => by simp [beq, beqList_self as]
  | .null | .bool _ | .int32 _ | .int64 _ | .float32 _ | .float64 _ | .string _ | .bytes _
  | .timestamp _ | .uuid _ => by simp [beq]

theorem beqList_self : ∀ as : List Value, beqList as as = true
  | [] => rfl
  | a :: as => by simp [beqList, beq_self a, beqList_self as]

end

instance : DecidableEq Value := fun a b =>
  if h : beq a b = true then isTrue (eq_of_beq h)
  else isFalse fun e => h (e ▸ beq_self a)

/-- The kind of a value. -/
def kind : Value → Kind
  | .null => .null
  | .bool _ => .bool
  | .int32 _ => .int32
  | .int64 _ => .int64
  | .float32 _ => .float32
  | .float64 _ => .float64
  | .string _ => .string
  | .bytes _ => .bytes
  | .timestamp _ => .timestamp
  | .uuid _ => .uuid
  | .list _ => .list

/-- Whether a value is null. -/
def isNull : Value → Bool
  | .null => true
  | _ => false

/-- Whether a value is a list. -/
def isList : Value → Bool
  | .list _ => true
  | _ => false

/-- Whether a database takes a value for null, given whether it does so with the empty string. -/
def isNullLike (emptyStringIsNull : Bool) : Value → Bool
  | .null => true
  | .string s => emptyStringIsNull && s.isEmpty
  | _ => false

/-- The truth value, of a boolean only. -/
def bool? : Value → Option Bool
  | .bool b => some b
  | _ => none

/-- The narrow integer, of such a value only. -/
def int32? : Value → Option Int32
  | .int32 i => some i
  | _ => none

/-- The integer of either width. -/
def int64? : Value → Option Int64
  | .int64 i => some i
  | .int32 i => some i.toInt64
  | _ => none

/-- The number of any kind, as the nearest double. -/
def float64? : Value → Option Binary64
  | .float64 x => some x
  | .float32 x => some x.toBinary64
  | .int32 i => some (.ofInt i.toInt)
  | .int64 i => some (.ofInt i.toInt)
  | _ => none

/-- The text, of a string only. -/
def string? : Value → Option String
  | .string s => some s
  | _ => none

/-- The content, of bytes only. -/
def bytes? : Value → Option (List UInt8)
  | .bytes content => some content
  | _ => none

/-- The items, of a list only. -/
def list? : Value → Option (List Value)
  | .list items => some items
  | _ => none

end Value

end RelMap

import MarketSentinel.Library.Number

/-! JSON documents as the runtime holds them after reading.

Objects keep the order of their fields. Integers and floats stay apart, and a
truth value is neither of them.
-/

set_option autoImplicit false

namespace Python

inductive Json where
  | null
  | bool (value : Bool)
  | int (value : Int)
  | float (value : PyFloat)
  | str (value : Text)
  | arr (items : List Json)
  | obj (fields : List (Text × Json))

mutual

def Json.beq : Json → Json → Bool
  | .null, .null => true
  | .bool a, .bool b => decide (a = b)
  | .int a, .int b => decide (a = b)
  | .float a, .float b => decide (a = b)
  | .str a, .str b => decide (a = b)
  | .arr a, .arr b => Json.itemsBeq a b
  | .obj a, .obj b => Json.fieldsBeq a b
  | _, _ => false

def Json.itemsBeq : List Json → List Json → Bool
  | [], [] => true
  | x :: xs, y :: ys => x.beq y && Json.itemsBeq xs ys
  | _, _ => false

def Json.fieldsBeq : List (Text × Json) → List (Text × Json) → Bool
  | [], [] => true
  | (k, x) :: xs, (l, y) :: ys => decide (k = l) && x.beq y && Json.fieldsBeq xs ys
  | _, _ => false

end

mutual

private theorem Json.beq_iff : (a b : Json) → (a.beq b = true ↔ a = b)
  | .arr a, b => by cases b <;> simp [Json.beq, Json.itemsBeq_iff]
  | .obj a, b => by cases b <;> simp [Json.beq, Json.fieldsBeq_iff]
  | .null, b => by cases b <;> simp [Json.beq]
  | .bool _, b => by cases b <;> simp [Json.beq]
  | .int _, b => by cases b <;> simp [Json.beq]
  | .float _, b => by cases b <;> simp [Json.beq]
  | .str _, b => by cases b <;> simp [Json.beq]

private theorem Json.itemsBeq_iff : (a b : List Json) → (Json.itemsBeq a b = true ↔ a = b)
  | [], b => by cases b <;> simp [Json.itemsBeq]
  | x :: xs, [] => by simp [Json.itemsBeq]
  | x :: xs, y :: ys => by simp [Json.itemsBeq, Json.beq_iff x y, Json.itemsBeq_iff xs ys]

private theorem Json.fieldsBeq_iff : (a b : List (Text × Json)) → (Json.fieldsBeq a b = true ↔ a = b)
  | [], b => by cases b <;> simp [Json.fieldsBeq]
  | (k, x) :: xs, [] => by simp [Json.fieldsBeq]
  | (k, x) :: xs, (l, y) :: ys => by
    simp [Json.fieldsBeq, Json.beq_iff x y, Json.fieldsBeq_iff xs ys, and_assoc]

end

instance : DecidableEq Json := fun a b => decidable_of_iff _ (Json.beq_iff a b)

/-- The number a scalar counts as in comparisons: truth values are zero and one. -/
def Json.numeric : Json → Option PyFloat
  | .bool value => some (.finite (if value then 1 else 0))
  | .int value => some (.finite value)
  | .float value => some value
  | _ => none

/-- Python's truth test. -/
def Json.truthy : Json → Bool
  | .null => false
  | .bool value => value
  | .int value => decide (value ≠ 0)
  | .float value => decide (value ≠ .finite 0)
  | .str value => decide (value ≠ [])
  | .arr items => !items.isEmpty
  | .obj fields => !fields.isEmpty

mutual

/-- No infinity and no not-a-number anywhere, as strict writers require. -/
def Json.isFinite : Json → Bool
  | .float (.inf _) => false
  | .float .nan => false
  | .arr items => Json.itemsFinite items
  | .obj fields => Json.fieldsFinite fields
  | _ => true

def Json.itemsFinite : List Json → Bool
  | [] => true
  | x :: xs => x.isFinite && Json.itemsFinite xs

def Json.fieldsFinite : List (Text × Json) → Bool
  | [] => true
  | (_, x) :: xs => x.isFinite && Json.fieldsFinite xs

end

/-- Scalars are hashable; lists and objects are not. -/
def Json.hashable : Json → Bool
  | .arr _ | .obj _ => false
  | _ => true

/-- Python's `==` between hashable values; not-a-number equals nothing. -/
def Json.sameKey (a b : Json) : Bool :=
  match a.numeric, b.numeric with
  | some x, some y => decide (x = y ∧ x ≠ .nan)
  | none, none => decide (a = b)
  | _, _ => false

end Python

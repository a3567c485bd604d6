import MarketSentinel.Library.JsonText
import MarketSentinel.Library.Result

/-! How deep JSON documents nest, and the writer on a stack that is not endless.

Each list and each dictionary takes one level of the stack, and the first exception ends the writer.
-/

set_option autoImplicit false

namespace JsonText

open Python

variable {F : Type}

mutual

/-- How many lists and dictionaries stand in one another. -/
def depth : Value F → Nat
  | .arr items => itemsDepth items + 1
  | .obj fields => fieldsDepth fields + 1
  | .null | .bool _ | .int _ | .float _ | .str _ => 0

def itemsDepth : List (Value F) → Nat
  | [] => 0
  | item :: rest => max (depth item) (itemsDepth rest)

def fieldsDepth : List (Text × Value F) → Nat
  | [] => 0
  | (_, value) :: rest => max (depth value) (fieldsDepth rest)

end

/-- Why `json.dumps` raises: `TypeError` or `ValueError`, or `RecursionError`. -/
inductive DumpError where
  | refused
  | recursion
  deriving DecidableEq

mutual

/-- The writer's way through a document, with stack for so many levels. -/
def visit (floats : FloatText F) : Value F → Nat → Except DumpError Unit
  | .arr items, limit + 1 => visitItems floats items limit
  | .obj fields, limit + 1 => visitFields floats fields limit
  | .arr _, 0 => .error .recursion
  | .obj _, 0 => .error .recursion
  | .int value, _ => if (natText value.natAbs).length ≤ maxStrDigits then .ok () else .error .refused
  | .float value, _ => if (floats.repr value).isSome then .ok () else .error .refused
  | .null, _ => .ok ()
  | .bool _, _ => .ok ()
  | .str _, _ => .ok ()

def visitItems (floats : FloatText F) : List (Value F) → Nat → Except DumpError Unit
  | [], _ => .ok ()
  | item :: rest, limit => do
    visit floats item limit
    visitItems floats rest limit

def visitFields (floats : FloatText F) : List (Text × Value F) → Nat → Except DumpError Unit
  | [], _ => .ok ()
  | (_, value) :: rest, limit => do
    visit floats value limit
    visitFields floats rest limit

end

theorem itemsDepth_le {items : List (Value F)} {limit : Nat} :
    itemsDepth items ≤ limit ↔ ∀ item ∈ items, depth item ≤ limit := by
  induction items with
  | nil => simp [itemsDepth]
  | cons item rest ih => simp [itemsDepth, ih]

theorem fieldsDepth_le {fields : List (Text × Value F)} {limit : Nat} :
    fieldsDepth fields ≤ limit ↔ ∀ field ∈ fields, depth field.2 ≤ limit := by
  induction fields with
  | nil => simp [fieldsDepth]
  | cons field rest ih => simp [fieldsDepth, ih]

theorem depth_sortKeys (value : Value F) : depth (sortKeys value) = depth value := by
  induction value using Value.induct with
  | null | bool | int | float | str => rfl
  | arr items ih =>
    -- two depths are equal when they have the same upper bounds
    refine congrArg (· + 1) (eq_of_forall_ge_iff fun limit => ?_)
    rw [itemsDepth_le, sortItems_eq, List.forall_mem_map, itemsDepth_le]
    exact forall₂_congr fun item member => by rw [ih item member]
  | obj fields ih =>
    refine congrArg (· + 1) (eq_of_forall_ge_iff fun limit => ?_)
    have order := List.mergeSort_perm (sortFields fields) keyLe
    have sorted : (∀ field ∈ (sortFields fields).mergeSort keyLe, depth field.2 ≤ limit) ↔
        ∀ field ∈ sortFields fields, depth field.2 ≤ limit :=
      forall_congr' fun field => by rw [order.mem_iff]
    rw [fieldsDepth_le, sorted, sortFields_eq, List.forall_mem_map, fieldsDepth_le]
    exact forall₂_congr fun field member => by rw [ih field member]

section Visits

variable {floats : FloatText F}

theorem visitItems_ok {items : List (Value F)} {limit : Nat} :
    visitItems floats items limit = .ok () ↔ ∀ item ∈ items, visit floats item limit = .ok () := by
  induction items with
  | nil => simp [visitItems]
  | cons item rest ih =>
    rw [visitItems, Result.bind_eq_ok, List.forall_mem_cons, ← ih]
    exact Unique.exists_iff

theorem visitFields_ok {fields : List (Text × Value F)} {limit : Nat} :
    visitFields floats fields limit = .ok () ↔ ∀ field ∈ fields, visit floats field.2 limit = .ok () := by
  induction fields with
  | nil => simp [visitFields]
  | cons field rest ih =>
    rw [visitFields, Result.bind_eq_ok, List.forall_mem_cons, ← ih]
    exact Unique.exists_iff

theorem visitItems_error {items : List (Value F)} {limit : Nat} {e : DumpError}
    (stopped : visitItems floats items limit = .error e) : ∃ item ∈ items, visit floats item limit = .error e := by
  induction items with
  | nil => cases stopped
  | cons item rest ih =>
    rw [visitItems] at stopped
    cases first : visit floats item limit with
    | error other =>
      rw [first] at stopped
      cases stopped
      exact ⟨item, List.mem_cons_self, first⟩
    | ok u =>
      rw [first] at stopped
      obtain ⟨later, member, stops⟩ := ih stopped
      exact ⟨later, List.mem_cons_of_mem item member, stops⟩

theorem visitFields_error {fields : List (Text × Value F)} {limit : Nat} {e : DumpError}
    (stopped : visitFields floats fields limit = .error e) :
    ∃ field ∈ fields, visit floats field.2 limit = .error e := by
  induction fields with
  | nil => cases stopped
  | cons field rest ih =>
    rw [visitFields] at stopped
    cases first : visit floats field.2 limit with
    | error other =>
      rw [first] at stopped
      cases stopped
      exact ⟨field, List.mem_cons_self, first⟩
    | ok u =>
      rw [first] at stopped
      obtain ⟨later, member, stops⟩ := ih stopped
      exact ⟨later, List.mem_cons_of_mem field member, stops⟩

theorem writeItems_isSome {items : List (Value F)} :
    (writeItems floats items).isSome = true ↔ ∀ item ∈ items, (write floats item).isSome = true := by
  induction items with
  | nil => simp [writeItems]
  | cons item rest ih =>
    rw [writeItems, List.forall_mem_cons, ← ih]
    cases first : write floats item with
    | none => simp
    | some t => cases writeItems floats rest <;> simp

theorem writeFields_isSome {fields : List (Text × Value F)} :
    (writeFields floats fields).isSome = true ↔ ∀ field ∈ fields, (write floats field.2).isSome = true := by
  induction fields with
  | nil => simp [writeFields]
  | cons field rest ih =>
    rw [writeFields, List.forall_mem_cons, ← ih]
    cases first : write floats field.2 with
    | none => simp
    | some t => cases writeFields floats rest <;> simp

/-- The writer comes to the end of what it can write and has stack for. -/
theorem visit_ok {value : Value F} {limit : Nat} :
    visit floats value limit = .ok () ↔ depth value ≤ limit ∧ (write floats value).isSome = true := by
  induction value using Value.induct generalizing limit with
  | null | bool | str => simp [visit, depth, write]
  | int value =>
    by_cases short : (natText value.natAbs).length ≤ maxStrDigits <;> simp [visit, depth, write, short]
  | float value => cases written : floats.repr value <;> simp [visit, depth, write, written]
  | arr items ih =>
    cases limit with
    | zero => simp [visit, depth]
    | succ limit =>
      rw [visit, visitItems_ok, depth, write, Option.isSome_map, writeItems_isSome, Nat.add_le_add_iff_right,
        itemsDepth_le, ← forall₂_and]
      exact forall₂_congr fun item member => ih item member
  | obj fields ih =>
    cases limit with
    | zero => simp [visit, depth]
    | succ limit =>
      rw [visit, visitFields_ok, depth, write, Option.isSome_map, writeFields_isSome, Nat.add_le_add_iff_right,
        fieldsDepth_le, ← forall₂_and]
      exact forall₂_congr fun field member => ih field member

/-- The writer stops at what it cannot write, or where the stack ends. -/
theorem visit_error {value : Value F} {limit : Nat} {e : DumpError} (stopped : visit floats value limit = .error e) :
    (e = .refused → write floats value = none) ∧ (e = .recursion → limit < depth value) := by
  induction value using Value.induct generalizing limit with
  | null | bool | str => cases stopped
  | int value =>
    simp only [visit] at stopped
    split_ifs at stopped with short
    cases stopped
    exact ⟨fun _ => by rw [write, if_neg short], fun deep => by cases deep⟩
  | float value =>
    simp only [visit] at stopped
    split_ifs at stopped with written
    cases stopped
    exact ⟨fun _ => by simpa [write] using written, fun deep => by cases deep⟩
  | arr items ih =>
    cases limit with
    | zero =>
      cases stopped
      exact ⟨fun refused => (by cases refused), fun _ => Nat.succ_pos _⟩
    | succ limit =>
      -- one item stopped the writer: it cannot be written, or is nested deeper than what was left
      obtain ⟨item, member, stops⟩ := visitItems_error stopped
      obtain ⟨unwritten, deep⟩ := ih item member stops
      refine ⟨fun refused => ?_, fun recursion => Nat.succ_lt_succ ?_⟩
      · rw [write, Option.map_eq_none_iff, ← Option.not_isSome_iff_eq_none, writeItems_isSome]
        intro all
        simpa [unwritten refused] using all item member
      · exact (deep recursion).trans_le (itemsDepth_le.mp le_rfl item member)
  | obj fields ih =>
    cases limit with
    | zero =>
      cases stopped
      exact ⟨fun refused => (by cases refused), fun _ => Nat.succ_pos _⟩
    | succ limit =>
      obtain ⟨field, member, stops⟩ := visitFields_error stopped
      obtain ⟨unwritten, deep⟩ := ih field member stops
      refine ⟨fun refused => ?_, fun recursion => Nat.succ_lt_succ ?_⟩
      · rw [write, Option.map_eq_none_iff, ← Option.not_isSome_iff_eq_none, writeFields_isSome]
        intro all
        simpa [unwritten refused] using all field member
      · exact (deep recursion).trans_le (fieldsDepth_le.mp le_rfl field member)

end Visits

end JsonText

import MarketSentinel.Journal.Results

/-! Which results the stack is enough for: there the journal keeps what it promises, and elsewhere it raises. -/

set_option autoImplicit false

namespace MarketSentinel.Journal

open Python JsonText

variable {F : Type}

/-- What the journal promises of a result. It is an object within the limit, the same when it is bounded again, up to
the order of its keys. What fits is kept whole, and a result that keeps its shape is cut from the value or is the
receipt. -/
def Kept (codec : ResultCodec F) (stack : Stack) (value : Value F) (preserveShape : Bool) (maxBytes : Int) : Prop :=
  ∃ fields, codec.boundedMutationResult stack value preserveShape maxBytes = some (.obj fields) ∧
    codec.Fits (.obj fields) maxBytes ∧
    (∀ again limit, maxBytes ≤ limit → ∃ same,
      codec.boundedMutationResult stack (.obj fields) again limit = some same ∧ sortKeys same = sortKeys (.obj fields)) ∧
    (codec.Fits (candidate value) maxBytes → .obj fields = sortKeys (candidate value)) ∧
    (preserveShape = true → .obj fields = codec.receipt value ∨ Trimmed (candidate value) (.obj fields))

/-- The stack is enough for a value: the writer comes through it, or to something that cannot be written at all, and a
value that is written and too large is walked once more for its shape. -/
structure HasStack (codec : ResultCodec F) (stack : Stack) (value : Value F) (preserveShape : Bool) (maxBytes : Int) :
    Prop where
  writes : depth (candidate value) ≤ stack.nesting ∨
    visit codec.floats (sortKeys (candidate value)) stack.nesting = .error .refused
  trims : preserveShape = true → ∀ encoded, codec.encode (candidate value) = some encoded →
    maxBytes < encoded.length → trimFrames 128 (candidate value) ≤ stack.frames

/-! ## Frames -/

theorem itemsFrames_mono {fewer more : Nat} {items : List (Value F)}
    (each : ∀ item ∈ items, trimFrames fewer item ≤ trimFrames more item) {left room : Nat} (smaller : left ≤ room) :
    itemsFrames fewer items left ≤ itemsFrames more items room := by
  induction items generalizing left room with
  | nil => simp [itemsFrames]
  | cons item rest ih =>
    rw [List.forall_mem_cons] at each
    cases left with
    | zero => simp [itemsFrames]
    | succ left =>
      obtain ⟨room, rfl⟩ : ∃ less, room = less + 1 := ⟨room - 1, by omega⟩
      exact max_le_max each.1 (ih each.2 (by omega))

theorem fieldsFrames_mono {fewer more : Nat} {fields : List (Text × Value F)}
    (each : ∀ field ∈ fields, trimFrames fewer field.2 ≤ trimFrames more field.2) :
    fieldsFrames fewer fields ≤ fieldsFrames more fields := by
  induction fields with
  | nil => exact Nat.le_refl 0
  | cons field rest ih =>
    rw [List.forall_mem_cons] at each
    exact max_le_max each.1 (ih each.2)

/-- Shorter lists take no more frames. -/
theorem trimFrames_mono {fewer more : Nat} (smaller : fewer ≤ more) (value : Value F) :
    trimFrames fewer value ≤ trimFrames more value := by
  induction value using Value.induct with
  | null | bool | int | float | str => exact Nat.le_refl 1
  | arr items ih => exact Nat.add_le_add_right (itemsFrames_mono ih smaller) 2
  | obj fields ih => exact Nat.add_le_add_right (fieldsFrames_mono ih) 2

theorem trimLimits_le {limits : Nat × Nat} (member : limits ∈ trimLimits) : limits.1 ≤ 128 := by
  revert limits
  decide

/-! ## The stack is enough, or a `RecursionError` leaves the function -/

variable {codec : ResultCodec F} {stack : Stack}

namespace ResultCodec

theorem encode_of_unwritten {value : Value F} (unwritten : write codec.floats (sortKeys value) = none) :
    codec.encode value = none := by
  rw [encode, dumps, unwritten, Option.bind_none]

/-- With stack enough, the writer only refuses what cannot be encoded. -/
theorem encodeWithin_of_depth {value : Value F} (within : depth value ≤ stack.nesting) :
    codec.encodeWithin stack value = (codec.encode value).elim (.error .refused) .ok := by
  rw [encodeWithin]
  cases walk : visit codec.floats (sortKeys value) stack.nesting with
  | ok u => rfl
  | error e =>
    obtain ⟨unwritten, deep⟩ := visit_error walk
    rw [depth_sortKeys] at deep
    cases e with
    | refused =>
      rw [encode_of_unwritten (unwritten rfl)]
      rfl
    | recursion => exact absurd (deep rfl) (by omega)

theorem encodeWithin_of_refused {value : Value F}
    (refused : visit codec.floats (sortKeys value) stack.nesting = .error .refused) :
    codec.encodeWithin stack value = .error .refused := by
  rw [encodeWithin, refused]
  rfl

theorem encodeWithin_of_deep {value : Value F} (deep : stack.nesting < depth value)
    (accepted : visit codec.floats (sortKeys value) stack.nesting ≠ .error .refused) :
    codec.encodeWithin stack value = .error .recursion := by
  rw [encodeWithin]
  cases walk : visit codec.floats (sortKeys value) stack.nesting with
  | ok u =>
    have within := (visit_ok.mp walk).1
    rw [depth_sortKeys] at within
    omega
  | error e =>
    cases e with
    | refused => exact absurd walk accepted
    | recursion => rfl

/-- What was written is read with the same stack. -/
theorem decodeWithin_encode {value : Value F} (keyed : Keyed value) {encoded : List UInt8}
    (written : codec.encode value = some encoded) (within : depth value ≤ stack.nesting) :
    codec.decodeWithin stack encoded = codec.decode encoded := by
  rw [decodeWithin, decode_encode keyed written, Option.filter_some, depth_sortKeys, if_pos (decide_eq_true within)]

/-- With stack enough, the attempts are those of a stack without end. -/
theorem trimmedWithin_eq {value : Value F} (within : depth value ≤ stack.nesting) (limit : Int) {list : List (Nat × Nat)}
    (frames : ∀ limits ∈ list, trimFrames limits.1 value ≤ stack.frames) :
    codec.trimmedWithin stack value limit list = .ok (list.findSome? (codec.attempt value limit)) := by
  induction list with
  | nil => rfl
  | cons limits rest ih =>
    rw [List.forall_mem_cons] at frames
    have shaped := (depth_shapeTrim limits.1 limits.2 value).trans within
    rw [trimmedWithin, if_neg (by omega), encodeWithin_of_depth shaped, List.findSome?_cons, attempt, ih frames.2]
    cases written : codec.encode (shapeTrimMutationValue limits.1 limits.2 value) with
    | none => rfl
    | some encoded => by_cases small : (encoded.length : Int) ≤ limit <;> simp [Option.filter, small]

/-- With stack enough, the result is that of a stack without end. -/
theorem boundedMutationResult_eq {value : Value F} {preserveShape : Bool} {maxBytes : Int} (keyed : Keyed value)
    (room : 1 ≤ maxBytes) (enough : HasStack codec stack value preserveShape maxBytes) :
    codec.boundedMutationResult stack value preserveShape maxBytes = codec.boundedResult value preserveShape maxBytes := by
  rw [boundedMutationResult, boundedResult, max_eq_right room]
  rcases enough.writes with within | refused
  · rw [encodeWithin_of_depth within]
    cases written : codec.encode (candidate value) with
    | none => rfl
    | some encoded =>
      have whole := decodeWithin_encode (keyed_candidate keyed) written within
      simp only [Option.elim_some, whole]
      split_ifs with small preserves
      · rfl
      · have frames : ∀ limits ∈ trimLimits, trimFrames limits.1 (candidate value) ≤ stack.frames := fun limits member =>
          (trimFrames_mono (trimLimits_le member) _).trans (enough.trims preserves encoded written (not_le.mp small))
        rw [trimmedWithin_eq within maxBytes frames]
        cases found : trimLimits.findSome? (codec.attempt (candidate value) maxBytes) with
        | none => rfl
        | some trimmed =>
          obtain ⟨limits, -, fitting⟩ := List.exists_of_findSome?_eq_some found
          -- the kept attempt is nested no deeper than the value, so it is read back
          have shaped := (depth_shapeTrim limits.1 limits.2 (candidate value)).trans within
          exact decodeWithin_encode (Keyed.shapeTrim (keyed_candidate keyed) _ _) (attempt_spec fitting).1 shaped
      · rfl
  · have unwritten := (visit_error refused).1 rfl
    rw [encodeWithin_of_refused refused, encode_of_unwritten unwritten]

/-- Without it, a `RecursionError` leaves the function. -/
theorem boundedMutationResult_none {value : Value F} {preserveShape : Bool} {maxBytes : Int} (room : 1 ≤ maxBytes)
    (short : ¬ HasStack codec stack value preserveShape maxBytes) :
    codec.boundedMutationResult stack value preserveShape maxBytes = none := by
  rw [boundedMutationResult, max_eq_right room]
  by_cases writes : depth (candidate value) ≤ stack.nesting ∨
      visit codec.floats (sortKeys (candidate value)) stack.nesting = .error .refused
  · have trims : ¬ (preserveShape = true → ∀ encoded, codec.encode (candidate value) = some encoded →
        maxBytes < encoded.length → trimFrames 128 (candidate value) ≤ stack.frames) := fun trims => short ⟨writes, trims⟩
    push Not at trims
    -- the encoding came to its end, so it is the walk for the shape that runs out of frames
    obtain ⟨preserves, encoded, written, large, deep⟩ := trims
    have within : depth (candidate value) ≤ stack.nesting := by
      rcases writes with within | refused
      · exact within
      · rw [encode_of_unwritten ((visit_error refused).1 rfl)] at written
        cases written
    rw [encodeWithin_of_depth within, written]
    simp only [Option.elim_some, if_neg (not_le.mpr large), if_pos preserves]
    rw [trimLimits, trimmedWithin, if_pos deep]
  · rw [not_or, not_le] at writes
    rw [encodeWithin_of_deep writes.1 writes.2]

end ResultCodec

/-- What fits has stack enough when it is not nested too deep. -/
theorem HasStack.of_fits {value : Value F} {preserveShape : Bool} {maxBytes : Int}
    (within : depth (candidate value) ≤ stack.nesting) (fits : codec.Fits (candidate value) maxBytes) :
    HasStack codec stack value preserveShape maxBytes := by
  refine ⟨Or.inl within, fun _ encoded written large => ?_⟩
  obtain ⟨bytes, known, small⟩ := fits
  rw [known] at written
  cases written
  omega

/-- A result on a stack without end is nested no deeper than the stack, when it is enough for the value. -/
theorem HasStack.result {value : Value F} {preserveShape : Bool} {maxBytes : Int}
    (enough : HasStack codec stack value preserveShape maxBytes) {result : Value F}
    (found : codec.boundedResult value preserveShape maxBytes = some result)
    (level : depth result ≤ max 2 (depth (candidate value))) : depth result ≤ stack.nesting := by
  rcases enough.writes with within | refused
  · exact level.trans (max_le stack.receipts within)
  · rw [ResultCodec.boundedResult, ResultCodec.encode_of_unwritten ((visit_error refused).1 rfl)] at found
    cases found
    exact stack.receipts

/-- The journal keeps its promise on exactly the values that the stack is enough for. -/
theorem boundedMutationResult_stable_iff (codec : ResultCodec F) (stack : Stack) (value : Value F) (preserveShape : Bool)
    (maxBytes : Int) (keyed : Keyed value) (room : codec.Fits (codec.receipt value) maxBytes) :
    Kept codec stack value preserveShape maxBytes ↔ HasStack codec stack value preserveShape maxBytes := by
  constructor
  · rintro ⟨fields, result, -⟩
    by_contra short
    rw [ResultCodec.boundedMutationResult_none room.pos short] at result
    cases result
  · intro enough
    obtain ⟨fields, result, object, fits, whole, shape, level⟩ :=
      boundedResult_spec codec value preserveShape maxBytes keyed room
    -- the result is a receipt or no deeper than the value, so there is stack for it again
    have shallow := enough.result result level
    refine ⟨fields, ?_, fits, fun again limit larger => ⟨sortKeys (.obj fields), ?_, sortKeys_sortKeys _⟩, whole, shape⟩
    · rw [ResultCodec.boundedMutationResult_eq keyed room.pos enough, result]
    · have fitting : codec.Fits (candidate (.obj fields)) limit := fits.mono larger
      have enough : HasStack codec stack (.obj fields) again limit := HasStack.of_fits shallow fitting
      rw [ResultCodec.boundedMutationResult_eq object (room.pos.trans larger) enough, bounded_again object fits larger again]

/-! ## A list that is nested too deep, and a list with a lone surrogate -/

/-- The runtime on one float. -/
def half : FloatText Unit where
  repr _ := some (text "0.5")
  read t := if t = text "0.5" then some () else none
  floatToken_repr := by
    intro value t same
    cases same
    decide
  read_repr := by
    intro value t same
    cases same
    rfl

/-- A codec for values that are never hashed. -/
def halfCodec : ResultCodec Unit := ⟨half, fun _ => []⟩

/-- What a call from the top of a program finds at CPython's default recursion limit. -/
def defaultStack : Stack := ⟨994, 998, by decide⟩

/-- Lists in one another. -/
def nested : Nat → Value Unit
  | 0 => .arr []
  | levels + 1 => .arr [nested levels]

def brackets (levels : Nat) : List Char := List.replicate (levels + 1) '[' ++ List.replicate (levels + 1) ']'

theorem brackets_succ (levels : Nat) : brackets (levels + 1) = '[' :: (brackets levels ++ [']']) := by
  have closing : List.replicate (levels + 2) ']' = List.replicate (levels + 1) ']' ++ [']'] := List.replicate_succ'
  rw [brackets, closing, List.replicate_succ, List.cons_append, ← List.append_assoc, ← brackets]

theorem write_nested (levels : Nat) : write half (nested levels) = some ((brackets levels).map codePoint) := by
  induction levels with
  | zero => decide
  | succ levels ih =>
    rw [nested, write, writeItems, ih, brackets_succ]
    simp [writeItems, codePoint]

theorem sortKeys_nested (levels : Nat) : sortKeys (nested levels) = nested levels := by
  induction levels with
  | zero => rfl
  | succ levels ih => rw [nested, sortKeys, sortItems, sortItems, ih]

theorem keyed_nested (levels : Nat) : Keyed (nested levels) := by
  induction levels with
  | zero => trivial
  | succ levels ih => exact ⟨ih, trivial⟩

theorem visit_nested {levels limit : Nat} (deep : limit ≤ levels) :
    visit half (nested levels) limit = .error .recursion := by
  induction levels generalizing limit with
  | zero =>
    obtain rfl := Nat.le_zero.mp deep
    rfl
  | succ levels ih =>
    cases limit with
    | zero => rfl
    | succ limit =>
      rw [nested, visit, visitItems, ih (Nat.le_of_succ_le_succ deep)]
      rfl

theorem sortKeys_candidate_nested (levels : Nat) :
    sortKeys (candidate (nested levels)) = .obj [(text "result", nested levels)] := by
  cases levels <;> simp [candidate, nested, sortKeys, sortFields, sortItems, sortKeys_nested]

/-- A list in one another takes two bytes for each level. -/
theorem encode_nested (levels : Nat) : ∃ encoded, halfCodec.encode (candidate (nested levels)) = some encoded ∧
    encoded.length = 2 * levels + 13 := by
  let characters := "\x7b\"result\":".toList ++ (brackets levels ++ ['}'])
  have written : write half (.obj [(text "result", nested levels)]) = some (characters.map codePoint) := by
    have opening : 123 :: (JsonText.quote (text "result") ++ [58]) = "\x7b\"result\":".toList.map codePoint := by decide
    have closing : ['}'].map codePoint = [125] := by decide
    rw [write, writeFields, writeFields, write_nested, List.map_append, List.map_append, ← opening, closing]
    simp
  have read : (characters.map codePoint).mapM character? = some characters := (mapM_character? _ _).mpr rfl
  refine ⟨characters.flatMap String.utf8EncodeChar, ?_, ?_⟩
  · rw [ResultCodec.encode, dumps, sortKeys_candidate_nested]
    show (write half _).bind utf8Encode = _
    rw [written, Option.bind_some, utf8Encode, read]
    rfl
  · have opening : ("\x7b\"result\":".toList.flatMap String.utf8EncodeChar).length = 10 := by decide
    have closing : (['}'].flatMap String.utf8EncodeChar).length = 1 := by decide
    have sizes : '['.utf8Size = 1 ∧ ']'.utf8Size = 1 := by decide
    have middle : ((brackets levels).flatMap String.utf8EncodeChar).length = 2 * (levels + 1) := by
      simp [brackets, List.length_flatMap, sizes]
      omega
    rw [List.flatMap_append, List.flatMap_append, List.length_append, List.length_append, opening, middle, closing]
    omega

set_option maxRecDepth 2000 in
theorem exceeded_fits {encoded : List UInt8} (length : encoded.length = 2013) :
    halfCodec.Fits (halfCodec.exceeded encoded) maxMutationResultBytes := by
  have sorted : sortKeys (halfCodec.exceeded encoded) = .obj [(text "mutation_result", .obj
      [(text "original_bytes", .int 2013), (text "reason", .str (text "result_exceeded_storage_limit")),
        (text "sha256", .str []), (text "stored", .str (text "receipt_only"))]), (text "ok", .bool true)] := by
    have outer : ¬ text "ok" ≤ text "mutation_result" := by decide
    have first : ¬ text "stored" ≤ text "reason" := by decide
    have second : text "original_bytes" ≤ text "sha256" := by decide
    have third : ¬ text "reason" ≤ text "original_bytes" := by decide
    have fourth : text "reason" ≤ text "sha256" := by decide
    have fifth : ¬ text "stored" ≤ text "sha256" := by decide
    simp [ResultCodec.exceeded, length, halfCodec, hexdigest, sortKeys, sortFields, List.mergeSort,
      List.MergeSort.Internal.splitInTwo, keyLe, outer, first, second, third, fourth, fifth]
  have size : (halfCodec.encode (halfCodec.exceeded encoded)).map List.length = some 130 := by
    rw [ResultCodec.encode, dumps, sorted]
    decide
  obtain ⟨bytes, written, short⟩ := Option.map_eq_some_iff.mp size
  have room : maxMutationResultBytes = 262144 := rfl
  exact ⟨bytes, written, by omega⟩

/-- A list of a thousand levels is well within the limit, and its result is lost. -/
theorem nested_result_lost : Keyed (nested 1000) ∧ halfCodec.Fits (candidate (nested 1000)) maxMutationResultBytes ∧
    halfCodec.Fits (halfCodec.receipt (nested 1000)) maxMutationResultBytes ∧
    halfCodec.boundedMutationResult defaultStack (nested 1000) true maxMutationResultBytes = none ∧
    ¬ Kept halfCodec defaultStack (nested 1000) true maxMutationResultBytes := by
  obtain ⟨encoded, written, length⟩ := encode_nested 1000
  have limit : maxMutationResultBytes = 262144 := rfl
  have receipt : halfCodec.receipt (nested 1000) = halfCodec.exceeded encoded := by
    rw [ResultCodec.receipt, written]
  have walk : visit halfCodec.floats (sortKeys (candidate (nested 1000))) defaultStack.nesting = .error .recursion := by
    rw [sortKeys_candidate_nested]
    -- the dictionary around the list takes the first level
    show (do visit half (nested 1000) 993; visitFields half [] 993) = _
    rw [visit_nested (by decide)]
    rfl
  have lost : halfCodec.boundedMutationResult defaultStack (nested 1000) true maxMutationResultBytes = none := by
    rw [ResultCodec.boundedMutationResult, ResultCodec.encodeWithin, walk]
    rfl
  refine ⟨keyed_nested 1000, ⟨encoded, written, by omega⟩, by rw [receipt]; exact exceeded_fits (by omega), lost, ?_⟩
  rintro ⟨fields, result, -⟩
  rw [lost] at result
  cases result

/-- A list with a lone surrogate. -/
def surrogate : Value Unit := .arr [.float (), .str [0xd800]]

theorem surrogate_unencodable : halfCodec.encode (candidate surrogate) = none := by
  have sorted : sortKeys (candidate surrogate) = candidate surrogate := by
    simp [surrogate, candidate, sortKeys, sortFields, sortItems]
  rw [ResultCodec.encode, dumps, sorted]
  decide

theorem notSerializable_fits : halfCodec.Fits notSerializable 99 := by
  have sorted : sortKeys (notSerializable : Value Unit) = .obj [(text "mutation_result", .obj
      [(text "reason", .str (text "result_was_not_json_serializable")), (text "stored", .str (text "receipt_only"))]),
      (text "ok", .bool true)] := by
    have outer : ¬ text "ok" ≤ text "mutation_result" := by decide
    have inner : ¬ text "stored" ≤ text "reason" := by decide
    simp [notSerializable, sortKeys, sortFields, List.mergeSort, List.MergeSort.Internal.splitInTwo, keyLe, outer, inner]
  have size : (halfCodec.encode notSerializable).map List.length = some 99 := by
    rw [ResultCodec.encode, dumps, sorted]
    decide
  obtain ⟨encoded, written, length⟩ := Option.map_eq_some_iff.mp size
  exact ⟨encoded, written, by omega⟩

theorem boundedMutationResult_stable_surrogate : Kept halfCodec defaultStack surrogate true 99 := by
  have receipt : halfCodec.receipt surrogate = notSerializable := by
    rw [ResultCodec.receipt, surrogate_unencodable]
  have room : halfCodec.Fits (halfCodec.receipt surrogate) 99 := by
    rw [receipt]
    exact notSerializable_fits
  refine (boundedMutationResult_stable_iff halfCodec defaultStack surrogate true 99 ⟨trivial, trivial, trivial⟩ room).mpr ?_
  refine ⟨Or.inl (by decide), fun _ encoded written => ?_⟩
  rw [surrogate_unencodable] at written
  cases written

end MarketSentinel.Journal

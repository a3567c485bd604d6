import MarketSentinel.Library.JsonNesting
import MarketSentinel.Library.Utf8

/-! Results of mutations as the journal keeps them: bounded in bytes, and the same when they are bounded again.

A size is measured on the bytes of a compact text, and trimming counts characters and items. The walks of the
writer, the reader and the trimming take stack for every level, and nothing catches a `RecursionError`.
-/

set_option autoImplicit false

namespace MarketSentinel.Journal

open Python JsonText

/-- Documents out of floats `F`, and SHA-256. -/
structure ResultCodec (F : Type) where
  floats : FloatText F
  sha256 : List UInt8 → List UInt8

/-- The stack at a call: the levels of lists and dictionaries that `json.dumps` and `json.loads` come through, and
the frames left for `_shape_trim_mutation_value`. A receipt has two levels. -/
structure Stack where
  nesting : Nat
  frames : Nat
  receipts : 2 ≤ nesting

def hexdigest (bytes : List UInt8) : Text :=
  bytes.flatMap fun byte => [hexPoint (byte.toNat / 16), hexPoint (byte.toNat % 16)]

def maxMutationResultBytes : Int := 256 * 1024

variable {F : Type}

mutual

/-- `_shape_trim_mutation_value`. -/
def shapeTrimMutationValue (listLimit stringLimit : Nat) : Value F → Value F
  | .obj fields => .obj (shapeTrimFields listLimit stringLimit fields)
  | .arr items => .arr ((shapeTrimItems listLimit stringLimit items).take listLimit)
  | .str value => .str (if stringLimit < value.length then value.take stringLimit else value)
  | .null => .null
  | .bool value => .bool value
  | .int value => .int value
  | .float value => .float value

def shapeTrimItems (listLimit stringLimit : Nat) : List (Value F) → List (Value F)
  | [] => []
  | item :: rest => shapeTrimMutationValue listLimit stringLimit item :: shapeTrimItems listLimit stringLimit rest

def shapeTrimFields (listLimit stringLimit : Nat) : List (Text × Value F) → List (Text × Value F)
  | [] => []
  | (key, child) :: rest =>
    (key, shapeTrimMutationValue listLimit stringLimit child) :: shapeTrimFields listLimit stringLimit rest

end

mutual

/-- The frames that trimming takes: a call, and for a list or a dictionary the comprehension and its deepest child. -/
def trimFrames (listLimit : Nat) : Value F → Nat
  | .obj fields => fieldsFrames listLimit fields + 2
  | .arr items => itemsFrames listLimit items listLimit + 2
  | .null | .bool _ | .int _ | .float _ | .str _ => 1

def itemsFrames (listLimit : Nat) : List (Value F) → Nat → Nat
  | [], _ => 0
  | _ :: _, 0 => 0
  | item :: rest, left + 1 => max (trimFrames listLimit item) (itemsFrames listLimit rest left)

def fieldsFrames (listLimit : Nat) : List (Text × Value F) → Nat
  | [] => 0
  | (_, child) :: rest => max (trimFrames listLimit child) (fieldsFrames listLimit rest)

end

/-- The limits of lists and strings, in the order of the attempts. -/
def trimLimits : List (Nat × Nat) :=
  [(128, 8 * 1024), (64, 4 * 1024), (32, 2 * 1024), (16, 1024), (8, 512), (4, 256), (0, 128)]

def notSerializable : Value F := .obj [(text "ok", .bool true), (text "mutation_result", .obj
  [(text "stored", .str (text "receipt_only")), (text "reason", .str (text "result_was_not_json_serializable"))])]

/-- `dict(value)`, or the value under a key. -/
def candidate : Value F → Value F
  | .obj fields => .obj fields
  | value => .obj [(text "result", value)]

namespace ResultCodec

variable (codec : ResultCodec F)

/-- `json.dumps(…).encode("utf-8")`; nothing where one of them raises. -/
def encode (value : Value F) : Option (List UInt8) := (dumps codec.floats value).bind utf8Encode

/-- `json.loads(encoded.decode("utf-8"))`. -/
def decode (encoded : List UInt8) : Option (Value F) := (utf8Decode encoded).bind (loads codec.floats)

def exceeded (encoded : List UInt8) : Value F := .obj [(text "ok", .bool true), (text "mutation_result", .obj
  [(text "stored", .str (text "receipt_only")), (text "reason", .str (text "result_exceeded_storage_limit")),
    (text "original_bytes", .int encoded.length), (text "sha256", .str (hexdigest (codec.sha256 encoded)))])]

/-- `json.dumps(…).encode("utf-8")` on the stack. -/
def encodeWithin (stack : Stack) (value : Value F) : Except DumpError (List UInt8) := do
  visit codec.floats (sortKeys value) stack.nesting
  (codec.encode value).elim (.error .refused) .ok

/-- `json.loads(encoded.decode("utf-8"))` on the stack. -/
def decodeWithin (stack : Stack) (encoded : List UInt8) : Option (Value F) :=
  (codec.decode encoded).filter fun value => depth value ≤ stack.nesting

/-- The attempts, until one of them fits. -/
def trimmedWithin (stack : Stack) (value : Value F) (limit : Int) : List (Nat × Nat) → Except DumpError (Option (List UInt8))
  | [] => .ok none
  | limits :: rest =>
    if stack.frames < trimFrames limits.1 value then .error .recursion
    else
      match codec.encodeWithin stack (shapeTrimMutationValue limits.1 limits.2 value) with
      | .error .recursion => .error .recursion
      -- `except (TypeError, ValueError): continue`
      | .error .refused => trimmedWithin stack value limit rest
      | .ok encoded => if (encoded.length : Int) ≤ limit then .ok (some encoded) else trimmedWithin stack value limit rest

/-- Nothing where an exception leaves the function. -/
def boundedMutationResult (stack : Stack) (value : Value F) (preserveShape : Bool) (maxBytes : Int) : Option (Value F) :=
  match codec.encodeWithin stack (candidate value) with
  | .error .refused => some notSerializable
  -- `except (TypeError, ValueError)` lets it through
  | .error .recursion => none
  | .ok encoded =>
    let limit := max 1 maxBytes
    if (encoded.length : Int) ≤ limit then codec.decodeWithin stack encoded
    else
      match if preserveShape then codec.trimmedWithin stack (candidate value) limit trimLimits else .ok none with
      | .error _ => none
      | .ok (some trimmed) => codec.decodeWithin stack trimmed
      | .ok none => some (codec.exceeded encoded)

/-- One attempt on a stack without end. -/
def attempt (value : Value F) (limit : Int) (limits : Nat × Nat) : Option (List UInt8) :=
  (codec.encode (shapeTrimMutationValue limits.1 limits.2 value)).filter fun encoded => (encoded.length : Int) ≤ limit

/-- The result on a stack without end. -/
def boundedResult (value : Value F) (preserveShape : Bool) (maxBytes : Int) : Option (Value F) :=
  match codec.encode (candidate value) with
  | none => some notSerializable
  | some encoded =>
    let limit := max 1 maxBytes
    if (encoded.length : Int) ≤ limit then codec.decode encoded
    else
      match if preserveShape then trimLimits.findSome? (codec.attempt (candidate value) limit) else none with
      | some trimmed => codec.decode trimmed
      | none => some (codec.exceeded encoded)

/-- The receipt in place of a value that cannot be kept. -/
def receipt (value : Value F) : Value F :=
  match codec.encode (candidate value) with
  | none => notSerializable
  | some encoded => codec.exceeded encoded

def Fits (value : Value F) (maxBytes : Int) : Prop :=
  ∃ encoded, codec.encode value = some encoded ∧ (encoded.length : Int) ≤ maxBytes

end ResultCodec

/-- The keys stay, lists and strings are cut at their ends, and everything else is the same. -/
inductive Trimmed : Value F → Value F → Prop where
  | null : Trimmed .null .null
  | bool (value : Bool) : Trimmed (.bool value) (.bool value)
  | int (value : Int) : Trimmed (.int value) (.int value)
  | float (value : F) : Trimmed (.float value) (.float value)
  | str {value kept : Text} : kept <+: value → Trimmed (.str value) (.str kept)
  | arr {items kept : List (Value F)} : kept.length ≤ items.length →
      (∀ (index : Nat) item child, items[index]? = some item → kept[index]? = some child → Trimmed item child) →
      Trimmed (.arr items) (.arr kept)
  | obj {fields kept : List (Text × Value F)} : (fields.map Prod.fst).Perm (kept.map Prod.fst) →
      (∀ key value child, (key, value) ∈ fields → (key, child) ∈ kept → Trimmed value child) →
      Trimmed (.obj fields) (.obj kept)

theorem shapeTrimItems_eq (listLimit stringLimit : Nat) (items : List (Value F)) :
    shapeTrimItems listLimit stringLimit items = items.map (shapeTrimMutationValue listLimit stringLimit) := by
  induction items with
  | nil => rfl
  | cons item rest ih => rw [shapeTrimItems, ih, List.map_cons]

theorem shapeTrimFields_eq (listLimit stringLimit : Nat) (fields : List (Text × Value F)) :
    shapeTrimFields listLimit stringLimit fields =
      fields.map fun field => (field.1, shapeTrimMutationValue listLimit stringLimit field.2) := by
  induction fields with
  | nil => rfl
  | cons field rest ih => rw [shapeTrimFields, ih, List.map_cons]

theorem keys_shapeTrimFields (listLimit stringLimit : Nat) (fields : List (Text × Value F)) :
    (shapeTrimFields listLimit stringLimit fields).map Prod.fst = fields.map Prod.fst := by
  rw [shapeTrimFields_eq, List.map_map]
  rfl

theorem Keyed.shapeTrim {value : Value F} (keyed : Keyed value) (listLimit stringLimit : Nat) :
    Keyed (shapeTrimMutationValue listLimit stringLimit value) := by
  induction value using Value.induct with
  | null | bool | int | float | str => trivial
  | arr items ih =>
    show ItemsKeyed ((shapeTrimItems listLimit stringLimit items).take listLimit)
    rw [itemsKeyed_iff, shapeTrimItems_eq]
    intro item member
    obtain ⟨old, known, rfl⟩ := List.mem_map.mp (List.mem_of_mem_take member)
    exact ih old known ((itemsKeyed_iff items).mp keyed old known)
  | obj fields ih =>
    refine ⟨?_, ?_⟩
    · rw [keys_shapeTrimFields]
      exact keyed.1
    · rw [fieldsKeyed_iff, shapeTrimFields_eq]
      intro field member
      obtain ⟨old, known, rfl⟩ := List.mem_map.mp member
      exact ih old known ((fieldsKeyed_iff fields).mp keyed.2 old known)

/-- Trimming does not nest anything deeper. -/
theorem depth_shapeTrim (listLimit stringLimit : Nat) (value : Value F) :
    depth (shapeTrimMutationValue listLimit stringLimit value) ≤ depth value := by
  induction value using Value.induct with
  | null | bool | int | float | str => exact Nat.le_refl 0
  | arr items ih =>
    refine Nat.succ_le_succ (itemsDepth_le.mpr fun item member => ?_)
    rw [shapeTrimItems_eq] at member
    obtain ⟨old, known, rfl⟩ := List.mem_map.mp (List.mem_of_mem_take member)
    exact (ih old known).trans (itemsDepth_le.mp le_rfl old known)
  | obj fields ih =>
    refine Nat.succ_le_succ (fieldsDepth_le.mpr fun field member => ?_)
    rw [shapeTrimFields_eq] at member
    obtain ⟨old, known, rfl⟩ := List.mem_map.mp member
    exact (ih old known).trans (fieldsDepth_le.mp le_rfl old known)

/-- A field of a dictionary and the field of that key after a change of the values. -/
theorem field_of_map {fields : List (Text × Value F)} (unique : (fields.map Prod.fst).Nodup) {change : Value F → Value F}
    {key : Text} {value child : Value F} (member : (key, value) ∈ fields)
    (changed : (key, child) ∈ fields.map fun field => (field.1, change field.2)) : child = change value := by
  obtain ⟨⟨other, old⟩, known, same⟩ := List.mem_map.mp changed
  cases same
  have first := Dict.get?_of_mem unique member
  rw [Dict.get?_of_mem unique known] at first
  rw [Option.some.inj first]

theorem trimmed_self {value : Value F} (keyed : Keyed value) : Trimmed value value := by
  induction value using Value.induct with
  | null => exact .null
  | bool value => exact .bool value
  | int value => exact .int value
  | float value => exact .float value
  | str value => exact .str (List.prefix_refl value)
  | arr items ih =>
    refine .arr (Nat.le_refl _) fun index item child found same => ?_
    rw [found] at same
    cases same
    have member := List.mem_of_getElem? found
    exact ih item member ((itemsKeyed_iff items).mp keyed item member)
  | obj fields ih =>
    refine .obj (List.Perm.refl _) fun key value child member kept => ?_
    have listed : (key, child) ∈ fields.map fun field => (field.1, id field.2) := by simpa using kept
    rw [field_of_map keyed.1 member listed]
    exact ih (key, value) member ((fieldsKeyed_iff fields).mp keyed.2 _ member)

theorem trimmed_shapeTrim {value : Value F} (keyed : Keyed value) (listLimit stringLimit : Nat) :
    Trimmed value (shapeTrimMutationValue listLimit stringLimit value) := by
  induction value using Value.induct with
  | null => exact .null
  | bool value => exact .bool value
  | int value => exact .int value
  | float value => exact .float value
  | str value =>
    apply Trimmed.str
    split
    · exact List.take_prefix _ _
    · exact List.prefix_refl value
  | arr items ih =>
    show Trimmed (.arr items) (.arr ((shapeTrimItems listLimit stringLimit items).take listLimit))
    rw [shapeTrimItems_eq]
    refine .arr (by simp) fun index item child found kept => ?_
    have within := List.mem_of_getElem? found
    rw [List.getElem?_take] at kept
    split at kept
    · rw [List.getElem?_map, found] at kept
      cases kept
      exact ih item within ((itemsKeyed_iff items).mp keyed item within)
    · cases kept
  | obj fields ih =>
    show Trimmed (.obj fields) (.obj (shapeTrimFields listLimit stringLimit fields))
    refine .obj (by rw [keys_shapeTrimFields]) fun key value child member kept => ?_
    rw [shapeTrimFields_eq] at kept
    rw [field_of_map keyed.1 member kept]
    exact ih (key, value) member ((fieldsKeyed_iff fields).mp keyed.2 _ member)

/-- The order of the keys does not matter. -/
theorem Trimmed.sortKeys {value kept : Value F} (trimmed : Trimmed value kept) : Trimmed value (sortKeys kept) := by
  induction trimmed with
  | null => exact .null
  | bool value => exact .bool value
  | int value => exact .int value
  | float value => exact .float value
  | str start => exact .str start
  | @arr items kept shorter _ ih =>
    show Trimmed (.arr items) (.arr (sortItems kept))
    rw [sortItems_eq]
    refine .arr (by simpa using shorter) fun index item child found same => ?_
    rw [List.getElem?_map] at same
    obtain ⟨old, known, rfl⟩ := Option.map_eq_some_iff.mp same
    exact ih index item old found known
  | @obj fields kept keys _ ih =>
    have order := List.mergeSort_perm (sortFields kept) keyLe
    refine .obj ?_ fun key value child member sorted => ?_
    · rw [← keys_sortFields kept] at keys
      exact keys.trans (order.map Prod.fst).symm
    · rw [order.mem_iff, sortFields_eq] at sorted
      obtain ⟨⟨other, old⟩, known, same⟩ := List.mem_map.mp sorted
      cases same
      exact ih _ value old member known

/-! ## Sizes -/

theorem length_le_utf8Encode {t : Text} {bytes : List UInt8} (encoded : utf8Encode t = some bytes) :
    t.length ≤ bytes.length := by
  obtain ⟨characters, read, rfl⟩ := Option.map_eq_some_iff.mp encoded
  rw [← (mapM_character? t characters).mp read, List.length_map]
  clear read encoded
  induction characters with
  | nil => exact Nat.le_refl 0
  | cons first rest ih =>
    have some : 0 < (String.utf8EncodeChar first).length := by
      rw [String.length_utf8EncodeChar]
      exact first.utf8Size_pos
    rw [List.flatMap_cons, List.length_append, List.length_cons]
    omega

namespace ResultCodec

variable (codec : ResultCodec F)

theorem encode_sortKeys (value : Value F) : codec.encode (sortKeys value) = codec.encode value := by
  rw [encode, dumps_sortKeys, encode]

variable {codec}

theorem encode_pos {value : Value F} {encoded : List UInt8} (written : codec.encode value = some encoded) :
    0 < encoded.length := by
  obtain ⟨t, dumped, bytes⟩ := Option.bind_eq_some_iff.mp written
  obtain ⟨c, rest, rfl, -⟩ := write_begins dumped
  have longer := length_le_utf8Encode bytes
  rw [List.length_cons] at longer
  omega

theorem decode_encode {value : Value F} (keyed : Keyed value) {encoded : List UInt8}
    (written : codec.encode value = some encoded) : codec.decode encoded = some (sortKeys value) := by
  obtain ⟨t, dumped, bytes⟩ := Option.bind_eq_some_iff.mp written
  rw [decode, (utf8Decode_eq_some encoded t).mpr bytes]
  exact loads_dumps keyed dumped

theorem Fits.sorted {value : Value F} {maxBytes : Int} (fits : codec.Fits value maxBytes) :
    codec.Fits (sortKeys value) maxBytes := by
  obtain ⟨encoded, written, small⟩ := fits
  exact ⟨encoded, by rw [encode_sortKeys]; exact written, small⟩

theorem Fits.pos {value : Value F} {maxBytes : Int} (fits : codec.Fits value maxBytes) : 1 ≤ maxBytes := by
  obtain ⟨encoded, written, small⟩ := fits
  have some := encode_pos written
  omega

/-- What fits is kept as it is. -/
theorem boundedResult_of_fits {value : Value F} {maxBytes : Int} (keyed : Keyed (candidate value))
    (fits : codec.Fits (candidate value) maxBytes) (preserveShape : Bool) :
    codec.boundedResult value preserveShape maxBytes = some (sortKeys (candidate value)) := by
  obtain ⟨encoded, written, small⟩ := fits
  have within : (encoded.length : Int) ≤ max 1 maxBytes := le_max_of_le_right small
  rw [boundedResult, written]
  simp only [if_pos within]
  exact decode_encode keyed written

theorem attempt_spec {value : Value F} {limit : Int} {limits : Nat × Nat} {trimmed : List UInt8}
    (found : codec.attempt value limit limits = some trimmed) :
    codec.encode (shapeTrimMutationValue limits.1 limits.2 value) = some trimmed ∧ (trimmed.length : Int) ≤ limit := by
  simpa [attempt, Option.filter_eq_some_iff] using found

end ResultCodec

theorem keyed_candidate {value : Value F} (keyed : Keyed value) : Keyed (candidate value) := by
  cases value with
  | obj fields => exact keyed
  | null | bool | int | float | str | arr => exact ⟨by simp, keyed, trivial⟩

theorem keyed_receipt (codec : ResultCodec F) (value : Value F) : Keyed (codec.receipt value) := by
  have outer : text "ok" ≠ text "mutation_result" := by decide
  have first : text "stored" ≠ text "reason" := by decide
  have second : text "stored" ≠ text "original_bytes" := by decide
  have third : text "stored" ≠ text "sha256" := by decide
  have fourth : text "reason" ≠ text "original_bytes" := by decide
  have fifth : text "reason" ≠ text "sha256" := by decide
  have sixth : text "original_bytes" ≠ text "sha256" := by decide
  unfold ResultCodec.receipt
  split <;> simp [notSerializable, ResultCodec.exceeded, Keyed, FieldsKeyed, outer, first, second, third, fourth, fifth, sixth]

theorem depth_receipt (codec : ResultCodec F) (value : Value F) : depth (codec.receipt value) = 2 := by
  unfold ResultCodec.receipt
  split <;> rfl

variable {codec : ResultCodec F}

theorem ResultCodec.Fits.mono {value : Value F} {maxBytes limit : Int} (fits : codec.Fits value maxBytes)
    (larger : maxBytes ≤ limit) : codec.Fits value limit := by
  obtain ⟨encoded, written, small⟩ := fits
  exact ⟨encoded, written, small.trans larger⟩

/-- An object that fits comes back with its keys in order. -/
theorem bounded_again {fields : List (Text × Value F)} {maxBytes limit : Int} (keyed : Keyed (.obj fields))
    (fits : codec.Fits (.obj fields) maxBytes) (larger : maxBytes ≤ limit) (preserveShape : Bool) :
    codec.boundedResult (.obj fields) preserveShape limit = some (sortKeys (.obj fields)) := by
  have object : candidate (.obj fields) = .obj fields := rfl
  rw [← object] at keyed fits
  exact ResultCodec.boundedResult_of_fits keyed (fits.mono larger) preserveShape

/-- The three kinds of results. -/
theorem bounded_cases (codec : ResultCodec F) (preserveShape : Bool) {value : Value F} {maxBytes : Int} (keyed : Keyed value)
    (room : 1 ≤ maxBytes) :
    (codec.Fits (candidate value) maxBytes ∧
      codec.boundedResult value preserveShape maxBytes = some (sortKeys (candidate value))) ∨
    (¬ codec.Fits (candidate value) maxBytes ∧ preserveShape = true ∧ ∃ limits ∈ trimLimits,
      codec.Fits (shapeTrimMutationValue limits.1 limits.2 (candidate value)) maxBytes ∧
      codec.boundedResult value preserveShape maxBytes =
        some (sortKeys (shapeTrimMutationValue limits.1 limits.2 (candidate value)))) ∨
    (¬ codec.Fits (candidate value) maxBytes ∧
      codec.boundedResult value preserveShape maxBytes = some (codec.receipt value)) := by
  have limitSame : max 1 maxBytes = maxBytes := max_eq_right room
  by_cases fits : codec.Fits (candidate value) maxBytes
  · exact Or.inl ⟨fits, ResultCodec.boundedResult_of_fits (keyed_candidate keyed) fits preserveShape⟩
  refine Or.inr ?_
  cases written : codec.encode (candidate value) with
  | none => exact Or.inr ⟨fits, by rw [ResultCodec.boundedResult, ResultCodec.receipt, written]⟩
  | some encoded =>
    have large : ¬ (encoded.length : Int) ≤ max 1 maxBytes := by
      rw [limitSame]
      exact fun small => fits ⟨encoded, written, small⟩
    cases preserveShape with
    | false =>
      refine Or.inr ⟨fits, ?_⟩
      rw [ResultCodec.boundedResult, ResultCodec.receipt, written]
      simp only [if_neg large, Bool.false_eq_true, if_false]
    | true =>
      cases found : trimLimits.findSome? (codec.attempt (candidate value) (max 1 maxBytes)) with
      | none =>
        refine Or.inr ⟨fits, ?_⟩
        rw [ResultCodec.boundedResult, ResultCodec.receipt, written]
        simp only [if_neg large, if_true, found]
      | some trimmed =>
        obtain ⟨limits, member, fitting⟩ := List.exists_of_findSome?_eq_some found
        obtain ⟨shaped, small⟩ := ResultCodec.attempt_spec fitting
        rw [limitSame] at small
        refine Or.inl ⟨fits, rfl, limits, member, ⟨trimmed, shaped, small⟩, ?_⟩
        rw [ResultCodec.boundedResult, written]
        simp only [if_neg large, if_true, found]
        exact ResultCodec.decode_encode (Keyed.shapeTrim (keyed_candidate keyed) limits.1 limits.2) shaped

theorem sortKeys_candidate (value : Value F) : ∃ fields, sortKeys (candidate value) = .obj fields := by
  cases value <;> exact ⟨_, rfl⟩

theorem sortKeys_shapeTrim_candidate (listLimit stringLimit : Nat) (value : Value F) :
    ∃ fields, sortKeys (shapeTrimMutationValue listLimit stringLimit (candidate value)) = .obj fields := by
  cases value <;> exact ⟨_, rfl⟩

theorem receipt_fields (codec : ResultCodec F) (value : Value F) : ∃ fields, codec.receipt value = .obj fields := by
  unfold ResultCodec.receipt
  split <;> exact ⟨_, rfl⟩

/-- On a stack without end a result is an object within the limit. What fits is kept whole, a result that keeps its
shape is cut from the value or is the receipt, and nothing is nested deeper than the value or the receipt. -/
theorem boundedResult_spec (codec : ResultCodec F) (value : Value F) (preserveShape : Bool) (maxBytes : Int)
    (keyed : Keyed value) (room : codec.Fits (codec.receipt value) maxBytes) :
    ∃ fields, codec.boundedResult value preserveShape maxBytes = some (.obj fields) ∧ Keyed (.obj fields) ∧
      codec.Fits (.obj fields) maxBytes ∧
      (codec.Fits (candidate value) maxBytes → .obj fields = sortKeys (candidate value)) ∧
      (preserveShape = true → .obj fields = codec.receipt value ∨ Trimmed (candidate value) (.obj fields)) ∧
      depth (.obj fields) ≤ max 2 (depth (candidate value)) := by
  rcases bounded_cases codec preserveShape keyed room.pos with
    ⟨fits, result⟩ | ⟨unfit, preserves, limits, -, fits, result⟩ | ⟨unfit, result⟩
  · obtain ⟨fields, object⟩ := sortKeys_candidate value
    have sortedKeyed := (keyed_candidate keyed).sortKeys
    have sortedFits := fits.sorted
    have trimmed := (trimmed_self (keyed_candidate keyed)).sortKeys
    have level := depth_sortKeys (candidate value)
    rw [object] at result sortedKeyed sortedFits trimmed level
    exact ⟨fields, result, sortedKeyed, sortedFits, fun _ => object.symm, fun _ => Or.inr trimmed,
      level.trans_le (le_max_right _ _)⟩
  · obtain ⟨fields, object⟩ := sortKeys_shapeTrim_candidate limits.1 limits.2 value
    have sortedKeyed := (Keyed.shapeTrim (keyed_candidate keyed) limits.1 limits.2).sortKeys
    have sortedFits := fits.sorted
    have trimmed := (trimmed_shapeTrim (keyed_candidate keyed) limits.1 limits.2).sortKeys
    have level := (depth_sortKeys _).trans_le (depth_shapeTrim limits.1 limits.2 (candidate value))
    rw [object] at result sortedKeyed sortedFits trimmed level
    exact ⟨fields, result, sortedKeyed, sortedFits, fun fits => absurd fits unfit, fun _ => Or.inr trimmed,
      level.trans (le_max_right _ _)⟩
  · obtain ⟨fields, object⟩ := receipt_fields codec value
    have keyedReceipt := keyed_receipt codec value
    have level := depth_receipt codec value
    rw [object] at result keyedReceipt room level
    exact ⟨fields, result, keyedReceipt, room, fun fits => absurd fits unfit, fun _ => Or.inl object.symm,
      level.trans_le (le_max_left _ _)⟩

end MarketSentinel.Journal

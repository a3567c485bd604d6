import Mathlib.Data.List.Sort
import MarketSentinel.Library.Decimal
import MarketSentinel.Library.Dict

/-! JSON documents as texts: the compact writer that keeps characters as they are, and the reader.

The reader gives back what was written. Floats are written and read by the runtime, and the
constants of floats that are not numbers are left out.
-/

set_option autoImplicit false

namespace JsonText

open Python

variable {F : Type}

inductive Value (F : Type) where
  | null
  | bool (value : Bool)
  | int (value : Int)
  | float (value : F)
  | str (value : Text)
  | arr (items : List (Value F))
  | obj (fields : List (Text × Value F))

/-- Induction over the items and fields of documents. -/
@[elab_as_elim] theorem Value.induct {motive : Value F → Prop} (null : motive .null) (bool : ∀ value, motive (.bool value))
    (int : ∀ value, motive (.int value)) (float : ∀ value, motive (.float value)) (str : ∀ value, motive (.str value))
    (arr : ∀ items, (∀ item ∈ items, motive item) → motive (.arr items))
    (obj : ∀ fields, (∀ field ∈ fields, motive field.2) → motive (.obj fields)) : ∀ value, motive value
  | .null => null
  | .bool value => bool value
  | .int value => int value
  | .float value => float value
  | .str value => str value
  | .arr items => arr items fun item _ => Value.induct null bool int float str arr obj item
  | .obj fields => obj fields fun field _ => Value.induct null bool int float str arr obj field.2
termination_by value => sizeOf value
decreasing_by
  · have smaller := List.sizeOf_lt_of_mem ‹item ∈ items›
    simp only [Value.arr.sizeOf_spec]
    omega
  · have smaller := List.sizeOf_lt_of_mem ‹field ∈ fields›
    cases field
    simp only [Value.obj.sizeOf_spec, Prod.mk.sizeOf_spec] at smaller ⊢
    omega

/-! ## Numbers -/

/-- The code points of the tokens of numbers. -/
def numberPoint (c : CodePoint) : Bool := isDigit c || c == 43 || c == 45 || c == 46 || c == 69 || c == 101

def digits (t : Text) : Bool := !t.isEmpty && t.all isDigit

/-- Digits without a zero in front. -/
def whole (t : Text) : Bool := t == [48] || digits t && t.head? != some 48

def unsigned (t : Text) : Text := if t.head? = some 45 then t.tail else t

def exponentPart (t : Text) : Bool :=
  match t with
  | [] => true
  | mark :: rest =>
    (mark == 69 || mark == 101) && digits (if rest.head? = some 43 ∨ rest.head? = some 45 then rest.tail else rest)

/-- What follows the whole part of a float. -/
def floatPart (t : Text) : Bool :=
  match t with
  | [] => false
  | 46 :: rest => digits (rest.takeWhile isDigit) && exponentPart (rest.dropWhile isDigit)
  | t => exponentPart t

def floatToken (t : Text) : Bool :=
  t.all numberPoint && whole ((unsigned t).takeWhile isDigit) && floatPart ((unsigned t).dropWhile isDigit)

structure FloatText (F : Type) where
  /-- `float.__repr__`; nothing for infinities and for what is not a number. -/
  repr : F → Option Text
  /-- `float(token)`. -/
  read : Text → Option F
  floatToken_repr : ∀ {value t}, repr value = some t → floatToken t = true
  read_repr : ∀ {value t}, repr value = some t → read t = some value

/-- `sys.get_int_max_str_digits()`. -/
def maxStrDigits : Nat := 4300

def integer (t : Text) : Option Int :=
  if (unsigned t).length ≤ maxStrDigits then
    some (if t.head? = some 45 then -(digitsValue (unsigned t) : Int) else digitsValue (unsigned t))
  else none

def number (floats : FloatText F) (token : Text) : Option (Value F) :=
  if whole (unsigned token) then (integer token).map .int
  else if floatToken token then (floats.read token).map .float
  else none

/-! ## Strings -/

def hexPoint (n : Nat) : CodePoint := Fin.ofNat 0x110000 (if n < 10 then 48 + n else 87 + n)

/-- `ESCAPE_DCT`, with `'\\u{0:04x}'` for the other control characters. -/
def escape (c : CodePoint) : Text :=
  if c.val = 34 then [92, 34]
  else if c.val = 92 then [92, 92]
  else if c.val = 10 then [92, 110]
  else if c.val = 13 then [92, 114]
  else if c.val = 9 then [92, 116]
  else if c.val = 12 then [92, 102]
  else if c.val = 8 then [92, 98]
  else if c.val < 32 then [92, 117, 48, 48, hexPoint (c.val / 16), hexPoint (c.val % 16)]
  else [c]

def quote (t : Text) : Text := 34 :: (t.flatMap escape ++ [34])

def hexValue (c : CodePoint) : Option Nat :=
  if 48 ≤ c.val ∧ c.val ≤ 57 then some (c.val - 48)
  else if 65 ≤ c.val ∧ c.val ≤ 70 then some (c.val - 55)
  else if 97 ≤ c.val ∧ c.val ≤ 102 then some (c.val - 87)
  else none

/-- `_decode_uXXXX`. -/
def hexUnit : Text → Option (Nat × Text)
  | a :: b :: c :: d :: rest => do
    let a ← hexValue a
    let b ← hexValue b
    let c ← hexValue c
    let d ← hexValue d
    return (a * 4096 + b * 256 + c * 16 + d, rest)
  | _ => none

/-- A high surrogate takes the low one that is escaped after it. -/
def unicodeEscape (t : Text) : Option (CodePoint × Text) := do
  let (first, rest) ← hexUnit t
  let alone := (Fin.ofNat 0x110000 first, rest)
  match rest with
  | 92 :: 117 :: after =>
    if 0xd800 ≤ first ∧ first ≤ 0xdbff then
      let (second, last) ← hexUnit after
      if 0xdc00 ≤ second ∧ second ≤ 0xdfff then
        return (Fin.ofNat 0x110000 (0x10000 + (first - 0xd800) * 0x400 + (second - 0xdc00)), last)
      else return alone
    else return alone
  | _ => return alone

/-- One character of a string that does not end here. -/
def readPoint : Text → Option (CodePoint × Text)
  | 92 :: kind :: rest =>
    match kind.val with
    | 34 => some (34, rest)
    | 92 => some (92, rest)
    | 47 => some (47, rest)
    | 98 => some (8, rest)
    | 102 => some (12, rest)
    | 110 => some (10, rest)
    | 114 => some (13, rest)
    | 116 => some (9, rest)
    | 117 => unicodeEscape rest
    | _ => none
  | c :: rest => if c.val < 32 ∨ c = 92 then none else some (c, rest)
  | [] => none

/-- `scanstring` after the opening quotation mark. -/
def scanString : Nat → Text → Option (Text × Text)
  | 0, _ => none
  | fuel + 1, t =>
    if t.head? = some 34 then some ([], t.tail)
    else do
      let (first, rest) ← readPoint t
      let (others, rest) ← scanString fuel rest
      return (first :: others, rest)

def readString (t : Text) : Option (Text × Text) := scanString (t.length + 1) t

/-! ## Documents -/

def blank (c : CodePoint) : Bool := c == 32 || c == 9 || c == 10 || c == 13

def skip (t : Text) : Text := t.dropWhile blank

def literals (F : Type) : List (Text × Value F) :=
  [(text "null", .null), (text "true", .bool true), (text "false", .bool false)]

/-- A dictionary of pairs: the last value of a key, in the place of its first one. -/
def fromPairs (pairs : List (Text × Value F)) : List (Text × Value F) :=
  pairs.foldl (fun fields pair => Dict.set fields pair.1 pair.2) []

mutual

/-- `scan_once`. -/
def scanOnce (floats : FloatText F) : Nat → Text → Option (Value F × Text)
  | 0, _ => none
  | fuel + 1, t =>
    match t with
    | 34 :: rest => (readString rest).map fun (value, rest) => (.str value, rest)
    | 91 :: rest =>
      if (skip rest).head? = some 93 then some (.arr [], (skip rest).tail)
      else (scanItems floats fuel (skip rest)).map fun (items, rest) => (.arr items, rest)
    | 123 :: rest =>
      if (skip rest).head? = some 125 then some (.obj [], (skip rest).tail)
      else (scanPairs floats fuel (skip rest)).map fun (pairs, rest) => (.obj (fromPairs pairs), rest)
    | t =>
      match (literals F).find? fun literal => literal.1.isPrefixOf t with
      | some literal => some (literal.2, t.drop literal.1.length)
      | none => (number floats (t.takeWhile numberPoint)).map fun value => (value, t.dropWhile numberPoint)

def scanItems (floats : FloatText F) : Nat → Text → Option (List (Value F) × Text)
  | 0, _ => none
  | fuel + 1, t => do
    let (first, rest) ← scanOnce floats fuel t
    match skip rest with
    | 93 :: rest => return ([first], rest)
    | 44 :: rest =>
      let (others, rest) ← scanItems floats fuel (skip rest)
      return (first :: others, rest)
    | _ => none

def scanPairs (floats : FloatText F) : Nat → Text → Option (List (Text × Value F) × Text)
  | 0, _ => none
  | fuel + 1, t =>
    match t with
    | 34 :: t => do
      let (key, rest) ← readString t
      match skip rest with
      | 58 :: rest =>
        let (value, rest) ← scanOnce floats fuel (skip rest)
        match skip rest with
        | 125 :: rest => return ([(key, value)], rest)
        | 44 :: rest =>
          let (others, rest) ← scanPairs floats fuel (skip rest)
          return ((key, value) :: others, rest)
        | _ => none
      | _ => none
    | _ => none

end

/-- `json.loads`. -/
def loads (floats : FloatText F) (t : Text) : Option (Value F) := do
  let (value, rest) ← scanOnce floats (t.length + 1) (skip t)
  if skip rest = [] then return value else none

mutual

/-- The compact text of a document with its keys in order, without infinities and what is not a number. -/
def write (floats : FloatText F) : Value F → Option Text
  | .null => some (text "null")
  | .bool value => some (if value then text "true" else text "false")
  | .int value => if (natText value.natAbs).length ≤ maxStrDigits then some (intText value) else none
  | .float value => floats.repr value
  | .str value => some (quote value)
  | .arr items => (writeItems floats items).map fun parts => 91 :: (List.intercalate [44] parts ++ [93])
  | .obj fields => (writeFields floats fields).map fun parts => 123 :: (List.intercalate [44] parts ++ [125])

def writeItems (floats : FloatText F) : List (Value F) → Option (List Text)
  | [] => some []
  | item :: rest => do
    let first ← write floats item
    let others ← writeItems floats rest
    return first :: others

def writeFields (floats : FloatText F) : List (Text × Value F) → Option (List Text)
  | [] => some []
  | (key, value) :: rest => do
    let first ← write floats value
    let others ← writeFields floats rest
    return (quote key ++ 58 :: first) :: others

end

/-- Two fields with their keys in order. -/
def keyLe (first second : Text × Value F) : Bool := decide (first.1 ≤ second.1)

mutual

/-- The document with the keys of each object in order. -/
def sortKeys : Value F → Value F
  | .arr items => .arr (sortItems items)
  | .obj fields => .obj ((sortFields fields).mergeSort keyLe)
  | .null => .null
  | .bool value => .bool value
  | .int value => .int value
  | .float value => .float value
  | .str value => .str value

def sortItems : List (Value F) → List (Value F)
  | [] => []
  | item :: rest => sortKeys item :: sortItems rest

def sortFields : List (Text × Value F) → List (Text × Value F)
  | [] => []
  | (key, value) :: rest => (key, sortKeys value) :: sortFields rest

end

/-- `json.dumps(value, allow_nan=False, ensure_ascii=False, separators=(",", ":"), sort_keys=True)`. -/
def dumps (floats : FloatText F) (value : Value F) : Option Text := write floats (sortKeys value)

mutual

/-- Every object has each of its keys once, as a dictionary does. -/
def Keyed : Value F → Prop
  | .arr items => ItemsKeyed items
  | .obj fields => (fields.map Prod.fst).Nodup ∧ FieldsKeyed fields
  | _ => True

def ItemsKeyed : List (Value F) → Prop
  | [] => True
  | item :: rest => Keyed item ∧ ItemsKeyed rest

def FieldsKeyed : List (Text × Value F) → Prop
  | [] => True
  | (_, value) :: rest => Keyed value ∧ FieldsKeyed rest

end

/-! ## What the reader does on what was written -/

theorem hexValue_hexPoint {n : Nat} (small : n < 16) : hexValue (hexPoint n) = some n := by
  unfold hexValue hexPoint
  by_cases decimal : n < 10
  · have value : (Fin.ofNat 0x110000 (48 + n)).val = 48 + n := by
      simp only [Fin.ofNat]
      omega
    rw [if_pos decimal, value, if_pos (by omega)]
    simp
  · have value : (Fin.ofNat 0x110000 (87 + n)).val = 87 + n := by
      simp only [Fin.ofNat]
      omega
    rw [if_neg decimal, value, if_neg (by omega), if_neg (by omega), if_pos (by omega)]
    simp

theorem escape_head (c : CodePoint) (rest : Text) : (escape c ++ rest).head? ≠ some 34 := by
  unfold escape
  split_ifs with mark
  all_goals try exact fun same => absurd (Option.some.inj same) (by decide)
  intro same
  exact mark (congrArg Fin.val (Option.some.inj same))

theorem readPoint_escape (c : CodePoint) (rest : Text) : readPoint (escape c ++ rest) = some (c, rest) := by
  unfold escape
  split_ifs with mark backslash newline carriage tab feed back control
  · rw [show c = 34 from Fin.ext mark]
    rfl
  · rw [show c = 92 from Fin.ext backslash]
    rfl
  · rw [show c = 10 from Fin.ext newline]
    rfl
  · rw [show c = 13 from Fin.ext carriage]
    rfl
  · rw [show c = 9 from Fin.ext tab]
    rfl
  · rw [show c = 12 from Fin.ext feed]
    rfl
  · rw [show c = 8 from Fin.ext back]
    rfl
  · -- two hexadecimal digits give the control character back, which is no surrogate
    have high := hexValue_hexPoint (n := c.val / 16) (by omega)
    have low := hexValue_hexPoint (n := c.val % 16) (by omega)
    have zero : hexValue 48 = some 0 := by decide
    have unit : hexUnit (48 :: 48 :: hexPoint (c.val / 16) :: hexPoint (c.val % 16) :: rest) = some (c.val, rest) := by
      simp only [hexUnit, zero, high, low, Option.bind_eq_bind, Option.bind_some, Option.pure_def, Option.some.injEq,
        Prod.mk.injEq, and_true]
      omega
    have point : Fin.ofNat 0x110000 c.val = c := by
      apply Fin.ext
      simp only [Fin.ofNat]
      exact Nat.mod_eq_of_lt c.isLt
    have escaped : unicodeEscape (48 :: 48 :: hexPoint (c.val / 16) :: hexPoint (c.val % 16) :: rest) = some (c, rest) := by
      unfold unicodeEscape
      rw [unit]
      simp only [Option.bind_eq_bind, Option.bind_some, point]
      split
      · rw [if_neg (by omega)]
        rfl
      · rfl
    exact escaped
  · have other : c ≠ 92 := fun same => backslash (congrArg Fin.val same)
    rw [List.singleton_append]
    unfold readPoint
    split
    · rename_i same
      exact absurd (List.cons.inj same).1 other
    · rename_i same
      obtain ⟨rfl, rfl⟩ := List.cons.inj same
      rw [if_neg (not_or.mpr ⟨control, other⟩)]
    · rename_i none
      cases none

theorem escape_ne_nil (c : CodePoint) : escape c ≠ [] := by
  unfold escape
  split_ifs <;> exact List.cons_ne_nil _ _

theorem length_le_flatMap_escape (t : Text) : t.length ≤ (t.flatMap escape).length := by
  induction t with
  | nil => exact Nat.le_refl 0
  | cons c rest ih =>
    have some := List.length_pos_iff.mpr (escape_ne_nil c)
    rw [List.flatMap_cons, List.length_append, List.length_cons]
    omega

theorem scanString_flatMap (t rest : Text) : ∀ fuel, t.length < fuel →
    scanString fuel (t.flatMap escape ++ 34 :: rest) = some (t, rest) := by
  induction t with
  | nil =>
    intro fuel enough
    obtain ⟨fuel, rfl⟩ := Nat.exists_eq_succ_of_ne_zero (Nat.ne_of_gt enough)
    rfl
  | cons c t ih =>
    intro fuel enough
    obtain ⟨fuel, rfl⟩ := Nat.exists_eq_succ_of_ne_zero (Nat.ne_zero_of_lt enough)
    rw [List.flatMap_cons, List.append_assoc, scanString, if_neg (escape_head c _), readPoint_escape]
    simp only [Option.bind_eq_bind, Option.bind_some]
    rw [ih fuel (by simpa using enough)]
    rfl

theorem readString_quote (t rest : Text) : readString (t.flatMap escape ++ 34 :: rest) = some (t, rest) := by
  apply scanString_flatMap
  have longer := length_le_flatMap_escape t
  rw [List.length_append]
  omega

/-- A number ends here. -/
def Ends (rest : Text) : Prop := ∀ c, rest.head? = some c → numberPoint c = false

theorem takeWhile_numberPoint {token rest : Text} (points : token.all numberPoint = true) (ends : Ends rest) :
    (token ++ rest).takeWhile numberPoint = token ∧ (token ++ rest).dropWhile numberPoint = rest := by
  have inside := List.all_eq_true.mp points
  rw [List.takeWhile_append_of_pos inside, List.dropWhile_append_of_pos inside]
  cases rest with
  | nil => exact ⟨List.append_nil _, rfl⟩
  | cons c rest =>
    have outside := ends c rfl
    rw [List.takeWhile_cons_of_neg (by simp [outside]), List.dropWhile_cons_of_neg (by simp [outside])]
    exact ⟨List.append_nil _, rfl⟩

theorem fromPairs_eq {pairs : List (Text × Value F)} (unique : (pairs.map Prod.fst).Nodup) : fromPairs pairs = pairs := by
  induction pairs using List.reverseRecOn with
  | nil => rfl
  | append_singleton pairs pair ih =>
    rw [List.map_append, List.nodup_append] at unique
    obtain ⟨earlier, -, apart⟩ := unique
    have new : pair.1 ∉ pairs.map Prod.fst := fun member => apart _ member _ (by simp) rfl
    have before : pairs.foldl (fun fields pair => Dict.set fields pair.1 pair.2) [] = pairs := ih earlier
    rw [fromPairs, List.foldl_append, before]
    exact Dict.set_of_notMem new _

/-- The head of a number. -/
def numberHead (c : CodePoint) : Bool := isDigit c || c == 45

theorem scanOnce_number {floats : FloatText F} {token rest : Text} {value : Value F} (fuel : Nat)
    (head : ∃ c, token.head? = some c ∧ numberHead c = true) (points : token.all numberPoint = true)
    (ends : Ends rest) (reads : number floats token = some value) :
    scanOnce floats (fuel + 1) (token ++ rest) = some (value, rest) := by
  obtain ⟨c, first, head⟩ := head
  obtain ⟨tail, rfl⟩ : ∃ tail, token = c :: tail := by
    cases token with
    | nil => cases first
    | cons d tail =>
      cases first
      exact ⟨tail, rfl⟩
  obtain ⟨taken, dropped⟩ := takeWhile_numberPoint points ends
  have unliteral : (literals F).find? (fun literal => literal.1.isPrefixOf (c :: tail ++ rest)) = none := by
    apply List.find?_eq_none.mpr
    intro literal member isPrefix
    obtain ⟨_, same⟩ := List.isPrefixOf_iff_prefix.mp isPrefix
    have heads := congrArg List.head? same
    simp only [literals, List.mem_cons, List.not_mem_nil, or_false] at member
    rcases member with rfl | rfl | rfl
    · cases heads
      revert head
      decide
    · cases heads
      revert head
      decide
    · cases heads
      revert head
      decide
  have other : ∀ mark : CodePoint, numberHead mark = false → ∀ after, c :: tail ++ rest = mark :: after → False := by
    intro mark outside after same
    cases (List.cons.inj same).1
    rw [head] at outside
    cases outside
  rw [scanOnce]
  · rw [unliteral, taken, dropped, reads]
    rfl
  · exact other 34 rfl
  · exact other 91 rfl
  · exact other 123 rfl

theorem isDigit_of_whole {t : Text} (wholes : whole t = true) : t.all isDigit = true ∧
    ∃ c, t.head? = some c ∧ isDigit c = true := by
  have digit : t ≠ [] ∧ t.all isDigit = true := by
    simp only [whole, Bool.or_eq_true, Bool.and_eq_true] at wholes
    rcases wholes with zero | ⟨some, -⟩
    · rw [eq_of_beq zero]
      decide
    · simpa [digits] using some
  refine ⟨digit.2, ?_⟩
  cases t with
  | nil => exact absurd rfl digit.1
  | cons c rest => exact ⟨c, rfl, (Bool.and_eq_true _ _ ▸ digit.2 : _ ∧ _).1⟩

theorem whole_natText (n : Nat) : whole (natText n) = true := by
  by_cases zero : n = 0
  · rw [zero]
    decide
  · have digit := isDigit_natText n
    have some := natText_ne_nil n
    have spelled : natText n = (Nat.digits 10 n).reverse.map digitPoint := by rw [natText, if_neg zero]
    have nonempty : Nat.digits 10 n ≠ [] := Nat.digits_ne_nil_iff_ne_zero.mpr zero
    have last := Nat.getLast_digit_ne_zero 10 zero
    have small : (Nat.digits 10 n).getLast nonempty < 10 := Nat.digits_lt_base (by norm_num) (List.getLast_mem nonempty)
    have head : (natText n).head? ≠ Option.some 48 := by
      rw [spelled, List.head?_map, List.head?_reverse, List.getLast?_eq_getLast_of_ne_nil nonempty]
      intro zeroFirst
      have value := congrArg Fin.val (Option.some.inj zeroFirst)
      rw [digitPoint_val small] at value
      have fortyEight : (48 : CodePoint).val = 48 := rfl
      omega
    have all : (natText n).all isDigit = true := List.all_eq_true.mpr digit
    have nonblank : (natText n).isEmpty = false := by simp [some]
    simp [whole, digits, all, nonblank, head]

theorem numberPoint_of_isDigit {c : CodePoint} (digit : isDigit c = true) : numberPoint c = true := by
  simp [numberPoint, digit]

theorem natText_head (n : Nat) : ∃ c, (natText n).head? = some c ∧ isDigit c = true := by
  cases digits : natText n with
  | nil => exact absurd digits (natText_ne_nil n)
  | cons c rest => exact ⟨c, rfl, isDigit_natText n c (by rw [digits]; exact List.mem_cons_self)⟩

theorem unsigned_natText (n : Nat) : unsigned (natText n) = natText n ∧ (natText n).head? ≠ some 45 := by
  obtain ⟨c, head, digit⟩ := natText_head n
  have other : (natText n).head? ≠ some 45 := by
    rw [head]
    intro same
    cases same
    revert digit
    decide
  exact ⟨if_neg other, other⟩

theorem number_intText {floats : FloatText F} {value : Int} (short : (natText value.natAbs).length ≤ maxStrDigits) :
    number floats (intText value) = some (.int value) := by
  cases value with
  | ofNat n =>
    obtain ⟨same, other⟩ := unsigned_natText n
    replace short : (natText n).length ≤ maxStrDigits := short
    show number floats (natText n) = _
    rw [number, same, if_pos (whole_natText n), integer, same, if_pos short, if_neg other, digitsValue_natText]
    rfl
  | negSucc n =>
    show number floats (45 :: natText (n + 1)) = _
    have same : unsigned (45 :: natText (n + 1)) = natText (n + 1) := rfl
    replace short : (natText (n + 1)).length ≤ maxStrDigits := short
    rw [number, same, if_pos (whole_natText _), integer, same, if_pos short, List.head?_cons, if_pos rfl,
      digitsValue_natText]
    rfl

theorem intText_points (value : Int) : (intText value).all numberPoint = true ∧
    ∃ c, (intText value).head? = some c ∧ numberHead c = true := by
  have points : ∀ n, (natText n).all numberPoint = true := fun n =>
    List.all_eq_true.mpr fun c member => numberPoint_of_isDigit (isDigit_natText n c member)
  cases value with
  | ofNat n =>
    obtain ⟨c, head, digit⟩ := natText_head n
    exact ⟨points n, c, head, by simp [numberHead, digit]⟩
  | negSucc n =>
    refine ⟨?_, 45, rfl, rfl⟩
    show (45 :: natText (n + 1)).all numberPoint = true
    rw [List.all_cons, points]
    rfl

theorem floatToken_points {token : Text} (spelled : floatToken token = true) : token.all numberPoint = true ∧
    whole (unsigned token) = false ∧ ∃ c, token.head? = some c ∧ numberHead c = true := by
  simp only [floatToken, Bool.and_eq_true] at spelled
  obtain ⟨⟨points, wholes⟩, fraction⟩ := spelled
  obtain ⟨-, c, head, digit⟩ := isDigit_of_whole wholes
  have first : (unsigned token).head? = some c := by
    cases spelled : unsigned token with
    | nil =>
      rw [spelled] at head
      cases head
    | cons d rest =>
      rw [spelled, List.takeWhile_cons] at head
      split at head
      · exact head
      · cases head
  refine ⟨points, ?_, ?_⟩
  · apply Bool.eq_false_of_not_eq_true
    intro all
    have none : (unsigned token).dropWhile isDigit = [] :=
      List.dropWhile_eq_nil_iff.mpr (List.all_eq_true.mp (isDigit_of_whole all).1)
    rw [none] at fraction
    cases fraction
  · by_cases negative : token.head? = some 45
    · exact ⟨45, negative, rfl⟩
    · rw [unsigned, if_neg negative] at first
      exact ⟨c, first, by simp [numberHead, digit]⟩

theorem ends_nil : Ends [] := nofun

theorem ends_cons {c : CodePoint} (outside : numberPoint c = false) (rest : Text) : Ends (c :: rest) := by
  intro d head
  cases head
  exact outside

theorem skip_cons {c : CodePoint} (solid : blank c = false) (rest : Text) : skip (c :: rest) = c :: rest :=
  List.dropWhile_cons_of_neg (by simp [solid])

/-- The texts of documents begin with no blank and do not end a list. -/
def Begins (t : Text) : Prop := ∃ c rest, t = c :: rest ∧ blank c = false ∧ c ≠ 93 ∧ c ≠ 125

theorem blank_of_numberHead {c : CodePoint} (head : numberHead c = true) : blank c = false := by
  simp only [numberHead, isDigit, blank, Bool.or_eq_true, Bool.and_eq_true, decide_eq_true_eq, beq_iff_eq,
    Bool.or_eq_false_iff, beq_eq_false_iff_ne] at head ⊢
  refine ⟨⟨⟨?_, ?_⟩, ?_⟩, ?_⟩ <;> rintro rfl <;> revert head <;> decide

theorem write_begins {floats : FloatText F} {value : Value F} {t : Text} (written : write floats value = some t) :
    Begins t := by
  have numeric : ∀ {token : Text}, (∃ c, token.head? = some c ∧ numberHead c = true) → Begins token := by
    intro token ⟨c, head, numeric⟩
    cases token with
    | nil => cases head
    | cons d rest =>
      cases head
      refine ⟨c, rest, rfl, ?_, ?_, ?_⟩
      · exact blank_of_numberHead numeric
      · rintro rfl
        revert numeric
        decide
      · rintro rfl
        revert numeric
        decide
  cases value with
  | null =>
    cases written
    exact ⟨_, _, rfl, by decide, by decide, by decide⟩
  | bool value => cases value <;> cases written <;> exact ⟨_, _, rfl, by decide, by decide, by decide⟩
  | int value =>
    rw [write] at written
    split at written
    · cases written
      exact numeric (intText_points value).2
    · cases written
  | float value => exact numeric (floatToken_points (floats.floatToken_repr written)).2.2
  | str value =>
    cases written
    exact ⟨_, _, rfl, by decide, by decide, by decide⟩
  | arr items =>
    obtain ⟨parts, -, rfl⟩ := Option.map_eq_some_iff.mp written
    exact ⟨_, _, rfl, by decide, by decide, by decide⟩
  | obj fields =>
    obtain ⟨parts, -, rfl⟩ := Option.map_eq_some_iff.mp written
    exact ⟨_, _, rfl, by decide, by decide, by decide⟩

theorem Begins.append {t : Text} (begins : Begins t) (rest : Text) : skip (t ++ rest) = t ++ rest ∧
    (t ++ rest).head? ≠ some 93 ∧ (t ++ rest).head? ≠ some 125 := by
  obtain ⟨c, tail, rfl, solid, noBracket, noBrace⟩ := begins
  exact ⟨skip_cons solid _, fun same => noBracket (Option.some.inj same), fun same => noBrace (Option.some.inj same)⟩

theorem intercalate_single (first : Text) : List.intercalate [44] [first] = first := by simp [List.intercalate]

theorem intercalate_cons (first second : Text) (others : List Text) :
    List.intercalate [44] (first :: second :: others) = first ++ 44 :: List.intercalate [44] (second :: others) := by
  simp [List.intercalate]

theorem Begins.intercalate {first : Text} (begins : Begins first) (others : List Text) :
    Begins (List.intercalate [44] (first :: others)) := by
  cases others with
  | nil =>
    rw [intercalate_single]
    exact begins
  | cons second others =>
    obtain ⟨c, tail, rfl, rest⟩ := begins
    rw [intercalate_cons]
    exact ⟨c, _, rfl, rest⟩

mutual

/-- The reader gives back a document that was written, with whatever stands after it. -/
theorem scanOnce_write (floats : FloatText F) : (value : Value F) → Keyed value → ∀ {t : Text},
    write floats value = some t → ∀ fuel rest, t.length < fuel → Ends rest →
      scanOnce floats fuel (t ++ rest) = some (value, rest)
  | .null, _, t, written, fuel, rest, enough, _ => by
    obtain ⟨fuel, rfl⟩ := Nat.exists_eq_succ_of_ne_zero (Nat.ne_zero_of_lt enough)
    cases written
    rfl
  | .bool value, _, t, written, fuel, rest, enough, _ => by
    obtain ⟨fuel, rfl⟩ := Nat.exists_eq_succ_of_ne_zero (Nat.ne_zero_of_lt enough)
    cases value <;> cases written <;> rfl
  | .int value, _, t, written, fuel, rest, enough, ends => by
    obtain ⟨fuel, rfl⟩ := Nat.exists_eq_succ_of_ne_zero (Nat.ne_zero_of_lt enough)
    rw [write] at written
    split at written
    · rename_i short
      cases written
      obtain ⟨points, head⟩ := intText_points value
      exact scanOnce_number fuel head points ends (number_intText short)
    · cases written
  | .float value, _, t, written, fuel, rest, enough, ends => by
    obtain ⟨fuel, rfl⟩ := Nat.exists_eq_succ_of_ne_zero (Nat.ne_zero_of_lt enough)
    have spelled := floats.floatToken_repr written
    obtain ⟨points, broken, head⟩ := floatToken_points spelled
    apply scanOnce_number fuel head points ends
    rw [number, broken, if_neg (by simp), if_pos spelled, floats.read_repr written]
    rfl
  | .str value, _, t, written, fuel, rest, enough, _ => by
    obtain ⟨fuel, rfl⟩ := Nat.exists_eq_succ_of_ne_zero (Nat.ne_zero_of_lt enough)
    cases written
    show (readString ((value.flatMap escape ++ [34]) ++ rest)).map _ = _
    rw [List.append_assoc, List.singleton_append, readString_quote]
    rfl
  | .arr [], _, t, written, fuel, rest, enough, _ => by
    obtain ⟨fuel, rfl⟩ := Nat.exists_eq_succ_of_ne_zero (Nat.ne_zero_of_lt enough)
    cases written
    rfl
  | .arr (item :: items), keyed, t, written, fuel, rest, enough, _ => by
    obtain ⟨fuel, rfl⟩ := Nat.exists_eq_succ_of_ne_zero (Nat.ne_zero_of_lt enough)
    obtain ⟨parts, writtenParts, rfl⟩ := Option.map_eq_some_iff.mp written
    have inner := scanItems_write floats item items keyed writtenParts fuel rest (by simp at enough; omega)
    obtain ⟨first, writtenFirst, writtenRest⟩ := Option.bind_eq_some_iff.mp writtenParts
    obtain ⟨others, -, same⟩ := Option.bind_eq_some_iff.mp writtenRest
    cases same
    obtain ⟨solid, noBracket, -⟩ := ((write_begins writtenFirst).intercalate others).append (93 :: rest)
    rw [List.cons_append, List.append_assoc, List.singleton_append, scanOnce, solid, if_neg noBracket, inner]
    rfl
  | .obj [], _, t, written, fuel, rest, enough, _ => by
    obtain ⟨fuel, rfl⟩ := Nat.exists_eq_succ_of_ne_zero (Nat.ne_zero_of_lt enough)
    cases written
    rfl
  | .obj ((key, value) :: fields), keyed, t, written, fuel, rest, enough, ends => by
    obtain ⟨fuel, rfl⟩ := Nat.exists_eq_succ_of_ne_zero (Nat.ne_zero_of_lt enough)
    obtain ⟨parts, writtenParts, rfl⟩ := Option.map_eq_some_iff.mp written
    have inner := scanPairs_write floats key value fields keyed.2 writtenParts fuel rest (by simp at enough; omega)
    obtain ⟨first, writtenFirst, writtenRest⟩ := Option.bind_eq_some_iff.mp writtenParts
    obtain ⟨others, -, same⟩ := Option.bind_eq_some_iff.mp writtenRest
    cases same
    have begins : Begins (quote key ++ 58 :: first) := ⟨34, _, rfl, by decide, by decide, by decide⟩
    obtain ⟨solid, -, noBrace⟩ := (begins.intercalate others).append (125 :: rest)
    rw [List.cons_append, List.append_assoc, List.singleton_append, scanOnce, solid, if_neg noBrace, inner]
    simp only [Option.map_some, fromPairs_eq keyed.1]
termination_by value => sizeOf value

theorem scanItems_write (floats : FloatText F) : (item : Value F) → (items : List (Value F)) → ItemsKeyed (item :: items) →
    ∀ {parts : List Text}, writeItems floats (item :: items) = some parts → ∀ fuel rest,
      (List.intercalate [44] parts).length + 1 < fuel →
      scanItems floats fuel (List.intercalate [44] parts ++ 93 :: rest) = some (item :: items, rest)
  | item, [], keyed, parts, written, fuel, rest, enough => by
    obtain ⟨fuel, rfl⟩ := Nat.exists_eq_succ_of_ne_zero (Nat.ne_zero_of_lt enough)
    obtain ⟨first, writtenFirst, written⟩ := Option.bind_eq_some_iff.mp written
    cases written
    rw [intercalate_single] at enough ⊢
    rw [scanItems, scanOnce_write floats item keyed.1 writtenFirst fuel (93 :: rest) (by omega)
      (ends_cons (by decide) rest)]
    simp only [Option.bind_eq_bind, Option.bind_some]
    rw [skip_cons (by decide)]
    rfl
  | item, next :: others, keyed, parts, written, fuel, rest, enough => by
    obtain ⟨fuel, rfl⟩ := Nat.exists_eq_succ_of_ne_zero (Nat.ne_zero_of_lt enough)
    obtain ⟨first, writtenFirst, written⟩ := Option.bind_eq_some_iff.mp written
    obtain ⟨parts, writtenParts, written⟩ := Option.bind_eq_some_iff.mp written
    cases written
    have later := scanItems_write floats next others keyed.2 writtenParts fuel rest
    obtain ⟨second, writtenSecond, writtenRest⟩ := Option.bind_eq_some_iff.mp writtenParts
    obtain ⟨others, -, same⟩ := Option.bind_eq_some_iff.mp writtenRest
    cases same
    rw [intercalate_cons, List.length_append, List.length_cons] at enough
    rw [intercalate_cons, List.append_assoc, List.cons_append, scanItems,
      scanOnce_write floats item keyed.1 writtenFirst fuel _ (by omega) (ends_cons (by decide) _)]
    simp only [Option.bind_eq_bind, Option.bind_some]
    rw [skip_cons (by decide)]
    simp only [((write_begins writtenSecond).intercalate others).append (93 :: rest) |>.1, later (by omega)]
    rfl
termination_by item items => sizeOf item + sizeOf items

theorem scanPairs_write (floats : FloatText F) : (key : Text) → (value : Value F) → (fields : List (Text × Value F)) →
    FieldsKeyed ((key, value) :: fields) →
    ∀ {parts : List Text}, writeFields floats ((key, value) :: fields) = some parts → ∀ fuel rest,
      (List.intercalate [44] parts).length + 1 < fuel →
      scanPairs floats fuel (List.intercalate [44] parts ++ 125 :: rest) = some ((key, value) :: fields, rest)
  | key, value, [], keyed, parts, written, fuel, rest, enough => by
    obtain ⟨fuel, rfl⟩ := Nat.exists_eq_succ_of_ne_zero (Nat.ne_zero_of_lt enough)
    obtain ⟨first, writtenFirst, written⟩ := Option.bind_eq_some_iff.mp written
    cases written
    rw [intercalate_single, List.length_append, List.length_cons] at enough
    have solid := ((write_begins writtenFirst).append (125 :: rest)).1
    rw [intercalate_single, quote, List.cons_append, List.cons_append, scanPairs]
    simp only [List.append_assoc, List.cons_append, List.nil_append, readString_quote, Option.bind_eq_bind, Option.bind_some]
    rw [skip_cons (by decide)]
    have scanned := scanOnce_write floats value keyed.1 writtenFirst fuel (125 :: rest) (by omega) (ends_cons (by decide) rest)
    simp only [solid, scanned, Option.bind_some]
    rw [skip_cons (by decide)]
    rfl
  | key, value, (nextKey, nextValue) :: others, keyed, parts, written, fuel, rest, enough => by
    obtain ⟨fuel, rfl⟩ := Nat.exists_eq_succ_of_ne_zero (Nat.ne_zero_of_lt enough)
    obtain ⟨first, writtenFirst, written⟩ := Option.bind_eq_some_iff.mp written
    obtain ⟨parts, writtenParts, written⟩ := Option.bind_eq_some_iff.mp written
    cases written
    have later := scanPairs_write floats nextKey nextValue others keyed.2 writtenParts fuel rest
    obtain ⟨second, writtenSecond, writtenRest⟩ := Option.bind_eq_some_iff.mp writtenParts
    obtain ⟨others, -, same⟩ := Option.bind_eq_some_iff.mp writtenRest
    cases same
    have begins : Begins (quote nextKey ++ 58 :: second) := ⟨34, _, rfl, by decide, by decide, by decide⟩
    rw [intercalate_cons, List.length_append, List.length_append, List.length_cons, List.length_cons] at enough
    have solid := ((write_begins writtenFirst).append
      (44 :: (List.intercalate [44] ((quote nextKey ++ 58 :: second) :: others) ++ 125 :: rest))).1
    rw [intercalate_cons, quote, List.cons_append, List.cons_append, List.cons_append, scanPairs]
    simp only [List.append_assoc, List.cons_append, List.nil_append, readString_quote, Option.bind_eq_bind, Option.bind_some]
    rw [skip_cons (by decide)]
    have scanned := scanOnce_write floats value keyed.1 writtenFirst fuel
      (44 :: (List.intercalate [44] ((quote nextKey ++ 58 :: second) :: others) ++ 125 :: rest)) (by omega)
      (ends_cons (by decide) _)
    simp only [solid, scanned, Option.bind_some]
    rw [skip_cons (by decide)]
    simp only [(begins.intercalate others).append (125 :: rest) |>.1, later (by omega)]
    rfl
termination_by _ value fields => sizeOf value + sizeOf fields

end

theorem loads_write {floats : FloatText F} {value : Value F} (keyed : Keyed value) {t : Text}
    (written : write floats value = some t) : loads floats t = some value := by
  have solid := ((write_begins written).append []).1
  have read := scanOnce_write floats value keyed written (t.length + 1) [] (Nat.lt_succ_self _) ends_nil
  rw [List.append_nil] at solid read
  rw [loads, solid, read]
  rfl

/-! ## Documents with their keys in order -/

theorem sortItems_eq (items : List (Value F)) : sortItems items = items.map sortKeys := by
  induction items with
  | nil => rfl
  | cons item rest ih => rw [sortItems, ih, List.map_cons]

theorem sortFields_eq (fields : List (Text × Value F)) :
    sortFields fields = fields.map fun field => (field.1, sortKeys field.2) := by
  induction fields with
  | nil => rfl
  | cons field rest ih => rw [sortFields, ih, List.map_cons]

theorem itemsKeyed_iff (items : List (Value F)) : ItemsKeyed items ↔ ∀ item ∈ items, Keyed item := by
  induction items with
  | nil => simp [ItemsKeyed]
  | cons item rest ih => simp [ItemsKeyed, ih]

theorem fieldsKeyed_iff (fields : List (Text × Value F)) : FieldsKeyed fields ↔ ∀ field ∈ fields, Keyed field.2 := by
  induction fields with
  | nil => simp [FieldsKeyed]
  | cons field rest ih => simp [FieldsKeyed, ih]

theorem keys_sortFields (fields : List (Text × Value F)) : (sortFields fields).map Prod.fst = fields.map Prod.fst := by
  rw [sortFields_eq, List.map_map]
  rfl

theorem pairwise_keyLe (fields : List (Text × Value F)) : (fields.mergeSort keyLe).Pairwise fun a b => keyLe a b = true := by
  apply List.pairwise_mergeSort
  · intro a b c first second
    exact decide_eq_true (le_trans (of_decide_eq_true first) (of_decide_eq_true second))
  · intro a b
    rcases le_total a.1 b.1 with le | le
    · simp [keyLe, le]
    · simp [keyLe, le]

theorem Keyed.sortKeys {value : Value F} (keyed : Keyed value) : Keyed (sortKeys value) := by
  induction value using Value.induct with
  | null | bool | int | float | str => trivial
  | arr items ih =>
    show ItemsKeyed (sortItems items)
    rw [itemsKeyed_iff, sortItems_eq]
    intro item member
    obtain ⟨old, known, rfl⟩ := List.mem_map.mp member
    exact ih old known ((itemsKeyed_iff items).mp keyed old known)
  | obj fields ih =>
    have order := List.mergeSort_perm (sortFields fields) keyLe
    refine ⟨?_, ?_⟩
    · rw [(order.map Prod.fst).nodup_iff, keys_sortFields]
      exact keyed.1
    · rw [fieldsKeyed_iff]
      intro field member
      rw [order.mem_iff, sortFields_eq] at member
      obtain ⟨old, known, rfl⟩ := List.mem_map.mp member
      exact ih old known ((fieldsKeyed_iff fields).mp keyed.2 old known)

theorem sortFields_mergeSort (fields : List (Text × Value F)) :
    sortFields (fields.mergeSort keyLe) = (sortFields fields).mergeSort keyLe := by
  rw [sortFields_eq, sortFields_eq]
  exact List.map_mergeSort fun _ _ _ _ => rfl

theorem sortKeys_sortKeys (value : Value F) : sortKeys (sortKeys value) = sortKeys value := by
  induction value using Value.induct with
  | null | bool | int | float | str => rfl
  | arr items ih =>
    show Value.arr (sortItems (sortItems items)) = Value.arr (sortItems items)
    rw [sortItems_eq, sortItems_eq, List.map_map]
    exact congrArg Value.arr (List.map_congr_left ih)
  | obj fields ih =>
    have inner : sortFields (sortFields fields) = sortFields fields := by
      rw [sortFields_eq, sortFields_eq, List.map_map]
      exact List.map_congr_left fun field member => congrArg (Prod.mk field.1) (ih field member)
    show Value.obj ((sortFields ((sortFields fields).mergeSort keyLe)).mergeSort keyLe) = _
    rw [sortFields_mergeSort, inner, List.mergeSort_of_pairwise (pairwise_keyLe _)]
    rfl

theorem dumps_sortKeys (floats : FloatText F) (value : Value F) : dumps floats (sortKeys value) = dumps floats value := by
  rw [dumps, sortKeys_sortKeys, dumps]

/-- Reading what was dumped gives the document with its keys in order. -/
theorem loads_dumps {floats : FloatText F} {value : Value F} (keyed : Keyed value) {t : Text}
    (dumped : dumps floats value = some t) : loads floats t = some (sortKeys value) :=
  loads_write keyed.sortKeys dumped

end JsonText

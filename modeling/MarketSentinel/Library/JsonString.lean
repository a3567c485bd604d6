import Mathlib.Tactic.NormNum
import MarketSentinel.Library.Separated

/-! Strings of JSON documents in ASCII.

The writer escapes UTF-16 code units, so a text is written like any other text with
the same units: a character outside the basic plane like its two surrogates.
-/

set_option autoImplicit false

namespace Python

abbrev CodeUnit := Fin 0x10000

/-- The UTF-16 code units of a code point; a lone surrogate is its own unit. -/
def unitsOf (c : CodePoint) : List CodeUnit :=
  if c.val < 0x10000 then [Fin.ofNat 0x10000 c.val]
  else [Fin.ofNat 0x10000 (0xd800 + (c.val - 0x10000) / 0x400), Fin.ofNat 0x10000 (0xdc00 + (c.val - 0x10000) % 0x400)]

def utf16 (t : Text) : List CodeUnit := t.flatMap unitsOf

def hexDigit (n : Nat) : CodePoint := Fin.ofNat 0x110000 (if n < 10 then 48 + n else 87 + n)

/-- `ESCAPE_DCT` and `'\\u{0:04x}'`. -/
def escapeUnit (u : CodeUnit) : Text :=
  if u.val = 34 then [92, 34]
  else if u.val = 92 then [92, 92]
  else if u.val = 10 then [92, 110]
  else if u.val = 13 then [92, 114]
  else if u.val = 9 then [92, 116]
  else if u.val = 12 then [92, 102]
  else if u.val = 8 then [92, 98]
  else if 32 ≤ u.val ∧ u.val ≤ 126 then [Fin.ofNat 0x110000 u.val]
  else [92, 117, hexDigit (u.val / 4096), hexDigit (u.val / 256 % 16), hexDigit (u.val / 16 % 16), hexDigit (u.val % 16)]

/-- `json.dumps` of a text. -/
def quote (t : Text) : Text := 34 :: ((utf16 t).flatMap escapeUnit ++ [34])

def hexValue (c : CodePoint) : Nat := if c.val < 58 then c.val - 48 else c.val - 87

/-- Read one escaped unit. -/
def readUnit : Text → Option (CodeUnit × Text)
  | [] => none
  | c :: rest =>
    if c.val = 92 then
      match rest with
      | [] => none
      | kind :: rest =>
        match kind.val with
        | 34 => some (34, rest)
        | 92 => some (92, rest)
        | 110 => some (10, rest)
        | 114 => some (13, rest)
        | 116 => some (9, rest)
        | 102 => some (12, rest)
        | 98 => some (8, rest)
        | 117 =>
          match rest with
          | a :: b :: c :: d :: rest => some (Fin.ofNat 0x10000
              (hexValue a * 4096 + hexValue b * 256 + hexValue c * 16 + hexValue d), rest)
          | _ => none
        | _ => none
    else some (Fin.ofNat 0x10000 c.val, rest)

theorem hexValue_hexDigit {n : Nat} (small : n < 16) : hexValue (hexDigit n) = n := by
  unfold hexValue hexDigit
  by_cases decimal : n < 10
  · rw [if_pos decimal]
    simp only [Fin.ofNat]
    rw [if_pos (by omega)]
    omega
  · rw [if_neg decimal]
    simp only [Fin.ofNat]
    rw [if_neg (by omega)]
    omega

theorem readUnit_escapeUnit (u : CodeUnit) (rest : Text) : readUnit (escapeUnit u ++ rest) = some (u, rest) := by
  have bound := u.isLt
  have point : (Fin.ofNat 0x110000 u.val).val = u.val := by
    simp only [Fin.ofNat]
    omega
  unfold escapeUnit
  split_ifs with quoteMark backslash newline carriage tab feed back plain
  · rw [show u = 34 from Fin.ext quoteMark]
    rfl
  · rw [show u = 92 from Fin.ext backslash]
    rfl
  · rw [show u = 10 from Fin.ext newline]
    rfl
  · rw [show u = 13 from Fin.ext carriage]
    rfl
  · rw [show u = 9 from Fin.ext tab]
    rfl
  · rw [show u = 12 from Fin.ext feed]
    rfl
  · rw [show u = 8 from Fin.ext back]
    rfl
  · rw [List.singleton_append]
    unfold readUnit
    dsimp only
    rw [if_neg (by rw [point]; exact backslash), point]
    congr 2
    exact Fin.ext (Nat.mod_eq_of_lt bound)
  · -- Four hexadecimal digits give the unit back.
    have value : hexValue (hexDigit (u.val / 4096)) * 4096 + hexValue (hexDigit (u.val / 256 % 16)) * 256 +
        hexValue (hexDigit (u.val / 16 % 16)) * 16 + hexValue (hexDigit (u.val % 16)) = u.val := by
      rw [hexValue_hexDigit (by omega), hexValue_hexDigit (by omega), hexValue_hexDigit (by omega),
        hexValue_hexDigit (by omega)]
      omega
    change some (Fin.ofNat 0x10000 _, rest) = some (u, rest)
    rw [value]
    congr 2
    exact Fin.ext (Nat.mod_eq_of_lt bound)

theorem escapeUnit_prefixFree : Code.PrefixFree escapeUnit := .of_reader readUnit readUnit_escapeUnit

/-- No escaped unit begins with the quotation mark. -/
theorem escapeUnit_head (u : CodeUnit) (rest other : Text) : escapeUnit u ++ rest ≠ [34] ++ other := by
  unfold escapeUnit
  split_ifs with quoteMark
  all_goals try (intro same; exact absurd (List.cons.inj same).1 (by decide))
  intro same
  have first := congrArg Fin.val (List.cons.inj same).1
  simp only [Fin.ofNat] at first
  have bound := u.isLt
  have value : (34 : CodePoint).val = 34 := rfl
  omega

/-- Quoted texts are told apart up to their code units, whatever follows them. -/
theorem quote_append_inj {first second rest other : Text} (same : quote first ++ rest = quote second ++ other) :
    utf16 first = utf16 second ∧ rest = other := by
  unfold quote at same
  simp only [List.cons_append, List.append_assoc] at same
  obtain ⟨units, after⟩ := escapeUnit_prefixFree.flatMap escapeUnit_head (List.cons.inj same).2
  exact ⟨units, (List.cons.inj after).2⟩

theorem quote_congr {first second : Text} (same : utf16 first = utf16 second) : quote first = quote second := by
  unfold quote
  rw [same]

/-! ## Objects whose values are texts -/

def member (field : Text × Text) : Text := quote field.1 ++ 58 :: quote field.2

/-- `json.dumps` of an object, compact and in the order of its fields. -/
def dumpsTexts (fields : List (Text × Text)) : Text := 123 :: (List.intercalate [44] (fields.map member) ++ [125])

theorem dumpsTexts_inj {first second : List (Text × Text)} (keys : first.map Prod.fst = second.map Prod.fst)
    (same : dumpsTexts first = dumpsTexts second) :
    (first.map fun field => utf16 field.2) = second.map fun field => utf16 field.2 := by
  have members := List.append_cancel_right (List.cons.inj same).2
  clear same
  induction first generalizing second with
  | nil =>
    rw [List.map_eq_nil_iff.mp keys.symm]
  | cons field first ih =>
    cases second with
    | nil => cases keys
    | cons other second =>
      obtain ⟨key, keys⟩ := List.cons.inj keys
      -- What stands after the value of a member is the rest of the members.
      have values : ∀ rest others : Text, member field ++ rest = member other ++ others →
          utf16 field.2 = utf16 other.2 ∧ rest = others := by
        intro rest others equal
        simp only [member, List.append_assoc, List.cons_append] at equal
        exact quote_append_inj (List.cons.inj (quote_append_inj equal).2).2
      cases first with
      | nil =>
        obtain rfl := List.map_eq_nil_iff.mp keys.symm
        have equal := values [] [] (by simpa using members)
        simp [equal.1]
      | cons next first =>
        cases second with
        | nil => cases keys
        | cons another second =>
          simp only [List.map_cons, List.intercalate_cons_cons, List.append_assoc] at members
          obtain ⟨equal, rest⟩ := values _ _ members
          have later := ih keys (by simpa using rest)
          rw [List.map_cons, equal, later]
          rfl

theorem dumpsTexts_congr {first second : List (Text × Text)} (keys : first.map Prod.fst = second.map Prod.fst)
    (same : (first.map fun field => utf16 field.2) = second.map fun field => utf16 field.2) :
    dumpsTexts first = dumpsTexts second := by
  have members : first.map member = second.map member := by
    induction first generalizing second with
    | nil => rw [List.map_eq_nil_iff.mp keys.symm]
    | cons field first ih =>
      cases second with
      | nil => cases keys
      | cons other second =>
        obtain ⟨key, keys⟩ := List.cons.inj keys
        obtain ⟨value, same⟩ := List.cons.inj same
        rw [List.map_cons, List.map_cons, ih keys same, member, member, key, quote_congr value]
  rw [dumpsTexts, dumpsTexts, members]

end Python

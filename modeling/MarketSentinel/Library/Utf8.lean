import MarketSentinel.Library.Text

/-! UTF-8. A text has an encoding when it holds no surrogate, and bytes that decode are that encoding. -/

set_option autoImplicit false

namespace Python

def codePoint (character : Char) : CodePoint := Fin.ofNat 0x110000 character.toNat

def character? (point : CodePoint) : Option Char :=
  if valid : point.val.isValidChar then some (Char.ofNatAux point.val valid) else none

/-- `t.encode("utf-8")`, which raises on a surrogate. -/
def utf8Encode (t : Text) : Option (List UInt8) :=
  (t.mapM character?).map fun characters => characters.flatMap String.utf8EncodeChar

/-- `bytes.decode("utf-8")`. -/
def utf8Decode (bytes : List UInt8) : Option Text :=
  bytes.toByteArray.utf8Decode?.map fun characters => characters.toList.map codePoint

theorem character?_eq_some (point : CodePoint) (character : Char) :
    character? point = some character ↔ codePoint character = point := by
  have small : character.toNat < 0x110000 := by
    rcases character.valid with low | high
    · exact lt_trans low (by decide)
    · exact high.2
  unfold character? codePoint
  constructor
  · intro found
    by_cases valid : point.val.isValidChar
    · rw [dif_pos valid] at found
      cases found
      apply Fin.ext
      have value : (Char.ofNatAux point.val valid).toNat = point.val := rfl
      rw [value, Fin.val_ofNat, Nat.mod_eq_of_lt point.isLt]
    · rw [dif_neg valid] at found
      cases found
  · rintro rfl
    have value : (Fin.ofNat 0x110000 character.toNat).val = character.toNat := Nat.mod_eq_of_lt small
    have valid : (Fin.ofNat 0x110000 character.toNat).val.isValidChar := by
      rw [value]
      exact character.valid
    rw [dif_pos valid]
    apply congrArg some
    apply Char.toNat_inj.mp
    exact value

theorem mapM_character? (t : Text) (characters : List Char) :
    t.mapM character? = some characters ↔ characters.map codePoint = t := by
  induction t generalizing characters with
  | nil => cases characters <;> simp
  | cons point rest ih =>
    rw [List.mapM_cons]
    cases characters with
    | nil =>
      cases character? point with
      | none => simp
      | some first => cases rest.mapM character? <;> simp
    | cons character others =>
      rw [List.map_cons, List.cons.injEq, ← ih, ← character?_eq_some]
      cases character? point with
      | none => simp
      | some first => cases rest.mapM character? <;> simp

/-- Decoding and encoding are the same relation. -/
theorem utf8Decode_eq_some (bytes : List UInt8) (t : Text) :
    utf8Decode bytes = some t ↔ utf8Encode t = some bytes := by
  unfold utf8Decode utf8Encode
  simp only [Option.map_eq_some_iff, mapM_character?]
  constructor
  · rintro ⟨characters, decoded, rfl⟩
    refine ⟨characters.toList, rfl, ?_⟩
    have back := @ByteArray.utf8Encode_get_utf8Decode? bytes.toByteArray (by rw [decoded]; rfl)
    simp only [decoded, Option.get_some] at back
    exact List.toByteArray_inj.mp back
  · rintro ⟨characters, rfl, rfl⟩
    exact ⟨characters.toArray, List.utf8Decode?_utf8Encode, by simp⟩

end Python

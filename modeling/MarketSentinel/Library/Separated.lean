import MarketSentinel.Library.Text

/-! Reading back what was written one piece after another.

A prefix-free code needs no separator. A separator that may occur inside the parts
keeps only the pieces that it cuts them into.
-/

set_option autoImplicit false

namespace Code

variable {α β : Type*}

/-- What follows an encoding does not change what is read. -/
def PrefixFree (code : α → List β) : Prop :=
  ∀ a b rest other, code a ++ rest = code b ++ other → a = b ∧ rest = other

theorem PrefixFree.of_reader {code : α → List β} (read : List β → Option (α × List β))
    (reads : ∀ a rest, read (code a ++ rest) = some (a, rest)) : PrefixFree code := by
  intro a b rest other same
  have first := reads a rest
  rw [same, reads b other] at first
  obtain ⟨rfl, rfl⟩ := Prod.mk.inj (Option.some.inj first)
  exact ⟨rfl, rfl⟩

/-- A sequence is read back up to a mark that begins no encoding. -/
theorem PrefixFree.flatMap {code : α → List β} (free : PrefixFree code) {mark : List β}
    (closed : ∀ a rest other, code a ++ rest ≠ mark ++ other) {first second : List α} {rest other : List β}
    (same : first.flatMap code ++ (mark ++ rest) = second.flatMap code ++ (mark ++ other)) :
    first = second ∧ mark ++ rest = mark ++ other := by
  induction first generalizing second with
  | nil =>
    cases second with
    | nil => exact ⟨rfl, same⟩
    | cons b second =>
      rw [List.flatMap_cons, List.append_assoc] at same
      exact absurd same.symm (closed b _ rest)
  | cons a first ih =>
    cases second with
    | nil =>
      rw [List.flatMap_cons, List.append_assoc] at same
      exact absurd same (closed a _ other)
    | cons b second =>
      rw [List.flatMap_cons, List.flatMap_cons, List.append_assoc, List.append_assoc] at same
      obtain ⟨rfl, tails⟩ := free a b _ _ same
      obtain ⟨rfl, after⟩ := ih tails
      exact ⟨rfl, after⟩

end Code

namespace Python

theorem split_append (separator : CodePoint) (first rest : Text) :
    split separator (first ++ separator :: rest) = split separator first ++ split separator rest := by
  induction first with
  | nil => simp [split]
  | cons c first ih =>
    rw [List.cons_append, split, split, ih]
    by_cases here : c = separator
    · rw [if_pos here, if_pos here, List.cons_append]
    · rw [if_neg here, if_neg here]
      cases parts : split separator first with
      | nil => exact absurd parts (split_ne_nil separator first)
      | cons head tail => rfl

theorem intercalate_split (separator : CodePoint) (t : Text) :
    List.intercalate [separator] (split separator t) = t := by
  induction t with
  | nil => rfl
  | cons c rest ih =>
    rw [split]
    by_cases here : c = separator
    · rw [if_pos here]
      cases parts : split separator rest with
      | nil => exact absurd parts (split_ne_nil separator rest)
      | cons head tail =>
        rw [parts] at ih
        rw [List.intercalate_cons_cons, ih, here]
        rfl
    · rw [if_neg here]
      cases parts : split separator rest with
      | nil => exact absurd parts (split_ne_nil separator rest)
      | cons head tail =>
        rw [parts] at ih
        rw [← ih]
        cases tail with
        | nil => rfl
        | cons next tail => rw [List.intercalate_cons_cons, List.intercalate_cons_cons]; rfl

theorem split_injective (separator : CodePoint) : Function.Injective (split separator) := by
  intro first second same
  rw [← intercalate_split separator first, same, intercalate_split]

/-- The pieces of the parts of a joined text, wherever the separators came from. -/
def pieces (separator : CodePoint) (parts : List Text) : List Text := parts.flatMap (split separator)

theorem split_intercalate (separator : CodePoint) {parts : List Text} (some : parts ≠ []) :
    split separator (List.intercalate [separator] parts) = pieces separator parts := by
  induction parts with
  | nil => exact absurd rfl some
  | cons first parts ih =>
    cases parts with
    | nil => simp [pieces]
    | cons second parts =>
      rw [List.intercalate_cons_cons, List.append_assoc, List.singleton_append, split_append,
        ih (List.cons_ne_nil second parts)]
      rfl

/-- Joined texts are equal exactly when their parts have the same pieces. -/
theorem intercalate_eq_iff (separator : CodePoint) {first second : List Text} (some : first ≠ []) (other : second ≠ []) :
    List.intercalate [separator] first = List.intercalate [separator] second ↔
      pieces separator first = pieces separator second := by
  rw [← split_intercalate separator some, ← split_intercalate separator other]
  exact (split_injective separator).eq_iff.symm

theorem split_eq_singleton {separator : CodePoint} {t : Text} (free : separator ∉ t) : split separator t = [t] := by
  induction t with
  | nil => rfl
  | cons c rest ih =>
    have here : c ≠ separator := fun same => free (same ▸ List.mem_cons_self)
    rw [split, if_neg here, ih fun later => free (List.mem_cons_of_mem _ later)]

/-- Parts that differ only where neither has the separator differ in their pieces. -/
theorem eq_of_pieces_eq {separator : CodePoint} {first second : List Text} (length : first.length = second.length)
    (alike : ∀ pair ∈ first.zip second, pair.1 = pair.2 ∨ (separator ∉ pair.1 ∧ separator ∉ pair.2))
    (same : pieces separator first = pieces separator second) : first = second := by
  induction first generalizing second with
  | nil => exact (List.length_eq_zero_iff.mp length.symm).symm
  | cons a first ih =>
    cases second with
    | nil => cases length
    | cons b second =>
      rw [List.zip_cons_cons] at alike
      simp only [pieces, List.flatMap_cons] at same
      have rest : ∀ pair ∈ first.zip second, pair.1 = pair.2 ∨ (separator ∉ pair.1 ∧ separator ∉ pair.2) :=
        fun pair member => alike pair (List.mem_cons_of_mem _ member)
      rcases alike (a, b) List.mem_cons_self with equal | ⟨left, right⟩
      · obtain rfl : a = b := equal
        rw [ih (Nat.succ.inj length) rest (List.append_cancel_left same)]
      · rw [split_eq_singleton left, split_eq_singleton right, List.singleton_append, List.singleton_append] at same
        obtain ⟨heads, tails⟩ := List.cons.inj same
        obtain rfl : a = b := heads
        rw [ih (Nat.succ.inj length) rest tails]

end Python

import MarketSentinel.Library.AverageCost
import MarketSentinel.Paper.Accounting

/-! Conservation of complete paper rows.

A row without a reason is an average-cost position: every accepted record of
its contract is one signed fill, and no reason is ever withdrawn.
-/

set_option autoImplicit false

namespace MarketSentinel.Paper

open Python AverageCost

variable (casing : Casing)

/-- The signed execution an accepted record stands for, when it is a valid one. -/
def fillOf (record : PaperTradeRecord) : Option (Fill ℚ) :=
  match number record.size, number record.filledSize with
  | some requested, some filled =>
    (statedPrice record filled).map fun price => ⟨signedSize casing record requested filled, price⟩
  | _, _ => none

/-- The accepted records of one contract. -/
def ofContract (key : Text × Text) (records : List PaperTradeRecord) : List PaperTradeRecord :=
  records.filter fun record => record.accepted && decide (record.key = key)

/-- The signed fills of one contract in chronological order. -/
def contractFills (records : List PaperTradeRecord) (key : Text × Text) : List (Fill ℚ) :=
  (ofContract key (chronological records)).filterMap (fillOf casing)

/-- No fill leaves a nonzero remainder within the closing tolerance. -/
def Resolved (size : ℚ) : List (Fill ℚ) → Prop
  | [] => True
  | f :: rest =>
    (size + f.quantity ≠ 0 → closingTolerance * max |size| |f.quantity| < |size + f.quantity|) ∧
      Resolved (size + f.quantity) rest

instance Resolved.decidable (size : ℚ) : (fills : List (Fill ℚ)) → Decidable (Resolved size fills)
  | [] => isTrue trivial
  | f :: rest =>
    have := Resolved.decidable (size + f.quantity) rest
    inferInstanceAs (Decidable (_ ∧ _))

theorem resolved_append_one (size : ℚ) (fills : List (Fill ℚ)) (f : Fill ℚ)
    (resolved : Resolved size (fills ++ [f])) :
    Resolved size fills ∧
      (size + quantity fills + f.quantity ≠ 0 →
        closingTolerance * max |size + quantity fills| |f.quantity| < |size + quantity fills + f.quantity|) := by
  induction fills generalizing size with
  | nil => simpa [Resolved, quantity] using resolved
  | cons first rest ih =>
    obtain ⟨head, tail⟩ := resolved
    obtain ⟨before, last⟩ := ih (size + first.quantity) tail
    refine ⟨⟨head, before⟩, ?_⟩
    have shift : size + quantity (first :: rest) = size + first.quantity + quantity rest := by
      simp [quantity, add_assoc]
    rwa [shift]

/-- The row shows the position. -/
structure Row.Shows (row : Row) (p : Position ℚ) : Prop where
  size : row.netSize = some p.size
  average : row.averagePrice = p.average
  realized : row.realized = some p.realized

theorem note_clean {row : Row} {bad : Prop} [Decidable bad] {reason : Reason} {loss : Degradation}
    (clean : (row.note bad reason loss).incompleteReasons = []) :
    ¬bad ∧ row.note bad reason loss = row := by
  unfold Row.note at clean ⊢
  by_cases failed : bad
  · rw [if_pos failed, loss.reasons] at clean
    simp at clean
  · simp [failed]

@[simp] theorem note_identity (row : Row) (bad : Prop) [Decidable bad] (reason : Reason) (loss : Degradation) :
    (row.note bad reason loss).identity = row.identity := by
  unfold Row.note
  split
  · rw [loss.identity]; rfl
  · rfl

/-- The two ways the source and the position compute an average agree on open positions. -/
theorem nextAverage_eq (p : Position ℚ) (f : Fill ℚ) (opened : p.size + f.quantity ≠ 0)
    (filled : f.quantity ≠ 0) :
    nextAverage p.size f.quantity p.average (some f.price) = AverageCost.nextAverage p f := by
  unfold nextAverage AverageCost.nextAverage
  rw [if_neg opened]
  by_cases flat : p.size = 0
  · simp [flat]
  · obtain ⟨average, held⟩ := Option.isSome_iff_exists.mp (p.known.mpr flat)
    by_cases same : 0 < p.size * f.quantity
    · simp [flat, same, same.not_gt, Flips, held]
    · have opposed : p.size * f.quantity < 0 :=
        lt_of_le_of_ne (not_lt.mp same) (mul_ne_zero flat filled)
      simp [flat, same, opposed, Flips]

theorem nextRealized_eq (p : Position ℚ) (f : Fill ℚ) (filled : f.quantity ≠ 0) :
    nextRealized p.size f.quantity p.average (some f.price) (some p.realized) =
      some (p.realized + gain p f) := by
  unfold nextRealized gain
  by_cases flat : p.size = 0
  · simp [flat]
  · obtain ⟨average, held⟩ := Option.isSome_iff_exists.mp (p.known.mpr flat)
    by_cases same : 0 < p.size * f.quantity
    · simp [flat, same, same.not_gt]
    · have opposed : p.size * f.quantity < 0 :=
        lt_of_le_of_ne (not_lt.mp same) (mul_ne_zero flat filled)
      simp [flat, same, opposed, held]

/-- A fill either closes the position exactly or leaves more than the tolerance. -/
theorem closes_iff (p : Position ℚ) (f : Fill ℚ)
    (resolved : p.size + f.quantity ≠ 0 →
      closingTolerance * max |p.size| |f.quantity| < |p.size + f.quantity|) :
    |p.size + f.quantity| ≤ closingTolerance * max |p.size| |f.quantity| ↔ p.size + f.quantity = 0 := by
  constructor
  · intro closes
    by_contra opened
    exact (resolved opened).not_ge closes
  · intro closed
    rw [closed, abs_zero]
    exact mul_nonneg (by norm_num [closingTolerance]) (le_max_of_le_left (abs_nonneg _))

/-- Moving a row by a priced fill applies the fill to the position. -/
theorem move_shows {row : Row} {p : Position ℚ} {f : Fill ℚ} (shows : row.Shows p)
    (nonzero : f.quantity ≠ 0) (currency : row.currency ≠ none)
    (resolved : p.size + f.quantity ≠ 0 →
      closingTolerance * max |p.size| |f.quantity| < |p.size + f.quantity|) :
    (row.move p.size f.quantity (some f.price)).Shows (p.apply f) ∧
      (row.move p.size f.quantity (some f.price)).notional = some (p.apply f).basis := by
  have realized := nextRealized_eq p f nonzero
  unfold Row.move
  simp only [closes_iff p f resolved, shows.average, shows.realized, realized, if_neg currency]
  by_cases closed : p.size + f.quantity = 0
  · have average : (p.apply f).average = none := (p.apply f).average_eq_none closed
    refine ⟨⟨?_, ?_, rfl⟩, ?_⟩
    · simp [closed, Position.apply]
    · simp [closed, average]
    · simp [closed, Position.basis, average]
  · have average := nextAverage_eq p f closed nonzero
    obtain ⟨held, known⟩ := Option.isSome_iff_exists.mp ((AverageCost.nextAverage_known p f).mpr closed)
    refine ⟨⟨?_, ?_, rfl⟩, ?_⟩
    · simp [closed, Position.apply]
    · simp [closed, average, Position.apply]
    · simp [closed, average, known, Position.basis, Position.apply]

theorem priced_clean {row : Row} {record : PaperTradeRecord} {filled : ℚ}
    (clean : (row.priced record filled).incompleteReasons = []) :
    row.incompleteReasons = [] ∧ ∃ price, statedPrice record filled = some price := by
  obtain ⟨priced, same⟩ := note_clean clean
  rw [Row.priced, same] at clean
  refine ⟨?_, Option.ne_none_iff_exists'.mp priced⟩
  split at clean <;> exact clean

/-- A priced row only gains an execution assumption. -/
theorem priced_shows (row : Row) {record : PaperTradeRecord} {filled price : ℚ}
    (stated : statedPrice record filled = some price) :
    (∀ p, row.Shows p → (row.priced record filled).Shows p) ∧
      (row.priced record filled).currency = row.currency := by
  unfold Row.priced Row.note
  simp only [stated, reduceCtorEq, if_false]
  split
  · exact ⟨fun p shows => ⟨shows.size, shows.average, shows.realized⟩, rfl⟩
  · exact ⟨fun p shows => shows, rfl⟩

theorem priced_identity (row : Row) (record : PaperTradeRecord) (filled : ℚ) :
    (row.priced record filled).identity = row.identity := by
  unfold Row.priced
  simp only [note_identity]
  split <;> rfl

theorem account_identity (row : Row) (record : PaperTradeRecord) (duplicate : Bool) :
    (row.account casing record duplicate).identity = (row.key, row.trades + 1) := by
  have opened : (row.opened record duplicate).identity = (row.key, row.trades + 1) := by
    rw [Row.opened, note_identity, note_identity]
    rfl
  have checked : ∀ row : Row, (row.checked record).identity = row.identity := by
    intro row
    simp [Row.checked]
  unfold Row.account
  simp only
  split
  · rw [note_identity, opened]
  · split
    · exact (priced_identity _ _ _).trans ((checked _).trans opened)
    · exact (checked _).trans opened

theorem opened_clean {row : Row} {record : PaperTradeRecord} {duplicate : Bool}
    (clean : (row.opened record duplicate).incompleteReasons = []) :
    row.incompleteReasons = [] ∧ row.opened record duplicate = { row with trades := row.trades + 1 } := by
  obtain ⟨_, unique⟩ := note_clean clean
  rw [Row.opened, unique] at clean
  obtain ⟨_, consistent⟩ := note_clean clean
  rw [consistent] at clean
  exact ⟨clean, unique.trans consistent⟩

theorem checked_clean {row : Row} {record : PaperTradeRecord}
    (clean : (row.checked record).incompleteReasons = []) :
    row.incompleteReasons = [] ∧ row.checked record = row ∧ row.currency ≠ none ∧
      ¬InvalidQuantity record := by
  obtain ⟨_, identified⟩ := note_clean clean
  rw [Row.checked, identified] at clean
  obtain ⟨valid, quantified⟩ := note_clean clean
  rw [quantified] at clean
  obtain ⟨known, denominated⟩ := note_clean clean
  rw [denominated] at clean
  exact ⟨clean, identified.trans (quantified.trans denominated), known, valid⟩

/-- A valid quantity is positive, whether it is hypothetical or not. -/
theorem signedSize_ne_zero {record : PaperTradeRecord} {requested filled : ℚ}
    (size : number record.size = some requested) (fill : number record.filledSize = some filled)
    (valid : ¬InvalidQuantity record) : signedSize casing record requested filled ≠ 0 := by
  simp only [InvalidQuantity, size, fill, not_or, not_le, not_lt] at valid
  obtain ⟨positive, _, _⟩ := valid
  unfold signedSize
  refine mul_ne_zero ?_ (by split <;> norm_num)
  split
  · exact positive.ne'
  · assumption

/-- A supported account leaves no reason only when its checks leave none. -/
theorem account_checked {row : Row} {record : PaperTradeRecord} {duplicate : Bool}
    (clean : (row.account casing record duplicate).incompleteReasons = []) :
    Supported casing record ∧ ((row.opened record duplicate).checked record).incompleteReasons = [] := by
  unfold Row.account at clean
  simp only at clean
  by_cases supported : Supported casing record
  · refine ⟨supported, ?_⟩
    rw [if_neg (not_not.mpr supported)] at clean
    split at clean
    · exact (priced_clean clean).1
    · exact clean
  · rw [if_pos supported] at clean
    exact absurd trivial (note_clean clean).1

/-- An account that leaves no reason is one valid fill, applied to the position the row shows. -/
theorem account_clean {row : Row} {record : PaperTradeRecord} {duplicate : Bool}
    (clean : (row.account casing record duplicate).incompleteReasons = []) :
    row.incompleteReasons = [] ∧ (row.netSize.isSome →
      (row.account casing record duplicate).netSize.isSome ∧ ∃ f, fillOf casing record = some f ∧
        ∀ p : Position ℚ, row.Shows p →
          (p.size + f.quantity ≠ 0 →
            closingTolerance * max |p.size| |f.quantity| < |p.size + f.quantity|) →
          (row.account casing record duplicate).Shows (p.apply f) ∧
            (row.account casing record duplicate).notional = some (p.apply f).basis) := by
  obtain ⟨supported, passed⟩ := account_checked casing clean
  obtain ⟨openedClean, checked, currency, valid⟩ := checked_clean passed
  obtain ⟨rowClean, opened⟩ := opened_clean openedClean
  refine ⟨rowClean, fun held => ?_⟩
  obtain ⟨current, net⟩ := Option.isSome_iff_exists.mp held
  obtain ⟨requested, size⟩ : ∃ requested, number record.size = some requested := by
    cases known : number record.size with
    | some requested => exact ⟨requested, rfl⟩
    | none => simp [InvalidQuantity, known] at valid
  obtain ⟨filled, fill⟩ : ∃ filled, number record.filledSize = some filled := by
    cases known : number record.filledSize with
    | some filled => exact ⟨filled, rfl⟩
    | none => simp [InvalidQuantity, known] at valid
  have openedNet : (row.opened record duplicate).netSize = some current := by rw [opened]; exact net
  have account : row.account casing record duplicate =
      ((row.opened record duplicate).priced record filled).move current
        (signedSize casing record requested filled) (statedPrice record filled) := by
    simp only [Row.account, supported, not_true, if_false, checked, openedNet, size, fill]
  rw [account] at clean ⊢
  obtain ⟨_, price, stated⟩ := priced_clean clean
  obtain ⟨showsPriced, sameCurrency⟩ := priced_shows (row.opened record duplicate) stated
  have nonzero := signedSize_ne_zero casing size fill valid
  refine ⟨rfl, ⟨signedSize casing record requested filled, price⟩, by simp [fillOf, size, fill, stated], ?_⟩
  intro p shows
  generalize signedSize casing record requested filled = signed at nonzero ⊢
  intro resolved
  have same : current = p.size := Option.some.inj (net.symm.trans shows.size)
  have showsOpened : (row.opened record duplicate).Shows p := by
    rw [opened]
    exact ⟨shows.size, shows.average, shows.realized⟩
  rw [stated, same]
  exact move_shows (f := ⟨signed, price⟩) (showsPriced p showsOpened) nonzero
    (by rwa [sameCurrency]) resolved

/-! ## A whole ledger -/

/-- The row counts these records of its contract, and shows their position while it is complete. -/
structure Row.Tracks (row : Row) (records : List PaperTradeRecord) : Prop where
  trades : row.trades = records.length
  held : row.incompleteReasons = [] → row.netSize.isSome
  fills : row.incompleteReasons = [] → (records.filterMap (fillOf casing)).length = records.length
  shows : row.incompleteReasons = [] → Resolved 0 (records.filterMap (fillOf casing)) →
    row.Shows (Position.flat.run (records.filterMap (fillOf casing)))
  notional : row.incompleteReasons = [] → Resolved 0 (records.filterMap (fillOf casing)) → records ≠ [] →
    row.notional = some (Position.flat.run (records.filterMap (fillOf casing))).basis

theorem emptyRow_tracks (record : PaperTradeRecord) : (emptyRow record).Tracks casing [] where
  trades := rfl
  held _ := rfl
  fills _ := rfl
  shows _ _ := ⟨rfl, rfl, rfl⟩
  notional _ _ some := absurd rfl some

theorem account_tracks {row : Row} {records : List PaperTradeRecord} (tracks : row.Tracks casing records)
    (record : PaperTradeRecord) (duplicate : Bool) :
    (row.account casing record duplicate).Tracks casing (records ++ [record]) := by
  have after : (row.account casing record duplicate).incompleteReasons = [] →
      (row.account casing record duplicate).netSize.isSome ∧ ∃ f, fillOf casing record = some f ∧
        (records.filterMap (fillOf casing)).length = records.length ∧
        (Resolved 0 (records.filterMap (fillOf casing) ++ [f]) →
          (row.account casing record duplicate).Shows
            (Position.flat.run (records.filterMap (fillOf casing) ++ [f])) ∧
          (row.account casing record duplicate).notional =
            some (Position.flat.run (records.filterMap (fillOf casing) ++ [f])).basis) := by
    intro clean
    obtain ⟨rowClean, executed⟩ := account_clean casing clean
    obtain ⟨held, f, fill, applied⟩ := executed (tracks.held rowClean)
    refine ⟨held, f, fill, tracks.fills rowClean, fun resolved => ?_⟩
    obtain ⟨before, last⟩ := resolved_append_one _ _ _ resolved
    rw [Position.run_append]
    exact applied _ (tracks.shows rowClean before) (by rw [run_size]; exact last)
  refine ⟨?_, fun clean => (after clean).1, fun clean => ?_, fun clean resolved => ?_,
    fun clean resolved _ => ?_⟩
  · rw [List.length_append, ← tracks.trades]
    exact (Prod.ext_iff.mp (account_identity casing row record duplicate)).2
  all_goals
    obtain ⟨_, f, fill, valid, shown⟩ := after clean
    simp only [List.filterMap_append, List.filterMap_cons, fill, List.filterMap_nil] at *
  · simp [valid]
  · exact (shown resolved).1
  · exact (shown resolved).2

theorem ofContract_append (key : Text × Text) (records : List PaperTradeRecord) (record : PaperTradeRecord) :
    ofContract key (records ++ [record]) =
      if record.accepted ∧ record.key = key then ofContract key records ++ [record] else ofContract key records := by
  unfold ofContract
  rw [List.filter_append]
  by_cases same : record.accepted ∧ record.key = key
  · simp [same.1, same.2]
  · rw [if_neg same]
    have dropped : (record.accepted && decide (record.key = key)) = false := by
      simpa using same
    simp [dropped]

/-- A changed row is the old one of the contract, or the empty one when there was none. -/
theorem mem_updateRow {record : PaperTradeRecord} {change : Row → Row} {rows : List Row} {row : Row}
    (distinct : (rows.map Row.key).Nodup) (member : row ∈ updateRow record change rows) :
    (row ∈ rows ∧ row.key ≠ record.key) ∨
      ∃ old, row = change old ∧ ((old ∈ rows ∧ old.key = record.key) ∨
        (old = emptyRow record ∧ record.key ∉ rows.map Row.key)) := by
  induction rows with
  | nil =>
    simp only [updateRow, List.mem_singleton] at member
    exact Or.inr ⟨_, member, Or.inr ⟨rfl, by simp⟩⟩
  | cons first rest ih =>
    rw [List.map_cons, List.nodup_cons] at distinct
    unfold updateRow at member
    by_cases same : first.key = record.key
    · rw [if_pos same] at member
      rcases List.mem_cons.mp member with rfl | later
      · exact Or.inr ⟨first, rfl, Or.inl ⟨List.mem_cons_self, same⟩⟩
      · refine Or.inl ⟨List.mem_cons_of_mem _ later, fun equal => distinct.1 ?_⟩
        rw [same, ← equal]
        exact List.mem_map_of_mem later
    · rw [if_neg same] at member
      rcases List.mem_cons.mp member with rfl | later
      · exact Or.inl ⟨List.mem_cons_self, same⟩
      · rcases ih distinct.2 later with ⟨kept, other⟩ | ⟨old, changed, ⟨kept, equal⟩ | ⟨fresh, absent⟩⟩
        · exact Or.inl ⟨List.mem_cons_of_mem _ kept, other⟩
        · exact Or.inr ⟨old, changed, Or.inl ⟨List.mem_cons_of_mem _ kept, equal⟩⟩
        · exact Or.inr ⟨old, changed, Or.inr ⟨fresh, by simpa [absent] using Ne.symm same⟩⟩

theorem keys_updateRow {record : PaperTradeRecord} {change : Row → Row}
    (keeps : ∀ row, (change row).key = row.key) (rows : List Row) :
    (updateRow record change rows).map Row.key =
      if record.key ∈ rows.map Row.key then rows.map Row.key else rows.map Row.key ++ [record.key] := by
  induction rows with
  | nil => simp only [updateRow, List.map_cons, keeps]; rfl
  | cons first rest ih =>
    unfold updateRow
    by_cases same : first.key = record.key
    · simp [same, keeps]
    · rw [if_neg same, List.map_cons, ih, List.map_cons]
      by_cases present : record.key ∈ rest.map Row.key
      · rw [if_pos present, if_pos (List.mem_cons_of_mem _ present)]
      · rw [if_neg present, if_neg (by simpa [Ne.symm same] using present), List.cons_append]

/-- Every row has a property of itself and the records of its contract, and every accepted record has a row. -/
structure Book.Holds (motive : Row → List PaperTradeRecord → Prop) (book : Book) (records : List PaperTradeRecord) :
    Prop where
  distinct : (book.grouped.map Row.key).Nodup
  rows : ∀ row ∈ book.grouped, motive row (ofContract row.key records)
  traded : ∀ row ∈ book.grouped, ofContract row.key records ≠ []
  covered : ∀ key, key ∉ book.grouped.map Row.key → ofContract key records = []

/-- One record keeps what its own row keeps, started or continued. -/
theorem Book.Holds.step {motive : Row → List PaperTradeRecord → Prop} {book next : Book}
    {records : List PaperTradeRecord} {record : PaperTradeRecord} (holds : book.Holds motive records)
    (started : motive ((emptyRow record).account casing record (book.seenIds.any record.id.sameKey)) [record])
    (continued : ∀ row ∈ book.grouped, motive row (ofContract row.key records) →
      motive (row.account casing record (book.seenIds.any record.id.sameKey)) (ofContract row.key records ++ [record]))
    (step : book.record casing record = .ok next) : next.Holds motive (records ++ [record]) := by
  unfold Book.record at step
  by_cases accepted : record.accepted
  · rw [if_pos accepted] at step
    split at step
    · cases step
      -- one row changes, the one of the contract of the record, and it keeps its key
      have keeps : ∀ row : Row, (row.account casing record (book.seenIds.any record.id.sameKey)).key = row.key :=
        fun row => (Prod.ext_iff.mp (account_identity casing row record _)).1
      refine ⟨?_, fun row member => ?_, fun row member => ?_, fun key absent => ?_⟩
      · rw [keys_updateRow keeps]
        split
        · exact holds.distinct
        · simpa using holds.distinct.concat (by assumption)
      · rcases mem_updateRow holds.distinct member with ⟨kept, other⟩ | ⟨old, rfl, found⟩
        · rw [ofContract_append, if_neg (by simp [Ne.symm other])]
          exact holds.rows row kept
        · rw [keeps]
          rcases found with ⟨kept, same⟩ | ⟨rfl, absent⟩
          · rw [ofContract_append, if_pos ⟨accepted, same.symm⟩]
            exact continued old kept (holds.rows old kept)
          · rw [ofContract_append, if_pos ⟨accepted, rfl⟩]
            have none : ofContract (emptyRow record).key records = [] := holds.covered _ absent
            rw [none]
            exact started
      · rcases mem_updateRow holds.distinct member with ⟨kept, other⟩ | ⟨old, rfl, found⟩
        · rw [ofContract_append, if_neg (by simp [Ne.symm other])]
          exact holds.traded row kept
        · have same : record.key = old.key := by
            rcases found with ⟨_, same⟩ | ⟨rfl, _⟩
            · exact same.symm
            · rfl
          rw [keeps, ofContract_append, if_pos ⟨accepted, same⟩]
          simp
      · rw [keys_updateRow keeps] at absent
        have missing : key ∉ book.grouped.map Row.key ∧ record.key ≠ key := by
          split at absent
          · rename_i present
            exact ⟨absent, fun same => absent (same ▸ present)⟩
          · simp only [List.mem_append, List.mem_singleton, not_or] at absent
            exact ⟨absent.1, Ne.symm absent.2⟩
        rw [ofContract_append, if_neg (by simp [missing.2])]
        exact holds.covered key missing.1
    · cases step
  · rw [if_neg accepted] at step
    cases step
    have same : ∀ key, ofContract key (records ++ [record]) = ofContract key records := by
      intro key
      rw [ofContract_append, if_neg (by simp [accepted])]
    refine ⟨holds.distinct, ?_, ?_, ?_⟩
    · intro row member
      rw [same]
      exact holds.rows row member
    · intro row member
      rw [same]
      exact holds.traded row member
    · intro key absent
      rw [same]
      exact holds.covered key absent

theorem emptyBook_holds (motive : Row → List PaperTradeRecord → Prop) : (Book.mk [] []).Holds motive [] where
  distinct := List.nodup_nil
  rows := by simp
  traded := by simp
  covered := by simp [ofContract]

/-- Every row tracks the records of its contract, and every accepted record has a row. -/
structure Book.Tracks (book : Book) (records : List PaperTradeRecord) : Prop where
  distinct : (book.grouped.map Row.key).Nodup
  rows : ∀ row ∈ book.grouped, row.Tracks casing (ofContract row.key records)
  traded : ∀ row ∈ book.grouped, ofContract row.key records ≠ []
  covered : ∀ key, key ∉ book.grouped.map Row.key → ofContract key records = []

theorem book_step {book next : Book} {records : List PaperTradeRecord} {record : PaperTradeRecord}
    (tracks : book.Tracks casing records) (step : book.record casing record = .ok next) :
    next.Tracks casing (records ++ [record]) := by
  obtain ⟨distinct, rows, traded, covered⟩ := tracks
  have holds : book.Holds (fun row records => row.Tracks casing records) records := ⟨distinct, rows, traded, covered⟩
  obtain ⟨distinct, rows, traded, covered⟩ := holds.step casing
    (account_tracks casing (emptyRow_tracks casing record) record _)
    (fun row _ tracks => account_tracks casing tracks record _) step
  exact ⟨distinct, rows, traded, covered⟩

theorem book_run {book final : Book} {records rest : List PaperTradeRecord}
    (tracks : book.Tracks casing records) (run : book.run casing rest = .ok final) :
    final.Tracks casing (records ++ rest) := by
  induction rest generalizing book records with
  | nil =>
    cases run
    simpa using tracks
  | cons record rest ih =>
    unfold Book.run at run
    cases step : book.record casing record with
    | error error => simp [step] at run
    | ok next =>
      rw [step] at run
      simpa using ih (book_step casing tracks step) run

theorem emptyBook_tracks : (Book.mk [] []).Tracks casing [] where
  distinct := List.nodup_nil
  rows := by simp
  traded := by simp
  covered := by simp [ofContract]

/-- The amounts of a row against the signed fills of its contract. -/
def Conserves (row : Row) (fills : List (Fill ℚ)) : Prop :=
  row.trades = fills.length ∧ ∃ notional realized,
    row.netSize = some (quantity fills) ∧ row.notional = some notional ∧ row.realized = some realized ∧
    realized - notional = -cost fills ∧
    (quantity fills = 0 → row.averagePrice = none ∧ notional = 0) ∧
    (quantity fills ≠ 0 → ∃ average, row.averagePrice = some average ∧
      notional = quantity fills * average ∧ Among (episode 0 [] fills) average)

theorem tracks_conserves {row : Row} {records : List PaperTradeRecord} (tracks : row.Tracks casing records)
    (traded : records ≠ []) (clean : row.incompleteReasons = [])
    (resolved : Resolved 0 (records.filterMap (fillOf casing))) :
    Conserves row (records.filterMap (fillOf casing)) := by
  have length := tracks.fills clean
  have shows := tracks.shows clean resolved
  have notional := tracks.notional clean resolved traded
  have total := run_size Position.flat (records.filterMap (fillOf casing))
  have balance := run_balance Position.flat (records.filterMap (fillOf casing))
  have among := run_among Position.flat (records.filterMap (fillOf casing)) [] (by simp [Position.flat])
  generalize records.filterMap (fillOf casing) = fills at *
  generalize Position.flat.run fills = final at *
  have size : final.size = quantity fills := by simpa [Position.flat] using total
  have conserved : final.realized - final.basis = -cost fills := by
    simpa [Position.flat, Position.basis] using balance
  refine ⟨by rw [tracks.trades, length], final.basis, final.realized, ?_, notional, shows.realized,
    conserved, fun flat => ?_, fun opened => ?_⟩
  · rw [shows.size, size]
  · have average := final.average_eq_none (size.trans flat)
    exact ⟨shows.average.trans average, by simp [Position.basis, average]⟩
  · obtain ⟨average, known⟩ := Option.isSome_iff_exists.mp (final.known.mpr (size ▸ opened))
    exact ⟨average, shows.average.trans known, by simp [Position.basis, known, size], among average known⟩

theorem finish_complete {row : Row} (complete : row.finish.accountingStatus = .complete) :
    row.incompleteReasons = [] := by
  by_contra reasons
  obtain ⟨reason, member⟩ := List.exists_mem_of_ne_nil _ reasons
  have kept : reason ∈ row.incompleteReasons.eraseDups := List.mem_eraseDups.mpr member
  have present : row.incompleteReasons.eraseDups ≠ [] := List.ne_nil_of_mem kept
  simp [Row.finish, present] at complete

/-- Every reported row comes from a tracked row of the book. -/
theorem reported_row {records : List PaperTradeRecord} {result : Accounting} {row : Row}
    (returned : paperAccounting casing records = .ok result)
    (reported : row ∈ result.positions ++ result.closedPositions) :
    ∃ tracked : Row, row = tracked.finish ∧
      tracked.Tracks casing (ofContract tracked.key (chronological records)) ∧
      ofContract tracked.key (chronological records) ≠ [] := by
  unfold paperAccounting at returned
  cases run : Book.run casing ⟨[], []⟩ (chronological records) with
  | error error => simp [run] at returned
  | ok book =>
    simp only [run, Except.ok.injEq] at returned
    subst returned
    have listed : row ∈ (book.grouped.map Row.finish).insertionSort RowBefore := by
      rcases List.mem_append.mp reported with opened | closed
      · exact (List.mem_filter.mp opened).1
      · exact (List.mem_filter.mp closed).1
    obtain ⟨tracked, member, rfl⟩ := List.mem_map.mp
      ((List.perm_insertionSort RowBefore _).mem_iff.mp listed)
    have tracks := book_run casing (emptyBook_tracks casing) run
    rw [List.nil_append] at tracks
    exact ⟨tracked, rfl, tracks.rows tracked member, tracks.traded tracked member⟩

/-- A complete row conserves quantity and cost, and its average stays among the
prices of the fills since it was last opened or flipped. -/
theorem complete_row_conserves (records : List PaperTradeRecord) (result : Accounting) (row : Row)
    (returned : paperAccounting casing records = .ok result)
    (reported : row ∈ result.positions ++ result.closedPositions)
    (complete : row.accountingStatus = .complete)
    (resolved : Resolved 0 (contractFills casing records row.key)) :
    Conserves row (contractFills casing records row.key) := by
  obtain ⟨tracked, rfl, tracks, traded⟩ := reported_row casing returned reported
  have conserves := tracks_conserves casing tracks traded (finish_complete complete) resolved
  obtain ⟨trades, notional, realized, rest⟩ := conserves
  exact ⟨trades, notional, realized, rest⟩

private def sampleTrade (side identity : String) (size price : ℚ) (created : Int) : PaperTradeRecord where
  marketId := text "kalshi"
  contractId := text "rain"
  side := text side
  size := .float (.finite size)
  limitPrice := .float (.finite price)
  accepted := true
  quoteCurrency := text "USD"
  id := .str (text identity)
  createdAt := .int created

/-- Two buys and a sell that flips the position, newest first. -/
private def sampleLedger : List PaperTradeRecord :=
  [sampleTrade "sell" "c" 30 (7 / 10) 3, sampleTrade "buy" "b" 10 (6 / 10) 2,
    sampleTrade "buy" "a" 10 (4 / 10) 1]

private def sampleRow : Row where
  marketId := text "kalshi"
  contractId := text "rain"
  netSize := some (-10)
  notional := some (-7)
  averagePrice := some (7 / 10)
  realized := some 4
  trades := 3
  currency := text "USD"
  accountingStatus := .complete
  incompleteReasons := []
  executionAssumptions := [.assumedFullFillAtLimit]
  quantityUnit := .shares

private def sampleResult : Accounting where
  status := .complete
  positions := [sampleRow]
  closedPositions := []
  realized := some 4
  quoteCurrency := text "USD"
  incompleteReasons := []
  executionAssumptions := [.assumedFullFillAtLimit]

theorem complete_row_conserves_flip :
    Conserves sampleRow (contractFills asciiCasing sampleLedger sampleRow.key) :=
  complete_row_conserves asciiCasing sampleLedger sampleResult sampleRow (by decide +kernel)
    List.mem_cons_self rfl (by decide +kernel)

end MarketSentinel.Paper

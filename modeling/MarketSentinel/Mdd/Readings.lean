import MarketSentinel.Mdd.Historical

/-! What the rows of a sound source read as: every number a calculation takes from them is finite. -/

set_option autoImplicit false

namespace MarketSentinel.Mdd

open Python

section Values

variable {runtime : Runtime} {row : Row}

theorem lowerMap_get {row : Row} {name : Text} {value : Json}
    (found : Dict.get? (lowerMap runtime row) name = some value) :
    ∃ entry ∈ row, runtime.casing.lower entry.1 = name ∧ entry.2 = value := by
  induction row using List.reverseRecOn with
  | nil => cases found
  | append_singleton row entry ih =>
    rw [lowerMap, List.foldl_concat, Dict.get?_set] at found
    split at found
    · rename_i same
      exact ⟨entry, by simp, same, Option.some.inj found⟩
    · obtain ⟨earlier, member, named⟩ := ih found
      exact ⟨earlier, List.mem_append_left _ member, named⟩

/-- What is looked up is null or the value of a field that goes by one of the names. -/
theorem lookup_mem (keys : List String) :
    lookup runtime row keys = .null ∨ ∃ entry ∈ row, entry.2 = lookup runtime row keys ∧
      ∃ key ∈ keys, runtime.casing.lower entry.1 = runtime.casing.lower (text key) := by
  unfold lookup
  split
  · rename_i value found
    obtain ⟨key, among, here⟩ := List.exists_of_findSome?_eq_some found
    exact Or.inr ⟨(text key, value), Dict.mem_of_get? here, rfl, key, among, rfl⟩
  · cases found : keys.findSome? fun key => Dict.get? (lowerMap runtime row) (runtime.casing.lower (text key)) with
    | none => exact Or.inl rfl
    | some value =>
      obtain ⟨key, among, here⟩ := List.exists_of_findSome?_eq_some found
      obtain ⟨entry, member, named, same⟩ := lowerMap_get here
      exact Or.inr ⟨entry, member, same, key, among, named⟩

theorem safeFloat_of_finite {value : Json} {number : ℚ} (finite : finiteNumber value = some number) :
    safeFloat value = some (.finite number) := by
  cases value with
  | int value =>
    obtain rfl := Option.some.inj finite
    rfl
  | float value =>
    cases value with
    | finite value =>
      obtain rfl := Option.some.inj finite
      rfl
    | inf negative => cases finite
    | nan => cases finite
  | str value =>
    have some_ : value ≠ [] := by
      rintro rfl
      have empty : floatText [] = none := by decide
      simp [finiteNumber, empty] at finite
    unfold finiteNumber at finite
    unfold safeFloat PyFloat.ofJson
    cases read : floatText value with
    | none => simp [read] at finite
    | some parsed =>
      cases parsed with
      | finite parsed =>
        simp only [read, Option.some.injEq] at finite
        simp [read, some_, finite, Except.toOption]
      | inf negative => simp [read] at finite
      | nan => simp [read] at finite
  | null => cases finite
  | bool value => cases finite
  | arr items => cases finite
  | obj fields => cases finite

/-- Names that the check of the fields reads as numbers. -/
def Numeric (keys : List String) : Prop :=
  ∀ key ∈ keys, (∀ c ∈ text key, c.val < 128) ∧ (text key).map asciiLower ∈ numericFields

theorem numeric_nil : Numeric [] := fun _ among => absurd among List.not_mem_nil

theorem numeric_cons {key : String} {keys : List String} (name : String) (ascii : ∀ c ∈ text key, c.val < 128)
    (lowered : (text key).map asciiLower = text name) (listed : text name ∈ numericFields) (rest : Numeric keys) :
    Numeric (key :: keys) :=
  List.forall_mem_cons.mpr ⟨⟨ascii, lowered ▸ listed⟩, rest⟩

theorem listed {name : String} (among : name ∈ numericNames) : text name ∈ numericFields := List.mem_map_of_mem among

theorem numeric_notional : Numeric ["usdcSize", "usdc_size", "notional", "value", "cash"] := by
  apply numeric_cons "usdcsize" (by simp [text]) (by decide) (listed (by decide))
  apply numeric_cons "usdc_size" (by simp [text]) (by decide) (listed (by decide))
  apply numeric_cons "notional" (by simp [text]) (by decide) (listed (by decide))
  apply numeric_cons "value" (by simp [text]) (by decide) (listed (by decide))
  exact numeric_cons "cash" (by simp [text]) (by decide) (listed (by decide)) numeric_nil

theorem numeric_size : Numeric ["size", "tokens", "amount"] := by
  apply numeric_cons "size" (by simp [text]) (by decide) (listed (by decide))
  apply numeric_cons "tokens" (by simp [text]) (by decide) (listed (by decide))
  exact numeric_cons "amount" (by simp [text]) (by decide) (listed (by decide)) numeric_nil

theorem numeric_price : Numeric ["price", "avgPrice", "avg_price"] := by
  apply numeric_cons "price" (by simp [text]) (by decide) (listed (by decide))
  apply numeric_cons "avgprice" (by simp [text]) (by decide) (listed (by decide))
  exact numeric_cons "avg_price" (by simp [text]) (by decide) (listed (by decide)) numeric_nil

theorem Numeric.subset {keys others : List String} (numeric : Numeric keys) (subset : others ⊆ keys) : Numeric others :=
  fun key among => numeric key (subset among)

theorem lookup_numeric {keys : List String} (numeric : Numeric keys) (clean : fieldIssues runtime row = []) :
    lookup runtime row keys = .null ∨ ∃ number, finiteNumber (lookup runtime row keys) = some number := by
  rcases @lookup_mem runtime row keys with nothing | ⟨entry, member, same, key, among, named⟩
  · exact Or.inl nothing
  rw [← same]
  by_cases nothing : entry.2 = .null
  · exact Or.inl nothing
  right
  obtain ⟨ascii, inside⟩ := numeric key among
  have issues := List.flatMap_eq_nil_iff.mp clean entry member
  have field : runtime.casing.lower entry.1 ∈ numericFields := by
    rwa [named, runtime.casing.lower_ascii _ ascii]
  rw [entryIssues, if_pos ⟨field, nothing⟩] at issues
  cases read : finiteNumber entry.2 with
  | some number => exact ⟨number, rfl⟩
  | none => simp [read] at issues

/-- A clean row reads as a finite float or as nothing. -/
theorem safeFloat_numeric {keys : List String} (numeric : Numeric keys) (clean : fieldIssues runtime row = []) :
    safeFloat (lookup runtime row keys) = none ∨
      ∃ number, safeFloat (lookup runtime row keys) = some (.finite number) := by
  rcases lookup_numeric numeric clean with nothing | ⟨number, finite⟩
  · exact Or.inl (by simp [nothing, safeFloat])
  · exact Or.inr ⟨number, safeFloat_of_finite finite⟩

/-- The notional of a row as an exact amount; one that is not finite counts as nothing. -/
def tradeAmount (runtime : Runtime) (row : Row) : ℚ :=
  match tradeNotional runtime row with
  | .finite amount => amount
  | _ => 0

theorem tradeNotional_clean (clean : fieldIssues runtime row = []) :
    tradeNotional runtime row = .finite (tradeAmount runtime row) := by
  have sizes : ["size", "tokens"] ⊆ ["size", "tokens", "amount"] := by simp
  have finite : ∃ amount, tradeNotional runtime row = .finite amount := by
    unfold tradeNotional
    rcases safeFloat_numeric numeric_notional clean with none | ⟨explicit, some⟩
    · rw [none]
      dsimp only
      rcases safeFloat_numeric (numeric_size.subset sizes) clean with none | ⟨size, some⟩
      · rw [none]
        exact ⟨0, rfl⟩
      · rw [some]
        rcases safeFloat_numeric numeric_price clean with none | ⟨price, found⟩
        · rw [none]
          exact ⟨0, rfl⟩
        · rw [found]
          exact ⟨|size * price|, rfl⟩
    · rw [some]
      exact ⟨|explicit|, rfl⟩
  obtain ⟨amount, same⟩ := finite
  rw [tradeAmount, same]

end Values

section Sound

variable {runtime : Runtime} {latest : Int} {inputs : MddInputs}

theorem Sound.shaped (sound : Sound runtime latest inputs) {source : Source} {row : Json}
    (member : row ∈ inputs.rows source) : ∃ row', row = .obj row' := by
  have own := sound.own source row member
  cases row with
  | obj row' => exact ⟨row', rfl⟩
  | null => cases own
  | bool value => cases own
  | int value => cases own
  | float value => cases own
  | str value => cases own
  | arr items => cases own

theorem Sound.clean (sound : Sound runtime latest inputs) {source : Source} {row : Json}
    (member : row ∈ inputs.rows source) : fieldIssues runtime (fields row) = [] := by
  obtain ⟨row, rfl⟩ := sound.shaped member
  exact (List.append_eq_nil_iff.mp (sound.own source (.obj row) member)).1

/-- A closed position of a sound source has a second and a finite result. -/
theorem Sound.closed (sound : Sound runtime latest inputs) {row : Json} (member : row ∈ inputs.closedPositions) :
    ∃ second pnl, positionTimestamp runtime latest (fields row) = some second ∧
      realizedPnl runtime (fields row) = some pnl ∧ closedObservation runtime latest row = some (second, pnl) := by
  obtain ⟨row, rfl⟩ := @Sound.shaped _ _ _ sound .closedPositions _ member
  have own := sound.own .closedPositions (.obj row) member
  simp only [ownIssues, List.append_eq_nil_iff, closedIssues, ite_eq_right_iff, List.cons_ne_nil, imp_false,
    Option.isNone_iff_eq_none] at own
  obtain ⟨second, at_second⟩ := Option.ne_none_iff_exists'.mp own.2.2.1
  obtain ⟨pnl, read⟩ := Option.ne_none_iff_exists'.mp own.2.2.2
  exact ⟨second, pnl, at_second, read, by simp [closedObservation, at_second, read]⟩

/-- An open position of a sound source has a finite result. -/
theorem Sound.opened (sound : Sound runtime latest inputs) {row : Json} (member : row ∈ inputs.openPositions) :
    ∃ pnl, positionTotalPnl runtime (fields row) = some (.finite pnl) := by
  obtain ⟨row, rfl⟩ := @Sound.shaped _ _ _ sound .openPositions _ member
  have own := sound.own .openPositions (.obj row) member
  simp only [ownIssues, List.append_eq_nil_iff, openIssues, ite_eq_right_iff, List.cons_ne_nil, imp_false,
    Option.isNone_iff_eq_none] at own
  obtain ⟨pnl, read⟩ := Option.ne_none_iff_exists'.mp own.2.2.1
  unfold openPnl at read
  split at read
  · rename_i found
    exact ⟨_, found⟩
  · cases read

/-- Two results of one second in a sound source do not go opposite ways. -/
theorem Sound.one_way (sound : Sound runtime latest inputs) {first second : Json} {time : Int} {gain loss : ℚ}
    (here : first ∈ inputs.closedPositions) (there : second ∈ inputs.closedPositions)
    (gained : closedObservation runtime latest first = some (time, gain))
    (lost : closedObservation runtime latest second = some (time, loss)) : ¬(0 < gain ∧ loss < 0) := by
  rintro ⟨up, down⟩
  have signs := sound.signs time
  have seen : ∀ row ∈ inputs.closedPositions, ∀ pnl, closedObservation runtime latest row = some (time, pnl) →
      pnl ∈ (((inputs.rows .closedPositions).filterMap (closedObservation runtime latest)).filter
        fun seen => decide (seen.1 = time)).map Prod.snd := by
    intro row member pnl read
    apply List.mem_map.mpr ⟨(time, pnl), List.mem_filter.mpr ⟨List.mem_filterMap.mpr ⟨row, member, read⟩, _⟩, rfl⟩
    exact decide_eq_true rfl
  rw [mixedSigns, Bool.and_eq_false_iff] at signs
  rcases signs with none | none
  · exact absurd (decide_eq_true up) (List.any_eq_false.mp none gain (seen first here gain gained))
  · exact absurd (decide_eq_true down) (List.any_eq_false.mp none loss (seen second there loss lost))

/-- A valid report has no reasons. -/
theorem Sound.report (sound : Sound runtime latest inputs) :
    ∃ quality, sourceQuality runtime latest inputs = .ok quality ∧ quality.valid = true ∧ invalidReasons quality = [] := by
  obtain ⟨quality, reported, valid⟩ := sourceQuality_valid_iff.mpr sound
  refine ⟨quality, reported, valid, ?_⟩
  have hashable : (Source.all.any fun source => (inputs.rows source).any (unhashable runtime latest source)) = false := by
    simp only [List.any_eq_false, Bool.not_eq_true]
    exact fun source _ row member => sound.hashable source row member
  rw [sourceQuality, hashable, if_neg Bool.false_ne_true] at reported
  obtain rfl := Except.ok.inj reported
  apply List.flatMap_eq_nil_iff.mpr
  intro entry member
  obtain ⟨source, _, rfl⟩ := List.mem_map.mp member
  have empty := List.all_eq_true.mp valid _ (List.mem_map_of_mem source.mem_all)
  have none : ∀ issues ∈ sourceIssues runtime latest inputs source, issues = [] := by
    intro issues inside
    have counted := List.countP_eq_zero.mp (beq_iff_eq.mp empty) issues inside
    simpa using counted
  have names : (sourceIssues runtime latest inputs source).flatMap
      (fun issues => (issues.map Issue.name).insertionSort (· ≤ ·)) = [] := by
    apply List.flatMap_eq_nil_iff.mpr
    intro issues inside
    rw [none issues inside]
    rfl
  simp only [qualityOf, reasonsOf, names, List.foldl_nil, List.map_nil]

end Sound

end MarketSentinel.Mdd

import MarketSentinel.Venue.AccountData

/-! The decoders of account data invert the layouts. -/

set_option autoImplicit false

namespace MarketSentinel.Venue

open Python Layout

/-! ## Base64 -/

theorem base64Alphabet_length : base64Alphabet.length = 64 := by decide

theorem sextet_base64Symbol (number : Nat) : sextet (base64Symbol number) = some (number % 64) := by
  have distinct : base64Alphabet.Nodup := by decide
  apply Positional.digit?_getD distinct
  rw [base64Alphabet_length]
  exact Nat.mod_lt _ (by decide)

theorem base64Symbol_ne (number : Nat) : base64Symbol number ≠ 61 := by
  have unpadded : (61 : CodePoint) ∉ base64Alphabet := by decide
  intro padded
  apply unpadded
  rw [← padded, base64Symbol, List.getD_eq_getElem _ _ (by rw [base64Alphabet_length]; exact Nat.mod_lt _ (by decide))]
  exact List.getElem_mem _

theorem ofNat_toNat_of_mod {number : Nat} {byte : UInt8} (same : number % 256 = byte.toNat) : UInt8.ofNat number = byte := by
  apply UInt8.toNat_inj.mp
  rw [UInt8.toNat_ofNat', same]

/-- Padding never comes first. -/
theorem base64Encode_padding {raw : Bytes}
    (padding : (base64Encode raw).all (fun character => decide (character = 61)) = true) : raw = [] := by
  cases raw using base64Encode.fun_cases with
  | case1 => rfl
  | case2 x => simp [base64Encode, base64Symbol_ne] at padding
  | case3 x y => simp [base64Encode, base64Symbol_ne] at padding
  | case4 x y z rest => simp [base64Encode, base64Symbol_ne] at padding

theorem base64Decode_base64Encode (raw : Bytes) : base64Decode (base64Encode raw) = some raw := by
  induction raw using base64Encode.induct with
  | case1 => rfl
  | case2 x =>
    have small := x.toNat_lt
    have first : UInt8.ofNat ((x.toNat * 16 / 64 % 64 * 64 + x.toNat * 16 % 64) / 16) = x :=
      ofNat_toNat_of_mod (by omega)
    simp [base64Encode, base64Decode, sextet_base64Symbol, first]
  | case3 x y =>
    have small := x.toNat_lt
    have smallY := y.toNat_lt
    have unpadded := base64Symbol_ne ((x.toNat * 256 + y.toNat) * 4)
    generalize digits : (x.toNat * 256 + y.toNat) * 4 = number at unpadded
    have first : UInt8.ofNat (((number / 4096 % 64 * 64 + number / 64 % 64) * 64 + number % 64) / 1024) = x :=
      ofNat_toNat_of_mod (by omega)
    have second : UInt8.ofNat (((number / 4096 % 64 * 64 + number / 64 % 64) * 64 + number % 64) / 4) = y :=
      ofNat_toNat_of_mod (by omega)
    simp only [base64Encode, digits]
    rw [base64Decode]
    · simp [sextet_base64Symbol, first, second]
    · exact fun padded => unpadded padded
  | case4 x y z rest ih =>
    have small := x.toNat_lt
    have smallY := y.toNat_lt
    have smallZ := z.toNat_lt
    have unpadded := base64Symbol_ne ((x.toNat * 256 + y.toNat) * 256 + z.toNat)
    generalize digits : (x.toNat * 256 + y.toNat) * 256 + z.toNat = number at unpadded
    have first : UInt8.ofNat ((((number / 262144 % 64 * 64 + number / 4096 % 64) * 64 + number / 64 % 64) * 64 +
        number % 64) / 65536) = x := ofNat_toNat_of_mod (by omega)
    have second : UInt8.ofNat ((((number / 262144 % 64 * 64 + number / 4096 % 64) * 64 + number / 64 % 64) * 64 +
        number % 64) / 256) = y := ofNat_toNat_of_mod (by omega)
    have third : UInt8.ofNat (((number / 262144 % 64 * 64 + number / 4096 % 64) * 64 + number / 64 % 64) * 64 +
        number % 64) = z := ofNat_toNat_of_mod (by omega)
    simp only [base64Encode, digits, List.cons_append, List.nil_append]
    rw [base64Decode]
    · simp only [sextet_base64Symbol, Option.bind_eq_bind, Option.bind_some, Option.pure_def, first, second, third, ih]
      split
      · rename_i padding
        rw [base64Encode_padding padding]
        rfl
      · rfl
    · exact fun _ padded => absurd padded unpadded
    · exact fun padded => absurd padded unpadded

/-! ## Parts -/

theorem keyReader_reads (failure : MarketHTTPError) :
    Reads (keyReader failure) (Through Pubkey.shown Pubkey.bytes) := by
  apply ((take_reads failure 32).map base58Encode).congr
  intro shown written
  constructor
  · rintro ⟨_, ⟨length, rfl⟩, rfl⟩
    exact ⟨⟨written, length⟩, rfl, rfl⟩
  · rintro ⟨key, rfl, rfl⟩
    exact ⟨key.bytes, ⟨key.length, rfl⟩, rfl⟩

section Widths

variable (failure : MarketHTTPError)

theorem u8_reads : Reads (unsigned failure 1) (Through (fun number : Fin 256 => number.val) fun number => little 1 number) :=
  unsigned_reads failure rfl

theorem u16_reads :
    Reads (unsigned failure 2) (Through (fun number : Fin (2 ^ 16) => number.val) fun number => little 2 number) :=
  unsigned_reads failure rfl

theorem u32_reads :
    Reads (unsigned failure 4) (Through (fun number : Fin (2 ^ 32) => number.val) fun number => little 4 number) :=
  unsigned_reads failure rfl

theorem u64_reads :
    Reads (unsigned failure 8) (Through (fun number : Fin (2 ^ 64) => number.val) fun number => little 8 number) :=
  unsigned_reads failure rfl

theorem u128_reads :
    Reads (unsigned failure 16) (Through (fun number : Fin (2 ^ 128) => number.val) fun number => little 16 number) :=
  unsigned_reads failure rfl

end Widths

namespace Hedgehog

theorem marketReader_reads (pubkey : Text) (encodedLength : Nat) :
    Reads (marketReader pubkey encodedLength) (Through (MarketAccount.row · encodedLength) MarketAccount.layout) := by
  unfold marketReader
  dsimp only
  refine Reads.congr
    ((u8_reads _).bind_through fun accountType => Reads.bind_check <|
      (keyReader_reads _).bind_through fun creator => (u32_reads _).bind_through fun index =>
      (keyReader_reads _).bind_through fun resolver => (keyReader_reads _).bind_through fun mint =>
      (signed_reads _ 8).bind_through fun closeTimestamp => (signed_reads _ 8).bind_through fun resolveTimestamp =>
      (signed_reads _ 8).bind_through fun outcomeTimestamp => (u16_reads _).bind_through fun creatorFeeBps =>
      (u16_reads _).bind_through fun platformFeeBps => (u8_reads _).bind_through fun state =>
      (u8_reads _).bind_through fun outcome => (u8_reads _).bind_through fun amountCount => Reads.bind_check <|
      (repeated_reads (u64_reads _) amountCount.val).bind fun amounts =>
      (u32_reads _).bind_through fun uriLength => Reads.bind_check <|
      ((take_reads _ uriLength.val).viewed utf8Decode _).bind fun uri => Reads.check_pure _) ?_
  intro row written
  constructor
  · rintro ⟨accountType, _, ⟨isMarket, creator, _, ⟨index, _, ⟨resolver, _, ⟨mint, _, ⟨closeTimestamp, _,
      ⟨resolveTimestamp, _, ⟨outcomeTimestamp, _, ⟨creatorFeeBps, _, ⟨platformFeeBps, _, ⟨state, _, ⟨outcome, _,
      ⟨amountCount, _, ⟨few, _, _, ⟨amounts, length, rfl, rfl⟩, _, ⟨uriLength, _, ⟨short, uri, _,
      ⟨uriBytes, ⟨size, rfl⟩, decoded⟩, _, ⟨known, rfl, rfl⟩, rfl⟩, rfl⟩, rfl⟩, rfl⟩, rfl⟩, rfl⟩, rfl⟩, rfl⟩, rfl⟩,
      rfl⟩, rfl⟩, rfl⟩, rfl⟩, rfl⟩, rfl⟩, rfl⟩
    have named : state.val < 3 := by
      simp only [List.mem_cons, List.not_mem_nil, or_false] at known
      omega
    refine ⟨⟨creator, index, resolver, mint, closeTimestamp, resolveTimestamp, outcomeTimestamp, creatorFeeBps,
      platformFeeBps, ⟨state, named⟩, outcome, amounts, by rw [length]; exact few, uri, _,
      (utf8Decode_eq_some ..).mp decoded, by rw [size]; exact short⟩, ?_, ?_⟩
    · simp only [MarketAccount.row, isMarket]
    · simp only [MarketAccount.layout, Signed.bytes, isMarket, length, size, List.append_nil]
  · rintro ⟨market, rfl, rfl⟩
    have known : market.state.val ∈ [0, 1, 2] := by
      have small := market.state.isLt
      simp only [List.mem_cons, List.not_mem_nil, or_false]
      omega
    have few := market.few
    have short := market.short
    refine ⟨⟨3, by decide⟩, _, ⟨rfl, market.creator, _, ⟨market.index, _, ⟨market.resolver, _, ⟨market.mint, _,
      ⟨market.closeTimestamp, _, ⟨market.resolveTimestamp, _, ⟨market.outcomeTimestamp, _, ⟨market.creatorFeeBps, _,
      ⟨market.platformFeeBps, _, ⟨⟨market.state, by omega⟩, _, ⟨market.outcome, _, ⟨⟨market.amounts.length, by omega⟩, _,
      ⟨few, _, _, ⟨market.amounts, rfl, rfl, rfl⟩, _, ⟨⟨market.uriBytes.length, by omega⟩, _, ⟨short, market.uri, _,
      ⟨market.uriBytes, ⟨rfl, rfl⟩, (utf8Decode_eq_some ..).mpr market.encoded⟩, _, ⟨known, rfl, rfl⟩, rfl⟩, rfl⟩, rfl⟩,
      rfl⟩, rfl⟩, rfl⟩, rfl⟩, rfl⟩, rfl⟩, rfl⟩, rfl⟩, rfl⟩, rfl⟩, rfl⟩, rfl⟩, ?_⟩
    simp only [MarketAccount.layout, Signed.bytes, List.append_nil]
    rfl

end Hedgehog

namespace Lamas

theorem discriminatorReader_reads (game : Game) (pubkey : Text) :
    Reads (discriminatorReader game pubkey) (Through (fun _ : Unit => ()) fun _ => accountDiscriminator) where
  reads rest writing := by
    obtain ⟨_, rfl, rfl⟩ := writing
    simp [discriminatorReader, accountDiscriminator, StateT.run]
  written read := by
    rename_i bytes rest value
    simp only [discriminatorReader, StateT.run] at read
    split at read
    · cases read
    · rename_i same
      cases read
      refine ⟨accountDiscriminator, ?_, (), rfl, rfl⟩
      conv_lhs => rw [← List.take_append_drop 8 bytes]
      rw [not_not.mp same]

theorem decimalReader_reads (failure : MarketHTTPError) :
    Reads (decimalReader failure) (Through DecimalValue.row DecimalValue.layout) := by
  unfold decimalReader
  refine Reads.congr ((signed_reads _ 16).bind_through fun value => (u32_reads _).bind_through fun decimals =>
    Reads.pure (DecimalRow.mk value decimals)) ?_
  intro row written
  constructor
  · rintro ⟨value, _, ⟨decimals, _, ⟨rfl, rfl⟩, rfl⟩, rfl⟩
    exact ⟨⟨value, decimals⟩, rfl, by simp [DecimalValue.layout, Signed.bytes]⟩
  · rintro ⟨decimal, rfl, rfl⟩
    refine ⟨decimal.value, _, ⟨decimal.decimals, _, ⟨rfl, rfl⟩, rfl⟩, ?_⟩
    rw [List.append_nil]
    rfl

/-- A round and a byte that its flag can have. -/
def Flagged (round : UpOrDown) (flag : Fin 256) : Prop := round.didUpWin = decide (flag.val ≠ 0)

theorem upOrDownReader_reads (pubkey : Text) :
    Reads (upOrDownReader pubkey) fun row written =>
      ∃ (round : UpOrDown) (flag : Fin 256), Flagged round flag ∧ row = round.row ∧ written = round.layoutWith flag := by
  unfold upOrDownReader
  dsimp only
  refine Reads.congr
    ((discriminatorReader_reads _ _).bind_through fun _ => (u64_reads _).bind_through fun roundIndex =>
      (keyReader_reads _).bind_through fun pool => (u64_reads _).bind_through fun upPoolValue =>
      (u64_reads _).bind_through fun downPoolValue => (u8_reads _).bind_through fun flag =>
      (u64_reads _).bind_through fun minBetAmount => (u64_reads _).bind_through fun profitTaxPercentage =>
      (u64_reads _).bind_through fun taxBurnPercentage => (decimalReader_reads _).bind_through fun endPredictStage =>
      (decimalReader_reads _).bind_through fun endLiveStage => (u64_reads _).bind_through fun startRound =>
      (u64_reads _).bind_through fun startLiveStage => (u64_reads _).bind_through fun timeEndLiveStage =>
      (u8_reads _).bind_through fun stage => Reads.check_pure _) ?_
  intro row written
  constructor
  · rintro ⟨_, _, ⟨roundIndex, _, ⟨pool, _, ⟨upPoolValue, _, ⟨downPoolValue, _, ⟨flag, _, ⟨minBetAmount, _,
      ⟨profitTaxPercentage, _, ⟨taxBurnPercentage, _, ⟨endPredictStage, _, ⟨endLiveStage, _, ⟨startRound, _,
      ⟨startLiveStage, _, ⟨timeEndLiveStage, _, ⟨stage, _, ⟨known, rfl, rfl⟩, rfl⟩, rfl⟩, rfl⟩, rfl⟩, rfl⟩, rfl⟩, rfl⟩,
      rfl⟩, rfl⟩, rfl⟩, rfl⟩, rfl⟩, rfl⟩, rfl⟩, rfl⟩
    have named : stage.val < 5 := by
      simp only [List.mem_cons, List.not_mem_nil, or_false] at known
      omega
    refine ⟨⟨roundIndex, pool, upPoolValue, downPoolValue, decide (flag.val ≠ 0), minBetAmount, profitTaxPercentage,
      taxBurnPercentage, endPredictStage, endLiveStage, startRound, startLiveStage, timeEndLiveStage, ⟨stage, named⟩⟩,
      flag, rfl, rfl, ?_⟩
    simp only [UpOrDown.layoutWith, List.append_nil]
  · rintro ⟨round, flag, flagged, rfl, rfl⟩
    have known : round.stage.val ∈ [0, 1, 2, 3, 4] := by
      have small := round.stage.isLt
      simp only [List.mem_cons, List.not_mem_nil, or_false]
      omega
    refine ⟨(), _, ⟨round.roundIndex, _, ⟨round.pool, _, ⟨round.upPoolValue, _, ⟨round.downPoolValue, _, ⟨flag, _,
      ⟨round.minBetAmount, _, ⟨round.profitTaxPercentage, _, ⟨round.taxBurnPercentage, _, ⟨round.priceEndPredictStage, _,
      ⟨round.priceEndLiveStage, _, ⟨round.unixTimeStartRound, _, ⟨round.unixTimeStartLiveStage, _,
      ⟨round.unixTimeEndLiveStage, _, ⟨⟨round.stage, by omega⟩, _, ⟨known, ?_, rfl⟩, rfl⟩, rfl⟩, rfl⟩, rfl⟩, rfl⟩, rfl⟩,
      rfl⟩, rfl⟩, rfl⟩, rfl⟩, rfl⟩, rfl⟩, rfl⟩, rfl⟩, ?_⟩
    · rw [← show round.didUpWin = _ from flagged]
      rfl
    · rw [List.append_nil]
      rfl

theorem pricePredictReader_reads (pubkey : Text) :
    Reads (pricePredictReader pubkey) fun row written =>
      ∃ (round : PricePredict) (bits : Fin (2 ^ 64)), round.resultVec0 = Binary64.ofBits bits ∧ row = round.row ∧
        written = round.layoutWith bits := by
  unfold pricePredictReader
  dsimp only
  refine Reads.congr
    ((discriminatorReader_reads _ _).bind_through fun _ => (keyReader_reads _).bind_through fun pool =>
      (u128_reads _).bind_through fun priceStartStage => (u128_reads _).bind_through fun priceEndStage =>
      (u128_reads _).bind_through fun sumStake => (u128_reads _).bind_through fun sumStakeMulScore =>
      (Binary64.reader_reads _).bind_through fun bits => (u64_reads _).bind_through fun startRound =>
      (u64_reads _).bind_through fun endRound => (u8_reads _).bind_through fun finalized => Reads.check_pure _) ?_
  intro row written
  constructor
  · rintro ⟨_, _, ⟨pool, _, ⟨priceStartStage, _, ⟨priceEndStage, _, ⟨sumStake, _, ⟨sumStakeMulScore, _, ⟨bits, _,
      ⟨startRound, _, ⟨endRound, _, ⟨finalized, _, ⟨known, rfl, rfl⟩, rfl⟩, rfl⟩, rfl⟩, rfl⟩, rfl⟩, rfl⟩, rfl⟩, rfl⟩,
      rfl⟩, rfl⟩
    have named : finalized.val < 2 := by
      simp only [List.mem_cons, List.not_mem_nil, or_false] at known
      omega
    refine ⟨⟨pool, priceStartStage, priceEndStage, sumStake, sumStakeMulScore, Binary64.ofBits bits, startRound, endRound,
      ⟨finalized, named⟩⟩, bits, rfl, rfl, ?_⟩
    simp only [PricePredict.layoutWith, List.append_nil]
  · rintro ⟨round, bits, shown, rfl, rfl⟩
    have known : round.finalized.val ∈ [0, 1] := by
      have small := round.finalized.isLt
      simp only [List.mem_cons, List.not_mem_nil, or_false]
      omega
    refine ⟨(), _, ⟨round.pool, _, ⟨round.priceStartStage, _, ⟨round.priceEndStage, _, ⟨round.sumStake, _,
      ⟨round.sumStakeMulScore, _, ⟨bits, _, ⟨round.unixTimeStartRound, _, ⟨round.unixTimeEndRound, _,
      ⟨⟨round.finalized, by omega⟩, _, ⟨known, ?_, rfl⟩, rfl⟩, rfl⟩, rfl⟩, rfl⟩, rfl⟩, rfl⟩, rfl⟩, rfl⟩, rfl⟩, ?_⟩
    · rw [← shown]
      rfl
    · rw [List.append_nil]
      rfl

end Lamas

/-! ## Rows show everything -/

theorem Pubkey.bytes_of_shown {first second : Pubkey} (same : first.shown = second.shown) : first.bytes = second.bytes :=
  base58Encode_injective first.length second.length same

theorem Hedgehog.MarketAccount.layout_of_row {first second : MarketAccount} {length other : Nat}
    (same : first.row length = second.row other) : first.layout = second.layout := by
  simp only [MarketAccount.row, MarketRow.mk.injEq, true_and] at same
  obtain ⟨creator, index, resolver, mint, close, resolve, outcomeTime, creatorFee, platformFee, state, outcome, amounts,
    uri, -⟩ := same
  have encoded := first.encoded
  rw [uri, second.encoded] at encoded
  have count := congrArg List.length amounts
  rw [List.length_map, List.length_map] at count
  have numbers := congrArg (List.flatMap (little 8)) amounts
  rw [List.flatMap_map, List.flatMap_map] at numbers
  simp only [MarketAccount.layout, Signed.bytes, Pubkey.bytes_of_shown creator, Pubkey.bytes_of_shown resolver,
    Pubkey.bytes_of_shown mint, index, close, resolve, outcomeTime, creatorFee, platformFee, state, outcome, count, numbers,
    Option.some.inj encoded]

namespace Lamas

theorem DecimalValue.layout_of_row {first second : DecimalValue} (same : first.row = second.row) :
    first.layout = second.layout := by
  simp only [DecimalValue.row, DecimalRow.mk.injEq] at same
  simp only [DecimalValue.layout, Signed.bytes, same]

theorem UpOrDown.layout_of_row {first second : UpOrDown} (same : first.row = second.row) (flag : Fin 256) :
    (Flagged first flag ↔ Flagged second flag) ∧ first.layoutWith flag = second.layoutWith flag := by
  simp only [UpOrDown.row, UpOrDownRow.mk.injEq] at same
  obtain ⟨roundIndex, pool, up, down, won, bet, tax, burn, predict, live, start, startLive, endLive, stage⟩ := same
  constructor
  · rw [Flagged, Flagged, won]
  · simp only [UpOrDown.layoutWith, roundIndex, Pubkey.bytes_of_shown pool, up, down, bet, tax, burn,
      DecimalValue.layout_of_row predict, DecimalValue.layout_of_row live, start, startLive, endLive, stage]

theorem PricePredict.layout_of_row {first second : PricePredict} (same : first.row = second.row) (bits : Nat) :
    first.resultVec0 = second.resultVec0 ∧ first.layoutWith bits = second.layoutWith bits := by
  simp only [PricePredict.row, PricePredictRow.mk.injEq, DecimalRow.mk.injEq, Nat.cast_inj, and_true] at same
  obtain ⟨pool, start, ends, stake, score, result, startRound, endRound, finalized⟩ := same
  refine ⟨result, ?_⟩
  simp only [PricePredict.layoutWith, Pubkey.bytes_of_shown pool, start, ends, stake, score, startRound, endRound, finalized]

end Lamas

/-! ## From base64 -/

/-- Account data as an RPC returns it. -/
def accountData (raw : Bytes) : Json := .arr [.str (base64Encode raw), .str (text "base64")]

theorem accountBytes_accountData (account : Text) {raw : Bytes} (small : raw.length ≤ 1000000) :
    accountBytes account (accountData raw) = .ok raw := by
  unfold accountBytes accountData
  dsimp only
  rw [if_pos rfl, base64Decode_base64Encode]
  exact if_neg (Nat.not_lt.mpr small)

/-- Bytes that a reader refuses are refused in base64. -/
theorem accountBytes_refused {α : Type} (account : Text) {raw : Bytes} {next : Bytes → Except MarketHTTPError α}
    (refused : ∃ failure, next raw = .error failure) :
    ∃ failure, (accountBytes account (accountData raw) >>= next) = .error failure := by
  by_cases small : raw.length ≤ 1000000
  · rw [accountBytes_accountData account small]
    exact refused
  · refine ⟨⟨account ++ text " is unexpectedly large."⟩, ?_⟩
    unfold accountBytes accountData
    dsimp only
    rw [if_pos rfl, base64Decode_base64Encode]
    dsimp only
    rw [if_pos (Nat.not_le.mp small)]
    rfl

theorem Hedgehog.marketAccount_inverts (pubkey : Text) :
    (∀ (market : MarketAccount) (trailing : Bytes), (market.layout ++ trailing).length ≤ 1000000 →
      decodeAccountData (accountData (market.layout ++ trailing)) pubkey =
        .ok (market.row (market.layout ++ trailing).length)) ∧
    (∀ (market : MarketAccount) (front back : Bytes), market.layout = front ++ back → back ≠ [] →
      ∃ refused, decodeAccountData (accountData front) pubkey = .error refused) ∧
    ∀ (data : Json) (row : MarketRow), decodeAccountData data pubkey = .ok row →
      ∃ raw, accountBytes (account pubkey) data = .ok raw ∧ (∃ market : MarketAccount, row = market.row raw.length) ∧
        ∀ market : MarketAccount, row = market.row raw.length → market.layout <+: raw := by
  refine ⟨?_, ?_, ?_⟩
  · intro market trailing small
    unfold decodeAccountData
    rw [accountBytes_accountData _ small]
    have read := (marketReader_reads pubkey (market.layout ++ trailing).length).reads trailing ⟨market, rfl, rfl⟩
    simp only [bind, Except.bind]
    rw [read]
    rfl
  · intro market front back split some
    apply accountBytes_refused
    obtain ⟨failure, refused⟩ := (marketReader_reads pubkey front.length).short ⟨market, rfl, split.symm⟩ some
    rw [refused]
    exact ⟨failure, rfl⟩
  · intro data row decoded
    obtain ⟨raw, bytes, decoded⟩ := Result.bind_eq_ok.mp decoded
    obtain ⟨⟨other, rest⟩, read, shown⟩ := Result.bind_eq_ok.mp decoded
    cases shown
    obtain ⟨_, split, market, rfl, rfl⟩ := (marketReader_reads pubkey raw.length).written read
    refine ⟨raw, bytes, ⟨market, rfl⟩, fun second same => ?_⟩
    rw [← MarketAccount.layout_of_row same]
    exact ⟨rest, split.symm⟩

namespace Lamas

theorem flagged_layout (round : UpOrDown) : Flagged round (if round.didUpWin then 1 else 0) := by
  unfold Flagged
  cases round.didUpWin <;> rfl

theorem upOrDown_inverts (pubkey : Text) :
    (∀ (round : UpOrDown) (trailing : Bytes), (round.layout ++ trailing).length ≤ 1000000 →
      decodeAccountData (accountData (round.layout ++ trailing)) .upOrDown pubkey = .ok (.upOrDown round.row)) ∧
    (∀ (round : UpOrDown) (front back : Bytes), round.layout = front ++ back → back ≠ [] →
      ∃ refused, decodeAccountData (accountData front) .upOrDown pubkey = .error refused) ∧
    ∀ (data : Json) (row : RoundRow), decodeAccountData data .upOrDown pubkey = .ok row →
      ∃ raw, accountBytes (account .upOrDown pubkey) data = .ok raw ∧ (∃ round : UpOrDown, row = .upOrDown round.row) ∧
        ∀ round : UpOrDown, row = .upOrDown round.row → ∃ flag, Flagged round flag ∧ round.layoutWith flag <+: raw := by
  refine ⟨?_, ?_, ?_⟩
  · intro round trailing small
    unfold decodeAccountData
    rw [accountBytes_accountData _ small]
    have read := (upOrDownReader_reads pubkey).reads trailing ⟨round, _, flagged_layout round, rfl, rfl⟩
    simp only [bind, Except.bind, UpOrDown.layout]
    rw [read]
    rfl
  · intro round front back split some
    apply accountBytes_refused
    obtain ⟨failure, refused⟩ := (upOrDownReader_reads pubkey).short ⟨round, _, flagged_layout round, rfl, split.symm⟩ some
    simp only [refused]
    exact ⟨failure, rfl⟩
  · intro data row decoded
    obtain ⟨raw, bytes, decoded⟩ := Result.bind_eq_ok.mp decoded
    obtain ⟨⟨other, rest⟩, read, shown⟩ := Result.bind_eq_ok.mp decoded
    cases shown
    obtain ⟨_, split, round, flag, flagged, rfl, rfl⟩ := (upOrDownReader_reads pubkey).written read
    refine ⟨raw, bytes, ⟨round, rfl⟩, fun second same => ?_⟩
    obtain ⟨flags, layouts⟩ := UpOrDown.layout_of_row (RoundRow.upOrDown.inj same) flag
    exact ⟨flag, flags.mp flagged, rest, by rw [← layouts, ← split]⟩

theorem pricePredict_inverts (pubkey : Text) :
    (∀ (round : PricePredict) (trailing : Bytes), (round.layout ++ trailing).length ≤ 1000000 →
      decodeAccountData (accountData (round.layout ++ trailing)) .pricePredict pubkey = .ok (.pricePredict round.row)) ∧
    (∀ (round : PricePredict) (front back : Bytes), round.layout = front ++ back → back ≠ [] →
      ∃ refused, decodeAccountData (accountData front) .pricePredict pubkey = .error refused) ∧
    ∀ (data : Json) (row : RoundRow), decodeAccountData data .pricePredict pubkey = .ok row →
      ∃ raw, accountBytes (account .pricePredict pubkey) data = .ok raw ∧
        (∃ round : PricePredict, row = .pricePredict round.row) ∧
        ∀ round : PricePredict, row = .pricePredict round.row →
          (round.resultVec0 ≠ .nan → round.layout <+: raw) ∧
          ∃ bits : Fin (2 ^ 64), round.resultVec0 = Binary64.ofBits bits ∧ round.layoutWith bits <+: raw := by
  have pattern : ∀ round : PricePredict, round.resultVec0 = Binary64.ofBits (⟨_, round.resultVec0.bits_lt⟩ : Fin (2 ^ 64)) :=
    fun round => round.resultVec0.ofBits_bits.symm
  refine ⟨?_, ?_, ?_⟩
  · intro round trailing small
    unfold decodeAccountData
    rw [accountBytes_accountData _ small]
    have read := (pricePredictReader_reads pubkey).reads trailing ⟨round, _, pattern round, rfl, rfl⟩
    simp only [bind, Except.bind, PricePredict.layout]
    rw [read]
    rfl
  · intro round front back split some
    apply accountBytes_refused
    obtain ⟨failure, refused⟩ := (pricePredictReader_reads pubkey).short ⟨round, _, pattern round, rfl, split.symm⟩ some
    simp only [refused]
    exact ⟨failure, rfl⟩
  · intro data row decoded
    obtain ⟨raw, bytes, decoded⟩ := Result.bind_eq_ok.mp decoded
    obtain ⟨⟨other, rest⟩, read, shown⟩ := Result.bind_eq_ok.mp decoded
    cases shown
    obtain ⟨_, split, round, bits, float, rfl, rfl⟩ := (pricePredictReader_reads pubkey).written read
    refine ⟨raw, bytes, ⟨round, rfl⟩, fun second same => ?_⟩
    obtain ⟨floats, layouts⟩ := PricePredict.layout_of_row (RoundRow.pricePredict.inj same) bits
    have begins : second.layoutWith bits <+: raw := ⟨rest, by rw [← layouts, ← split]⟩
    refine ⟨fun number => ?_, bits, floats ▸ float, begins⟩
    rw [← floats, float] at number
    rw [PricePredict.layout, ← floats, float, Binary64.bits_ofBits bits.isLt number]
    exact begins

end Lamas

/-- The decoders of both venues invert their layouts, and refuse every encoding that is cut short. -/
theorem decodeAccountData_inverts (pubkey : Text) :
    ((∀ (market : Hedgehog.MarketAccount) (trailing : Bytes), (market.layout ++ trailing).length ≤ 1000000 →
        Hedgehog.decodeAccountData (accountData (market.layout ++ trailing)) pubkey =
          .ok (market.row (market.layout ++ trailing).length)) ∧
      (∀ (market : Hedgehog.MarketAccount) (front back : Bytes), market.layout = front ++ back → back ≠ [] →
        ∃ refused, Hedgehog.decodeAccountData (accountData front) pubkey = .error refused) ∧
      ∀ (data : Json) (row : Hedgehog.MarketRow), Hedgehog.decodeAccountData data pubkey = .ok row →
        ∃ raw, accountBytes (Hedgehog.account pubkey) data = .ok raw ∧
          (∃ market : Hedgehog.MarketAccount, row = market.row raw.length) ∧
          ∀ market : Hedgehog.MarketAccount, row = market.row raw.length → market.layout <+: raw) ∧
    ((∀ (round : Lamas.UpOrDown) (trailing : Bytes), (round.layout ++ trailing).length ≤ 1000000 →
        Lamas.decodeAccountData (accountData (round.layout ++ trailing)) .upOrDown pubkey = .ok (.upOrDown round.row)) ∧
      (∀ (round : Lamas.UpOrDown) (front back : Bytes), round.layout = front ++ back → back ≠ [] →
        ∃ refused, Lamas.decodeAccountData (accountData front) .upOrDown pubkey = .error refused) ∧
      ∀ (data : Json) (row : Lamas.RoundRow), Lamas.decodeAccountData data .upOrDown pubkey = .ok row →
        ∃ raw, accountBytes (Lamas.account .upOrDown pubkey) data = .ok raw ∧
          (∃ round : Lamas.UpOrDown, row = .upOrDown round.row) ∧
          ∀ round : Lamas.UpOrDown, row = .upOrDown round.row →
            ∃ flag, Lamas.Flagged round flag ∧ round.layoutWith flag <+: raw) ∧
    ((∀ (round : Lamas.PricePredict) (trailing : Bytes), (round.layout ++ trailing).length ≤ 1000000 →
        Lamas.decodeAccountData (accountData (round.layout ++ trailing)) .pricePredict pubkey =
          .ok (.pricePredict round.row)) ∧
      (∀ (round : Lamas.PricePredict) (front back : Bytes), round.layout = front ++ back → back ≠ [] →
        ∃ refused, Lamas.decodeAccountData (accountData front) .pricePredict pubkey = .error refused) ∧
      ∀ (data : Json) (row : Lamas.RoundRow), Lamas.decodeAccountData data .pricePredict pubkey = .ok row →
        ∃ raw, accountBytes (Lamas.account .pricePredict pubkey) data = .ok raw ∧
          (∃ round : Lamas.PricePredict, row = .pricePredict round.row) ∧
          ∀ round : Lamas.PricePredict, row = .pricePredict round.row →
            (round.resultVec0 ≠ .nan → round.layout <+: raw) ∧
            ∃ bits : Fin (2 ^ 64), round.resultVec0 = Binary64.ofBits bits ∧ round.layoutWith bits <+: raw) :=
  ⟨Hedgehog.marketAccount_inverts pubkey, Lamas.upOrDown_inverts pubkey, Lamas.pricePredict_inverts pubkey⟩

end MarketSentinel.Venue

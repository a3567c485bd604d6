import MarketSentinel.Library.Binary64
import MarketSentinel.Library.Utf8
import MarketSentinel.Venue.Lamas

/-! Accounts on the chain, from base64 to a record.

Both venues read a fixed layout through one cursor. A record shows a public key
in base58, and everything else as the number, the flag or the text that it is.
-/

set_option autoImplicit false

namespace MarketSentinel.Venue

open Python Layout

structure MarketHTTPError where
  message : Text

/-- The bytes of account data; the venues differ in the name of the account. -/
def accountBytes (account : Text) (data : Json) : Except MarketHTTPError Bytes :=
  match data with
  | .arr (.str encoded :: .str encoding :: _) =>
    if encoding = text "base64" then
      match base64Decode encoded with
      | none => .error ⟨account ++ text " returned invalid base64 data."⟩
      | some raw =>
        if 1000000 < raw.length then .error ⟨account ++ text " is unexpectedly large."⟩ else .ok raw
    else .error ⟨account ++ text " did not return base64 account data."⟩
  | _ => .error ⟨account ++ text " did not return base64 account data."⟩

/-- `key()`. -/
def keyReader (failure : MarketHTTPError) : Reader MarketHTTPError Text := base58Encode <$> take failure 32

/-! ## Hedgehog -/

namespace Hedgehog

def accountTypeMarketV1 : Nat := 3

structure MarketRow where
  accountType : Nat
  creator : Text
  index : Nat
  resolver : Text
  mint : Text
  closeTimestamp : Int
  resolveTimestamp : Int
  outcomeTimestamp : Int
  creatorFeeBps : Nat
  platformFeeBps : Nat
  state : Nat
  outcome : Nat
  amounts : List Nat
  uri : Text
  encodedLength : Nat

def account (pubkey : Text) : Text := text "Hedgehog account " ++ pubkey

/-- The fields behind one another, with the checks between them. -/
def marketReader (pubkey : Text) (encodedLength : Nat) : Reader MarketHTTPError MarketRow :=
  let say (message : String) : MarketHTTPError := ⟨account pubkey ++ text message⟩
  let truncated := say " is truncated for the MarketV1 layout."
  do
  let accountType ← unsigned truncated 1
  check (accountType = accountTypeMarketV1) (say " is not a MarketV1 account.")
  let creator ← keyReader truncated
  let index ← unsigned truncated 4
  let resolver ← keyReader truncated
  let mint ← keyReader truncated
  let closeTimestamp ← signed truncated 8
  let resolveTimestamp ← signed truncated 8
  let outcomeTimestamp ← signed truncated 8
  let creatorFeeBps ← unsigned truncated 2
  let platformFeeBps ← unsigned truncated 2
  let state ← unsigned truncated 1
  let outcome ← unsigned truncated 1
  let amountCount ← unsigned truncated 1
  check (amountCount ≤ 64) (say " has an invalid outcome count.")
  let amounts ← repeated (unsigned truncated 8) amountCount
  let uriLength ← unsigned truncated 4
  check (uriLength ≤ 16384) (say " has an invalid URI length.")
  let uri ← viewed (take truncated uriLength) utf8Decode (say " contains an invalid UTF-8 URI.")
  check (state ∈ [0, 1, 2]) (say " has an unknown MarketV1 state.")
  return ⟨accountType, creator, index, resolver, mint, closeTimestamp, resolveTimestamp, outcomeTimestamp, creatorFeeBps,
    platformFeeBps, state, outcome, amounts, uri, encodedLength⟩

def decodeAccountData (data : Json) (pubkey : Text) : Except MarketHTTPError MarketRow := do
  let raw ← accountBytes (account pubkey) data
  return (← (marketReader pubkey raw.length).run raw).1

end Hedgehog

/-! ## Lamas -/

namespace Lamas

/-- `hashlib.sha256(b"account:RoundResult").digest()[:8]`, for both games. -/
def accountDiscriminator : Bytes := [0xd8, 0x0b, 0x15, 0xc4, 0xd5, 0xf0, 0x75, 0xeb]

structure DecimalRow where
  value : Int
  decimals : Nat

structure UpOrDownRow where
  roundIndex : Nat
  pool : Text
  upPoolValue : Nat
  downPoolValue : Nat
  didUpWin : Bool
  minBetAmount : Nat
  profitTaxPercentage : Nat
  taxBurnPercentage : Nat
  priceEndPredictStage : DecimalRow
  priceEndLiveStage : DecimalRow
  unixTimeStartRound : Nat
  unixTimeStartLiveStage : Nat
  unixTimeEndLiveStage : Nat
  stage : Nat

structure PricePredictRow where
  pool : Text
  priceStartStage : DecimalRow
  priceEndStage : DecimalRow
  sumStake : Nat
  sumStakeMulScore : Nat
  resultVec0 : Binary64
  unixTimeStartRound : Nat
  unixTimeEndRound : Nat
  finalized : Nat

inductive RoundRow where
  | upOrDown (row : UpOrDownRow)
  | pricePredict (row : PricePredictRow)

def account (game : Game) (pubkey : Text) : Text := text "Lamas " ++ game.name ++ text " account " ++ pubkey

def truncated (game : Game) (pubkey : Text) : MarketHTTPError :=
  ⟨account game pubkey ++ text " is truncated for the RoundResult layout."⟩

/-- The comparison of `raw[:8]`; the cursor starts behind it. -/
def discriminatorReader (game : Game) (pubkey : Text) : Reader MarketHTTPError Unit := fun bytes =>
  if bytes.take 8 ≠ accountDiscriminator then
    .error ⟨account game pubkey ++ text " is not an Anchor RoundResult account."⟩
  else .ok ((), bytes.drop 8)

def decimalReader (failure : MarketHTTPError) : Reader MarketHTTPError DecimalRow := do
  let value ← signed failure 16
  let decimals ← unsigned failure 4
  return ⟨value, decimals⟩

def upOrDownReader (pubkey : Text) : Reader MarketHTTPError UpOrDownRow :=
  let failure := truncated .upOrDown pubkey
  do
  discriminatorReader .upOrDown pubkey
  let roundIndex ← unsigned failure 8
  let pool ← keyReader failure
  let upPoolValue ← unsigned failure 8
  let downPoolValue ← unsigned failure 8
  let didUpWin ← unsigned failure 1
  let minBetAmount ← unsigned failure 8
  let profitTaxPercentage ← unsigned failure 8
  let taxBurnPercentage ← unsigned failure 8
  let priceEndPredictStage ← decimalReader failure
  let priceEndLiveStage ← decimalReader failure
  let unixTimeStartRound ← unsigned failure 8
  let unixTimeStartLiveStage ← unsigned failure 8
  let unixTimeEndLiveStage ← unsigned failure 8
  let stage ← unsigned failure 1
  check (stage ∈ [0, 1, 2, 3, 4]) ⟨text "Lamas UpOrDown account " ++ pubkey ++ text " has an unknown stage."⟩
  return ⟨roundIndex, pool, upPoolValue, downPoolValue, decide (didUpWin ≠ 0), minBetAmount, profitTaxPercentage,
    taxBurnPercentage, priceEndPredictStage, priceEndLiveStage, unixTimeStartRound, unixTimeStartLiveStage,
    unixTimeEndLiveStage, stage⟩

def pricePredictReader (pubkey : Text) : Reader MarketHTTPError PricePredictRow :=
  let failure := truncated .pricePredict pubkey
  do
  discriminatorReader .pricePredict pubkey
  let pool ← keyReader failure
  let priceStartStage ← unsigned failure 16
  let priceEndStage ← unsigned failure 16
  let sumStake ← unsigned failure 16
  let sumStakeMulScore ← unsigned failure 16
  let resultVec0 ← Binary64.reader failure
  let unixTimeStartRound ← unsigned failure 8
  let unixTimeEndRound ← unsigned failure 8
  let finalized ← unsigned failure 1
  check (finalized ∈ [0, 1]) ⟨text "Lamas PricePredict account " ++ pubkey ++ text " has an invalid finalized flag."⟩
  return ⟨pool, ⟨priceStartStage, 12⟩, ⟨priceEndStage, 12⟩, sumStake, sumStakeMulScore, resultVec0, unixTimeStartRound,
    unixTimeEndRound, finalized⟩

def decodeAccountData (data : Json) (game : Game) (pubkey : Text) : Except MarketHTTPError RoundRow := do
  let raw ← accountBytes (account game pubkey) data
  match game with
  | .upOrDown => return .upOrDown (← (upOrDownReader pubkey).run raw).1
  | .pricePredict => return .pricePredict (← (pricePredictReader pubkey).run raw).1

end Lamas

/-! ## The layouts

A value of a layout carries its ranges. -/

structure Pubkey where
  bytes : Bytes
  length : bytes.length = 32

def Pubkey.shown (key : Pubkey) : Text := base58Encode key.bytes

/-- A signed number of so many bytes. -/
abbrev Signed (width : Nat) := { number : Int // InRange width number }

def Signed.bytes {width : Nat} (number : Signed width) : Bytes := little width (complement width number.val)

namespace Hedgehog

structure MarketAccount where
  creator : Pubkey
  index : Fin (2 ^ 32)
  resolver : Pubkey
  mint : Pubkey
  closeTimestamp : Signed 8
  resolveTimestamp : Signed 8
  outcomeTimestamp : Signed 8
  creatorFeeBps : Fin (2 ^ 16)
  platformFeeBps : Fin (2 ^ 16)
  state : Fin 3
  outcome : Fin 256
  amounts : List (Fin (2 ^ 64))
  few : amounts.length ≤ 64
  uri : Text
  uriBytes : Bytes
  encoded : utf8Encode uri = some uriBytes
  short : uriBytes.length ≤ 16384

def MarketAccount.layout (market : MarketAccount) : Bytes :=
  little 1 accountTypeMarketV1 ++ (market.creator.bytes ++ (little 4 market.index ++ (market.resolver.bytes ++
    (market.mint.bytes ++ (market.closeTimestamp.bytes ++ (market.resolveTimestamp.bytes ++
    (market.outcomeTimestamp.bytes ++ (little 2 market.creatorFeeBps ++ (little 2 market.platformFeeBps ++
    (little 1 market.state ++ (little 1 market.outcome ++ (little 1 market.amounts.length ++
    (market.amounts.flatMap (fun amount => little 8 amount.val) ++ (little 4 market.uriBytes.length ++
      market.uriBytes))))))))))))))

def MarketAccount.row (market : MarketAccount) (encodedLength : Nat) : MarketRow where
  accountType := accountTypeMarketV1
  creator := market.creator.shown
  index := market.index
  resolver := market.resolver.shown
  mint := market.mint.shown
  closeTimestamp := market.closeTimestamp.val
  resolveTimestamp := market.resolveTimestamp.val
  outcomeTimestamp := market.outcomeTimestamp.val
  creatorFeeBps := market.creatorFeeBps
  platformFeeBps := market.platformFeeBps
  state := market.state
  outcome := market.outcome
  amounts := market.amounts.map Fin.val
  uri := market.uri
  encodedLength := encodedLength

end Hedgehog

namespace Lamas

structure DecimalValue where
  value : Signed 16
  decimals : Fin (2 ^ 32)

def DecimalValue.layout (decimal : DecimalValue) : Bytes := decimal.value.bytes ++ little 4 decimal.decimals

def DecimalValue.row (decimal : DecimalValue) : DecimalRow := ⟨decimal.value.val, decimal.decimals⟩

structure UpOrDown where
  roundIndex : Fin (2 ^ 64)
  pool : Pubkey
  upPoolValue : Fin (2 ^ 64)
  downPoolValue : Fin (2 ^ 64)
  didUpWin : Bool
  minBetAmount : Fin (2 ^ 64)
  profitTaxPercentage : Fin (2 ^ 64)
  taxBurnPercentage : Fin (2 ^ 64)
  priceEndPredictStage : DecimalValue
  priceEndLiveStage : DecimalValue
  unixTimeStartRound : Fin (2 ^ 64)
  unixTimeStartLiveStage : Fin (2 ^ 64)
  unixTimeEndLiveStage : Fin (2 ^ 64)
  stage : Fin 5

/-- The layout with some byte for the flag. -/
def UpOrDown.layoutWith (round : UpOrDown) (flag : Fin 256) : Bytes :=
  accountDiscriminator ++ (little 8 round.roundIndex ++ (round.pool.bytes ++ (little 8 round.upPoolValue ++
    (little 8 round.downPoolValue ++ (little 1 flag ++ (little 8 round.minBetAmount ++
    (little 8 round.profitTaxPercentage ++ (little 8 round.taxBurnPercentage ++ (round.priceEndPredictStage.layout ++
    (round.priceEndLiveStage.layout ++ (little 8 round.unixTimeStartRound ++ (little 8 round.unixTimeStartLiveStage ++
    (little 8 round.unixTimeEndLiveStage ++ little 1 round.stage)))))))))))))

def UpOrDown.layout (round : UpOrDown) : Bytes := round.layoutWith (if round.didUpWin then 1 else 0)

def UpOrDown.row (round : UpOrDown) : UpOrDownRow where
  roundIndex := round.roundIndex
  pool := round.pool.shown
  upPoolValue := round.upPoolValue
  downPoolValue := round.downPoolValue
  didUpWin := round.didUpWin
  minBetAmount := round.minBetAmount
  profitTaxPercentage := round.profitTaxPercentage
  taxBurnPercentage := round.taxBurnPercentage
  priceEndPredictStage := round.priceEndPredictStage.row
  priceEndLiveStage := round.priceEndLiveStage.row
  unixTimeStartRound := round.unixTimeStartRound
  unixTimeStartLiveStage := round.unixTimeStartLiveStage
  unixTimeEndLiveStage := round.unixTimeEndLiveStage
  stage := round.stage

structure PricePredict where
  pool : Pubkey
  priceStartStage : Fin (2 ^ 128)
  priceEndStage : Fin (2 ^ 128)
  sumStake : Fin (2 ^ 128)
  sumStakeMulScore : Fin (2 ^ 128)
  resultVec0 : Binary64
  unixTimeStartRound : Fin (2 ^ 64)
  unixTimeEndRound : Fin (2 ^ 64)
  finalized : Fin 2

/-- The layout with some bits for the float. -/
def PricePredict.layoutWith (round : PricePredict) (bits : Nat) : Bytes :=
  accountDiscriminator ++ (round.pool.bytes ++ (little 16 round.priceStartStage ++ (little 16 round.priceEndStage ++
    (little 16 round.sumStake ++ (little 16 round.sumStakeMulScore ++ (little 8 bits ++
    (little 8 round.unixTimeStartRound ++ (little 8 round.unixTimeEndRound ++ little 1 round.finalized))))))))

def PricePredict.layout (round : PricePredict) : Bytes := round.layoutWith round.resultVec0.bits

def PricePredict.row (round : PricePredict) : PricePredictRow where
  pool := round.pool.shown
  priceStartStage := ⟨round.priceStartStage.val, 12⟩
  priceEndStage := ⟨round.priceEndStage.val, 12⟩
  sumStake := round.sumStake
  sumStakeMulScore := round.sumStakeMulScore
  resultVec0 := round.resultVec0
  unixTimeStartRound := round.unixTimeStartRound
  unixTimeEndRound := round.unixTimeEndRound
  finalized := round.finalized

end Lamas

end MarketSentinel.Venue

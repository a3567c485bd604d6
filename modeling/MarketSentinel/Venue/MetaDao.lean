import MarketSentinel.Venue.SignedTransaction

/-! The MetaDAO order that a signed router transaction carries.

The router program of a forwarded transaction is compared with a reviewed list.
-/

set_option autoImplicit false

namespace MarketSentinel.Venue.MetaDao

open Python

/-- The catalogue leaves live trading out of the capabilities. -/
def adapter : MarketAdapter where
  marketId := text "metadao"
  displayName := text "MetaDAO"
  liveTrading := false
  liveOrderSides := ["BUY", "SELL"].map text
  liveOrderExposureModel := text "full_size_upper_bound"
  liveOrderExposure _ size limitPrice := .ok (fullSizeExposure size limitPrice)

/-- What an order reads outside the adapter. -/
structure Outside where
  /-- `urlsplit` finds an absolute http(s) address without query and fragment. -/
  absoluteUrl : Text → Bool
  /-- The answer of `/api/tickers`. -/
  tickers : Except Stopped Json
  /-- `repr` of a text. -/
  quoted : Text → Text

/-- What `sendTransaction` is called with, and what the report of the order repeats. -/
structure Submission where
  rpcUrl : Text
  signed : Text
  tickerId : Text
  router : Text
  instruction : Text
  raw : Bytes

section Model

variable (runtime : Runtime) (config : Dict Text Json) (outside : Outside)

def requiredTickerId (value : Text) : Except Stopped Text := do
  let tickerId := strip value
  require (tickerId ≠ [] ∧ (∀ c ∈ text "\\/?#%", c ∉ tickerId) ∧ tickerId.length ≤ 200)
    (text "MetaDAO ticker id is invalid.")
  return tickerId

def splitContractId (contractId : Text) : Except Stopped Text := do
  let wrong := text "MetaDAO contract id must be '<ticker_id>:0'."
  let (tickerId, last) ← demand (splitLast (strip contractId)) wrong
  require (last = text "0") wrong
  requiredTickerId tickerId

def isPositive : PyFloat → Bool
  | .finite number => decide (0 < number)
  | _ => false

def validateOrder (adapter : MarketAdapter) (order : OrderRequest) : Except Stopped Text := do
  checked (ensureOrderMarket adapter order)
  let tickerId ← splitContractId order.contractId
  require (runtime.casing.upper order.side ∈ adapter.liveOrderSides) (text "MetaDAO order side must be BUY or SELL.")
  require (isPositive order.size) (text "MetaDAO order size must be positive and finite.")
  require (order.limitPrice.all isPositive) (text "MetaDAO order limit price must be positive and finite.")
  return tickerId

/-- `.rstrip("/")`. -/
def withoutSlashes (value : Text) : Text := (value.reverse.dropWhile fun c => decide (c = 47)).reverse

def configuredRpcUrl : Except Stopped Text :=
  let configured := firstOf config "metadao_solana_rpc_url" "solana_rpc_url"
  if configured.truthy = false then .ok []
  else do
    let value := withoutSlashes (strip (str runtime configured))
    require (outside.absoluteUrl value)
      (text "MetaDAO Solana RPC URL must be an absolute http(s) URL without query or fragment.")
    return value

/-- `str.casefold` of an address, which is ASCII. -/
def casefold (address : Text) : Text := address.map asciiLower

def routerProgramIds : Except Stopped (List Text) :=
  let configured := field config "metadao_router_program_ids"
  if blank configured then .ok []
  else
    let values := match configured with
      | .arr items => items
      | other => (split 44 (str runtime other)).map .str
    values.foldlM (fun addresses value => do
      let address ← checked (decodeSolanaAddress (text "router program id") (strOrEmpty runtime value))
      return if casefold address ∈ addresses.map casefold then addresses else addresses ++ [address]) []

/-- The rows of a ticker answer that are objects. -/
def tickers : Except Stopped (List (Dict Text Json)) := do
  let rows (value : Json) : Option (List (Dict Text Json)) := match value with
    | .arr items => some (items.filterMap asObject)
    | _ => none
  let payload ← outside.tickers
  let found := match payload with
    | .obj fields => ["data", "tickers", "result"].findSome? fun key => rows (field fields key)
    | other => rows other
  demand found (text "MetaDAO /api/tickers returned an unsupported payload shape.")

def tickerIdOf (row : Dict Text Json) : Text :=
  let value := firstFilled row ["ticker_id", "tickerId", "id"]
  if blank value then [] else strip (str runtime value)

def findTicker (tickerId : Text) : Except Stopped (Dict Text Json) := do
  let rows ← tickers outside
  let found := rows.filter fun row => decide (tickerIdOf runtime row = tickerId)
  require (found.length ≤ 1)
    (text "MetaDAO ticker " ++ outside.quoted tickerId ++ text " is ambiguous across multiple pools.")
  return found.headD []

/-- Every check before `sendTransaction`. -/
def placeLiveOrder (adapter : MarketAdapter) (order : OrderRequest) : Except Stopped Submission := do
  checked (ensureCapability adapter)
  let tickerId ← validateOrder runtime adapter order
  let _ ← checked (preflightLiveOrder runtime adapter config order (text "MetaDAO live trading"))
  require (configBool runtime config "metadao_submit_signed_transactions")
    (text ("MetaDAO live trading requires metadao_submit_signed_transactions=true " ++
      "after reviewing the signed router transaction."))
  let rpcUrl ← configuredRpcUrl runtime config outside
  require (rpcUrl ≠ [])
    (text ("MetaDAO live orders require an explicit metadao_solana_rpc_url or solana_rpc_url " ++
      "for transaction submission."))
  let allowlisted ← routerProgramIds runtime config
  require (allowlisted ≠ [])
    (text "MetaDAO live orders require at least one explicitly reviewed metadao_router_program_ids entry.")
  let row ← findTicker runtime outside tickerId
  require (row ≠ []) (text "MetaDAO ticker " ++ outside.quoted tickerId ++ text " was not found.")
  let signed := strippedOf runtime order.metadata "signed_transaction" "signedTransaction"
  let raw ← decodeSignedTransaction "MetaDAO" signed
  let router ← checked (decodeSolanaAddress (text "router program id")
    (strOrEmpty runtime (firstOf order.metadata "router_program_id" "program_id")))
  require (casefold router ∈ allowlisted.map casefold)
    (text "MetaDAO signed transaction metadata targets a program outside the reviewed router allow-list.")
  require (strippedOf runtime order.metadata "ticker_id" "market_id" = tickerId)
    (text "MetaDAO signed transaction metadata targets a different ticker.")
  let expectedPool := strip (strOrEmpty runtime (firstFilled row ["pool_id", "poolId"]))
  require (expectedPool = [] ∨ strip (strOrEmpty runtime (field order.metadata "pool_id")) = expectedPool)
    (text "MetaDAO signed transaction metadata targets a different pool.")
  let instruction := runtime.casing.lower (strippedOf runtime order.metadata "instruction" "method")
  require (instruction ∈ ["swap", "buy", "sell"].map text)
    (text "MetaDAO live orders require reviewed swap/buy/sell instruction metadata.")
  let side := runtime.casing.upper order.side
  require (¬(side = text "BUY" ∧ instruction = text "sell" ∨ side = text "SELL" ∧ instruction = text "buy"))
    (text "MetaDAO instruction metadata does not match the requested order side.")
  require (strippedOf runtime order.metadata "instruction_data" "data" ≠ [])
    (text "MetaDAO live orders require reviewed instruction_data metadata.")
  return { rpcUrl, signed, tickerId, router, instruction, raw }

end Model

/-- The catalogued adapter sends nothing. -/
theorem placeLiveOrder_unsupported (runtime : Runtime) (config : Dict Text Json) (outside : Outside)
    (order : OrderRequest) :
    placeLiveOrder runtime config outside adapter order =
      .error (.refused (.unsupportedFeature (text "metadao") (text "live_trading"))) := rfl

section Gate

variable {runtime : Runtime} {config : Dict Text Json} {outside : Outside}

/-- A forwarded transaction names a router that is a reviewed one up to the case of letters. -/
theorem placeLiveOrder_router {adapter : MarketAdapter} {order : OrderRequest} {submission : Submission}
    (placed : placeLiveOrder runtime config outside adapter order = .ok submission) :
    ∃ addresses allowed, routerProgramIds runtime config = .ok addresses ∧ allowed ∈ addresses ∧
      casefold submission.router = casefold allowed ∧
      ∃ key : Bytes, key.length = 32 ∧ submission.router = base58Encode key := by
  obtain ⟨_, _, placed⟩ := Result.bind_eq_ok.mp placed
  obtain ⟨_, _, placed⟩ := Result.bind_eq_ok.mp placed
  obtain ⟨_, _, placed⟩ := Result.bind_eq_ok.mp placed
  obtain ⟨_, _, placed⟩ := Result.bind_eq_ok.mp placed
  obtain ⟨_, _, placed⟩ := Result.bind_eq_ok.mp placed
  obtain ⟨_, _, placed⟩ := Result.bind_eq_ok.mp placed
  obtain ⟨addresses, listed, placed⟩ := Result.bind_eq_ok.mp placed
  obtain ⟨_, _, placed⟩ := Result.bind_eq_ok.mp placed
  obtain ⟨_, _, placed⟩ := Result.bind_eq_ok.mp placed
  obtain ⟨_, _, placed⟩ := Result.bind_eq_ok.mp placed
  obtain ⟨_, _, placed⟩ := Result.bind_eq_ok.mp placed
  obtain ⟨router, read, placed⟩ := Result.bind_eq_ok.mp placed
  obtain ⟨_, reviewed, placed⟩ := Result.bind_eq_ok.mp placed
  obtain ⟨_, _, placed⟩ := Result.bind_eq_ok.mp placed
  obtain ⟨_, _, placed⟩ := Result.bind_eq_ok.mp placed
  obtain ⟨_, _, placed⟩ := Result.bind_eq_ok.mp placed
  obtain ⟨_, _, placed⟩ := Result.bind_eq_ok.mp placed
  obtain ⟨_, _, placed⟩ := Result.bind_eq_ok.mp placed
  obtain rfl := Except.ok.inj placed
  rw [checked_eq_ok, decodeSolanaAddress_eq_ok] at read
  rw [require_eq_ok, List.mem_map] at reviewed
  obtain ⟨allowed, member, same⟩ := reviewed
  obtain ⟨rfl, key, full, written⟩ := read
  exact ⟨addresses, allowed, listed, member, same.symm, key, full, written⟩

/-- Keys that differ only in the case of letters are not told apart; any other router has a reviewed key. -/
theorem placeLiveOrder_key {adapter : MarketAdapter} {order : OrderRequest} {submission : Submission}
    (placed : placeLiveOrder runtime config outside adapter order = .ok submission) :
    ∃ addresses key, routerProgramIds runtime config = .ok addresses ∧ key.length = 32 ∧
      submission.router = base58Encode key ∧
      ((∀ allowed ∈ addresses, casefold allowed = casefold submission.router → allowed = submission.router) →
        ∃ allowed ∈ addresses, lamasBase58Decode allowed = .ok key) := by
  obtain ⟨addresses, allowed, listed, member, same, key, full, written⟩ := placeLiveOrder_router placed
  refine ⟨addresses, key, listed, full, written, fun exact_case => ⟨allowed, member, ?_⟩⟩
  rw [exact_case allowed member same.symm, written]
  exact lamasBase58Decode_reads.returns key full

end Gate

/-- The four readers accept what 32 bytes are written as, the wallet reader also behind its tag, and
give back those bytes or that text; the gate of the router list compares bytes but for the case of letters,
and the catalogued adapter sends nothing. -/
theorem solana_identities_are_their_bytes :
    ReadsKeys hedgehogBase58Decode ∧ ReadsKeys lamasBase58Decode ∧
    (∀ label raw address, decodeSolanaAddress label raw = .ok address ↔
      address = strip raw ∧ ∃ key : Bytes, key.length = 32 ∧ strip raw = base58Encode key) ∧
    (∀ casing raw identity, normalizeSolanaIdentity casing raw = some identity ↔
      ∃ key : Bytes, key.length = 32 ∧ untagged casing raw = base58Encode key ∧
        identity = text "solana:" ++ base58Encode key) ∧
    (∀ casing raw (key : Bytes), key.length = 32 → strip raw = base58Encode key →
      untagged casing raw = base58Encode key) ∧
    (∀ casing raw other identity otherIdentity (key otherKey : Bytes), key.length = 32 → otherKey.length = 32 →
      untagged casing raw = base58Encode key → untagged casing other = base58Encode otherKey →
      normalizeSolanaIdentity casing raw = some identity → normalizeSolanaIdentity casing other = some otherIdentity →
      (identity = otherIdentity ↔ key = otherKey)) ∧
    (∀ runtime config outside anyAdapter order submission,
      placeLiveOrder runtime config outside anyAdapter order = .ok submission →
      ∃ addresses key, routerProgramIds runtime config = .ok addresses ∧ key.length = 32 ∧
        submission.router = base58Encode key ∧
        ((∀ allowed ∈ addresses, casefold allowed = casefold submission.router → allowed = submission.router) →
          ∃ allowed ∈ addresses, lamasBase58Decode allowed = .ok key)) ∧
    ∀ runtime config outside order, placeLiveOrder runtime config outside adapter order =
      .error (.refused (.unsupportedFeature (text "metadao") (text "live_trading"))) := by
  refine ⟨hedgehogBase58Decode_reads, lamasBase58Decode_reads, fun _ _ _ => decodeSolanaAddress_eq_ok,
    fun _ _ _ => normalizeSolanaIdentity_eq_some, fun casing _ _ full written => untagged_base58Encode casing full written,
    ?_, fun _ _ _ _ _ _ placed => placeLiveOrder_key placed, placeLiveOrder_unsupported⟩
  intro casing raw other identity otherIdentity key otherKey full otherFull plain otherPlain read otherRead
  obtain ⟨first, _, firstPlain, rfl⟩ := normalizeSolanaIdentity_eq_some.mp read
  obtain ⟨second, _, secondPlain, rfl⟩ := normalizeSolanaIdentity_eq_some.mp otherRead
  rw [List.append_cancel_left_eq, ← firstPlain, ← secondPlain, plain, otherPlain]
  exact ⟨base58Encode_injective full otherFull, fun same => by rw [same]⟩

/-- The wallet reader takes a tagged key, which is no base58 text. -/
theorem tagged_key_accepted :
    normalizeSolanaIdentity asciiCasing (text "Solana: 11111111111111111111111111111111") =
        some (text "solana:11111111111111111111111111111111") ∧
      ¬∃ key : Bytes, key.length = 32 ∧
        strip (text "Solana: 11111111111111111111111111111111") = base58Encode key := by
  refine ⟨by decide, ?_⟩
  rintro ⟨key, full, written⟩
  have colon : (58 : CodePoint) ∈ base58Encode key := by
    rw [← written]
    decide
  exact absurd (base58Encode_symbols (ne_nil_of_length full) 58 colon) (by decide)

end MarketSentinel.Venue.MetaDao

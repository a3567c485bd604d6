import MarketSentinel.Venue.SignedWire

/-! Batches of JSON-RPC calls, whatever the server answers.

The server sees all calls so far and may answer each in any way. An adapter asks again
for what was limited, and gives up after a number of retries.
-/

set_option autoImplicit false

namespace MarketSentinel.Venue.Trueo

open Python

inductive RpcError where
  | http (message : Text)
  | configuration (message : Text)
  /-- Any other exception. -/
  | raised

structure Request where
  id : ℤ
  method : Text
  params : Json
  deriving DecidableEq

/-- What one call of the endpoint gives: an HTTP error, another exception, or a document. -/
inductive Reply where
  | failed (message : Text)
  | raised
  | payload (value : Json)

structure Exchange where
  asked : List Request
  reply : Reply

abbrev Server := List Exchange → List Request → Reply

structure TrueoAdapter where
  runtime : Runtime
  casefold : Text → Text
  rpcMaxRetries : Nat
  batchCallSize : Nat
  logQueryBlocks : Nat
  maxTradeLogs : Nat
  batchPositive : 0 < batchCallSize
  blocksPositive : 0 < logQueryBlocks

section Batch

variable (adapter : TrueoAdapter)

/-- `_is_rate_limit_error` of the text of an exception. -/
def isRateLimitText (message : Text) : Bool :=
  [text "429", text "rate limit", text "over rate", text "-32016"].any fun sign =>
    decide (sign <:+: adapter.casefold message)

def isRateLimitError (value : Json) : Bool := isRateLimitText adapter (strOrEmpty adapter.runtime value)

def httpError {α : Type} (message : String) : Except RpcError α := .error (.http (text message))

/-- `int(item.get("id"))`. -/
def responseId (value : Json) : Except RpcError ℤ :=
  match intOf value with
  | .ok (some id) => .ok id
  | .ok none => httpError "Trueo JSON-RPC batch contained a malformed response id."
  | .error _ => .error .raised

/-- The locals of the loop over the items of a response. -/
structure Reading where
  seen : List ℤ
  retry : List ℤ
  responses : Dict ℤ Json

/-- The answer is `.null` for an error of the item, and for a result that is null or absent. -/
def readItem (pending : List Request) (reading : Reading) (item : Json) : Except RpcError Reading :=
  match item with
  | .obj fields =>
    if isBool (field fields "id") then httpError "Trueo JSON-RPC batch contained a malformed response item."
    else
      match responseId (field fields "id") with
      | .error stopped => .error stopped
      | .ok requestId =>
        if requestId ∉ pending.map Request.id ∨ requestId ∈ reading.seen ∨ (reading.responses.get? requestId).isSome then
          httpError "Trueo JSON-RPC batch contained an unknown or duplicate response id."
        else if field fields "error" ≠ .null then
          if isRateLimitError adapter (field fields "error") then
            .ok ⟨reading.seen ++ [requestId], reading.retry ++ [requestId], reading.responses⟩
          else .ok ⟨reading.seen ++ [requestId], reading.retry, reading.responses.set requestId .null⟩
        else .ok ⟨reading.seen ++ [requestId], reading.retry, reading.responses.set requestId (field fields "result")⟩
  | _ => httpError "Trueo JSON-RPC batch contained a malformed response item."

inductive Verdict where
  | stop (why : RpcError)
  | again (pending : List Request) (responses : Dict ℤ Json)
  | done (responses : Dict ℤ Json)

/-- The part of an attempt that reads a response; `final` says that no retry is left. -/
def readResponse (final : Bool) (pending : List Request) (responses : Dict ℤ Json) (items : List Json) : Verdict :=
  match items.foldlM (readItem adapter pending) ⟨[], [], responses⟩ with
  | .error stopped => .stop stopped
  | .ok reading =>
    if ¬ (pending.map Request.id ⊆ reading.seen ∧ reading.seen ⊆ pending.map Request.id) then
      .stop (.http (text "Trueo JSON-RPC batch response omitted one or more requested calls."))
    else if reading.retry = [] then .done reading.responses
    else if final then
      .stop (.http (text "Trueo JSON-RPC batch remained rate-limited after bounded retries."))
    else .again (pending.filter fun request => decide (request.id ∈ reading.retry)) reading.responses

/-- One attempt for the pending requests. -/
def attempt (final : Bool) (pending : List Request) (responses : Dict ℤ Json) : Reply → Verdict
  | .failed message =>
    if isRateLimitText adapter message ∧ final = false then .again pending responses else .stop (.http message)
  | .raised => .stop .raised
  | .payload (.arr items) => readResponse adapter final pending responses items
  | .payload (.obj fields) =>
    if field fields "error" ≠ .null then
      if isRateLimitError adapter (field fields "error") then
        if final then .stop (.http (text "Trueo JSON-RPC batch remained rate-limited after bounded retries."))
        else .again pending responses
      else .stop (.http (text "Trueo JSON-RPC batch error: " ++ str adapter.runtime (field fields "error")))
    else .stop (.http (text "Trueo JSON-RPC batch response was not a JSON array."))
  | .payload _ => .stop (.http (text "Trueo JSON-RPC batch response was not a JSON array."))

variable (server : Server)

/-- The attempts for one chunk, with the calls so far. The number is the one of the retries that are left. -/
def callChunk : Nat → List Exchange → List Request → Dict ℤ Json → List Exchange × Except RpcError (Dict ℤ Json)
  | retries, log, pending, responses =>
    let reply := server log pending
    let log := log ++ [⟨pending, reply⟩]
    match attempt adapter (decide (retries = 0)) pending responses reply with
    | .stop why => (log, .error why)
    | .done responses => (log, .ok responses)
    | .again pending responses =>
      match retries with
      | 0 => (log, .ok responses)
      | retries + 1 => callChunk retries log pending responses

def callChunks : List (List Request) → List Exchange → Dict ℤ Json → List Exchange × Except RpcError (Dict ℤ Json)
  | [], log, responses => (log, .ok responses)
  | chunk :: chunks, log, responses =>
    match callChunk adapter server adapter.rpcMaxRetries log chunk responses with
    | (log, .ok responses) => callChunks chunks log responses
    | stopped => stopped

/-- `requests[offset : offset + size]` for each offset of `range(0, len(requests), size)`. -/
def chunksOf (size : Nat) (requests : List Request) : List (List Request) :=
  (List.range ((requests.length + size - 1) / size)).map fun i => (requests.drop (i * size)).take size

def batchRpcRequests (requests : List Request) : List Exchange × Except RpcError (Dict ℤ Json) :=
  if requests = [] then ([], .ok [])
  else if ¬ (requests.map Request.id).Nodup then
    ([], .error (.configuration (text "Trueo JSON-RPC batch ids must be unique.")))
  else
    match callChunks adapter server (chunksOf adapter.batchCallSize requests) [] [] with
    | (log, .error why) => (log, .error why)
    | (log, .ok responses) =>
      if ¬ (responses.map Prod.fst ⊆ requests.map Request.id ∧ requests.map Request.id ⊆ responses.map Prod.fst) then
        (log, httpError "Trueo JSON-RPC batch response omitted one or more requested calls.")
      else (log, .ok responses)

end Batch

section Answers

variable (adapter : TrueoAdapter)

/-- The id and the answer of an item that is not limited. -/
def answerOf : Json → Option (ℤ × Json)
  | .obj fields =>
    match responseId (field fields "id") with
    | .ok id =>
      if field fields "error" ≠ .null then
        if isRateLimitError adapter (field fields "error") then none else some (id, .null)
      else some (id, field fields "result")
    | .error _ => none
  | _ => none

def Exchange.answers (exchange : Exchange) : List (ℤ × Json) :=
  match exchange.reply with
  | .payload (.arr items) => items.filterMap (answerOf adapter)
  | _ => []

def answers (log : List Exchange) : List (ℤ × Json) := log.flatMap (Exchange.answers adapter)

theorem answers_append (log others : List Exchange) : answers adapter (log ++ others) = answers adapter log ++ answers adapter others :=
  List.flatMap_append

variable {adapter} {pending : List Request}

/-- An item that is accepted answers a pending request that has no answer yet, or asks to try it again. -/
theorem readItem_ok {reading next : Reading} {item : Json} (read : readItem adapter pending reading item = .ok next) :
    ∃ id ∈ pending.map Request.id, id ∉ reading.seen ∧ id ∉ reading.responses.map Prod.fst ∧
      next.seen = reading.seen ++ [id] ∧
      (answerOf adapter item = none ∧ next.retry = reading.retry ++ [id] ∧ next.responses = reading.responses ∨
        ∃ value, answerOf adapter item = some (id, value) ∧ next.retry = reading.retry ∧
          next.responses = reading.responses ++ [(id, value)]) := by
  cases item with
  | obj fields =>
    unfold readItem at read
    dsimp only at read
    split at read
    · cases read
    · cases named : responseId (field fields "id") with
      | error stopped =>
        rw [named] at read
        cases read
      | ok id =>
        rw [named] at read
        dsimp only at read
        split at read
        · cases read
        · rename_i expected
          rw [not_or, not_or, not_not, Dict.get?_isSome_iff] at expected
          obtain ⟨asked, unseen, open_⟩ := expected
          refine ⟨id, asked, unseen, open_, ?_⟩
          unfold answerOf
          dsimp only
          rw [named]
          dsimp only
          split at read
          · rename_i failed
            rw [if_pos failed]
            split at read
            · rename_i limited
              rw [if_pos limited]
              cases read
              exact ⟨rfl, .inl ⟨rfl, rfl, rfl⟩⟩
            · rename_i reverted
              rw [if_neg reverted]
              cases read
              exact ⟨rfl, .inr ⟨_, rfl, rfl, Dict.set_of_notMem open_ _⟩⟩
          · rename_i succeeded
            rw [if_neg succeeded]
            cases read
            exact ⟨rfl, .inr ⟨_, rfl, rfl, Dict.set_of_notMem open_ _⟩⟩
  | _ => cases read

/-- What the items read so far say, after the answers from before. -/
structure ReadSoFar (adapter : TrueoAdapter) (pending : List Request) (before : Dict ℤ Json) (items : List Json)
    (reading : Reading) : Prop where
  responses : reading.responses = before ++ items.filterMap (answerOf adapter)
  unique : (reading.responses.map Prod.fst).Nodup
  asked : reading.seen ⊆ pending.map Request.id
  answered : ∀ id ∈ (items.filterMap (answerOf adapter)).map Prod.fst, id ∈ reading.seen ∧ id ∉ reading.retry
  retried : reading.retry ⊆ reading.seen

theorem readItems_ok {before : Dict ℤ Json} (unique : (before.map Prod.fst).Nodup) {items : List Json} {reading : Reading}
    (read : items.foldlM (readItem adapter pending) ⟨[], [], before⟩ = .ok reading) :
    ReadSoFar adapter pending before items reading := by
  induction items using List.reverseRecOn generalizing reading with
  | nil =>
    cases read
    exact ⟨by simp, unique, by simp, by simp, by simp⟩
  | append_singleton items item ih =>
    rw [List.foldlM_append] at read
    obtain ⟨earlier, readEarlier, read⟩ := Result.bind_eq_ok.mp read
    have sofar := ih readEarlier
    have last : readItem adapter pending earlier item = .ok reading := by
      simpa using read
    obtain ⟨id, asked, unseen, unanswered, seen, outcome⟩ := readItem_ok last
    have known : reading.seen ⊆ pending.map Request.id := by
      rw [seen]
      exact List.append_subset.mpr ⟨sofar.asked, List.cons_subset.mpr ⟨asked, List.nil_subset _⟩⟩
    -- a rate limited item is asked again, any other is an answer
    obtain ⟨limited, retry, responses⟩ | ⟨value, answer, retry, responses⟩ := outcome
    · have same : (items ++ [item]).filterMap (answerOf adapter) = items.filterMap (answerOf adapter) := by
        simp [limited]
      refine ⟨?_, ?_, known, ?_, ?_⟩
      · rw [same, responses, sofar.responses]
      · rw [responses]
        exact sofar.unique
      · rw [same, seen, retry]
        intro other member
        obtain ⟨was, kept⟩ := sofar.answered other member
        refine ⟨List.mem_append_left _ was, ?_⟩
        rw [List.mem_append, not_or, List.mem_singleton]
        refine ⟨kept, ?_⟩
        rintro rfl
        exact unseen was
      · rw [seen, retry]
        exact List.append_subset.mpr ⟨List.subset_append_of_subset_left _ sofar.retried, List.subset_append_right _ _⟩
    · have more : (items ++ [item]).filterMap (answerOf adapter) = items.filterMap (answerOf adapter) ++ [(id, value)] := by
        simp [answer]
      refine ⟨?_, ?_, known, ?_, ?_⟩
      · rw [more, responses, sofar.responses, List.append_assoc]
      · rw [responses, List.map_append]
        refine List.nodup_append.mpr ⟨sofar.unique, List.nodup_singleton _, ?_⟩
        intro other member new single same
        rw [same, List.mem_singleton.mp single] at member
        exact unanswered member
      · rw [more, seen, retry]
        intro other member
        rw [List.map_append] at member
        obtain member | single := List.mem_append.mp member
        · obtain ⟨was, kept⟩ := sofar.answered other member
          exact ⟨List.mem_append_left _ was, kept⟩
        · rw [List.mem_singleton.mp single]
          exact ⟨by simp, fun again => unseen (sofar.retried again)⟩
      · rw [seen, retry]
        exact List.subset_append_of_subset_left _ sofar.retried

/-- What an attempt leaves: the answers so far with the new ones, and what is still pending. -/
structure Attempted (adapter : TrueoAdapter) (pending : List Request) (responses : Dict ℤ Json) (reply : Reply)
    (left : List Request) (after : Dict ℤ Json) : Prop where
  grown : after = responses ++ Exchange.answers adapter ⟨pending, reply⟩
  unique : (after.map Prod.fst).Nodup
  asked : ∀ id ∈ (Exchange.answers adapter ⟨pending, reply⟩).map Prod.fst, id ∈ pending.map Request.id
  fewer : left.Sublist pending
  unanswered : ∀ request ∈ left, request.id ∉ (Exchange.answers adapter ⟨pending, reply⟩).map Prod.fst

theorem Attempted.same {responses : Dict ℤ Json} {reply : Reply} (unique : (responses.map Prod.fst).Nodup)
    (silent : Exchange.answers adapter ⟨pending, reply⟩ = []) :
    Attempted adapter pending responses reply pending responses := by
  constructor <;> simp [silent, unique]

theorem readResponse_spec {final : Bool} {responses : Dict ℤ Json} {items : List Json}
    (unique : (responses.map Prod.fst).Nodup) :
    (∃ why, readResponse adapter final pending responses items = .stop why) ∨
    (∃ after, readResponse adapter final pending responses items = .done after ∧
      Attempted adapter pending responses (.payload (.arr items)) [] after) ∨
    ∃ left after, readResponse adapter final pending responses items = .again left after ∧ final = false ∧
      Attempted adapter pending responses (.payload (.arr items)) left after := by
  unfold readResponse
  cases read : items.foldlM (readItem adapter pending) ⟨[], [], responses⟩ with
  | error stopped => exact .inl ⟨stopped, rfl⟩
  | ok reading =>
    have sofar := readItems_ok unique read
    have within : ∀ id ∈ (items.filterMap (answerOf adapter)).map Prod.fst, id ∈ pending.map Request.id :=
      fun id member => sofar.asked (sofar.answered id member).1
    dsimp only
    split
    · exact .inl ⟨_, rfl⟩
    · split
      · exact .inr (.inl ⟨_, rfl, sofar.responses, sofar.unique, within, List.nil_sublist _, by simp⟩)
      · split
        · exact .inl ⟨_, rfl⟩
        · rename_i more
          refine .inr (.inr ⟨_, _, rfl, by simpa using more, sofar.responses, sofar.unique, within,
            List.filter_sublist, ?_⟩)
          intro request member answered
          have retried := of_decide_eq_true (List.mem_filter.mp member).2
          exact (sofar.answered request.id answered).2 retried

/-- An attempt stops, or is done, or leaves requests without an answer to be tried again. -/
theorem attempt_spec {final : Bool} {responses : Dict ℤ Json} {reply : Reply} (unique : (responses.map Prod.fst).Nodup) :
    (∃ why, attempt adapter final pending responses reply = .stop why) ∨
    (∃ after, attempt adapter final pending responses reply = .done after ∧
      Attempted adapter pending responses reply [] after) ∨
    ∃ left after, attempt adapter final pending responses reply = .again left after ∧ final = false ∧
      Attempted adapter pending responses reply left after := by
  cases reply with
  | failed message =>
    unfold attempt
    dsimp only
    split
    · rename_i limited
      exact .inr (.inr ⟨_, _, rfl, limited.2, .same unique rfl⟩)
    · exact .inl ⟨_, rfl⟩
  | raised => exact .inl ⟨_, rfl⟩
  | payload value =>
    cases value with
    | arr items => exact readResponse_spec unique
    | obj fields =>
      unfold attempt
      dsimp only
      split
      · split
        · split
          · exact .inl ⟨_, rfl⟩
          · rename_i more
            exact .inr (.inr ⟨_, _, rfl, by simpa using more, .same unique rfl⟩)
        · exact .inl ⟨_, rfl⟩
      · exact .inl ⟨_, rfl⟩
    | _ => exact .inl ⟨_, rfl⟩

/-- No request is asked again after it was answered. -/
def NotAskedAgain (adapter : TrueoAdapter) (log : List Exchange) : Prop :=
  log.Pairwise fun earlier later => ∀ id ∈ (earlier.answers adapter).map Prod.fst, id ∉ later.asked.map Request.id

theorem NotAskedAgain.concat {log : List Exchange} {exchange : Exchange} (before : NotAskedAgain adapter log)
    (unanswered : ∀ request ∈ exchange.asked, request.id ∉ (answers adapter log).map Prod.fst) :
    NotAskedAgain adapter (log ++ [exchange]) := by
  apply List.pairwise_append.mpr
  refine ⟨before, List.pairwise_singleton _ _, ?_⟩
  intro earlier member later single id answered asked
  rw [List.mem_singleton.mp single] at asked
  obtain ⟨request, inside, rfl⟩ := List.mem_map.mp asked
  obtain ⟨answer, given, same⟩ := List.mem_map.mp answered
  exact unanswered request inside (List.mem_map.mpr ⟨answer, List.mem_flatMap.mpr ⟨earlier, member, given⟩, same⟩)

/-- The calls for a chunk: at most one more than the retries, each for requests of the chunk. -/
structure Part (retries : Nat) (chunk : List Request) (part : List Exchange) : Prop where
  length_le : part.length ≤ retries + 1
  asked : ∀ exchange ∈ part, exchange.asked.Sublist chunk

variable {server : Server}

/-- Each answer is for a request of its own call. -/
def OwnAnswers (adapter : TrueoAdapter) (log : List Exchange) : Prop :=
  ∀ exchange ∈ log, ∀ id ∈ (exchange.answers adapter).map Prod.fst, id ∈ exchange.asked.map Request.id

section Chunk

variable {log : List Exchange} {chunk left : List Request} {responses after : Dict ℤ Json} {reply : Reply}

theorem Attempted.logged (attempted : Attempted adapter pending responses reply left after)
    (kept : responses = answers adapter log) : after = answers adapter (log ++ [⟨pending, reply⟩]) := by
  rw [attempted.grown, kept, answers_append]
  simp [answers]

theorem Attempted.own (attempted : Attempted adapter pending responses reply left after) :
    OwnAnswers adapter [⟨pending, reply⟩] := by
  intro exchange single
  rw [List.mem_singleton.mp single]
  exact attempted.asked

theorem Attempted.within (attempted : Attempted adapter pending responses reply left after)
    (fewer : pending.Sublist chunk) :
    ∀ id ∈ after.map Prod.fst, id ∈ responses.map Prod.fst ∨ id ∈ chunk.map Request.id := by
  intro id member
  rw [attempted.grown, List.map_append] at member
  obtain old | new := List.mem_append.mp member
  · exact .inl old
  · exact .inr ((fewer.map Request.id).subset (attempted.asked id new))

theorem Attempted.still_unanswered (attempted : Attempted adapter pending responses reply left after)
    (unanswered : ∀ request ∈ pending, request.id ∉ responses.map Prod.fst) :
    ∀ request ∈ left, request.id ∉ after.map Prod.fst := by
  intro request member
  rw [attempted.grown, List.map_append, List.mem_append, not_or]
  exact ⟨unanswered request (attempted.fewer.subset member), attempted.unanswered request member⟩

end Chunk

variable {server : Server}

theorem callChunk_spec {retries : Nat} {log : List Exchange} {chunk : List Request} {responses : Dict ℤ Json}
    (fewer : pending.Sublist chunk) (kept : responses = answers adapter log) (unique : (responses.map Prod.fst).Nodup)
    (once : NotAskedAgain adapter log) (unanswered : ∀ request ∈ pending, request.id ∉ responses.map Prod.fst) :
    ∃ part, (callChunk adapter server retries log pending responses).1 = log ++ part ∧ Part retries chunk part ∧
      NotAskedAgain adapter (log ++ part) ∧
      ∀ after, (callChunk adapter server retries log pending responses).2 = .ok after →
        after = answers adapter (log ++ part) ∧ (after.map Prod.fst).Nodup ∧ OwnAnswers adapter part ∧
        ∀ id ∈ after.map Prod.fst, id ∈ responses.map Prod.fst ∨ id ∈ chunk.map Request.id := by
  induction retries generalizing log pending responses with
  | zero =>
    have logged : NotAskedAgain adapter (log ++ [⟨pending, server log pending⟩]) :=
      once.concat (by rw [← kept]; exact unanswered)
    have one : Part 0 chunk [⟨pending, server log pending⟩] := ⟨Nat.le_refl _, by simpa using fewer⟩
    unfold callChunk
    dsimp only
    obtain ⟨why, stopped⟩ | ⟨after, done, attempted⟩ | ⟨left, after, again, final, _⟩ :=
      @attempt_spec adapter pending (decide (0 = 0)) responses (server log pending) unique
    · rw [stopped]
      exact ⟨_, rfl, one, logged, fun _ none => (nomatch none)⟩
    · rw [done]
      refine ⟨_, rfl, one, logged, ?_⟩
      intro _ same
      cases same
      exact ⟨attempted.logged kept, attempted.unique, attempted.own, attempted.within fewer⟩
    · cases final
  | succ retries ih =>
    have logged : NotAskedAgain adapter (log ++ [⟨pending, server log pending⟩]) :=
      once.concat (by rw [← kept]; exact unanswered)
    have one : Part (retries + 1) chunk [⟨pending, server log pending⟩] := ⟨by simp, by simpa using fewer⟩
    unfold callChunk
    dsimp only
    obtain ⟨why, stopped⟩ | ⟨after, done, attempted⟩ | ⟨left, after, again, final, attempted⟩ :=
      @attempt_spec adapter pending (decide (retries + 1 = 0)) responses (server log pending) unique
    · rw [stopped]
      exact ⟨_, rfl, one, logged, fun _ none => (nomatch none)⟩
    · rw [done]
      refine ⟨_, rfl, one, logged, ?_⟩
      intro _ same
      cases same
      exact ⟨attempted.logged kept, attempted.unique, attempted.own, attempted.within fewer⟩
    · rw [again]
      -- what is left is asked again with one retry less
      obtain ⟨part, whole, bounded, once, answered⟩ := ih (attempted.fewer.trans fewer) (attempted.logged kept)
        attempted.unique logged (attempted.still_unanswered unanswered)
      refine ⟨⟨pending, server log pending⟩ :: part, ?_, ?_, ?_, ?_⟩
      · rw [whole, List.append_assoc]
        rfl
      · refine ⟨by simpa using bounded.length_le, ?_⟩
        intro exchange member
        obtain rfl | later := List.mem_cons.mp member
        · exact fewer
        · exact bounded.asked exchange later
      · rw [List.append_assoc] at once
        exact once
      · intro final given
        obtain ⟨all, distinct, own, ids⟩ := answered final given
        rw [List.append_assoc] at all
        refine ⟨all, distinct, List.forall_mem_cons.mpr ⟨attempted.asked, own⟩, fun id member => ?_⟩
        obtain old | new := ids id member
        · exact attempted.within fewer id old
        · exact .inr new

/-- The chunks that were tried, each with its calls. -/
theorem callChunks_spec {chunks : List (List Request)} {log : List Exchange} {responses : Dict ℤ Json}
    (apart : (chunks.flatten.map Request.id).Nodup) (kept : responses = answers adapter log)
    (unique : (responses.map Prod.fst).Nodup) (once : NotAskedAgain adapter log)
    (unanswered : ∀ request ∈ chunks.flatten, request.id ∉ responses.map Prod.fst) :
    ∃ parts, (callChunks adapter server chunks log responses).1 = log ++ parts.flatten ∧
      List.Forall₂ (Part adapter.rpcMaxRetries) (chunks.take parts.length) parts ∧
      NotAskedAgain adapter (log ++ parts.flatten) ∧
      ∀ after, (callChunks adapter server chunks log responses).2 = .ok after →
        after = answers adapter (log ++ parts.flatten) ∧ (after.map Prod.fst).Nodup ∧ OwnAnswers adapter parts.flatten := by
  induction chunks generalizing log responses with
  | nil =>
    refine ⟨[], by simp [callChunks], .nil, by simpa using once, ?_⟩
    intro after same
    cases same
    exact ⟨by simpa using kept, unique, by simp [OwnAnswers]⟩
  | cons chunk chunks ih =>
    rw [List.flatten_cons, List.map_append, List.nodup_append] at apart
    obtain ⟨_, others, disjoint⟩ := apart
    obtain ⟨part, whole, bounded, onceHere, answered⟩ := @callChunk_spec adapter chunk server adapter.rpcMaxRetries log chunk
      responses (List.Sublist.refl _) kept unique once fun request member => unanswered request (by simp [member])
    unfold callChunks
    cases outcome : callChunk adapter server adapter.rpcMaxRetries log chunk responses with
    | mk next result =>
      rw [outcome] at whole answered
      cases result with
      | error why =>
        refine ⟨[part], by simpa using whole, ?_, by simpa using onceHere, fun _ none => (nomatch none)⟩
        simpa using bounded
      | ok after =>
        obtain ⟨all, distinct, own, ids⟩ := answered after rfl
        dsimp only at whole ⊢
        subst whole
        obtain ⟨parts, more, each, onceMore, final⟩ := @ih (log ++ part) after others all distinct onceHere (by
          intro request member given
          obtain old | new := ids request.id given
          · exact unanswered request (by simp [member]) old
          · exact disjoint request.id new request.id (List.mem_map_of_mem member) rfl)
        refine ⟨part :: parts, ?_, ?_, ?_, ?_⟩
        · rw [more, List.append_assoc]
          rfl
        · exact .cons bounded each
        · rw [List.append_assoc] at onceMore
          exact onceMore
        · intro last given
          obtain ⟨everything, unique, others⟩ := final last given
          rw [List.append_assoc] at everything
          refine ⟨everything, unique, ?_⟩
          rw [List.flatten_cons]
          exact List.forall_mem_append.mpr ⟨own, others⟩

theorem chunksOf_flatten {size : Nat} (positive : 0 < size) (requests : List Request) :
    (chunksOf size requests).flatten = requests := by
  have upTo : ∀ n : Nat, ((List.range n).map fun i => (requests.drop (i * size)).take size).flatten =
      requests.take (n * size) := by
    intro n
    induction n with
    | zero => simp
    | succ n ih =>
      rw [List.range_succ, List.map_append, List.flatten_append, ih, Nat.succ_mul, List.take_add]
      simp
  rw [chunksOf, upTo]
  apply List.take_of_length_le
  have whole := Nat.div_add_mod (requests.length + size - 1) size
  have rest := Nat.mod_lt (requests.length + size - 1) positive
  rw [Nat.mul_comm]
  omega

theorem answerOf_eq_some {item : Json} {id : ℤ} {value : Json} : answerOf adapter item = some (id, value) ↔
    ∃ fields, item = .obj fields ∧ responseId (field fields "id") = .ok id ∧
      ¬ (field fields "error" ≠ .null ∧ isRateLimitError adapter (field fields "error") = true) ∧
      value = if field fields "error" ≠ .null then .null else field fields "result" := by
  constructor
  · intro answer
    cases item with
    | obj fields =>
      unfold answerOf at answer
      dsimp only at answer
      cases named : responseId (field fields "id") with
      | error stopped =>
        rw [named] at answer
        cases answer
      | ok other =>
        rw [named] at answer
        dsimp only at answer
        refine ⟨fields, rfl, ?_⟩
        split at answer
        · rename_i failed
          split at answer
          · cases answer
          · rename_i reverted
            cases answer
            exact ⟨named, fun both => reverted both.2, (if_pos failed).symm⟩
        · rename_i succeeded
          cases answer
          exact ⟨named, fun both => succeeded both.1, (if_neg succeeded).symm⟩
    | _ => cases answer
  · rintro ⟨fields, rfl, named, free, rfl⟩
    unfold answerOf
    dsimp only
    rw [named]
    dsimp only
    split
    · rename_i failed
      rw [if_neg fun limited => free ⟨failed, limited⟩]
    · rfl

/-- Whatever the server answers, each chunk takes a bounded number of calls and nothing is asked again that was answered.
When the batch returns, it returns one answer for each request, from the one item for it that was not limited. -/
theorem batchRpcRequests_spec (adapter : TrueoAdapter) (server : Server) (requests : List Request) :
    (∃ parts, (batchRpcRequests adapter server requests).1 = parts.flatten ∧
      List.Forall₂ (Part adapter.rpcMaxRetries) ((chunksOf adapter.batchCallSize requests).take parts.length) parts) ∧
    NotAskedAgain adapter (batchRpcRequests adapter server requests).1 ∧
    ∀ responses, (batchRpcRequests adapter server requests).2 = .ok responses →
      responses = answers adapter (batchRpcRequests adapter server requests).1 ∧ (responses.map Prod.fst).Nodup ∧
      OwnAnswers adapter (batchRpcRequests adapter server requests).1 ∧
      ∀ id, id ∈ responses.map Prod.fst ↔ id ∈ requests.map Request.id := by
  unfold batchRpcRequests
  split
  · rename_i empty
    subst empty
    refine ⟨⟨[], rfl, .nil⟩, List.Pairwise.nil, ?_⟩
    intro responses same
    cases same
    exact ⟨rfl, List.nodup_nil, by simp [OwnAnswers], by simp⟩
  · split
    · exact ⟨⟨[], rfl, .nil⟩, List.Pairwise.nil, fun _ none => (nomatch none)⟩
    · rename_i distinct
      rw [not_not] at distinct
      have flat := chunksOf_flatten adapter.batchPositive requests
      obtain ⟨parts, whole, each, once, final⟩ := @callChunks_spec adapter server (chunksOf adapter.batchCallSize requests)
        [] [] (flat.symm ▸ distinct) rfl List.nodup_nil List.Pairwise.nil (by simp)
      rw [List.nil_append] at whole once final
      cases outcome : callChunks adapter server (chunksOf adapter.batchCallSize requests) [] [] with
      | mk log result =>
        rw [outcome] at whole final
        dsimp only at whole
        subst whole
        cases result with
        | error why => exact ⟨⟨parts, rfl, each⟩, once, fun _ none => (nomatch none)⟩
        | ok responses =>
          dsimp only
          split
          · exact ⟨⟨parts, rfl, each⟩, once, fun _ none => (nomatch none)⟩
          · rename_i same
            rw [not_not] at same
            refine ⟨⟨parts, rfl, each⟩, once, ?_⟩
            intro returned given
            cases given
            obtain ⟨all, unique, own⟩ := final responses rfl
            exact ⟨all, unique, own, fun id => ⟨fun member => same.1 member, fun member => same.2 member⟩⟩

end Answers

section Logs

variable (adapter : TrueoAdapter)

/-- The answer to `eth_getLogs` for a range, which may depend on the ranges before. -/
abbrev LogServer := List (ℤ × ℤ) → ℤ × ℤ → Except RpcError Json

/-- The loop over the ranges, with the ranges so far and the rows so far. -/
def fetchFrom (logs : LogServer) (toBlock start : ℤ) (ranges : List (ℤ × ℤ)) (rows : List Json) :
    List (ℤ × ℤ) × Except RpcError (List Json) :=
  if start ≤ toBlock then
    let range := (start, min toBlock (start + adapter.logQueryBlocks - 1))
    match logs ranges range with
    | .error why => (ranges ++ [range], .error why)
    | .ok (.arr items) =>
      if adapter.maxTradeLogs < (rows ++ items).length then
        (ranges ++ [range], .error (.http (text "Trueo RPC returned more than the configured safety limit of " ++
          intText adapter.maxTradeLogs ++ text " swap logs.")))
      else fetchFrom logs toBlock (range.2 + 1) (ranges ++ [range]) (rows ++ items)
    | .ok _ => (ranges ++ [range], httpError "Trueo eth_getLogs did not return a list.")
  else (ranges, .ok rows)
termination_by (toBlock + 1 - start).toNat
decreasing_by
  have positive := adapter.blocksPositive
  omega

def fetchSwapLogs (logs : LogServer) (fromBlock toBlock : ℤ) : List (ℤ × ℤ) × Except RpcError (List Json) :=
  fetchFrom adapter logs toBlock fromBlock [] []

/-- Ranges of at most some blocks, each beginning where the one before ends. -/
inductive Consecutive (blocks : Nat) : ℤ → ℤ → List (ℤ × ℤ) → Prop where
  | nil {start : ℤ} : Consecutive blocks start start []
  | cons {start last stop : ℤ} {ranges : List (ℤ × ℤ)} : start ≤ last → last < start + blocks →
      Consecutive blocks (last + 1) stop ranges → Consecutive blocks start stop ((start, last) :: ranges)

theorem Consecutive.le {blocks : Nat} {start stop : ℤ} {ranges : List (ℤ × ℤ)}
    (consecutive : Consecutive blocks start stop ranges) : start ≤ stop := by
  induction consecutive with
  | nil => exact le_refl _
  | cons => omega

theorem Consecutive.cover {blocks : Nat} {start stop : ℤ} {ranges : List (ℤ × ℤ)}
    (consecutive : Consecutive blocks start stop ranges) (block : ℤ) :
    (∃ range ∈ ranges, range.1 ≤ block ∧ block ≤ range.2) ↔ start ≤ block ∧ block < stop := by
  induction consecutive with
  | nil =>
    simp only [List.not_mem_nil, false_and, exists_false, false_iff]
    omega
  | cons _ _ rest ih =>
    have below := rest.le
    simp only [List.mem_cons, exists_eq_or_imp, ih]
    omega

theorem Consecutive.within {blocks : Nat} {start stop : ℤ} {ranges : List (ℤ × ℤ)}
    (consecutive : Consecutive blocks start stop ranges) :
    ∀ range ∈ ranges, start ≤ range.1 ∧ range.1 ≤ range.2 ∧ range.2 < range.1 + blocks ∧ range.2 < stop := by
  induction consecutive with
  | nil => simp
  | cons order short rest ih =>
    intro range member
    obtain rfl | later := List.mem_cons.mp member
    · have below := rest.le
      exact ⟨le_refl _, order, short, by omega⟩
    · have inside := ih range later
      omega

theorem Consecutive.apart {blocks : Nat} {start stop : ℤ} {ranges : List (ℤ × ℤ)}
    (consecutive : Consecutive blocks start stop ranges) : ranges.Pairwise fun a b => a.2 < b.1 := by
  induction consecutive with
  | nil => exact List.Pairwise.nil
  | cons _ _ rest ih =>
    refine List.pairwise_cons.mpr ⟨fun range member => ?_, ih⟩
    have inside := rest.within range member
    exact Int.lt_of_add_one_le inside.1

theorem Consecutive.single {blocks : Nat} {start last : ℤ} (order : start ≤ last) (short : last < start + blocks) :
    Consecutive blocks start (last + 1) [(start, last)] := .cons order short .nil

/-- The ranges that are asked for follow each other, and end with the last block when all answers are accepted. -/
theorem fetchFrom_spec (logs : LogServer) (toBlock start : ℤ) (ranges : List (ℤ × ℤ)) (rows : List Json) :
    ∃ stop more, (fetchFrom adapter logs toBlock start ranges rows).1 = ranges ++ more ∧
      Consecutive adapter.logQueryBlocks start stop more ∧ stop ≤ max start (toBlock + 1) ∧
      ∀ found, (fetchFrom adapter logs toBlock start ranges rows).2 = .ok found → stop = max start (toBlock + 1) := by
  have positive := adapter.blocksPositive
  fun_induction fetchFrom adapter logs toBlock start ranges rows with
  | case1 start ranges rows inside range why failed =>
    exact ⟨_, _, rfl, .single (by omega) (by omega), by omega, fun _ none => (nomatch none)⟩
  | case2 start ranges rows inside range items answered many =>
    exact ⟨_, _, rfl, .single (by omega) (by omega), by omega, fun _ none => (nomatch none)⟩
  | case3 start ranges rows inside range items answered few ih =>
    obtain ⟨stop, more, whole, consecutive, within, final⟩ := ih
    have ends : range.2 = min toBlock (start + adapter.logQueryBlocks - 1) := rfl
    refine ⟨stop, range :: more, ?_, .cons (by omega) (by omega) consecutive, by omega, fun found given => ?_⟩
    · rw [whole, List.append_assoc]
      rfl
    · have last := final found given
      omega
  | case4 start ranges rows inside range other odd answered =>
    exact ⟨_, _, rfl, .single (by omega) (by omega), by omega, fun _ none => (nomatch none)⟩
  | case5 start ranges rows outside =>
    exact ⟨start, [], by simp, .nil, le_max_left _ _, fun _ _ => by omega⟩

end Logs

section EthCalls

variable (adapter : TrueoAdapter)

structure EthCall where
  name : Text
  address : Text
  data : Text

/-- `re.fullmatch(r"[0-9a-fA-F]+", data)` of an even length. -/
def isCallData (data : Text) : Bool := decide (data ≠ []) && data.all isHexDigit && decide (data.length % 2 = 0)

/-- `re.fullmatch(r"0x(?:[0-9a-fA-F]{2})*", result)`. -/
def isHexData (result : Text) : Bool :=
  (hexBody result).any fun body => body.all isHexDigit && decide (body.length % 2 = 0)

def address (value : Text) : Except RpcError Text :=
  if isHex (strip value) 40 then .ok (strip value)
  else .error (.configuration (text "Trueo address must be a 20-byte hex address."))

def ethRequest (call : EthCall × Nat) : Except RpcError Request := do
  if ¬ isCallData call.1.data then
    .error (.configuration (text "Trueo internal batch call data was not canonical hexadecimal."))
  else
    let target ← address call.1.address
    .ok ⟨call.2, text "eth_call", .arr [.obj [(text "to", .str target), (text "data", .str (text "0x" ++ call.1.data))],
      .str (text "latest")]⟩

def ethAnswer (result : Json) : Except RpcError (Option Text) :=
  match result with
  | .null => .ok none
  | .str value => if isHexData value then .ok (some value)
    else httpError "Trueo batch eth_call returned non-canonical hex data."
  | _ => httpError "Trueo batch eth_call returned non-canonical hex data."

def batchEthCalls (server : Server) (calls : List EthCall) :
    List Exchange × Except RpcError (Dict Text (Option Text)) :=
  if calls = [] ∨ ¬ (calls.map EthCall.name).Nodup then
    ([], .error (.configuration (text "Trueo internal batch call names must be non-empty and unique.")))
  else
    match (calls.zipIdx 1).mapM ethRequest with
    | .error why => ([], .error why)
    | .ok requests =>
      match batchRpcRequests adapter server requests with
      | (log, .error why) => (log, .error why)
      | (log, .ok payloads) =>
        match payloads.mapM fun payload => (ethAnswer payload.2).map fun answer => (payload.1, answer) with
        | .error why => (log, .error why)
        | .ok responses =>
          (log, .ok ((calls.zipIdx 1).map fun call => (call.1.name, (Dict.get? responses (call.2 : ℤ)).join)))

theorem ethRequest_id {call : EthCall × Nat} {request : Request} (made : ethRequest call = .ok request) :
    request.id = call.2 := by
  unfold ethRequest at made
  split at made
  · cases made
  · obtain ⟨target, _, made⟩ := Result.bind_eq_ok.mp made
    cases made
    rfl

theorem ethRequests_ids {calls : List (EthCall × Nat)} {requests : List Request}
    (made : calls.mapM ethRequest = .ok requests) :
    requests.map Request.id = calls.map fun call => (call.2 : ℤ) := by
  induction calls generalizing requests with
  | nil =>
    cases made
    rfl
  | cons call calls ih =>
    obtain ⟨request, rest, first, others, rfl⟩ := Result.mapM_cons_ok.mp made
    rw [List.map_cons, List.map_cons, ethRequest_id first, ih others]

theorem ethAnswers_get? {payloads : Dict ℤ Json} {responses : Dict ℤ (Option Text)}
    (read : payloads.mapM (fun payload => (ethAnswer payload.2).map fun answer => (payload.1, answer)) = .ok responses)
    {id : ℤ} {value : Json} (found : payloads.get? id = some value) :
    ∃ answer, ethAnswer value = .ok answer ∧ Dict.get? responses id = some answer := by
  induction payloads generalizing responses with
  | nil => cases found
  | cons payload payloads ih =>
    obtain ⟨response, rest, first, others, rfl⟩ := Result.mapM_cons_ok.mp read
    obtain ⟨answer, accepted, rfl⟩ := Result.map_eq_ok.mp first
    unfold Dict.get? at found
    split at found
    · rename_i here
      cases found
      exact ⟨answer, accepted, if_pos here⟩
    · rename_i other
      obtain ⟨later, ok, at_id⟩ := ih others found
      refine ⟨later, ok, ?_⟩
      rw [Dict.get?, if_neg other]
      exact at_id

end EthCalls

/-- The item of a response that gave an answer. -/
theorem exists_item {adapter : TrueoAdapter} {log : List Exchange} {id : ℤ} {value : Json}
    (own : OwnAnswers adapter log) (given : (id, value) ∈ answers adapter log) :
    ∃ exchange ∈ log, ∃ items fields, exchange.reply = .payload (.arr items) ∧ .obj fields ∈ items ∧
      id ∈ exchange.asked.map Request.id ∧ responseId (field fields "id") = .ok id ∧
      ¬ (field fields "error" ≠ .null ∧ isRateLimitError adapter (field fields "error") = true) ∧
      value = if field fields "error" ≠ .null then .null else field fields "result" := by
  obtain ⟨exchange, member, answer⟩ := List.mem_flatMap.mp given
  have asked := own exchange member id (List.mem_map_of_mem answer)
  unfold Exchange.answers at answer
  split at answer
  · rename_i items replied
    obtain ⟨item, inside, read⟩ := List.mem_filterMap.mp answer
    obtain ⟨fields, rfl, named, free, same⟩ := answerOf_eq_some.mp read
    exact ⟨exchange, member, items, fields, replied, inside, asked, named, free, same⟩
  · cases answer

/-- Whatever the server answers, each chunk takes a bounded number of calls, and nothing is asked again that was answered.
A batch that returns has one answer for each request, from the one item for it that was not limited. The ranges of a query
for logs follow each other up to the last block. -/
theorem rpcBatches_deliver (adapter : TrueoAdapter) (server : Server) (requests : List Request) (logs : LogServer)
    (fromBlock toBlock : ℤ) :
    ((∃ parts, (batchRpcRequests adapter server requests).1 = parts.flatten ∧
        List.Forall₂ (Part adapter.rpcMaxRetries) ((chunksOf adapter.batchCallSize requests).take parts.length) parts) ∧
      NotAskedAgain adapter (batchRpcRequests adapter server requests).1 ∧
      ∀ responses, (batchRpcRequests adapter server requests).2 = .ok responses →
        responses = answers adapter (batchRpcRequests adapter server requests).1 ∧ (responses.map Prod.fst).Nodup ∧
        (∀ id, id ∈ responses.map Prod.fst ↔ id ∈ requests.map Request.id) ∧
        ∀ id value, (id, value) ∈ responses →
          ∃ exchange ∈ (batchRpcRequests adapter server requests).1, ∃ items fields,
            exchange.reply = .payload (.arr items) ∧ .obj fields ∈ items ∧ id ∈ exchange.asked.map Request.id ∧
            responseId (field fields "id") = .ok id ∧
            ¬ (field fields "error" ≠ .null ∧ isRateLimitError adapter (field fields "error") = true) ∧
            value = if field fields "error" ≠ .null then .null else field fields "result") ∧
    ∃ stop, Consecutive adapter.logQueryBlocks fromBlock stop (fetchSwapLogs adapter logs fromBlock toBlock).1 ∧
      (fetchSwapLogs adapter logs fromBlock toBlock).1.Pairwise (fun a b => a.2 < b.1) ∧
      (∀ range ∈ (fetchSwapLogs adapter logs fromBlock toBlock).1,
        range.1 ≤ range.2 ∧ range.2 < range.1 + adapter.logQueryBlocks ∧ range.2 < max fromBlock (toBlock + 1)) ∧
      ∀ found, (fetchSwapLogs adapter logs fromBlock toBlock).2 = .ok found →
        ∀ block, (∃ range ∈ (fetchSwapLogs adapter logs fromBlock toBlock).1, range.1 ≤ block ∧ block ≤ range.2) ↔
          fromBlock ≤ block ∧ block ≤ toBlock := by
  constructor
  · obtain ⟨parts, once, final⟩ := batchRpcRequests_spec adapter server requests
    refine ⟨parts, once, fun responses returned => ?_⟩
    obtain ⟨all, unique, own, asked⟩ := final responses returned
    refine ⟨all, unique, asked, fun id value given => ?_⟩
    rw [all] at given
    exact exists_item own given
  · obtain ⟨stop, ranges, whole, consecutive, within, final⟩ := fetchFrom_spec adapter logs toBlock fromBlock [] []
    rw [List.nil_append] at whole
    refine ⟨stop, ?_⟩
    rw [fetchSwapLogs, whole]
    refine ⟨consecutive, consecutive.apart, fun range member => ?_, fun found returned block => ?_⟩
    · have inside := consecutive.within range member
      omega
    · have last := final found returned
      rw [consecutive.cover]
      omega

section Examples

def sampleAdapter : TrueoAdapter where
  runtime := ⟨asciiCasing, fun _ => [], fun _ => []⟩
  casefold := asciiCasing.lower
  rpcMaxRetries := 1
  batchCallSize := 2
  logQueryBlocks := 10
  maxTradeLogs := 100
  batchPositive := by decide
  blocksPositive := by decide

def sampleRequest : Request := ⟨7, text "eth_getBlockByNumber", .arr []⟩

/-- A block that does not exist, which is no error. -/
def missingBlock : Server := fun _ _ => .payload (.arr [.obj [(text "id", .int 7), (text "result", .null)]])

/-- An item without an error is answered by nothing. -/
theorem batchRpcRequests_null :
    ((batchRpcRequests sampleAdapter missingBlock [sampleRequest]).2.toOption.map fun responses =>
        responses.get? 7) = some (some .null) ∧
      ∀ items, missingBlock [] [sampleRequest] = .payload (.arr items) → ∀ fields, .obj fields ∈ items →
        field fields "error" = .null := by
  constructor
  · decide +kernel
  · intro items same fields member
    cases same
    cases List.mem_singleton.mp member
    rfl

/-- Two reads of one contract; the server answers the second one first, and the first one with a revert. -/
def sampleCalls : List EthCall :=
  [⟨text "question:0", text "0x" ++ List.replicate 40 49, text "01"⟩,
    ⟨text "status:0", text "0x" ++ List.replicate 40 49, text "02"⟩]

def revertingServer : Server := fun _ _ => .payload (.arr
  [.obj [(text "id", .int 2), (text "result", .str (text "0x0f"))],
    .obj [(text "id", .int 1), (text "error", .obj [(text "message", .str (text "execution reverted"))])]])

end Examples

end MarketSentinel.Venue.Trueo

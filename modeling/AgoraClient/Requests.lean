import AgoraClient.NonceLoop
import AgoraClient.Payment
import AgoraClient.EarnBatch

namespace AgoraClient

/-!
# What the client sends to the service

Run by the client's own coordinator, each submission is a sequence of requests to the
service.  `CallRequests` says what one coordinator call sends.  This module shows that
the two public submissions send nothing else.

`submit_payment` sends the requests of one call for the payment's transaction, or
nothing when its check refuses the payment.  `submit_earn_batch` sends one segment per
sub-batch it reaches, in the order of the sub-batches, and each segment is one call for
that sub-batch's transaction, after everything sent before it.  So the client never
mixes the earns of two sub-batches in one transaction, fetches the sequence number
again for every sub-batch, and submits each sub-batch at most
`max_nonce_refreshes + 1` times.  These hold for every service, whatever it answers.

The last section reads the other way, from what the client reports back to what it
sent: every success it reports is a submission the service accepted.
-/

/-- Segments of what is recorded for the sub-batches `batches`: one per sub-batch reached,
in order, each one that `call` allows for its sub-batch after everything recorded before
it.  The record is the request log for the client's own coordinator, and the list of
calls received for a scripted one. -/
def Segments {β : Type} (call : List Earn → List β → List β → Prop) :
    List (List Earn) → List β → List (List β) → Prop
  | _, _, [] => True
  | batch :: batches, before, segment :: segments =>
    call batch before segment ∧ Segments call batches (before ++ segment) segments
  | [], _, _ :: _ => False

section Loop

variable {σ β : Type} (project : σ → List β)
  {submitTx : List Earn → EStateM Exception σ SubmitTransactionResult}
  {call : List Earn → List β → List β → Prop}

/-- If every submission of a sub-batch adds to the record a segment that `call` allows,
the loop adds one such segment per sub-batch it reaches, and nothing else. -/
theorem submitEarnBatchLoop_segments :
    ∀ batches : List (List Earn),
      (∀ batch ∈ batches, ∀ s, ∃ segment, call batch (project s) segment ∧
        project (finalState (submitTx batch s)) = project s ++ segment) →
      ∀ succeeded s, ∃ segments, Segments call batches (project s) segments ∧
        project (finalState (submitEarnBatchLoop submitTx batches succeeded s)) =
          project s ++ segments.flatten
  | [], _, succeeded, s => ⟨[], trivial, by simp [submitEarnBatchLoop]⟩
  | batch :: batches, each, succeeded, s => by
    obtain ⟨segment, called, sent⟩ := each batch (List.mem_cons_self _ _) s
    have stops : ∀ {α : Type} (rest : EStateM.Result Exception σ α),
        project (finalState rest) = project s ++ segment → ∃ segments,
          Segments call (batch :: batches) (project s) segments ∧
          project (finalState rest) = project s ++ segments.flatten := fun _ ends =>
      ⟨[segment], by simpa [Segments] using called, by simpa using ends⟩
    simp only [submitEarnBatchLoop, estate_bind_apply, tryError]
    cases submitted : submitTx batch s with
    | ok result after =>
      rw [submitted, finalState_ok] at sent
      cases accepted : result.txError with
      | none =>
        obtain ⟨segments, later, run⟩ := submitEarnBatchLoop_segments batches
          (fun other member => each other (List.mem_cons_of_mem _ member))
          (succeeded ++ batch.map fun earn => { earn, txHash := some result.txHash }) after
        rw [sent] at later run
        exact ⟨segment :: segments, ⟨called, later⟩, by simpa [accepted] using run⟩
      | some err =>
        apply stops
        simp only [accepted]
        cases failedEarns batch result.txHash err <;> simpa using sent
    | error e after =>
      rw [submitted, finalState_error] at sent
      apply stops
      cases e <;> simpa using sent

end Loop

/-- A sub-batch of at most 100 earns sends exactly what its coordinator call sends. -/
theorem finalState_submitEarnBatchTx {σ : Type} (c : Client) (coordinator : Coordinator σ)
    (sender : PrivateKey) {batch : List Earn} (channel : Option PrivateKey)
    (memo : Option String) (s : σ) (short : batch.length ≤ 100) :
    finalState (c.submitEarnBatchTx coordinator sender batch channel memo s) =
      finalState (coordinator (signersFor c.whitelistKey channel sender)
        (c.earnBatchTransaction sender batch channel memo).1
        (c.earnBatchTransaction sender batch channel memo).2 s) := by
  have fits : ¬batch.length > 100 := by omega
  simp only [Client.submitEarnBatchTx, fits, if_false, estate_bind_apply, estate_pure_apply]
  cases coordinator (signersFor c.whitelistKey channel sender)
      (c.earnBatchTransaction sender batch channel memo).1
      (c.earnBatchTransaction sender batch channel memo).2 s with
  | ok result after => by_cases clean : result.invoiceErrors = [] <;> simp [clean]
  | error e after => rfl

/-- `submit_earn_batch` adds to the record one segment per sub-batch it reaches, in order,
and nothing else, each one that `call` allows whenever every coordinator call for a
sub-batch of at most 100 earns adds one. -/
theorem submitEarnBatch_segments {σ β : Type} (project : σ → List β) (c : Client)
    (coordinator : Coordinator σ) (sender : PrivateKey) (earns : List Earn)
    (channel : Option PrivateKey) (memo : Option String) (s : σ)
    {call : List Earn → List β → List β → Prop}
    (each : ∀ batch : List Earn, batch.length ≤ 100 → ∀ s, ∃ segment,
      call batch (project s) segment ∧
      project (finalState (coordinator (signersFor c.whitelistKey channel sender)
        (c.earnBatchTransaction sender batch channel memo).1
        (c.earnBatchTransaction sender batch channel memo).2 s)) = project s ++ segment) :
    ∃ segments, Segments call (partition earns 100) (project s) segments ∧
      project (finalState (c.submitEarnBatch coordinator sender earns channel memo s)) =
        project s ++ segments.flatten := by
  cases checked : c.checkEarns earns memo with
  | error e =>
    exact ⟨[], by simp [Segments],
      by simp [submitEarnBatch_refused c _ s sender earns channel memo checked]⟩
  | ok u =>
    obtain ⟨segments, called, run⟩ := submitEarnBatchLoop_segments project (partition earns 100)
      (fun batch member s => by
        rw [finalState_submitEarnBatchTx c _ sender channel memo s
          (length_le_of_mem_partition member)]
        exact each batch (length_le_of_mem_partition member) s) [] s
    refine ⟨segments, called, ?_⟩
    simp only [Client.submitEarnBatch, estate_bind_apply, checked, liftExcept_ok_apply]
    cases looped : submitEarnBatchLoop (c.submitEarnBatchTx coordinator sender · channel memo)
        (partition earns 100) [] s <;> simpa [looped] using run

/-- For every service, `submit_earn_batch` run by the client's own coordinator sends one
segment of requests per sub-batch it reaches, in the order of the sub-batches, and
nothing else: each segment is what one coordinator call sends for that sub-batch's
transaction after everything sent before it.  A batch its argument checks refuse sends
nothing. -/
theorem submitEarnBatch_requests (c : Client) (t : Transport) (sender : PrivateKey)
    (earns : List Earn) (channel : Option PrivateKey) (memo : Option String)
    (log : List Request) :
    (∃ segments, Segments (fun batch before segment =>
        CallRequests c t (signersFor c.whitelistKey channel sender)
          (c.earnBatchTransaction sender batch channel memo).1
          (c.earnBatchTransaction sender batch channel memo).2 before segment)
        (partition earns 100) log segments ∧
      finalState (c.submitEarnBatch (c.signAndSubmitBuilder t) sender earns channel memo log) =
        log ++ segments.flatten) ∧
      ∀ e, c.checkEarns earns memo = .error e →
        finalState (c.submitEarnBatch (c.signAndSubmitBuilder t) sender earns channel memo log) =
          log :=
  ⟨submitEarnBatch_segments id c _ sender earns channel memo log
      fun _ _ before => signAndSubmitBuilder_requests c t _ _ _ before,
    fun _ refused => by rw [submitEarnBatch_refused c _ log sender earns channel memo refused]; rfl⟩

/-- Segments each at most `k` long, one per sub-batch at most, add up to at most `k` per
sub-batch. -/
theorem segments_flatten_length_le {call : List Earn → List Request → List Request → Prop}
    {k : Nat} (bounded : ∀ batch before segment, call batch before segment → segment.length ≤ k) :
    ∀ batches before segments, Segments call batches before segments →
      segments.flatten.length ≤ batches.length * k
  | _, _, [], _ => by simp
  | batch :: batches, before, segment :: segments, ⟨called, later⟩ => by
    have rest := segments_flatten_length_le bounded batches _ segments later
    have first := bounded _ _ _ called
    rw [List.flatten_cons, List.length_append, List.length_cons, Nat.succ_mul]
    omega
  | [], _, _ :: _, never => never.elim

/-- For every service, `submit_earn_batch` run by the client's own coordinator sends at
most `max_nonce_refreshes + 2` requests per sub-batch of at most 100 earns: however the
service answers, the nonce loop never runs away.  A request is one call of the internal
client (`V3InternalClient`), which is built with retry strategies of its own
(client.py:209-214, 226) that may repeat it on the wire; those are not counted here. -/
theorem submitEarnBatch_requests_bounded (c : Client) (t : Transport) (sender : PrivateKey)
    (earns : List Earn) (channel : Option PrivateKey) (memo : Option String)
    (log : List Request) :
    (finalState (c.submitEarnBatch (c.signAndSubmitBuilder t) sender earns channel memo
      log)).length ≤ log.length + (earns.length + 99) / 100 * (c.retryConfig.maxNonceRefreshes + 2) := by
  obtain ⟨segments, bounded, sent⟩ := @submitEarnBatch_segments _ _ id c _ sender earns channel
    memo log (fun _ _ segment => segment.length ≤ c.retryConfig.maxNonceRefreshes + 2)
    fun _ _ before =>
      let ⟨requests, called, sent⟩ := signAndSubmitBuilder_requests c t _ _ _ before
      ⟨requests, callRequests_length_le called, sent⟩
  have chunks : (partition earns 100).length = (earns.length + 99) / 100 := by
    simp only [partition, List.length_map, List.length_range']
    omega
  rw [id_eq, id_eq] at sent
  rw [sent, List.length_append, ← chunks]
  exact Nat.add_le_add_left (segments_flatten_length_le (fun _ _ _ short => short) _ _ _ bounded) _

/-- For every service, `submit_payment` run by the client's own coordinator sends nothing
when its check refuses the payment, and otherwise exactly what one coordinator call sends
for the payment's transaction.  As above, a request is one call of the internal client,
whose own retry strategies (client.py:209-214, 226) are not modelled. -/
theorem submitPayment_requests (c : Client) (t : Transport) (payment : Payment)
    (log : List Request) :
    ∃ requests, ((payment.invoice.isSome ∧ c.appIndex ≤ 0) → requests = []) ∧
      (¬(payment.invoice.isSome ∧ c.appIndex ≤ 0) →
        CallRequests c t (signersFor c.whitelistKey payment.channel payment.sender)
          (c.paymentTransaction payment).1 (c.paymentTransaction payment).2 log requests) ∧
      finalState (c.submitPayment (c.signAndSubmitBuilder t) payment log) = log ++ requests := by
  by_cases refused : payment.invoice.isSome ∧ c.appIndex ≤ 0
  · exact ⟨[], fun _ => rfl, fun allowed => absurd refused allowed,
      by simp [submitPayment_refused c _ log payment refused]⟩
  · obtain ⟨requests, called, sent⟩ := signAndSubmitBuilder_requests c t
      (signersFor c.whitelistKey payment.channel payment.sender)
      (c.paymentTransaction payment).1 (c.paymentTransaction payment).2 log
    refine ⟨requests, fun refusal => absurd refusal refused, fun _ => called, ?_⟩
    rw [submitPayment_eq c _ payment log refused]
    revert sent
    cases c.signAndSubmitBuilder t (signersFor c.whitelistKey payment.channel payment.sender)
        (c.paymentTransaction payment).1 (c.paymentTransaction payment).2 log <;> simp

/-! ## What the client reports

A success the client reports stands for a submission the service accepted: the earns
`submit_earn_batch` lists as succeeded, and the hash `submit_payment` returns, come from
the service's answer to a submission of their own transaction, one the request log
holds, and that answer reports no error.  A hash on an earn listed as failed is likewise
the hash of the service's answer to its own sub-batch's transaction, one that reports a
`tx_error`. -/

/-- Every entry of the positional pairing is an earn of the sub-batch with the given
hash. -/
theorem mem_zipWith_entries (txHash : Bytes) :
    ∀ (batch : List Earn) (errors : List Error) (entry : EarnResult),
      entry ∈ List.zipWith
          (fun earn e => ({ earn, txHash := some txHash, error := some e } : EarnResult))
          batch errors →
        entry.earn ∈ batch ∧ entry.txHash = some txHash
  | [], _, _, member => by simp at member
  | _ :: _, [], _, member => by simp at member
  | earn :: batch, e :: errors, entry, member => by
    rw [List.zipWith_cons_cons, List.mem_cons] at member
    rcases member with rfl | later
    · exact ⟨List.mem_cons_self _ _, rfl⟩
    · exact (mem_zipWith_entries txHash batch errors entry later).imp_left (List.mem_cons_of_mem _)

/-- The entries of a failed sub-batch are earns of that sub-batch, each with the hash of
its transaction. -/
theorem failedEarns_hashes {batch : List Earn} {txHash : Bytes} {err : TransactionErrors}
    {entries : List EarnResult} (built : failedEarns batch txHash err = .ok entries) :
    ∀ entry ∈ entries, entry.earn ∈ batch ∧ entry.txHash = some txHash := by
  by_cases noOps : err.opErrors = []
  · simp only [failedEarns, noOps, ne_eq, not_true_eq_false, if_false, except_pure,
      Except.ok.injEq] at built
    subst built
    intro entry member
    obtain ⟨earn, within, rfl⟩ := List.mem_map.mp member
    exact ⟨within, rfl⟩
  · by_cases enough : batch.length ≤ err.opErrors.length
    · simp only [failedEarns, noOps, ne_eq, not_false_eq_true, if_true, List.enum,
        mapM_enumFrom_pyIndex err.opErrors txHash batch 0 (by omega), List.drop_zero,
        Except.ok.injEq] at built
      subst built
      exact mem_zipWith_entries txHash batch err.opErrors
    · rw [failedEarns_short noOps (by omega)] at built
      cases built

/-- What one step of the loop can end with when the loop returns: the sub-batch is
accepted and the loop goes on; or it is rejected with a `tx_error`, its entries are built,
and the loop stops right after its submission; or its submission raised an agora `Error`
and the loop stops with every earn of the sub-batch failed with that error. -/
theorem submitEarnBatchLoop_cons_ok {σ : Type}
    {submitTx : List Earn → EStateM Exception σ SubmitTransactionResult} {batch : List Earn}
    {batches : List (List Earn)} {succeeded : List EarnResult} {before after : σ}
    {pair : List EarnResult × List EarnResult}
    (returned : submitEarnBatchLoop submitTx (batch :: batches) succeeded before = .ok pair after) :
    (∃ result sent, submitTx batch before = .ok result sent ∧ result.txError = none ∧
      submitEarnBatchLoop submitTx batches
        (succeeded ++ batch.map fun earn => { earn, txHash := some result.txHash }) sent =
          .ok pair after) ∨
    (∃ result err entries, submitTx batch before = .ok result after ∧
      result.txError = some err ∧ failedEarns batch result.txHash err = .ok entries ∧
      pair = (succeeded, entries)) ∨
    (∃ e, submitTx batch before = .error (.error e) after ∧
      pair = (succeeded, batch.map fun earn => { earn, error := some e })) := by
  simp only [submitEarnBatchLoop, estate_bind_apply, tryError] at returned
  cases submitted : submitTx batch before with
  | ok result sent =>
    cases accepted : result.txError with
    | none =>
      simp only [submitted, accepted] at returned
      exact .inl ⟨result, sent, rfl, accepted, returned⟩
    | some err =>
      simp only [submitted, accepted] at returned
      cases failed : failedEarns batch result.txHash err with
      | error e => simp [failed] at returned
      | ok entries =>
        simp only [failed, estate_map_apply, liftExcept_ok_apply, EStateM.Result.ok.injEq]
          at returned
        obtain ⟨rfl, rfl⟩ := returned
        exact .inr (.inl ⟨result, err, entries, rfl, accepted, failed, rfl⟩)
  | error e sent =>
    cases e with
    | error e =>
      simp only [submitted, estate_pure_apply, EStateM.Result.ok.injEq] at returned
      obtain ⟨rfl, rfl⟩ := returned
      exact .inr (.inr ⟨e, rfl, rfl⟩)
    | valueError _ | indexError _ | other _ => simp [submitted] at returned

section Reports

variable {submitTx : List Earn → ClientM SubmitTransactionResult}

/-- Every entry the loop adds to `succeeded` is an earn of a sub-batch whose submission
returned a result with no `tx_error`, carrying that result's hash, and the loop's final
log extends the log that submission ended with. -/
theorem submitEarnBatchLoop_succeeded
    (grows : ∀ batch before, ∃ segment, finalState (submitTx batch before) = before ++ segment) :
    ∀ batches succeeded before {pair : List EarnResult × List EarnResult} {after},
      submitEarnBatchLoop submitTx batches succeeded before = .ok pair after →
      ∀ entry ∈ pair.1, entry ∈ succeeded ∨ entry.error = none ∧
        ∃ batch ∈ batches, entry.earn ∈ batch ∧ ∃ sent result rest,
          (∃ before', submitTx batch before' = .ok result sent) ∧ result.txError = none ∧
          entry.txHash = some result.txHash ∧ after = sent ++ rest
  | [], succeeded, before, pair, after, returned => by
    simp only [submitEarnBatchLoop, estate_pure_apply, EStateM.Result.ok.injEq] at returned
    obtain ⟨rfl, -⟩ := returned
    exact fun entry member => .inl member
  | batch :: batches, succeeded, before, pair, after, returned => by
    rcases submitEarnBatchLoop_cons_ok returned with
      ⟨result, sent, submitted, accepted, continued⟩ | ⟨-, -, -, -, -, -, rfl⟩ | ⟨-, -, rfl⟩
    · obtain ⟨segments, -, ran⟩ := @submitEarnBatchLoop_segments _ _ id submitTx (fun _ _ _ => True)
        batches (fun other _ before => (grows other before).imp fun _ => And.intro trivial)
        (succeeded ++ batch.map fun earn => { earn, txHash := some result.txHash }) sent
      rw [continued, finalState_ok] at ran
      intro entry member
      rcases submitEarnBatchLoop_succeeded grows batches _ sent continued entry member with
        earlier | ⟨untouched, other, within, carried, later⟩
      · rcases List.mem_append.mp earlier with old | fresh
        · exact .inl old
        · obtain ⟨earn, within, rfl⟩ := List.mem_map.mp fresh
          exact .inr ⟨rfl, batch, List.mem_cons_self _ _, within, sent, result,
            segments.flatten, ⟨before, submitted⟩, accepted, rfl, ran⟩
      · exact .inr ⟨untouched, other, List.mem_cons_of_mem _ within, carried, later⟩
    · exact fun entry member => .inl member
    · exact fun entry member => .inl member

/-- Every entry of the loop's `failed` that carries a hash is an earn of the sub-batch
that ended the loop: its submission returned a result with a `tx_error`, whose hash the
entry carries, and it was the last thing the loop sent. -/
theorem submitEarnBatchLoop_failed :
    ∀ batches succeeded before {pair : List EarnResult × List EarnResult} {after},
      submitEarnBatchLoop submitTx batches succeeded before = .ok pair after →
      ∀ entry ∈ pair.2, ∀ hash, entry.txHash = some hash →
        ∃ batch ∈ batches, entry.earn ∈ batch ∧ ∃ before' result,
          submitTx batch before' = .ok result after ∧ result.txError.isSome ∧
          hash = result.txHash
  | [], succeeded, before, pair, after, returned => by
    simp only [submitEarnBatchLoop, estate_pure_apply, EStateM.Result.ok.injEq] at returned
    obtain ⟨rfl, -⟩ := returned
    exact fun entry member => absurd member (List.not_mem_nil _)
  | batch :: batches, succeeded, before, pair, after, returned => by
    intro entry member hash hashed
    rcases submitEarnBatchLoop_cons_ok returned with
      ⟨result, sent, -, -, continued⟩ |
        ⟨result, err, entries, submitted, rejected, failed, rfl⟩ | ⟨e, -, rfl⟩
    · obtain ⟨other, within, found⟩ :=
        submitEarnBatchLoop_failed batches _ sent continued entry member hash hashed
      exact ⟨other, List.mem_cons_of_mem _ within, found⟩
    · obtain ⟨within, carried⟩ := failedEarns_hashes failed entry member
      exact ⟨batch, List.mem_cons_self _ _, within, before, result, submitted,
        by simp [rejected], Option.some.inj (hashed.symm.trans carried)⟩
    · obtain ⟨earn, -, rfl⟩ := List.mem_map.mp member
      cases hashed

end Reports

/-- `submit_earn_batch` returns what its loop over the sub-batches returns, with the
earns the loop never reached appended to `failed` with neither hash nor error. -/
theorem submitEarnBatch_returns {σ : Type} (c : Client) (coordinator : Coordinator σ)
    (sender : PrivateKey) (earns : List Earn) (channel : Option PrivateKey)
    (memo : Option String) {s s' : σ} {batchResult : BatchEarnResult}
    (returned : c.submitEarnBatch coordinator sender earns channel memo s = .ok batchResult s') :
    ∃ pair : List EarnResult × List EarnResult,
      submitEarnBatchLoop (c.submitEarnBatchTx coordinator sender · channel memo)
          (partition earns 100) [] s = .ok pair s' ∧
        batchResult.succeeded = pair.1 ∧
        batchResult.failed = pair.2 ++ (earns.drop (pair.1.length + pair.2.length)).map
          fun earn => ({ earn } : EarnResult) := by
  simp only [Client.submitEarnBatch, estate_bind_apply] at returned
  cases checked : c.checkEarns earns memo with
  | error e => simp [checked] at returned
  | ok u =>
    simp only [checked, liftExcept_ok_apply] at returned
    cases ran : submitEarnBatchLoop (c.submitEarnBatchTx coordinator sender · channel memo)
        (partition earns 100) [] s with
    | error e _ => simp [ran] at returned
    | ok pair _ =>
      simp only [ran, estate_pure_apply, EStateM.Result.ok.injEq] at returned
      obtain ⟨rfl, rfl⟩ := returned
      exact ⟨pair, rfl, rfl, rfl⟩

/-- A sub-batch's submission that returns passes on a result its coordinator returned. -/
theorem submitEarnBatchTx_returns {σ : Type} (c : Client) (coordinator : Coordinator σ)
    (sender : PrivateKey) (batch : List Earn) (channel : Option PrivateKey)
    (memo : Option String) {s s' : σ} {result : SubmitTransactionResult}
    (returned : c.submitEarnBatchTx coordinator sender batch channel memo s = .ok result s') :
    coordinator (signersFor c.whitelistKey channel sender)
      (c.earnBatchTransaction sender batch channel memo).1
      (c.earnBatchTransaction sender batch channel memo).2 s = .ok result s' := by
  by_cases long : batch.length > 100
  · simp [submitEarnBatchTx_refused c coordinator s sender batch channel memo long] at returned
  · simp only [Client.submitEarnBatchTx, long, if_false, estate_bind_apply] at returned
    cases called : coordinator (signersFor c.whitelistKey channel sender)
        (c.earnBatchTransaction sender batch channel memo).1
        (c.earnBatchTransaction sender batch channel memo).2 s with
    | ok answer after =>
      by_cases clean : answer.invoiceErrors = []
      · simpa [called, clean] using returned
      · simp [called, clean] at returned
    | error e after => simp [called] at returned

section Service

variable (c : Client) (t : Transport) (sender : PrivateKey) (channel : Option PrivateKey)
  (memo : Option String)

/-- A sub-batch's submission through the client's own coordinator only adds to the log. -/
theorem submitEarnBatchTx_grows (batch : List Earn) (before : List Request) :
    ∃ segment, finalState
      (c.submitEarnBatchTx (c.signAndSubmitBuilder t) sender batch channel memo before) =
        before ++ segment := by
  by_cases long : batch.length > 100
  · exact ⟨[], by simp [submitEarnBatchTx_refused c _ before sender batch channel memo long]⟩
  · rw [finalState_submitEarnBatchTx c _ sender channel memo before (by omega)]
    obtain ⟨requests, -, sent⟩ := signAndSubmitBuilder_requests c t _ _ _ before
    exact ⟨requests, sent⟩

/-- A sub-batch's submission through the client's own coordinator that returns a result
ends with a submission of the sub-batch's transaction, and the result is the service's
answer to it. -/
theorem submitEarnBatchTx_answered (batch : List Earn) (before : List Request)
    {result : SubmitTransactionResult} {sent : List Request}
    (submitted : c.submitEarnBatchTx (c.signAndSubmitBuilder t) sender batch channel memo
      before = .ok result sent) :
    ∃ (history : List Request) (n : Int),
      sent = history ++ [.submitTransaction ((c.earnBatchTransaction sender batch channel memo).1.envelope
          n (signersFor c.whitelistKey channel sender))
        (c.earnBatchTransaction sender batch channel memo).2] ∧
      t.submitResult history ((c.earnBatchTransaction sender batch channel memo).1.envelope n
          (signersFor c.whitelistKey channel sender))
        (c.earnBatchTransaction sender batch channel memo).2 = .ok result :=
  let ⟨history, n, ended, answered, _⟩ := signAndSubmitBuilder_returns t _ _ _ c before
    (submitEarnBatchTx_returns c _ sender batch channel memo submitted)
  ⟨history, n, ended, answered⟩

end Service

/-- Whenever `submit_earn_batch` returns, run by the client's own coordinator against any
service, every earn it lists as succeeded has no error and the hash of a result with no
`tx_error` that the service gave in answer to a submission of the transaction of the
earn's own sub-batch, and that submission is in the request log. -/
theorem submitEarnBatch_succeeded_accepted (c : Client) (t : Transport) (sender : PrivateKey)
    (earns : List Earn) (channel : Option PrivateKey) (memo : Option String)
    (log : List Request) {batchResult : BatchEarnResult} {after : List Request}
    (returned : c.submitEarnBatch (c.signAndSubmitBuilder t) sender earns channel memo log =
      .ok batchResult after) :
    ∀ entry ∈ batchResult.succeeded, entry.error = none ∧
      ∃ batch ∈ partition earns 100, entry.earn ∈ batch ∧
        ∃ (history : List Request) (n : Int) (result : SubmitTransactionResult) (rest : List Request),
          t.submitResult history ((c.earnBatchTransaction sender batch channel memo).1.envelope n
            (signersFor c.whitelistKey channel sender))
            (c.earnBatchTransaction sender batch channel memo).2 = .ok result ∧
          result.txError = none ∧ entry.txHash = some result.txHash ∧
          after = history ++ .submitTransaction
            ((c.earnBatchTransaction sender batch channel memo).1.envelope n
              (signersFor c.whitelistKey channel sender))
            (c.earnBatchTransaction sender batch channel memo).2 :: rest := by
  obtain ⟨pair, ran, listed, -⟩ := submitEarnBatch_returns c _ sender earns channel memo returned
  intro entry member
  rw [listed] at member
  rcases submitEarnBatchLoop_succeeded (submitEarnBatchTx_grows c t sender channel memo) _ [] log
      ran entry member with
    never | ⟨untouched, batch, within, carried, sent, result, rest, ⟨before, submitted⟩,
      accepted, hashed, later⟩
  · cases never
  obtain ⟨history, n, ended, answered⟩ :=
    submitEarnBatchTx_answered c t sender channel memo batch before submitted
  exact ⟨untouched, batch, within, carried, history, n, result, rest, answered, accepted,
    hashed, by rw [later, ended, List.append_assoc, List.singleton_append]⟩

theorem submitEarnBatch_succeeded_accepted_sample :
    ∃ after, sampleClient.submitEarnBatch (sampleClient.signAndSubmitBuilder sampleTransport)
        sampleSender [sampleEarn] none none [] =
          .ok ⟨[⟨sampleEarn, some [1], none⟩], []⟩ after ∧
      ∀ entry ∈ [(⟨sampleEarn, some [1], none⟩ : EarnResult)], entry.error = none ∧
        ∃ batch ∈ partition [sampleEarn] 100, entry.earn ∈ batch ∧
          ∃ (history : List Request) (n : Int) (result : SubmitTransactionResult)
            (rest : List Request),
            sampleTransport.submitResult history
              ((sampleClient.earnBatchTransaction sampleSender batch none none).1.envelope n
                (signersFor sampleClient.whitelistKey none sampleSender))
              (sampleClient.earnBatchTransaction sampleSender batch none none).2 = .ok result ∧
            result.txError = none ∧ entry.txHash = some result.txHash ∧
            after = history ++ .submitTransaction
              ((sampleClient.earnBatchTransaction sampleSender batch none none).1.envelope n
                (signersFor sampleClient.whitelistKey none sampleSender))
              (sampleClient.earnBatchTransaction sampleSender batch none none).2 :: rest :=
  ⟨_, rfl, submitEarnBatch_succeeded_accepted sampleClient sampleTransport sampleSender
    [sampleEarn] none none [] rfl⟩

/-- Whenever `submit_earn_batch` returns, run by the client's own coordinator against any
service, every earn it lists as failed with a hash carries the hash of a result with a
`tx_error` that the service gave in answer to the client's last request, a submission of
the transaction of the earn's own sub-batch. -/
theorem submitEarnBatch_failed_rejected (c : Client) (t : Transport) (sender : PrivateKey)
    (earns : List Earn) (channel : Option PrivateKey) (memo : Option String)
    (log : List Request) {batchResult : BatchEarnResult} {after : List Request}
    (returned : c.submitEarnBatch (c.signAndSubmitBuilder t) sender earns channel memo log =
      .ok batchResult after) :
    ∀ entry ∈ batchResult.failed, ∀ hash, entry.txHash = some hash →
      ∃ batch ∈ partition earns 100, entry.earn ∈ batch ∧
        ∃ (history : List Request) (n : Int) (result : SubmitTransactionResult),
          t.submitResult history ((c.earnBatchTransaction sender batch channel memo).1.envelope n
            (signersFor c.whitelistKey channel sender))
            (c.earnBatchTransaction sender batch channel memo).2 = .ok result ∧
          result.txError.isSome ∧ hash = result.txHash ∧
          after = history ++ [.submitTransaction
            ((c.earnBatchTransaction sender batch channel memo).1.envelope n
              (signersFor c.whitelistKey channel sender))
            (c.earnBatchTransaction sender batch channel memo).2] := by
  obtain ⟨pair, ran, -, listed⟩ := submitEarnBatch_returns c _ sender earns channel memo returned
  intro entry member hash hashed
  rw [listed, List.mem_append] at member
  rcases member with failed | unreached
  · obtain ⟨batch, within, carried, before, result, submitted, rejected, rfl⟩ :=
      submitEarnBatchLoop_failed _ [] log ran entry failed hash hashed
    obtain ⟨history, n, ended, answered⟩ :=
      submitEarnBatchTx_answered c t sender channel memo batch before submitted
    exact ⟨batch, within, carried, history, n, result, answered, rejected, rfl, ended⟩
  · obtain ⟨earn, -, rfl⟩ := List.mem_map.mp unreached
    cases hashed

/-- A service at sequence number 7 that rejects every transaction with an insufficient
balance. -/
def rejectingTransport : Transport where
  accountInfo _ _ := .ok ⟨7⟩
  submitResult _ _ _ := .ok ⟨[4], [], some ⟨some (.ofKind .insufficientBalance), []⟩⟩

theorem submitEarnBatch_failed_rejected_sample :
    ∃ after, sampleClient.submitEarnBatch (sampleClient.signAndSubmitBuilder rejectingTransport)
        sampleSender [sampleEarn] none none [] =
          .ok ⟨[], [⟨sampleEarn, some [4], some (.ofKind .insufficientBalance)⟩]⟩ after ∧
      ∀ entry ∈ [(⟨sampleEarn, some [4], some (.ofKind .insufficientBalance)⟩ : EarnResult)],
        ∀ hash, entry.txHash = some hash →
        ∃ batch ∈ partition [sampleEarn] 100, entry.earn ∈ batch ∧
          ∃ (history : List Request) (n : Int) (result : SubmitTransactionResult),
            rejectingTransport.submitResult history
              ((sampleClient.earnBatchTransaction sampleSender batch none none).1.envelope n
                (signersFor sampleClient.whitelistKey none sampleSender))
              (sampleClient.earnBatchTransaction sampleSender batch none none).2 = .ok result ∧
            result.txError.isSome ∧ hash = result.txHash ∧
            after = history ++ [.submitTransaction
              ((sampleClient.earnBatchTransaction sampleSender batch none none).1.envelope n
                (signersFor sampleClient.whitelistKey none sampleSender))
              (sampleClient.earnBatchTransaction sampleSender batch none none).2] :=
  ⟨_, rfl, submitEarnBatch_failed_rejected sampleClient rejectingTransport sampleSender
    [sampleEarn] none none [] rfl⟩

/-- Whenever `submit_payment` returns a hash, run by the client's own coordinator against
any service, the hash is that of the service's answer to the call's last request, a
submission of the payment's transaction, and that answer reports no operation error, no
transaction-level error and no invoice error. -/
theorem submitPayment_returns_accepted (c : Client) (t : Transport) (payment : Payment)
    (log : List Request) {hash : Bytes} {after : List Request}
    (returned : c.submitPayment (c.signAndSubmitBuilder t) payment log = .ok hash after) :
    ∃ (history : List Request) (n : Int) (result : SubmitTransactionResult),
      after = history ++ [.submitTransaction ((c.paymentTransaction payment).1.envelope n
        (signersFor c.whitelistKey payment.channel payment.sender))
        (c.paymentTransaction payment).2] ∧
      t.submitResult history ((c.paymentTransaction payment).1.envelope n
        (signersFor c.whitelistKey payment.channel payment.sender))
        (c.paymentTransaction payment).2 = .ok result ∧
      hash = result.txHash ∧ reportedErrors result = ([], none) ∧ result.invoiceErrors = [] := by
  by_cases refused : payment.invoice.isSome ∧ c.appIndex ≤ 0
  · simp [submitPayment_refused c _ log payment refused] at returned
  rw [submitPayment_eq c _ payment log refused] at returned
  cases called : c.signAndSubmitBuilder t (signersFor c.whitelistKey payment.channel payment.sender)
      (c.paymentTransaction payment).1 (c.paymentTransaction payment).2 log with
  | error e sent => simp [called] at returned
  | ok result sent =>
    simp only [called] at returned
    cases classified : paymentOutcome result with
    | error e => simp [classified, resultOf] at returned
    | ok reported =>
      simp only [classified, resultOf, EStateM.Result.ok.injEq] at returned
      obtain ⟨rfl, rfl⟩ := returned
      obtain ⟨clean, uninvoiced, rfl⟩ := (paymentOutcome_eq_ok_iff result reported).mp classified
      obtain ⟨history, n, ended, answered, -⟩ := signAndSubmitBuilder_returns t _ _ _ c log called
      exact ⟨history, n, result, ended, answered, rfl, clean, uninvoiced⟩

theorem submitPayment_returns_accepted_sample :
    ∃ after, sampleClient.submitPayment (sampleClient.signAndSubmitBuilder sampleTransport)
        samplePayment [] = .ok [1] after ∧
      ∃ (history : List Request) (n : Int) (result : SubmitTransactionResult),
        after = history ++ [.submitTransaction
          ((sampleClient.paymentTransaction samplePayment).1.envelope n
            (signersFor sampleClient.whitelistKey samplePayment.channel samplePayment.sender))
          (sampleClient.paymentTransaction samplePayment).2] ∧
        sampleTransport.submitResult history
          ((sampleClient.paymentTransaction samplePayment).1.envelope n
            (signersFor sampleClient.whitelistKey samplePayment.channel samplePayment.sender))
          (sampleClient.paymentTransaction samplePayment).2 = .ok result ∧
        [1] = result.txHash ∧ reportedErrors result = ([], none) ∧ result.invoiceErrors = [] :=
  ⟨_, rfl, submitPayment_returns_accepted sampleClient sampleTransport samplePayment [] rfl⟩

end AgoraClient

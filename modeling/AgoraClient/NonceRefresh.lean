import AgoraClient.Client

namespace AgoraClient

/-!
# The nonce-refresh loop

`_sign_and_submit_builder` gets its loop from three pieces: the retry executor, the two
nonce strategies, and a closure whose `nonlocal offset` survives from one attempt to
the next.  `nonceLoop` writes the same loop with its state explicit: the offset is an
argument, and `refreshes` counts the retries still allowed.  `signAndSubmitBuilder_eq`
shows that the coordinator is that loop, for every service and every call, with no
assumption on what the service answers; every later theorem about the coordinator
reads the loop, not the executor.

Against a service that reports bad nonces only in its results, as §4.4 assumes, the
loop keeps offset and attempt in step: attempt `k`, counted from 1, is sent at sequence
number `s + k` (`nonceLoop_unraised`).  A `BadNonceError` raised by the service itself is
retried without moving the offset on; `AgoraClient.Attempted` in the next module states
the run for that case too.
-/

/-- Whether a service answer is a result reporting a bad nonce. -/
def isBadNonce : Except Exception SubmitTransactionResult → Bool
  | .ok result => result.badNonceError.isSome
  | .error _ => false

/-- What one run of the closure makes of the service's answer: a bad-nonce result is
raised as its `BadNonceError`, and anything else is passed on unchanged. -/
def attemptOutcome :
    Except Exception SubmitTransactionResult → Except Exception SubmitTransactionResult
  | .ok result =>
    match result.badNonceError with
    | some e => .error (.error e)
    | none => .ok result
  | .error e => .error e

/-- Whether the nonce strategies retry after an answer: a result reporting a bad nonce,
which the closure raises as its `BadNonceError`, or a `BadNonceError` the service raised
itself. -/
def retriesOn : Except Exception SubmitTransactionResult → Bool
  | .ok result => result.badNonceError.isSome
  | .error e => e.isInstance .badNonce

theorem retriesOn_of_isBadNonce {answer : Except Exception SubmitTransactionResult}
    (reported : isBadNonce answer) : retriesOn answer := by
  rcases answer with e | result
  · cases reported
  · exact reported

/-- The nonce-refresh loop with its state explicit.  Each attempt sends the builder's
envelope at sequence number `s + offset`.  While retries remain, a result reporting a
bad nonce moves the offset on and retries, and a raised `BadNonceError` retries at the
same offset; anything else ends the loop.  The last attempt ends it in any case. -/
def nonceLoop (t : Transport) (signers : List PrivateKey) (builder : Builder)
    (invoiceList : Option InvoiceList) (s : Int) :
    (refreshes offset : Nat) → ClientM SubmitTransactionResult
  | 0, offset => fun log =>
    let envelope := builder.envelope (s + offset) signers
    resultOf (attemptOutcome (t.submitResult log envelope invoiceList))
      (log ++ [.submitTransaction envelope invoiceList])
  | refreshes + 1, offset => fun log =>
    let envelope := builder.envelope (s + offset) signers
    let sent := log ++ [.submitTransaction envelope invoiceList]
    match t.submitResult log envelope invoiceList with
    | .ok result =>
      match result.badNonceError with
      | some _ => nonceLoop t signers builder invoiceList s refreshes (offset + 1) sent
      | none => .ok result sent
    | .error e =>
      if e.isInstance .badNonce then nonceLoop t signers builder invoiceList s refreshes offset sent
      else .error e sent

section Refinement

variable (t : Transport) (signers : List PrivateKey) (builder : Builder)
  (invoiceList : Option InvoiceList) (s : Int)

/-- One attempt with a retry left: it sends the envelope at `s + offset`; an answer the
strategies retry on starts the next attempt, one offset further on exactly when the
answer reported a bad nonce, and any other answer ends the loop as it is. -/
theorem nonceLoop_succ (refreshes offset : Nat) (log : List Request) :
    nonceLoop t signers builder invoiceList s (refreshes + 1) offset log =
      if retriesOn (t.submitResult log (builder.envelope (s + offset) signers) invoiceList) then
        nonceLoop t signers builder invoiceList s refreshes
          (offset + if isBadNonce (t.submitResult log (builder.envelope (s + offset) signers)
            invoiceList) then 1 else 0)
          (log ++ [.submitTransaction (builder.envelope (s + offset) signers) invoiceList])
      else
        resultOf (t.submitResult log (builder.envelope (s + offset) signers) invoiceList)
          (log ++ [.submitTransaction (builder.envelope (s + offset) signers) invoiceList]) := by
  cases answered : t.submitResult log (builder.envelope (s + offset) signers) invoiceList with
  | ok result =>
    cases bad : result.badNonceError <;>
      simp [nonceLoop, answered, bad, retriesOn, isBadNonce, resultOf]
  | error e =>
    by_cases raised : e.isInstance .badNonce <;>
      simp [nonceLoop, answered, raised, retriesOn, isBadNonce, resultOf]

/-- One run of the closure from any log and offset: it sends the envelope at `s + offset`
and moves the offset on exactly when the answer reports a bad nonce. -/
theorem signAndSubmit_apply (log : List Request) (offset : Nat) :
    signAndSubmit t signers builder invoiceList ⟨s⟩ (log, offset) =
      resultOf (attemptOutcome (t.submitResult log (builder.envelope (s + offset) signers)
          invoiceList))
        (log ++ [.submitTransaction (builder.envelope (s + offset) signers) invoiceList],
          offset + if isBadNonce (t.submitResult log (builder.envelope (s + offset) signers)
            invoiceList) then 1 else 0) := by
  simp only [signAndSubmit, submitTransaction, send_apply]
  cases t.submitResult log (builder.envelope (s + offset) signers) invoiceList with
  | error e => rfl
  | ok result => cases bad : result.badNonceError <;> simp [attemptOutcome, isBadNonce, resultOf, bad]

/-- An answer the nonce strategies retry on reaches the retry executor as a raised
`BadNonceError`. -/
theorem attemptOutcome_of_retriesOn {answer : Except Exception SubmitTransactionResult}
    (retried : retriesOn answer) :
    ∃ e, attemptOutcome answer = .error e ∧ e.isInstance .badNonce := by
  rcases answer with e | result
  · exact ⟨e, rfl, retried⟩
  · obtain ⟨e, bad⟩ := Option.isSome_iff_exists.mp retried
    exact ⟨.error e, by simp [attemptOutcome, bad],
      by simp [Exception.isInstance, badNonceError_kind bad]⟩

/-- Any other answer reaches it unchanged. -/
theorem attemptOutcome_of_not_retriesOn {answer : Except Exception SubmitTransactionResult}
    (unretried : retriesOn answer = false) : attemptOutcome answer = answer := by
  rcases answer with e | result
  · rfl
  · cases bad : result.badNonceError <;> simp_all [retriesOn, attemptOutcome]

/-- The retry executor running the closure under the nonce strategies, after `attempts`
attempts with `fuel` retries left, is `nonceLoop` with `fuel` refreshes, once the
closure's offset is dropped. -/
theorem withLocal_retryFrom_signAndSubmit (r : Nat) :
    ∀ fuel attempts offset log, attempts + fuel = r →
      withLocal offset (retryFrom [.retriableErrors [.badNonce], .limit (r + 1)]
          (signAndSubmit t signers builder invoiceList ⟨s⟩) fuel attempts) log =
        nonceLoop t signers builder invoiceList s fuel offset log := by
  intro fuel
  induction fuel with
  | zero =>
    intro attempts offset log _
    show withLocal offset (signAndSubmit t signers builder invoiceList ⟨s⟩) log = _
    exact withLocal_resultOf (signAndSubmit_apply t signers builder invoiceList s log offset)
  | succ fuel ih =>
    intro attempts offset log remaining
    have attempt := signAndSubmit_apply t signers builder invoiceList s log offset
    rw [nonceLoop_succ]
    by_cases retried : retriesOn (t.submitResult log (builder.envelope (s + offset) signers)
      invoiceList)
    · obtain ⟨e, raised, bad⟩ := attemptOutcome_of_retriesOn retried
      rw [raised] at attempt
      have agreed : ∀ strategy ∈ [Strategy.retriableErrors [.badNonce], .limit (r + 1)],
          strategy.shouldRetry (attempts + 1) e = true := by
        simp only [List.mem_cons, List.mem_singleton, List.not_mem_nil, or_false]
        rintro strategy (rfl | rfl)
        · simp [Strategy.shouldRetry, bad]
        · simp only [Strategy.shouldRetry, decide_eq_true_eq]
          omega
      simp only [withLocal, if_pos retried] at ih ⊢
      rw [retryFrom_succ_retried attempt agreed, ih _ _ _ (by omega)]
    · rw [Bool.not_eq_true] at retried
      rw [attemptOutcome_of_not_retriesOn retried] at attempt
      rw [if_neg (by simp [retried])]
      revert attempt retried
      cases t.submitResult log (builder.envelope (s + offset) signers) invoiceList with
      | ok result => exact fun attempt _ => withLocal_resultOf (retryFrom_ok attempt)
      | error e =>
        exact fun attempt refused => withLocal_resultOf (retryFrom_refused attempt
          ⟨_, List.mem_cons_self _ _, by simpa [Strategy.shouldRetry] using refused⟩)

end Refinement

/-- The coordinator fetches the account of `signers[0]` once and hands the retry loop
the log that ends with that request, with the offset at 1. -/
theorem signAndSubmitBuilder_fetches (c : Client) (t : Transport) {signers : List PrivateKey}
    {builder : Builder} {invoiceList : Option InvoiceList} {log : List Request} {s : Int}
    {signer : PrivateKey} (first : signers.head? = some signer)
    (fetched : t.accountInfo log signer.publicKey = .ok ⟨s⟩) :
    c.signAndSubmitBuilder t signers builder invoiceList log =
      withLocal 1 (retry c.nonceRetryStrategies (c.retryConfig.maxNonceRefreshes + 1)
          (signAndSubmit t signers builder invoiceList ⟨s⟩))
        (log ++ [.getAccountInfo signer.publicKey]) := by
  have indexed : pyIndex signers 0 = .ok signer := by
    simp only [pyIndex, List.get?_zero, first]
  simp only [Client.signAndSubmitBuilder, bind, EStateM.bind, liftExcept, indexed, pure,
    EStateM.pure, getAccountInfo, send_apply, fetched]

/-- With a signer and a successful fetch, `_sign_and_submit_builder` is the loop from
offset 1 with `max_nonce_refreshes` retries, after the fetch. -/
theorem signAndSubmitBuilder_fetched (c : Client) (t : Transport) {signers : List PrivateKey}
    {builder : Builder} {invoiceList : Option InvoiceList} {log : List Request}
    {signer : PrivateKey} {info : AccountInfo} (first : signers.head? = some signer)
    (fetched : t.accountInfo log signer.publicKey = .ok info) :
    c.signAndSubmitBuilder t signers builder invoiceList log =
      nonceLoop t signers builder invoiceList info.sequenceNumber
        c.retryConfig.maxNonceRefreshes 1 (log ++ [.getAccountInfo signer.publicKey]) := by
  obtain ⟨s⟩ := info
  have limited : Strategy.limit (c.retryConfig.maxNonceRefreshes + 1) ∈
      c.nonceRetryStrategies := List.mem_cons_of_mem _ (List.mem_singleton_self _)
  rw [signAndSubmitBuilder_fetches c t first fetched, retry,
    retryFrom_fuel_succ limited (by omega)]
  exact withLocal_retryFrom_signAndSubmit t _ builder invoiceList s
    c.retryConfig.maxNonceRefreshes c.retryConfig.maxNonceRefreshes 0 1 _ (Nat.zero_add _)

/-- `_sign_and_submit_builder` is `nonceLoop`, for every service and every call.  With no
signer it raises `IndexError` before sending anything; otherwise it fetches the account
of `signers[0]` once, propagates a failed fetch, and runs the loop from offset 1 with
`max_nonce_refreshes` refreshes. -/
theorem signAndSubmitBuilder_eq (c : Client) (t : Transport) (signers : List PrivateKey)
    (builder : Builder) (invoiceList : Option InvoiceList) (log : List Request) :
    c.signAndSubmitBuilder t signers builder invoiceList log =
      match signers with
      | [] => .error (.indexError "list index out of range") log
      | signer :: _ =>
        match t.accountInfo log signer.publicKey with
        | .ok info =>
          nonceLoop t signers builder invoiceList info.sequenceNumber
            c.retryConfig.maxNonceRefreshes 1 (log ++ [.getAccountInfo signer.publicKey])
        | .error e => .error e (log ++ [.getAccountInfo signer.publicKey]) := by
  rcases signers with _ | ⟨signer, others⟩
  · rfl
  · cases fetched : t.accountInfo log signer.publicKey with
    | error e =>
      simp [Client.signAndSubmitBuilder, pyIndex, getAccountInfo, send_apply, fetched]
    | ok info =>
      simp only [fetched]
      exact signAndSubmitBuilder_fetched c t rfl fetched

section Attempts

variable (t : Transport) (signers : List PrivateKey) (builder : Builder)
  (invoiceList : Option InvoiceList) (s : Int) (start : List Request)

/-- The submissions of the first `n` attempts: attempt `k + 1` sends the builder's
envelope at sequence number `s + (k + 1)`, signed by every signer in order. -/
def attemptRequests (n : Nat) : List Request :=
  (List.range n).map fun k =>
    .submitTransaction (builder.envelope (s + (k + 1 : Nat)) signers) invoiceList

/-- The service's answer to attempt `k + 1`, which it receives after `start` and the
attempts before it. -/
def attemptResponse (k : Nat) : Except Exception SubmitTransactionResult :=
  t.submitResult (start ++ attemptRequests signers builder invoiceList s k)
    (builder.envelope (s + (k + 1 : Nat)) signers) invoiceList

theorem attemptRequests_succ (n : Nat) :
    attemptRequests signers builder invoiceList s (n + 1) =
      attemptRequests signers builder invoiceList s n ++
        [.submitTransaction (builder.envelope (s + (n + 1 : Nat)) signers) invoiceList] := by
  simp [attemptRequests, List.range_succ]

@[simp] theorem attemptRequests_zero :
    attemptRequests signers builder invoiceList s 0 = [] := rfl

/-- Against a service that never raises `BadNonceError`, the loop started before attempt
`a + 1`, with the offset at `a + 1`, keeps offset and attempt in step.  It ends at some
attempt `n + 1` with that attempt's outcome; every attempt from `a + 1` up to it reported
a bad nonce; and a last bad nonce ends it only when no retry was left. -/
theorem nonceLoop_unraised
    (noRaisedBadNonce : ∀ history envelope e,
      t.submitResult history envelope invoiceList = .error (.error e) → e.kind ≠ .badNonce) :
    ∀ refreshes a, ∃ n, a ≤ n ∧ n ≤ a + refreshes ∧
      (∀ k, a ≤ k → k < n → isBadNonce (attemptResponse t signers builder invoiceList s start k)) ∧
      (isBadNonce (attemptResponse t signers builder invoiceList s start n) →
        n = a + refreshes) ∧
      nonceLoop t signers builder invoiceList s refreshes (a + 1)
          (start ++ attemptRequests signers builder invoiceList s a) =
        resultOf (attemptOutcome (attemptResponse t signers builder invoiceList s start n))
          (start ++ attemptRequests signers builder invoiceList s (n + 1)) := by
  intro refreshes
  induction refreshes with
  | zero =>
    intro a
    refine ⟨a, le_rfl, le_rfl, fun k _ high => absurd high (by omega), fun _ => rfl, ?_⟩
    simp only [nonceLoop, attemptResponse, attemptRequests_succ, List.append_assoc]
  | succ refreshes ih =>
    intro a
    have answer : t.submitResult (start ++ attemptRequests signers builder invoiceList s a)
        (builder.envelope (s + (a + 1 : Nat)) signers) invoiceList =
        attemptResponse t signers builder invoiceList s start a := rfl
    have sent : start ++ attemptRequests signers builder invoiceList s a ++
        [.submitTransaction (builder.envelope (s + (a + 1 : Nat)) signers) invoiceList] =
        start ++ attemptRequests signers builder invoiceList s (a + 1) := by
      rw [attemptRequests_succ, List.append_assoc]
    rw [nonceLoop_succ, answer, sent]
    by_cases retried : retriesOn (attemptResponse t signers builder invoiceList s start a)
    · -- the service raises no `BadNonceError`, so the retry is for a reported one
      have reported : isBadNonce (attemptResponse t signers builder invoiceList s start a) := by
        revert retried
        cases answered : attemptResponse t signers builder invoiceList s start a with
        | ok result => exact id
        | error e =>
          cases e with
          | error err =>
            exact fun raised => absurd (by simpa [retriesOn, Exception.isInstance] using raised)
              (noRaisedBadNonce _ _ err (answer.trans answered))
          | _ => simp [retriesOn, Exception.isInstance]
      obtain ⟨n, low, high, earlier, lastBad, run⟩ := ih (a + 1)
      refine ⟨n, by omega, by omega, fun k low' high' => ?_,
        fun bad => by have := lastBad bad; omega, ?_⟩
      · rcases Nat.eq_or_lt_of_le low' with rfl | later
        · exact reported
        · exact earlier k later high'
      · rw [if_pos retried, if_pos reported, ← run]
    · refine ⟨a, le_rfl, by omega, fun k _ high => absurd high (by omega),
        fun reported => absurd (retriesOn_of_isBadNonce reported) retried, ?_⟩
      rw [if_neg retried, attemptOutcome_of_not_retriesOn (by simpa using retried)]

end Attempts

/-- `_sign_and_submit_builder` against a service that never raises `BadNonceError`,
for any signers and a successful fetch of `signers[0]`'s account: attempt `k + 1` is sent
at sequence number `s + (k + 1)`, and the call ends with the outcome of the first attempt
`n + 1 ≤ max_nonce_refreshes + 1` whose answer is not a bad-nonce result, or with the
last attempt's `BadNonceError`. -/
theorem signAndSubmitBuilder_unraised (c : Client) (t : Transport) (signers : List PrivateKey)
    (builder : Builder) (invoiceList : Option InvoiceList) (log : List Request)
    {signer : PrivateKey} {s : Int} (first : signers.head? = some signer)
    (fetched : t.accountInfo log signer.publicKey = .ok ⟨s⟩)
    (noRaisedBadNonce : ∀ history envelope e,
      t.submitResult history envelope invoiceList = .error (.error e) → e.kind ≠ .badNonce) :
    let start := log ++ [.getAccountInfo signer.publicKey]
    ∃ n ≤ c.retryConfig.maxNonceRefreshes,
      (∀ k < n, isBadNonce (attemptResponse t signers builder invoiceList s start k)) ∧
      (isBadNonce (attemptResponse t signers builder invoiceList s start n) →
        n = c.retryConfig.maxNonceRefreshes) ∧
      c.signAndSubmitBuilder t signers builder invoiceList log =
        resultOf (attemptOutcome (attemptResponse t signers builder invoiceList s start n))
          (start ++ attemptRequests signers builder invoiceList s (n + 1)) := by
  intro start
  obtain ⟨n, -, high, earlier, lastBad, run⟩ :=
    nonceLoop_unraised t signers builder invoiceList s start noRaisedBadNonce
      c.retryConfig.maxNonceRefreshes 0
  refine ⟨n, by omega, fun k below => earlier k (Nat.zero_le k) below,
    fun bad => by simpa using lastBad bad, ?_⟩
  rw [signAndSubmitBuilder_fetched c t first fetched]
  simpa using run

/-- `_sign_and_submit_builder` with the signers of either submission.  It fetches the
account of `signers[0]`, the channel when there is one and else the sender, exactly
once; attempt `k + 1` is then sent at sequence number `s + (k + 1)`; the loop stops at
the first attempt `n + 1 ≤ max_nonce_refreshes + 1` whose answer is not a bad-nonce
result, returning that result or raising that error unchanged, and raises the
`BadNonceError` of the last attempt only when all `max_nonce_refreshes + 1` attempts
reported a bad nonce. -/
theorem signAndSubmitBuilder_refreshes_nonce (c : Client) (t : Transport)
    (channel : Option PrivateKey) (sender : PrivateKey) (builder : Builder)
    (invoiceList : Option InvoiceList) (log : List Request) (s : Int)
    (fetched : t.accountInfo log (channel.getD sender).publicKey = .ok ⟨s⟩)
    (noRaisedBadNonce : ∀ history envelope e,
      t.submitResult history envelope invoiceList = .error (.error e) → e.kind ≠ .badNonce) :
    let signers := signersFor c.whitelistKey channel sender
    let start := log ++ [.getAccountInfo (channel.getD sender).publicKey]
    ∃ n ≤ c.retryConfig.maxNonceRefreshes,
      (∀ k < n, isBadNonce (attemptResponse t signers builder invoiceList s start k)) ∧
      (isBadNonce (attemptResponse t signers builder invoiceList s start n) →
        n = c.retryConfig.maxNonceRefreshes) ∧
      c.signAndSubmitBuilder t signers builder invoiceList log =
        resultOf (attemptOutcome (attemptResponse t signers builder invoiceList s start n))
          (start ++ attemptRequests signers builder invoiceList s (n + 1)) :=
  signAndSubmitBuilder_unraised c t _ builder invoiceList log (signersFor_head _ _ _) fetched
    noRaisedBadNonce

/-- A client allowing two nonce refreshes, with no app index and no whitelist key. -/
def sampleClient : Client :=
  ⟨0, none, RetryConfig.new none (some 2), 3, none, by decide⟩

def sampleSender : PrivateKey :=
  ⟨⟨"GSENDER"⟩, "SSENDER"⟩

def sampleBuilder : Builder :=
  getStellarBuilder sampleSender

/-- A service at sequence number 7 that reports a bad nonce until it has seen three
requests, and then accepts. -/
def sampleTransport : Transport where
  accountInfo _ _ := .ok ⟨7⟩
  submitResult history _ _ :=
    if history.length < 3 then .ok ⟨[2], [], some ⟨some (.ofKind .badNonce), []⟩⟩
    else .ok ⟨[1], [], none⟩

theorem signAndSubmitBuilder_refreshes_nonce_sample :
    sampleTransport.accountInfo [] ((none : Option PrivateKey).getD sampleSender).publicKey =
        .ok ⟨7⟩ ∧
      (∀ history envelope e, sampleTransport.submitResult history envelope none =
        .error (.error e) → e.kind ≠ .badNonce) ∧
      let signers := signersFor sampleClient.whitelistKey none sampleSender
      let start := [Request.getAccountInfo ((none : Option PrivateKey).getD sampleSender).publicKey]
      ∃ n ≤ sampleClient.retryConfig.maxNonceRefreshes,
        (∀ k < n, isBadNonce (attemptResponse sampleTransport signers sampleBuilder none 7 start k)) ∧
        (isBadNonce (attemptResponse sampleTransport signers sampleBuilder none 7 start n) →
          n = sampleClient.retryConfig.maxNonceRefreshes) ∧
        sampleClient.signAndSubmitBuilder sampleTransport signers sampleBuilder none [] =
          resultOf (attemptOutcome (attemptResponse sampleTransport signers sampleBuilder none 7 start n))
            (start ++ attemptRequests signers sampleBuilder none 7 (n + 1)) := by
  have neverRaised : ∀ history envelope e, sampleTransport.submitResult history envelope none =
      .error (.error e) → e.kind ≠ .badNonce := by
    intro history envelope e raised
    simp only [sampleTransport] at raised
    split at raised <;> cases raised
  exact ⟨rfl, neverRaised, signAndSubmitBuilder_refreshes_nonce sampleClient sampleTransport none
    sampleSender sampleBuilder none [] 7 rfl neverRaised⟩

end AgoraClient

import Mathlib.Data.List.Chain
import AgoraClient.NonceRefresh

namespace AgoraClient

/-!
# What one coordinator call sends and returns

`signAndSubmitBuilder_eq` makes the coordinator a run of `nonceLoop`.  This module reads a
whole run, for every service and whatever the service answers.

`Attempted` states a run from the service's answers alone: where each attempt is sent,
why the loop retried after it, and why it stopped.  The offset moves on exactly after a
reported bad nonce.  A `BadNonceError` the service raises itself is retried at the same
offset, so the same envelope goes out again.  `CallRequests` keeps what the later
modules need of a run: the fetch, then at most `max_nonce_refreshes + 1` submissions at
offsets from 1 that never go back or skip.  Whatever a call returns is the service's
answer to its last request (`signAndSubmitBuilder_returns`).

A request here is one call of the internal client, `get_account_info` or
`submit_transaction`.  That client is built with its own retry strategies
(client.py:209-214, 226), which are not modelled: each such call counts once, however
often the internal client repeats it on the wire.
-/

/-- The submissions of attempts at the given offsets from the sequence number `s`. -/
def submissions (signers : List PrivateKey) (builder : Builder)
    (invoiceList : Option InvoiceList) (s : Int) (offsets : List Nat) : List Request :=
  offsets.map fun offset : Nat =>
    .submitTransaction (builder.envelope (s + offset) signers) invoiceList

@[simp] theorem length_submissions (signers : List PrivateKey) (builder : Builder)
    (invoiceList : Option InvoiceList) (s : Int) (offsets : List Nat) :
    (submissions signers builder invoiceList s offsets).length = offsets.length :=
  List.length_map _ _

/-- The offsets a run of the loop reads, in order: from its first offset on, each equal
to the one before or one more. -/
def Ascending (offsets : List Nat) : Prop :=
  offsets.Chain' fun offset next => next = offset ∨ next = offset + 1

/-- The attempts of one run of the loop, read off the service's answers: the run makes
its attempts at `offsets`, the first after `history`, with `refreshes` retries allowed.
The last attempt ends the run: the strategies do not retry on its answer, or no retry is
left.  Every other attempt got an answer they retry on, and the next attempt is one
offset further on exactly when that answer reported a bad nonce; after a `BadNonceError`
the service raised, it is at the same offset. -/
inductive Attempted (t : Transport) (signers : List PrivateKey) (builder : Builder)
    (invoiceList : Option InvoiceList) (s : Int) : Nat → List Request → List Nat → Prop
  | last {refreshes : Nat} {history : List Request} {offset : Nat} :
    (refreshes = 0 ∨ retriesOn (t.submitResult history (builder.envelope (s + offset) signers)
      invoiceList) = false) →
    Attempted t signers builder invoiceList s refreshes history [offset]
  | retry {refreshes : Nat} {history : List Request} {offset next : Nat} {offsets : List Nat} :
    retriesOn (t.submitResult history (builder.envelope (s + offset) signers) invoiceList) →
    next = offset + (if isBadNonce (t.submitResult history (builder.envelope (s + offset) signers)
      invoiceList) then 1 else 0) →
    Attempted t signers builder invoiceList s refreshes
      (history ++ [.submitTransaction (builder.envelope (s + offset) signers) invoiceList])
      (next :: offsets) →
    Attempted t signers builder invoiceList s (refreshes + 1) history (offset :: next :: offsets)

section Runs

variable {t : Transport} {signers : List PrivateKey} {builder : Builder}
  {invoiceList : Option InvoiceList} {s : Int}

/-- A run makes at most one attempt more than the retries it allows. -/
theorem attempted_length_le {refreshes : Nat} {history : List Request} {offsets : List Nat}
    (attempted : Attempted t signers builder invoiceList s refreshes history offsets) :
    offsets.length ≤ refreshes + 1 := by
  induction attempted with
  | last => simp
  | retry _ _ _ ih =>
    simp only [List.length_cons] at ih ⊢
    omega

/-- The offsets of a run never go back or skip. -/
theorem attempted_ascending {refreshes : Nat} {history : List Request} {offsets : List Nat}
    (attempted : Attempted t signers builder invoiceList s refreshes history offsets) :
    Ascending offsets := by
  induction attempted with
  | last => exact List.chain'_singleton _
  | @retry _ _ offset next _ _ step _ ih =>
    refine List.chain'_cons.mpr ⟨?_, ih⟩
    split at step <;> omega

end Runs

section Sends

variable (t : Transport) (signers : List PrivateKey) (builder : Builder)
  (invoiceList : Option InvoiceList) (s : Int)

/-- Every run of the loop is the run `Attempted` describes from the service's answers,
and it sends one submission per attempt, at the attempt's offset. -/
theorem nonceLoop_attempted : ∀ refreshes offset log, ∃ offsets : List Nat,
    offsets.head? = some offset ∧ Attempted t signers builder invoiceList s refreshes log offsets ∧
      finalState (nonceLoop t signers builder invoiceList s refreshes offset log) =
        log ++ submissions signers builder invoiceList s offsets := by
  intro refreshes
  induction refreshes with
  | zero =>
    intro offset log
    exact ⟨[offset], rfl, .last (.inl rfl), by simp [nonceLoop, submissions]⟩
  | succ refreshes ih =>
    intro offset log
    rw [nonceLoop_succ]
    by_cases retried :
        retriesOn (t.submitResult log (builder.envelope (s + offset) signers) invoiceList)
    · obtain ⟨_ | ⟨next, offsets⟩, first, attempted, run⟩ := ih
        (offset + if isBadNonce (t.submitResult log (builder.envelope (s + offset) signers)
          invoiceList) then 1 else 0)
        (log ++ [.submitTransaction (builder.envelope (s + offset) signers) invoiceList])
      · cases first
      obtain rfl := Option.some.inj first
      refine ⟨offset :: _ :: offsets, rfl, .retry retried rfl attempted, ?_⟩
      rw [if_pos retried, run]
      simp [submissions]
    · refine ⟨[offset], rfl, .last (.inr (by simpa using retried)), ?_⟩
      rw [if_neg retried, finalState_resultOf]
      simp [submissions]

end Sends

/-- What one coordinator call sends after the log `before`.  With no signer it sends
nothing.  It sends the fetch of `signers[0]`'s account alone when the fetch fails.
Otherwise it sends that fetch and then at most `max_nonce_refreshes + 1` submissions of
the builder's envelope, at offsets from the fetched sequence number that start at 1 and
never go back or skip. -/
def CallRequests (c : Client) (t : Transport) (signers : List PrivateKey) (builder : Builder)
    (invoiceList : Option InvoiceList) (before requests : List Request) : Prop :=
  match signers with
  | [] => requests = []
  | signer :: _ =>
    match t.accountInfo before signer.publicKey with
    | .error _ => requests = [.getAccountInfo signer.publicKey]
    | .ok info =>
      ∃ offsets : List Nat, offsets.head? = some 1 ∧
        offsets.length ≤ c.retryConfig.maxNonceRefreshes + 1 ∧ Ascending offsets ∧
        requests = .getAccountInfo signer.publicKey ::
          submissions signers builder invoiceList info.sequenceNumber offsets

/-- A call sends at most `max_nonce_refreshes + 2` requests: the fetch and at most
`max_nonce_refreshes + 1` submissions. -/
theorem callRequests_length_le {c : Client} {t : Transport} {signers : List PrivateKey}
    {builder : Builder} {invoiceList : Option InvoiceList} {before requests : List Request}
    (called : CallRequests c t signers builder invoiceList before requests) :
    requests.length ≤ c.retryConfig.maxNonceRefreshes + 2 := by
  rcases signers with _ | ⟨signer, others⟩
  · simp only [CallRequests] at called
    simp [called]
  · simp only [CallRequests] at called
    cases fetched : t.accountInfo before signer.publicKey with
    | error e =>
      simp only [fetched] at called
      simp [called]
    | ok info =>
      simp only [fetched] at called
      obtain ⟨offsets, -, short, -, rfl⟩ := called
      simp only [List.length_cons, length_submissions]
      omega

/-- For every service and every call, `_sign_and_submit_builder` sends exactly the
requests `CallRequests` allows, whether it returns or raises. -/
theorem signAndSubmitBuilder_requests (c : Client) (t : Transport) (signers : List PrivateKey)
    (builder : Builder) (invoiceList : Option InvoiceList) (log : List Request) :
    ∃ requests, CallRequests c t signers builder invoiceList log requests ∧
      finalState (c.signAndSubmitBuilder t signers builder invoiceList log) = log ++ requests := by
  rw [signAndSubmitBuilder_eq]
  rcases signers with _ | ⟨signer, others⟩
  · exact ⟨[], rfl, by simp⟩
  · cases fetched : t.accountInfo log signer.publicKey with
    | error e =>
      exact ⟨[.getAccountInfo signer.publicKey], by simp [CallRequests, fetched], by simp [fetched]⟩
    | ok info =>
      obtain ⟨offsets, first, attempted, run⟩ :=
        nonceLoop_attempted t (signer :: others) builder invoiceList info.sequenceNumber
          c.retryConfig.maxNonceRefreshes 1 (log ++ [.getAccountInfo signer.publicKey])
      refine ⟨_, ?_, by simpa [fetched] using run⟩
      simp only [CallRequests, fetched]
      exact ⟨offsets, first, attempted_length_le attempted, attempted_ascending attempted, rfl⟩

/-- For every service and every call whose fetch succeeds, `_sign_and_submit_builder`
sends the fetch and then one submission per attempt of the run `Attempted` describes
from the service's answers.  The first attempt is at offset 1.  After an answer the nonce
strategies retry on, the next attempt is one offset further on when the answer reported
a bad nonce, and at the same offset, so with the same envelope, when the service raised
`BadNonceError`.  The run ends at the first answer they do not retry on, or once
`max_nonce_refreshes` retries are used up. -/
theorem signAndSubmitBuilder_offsets_follow_answers (c : Client) (t : Transport)
    {signer : PrivateKey} {others : List PrivateKey} (builder : Builder)
    (invoiceList : Option InvoiceList) (log : List Request) {info : AccountInfo}
    (fetched : t.accountInfo log signer.publicKey = .ok info) :
    ∃ offsets : List Nat, offsets.head? = some 1 ∧
      Attempted t (signer :: others) builder invoiceList info.sequenceNumber
        c.retryConfig.maxNonceRefreshes (log ++ [.getAccountInfo signer.publicKey]) offsets ∧
      finalState (c.signAndSubmitBuilder t (signer :: others) builder invoiceList log) =
        log ++ .getAccountInfo signer.publicKey ::
          submissions (signer :: others) builder invoiceList info.sequenceNumber offsets := by
  rw [signAndSubmitBuilder_fetched c t (show (signer :: others).head? = some signer from rfl) fetched]
  obtain ⟨offsets, first, attempted, run⟩ := nonceLoop_attempted t (signer :: others) builder
    invoiceList info.sequenceNumber c.retryConfig.maxNonceRefreshes 1
    (log ++ [.getAccountInfo signer.publicKey])
  exact ⟨offsets, first, attempted, by simpa using run⟩

/-- A service at sequence number 7 that raises a `BadNonceError` at the first
submission, and then accepts. -/
def raisingTransport : Transport where
  accountInfo _ _ := .ok ⟨7⟩
  submitResult history _ _ :=
    if history.length < 2 then .error (.error (.ofKind .badNonce)) else .ok ⟨[1], [], none⟩

theorem signAndSubmitBuilder_offsets_follow_answers_sample :
    raisingTransport.accountInfo [] sampleSender.publicKey = .ok ⟨7⟩ ∧
      ∃ offsets : List Nat, offsets.head? = some 1 ∧
        Attempted raisingTransport [sampleSender] sampleBuilder none (⟨7⟩ : AccountInfo).sequenceNumber
          sampleClient.retryConfig.maxNonceRefreshes ([] ++ [.getAccountInfo sampleSender.publicKey])
          offsets ∧
        finalState (sampleClient.signAndSubmitBuilder raisingTransport [sampleSender] sampleBuilder
            none []) =
          [] ++ .getAccountInfo sampleSender.publicKey ::
            submissions [sampleSender] sampleBuilder none (⟨7⟩ : AccountInfo).sequenceNumber offsets :=
  ⟨rfl, signAndSubmitBuilder_offsets_follow_answers sampleClient raisingTransport sampleBuilder
    none [] rfl⟩

/- The raised `BadNonceError` sends the envelope at offset 1 twice. -/
example : finalState (sampleClient.signAndSubmitBuilder raisingTransport [sampleSender]
    sampleBuilder none []) =
      .getAccountInfo sampleSender.publicKey :: submissions [sampleSender] sampleBuilder none 7 [1, 1] :=
  rfl

/-! ## What one call returns -/

section Returns

variable (t : Transport) (signers : List PrivateKey) (builder : Builder)
  (invoiceList : Option InvoiceList) (s : Int)

/-- Whatever the loop returns is the service's answer to the loop's last request, a
submission of the builder's envelope, and reports no bad nonce. -/
theorem nonceLoop_returns : ∀ refreshes offset log {result : SubmitTransactionResult} {after},
    nonceLoop t signers builder invoiceList s refreshes offset log = .ok result after →
    ∃ (history : List Request) (n : Int),
      after = history ++ [.submitTransaction (builder.envelope n signers) invoiceList] ∧
      t.submitResult history (builder.envelope n signers) invoiceList = .ok result ∧
      result.badNonceError = none := by
  intro refreshes
  induction refreshes with
  | zero =>
    intro offset log result after returned
    cases answered : t.submitResult log (builder.envelope (s + offset) signers) invoiceList with
    | error e => simp [nonceLoop, answered, attemptOutcome, resultOf] at returned
    | ok answer =>
      cases bad : answer.badNonceError with
      | some e => simp [nonceLoop, answered, attemptOutcome, resultOf, bad] at returned
      | none =>
        simp only [nonceLoop, answered, attemptOutcome, bad, resultOf,
          EStateM.Result.ok.injEq] at returned
        obtain ⟨rfl, rfl⟩ := returned
        exact ⟨log, _, rfl, answered, bad⟩
  | succ refreshes ih =>
    intro offset log result after returned
    rw [nonceLoop_succ] at returned
    by_cases retried :
        retriesOn (t.submitResult log (builder.envelope (s + offset) signers) invoiceList)
    · rw [if_pos retried] at returned
      exact ih _ _ returned
    · rw [if_neg retried] at returned
      cases answered : t.submitResult log (builder.envelope (s + offset) signers) invoiceList with
      | error e => simp [answered, resultOf] at returned
      | ok answer =>
        simp only [answered, resultOf, EStateM.Result.ok.injEq] at returned
        obtain ⟨rfl, rfl⟩ := returned
        exact ⟨log, _, rfl, answered, by simpa [retriesOn, answered] using retried⟩

/-- Whatever `_sign_and_submit_builder` returns is the service's answer to the call's last
request, a submission of the builder's envelope, and never a result reporting a bad
nonce. -/
theorem signAndSubmitBuilder_returns (c : Client) (log : List Request)
    {result : SubmitTransactionResult} {after : List Request}
    (returned : c.signAndSubmitBuilder t signers builder invoiceList log = .ok result after) :
    ∃ (history : List Request) (n : Int),
      after = history ++ [.submitTransaction (builder.envelope n signers) invoiceList] ∧
      t.submitResult history (builder.envelope n signers) invoiceList = .ok result ∧
      result.badNonceError = none := by
  rw [signAndSubmitBuilder_eq] at returned
  rcases signers with _ | ⟨signer, others⟩
  · cases returned
  · cases fetched : t.accountInfo log signer.publicKey with
    | error e => simp [fetched] at returned
    | ok info =>
      simp only [fetched] at returned
      exact nonceLoop_returns t _ builder invoiceList _ _ _ _ returned

end Returns

end AgoraClient

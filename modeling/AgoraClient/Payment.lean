import AgoraClient.EarnBatch

namespace AgoraClient

/-!
# How `submit_payment` reports the coordinator's result

The source checks the result field by field: a `tx_error` first, and within it the
operation errors before the transaction-level error; the invoice errors only when the
`tx_error` raised nothing.  `paymentOutcome` states the same classification by the
shape of the error lists, in the order §7 describes them, and `paymentResult_eq` shows
the source's checks compute it.

A `tx_error` that carries neither operation errors nor a transaction-level error raises
nothing, so `submit_payment` then goes on to the invoice errors and, when there are
none, returns the hash.  `submit_earn_batch` judges the same result by the `tx_error`
itself and counts its sub-batch failed.
-/

/-- The operation errors and the transaction-level error a result reports. -/
def reportedErrors (result : SubmitTransactionResult) : List Error × Option Error :=
  match result.txError with
  | some txError => (txError.opErrors, txError.txError)
  | none => ([], none)

/-- The error raised for the reason of a single invoice error. -/
def invoiceReasonError : InvoiceErrorReason → Error
  | .alreadyPaid => .ofKind .alreadyPaid
  | .wrongDestination => .ofKind .wrongDestination
  | .skuNotFound => .ofKind .skuNotFound
  | .unknown => ⟨.error, "unknown invoice error: " ++ InvoiceErrorReason.unknown.text⟩

/-- The outcome of `submit_payment` for a coordinator result, case by case: one
operation error is raised, several are an internal fault, a transaction-level error is
raised when there are no operation errors, and only a result reporting neither is
judged by its invoice errors. -/
def paymentOutcome (result : SubmitTransactionResult) : Except Exception Bytes :=
  match reportedErrors result, result.invoiceErrors with
  | ([e], _), _ => .error (.error e)
  | (opErrors@(_ :: _ :: _), _), _ =>
    .error (.error ⟨.error, "invalid number of operation errors, expected 0 or 1, got " ++
      toString opErrors.length⟩)
  | ([], some e), _ => .error (.error e)
  | ([], none), [] => .ok result.txHash
  | ([], none), [invoiceError] => .error (.error (invoiceReasonError invoiceError.reason))
  | ([], none), invoiceErrors@(_ :: _ :: _) =>
    .error (.error ⟨.error, "invalid number of invoice errors, expected 0 or 1, got " ++
      toString invoiceErrors.length⟩)

theorem paymentOutcome_eq_ok_iff (result : SubmitTransactionResult) (hash : Bytes) :
    paymentOutcome result = .ok hash ↔
      reportedErrors result = ([], none) ∧ result.invoiceErrors = [] ∧ hash = result.txHash := by
  rcases reportedErrors_eq : reportedErrors result with ⟨_ | ⟨e, _ | ⟨e', opErrors⟩⟩, _ | e⟩ <;>
    rcases invoiceErrors_eq : result.invoiceErrors with _ | ⟨i, _ | ⟨i', invoiceErrors⟩⟩ <;>
    simp [paymentOutcome, reportedErrors_eq, invoiceErrors_eq, eq_comm]

/-- The source's field-by-field checks compute the classification by shape. -/
theorem paymentResult_eq (result : SubmitTransactionResult) :
    paymentResult result = paymentOutcome result := by
  rcases result with ⟨hash, invoiceErrors, _ | ⟨_ | e, _ | ⟨op, _ | ⟨op', opErrors⟩⟩⟩⟩
  -- a reported operation or transaction-level error decides the outcome alone
  all_goals try (simp [paymentResult, paymentOutcome, reportedErrors, pyIndex]; done)
  all_goals
    rcases invoiceErrors with _ | ⟨⟨_ | _ | _ | _⟩, _ | ⟨i', invoiceErrors⟩⟩ <;>
      simp [paymentResult, paymentOutcome, reportedErrors, pyIndex, invoiceReasonError]

variable {σ : Type}

/-- For a payment past its own checks, `submit_payment` hands the coordinator the
payment's signers, builder and invoice list, propagates what it raises, and reports
what it returns by `paymentOutcome`. -/
theorem submitPayment_eq (c : Client) (coordinator : Coordinator σ) (payment : Payment) (s : σ)
    (allowed : ¬(payment.invoice.isSome ∧ c.appIndex ≤ 0)) :
    c.submitPayment coordinator payment s =
      match coordinator (signersFor c.whitelistKey payment.channel payment.sender)
          (c.paymentTransaction payment).1 (c.paymentTransaction payment).2 s with
      | .ok result s' => resultOf (paymentOutcome result) s'
      | .error e s' => .error e s' := by
  simp only [Client.submitPayment, c.kinVersion_supported, not_true_eq_false, if_false, allowed,
    estate_bind_apply, estate_pure_apply]
  cases coordinator (signersFor c.whitelistKey payment.channel payment.sender)
    (c.paymentTransaction payment).1 (c.paymentTransaction payment).2 s with
  | ok result s' =>
    show (liftExcept (paymentResult result) : EStateM Exception σ Bytes) s' =
      resultOf (paymentOutcome result) s'
    rw [paymentResult_eq]
    cases paymentOutcome result <;> rfl
  | error e s' => rfl

def samplePayment : Payment :=
  ⟨sampleSender, ⟨"GDESTINATION"⟩, .p2p, 5, none, none, none⟩

/-- A result whose `tx_error` carries neither kind of error. -/
def emptyTxErrorResult : SubmitTransactionResult :=
  ⟨[3], [], some ⟨none, []⟩⟩

/-- A service at sequence number 7 that answers every submission with
`emptyTxErrorResult`. -/
def emptyTxErrorTransport : Transport where
  accountInfo _ _ := .ok ⟨7⟩
  submitResult _ _ _ := .ok emptyTxErrorResult

/-- At one and the same answer of the service, a result whose `tx_error` is set but
carries neither operation errors nor a transaction-level error, the two submissions
disagree: `submit_payment` returns the result's hash as a success, while
`submit_earn_batch` (client.py:335-339) counts the earn failed, with that hash and no
error. -/
theorem submitPayment_returns_on_empty_txError :
    emptyTxErrorResult.txError.isSome ∧
      (∃ log, sampleClient.signAndSubmitBuilder emptyTxErrorTransport
          (signersFor none none sampleSender) (sampleClient.paymentTransaction samplePayment).1
          none [] = .ok emptyTxErrorResult log ∧
        sampleClient.submitPayment (sampleClient.signAndSubmitBuilder emptyTxErrorTransport)
          samplePayment [] = .ok emptyTxErrorResult.txHash log) ∧
      ∃ log, sampleClient.submitEarnBatch (sampleClient.signAndSubmitBuilder emptyTxErrorTransport)
          sampleSender [sampleEarn] none none [] =
        .ok ⟨[], [⟨sampleEarn, some emptyTxErrorResult.txHash, none⟩]⟩ log :=
  ⟨rfl, ⟨_, rfl, rfl⟩, _, rfl⟩

/-! ## Against the service

With the client's own coordinator, `submit_payment` is the nonce loop followed by the
classification: the first answer that is not a bad nonce is reported by
`paymentOutcome`, and an error the service raises, or the last bad nonce, propagates. -/

/-- For every service that reports bad nonces only in its results and every payment past
`submit_payment`'s check: the source account is fetched once, attempt `k + 1` carries the
payment's transaction at sequence number `s + (k + 1)`, and the payment's outcome is the
classification of the first answer that is not a bad nonce, after at most
`max_nonce_refreshes + 1` attempts. -/
theorem submitPayment_over_service (c : Client) (t : Transport) (payment : Payment)
    (log : List Request) (s : Int) (allowed : ¬(payment.invoice.isSome ∧ c.appIndex ≤ 0))
    (fetched : t.accountInfo log (payment.channel.getD payment.sender).publicKey = .ok ⟨s⟩)
    (noRaisedBadNonce : ∀ history envelope e,
      t.submitResult history envelope (c.paymentTransaction payment).2 = .error (.error e) →
        e.kind ≠ .badNonce) :
    let signers := signersFor c.whitelistKey payment.channel payment.sender
    let builder := (c.paymentTransaction payment).1
    let invoiceList := (c.paymentTransaction payment).2
    let start := log ++ [.getAccountInfo (payment.channel.getD payment.sender).publicKey]
    ∃ n ≤ c.retryConfig.maxNonceRefreshes,
      (∀ k < n, isBadNonce (attemptResponse t signers builder invoiceList s start k)) ∧
      (isBadNonce (attemptResponse t signers builder invoiceList s start n) →
        n = c.retryConfig.maxNonceRefreshes) ∧
      c.submitPayment (c.signAndSubmitBuilder t) payment log =
        resultOf (attemptOutcome (attemptResponse t signers builder invoiceList s start n) >>=
            paymentOutcome)
          (start ++ attemptRequests signers builder invoiceList s (n + 1)) := by
  intro signers builder invoiceList start
  obtain ⟨n, high, earlier, lastBad, coordinated⟩ := signAndSubmitBuilder_unraised c t signers
    builder invoiceList log (signersFor_head _ _ _) fetched noRaisedBadNonce
  refine ⟨n, high, earlier, lastBad, ?_⟩
  rw [submitPayment_eq c _ payment log allowed, coordinated]
  cases attemptOutcome (attemptResponse t signers builder invoiceList s start n) <;> rfl

theorem submitPayment_over_service_sample :
    ¬(samplePayment.invoice.isSome ∧ sampleClient.appIndex ≤ 0) ∧
      sampleTransport.accountInfo [] (samplePayment.channel.getD samplePayment.sender).publicKey =
        .ok ⟨7⟩ ∧
      (∀ history envelope e, sampleTransport.submitResult history envelope
        (sampleClient.paymentTransaction samplePayment).2 = .error (.error e) →
          e.kind ≠ .badNonce) ∧
      let signers := signersFor sampleClient.whitelistKey samplePayment.channel samplePayment.sender
      let builder := (sampleClient.paymentTransaction samplePayment).1
      let invoiceList := (sampleClient.paymentTransaction samplePayment).2
      let start := [Request.getAccountInfo (samplePayment.channel.getD samplePayment.sender).publicKey]
      ∃ n ≤ sampleClient.retryConfig.maxNonceRefreshes,
        (∀ k < n, isBadNonce (attemptResponse sampleTransport signers builder invoiceList 7 start k)) ∧
        (isBadNonce (attemptResponse sampleTransport signers builder invoiceList 7 start n) →
          n = sampleClient.retryConfig.maxNonceRefreshes) ∧
        sampleClient.submitPayment (sampleClient.signAndSubmitBuilder sampleTransport)
            samplePayment [] =
          resultOf (attemptOutcome (attemptResponse sampleTransport signers builder invoiceList 7
              start n) >>= paymentOutcome)
            (start ++ attemptRequests signers builder invoiceList 7 (n + 1)) := by
  have neverRaised : ∀ history envelope e, sampleTransport.submitResult history envelope
      (sampleClient.paymentTransaction samplePayment).2 = .error (.error e) →
        e.kind ≠ .badNonce := by
    intro history envelope e raised
    simp only [sampleTransport] at raised
    split at raised <;> cases raised
  exact ⟨by decide, rfl, neverRaised,
    submitPayment_over_service sampleClient sampleTransport samplePayment [] 7 (by decide) rfl
      neverRaised⟩

end AgoraClient

import AgoraClient.Client

namespace AgoraClient

/-!
# Submitting a payment and a batch of earns

`submit_payment` and `_submit_earn_batch_tx` build one transaction each and hand it to
the coordinator.  Each is split here into the checks made before the coordinator is
called, the builder and invoice list it is given, and the checks made on its result;
the pieces are written in the source's order, with the source's messages.

`submit_earn_batch` submits the 100-earn sub-batches in order and stops at the first
that fails.  Its `for` loop becomes `submitEarnBatchLoop`, whose accumulator is the
`succeeded` list; the `failed` list is set at most once, when the loop breaks.  The
earns of the sub-batches never reached are then recovered from the slice
`earns[len(succeeded) + len(failed):]`, exactly as the source does.

Every method takes the coordinator as an argument: the client's own is
`Client.signAndSubmitBuilder`, and the theorems about the loop also run it against
a coordinator that answers from a script.
-/

variable {σ : Type}

/-! ## `submit_payment` -/

/-- The builder and invoice list `submit_payment` hands the coordinator. -/
def Client.paymentTransaction (c : Client) (payment : Payment) : Builder × Option InvoiceList :=
  let builder := getStellarBuilder (payment.channel.getD payment.sender)
  let (builder, invoiceList) :=
    match givenText payment.memo with
    | some text => (builder.addTextMemo text, none)
    | none =>
      if c.appIndex > 0 then
        match payment.invoice with
        | some invoice =>
          let invoiceList := InvoiceList.mk [invoice]
          (builder.addHashMemo ⟨1, payment.txType, c.appIndex, invoiceList.getSha224Hash⟩,
            some invoiceList)
        | none => (builder.addHashMemo ⟨1, payment.txType, c.appIndex, .empty⟩, none)
      else (builder, none)
  (builder.appendPaymentOp (c.paymentOp payment.destination payment.quarks payment.sender),
    invoiceList)

/-- The checks `submit_payment` makes on the coordinator's result, in the source's
order. -/
def paymentResult (result : SubmitTransactionResult) : Except Exception Bytes := do
  if let some txError := result.txError then
    if txError.opErrors.length > 0 then
      if txError.opErrors.length ≠ 1 then
        throw (.error ⟨.error, "invalid number of operation errors, expected 0 or 1, got " ++
          toString txError.opErrors.length⟩)
      throw (.error (← pyIndex txError.opErrors 0))
    if let some e := txError.txError then
      throw (.error e)
  if result.invoiceErrors.length > 0 then
    if result.invoiceErrors.length ≠ 1 then
      throw (.error ⟨.error, "invalid number of invoice errors, expected 0 or 1, got " ++
        toString result.invoiceErrors.length⟩)
    let invoiceError ← pyIndex result.invoiceErrors 0
    if invoiceError.reason = .alreadyPaid then
      throw (.error (.ofKind .alreadyPaid))
    if invoiceError.reason = .wrongDestination then
      throw (.error (.ofKind .wrongDestination))
    if invoiceError.reason = .skuNotFound then
      throw (.error (.ofKind .skuNotFound))
    throw (.error ⟨.error, "unknown invoice error: " ++ invoiceError.reason.text⟩)
  pure result.txHash

/-- `submit_payment(payment)`. -/
def Client.submitPayment (c : Client) (coordinator : Coordinator σ) (payment : Payment) :
    EStateM Exception σ Bytes := do
  if c.kinVersion ∉ supportedVersions then
    throw (.error (.ofKind .unsupportedVersion))
  if payment.invoice.isSome ∧ c.appIndex ≤ 0 then
    throw (.valueError "cannot submit a payment with an invoice without an app index")
  let (builder, invoiceList) := c.paymentTransaction payment
  let result ← coordinator (signersFor c.whitelistKey payment.channel payment.sender) builder
    invoiceList
  liftExcept (paymentResult result)

/-! ## `_submit_earn_batch_tx` -/

/-- `fk = invoice_list.get_sha_224_hash() if invoice_list else b''`. -/
def foreignKeyOf : Option InvoiceList → ForeignKey
  | some invoiceList => invoiceList.getSha224Hash
  | none => .empty

/-- The builder and invoice list `_submit_earn_batch_tx` hands the coordinator. -/
def Client.earnBatchTransaction (c : Client) (sender : PrivateKey) (earns : List Earn)
    (channel : Option PrivateKey) (memo : Option String) : Builder × Option InvoiceList :=
  let builder := getStellarBuilder (channel.getD sender)
  let invoices := earns.filterMap (·.invoice)
  let invoiceList := if invoices = [] then none else some (InvoiceList.mk invoices)
  let builder :=
    match givenText memo with
    | some text => builder.addTextMemo text
    | none =>
      if c.appIndex > 0 then builder.addHashMemo ⟨1, .earn, c.appIndex, foreignKeyOf invoiceList⟩
      else builder
  (earns.foldl (fun builder earn =>
      builder.appendPaymentOp (c.paymentOp earn.destination earn.quarks sender)) builder,
    invoiceList)

/-- `Error('unexpected invoice errors present')`. -/
def unexpectedInvoiceErrors : Error :=
  ⟨.error, "unexpected invoice errors present"⟩

/-- `_submit_earn_batch_tx(sender, earns, channel, memo)`. -/
def Client.submitEarnBatchTx (c : Client) (coordinator : Coordinator σ) (sender : PrivateKey)
    (earns : List Earn) (channel : Option PrivateKey) (memo : Option String) :
    EStateM Exception σ SubmitTransactionResult := do
  if earns.length > 100 then
    throw (.valueError "cannot send more than 100 earns")
  let (builder, invoiceList) := c.earnBatchTransaction sender earns channel memo
  let result ← coordinator (signersFor c.whitelistKey channel sender) builder invoiceList
  if result.invoiceErrors ≠ [] then
    throw (.error unexpectedInvoiceErrors)
  pure result

/-! ## `submit_earn_batch` -/

/-- The checks `submit_earn_batch` makes before any submission. -/
def Client.checkEarns (c : Client) (earns : List Earn) (memo : Option String) :
    Except Exception Unit := do
  if c.kinVersion ∉ supportedVersions then
    throw (.error (.ofKind .unsupportedVersion))
  let invoices := earns.filterMap (·.invoice)
  if invoices ≠ [] then
    if c.appIndex ≤ 0 then
      throw (.valueError "cannot submit a payment with an invoice without an app index")
    if invoices.length ≠ earns.length then
      throw (.valueError "Either all or none of the earns must contain invoices")
    if (givenText memo).isSome then
      throw (.valueError "Cannot use both text memo and invoices")

/-- `try: ... except Error as e:`.  An agora error becomes a value; any other exception
propagates. -/
def tryError (x : EStateM Exception σ α) : EStateM Exception σ (Except Error α) :=
  fun s =>
    match x s with
    | .ok a s' => .ok (.ok a) s'
    | .error (.error e) s' => .ok (.error e) s'
    | .error e s' => .error e s'

/-- The entries of a sub-batch whose transaction failed: the operation errors by
position when there are any, else the transaction-level error for every earn. -/
def failedEarns (batch : List Earn) (txHash : Bytes) (err : TransactionErrors) :
    Except Exception (List EarnResult) :=
  if err.opErrors ≠ [] then
    batch.enum.mapM fun (idx, earn) => do
      let e ← pyIndex err.opErrors idx
      pure { earn, txHash := some txHash, error := some e }
  else pure (batch.map fun earn => { earn, txHash := some txHash, error := err.txError })

/-- The `for earn_batch in partition(earns, 100)` loop over the sub-batches not yet
submitted, with the entries succeeded so far.  It returns `succeeded` and `failed`. -/
def submitEarnBatchLoop (submitTx : List Earn → EStateM Exception σ SubmitTransactionResult) :
    List (List Earn) → List EarnResult →
      EStateM Exception σ (List EarnResult × List EarnResult)
  | [], succeeded => pure (succeeded, [])
  | batch :: batches, succeeded => do
    match ← tryError (submitTx batch) with
    | .error e => pure (succeeded, batch.map fun earn => { earn, error := some e })
    | .ok result =>
      match result.txError with
      | none =>
        submitEarnBatchLoop submitTx batches
          (succeeded ++ batch.map fun earn => { earn, txHash := some result.txHash })
      | some err => do
        let failed ← liftExcept (failedEarns batch result.txHash err)
        pure (succeeded, failed)

/-- `submit_earn_batch(sender, earns, channel, memo)`. -/
def Client.submitEarnBatch (c : Client) (coordinator : Coordinator σ) (sender : PrivateKey)
    (earns : List Earn) (channel : Option PrivateKey) (memo : Option String) :
    EStateM Exception σ BatchEarnResult := do
  liftExcept (c.checkEarns earns memo)
  let (succeeded, failed) ← submitEarnBatchLoop
    (c.submitEarnBatchTx coordinator sender · channel memo) (partition earns 100) []
  let failed := failed ++ (earns.drop (succeeded.length + failed.length)).map fun earn => { earn }
  pure { succeeded, failed }

/-! ## Refusals before anything is sent

Each submission checks its arguments before it calls the coordinator, so a refused
call raises with the coordinator's state untouched: no request is sent. -/

section Refusals

variable (c : Client) (coordinator : Coordinator σ) (s : σ)

theorem submitPayment_refused (payment : Payment)
    (refused : payment.invoice.isSome ∧ c.appIndex ≤ 0) :
    c.submitPayment coordinator payment s =
      .error (.valueError "cannot submit a payment with an invoice without an app index") s := by
  simp [Client.submitPayment, c.kinVersion_supported, refused]

theorem submitEarnBatchTx_refused (sender : PrivateKey) (earns : List Earn)
    (channel : Option PrivateKey) (memo : Option String) (long : earns.length > 100) :
    c.submitEarnBatchTx coordinator sender earns channel memo s =
      .error (.valueError "cannot send more than 100 earns") s := by
  simp [Client.submitEarnBatchTx, long]

theorem submitEarnBatch_refused (sender : PrivateKey) (earns : List Earn)
    (channel : Option PrivateKey) (memo : Option String) {e : Exception}
    (refused : c.checkEarns earns memo = .error e) :
    c.submitEarnBatch coordinator sender earns channel memo s = .error e s := by
  simp [Client.submitEarnBatch, refused]

end Refusals

end AgoraClient

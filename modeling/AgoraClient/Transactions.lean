import AgoraClient.Requests

namespace AgoraClient

/-!
# The calls the client hands the coordinator

`_submit_earn_batch_tx` appends one payment operation per earn, in order, and gathers the
invoices of the earns that carry one.  The two lists correspond position by position only
when every earn of the sub-batch carries an invoice or none does.  `submit_earn_batch`
checks that of the whole list before cutting it, and the check carries over to every
sub-batch of the partition because each is a slice of the list.  The same check rules
out a text memo beside invoices, so a text memo never travels with an invoice list.

`submit_payment` sends a one-invoice list exactly when the payment carries an invoice,
provided it does not also carry a text memo, which would take the invoice's place.

What each submission hands its coordinator is read off the scripted coordinator's record
of the calls it received.  The record of `submit_earn_batch` comes from the segment lemma
of the request log (`submitEarnBatch_segments`), instantiated with that record: one call
per sub-batch reached, in the order of the partition.
-/

/-- Appending one payment operation per earn leaves the source, fee and memo alone. -/
theorem foldl_appendPaymentOp (op : Earn → PaymentOp) :
    ∀ (earns : List Earn) (builder : Builder),
      earns.foldl (fun builder earn => builder.appendPaymentOp (op earn)) builder =
        { builder with operations := builder.operations ++ earns.map op }
  | [], builder => by simp
  | earn :: earns, builder => by
    rw [List.foldl_cons, foldl_appendPaymentOp op earns]
    simp [Builder.appendPaymentOp]

/-- When every element has an image, the images of `filterMap` are those of `map`. -/
theorem map_some_filterMap {f : α → Option β} :
    ∀ {values : List α}, (∀ value ∈ values, (f value).isSome) →
      (values.filterMap f).map some = values.map f
  | [], _ => rfl
  | value :: values, all => by
    obtain ⟨image, found⟩ := Option.isSome_iff_exists.mp (all value (List.mem_cons_self _ _))
    simp only [List.filterMap_cons, found, List.map_cons,
      map_some_filterMap fun other member => all other (List.mem_cons_of_mem _ member)]

section Validation

variable (c : Client) {earns : List Earn} {memo : Option String}

/-- `submit_earn_batch`'s validation passes exactly when no earn carries an invoice, or
every earn does, the app index is positive and no text memo is given. -/
theorem checkEarns_eq_ok_iff :
    c.checkEarns earns memo = .ok () ↔
      (∀ earn ∈ earns, earn.invoice = none) ∨
        (0 < c.appIndex ∧ (∀ earn ∈ earns, earn.invoice.isSome) ∧ givenText memo = none) := by
  have every : (earns.filterMap (·.invoice)).length = earns.length ↔
      ∀ earn ∈ earns, earn.invoice.isSome := by
    rw [List.length_filterMap_eq_countP, List.countP_eq_length]
  by_cases uninvoiced : earns.filterMap (·.invoice) = []
  · rw [iff_true_intro (Or.inl (List.filterMap_eq_nil_iff.mp uninvoiced)), iff_true]
    simp [Client.checkEarns, c.kinVersion_supported, uninvoiced]
  · have someInvoice : ¬∀ earn ∈ earns, earn.invoice = none := fun none =>
      uninvoiced (List.filterMap_eq_nil_iff.mpr none)
    by_cases positive : 0 < c.appIndex
    · have indexed : ¬c.appIndex ≤ 0 := by omega
      by_cases mixed : (earns.filterMap (·.invoice)).length = earns.length
      · cases texted : givenText memo <;>
          simp [Client.checkEarns, c.kinVersion_supported, uninvoiced, someInvoice, indexed,
            positive, mixed, texted]
        exact every.mp mixed
      · simp [Client.checkEarns, c.kinVersion_supported, uninvoiced, someInvoice, indexed, mixed,
          ← every]
    · have unindexed : c.appIndex ≤ 0 := by omega
      simp [Client.checkEarns, c.kinVersion_supported, uninvoiced, someInvoice, unindexed,
        positive]

end Validation

section Shapes

variable (c : Client) (sender : PrivateKey) (channel : Option PrivateKey)

/-- The memo `_submit_earn_batch_tx` and `submit_payment` set: the text memo when one is
given, else the Agora memo when the app index is positive, else none. -/
def expectedMemo (appIndex : Int) (memo : Option String) (txType : TransactionType)
    (foreignKey : ForeignKey) : Memo :=
  match givenText memo with
  | some text => .text text
  | none => if appIndex > 0 then .hash ⟨1, txType, appIndex, foreignKey⟩ else .none

/-- The call for one sub-batch: its signers, its source, one operation per earn in order,
the memo, and an invoice list that is absent exactly when no earn carries an invoice. -/
theorem earnBatchCall_shape (batch : List Earn) (memo : Option String) :
    let call := c.earnBatchCall sender channel memo batch
    call.signers = signersFor c.whitelistKey channel sender ∧
      call.builder.source = channel.getD sender ∧
      call.builder.operations =
        batch.map (fun earn => c.paymentOp earn.destination earn.quarks sender) ∧
      call.builder.memo = expectedMemo c.appIndex memo .earn (foreignKeyOf call.invoiceList) ∧
      (call.invoiceList = none ↔ ∀ earn ∈ batch, earn.invoice = none) ∧
      ∀ list ∈ call.invoiceList, list.invoices = batch.filterMap (·.invoice) := by
  simp only [Client.earnBatchCall, Client.earnBatchTransaction, foldl_appendPaymentOp]
  by_cases uninvoiced : batch.filterMap (·.invoice) = []
  · have noInvoice := List.filterMap_eq_nil_iff.mp uninvoiced
    cases text : givenText memo <;> by_cases indexed : c.appIndex > 0 <;>
      simp [uninvoiced, text, indexed, expectedMemo, getStellarBuilder, Builder.addTextMemo,
        Builder.addHashMemo]
    all_goals exact noInvoice
  · have someInvoice : ¬∀ earn ∈ batch, earn.invoice = none := fun all =>
      uninvoiced (List.filterMap_eq_nil_iff.mpr all)
    cases text : givenText memo <;> by_cases indexed : c.appIndex > 0 <;>
      simp [uninvoiced, someInvoice, text, indexed, expectedMemo, getStellarBuilder,
        Builder.addTextMemo, Builder.addHashMemo]

/-- Under `submit_earn_batch`'s validation, the call for every sub-batch of the partition
lists the sub-batch's invoices position by position, and none beside a text memo. -/
theorem earnBatchCall_invoices {earns : List Earn} {memo : Option String}
    (valid : c.checkEarns earns memo = .ok ()) {batch : List Earn}
    (member : batch ∈ partition earns 100) :
    let call := c.earnBatchCall sender channel memo batch
    (∀ list ∈ call.invoiceList, list.invoices.map some = batch.map (·.invoice)) ∧
      ((givenText memo).isSome → call.invoiceList = none) := by
  obtain ⟨-, -, -, -, absent, listed⟩ := earnBatchCall_shape c sender channel batch memo
  have inEarns : ∀ earn ∈ batch, earn ∈ earns := fun _ => mem_of_mem_partition member
  rcases (checkEarns_eq_ok_iff c).mp valid with uninvoiced | ⟨-, all, untexted⟩
  · have none := absent.mpr fun earn inBatch => uninvoiced earn (inEarns earn inBatch)
    exact ⟨fun list present => by simp [none] at present, fun _ => none⟩
  · refine ⟨fun list present => ?_, fun texted => by simp [untexted] at texted⟩
    rw [listed list present]
    exact map_some_filterMap fun earn inBatch => all earn (inEarns earn inBatch)

/-- The call `submit_payment` makes for a payment. -/
def Client.paymentCall (payment : Payment) : CoordinatorCall :=
  ⟨signersFor c.whitelistKey payment.channel payment.sender, (c.paymentTransaction payment).1,
    (c.paymentTransaction payment).2⟩

/-- The call for one payment: its signers, its source, its one operation, the memo, and a
one-invoice list exactly when the payment carries an invoice and no text memo. -/
theorem paymentCall_shape (payment : Payment)
    (allowed : ¬(payment.invoice.isSome ∧ c.appIndex ≤ 0))
    (exclusive : ¬(payment.invoice.isSome ∧ (givenText payment.memo).isSome)) :
    let call := c.paymentCall payment
    call.signers = signersFor c.whitelistKey payment.channel payment.sender ∧
      call.builder.source = payment.channel.getD payment.sender ∧
      call.builder.operations = [c.paymentOp payment.destination payment.quarks payment.sender] ∧
      call.builder.memo =
        expectedMemo c.appIndex payment.memo payment.txType (foreignKeyOf call.invoiceList) ∧
      call.invoiceList = payment.invoice.map fun invoice => ⟨[invoice]⟩ := by
  simp only [Client.paymentCall, Client.paymentTransaction, true_and]
  cases invoice : payment.invoice with
  | none =>
    cases text : givenText payment.memo <;> by_cases indexed : c.appIndex > 0 <;>
      simp [text, indexed, expectedMemo, getStellarBuilder, Builder.addTextMemo,
        Builder.addHashMemo, Builder.appendPaymentOp, foreignKeyOf]
  | some invoice' =>
    have indexed : c.appIndex > 0 := by
      simp only [invoice, Option.isSome_some, true_and] at allowed
      omega
    have untexted : givenText payment.memo = none := by
      simpa [invoice] using exclusive
    simp [untexted, indexed, expectedMemo, getStellarBuilder, Builder.addHashMemo,
      Builder.appendPaymentOp, foreignKeyOf, InvoiceList.getSha224Hash]

end Shapes

/-! ## What the scripted coordinator records -/

/-- Segments of one entry each, the entry a function of the sub-batch, are that function
mapped over the sub-batches reached. -/
theorem flatten_of_segments_singleton {β : Type} {f : List Earn → β} :
    ∀ batches (before : List β) segments,
      Segments (fun batch _ segment => segment = [f batch]) batches before segments →
        segments.flatten = (batches.take segments.length).map f
  | _, _, [], _ => rfl
  | batch :: batches, before, segment :: segments, ⟨single, later⟩ => by
    rw [List.flatten_cons, single, flatten_of_segments_singleton batches _ segments later]
    rfl
  | [], _, _ :: _, never => never.elim

/-- Whatever the scripted coordinator answers, `submit_earn_batch` hands it one call per
sub-batch it reaches, in the order of the partition, and nothing else. -/
theorem submitEarnBatch_scripted_calls (c : Client) (sender : PrivateKey) (earns : List Earn)
    (channel : Option PrivateKey) (memo : Option String) (outcomes : List Outcome) :
    ∃ k, (finalState (c.submitEarnBatch scripted sender earns channel memo (outcomes, []))).2 =
      ((partition earns 100).take k).map (c.earnBatchCall sender channel memo) := by
  obtain ⟨segments, single, recorded⟩ := @submitEarnBatch_segments _ _ Prod.snd c scripted sender
    earns channel memo (outcomes, [])
    (fun batch _ segment => segment = [c.earnBatchCall sender channel memo batch])
    fun _ _ s => ⟨_, rfl, scripted_records _ _ _ s⟩
  exact ⟨segments.length, by
    rw [recorded, flatten_of_segments_singleton _ _ _ single, List.nil_append]⟩

/-- Whatever the scripted coordinator answers, `submit_payment` hands it the payment's one
call when its check passes. -/
theorem submitPayment_scripted_calls (c : Client) (payment : Payment)
    (allowed : ¬(payment.invoice.isSome ∧ c.appIndex ≤ 0)) (outcomes : List Outcome) :
    (finalState (c.submitPayment scripted payment (outcomes, []))).2 = [c.paymentCall payment] := by
  rw [submitPayment_eq c scripted payment _ allowed]
  have recorded := scripted_records (signersFor c.whitelistKey payment.channel payment.sender)
    (c.paymentTransaction payment).1 (c.paymentTransaction payment).2 (outcomes, [])
  revert recorded
  cases scripted (signersFor c.whitelistKey payment.channel payment.sender)
    (c.paymentTransaction payment).1 (c.paymentTransaction payment).2 (outcomes, []) <;>
    simpa using id

/-- A client with app index 5, allowing two nonce refreshes. -/
def indexedClient : Client :=
  ⟨5, none, RetryConfig.new none (some 2), 3, none, by decide⟩

/-- An earn that carries an invoice. -/
def invoicedEarn : Earn :=
  ⟨⟨"GDESTINATION"⟩, 10, some ⟨["lesson"]⟩⟩

/-- Two invoiced earns go out as one call whose invoice list holds both invoices in order,
and whose earn memo carries that list's hash. -/
example :
    (finalState (indexedClient.submitEarnBatch scripted sampleSender [invoicedEarn, invoicedEarn]
      none none ([.ok ⟨[1], [], none⟩], []))).2.map (fun call => (call.builder.memo, call.invoiceList)) =
      [(.hash ⟨1, .earn, 5, .sha224 ⟨[⟨["lesson"]⟩, ⟨["lesson"]⟩]⟩⟩,
        some ⟨[⟨["lesson"]⟩, ⟨["lesson"]⟩]⟩)] := by
  rfl

end AgoraClient

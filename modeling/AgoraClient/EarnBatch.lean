import Mathlib.Data.List.Forall2
import AgoraClient.Submit
import AgoraClient.NonceRefresh

namespace AgoraClient

/-!
# The batch-earn loop

`submit_earn_batch` cuts the earns into sub-batches of at most 100, submits them in
order through `_submit_earn_batch_tx`, and stops at the first sub-batch that raises an
agora error or comes back with a `tx_error`.  The earns of the sub-batches before it
succeed with their own transaction's hash; the earns of that sub-batch fail with the
error that stopped it; every later earn fails with neither a hash nor an error.

The loop never inspects a sub-batch's transaction beyond the coordinator's outcome, so
the theorems run it against `scripted`, a coordinator that answers its calls with a
list of outcomes and records each call.  Every sequence of coordinator outcomes is such
a list, and the recorded calls show which sub-batches were submitted.

The proof follows the loop.  A sub-batch that is accepted moves the loop on
(`submitEarnBatchLoop_accepted`), and a run of them is `submitEarnBatchLoop_accepted_run`;
a sub-batch that ends the loop does so in one step (`submitEarnBatchLoop_ends`).  The
hard part is the slice `earns[len(succeeded) + len(failed):]` after the loop, which
must be exactly the earns of the later sub-batches: `length_succeededEntries` and
`length_failedEntries` count the entries the loop made against the sub-batches it
submitted.  Independently of any script, `submitEarnBatch_covers_earns` shows that a
run that returns reports every earn once, in order, whatever the coordinator does.
-/

/-- What a coordinator call can end with. -/
abbrev Outcome := Except Exception SubmitTransactionResult

/-- A call the coordinator received. -/
structure CoordinatorCall where
  signers : List PrivateKey
  builder : Builder
  invoiceList : Option InvoiceList
  deriving DecidableEq, Repr

/-- A coordinator that answers each call with the next scripted outcome and records the
call, as a mock whose `side_effect` is a list does; with no outcome left it raises
`StopIteration`. -/
def scripted : Coordinator (List Outcome × List CoordinatorCall) :=
  fun signers builder invoiceList (outcomes, calls) =>
    let calls := calls ++ [⟨signers, builder, invoiceList⟩]
    match outcomes with
    | outcome :: outcomes => resultOf outcome (outcomes, calls)
    | [] => .error (.other "StopIteration") ([], calls)

/-- Whatever it answers, the scripted coordinator adds the call it received to its record. -/
@[simp] theorem scripted_records (signers : List PrivateKey) (builder : Builder)
    (invoiceList : Option InvoiceList) (s : List Outcome × List CoordinatorCall) :
    (finalState (scripted signers builder invoiceList s)).2 =
      s.2 ++ [⟨signers, builder, invoiceList⟩] := by
  rcases s with ⟨_ | ⟨outcome, outcomes⟩, calls⟩ <;> simp [scripted]

/-- The call `_submit_earn_batch_tx` makes for one sub-batch. -/
def Client.earnBatchCall (c : Client) (sender : PrivateKey) (channel : Option PrivateKey)
    (memo : Option String) (batch : List Earn) : CoordinatorCall :=
  ⟨signersFor c.whitelistKey channel sender, (c.earnBatchTransaction sender batch channel memo).1,
    (c.earnBatchTransaction sender batch channel memo).2⟩

/-- The outcome `_submit_earn_batch_tx` passes on for the coordinator's outcome: a result
with invoice errors becomes the generic `unexpectedInvoiceErrors`. -/
def checkedOutcome : Outcome → Outcome
  | .ok result =>
    if result.invoiceErrors = [] then .ok result else .error (.error unexpectedInvoiceErrors)
  | .error e => .error e

/-- A sub-batch of at most 100 earns makes one call and passes on its checked outcome. -/
theorem submitEarnBatchTx_scripted (c : Client) (sender : PrivateKey) (batch : List Earn)
    (channel : Option PrivateKey) (memo : Option String) (outcome : Outcome)
    (outcomes : List Outcome) (calls : List CoordinatorCall) (short : batch.length ≤ 100) :
    c.submitEarnBatchTx scripted sender batch channel memo (outcome :: outcomes, calls) =
      resultOf (checkedOutcome outcome)
        (outcomes, calls ++ [c.earnBatchCall sender channel memo batch]) := by
  have fits : ¬batch.length > 100 := by omega
  rcases outcome with e | result
  · simp [Client.submitEarnBatchTx, fits, scripted, resultOf, checkedOutcome,
      Client.earnBatchCall]
  · by_cases clean : result.invoiceErrors = [] <;>
      simp [Client.submitEarnBatchTx, fits, scripted, resultOf, checkedOutcome, clean,
        Client.earnBatchCall]

/-! ## The entries the loop records -/

/-- The entries of the earns of a sub-batch accepted with `result`. -/
def acceptedEntries (batch : List Earn) (result : SubmitTransactionResult) : List EarnResult :=
  batch.map fun earn => { earn, txHash := some result.txHash }

/-- The entries of sub-batches accepted one after another, each with its own result. -/
def succeededEntries (batches : List (List Earn)) (results : List SubmitTransactionResult) :
    List EarnResult :=
  (List.zipWith acceptedEntries batches results).flatten

/-- The entries of the earns of the sub-batch that ended the loop with `outcome`: a raised
error on every earn, with no hash; else, with the transaction's hash, the operation
errors by position when there are any, and the transaction-level error on every earn
when there are none. -/
def failedEntries (batch : List Earn) : Outcome → List EarnResult
  | .ok result =>
    match result.txError with
    | some err =>
      if err.opErrors = [] then
        batch.map fun earn => { earn, txHash := some result.txHash, error := err.txError }
      else
        List.zipWith (fun earn e => { earn, txHash := some result.txHash, error := some e })
          batch err.opErrors
    | none => []
  | .error (.error e) => batch.map fun earn => { earn, error := some e }
  | .error _ => []

/-- Whether an outcome ends the loop: a raised error, or a result with a `tx_error`. -/
def endsBatch : Outcome → Bool
  | .ok result => result.txError.isSome
  | .error _ => true

/-- The outcomes of a sub-batch that a well-behaved service gives: a raised agora
error, or a result with no invoice errors whose operation errors, when there are any,
are one per earn. -/
def SubBatchOutcome (batch : List Earn) : Outcome → Prop
  | .ok result =>
    result.invoiceErrors = [] ∧
      ∀ err ∈ result.txError, err.opErrors = [] ∨ err.opErrors.length = batch.length
  | .error (.error _) => True
  | .error _ => False

instance (batch : List Earn) : DecidablePred (SubBatchOutcome batch)
  | .ok result =>
    inferInstanceAs (Decidable (result.invoiceErrors = [] ∧
      ∀ err ∈ result.txError, err.opErrors = [] ∨ err.opErrors.length = batch.length))
  | .error (.error _) => inferInstanceAs (Decidable True)
  | .error (.valueError _) | .error (.indexError _) | .error (.other _) =>
    inferInstanceAs (Decidable False)

/-- The checked outcomes the loop records without raising: a raised agora error, or a
result whose operation errors, when there are any, are at least one per earn. -/
def RecordedOutcome (batch : List Earn) : Outcome → Prop
  | .ok result => ∀ err ∈ result.txError, err.opErrors = [] ∨ batch.length ≤ err.opErrors.length
  | .error (.error _) => True
  | .error _ => False

/-- An outcome of a well-behaved service passes the invoice check unchanged. -/
theorem checkedOutcome_of_shaped {batch : List Earn} {outcome : Outcome}
    (shaped : SubBatchOutcome batch outcome) : checkedOutcome outcome = outcome := by
  rcases outcome with e | result
  · rfl
  · simp [checkedOutcome, shaped.1]

theorem recorded_of_shaped {batch : List Earn} {outcome : Outcome}
    (shaped : SubBatchOutcome batch outcome) : RecordedOutcome batch (checkedOutcome outcome) := by
  rw [checkedOutcome_of_shaped shaped]
  match outcome, shaped with
  | .ok _, ⟨_, fits⟩ => exact fun err member => (fits err member).imp_right Eq.ge
  | .error (.error _), _ => trivial
  | .error (.valueError _), impossible | .error (.indexError _), impossible
  | .error (.other _), impossible => exact impossible.elim

/-- A recorded outcome that ends the loop is a raised agora error, or a result with a
`tx_error` whose operation errors, when there are any, cover the sub-batch. -/
theorem recorded_ends_cases {batch : List Earn} {outcome : Outcome}
    (recorded : RecordedOutcome batch outcome) (ends : endsBatch outcome) :
    (∃ e, outcome = .error (.error e)) ∨
      ∃ result err, outcome = .ok result ∧ result.txError = some err ∧
        (err.opErrors = [] ∨ batch.length ≤ err.opErrors.length) := by
  match outcome, recorded with
  | .error (.error e), _ => exact .inl ⟨e, rfl⟩
  | .ok result, fits =>
    obtain ⟨err, rejected⟩ := Option.isSome_iff_exists.mp (by simpa [endsBatch] using ends)
    exact .inr ⟨result, err, rfl, rejected, fits err (by simp [rejected])⟩
  | .error (.valueError _), impossible | .error (.indexError _), impossible
  | .error (.other _), impossible => exact impossible.elim

/-! ## Pairing operation errors with earns -/

section Pairing

variable (errors : List Error) (txHash : Bytes)

/-- The positional comprehension over `enumerate(earn_batch)` reads one operation error
per earn; with at least as many errors as earns it pairs them in order. -/
theorem mapM_enumFrom_pyIndex :
    ∀ (batch : List Earn) (n : Nat), n + batch.length ≤ errors.length →
      (batch.enumFrom n).mapM (fun (idx, earn) => do
          let e ← pyIndex errors idx
          pure ({ earn, txHash := some txHash, error := some e } : EarnResult)) =
        .ok (List.zipWith (fun earn e => { earn, txHash := some txHash, error := some e })
          batch (errors.drop n))
  | [], _, _ => rfl
  | earn :: batch, n, fits => by
    have inRange : n < errors.length := by simp at fits; omega
    rw [List.drop_eq_getElem_cons inRange, List.enumFrom_cons, List.mapM_cons,
      mapM_enumFrom_pyIndex batch (n + 1) (by simp at fits; omega)]
    simp only [pyIndex, List.get?_eq_getElem?, List.getElem?_eq_getElem inRange, except_ok_bind,
      except_pure, List.zipWith_cons_cons]

/-- With fewer errors than earns the comprehension raises `IndexError`. -/
theorem mapM_enumFrom_pyIndex_short :
    ∀ (batch : List Earn) (n : Nat), n ≤ errors.length → errors.length < n + batch.length →
      (batch.enumFrom n).mapM (fun (idx, earn) => do
          let e ← pyIndex errors idx
          pure ({ earn, txHash := some txHash, error := some e } : EarnResult)) =
        .error (.indexError "list index out of range")
  | [], _, _, short => by simp at short; omega
  | earn :: batch, n, reached, short => by
    rw [List.enumFrom_cons, List.mapM_cons]
    by_cases inRange : n < errors.length
    · rw [mapM_enumFrom_pyIndex_short batch (n + 1) inRange (by simp at short; omega)]
      simp only [pyIndex, List.get?_eq_getElem?, List.getElem?_eq_getElem inRange,
        except_ok_bind, except_pure, except_error_bind]
    · simp [pyIndex, List.getElem?_eq_none (Nat.le_of_not_lt inRange)]

end Pairing

theorem failedEarns_eq {batch : List Earn} {result : SubmitTransactionResult}
    {err : TransactionErrors} (rejected : result.txError = some err)
    (fits : err.opErrors = [] ∨ batch.length ≤ err.opErrors.length) :
    failedEarns batch result.txHash err = .ok (failedEntries batch (.ok result)) := by
  by_cases noOps : err.opErrors = []
  · simp [failedEarns, failedEntries, rejected, noOps]
  · have long : 0 + batch.length ≤ err.opErrors.length := by
      rcases fits with none | long
      · exact absurd none noOps
      · omega
    simp only [failedEarns, failedEntries, rejected, noOps, if_false, ne_eq, not_false_eq_true,
      if_true, List.enum, mapM_enumFrom_pyIndex err.opErrors result.txHash batch 0 long,
      List.drop_zero]

theorem failedEarns_short {batch : List Earn} {txHash : Bytes} {err : TransactionErrors}
    (present : err.opErrors ≠ []) (short : err.opErrors.length < batch.length) :
    failedEarns batch txHash err = .error (.indexError "list index out of range") := by
  simp only [failedEarns, present, ne_eq, not_false_eq_true, if_true, List.enum,
    mapM_enumFrom_pyIndex_short err.opErrors txHash batch 0 (Nat.zero_le _) (by omega)]

/-! ## Every earn is reported once, in order

Whatever the coordinator does, a run of `submit_earn_batch` that returns lists every
earn exactly once, in input order, across `succeeded` and then `failed`.  In particular
no earn is reported as succeeded after an earlier one failed. -/

theorem map_earn_zipWith (txHash : Bytes) :
    ∀ (batch : List Earn) (errors : List Error), batch.length ≤ errors.length →
      (List.zipWith (fun earn e => ({ earn, txHash := some txHash, error := some e } : EarnResult))
        batch errors).map (·.earn) = batch
  | [], _, _ => rfl
  | earn :: batch, _ :: errors, fits => by
    simp [map_earn_zipWith txHash batch errors (by simpa using fits)]
  | _ :: _, [], fits => by simp at fits

/-- The entries of a failed sub-batch are one per earn, in order. -/
theorem failedEarns_earns {batch : List Earn} {txHash : Bytes} {err : TransactionErrors}
    {entries : List EarnResult} (built : failedEarns batch txHash err = .ok entries) :
    entries.map (·.earn) = batch := by
  by_cases noOps : err.opErrors = []
  · simp only [failedEarns, noOps, ne_eq, not_true_eq_false, if_false, except_pure,
      Except.ok.injEq] at built
    simp [← built, Function.comp_def]
  · by_cases enough : batch.length ≤ err.opErrors.length
    · simp only [failedEarns, noOps, ne_eq, not_false_eq_true, if_true, List.enum,
        mapM_enumFrom_pyIndex err.opErrors txHash batch 0 (by omega), List.drop_zero,
        Except.ok.injEq] at built
      rw [← built, map_earn_zipWith txHash batch err.opErrors enough]
    · rw [failedEarns_short noOps (by omega)] at built
      cases built

section Coverage

variable {σ : Type} {submitTx : List Earn → EStateM Exception σ SubmitTransactionResult}

/-- The loop's entries, succeeded then failed, are the earns of the sub-batches it
reached, in order; the earns it never reached follow them. -/
theorem submitEarnBatchLoop_covers :
    ∀ (batches : List (List Earn)) (succeeded : List EarnResult) {s s' : σ}
      {done failed : List EarnResult},
      submitEarnBatchLoop submitTx batches succeeded s = .ok (done, failed) s' →
        ∃ later, (done ++ failed).map (·.earn) ++ later =
          succeeded.map (·.earn) ++ batches.flatten
  | [], succeeded, s, s', done, failed, ran => by
    simp only [submitEarnBatchLoop, estate_pure_apply, EStateM.Result.ok.injEq,
      Prod.mk.injEq] at ran
    obtain ⟨⟨rfl, rfl⟩, -⟩ := ran
    exact ⟨[], by simp⟩
  | batch :: batches, succeeded, s, s', done, failed, ran => by
    simp only [submitEarnBatchLoop, estate_bind_apply, tryError] at ran
    cases submitted : submitTx batch s with
    | ok result s₁ =>
      cases accepted : result.txError with
      | none =>
        simp only [submitted, accepted] at ran
        obtain ⟨later, covered⟩ := submitEarnBatchLoop_covers batches _ ran
        exact ⟨later, by simpa [Function.comp_def] using covered⟩
      | some err =>
        cases built : failedEarns batch result.txHash err with
        | error e =>
          simp only [submitted, accepted, built, estate_bind_apply, liftExcept_error_apply] at ran
          cases ran
        | ok entries =>
          simp only [submitted, accepted, built, estate_bind_apply, liftExcept_ok_apply,
            estate_pure_apply,
            EStateM.Result.ok.injEq, Prod.mk.injEq] at ran
          obtain ⟨⟨rfl, rfl⟩, -⟩ := ran
          exact ⟨batches.flatten, by simp [failedEarns_earns built]⟩
    | error e s₁ =>
      cases e with
      | error e =>
        simp only [submitted, estate_pure_apply, EStateM.Result.ok.injEq, Prod.mk.injEq] at ran
        obtain ⟨⟨rfl, rfl⟩, -⟩ := ran
        exact ⟨batches.flatten, by simp [Function.comp_def]⟩
      | valueError _ | indexError _ | other _ =>
        simp only [submitted] at ran
        cases ran

/-- For every coordinator, whenever `submit_earn_batch` returns, `succeeded` followed by
`failed` lists every earn exactly once, in input order. -/
theorem submitEarnBatch_covers_earns (c : Client) (coordinator : Coordinator σ)
    (sender : PrivateKey) (earns : List Earn) (channel : Option PrivateKey)
    (memo : Option String) {s s' : σ} {result : BatchEarnResult}
    (returned : c.submitEarnBatch coordinator sender earns channel memo s = .ok result s') :
    (result.succeeded ++ result.failed).map (·.earn) = earns := by
  simp only [Client.submitEarnBatch, estate_bind_apply] at returned
  cases checked : c.checkEarns earns memo with
  | error e =>
    simp only [checked, liftExcept_error_apply] at returned
    cases returned
  | ok u =>
    simp only [checked, liftExcept_ok_apply] at returned
    cases ran : submitEarnBatchLoop (c.submitEarnBatchTx coordinator sender · channel memo)
        (partition earns 100) [] s with
    | error e s₁ =>
      simp only [ran] at returned
      cases returned
    | ok pair s₁ =>
      obtain ⟨done, failed⟩ := pair
      simp only [ran, estate_pure_apply, EStateM.Result.ok.injEq] at returned
      obtain ⟨rfl, -⟩ := returned
      obtain ⟨later, covered⟩ := submitEarnBatchLoop_covers _ _ ran
      rw [flatten_partition earns (by decide), List.map_nil, List.nil_append] at covered
      have unreached : earns.drop (done.length + failed.length) = later := by
        rw [← covered, ← List.length_append, ← List.length_map _ (·.earn), List.drop_left]
      rw [unreached]
      simpa [Function.comp_def] using covered

/-- An earn of the sample runs. -/
def sampleEarn : Earn :=
  ⟨⟨"GDESTINATION"⟩, 10, none⟩

/-- A rejection of a two-earn sub-batch with one operation error per earn. -/
def twoOpErrorsResult : SubmitTransactionResult :=
  ⟨[4], [], some ⟨none, [.ofKind .insufficientBalance, .ofKind .destinationDoesNotExist]⟩⟩

theorem submitEarnBatch_covers_earns_sample :
    let result : BatchEarnResult :=
      ⟨[], [⟨sampleEarn, some [4], some (.ofKind .insufficientBalance)⟩,
        ⟨sampleEarn, some [4], some (.ofKind .destinationDoesNotExist)⟩]⟩
    sampleClient.submitEarnBatch scripted sampleSender [sampleEarn, sampleEarn] none none
        ([.ok twoOpErrorsResult], []) =
      .ok result ([], [sampleClient.earnBatchCall sampleSender none none [sampleEarn, sampleEarn]]) ∧
    (result.succeeded ++ result.failed).map (·.earn) = [sampleEarn, sampleEarn] :=
  ⟨rfl, @submitEarnBatch_covers_earns _ sampleClient scripted sampleSender
    [sampleEarn, sampleEarn] none none ([.ok twoOpErrorsResult], [])
    ([], [sampleClient.earnBatchCall sampleSender none none [sampleEarn, sampleEarn]]) _ rfl⟩

end Coverage

/-! ## The loop against the scripted coordinator -/

section Scripted

variable (c : Client) (sender : PrivateKey) (channel : Option PrivateKey) (memo : Option String)

/-- An accepted sub-batch: its earns succeed with its hash, its call is recorded, and
the loop goes on. -/
theorem submitEarnBatchLoop_accepted {batch : List Earn} {batches : List (List Earn)}
    {succeeded : List EarnResult} {result : SubmitTransactionResult} {outcomes : List Outcome}
    {calls : List CoordinatorCall} (short : batch.length ≤ 100)
    (accepted : result.txError = none) (clean : result.invoiceErrors = []) :
    submitEarnBatchLoop (c.submitEarnBatchTx scripted sender · channel memo) (batch :: batches)
        succeeded (.ok result :: outcomes, calls) =
      submitEarnBatchLoop (c.submitEarnBatchTx scripted sender · channel memo) batches
        (succeeded ++ acceptedEntries batch result)
        (outcomes, calls ++ [c.earnBatchCall sender channel memo batch]) := by
  have submitted :=
    submitEarnBatchTx_scripted c sender batch channel memo (.ok result) outcomes calls short
  simp only [checkedOutcome, clean, if_true, resultOf] at submitted
  simp only [submitEarnBatchLoop, estate_bind_apply, tryError, submitted, accepted,
    acceptedEntries]

/-- A sub-batch whose checked outcome ends the loop and is recorded: its earns fail as
`failedEntries` says, its call is recorded, and the loop stops. -/
theorem submitEarnBatchLoop_ends {batch : List Earn} {batches : List (List Earn)}
    {succeeded : List EarnResult} {outcome : Outcome} {outcomes : List Outcome}
    {calls : List CoordinatorCall} (short : batch.length ≤ 100)
    (recorded : RecordedOutcome batch (checkedOutcome outcome))
    (ends : endsBatch (checkedOutcome outcome)) :
    submitEarnBatchLoop (c.submitEarnBatchTx scripted sender · channel memo) (batch :: batches)
        succeeded (outcome :: outcomes, calls) =
      .ok (succeeded, failedEntries batch (checkedOutcome outcome))
        (outcomes, calls ++ [c.earnBatchCall sender channel memo batch]) := by
  have submitted :=
    submitEarnBatchTx_scripted c sender batch channel memo outcome outcomes calls short
  generalize checkedOutcome outcome = checked at submitted recorded ends
  rcases recorded_ends_cases recorded ends with ⟨e, rfl⟩ | ⟨result, err, rfl, rejected, fits⟩
  · simp only [submitEarnBatchLoop, estate_bind_apply, tryError, submitted, resultOf,
      estate_pure_apply, failedEntries]
  · simp only [submitEarnBatchLoop, estate_bind_apply, tryError, submitted, resultOf, rejected,
      failedEarns_eq rejected fits, liftExcept_ok_apply, estate_pure_apply]

/-- A sub-batch rejected with fewer operation errors than earns: the comprehension's
`IndexError` leaves the loop. -/
theorem submitEarnBatchLoop_short_opErrors {batch : List Earn} {batches : List (List Earn)}
    {succeeded : List EarnResult} {result : SubmitTransactionResult} {err : TransactionErrors}
    {outcomes : List Outcome} {calls : List CoordinatorCall} (short : batch.length ≤ 100)
    (clean : result.invoiceErrors = []) (rejected : result.txError = some err)
    (present : err.opErrors ≠ []) (missing : err.opErrors.length < batch.length) :
    submitEarnBatchLoop (c.submitEarnBatchTx scripted sender · channel memo) (batch :: batches)
        succeeded (.ok result :: outcomes, calls) =
      .error (.indexError "list index out of range")
        (outcomes, calls ++ [c.earnBatchCall sender channel memo batch]) := by
  have submitted :=
    submitEarnBatchTx_scripted c sender batch channel memo (.ok result) outcomes calls short
  simp only [checkedOutcome, clean, if_true, resultOf] at submitted
  simp only [submitEarnBatchLoop, estate_bind_apply, tryError, submitted, rejected,
    failedEarns_short present missing, liftExcept_error_apply]

/-- A run of accepted sub-batches, one per result: their earns succeed with their own
hashes and their calls are recorded, in order. -/
theorem submitEarnBatchLoop_accepted_run :
    ∀ (results : List SubmitTransactionResult) (batches : List (List Earn))
      (succeeded : List EarnResult) (rest : List Outcome) (calls : List CoordinatorCall),
      (∀ result ∈ results, result.txError = none ∧ result.invoiceErrors = []) →
      results.length ≤ batches.length → (∀ batch ∈ batches, batch.length ≤ 100) →
      submitEarnBatchLoop (c.submitEarnBatchTx scripted sender · channel memo) batches succeeded
          (results.map .ok ++ rest, calls) =
        submitEarnBatchLoop (c.submitEarnBatchTx scripted sender · channel memo)
          (batches.drop results.length)
          (succeeded ++ succeededEntries (batches.take results.length) results)
          (rest, calls ++ (batches.take results.length).map (c.earnBatchCall sender channel memo))
  | [], batches, succeeded, rest, calls, _, _, _ => by simp [succeededEntries]
  | result :: results, batch :: batches, succeeded, rest, calls, clean, fits, short => by
    obtain ⟨accepted, noInvoiceErrors⟩ := clean result (List.mem_cons_self _ _)
    rw [List.map_cons, List.cons_append,
      submitEarnBatchLoop_accepted c sender channel memo (short batch (List.mem_cons_self _ _))
        accepted noInvoiceErrors,
      submitEarnBatchLoop_accepted_run results batches _ rest _
        (fun result member => clean result (List.mem_cons_of_mem _ member))
        (by simpa using fits) (fun batch member => short batch (List.mem_cons_of_mem _ member))]
    simp [succeededEntries, List.append_assoc]
  | _ :: _, [], _, _, _, _, fits, _ => by simp at fits

end Scripted

/-! ## Counting the entries -/

theorem length_succeededEntries :
    ∀ (batches : List (List Earn)) (results : List SubmitTransactionResult),
      batches.length = results.length →
        (succeededEntries batches results).length = batches.flatten.length
  | [], [], _ => rfl
  | batch :: batches, result :: results, aligned => by
    simp only [succeededEntries, List.zipWith_cons_cons, List.flatten_cons, List.length_append]
    rw [← succeededEntries, length_succeededEntries batches results (by simpa using aligned)]
    simp [acceptedEntries]
  | [], _ :: _, aligned | _ :: _, [], aligned => by simp at aligned

theorem length_failedEntries {batch : List Earn} {outcome : Outcome}
    (recorded : RecordedOutcome batch outcome) (ends : endsBatch outcome) :
    (failedEntries batch outcome).length = batch.length := by
  rcases recorded_ends_cases recorded ends with ⟨e, rfl⟩ | ⟨result, err, rfl, rejected, fits⟩
  · simp [failedEntries]
  · by_cases noOps : err.opErrors = []
    · simp [failedEntries, rejected, noOps]
    · simp [failedEntries, rejected, noOps, fits.resolve_left noOps]

/-! ## Where the loop stops -/

/-- An outcome whose checked form goes on to the next sub-batch is an accepted result. -/
theorem checkedOutcome_goes_on {outcome : Outcome}
    (goesOn : endsBatch (checkedOutcome outcome) = false) :
    ∃ result, outcome = .ok result ∧ result.txError = none ∧ result.invoiceErrors = [] := by
  rcases outcome with e | result
  · simp [checkedOutcome, endsBatch] at goesOn
  · by_cases clean : result.invoiceErrors = []
    · simp_all [checkedOutcome, endsBatch]
    · simp [checkedOutcome, endsBatch, clean] at goesOn

/-- Every list of outcomes splits at the first whose checked form ends the loop. -/
theorem outcomes_split : ∀ outcomes : List Outcome,
    ∃ (results : List SubmitTransactionResult) (rest : List Outcome),
      outcomes = results.map .ok ++ rest ∧
      (∀ result ∈ results, result.txError = none ∧ result.invoiceErrors = []) ∧
      ∀ outcome ∈ rest.head?, endsBatch (checkedOutcome outcome)
  | [] => ⟨[], [], rfl, by simp, by simp⟩
  | outcome :: outcomes => by
    cases ends : endsBatch (checkedOutcome outcome)
    · obtain ⟨result, rfl, accepted, clean⟩ := checkedOutcome_goes_on ends
      obtain ⟨results, rest, split, allClean, restEnds⟩ := outcomes_split outcomes
      refine ⟨result :: results, rest, by simp [split], ?_, restEnds⟩
      simpa [accepted, clean] using allClean
    · exact ⟨[], outcome :: outcomes, rfl, by simp, by simpa using ends⟩

/-! ## The whole of `submit_earn_batch` -/

section Run

variable (c : Client) (sender : PrivateKey) (channel : Option PrivateKey) (memo : Option String)

/-- The partition of valid earns into sub-batches of at most 100, split after the
sub-batches `pre`: the loop over them starts as `submitEarnBatchLoop_accepted_run` says. -/
theorem submitEarnBatch_resumes {earns : List Earn} {pre post : List (List Earn)}
    {results : List SubmitTransactionResult} {rest : List Outcome}
    (valid : c.checkEarns earns memo = .ok ()) (split : partition earns 100 = pre ++ post)
    (aligned : pre.length = results.length)
    (clean : ∀ result ∈ results, result.txError = none ∧ result.invoiceErrors = []) :
    c.submitEarnBatch scripted sender earns channel memo (results.map .ok ++ rest, []) =
      (do
        let (succeeded, failed) ← submitEarnBatchLoop
          (c.submitEarnBatchTx scripted sender · channel memo) post (succeededEntries pre results)
        pure ({ succeeded
                failed := failed ++
                  ((pre.flatten ++ post.flatten).drop (succeeded.length + failed.length)).map
                    fun earn => ({ earn } : EarnResult) } : BatchEarnResult))
        (rest, pre.map (c.earnBatchCall sender channel memo)) := by
  have short : ∀ batch ∈ pre ++ post, batch.length ≤ 100 := fun batch member =>
    length_le_of_mem_partition (split ▸ member)
  have flattened : earns = pre.flatten ++ post.flatten := by
    rw [← List.flatten_append, ← split, flatten_partition earns (by decide)]
  have looped := submitEarnBatchLoop_accepted_run c sender channel memo results (pre ++ post) [] rest []
    clean (by simp [aligned]) short
  rw [← aligned, List.drop_left, List.take_left] at looped
  simp only [Client.submitEarnBatch, estate_bind_apply, liftExcept_ok_apply, valid, split, looped,
    List.nil_append, ← flattened]

/-- `submit_earn_batch` when the outcomes begin with one accepted result for each
sub-batch of `pre`, and the first outcome of `rest`, when sub-batches remain, ends the
loop and is recorded.  The earns of `pre` succeed; those of the sub-batch that stopped
it fail as `failedEntries` says; every later earn fails with neither a hash nor an
error. -/
theorem submitEarnBatch_run {earns : List Earn} {pre post : List (List Earn)}
    {results : List SubmitTransactionResult} {rest : List Outcome}
    (valid : c.checkEarns earns memo = .ok ()) (split : partition earns 100 = pre ++ post)
    (aligned : pre.length = results.length)
    (clean : ∀ result ∈ results, result.txError = none ∧ result.invoiceErrors = [])
    (stops : ∀ batch ∈ post.head?, ∃ outcome ∈ rest.head?,
      RecordedOutcome batch (checkedOutcome outcome) ∧ endsBatch (checkedOutcome outcome)) :
    c.submitEarnBatch scripted sender earns channel memo (results.map .ok ++ rest, []) =
      .ok { succeeded := succeededEntries pre results
            failed := (List.zipWith failedEntries post (rest.map checkedOutcome)).head?.getD [] ++
              (post.drop 1).flatten.map fun earn => { earn } }
        (rest.drop (post.take 1).length,
          (pre ++ post.take 1).map (c.earnBatchCall sender channel memo)) := by
  rw [submitEarnBatch_resumes c sender channel memo valid split aligned clean, estate_bind_apply]
  have counted := length_succeededEntries pre results aligned
  cases post with
  | nil =>
    simp only [submitEarnBatchLoop, estate_pure_apply, List.length_nil, Nat.add_zero, counted,
      List.flatten_nil, List.append_nil, List.drop_length]
    simp
  | cons batch later =>
    obtain ⟨outcome, first, recorded, ends⟩ := stops batch rfl
    obtain ⟨later, rfl⟩ : ∃ later, rest = outcome :: later := by
      cases rest <;> simp_all
    have short : batch.length ≤ 100 :=
      length_le_of_mem_partition (split ▸ List.mem_append_right pre (List.mem_cons_self _ _))
    rw [submitEarnBatchLoop_ends c sender channel memo short recorded ends]
    simp only [counted, length_failedEntries recorded ends, List.flatten_cons,
      ← List.length_append, ← List.append_assoc, List.drop_left, estate_pure_apply]
    simp

/-- For every valid list of earns and every outcome per sub-batch that the loop allows,
`submit_earn_batch` returns.  The sub-batches split as `pre ++ post`, where `pre` holds
those whose outcomes are the accepted results at the head of the outcomes and the first
of `post`, if any, is the one whose outcome ended the loop.  The coordinator is called on
the sub-batches of `pre` and on that one, in order; the earns of `pre` succeed with
their own sub-batch's hash; the earns of the sub-batch that ended the loop fail as
`failedEntries` says; and the earns of every later sub-batch fail with neither a hash
nor an error. -/
theorem submitEarnBatch_stops_at_first_failure (earns : List Earn) (outcomes : List Outcome)
    (valid : c.checkEarns earns memo = .ok ())
    (shaped : List.Forall₂ SubBatchOutcome (partition earns 100) outcomes) :
    ∃ (pre post : List (List Earn)) (results : List SubmitTransactionResult) (rest : List Outcome),
      partition earns 100 = pre ++ post ∧ outcomes = results.map .ok ++ rest ∧
      pre.length = results.length ∧ (∀ result ∈ results, result.txError = none) ∧
      (∀ outcome ∈ rest.head?, endsBatch outcome) ∧
      c.submitEarnBatch scripted sender earns channel memo (outcomes, []) =
        .ok { succeeded := succeededEntries pre results
              failed := (List.zipWith failedEntries post rest).head?.getD [] ++
                (post.drop 1).flatten.map fun earn => { earn } }
          (rest.drop 1, (pre ++ post.take 1).map (c.earnBatchCall sender channel memo)) := by
  obtain ⟨results, rest, rfl, clean, ends⟩ := outcomes_split outcomes
  have aligned : ((partition earns 100).take results.length).length = results.length := by
    have counted := shaped.length_eq
    simp only [List.length_append, List.length_map] at counted
    simp only [List.length_take]
    omega
  have run := @submitEarnBatch_run c sender channel memo earns _ _ results rest valid
    (List.take_append_drop results.length _).symm aligned clean
  have tail := List.forall₂_drop_append _ _ _ shaped
  rw [List.length_map] at tail
  refine ⟨_, _, results, rest, (List.take_append_drop results.length _).symm, rfl, aligned,
    fun result member => (clean result member).1, ?_⟩
  generalize (partition earns 100).drop results.length = post at tail run ⊢
  cases tail with
  | nil => simpa using run (by simp)
  | @cons batch outcome _ _ first _ =>
    have unchanged := checkedOutcome_of_shaped first
    have recorded := recorded_of_shaped first
    have stops := ends outcome rfl
    rw [unchanged] at recorded stops
    exact ⟨by simpa using stops, by simpa [unchanged] using run (by simp [recorded, unchanged, stops])⟩

theorem submitEarnBatch_stops_at_first_failure_sample :
    sampleClient.checkEarns [sampleEarn, sampleEarn] none = .ok () ∧
      List.Forall₂ SubBatchOutcome (partition [sampleEarn, sampleEarn] 100) [.ok twoOpErrorsResult] ∧
      ∃ (pre post : List (List Earn)) (results : List SubmitTransactionResult)
        (rest : List Outcome),
        partition [sampleEarn, sampleEarn] 100 = pre ++ post ∧
        [.ok twoOpErrorsResult] = results.map .ok ++ rest ∧
        pre.length = results.length ∧ (∀ result ∈ results, result.txError = none) ∧
        (∀ outcome ∈ rest.head?, endsBatch outcome) ∧
        sampleClient.submitEarnBatch scripted sampleSender [sampleEarn, sampleEarn] none none
            ([.ok twoOpErrorsResult], []) =
          .ok { succeeded := succeededEntries pre results
                failed := (List.zipWith failedEntries post rest).head?.getD [] ++
                  (post.drop 1).flatten.map fun earn => { earn } }
            (rest.drop 1, (pre ++ post.take 1).map (sampleClient.earnBatchCall sampleSender none none)) :=
  ⟨rfl, by decide,
    submitEarnBatch_stops_at_first_failure sampleClient sampleSender none none
      [sampleEarn, sampleEarn] [.ok twoOpErrorsResult] rfl (by decide)⟩

/-! ## Invoice errors on a sub-batch -/

/-- A result carrying an invoice error, which no earn should trigger. -/
def invoiceErrorResult : SubmitTransactionResult :=
  ⟨[5], [⟨.alreadyPaid⟩], none⟩

/-- `_submit_earn_batch_tx` raises `Error('unexpected invoice errors present')` on such a
result, and the loop's `except Error` records it on every earn of the sub-batch: the
batch returns. -/
theorem submitEarnBatch_swallows_invoice_errors :
    sampleClient.submitEarnBatch scripted sampleSender [sampleEarn] none none
        ([.ok invoiceErrorResult], []) =
      .ok ⟨[], [{ earn := sampleEarn, error := some unexpectedInvoiceErrors }]⟩
        ([], [sampleClient.earnBatchCall sampleSender none none [sampleEarn]]) :=
  rfl

/-- For every valid list of earns and every position of a sub-batch whose result carries
invoice errors, the earlier sub-batches being accepted, `submit_earn_batch` returns: every
earn of that sub-batch fails with `unexpectedInvoiceErrors` and no hash, the loop stops,
and every later earn fails with neither a hash nor an error. -/
theorem submitEarnBatch_records_invoice_errors {earns : List Earn} {pre later : List (List Earn)}
    {batch : List Earn} {results : List SubmitTransactionResult} {faulty : SubmitTransactionResult}
    (outcomes : List Outcome) (valid : c.checkEarns earns memo = .ok ())
    (split : partition earns 100 = pre ++ batch :: later) (aligned : pre.length = results.length)
    (clean : ∀ result ∈ results, result.txError = none ∧ result.invoiceErrors = [])
    (faultyInvoices : faulty.invoiceErrors ≠ []) :
    c.submitEarnBatch scripted sender earns channel memo
        (results.map .ok ++ .ok faulty :: outcomes, []) =
      .ok { succeeded := succeededEntries pre results
            failed := batch.map (fun earn => { earn, error := some unexpectedInvoiceErrors }) ++
              later.flatten.map fun earn => { earn } }
        (outcomes, (pre ++ [batch]).map (c.earnBatchCall sender channel memo)) := by
  have raised : checkedOutcome (.ok faulty) = .error (.error unexpectedInvoiceErrors) := by
    simp [checkedOutcome, faultyInvoices]
  simpa [raised, failedEntries] using @submitEarnBatch_run c sender channel memo earns pre
    (batch :: later) results (.ok faulty :: outcomes) valid split aligned clean
    (by simp [raised, RecordedOutcome, endsBatch])

theorem submitEarnBatch_records_invoice_errors_sample :
    sampleClient.checkEarns [sampleEarn] none = .ok () ∧
      partition [sampleEarn] 100 = [] ++ [sampleEarn] :: [] ∧
      ([] : List (List Earn)).length = ([] : List SubmitTransactionResult).length ∧
      (∀ result ∈ ([] : List SubmitTransactionResult),
        result.txError = none ∧ result.invoiceErrors = []) ∧
      invoiceErrorResult.invoiceErrors ≠ [] ∧
      sampleClient.submitEarnBatch scripted sampleSender [sampleEarn] none none
          (([] : List SubmitTransactionResult).map .ok ++ .ok invoiceErrorResult :: [], []) =
        .ok { succeeded := succeededEntries [] []
              failed := [sampleEarn].map (fun earn => { earn, error := some unexpectedInvoiceErrors }) ++
                ([] : List (List Earn)).flatten.map fun earn => { earn } }
          ([], ([] ++ [[sampleEarn]]).map (sampleClient.earnBatchCall sampleSender none none)) :=
  ⟨rfl, rfl, rfl, by simp, by decide,
    submitEarnBatch_records_invoice_errors sampleClient sampleSender none none [] rfl rfl rfl
      (by simp) (by decide)⟩

/-! ## Operation errors that do not match the sub-batch -/

/-- A rejection of a one-earn sub-batch with two operation errors. -/
def surplusOpErrorsResult : SubmitTransactionResult :=
  ⟨[6], [], some ⟨none, [.ofKind .insufficientBalance, .ofKind .destinationDoesNotExist]⟩⟩

/-- The comprehension over `enumerate(earn_batch)` reads only the first operation error:
the second is dropped and the batch returns. -/
theorem submitEarnBatch_drops_surplus_opError :
    sampleClient.submitEarnBatch scripted sampleSender [sampleEarn] none none
        ([.ok surplusOpErrorsResult], []) =
      .ok ⟨[], [{ earn := sampleEarn, txHash := some [6], error := some (.ofKind .insufficientBalance) }]⟩
        ([], [sampleClient.earnBatchCall sampleSender none none [sampleEarn]]) :=
  rfl

/-- For every valid list of earns and every position of a sub-batch rejected with at
least as many operation errors as earns, the earlier sub-batches being accepted,
`submit_earn_batch` returns and pairs the earns with the first operation errors in
order: the errors past the sub-batch's length are dropped. -/
theorem submitEarnBatch_truncates_opErrors {earns : List Earn} {pre later : List (List Earn)}
    {batch : List Earn} {results : List SubmitTransactionResult} {rejected : SubmitTransactionResult}
    {err : TransactionErrors} (outcomes : List Outcome) (valid : c.checkEarns earns memo = .ok ())
    (split : partition earns 100 = pre ++ batch :: later) (aligned : pre.length = results.length)
    (clean : ∀ result ∈ results, result.txError = none ∧ result.invoiceErrors = [])
    (noInvoiceErrors : rejected.invoiceErrors = []) (failing : rejected.txError = some err)
    (present : err.opErrors ≠ []) (enough : batch.length ≤ err.opErrors.length) :
    c.submitEarnBatch scripted sender earns channel memo
        (results.map .ok ++ .ok rejected :: outcomes, []) =
      .ok { succeeded := succeededEntries pre results
            failed := List.zipWith (fun earn e => { earn, txHash := some rejected.txHash, error := some e })
                batch (err.opErrors.take batch.length) ++
              later.flatten.map fun earn => { earn } }
        (outcomes, (pre ++ [batch]).map (c.earnBatchCall sender channel memo)) := by
  have passed : checkedOutcome (.ok rejected) = .ok rejected := by
    simp [checkedOutcome, noInvoiceErrors]
  have recorded : RecordedOutcome batch (.ok rejected) := by
    simp [RecordedOutcome, failing, enough]
  have paired := @submitEarnBatch_run c sender channel memo earns pre (batch :: later) results
    (.ok rejected :: outcomes) valid split aligned clean
    (by simp [passed, recorded, endsBatch, failing])
  have dropped : ∀ pair : Earn → Error → EarnResult,
      List.zipWith pair batch (err.opErrors.take batch.length) =
        List.zipWith pair batch err.opErrors := fun pair => by
    rw [List.zipWith_eq_zipWith_take_min batch err.opErrors, Nat.min_eq_left enough,
      List.take_length]
  simpa [passed, failedEntries, failing, present, dropped] using paired

theorem submitEarnBatch_truncates_opErrors_sample :
    sampleClient.checkEarns [sampleEarn] none = .ok () ∧
      partition [sampleEarn] 100 = [] ++ [sampleEarn] :: [] ∧
      ([] : List (List Earn)).length = ([] : List SubmitTransactionResult).length ∧
      (∀ result ∈ ([] : List SubmitTransactionResult),
        result.txError = none ∧ result.invoiceErrors = []) ∧
      surplusOpErrorsResult.invoiceErrors = [] ∧
      surplusOpErrorsResult.txError =
        some ⟨none, [.ofKind .insufficientBalance, .ofKind .destinationDoesNotExist]⟩ ∧
      [Error.ofKind .insufficientBalance, .ofKind .destinationDoesNotExist] ≠ [] ∧
      [sampleEarn].length ≤ [Error.ofKind .insufficientBalance, .ofKind .destinationDoesNotExist].length ∧
      sampleClient.submitEarnBatch scripted sampleSender [sampleEarn] none none
          (([] : List SubmitTransactionResult).map .ok ++ .ok surplusOpErrorsResult :: [], []) =
        .ok { succeeded := succeededEntries [] []
              failed := List.zipWith
                  (fun earn e => { earn, txHash := some surplusOpErrorsResult.txHash, error := some e })
                  [sampleEarn]
                  ([Error.ofKind .insufficientBalance, .ofKind .destinationDoesNotExist].take 1) ++
                ([] : List (List Earn)).flatten.map fun earn => { earn } }
          ([], ([] ++ [[sampleEarn]]).map (sampleClient.earnBatchCall sampleSender none none)) :=
  ⟨rfl, rfl, rfl, by simp, rfl, rfl, by decide, by decide,
    submitEarnBatch_truncates_opErrors sampleClient sampleSender none none []
      (rfl : sampleClient.checkEarns [sampleEarn] none = _) rfl rfl (by simp) rfl rfl (by decide)
      (by decide)⟩

/-- For every valid list of earns and every position of a sub-batch rejected with some
but fewer operation errors than earns, the earlier sub-batches being accepted,
`submit_earn_batch` raises `IndexError` after that sub-batch's call. -/
theorem submitEarnBatch_raises_on_missing_opErrors {earns : List Earn}
    {pre later : List (List Earn)} {batch : List Earn} {results : List SubmitTransactionResult}
    {rejected : SubmitTransactionResult} {err : TransactionErrors} (outcomes : List Outcome)
    (valid : c.checkEarns earns memo = .ok ()) (split : partition earns 100 = pre ++ batch :: later)
    (aligned : pre.length = results.length)
    (clean : ∀ result ∈ results, result.txError = none ∧ result.invoiceErrors = [])
    (noInvoiceErrors : rejected.invoiceErrors = []) (failing : rejected.txError = some err)
    (present : err.opErrors ≠ []) (missing : err.opErrors.length < batch.length) :
    c.submitEarnBatch scripted sender earns channel memo
        (results.map .ok ++ .ok rejected :: outcomes, []) =
      .error (.indexError "list index out of range")
        (outcomes, (pre ++ [batch]).map (c.earnBatchCall sender channel memo)) := by
  have short : batch.length ≤ 100 :=
    length_le_of_mem_partition (split ▸ List.mem_append_right pre (List.mem_cons_self _ _))
  rw [submitEarnBatch_resumes c sender channel memo valid split aligned clean, estate_bind_apply,
    submitEarnBatchLoop_short_opErrors c sender channel memo short noInvoiceErrors failing present
      missing]
  simp

/-- A rejection of a two-earn sub-batch with a single operation error. -/
def missingOpErrorResult : SubmitTransactionResult :=
  ⟨[7], [], some ⟨none, [.ofKind .insufficientBalance]⟩⟩

theorem submitEarnBatch_raises_on_missing_opErrors_sample :
    sampleClient.checkEarns [sampleEarn, sampleEarn] none = .ok () ∧
      partition [sampleEarn, sampleEarn] 100 = [] ++ [sampleEarn, sampleEarn] :: [] ∧
      ([] : List (List Earn)).length = ([] : List SubmitTransactionResult).length ∧
      (∀ result ∈ ([] : List SubmitTransactionResult),
        result.txError = none ∧ result.invoiceErrors = []) ∧
      missingOpErrorResult.invoiceErrors = [] ∧
      missingOpErrorResult.txError = some ⟨none, [.ofKind .insufficientBalance]⟩ ∧
      [Error.ofKind .insufficientBalance] ≠ [] ∧
      [Error.ofKind .insufficientBalance].length < [sampleEarn, sampleEarn].length ∧
      sampleClient.submitEarnBatch scripted sampleSender [sampleEarn, sampleEarn] none none
          (([] : List SubmitTransactionResult).map .ok ++ .ok missingOpErrorResult :: [], []) =
        .error (.indexError "list index out of range")
          ([], ([] ++ [[sampleEarn, sampleEarn]]).map (sampleClient.earnBatchCall sampleSender none none)) :=
  ⟨rfl, rfl, rfl, by simp, rfl, rfl, by decide, by decide,
    submitEarnBatch_raises_on_missing_opErrors sampleClient sampleSender none none []
      (rfl : sampleClient.checkEarns [sampleEarn, sampleEarn] none = _) rfl rfl (by simp) rfl rfl
      (by decide) (by decide)⟩

end Run

end AgoraClient

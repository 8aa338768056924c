import Mathlib.Data.List.Basic

namespace AgoraClient

/-!
# The data the client reads and builds

`agora/client/client.py` imports its error classes from `agora.error`, its value objects
from `agora.model`, the transport's result from `agora.client.internal`, and two helpers
from `agora.utils`.  None of these modules is under src/, so each enters here as a plain
record with exactly the fields the client reads, under the names the client uses.

Keys, invoices, memo hashes and Kin amounts are kept symbolic.  The spec treats key
handling, the invoice fingerprint and the byte format of a transaction as opaque
collaborators; a symbolic value records which key, which invoice list or which quark
count the client handed to them, and nothing about how they encode it.
-/

/-! ## Errors -/

/-- The `agora.error` classes that `client.py` imports.  Each is a subclass of
`agora.error.Error`, written `error` here, and none is a subclass of another one
listed, so an `isinstance` test against one of them is a test of the kind. -/
inductive ErrorKind
  | error
  | accountExists
  | invoice
  | unsupportedVersion
  | transactionMalformed
  | senderDoesNotExist
  | insufficientBalance
  | destinationDoesNotExist
  | insufficientFee
  | badNonce
  | transactionRejected
  | alreadyPaid
  | wrongDestination
  | skuNotFound
  deriving DecidableEq, Repr

/-- An instance of an `agora.error` class, with the message it was raised with. -/
structure Error where
  kind : ErrorKind
  message : String
  deriving DecidableEq, Repr

/-- The error raised by a bare class, as in `raise AlreadyPaidError()`. -/
def Error.ofKind (kind : ErrorKind) : Error :=
  ⟨kind, ""⟩

/-- What a Python `raise` can carry out of the client.  Only the first alternative is
caught by an `except Error` clause; `other` stands for any exception of a collaborator
that is not an agora error. -/
inductive Exception
  | error (error : Error)
  | valueError (message : String)
  | indexError (message : String)
  | other (name : String)
  deriving DecidableEq, Repr

/-- `isinstance(e, kind)` for one of the leaf kinds above. -/
def Exception.isInstance : Exception → ErrorKind → Bool
  | .error e, kind => e.kind == kind
  | _, _ => false

/-- The reasons of `agora.error.InvoiceErrorReason`. -/
inductive InvoiceErrorReason
  | unknown
  | alreadyPaid
  | wrongDestination
  | skuNotFound
  deriving DecidableEq, Repr

/-- The text the f-string at client.py:307 gives a reason.  `InvoiceErrorReason` is an
`IntEnum`, which an f-string formats as its value: `UNKNOWN` is 0, `ALREADY_PAID` 1,
`WRONG_DESTINATION` 2 and `SKU_NOT_FOUND` 3. -/
def InvoiceErrorReason.text : InvoiceErrorReason → String
  | .unknown => "0"
  | .alreadyPaid => "1"
  | .wrongDestination => "2"
  | .skuNotFound => "3"

/-- An invoice error of a submission result; the client reads only its reason. -/
structure InvoiceError where
  reason : InvoiceErrorReason
  deriving DecidableEq, Repr

/-- `TransactionErrors`: a transaction-level error, the per-operation errors, or both
absent. -/
structure TransactionErrors where
  txError : Option Error
  opErrors : List Error
  deriving DecidableEq, Repr

abbrev Bytes := List UInt8

/-- `SubmitTransactionResult` of `agora.client.internal`. -/
structure SubmitTransactionResult where
  txHash : Bytes
  invoiceErrors : List InvoiceError
  txError : Option TransactionErrors
  deriving DecidableEq, Repr

/-- The error of a result whose transaction-level error is a `BadNonceError`:
`result.tx_error and isinstance(result.tx_error.tx_error, BadNonceError)`. -/
def SubmitTransactionResult.badNonceError (result : SubmitTransactionResult) : Option Error :=
  match result.txError with
  | some { txError := some e, .. } => if e.kind = .badNonce then some e else none
  | _ => none

theorem badNonceError_kind {result : SubmitTransactionResult} {e : Error}
    (bad : result.badNonceError = some e) : e.kind = .badNonce := by
  unfold SubmitTransactionResult.badNonceError at bad
  split at bad
  · split at bad
    · exact Option.some.inj bad ▸ ‹_›
    · cases bad
  · cases bad

/-! ## Keys, invoices and memos -/

structure PublicKey where
  stellarAddress : String
  deriving DecidableEq, Repr

/-- A private key, kept as the seed the builder signs with and its public key. -/
structure PrivateKey where
  publicKey : PublicKey
  stellarSeed : String
  deriving DecidableEq, Repr

/-- An invoice.  The client only gathers invoices into lists, so its line items stay
opaque. -/
structure Invoice where
  items : List String
  deriving DecidableEq, Repr

structure InvoiceList where
  invoices : List Invoice
  deriving DecidableEq, Repr

/-- The foreign key of an Agora memo: `b''`, or the SHA-224 hash of an invoice list,
kept as the list it hashes. -/
inductive ForeignKey
  | empty
  | sha224 (invoiceList : InvoiceList)
  deriving DecidableEq, Repr

def InvoiceList.getSha224Hash (invoiceList : InvoiceList) : ForeignKey :=
  .sha224 invoiceList

inductive TransactionType
  | unknown
  | none
  | earn
  | spend
  | p2p
  deriving DecidableEq, Repr

/-- `AgoraMemo.new(version, tx_type, app_index, foreign_key)`, kept as its arguments. -/
structure AgoraMemo where
  version : Nat
  txType : TransactionType
  appIndex : Int
  foreignKey : ForeignKey
  deriving DecidableEq, Repr

inductive Memo
  | none
  | text (text : String)
  | hash (memo : AgoraMemo)
  deriving DecidableEq, Repr

/-! ## Payments and earns -/

structure Earn where
  destination : PublicKey
  quarks : Int
  invoice : Option Invoice
  deriving DecidableEq, Repr

structure Payment where
  sender : PrivateKey
  destination : PublicKey
  txType : TransactionType
  quarks : Int
  channel : Option PrivateKey
  invoice : Option Invoice
  memo : Option String
  deriving DecidableEq, Repr

/-- `EarnResult(earn, tx_hash=None, error=None)`: with neither a hash nor an error the
earn was never attempted. -/
structure EarnResult where
  earn : Earn
  txHash : Option Bytes := none
  error : Option Error := none
  deriving DecidableEq, Repr

structure BatchEarnResult where
  succeeded : List EarnResult
  failed : List EarnResult
  deriving DecidableEq, Repr

/-! ## Transactions -/

/-- A Kin amount `quarks_to_kin(quarks)`, kept as the quark count it converts. -/
structure Kin where
  quarks : Int
  deriving DecidableEq, Repr

/-- `agora.utils.quarks_to_kin` is not under src/; the amount is kept symbolic. -/
def quarksToKin (quarks : Int) : Kin :=
  ⟨quarks⟩

/-- The arguments of one `builder.append_payment_op` call. -/
structure PaymentOp where
  destination : String
  amount : Kin
  source : String
  assetIssuer : Option String
  deriving DecidableEq, Repr

/-- The state of a `kin_base.Builder` that the client sets: its source account, base
fee, memo and operations.  The network passphrase is not modelled. -/
structure Builder where
  source : PrivateKey
  baseFee : Nat
  memo : Memo
  operations : List PaymentOp
  deriving DecidableEq, Repr

def Builder.addTextMemo (builder : Builder) (text : String) : Builder :=
  { builder with memo := .text text }

def Builder.addHashMemo (builder : Builder) (memo : AgoraMemo) : Builder :=
  { builder with memo := .hash memo }

def Builder.appendPaymentOp (builder : Builder) (op : PaymentOp) : Builder :=
  { builder with operations := builder.operations ++ [op] }

/-- A signed transaction envelope, the value `gen_xdr` serialises. -/
structure Envelope where
  source : PublicKey
  baseFee : Nat
  sequence : Int
  memo : Memo
  operations : List PaymentOp
  signatures : List String
  deriving DecidableEq, Repr

/-- The envelope after resetting `tx` and `te`, setting the sequence number and signing
with each signer's seed in order. -/
def Builder.envelope (builder : Builder) (sequence : Int) (signers : List PrivateKey) :
    Envelope where
  source := builder.source.publicKey
  baseFee := builder.baseFee
  sequence := sequence
  memo := builder.memo
  operations := builder.operations
  signatures := signers.map (·.stellarSeed)

/-! ## Evaluating the model's two monads

The checks of the client are written in `Except`, and the methods in `EStateM` over the
state they change.  These equations let `simp` run a `do` block on known values. -/

section Monads

variable {ε σ α β : Type}

@[simp] theorem except_ok_bind (a : α) (f : α → Except ε β) : (Except.ok a >>= f) = f a := rfl

@[simp] theorem except_error_bind (e : ε) (f : α → Except ε β) :
    (Except.error e >>= f) = .error e := rfl

@[simp] theorem except_throw (e : ε) : (throw e : Except ε α) = .error e := rfl

@[simp] theorem except_pure (a : α) : (pure a : Except ε α) = .ok a := rfl

@[simp] theorem estate_bind_apply (x : EStateM Exception σ α) (f : α → EStateM Exception σ β)
    (s : σ) :
    (x >>= f) s =
      match x s with
      | .ok a s' => f a s'
      | .error e s' => .error e s' := by
  cases h : x s <;> simp only [bind, EStateM.bind, h]

@[simp] theorem estate_map_apply (f : α → β) (x : EStateM Exception σ α) (s : σ) :
    (f <$> x) s =
      match x s with
      | .ok a s' => .ok (f a) s'
      | .error e s' => .error e s' := by
  cases h : x s <;> simp only [Functor.map, EStateM.map, h]

@[simp] theorem estate_pure_apply (a : α) (s : σ) :
    (pure a : EStateM Exception σ α) s = .ok a s := rfl

@[simp] theorem estate_throw_apply (e : Exception) (s : σ) :
    (@throw Exception (EStateM Exception σ) _ α e) s = .error e s := rfl

@[simp] theorem liftExcept_ok_apply (a : α) (s : σ) :
    (liftExcept (Except.ok a : Except Exception α) : EStateM Exception σ α) s = .ok a s := rfl

@[simp] theorem liftExcept_error_apply (e : Exception) (s : σ) :
    (liftExcept (.error e) : EStateM Exception σ α) s = .error e s := rfl

end Monads

/-! ## Python helpers -/

/-- A text memo as Python's `if memo:` sees it: present and non-empty. -/
def givenText (memo : Option String) : Option String :=
  memo.filter fun text => !text.isEmpty

/-- Python's `values[index]`. -/
def pyIndex (values : List α) (index : Nat) : Except Exception α :=
  match values.get? index with
  | some value => .ok value
  | none => .error (.indexError "list index out of range")

/-- Modelled from the spec: `agora.utils.partition` is not under src/.  §4.5 splits the
earns into fixed-size sub-batches in order, the last possibly smaller; this is
`l[i:i + size]` for `i` in `range(0, len(l), size)`. -/
def partition (values : List α) (size : Nat) : List (List α) :=
  (List.range' 0 ((values.length + size - 1) / size) size).map fun i =>
    (values.drop i).take size

theorem partition_nil (size : Nat) : partition ([] : List α) size = [] := by
  rcases Nat.eq_zero_or_pos size with zero | positive
  · simp [partition, zero]
  · simp [partition, Nat.div_eq_of_lt (Nat.sub_lt positive Nat.one_pos)]

/-- Dropping the first sub-batch leaves one sub-batch fewer. -/
theorem chunkCount_drop {values : List α} {size : Nat} (positive : 0 < size)
    (nonempty : values ≠ []) :
    ((values.drop size).length + size - 1) / size + 1 = (values.length + size - 1) / size := by
  have long : 1 ≤ values.length := List.length_pos.mpr nonempty
  have shift : values.length + size - 1 = values.length - 1 + size := by omega
  rw [List.length_drop, shift, Nat.add_div_right _ positive]
  by_cases short : values.length ≤ size
  · rw [Nat.sub_eq_zero_of_le short, Nat.zero_add, Nat.div_eq_of_lt (by omega),
      Nat.div_eq_of_lt (by omega)]
  · congr 2
    omega

theorem partition_eq_cons {values : List α} {size : Nat} (positive : 0 < size)
    (nonempty : values ≠ []) :
    partition values size = values.take size :: partition (values.drop size) size := by
  have shifted (n : Nat) : List.range' size n size = (List.range' 0 n size).map (size + ·) := by
    rw [List.map_add_range', Nat.add_zero]
  rw [partition, ← chunkCount_drop positive nonempty, List.range'_succ, List.map_cons, partition,
    List.drop_zero, Nat.zero_add, shifted, List.map_map]
  congr 1
  apply List.map_congr_left
  intro i _
  simp [Nat.add_comm]

/-- The sub-batches, read in order, are the list itself. -/
theorem flatten_partition (values : List α) {size : Nat} (positive : 0 < size) :
    (partition values size).flatten = values := by
  by_cases nonempty : values = []
  · simp [nonempty, partition_nil]
  · rw [partition_eq_cons positive nonempty, List.flatten_cons,
      flatten_partition (values.drop size) positive, List.take_append_drop]
termination_by values.length
decreasing_by
  have := List.length_pos.mpr nonempty
  simp only [List.length_drop]
  omega

theorem length_le_of_mem_partition {values : List α} {size : Nat} {batch : List α}
    (member : batch ∈ partition values size) : batch.length ≤ size := by
  obtain ⟨i, -, rfl⟩ := List.mem_map.mp member
  exact List.length_take_le _ _

theorem mem_of_mem_partition {values : List α} {size : Nat} {batch : List α} {value : α}
    (member : batch ∈ partition values size) (inBatch : value ∈ batch) : value ∈ values := by
  obtain ⟨i, -, rfl⟩ := List.mem_map.mp member
  exact List.mem_of_mem_drop (List.mem_of_mem_take inBatch)

example : partition [1, 2, 3, 4, 5] 2 = [[1, 2], [3, 4], [5]] := by decide

end AgoraClient

import AgoraClient.Retry

namespace AgoraClient

/-!
# The client and its transaction submission coordinator

A `Client` holds what `Client.__init__` keeps and the methods read: the app index, the
whitelist key, the retry configuration, the Kin version and the Kin 2 asset issuer.
The gRPC channel, the endpoint and the network passphrase are not modelled; the network
is the `Transport` each method is run against.

`V3InternalClient` is not under src/.  Following §6 of the spec, the service is an
arbitrary answer to each request, and the answer may depend on every request sent
before it.  The client's state is the log of those requests, so a theorem over every
`Transport` is a theorem over every sequence of service responses.

`_sign_and_submit_builder` is the coordinator of §4.4: it fetches the source account's
sequence number once, then retries one signed submission per sequence number while the
service reports a bad nonce.  Its closure's `nonlocal offset` is the second component
of the state the retry executor runs in, so an offset advanced by a failed attempt is
the offset the next attempt reads.
-/

/-! ## Configuration -/

/-- A `RetryConfig` field: the supplied value unless it is absent or negative. -/
def configValue (value : Option Int) (default : Nat) : Nat :=
  match value with
  | some n => if 0 ≤ n then n.toNat else default
  | none => default

/-- The integer fields of a `RetryConfig`.  The delays only configure the internal
client's backoff, which is not modelled. -/
structure RetryConfig where
  maxRetries : Nat
  maxNonceRefreshes : Nat
  deriving DecidableEq, Repr

/-- `RetryConfig(max_retries, max_nonce_refreshes)`. -/
def RetryConfig.new (maxRetries maxNonceRefreshes : Option Int) : RetryConfig where
  maxRetries := configValue maxRetries 5
  maxNonceRefreshes := configValue maxNonceRefreshes 3

theorem configValue_eq (value : Option Int) (default : Nat) :
    (configValue value default : Int) =
      match value with
      | some n => if 0 ≤ n then n else default
      | none => default := by
  rcases value with _ | n
  · rfl
  · by_cases nonnegative : 0 ≤ n
    · simp [configValue, nonnegative, Int.toNat_of_nonneg nonnegative]
    · simp [configValue, nonnegative]

inductive Environment
  | production
  | test
  deriving DecidableEq, Repr

/-- `_KIN_2_ISSUERS`. -/
def kin2Issuers : Environment → String
  | .production => "GDF42M3IPERQCBLWFEZKQRK77JQ65SCKTU3CW36HZVCX7XX5A5QXZIVK"
  | .test => "GBC3SG6NGTSZ2OMH3FFGB7UVRQWILW367U4GSOOF4TFSZONV42UJXUH7"

/-- `_SUPPORTED_VERSIONS`. -/
def supportedVersions : List Int :=
  [2, 3]

/-- The state of a constructed `Client` that its methods read.  The constructor has
rejected every other Kin version, so the field `kinVersion_supported` records that. -/
structure Client where
  appIndex : Int
  whitelistKey : Option PrivateKey
  retryConfig : RetryConfig
  kinVersion : Int
  assetIssuer : Option String
  kinVersion_supported : kinVersion ∈ supportedVersions

/-- `Client(env, app_index, whitelist_key, retry_config=retry_config,
kin_version=kin_version)`. -/
def Client.new (env : Environment) (appIndex : Int) (whitelistKey : Option PrivateKey)
    (retryConfig : Option RetryConfig) (kinVersion : Option Int) : Except Exception Client :=
  match kinVersion with
  | none => .error (.valueError "None is not a supported version of Kin")
  | some version =>
    if supported : version ∈ supportedVersions then
      .ok
        { appIndex
          whitelistKey
          retryConfig := retryConfig.getD (RetryConfig.new none none)
          kinVersion := version
          assetIssuer := if version = 2 then some (kin2Issuers env) else none
          kinVersion_supported := supported }
    else .error (.valueError (toString version ++ " is not a supported version of Kin"))

/-- The constructor accepts exactly the supported Kin versions; every method's own
version check then passes, which `kinVersion_supported` records. -/
theorem Client.new_accepts_iff (env : Environment) (appIndex : Int)
    (whitelistKey : Option PrivateKey) (retryConfig : Option RetryConfig)
    (kinVersion : Option Int) :
    (∃ c, Client.new env appIndex whitelistKey retryConfig kinVersion = .ok c) ↔
      ∃ version ∈ supportedVersions, kinVersion = some version := by
  rcases kinVersion with _ | version
  · simp [Client.new]
  · by_cases supported : version ∈ supportedVersions <;> simp [Client.new, supported]

/-- `self._nonce_retry_strategies`. -/
def Client.nonceRetryStrategies (c : Client) : List Strategy :=
  [.retriableErrors [.badNonce], .limit (c.retryConfig.maxNonceRefreshes + 1)]

/-! ## The service -/

/-- The requests the client sends, in the order it sends them.  Each is one call of the
internal client (`V3InternalClient`), which the client builds with retry strategies of its
own (client.py:209-214, 226); how often that client repeats a call is not modelled. -/
inductive Request
  | getAccountInfo (account : PublicKey)
  | submitTransaction (envelope : Envelope) (invoiceList : Option InvoiceList)
  deriving DecidableEq, Repr

/-- The account information the client reads. -/
structure AccountInfo where
  sequenceNumber : Int
  deriving DecidableEq, Repr

/-- Modelled from the spec: `V3InternalClient` is not under src/.  The service's answer
to `get_account_info` and `submit_transaction`, given the requests sent before. -/
structure Transport where
  accountInfo : List Request → PublicKey → Except Exception AccountInfo
  submitResult :
    List Request → Envelope → Option InvoiceList → Except Exception SubmitTransactionResult

abbrev ClientM := EStateM Exception (List Request)

/-- Send a request and return the service's answer.  The request is logged whether the
service answers or raises. -/
def send (request : Request) (answer : List Request → Except Exception α) : ClientM α :=
  fun log =>
    match answer log with
    | .ok a => .ok a (log ++ [request])
    | .error e => .error e (log ++ [request])

/-- `self._internal_client.get_account_info(account)`. -/
def getAccountInfo (t : Transport) (account : PublicKey) : ClientM AccountInfo :=
  send (.getAccountInfo account) (t.accountInfo · account)

/-- `self._internal_client.submit_transaction(envelope, invoice_list)`. -/
def submitTransaction (t : Transport) (envelope : Envelope) (invoiceList : Option InvoiceList) :
    ClientM SubmitTransactionResult :=
  send (.submitTransaction envelope invoiceList) (t.submitResult · envelope invoiceList)

theorem send_apply (request : Request) (answer : List Request → Except Exception α)
    (log : List Request) :
    send request answer log =
      match answer log with
      | .ok a => .ok a (log ++ [request])
      | .error e => .error e (log ++ [request]) :=
  rfl

/-! ## The coordinator -/

/-- What a submission hands its signers, builder and invoice list to.  The client's
own coordinator is `signAndSubmitBuilder`; the proofs about the batch loop also run it
against a scripted one. -/
abbrev Coordinator (σ : Type) :=
  List PrivateKey → Builder → Option InvoiceList → EStateM Exception σ SubmitTransactionResult

/-- Run an action whose state carries a local variable, starting the local at `init`
and dropping it at the end. -/
def withLocal (init : β) (x : EStateM Exception (σ × β) α) : EStateM Exception σ α :=
  fun s =>
    match x (s, init) with
    | .ok a (s', _) => .ok a s'
    | .error e (s', _) => .error e s'

/-- The result of an action that ends in state `s` with `outcome`. -/
def resultOf (outcome : Except ε α) (s : σ) : EStateM.Result ε σ α :=
  match outcome with
  | .ok a => .ok a s
  | .error e => .error e s

/-- The state an action ends in, whether it returns or raises. -/
def finalState : EStateM.Result ε σ α → σ
  | .ok _ s => s
  | .error _ s => s

@[simp] theorem finalState_ok (a : α) (s : σ) :
    finalState (.ok a s : EStateM.Result ε σ α) = s := rfl

@[simp] theorem finalState_error (e : ε) (s : σ) :
    finalState (.error e s : EStateM.Result ε σ α) = s := rfl

@[simp] theorem finalState_resultOf (outcome : Except ε α) (s : σ) :
    finalState (resultOf outcome s) = s := by
  cases outcome <;> rfl

theorem withLocal_resultOf {init : β} {x : EStateM Exception (σ × β) α} {s s' : σ} {b : β}
    {outcome : Except Exception α} (ends : x (s, init) = resultOf outcome (s', b)) :
    withLocal init x s = resultOf outcome s' := by
  cases outcome <;> simp only [withLocal, ends, resultOf]

/-- The closure `_sign_and_submit`, with its `nonlocal offset` as the second component
of the state. -/
def signAndSubmit (t : Transport) (signers : List PrivateKey) (builder : Builder)
    (invoiceList : Option InvoiceList) (sourceInfo : AccountInfo) :
    EStateM Exception (List Request × Nat) SubmitTransactionResult :=
  fun (log, offset) =>
    let envelope := builder.envelope (sourceInfo.sequenceNumber + offset) signers
    match submitTransaction t envelope invoiceList log with
    | .ok result log =>
      match result.badNonceError with
      | some e => .error (.error e) (log, offset + 1)
      | none => .ok result (log, offset)
    | .error e log => .error e (log, offset)

/-- `_sign_and_submit_builder(signers, builder, invoice_list)`.  The fuel allows one
retry more than the limit strategy, which `retryFrom_fuel_succ` shows is never used. -/
def Client.signAndSubmitBuilder (c : Client) (t : Transport) : Coordinator (List Request) :=
  fun signers builder invoiceList => do
    let signer ← liftExcept (pyIndex signers 0)
    let sourceInfo ← getAccountInfo t signer.publicKey
    withLocal 1 <| retry c.nonceRetryStrategies (c.retryConfig.maxNonceRefreshes + 1)
      (signAndSubmit t signers builder invoiceList sourceInfo)

/-! ## Transaction pieces shared by both submissions -/

/-- `_get_stellar_builder(source)`: a builder for the source account with base fee
100. -/
def getStellarBuilder (source : PrivateKey) : Builder :=
  ⟨source, 100, .none, []⟩

/-- The signers of both submissions: the channel first when there is one, then the
sender, then the whitelist key when there is one. -/
def signersFor (whitelistKey : Option PrivateKey) (channel : Option PrivateKey)
    (sender : PrivateKey) : List PrivateKey :=
  (match channel with
    | some channel => [channel, sender]
    | none => [sender]) ++ whitelistKey.toList

/-- The payment operation both submissions append: Kin 2 amounts are scaled by 100,
and only Kin 2 names an asset issuer. -/
def Client.paymentOp (c : Client) (destination : PublicKey) (quarks : Int)
    (sender : PrivateKey) : PaymentOp where
  destination := destination.stellarAddress
  amount := quarksToKin (if c.kinVersion = 2 then quarks * 100 else quarks)
  source := sender.publicKey.stellarAddress
  assetIssuer := if c.kinVersion = 2 then c.assetIssuer else none

theorem signersFor_head (whitelistKey channel : Option PrivateKey) (sender : PrivateKey) :
    (signersFor whitelistKey channel sender).head? = some (channel.getD sender) := by
  cases channel <;> rfl

end AgoraClient

import AgoraClient.Data

namespace AgoraClient

/-!
# The retry executor

`agora.retry` is not under src/; the executor and its strategies are modelled from §4.1
and §4.2 of the spec.  A strategy is asked, after an attempt has failed, whether the
executor may try again; the executor tries again only when every strategy agrees, and
otherwise re-raises the failure it saw.  A success is returned at once.

The attempt count a strategy sees includes the first attempt, so `LimitStrategy(n)`
allows `n` attempts in all.  This is the reading under which §4.4 promises at most
`max_nonce_refreshes + 1` attempts and §8 stops after `N + 1` bad nonces.

Attempts run in `EStateM`, whose state survives a raised error: whatever a failed
attempt changed (a request sent, the nonce loop's offset advanced) is what the next
attempt starts from.  Backoff strategies only wait, and waiting is not modelled.
-/

/-- The strategies the client builds for its own retry loop. -/
inductive Strategy
  /-- `RetriableErrorsStrategy(errors)`: retry only after an error of one of the kinds. -/
  | retriableErrors (kinds : List ErrorKind)
  /-- `LimitStrategy(max_attempts)`: retry only while fewer attempts were made. -/
  | limit (maxAttempts : Nat)
  deriving DecidableEq, Repr

/-- `should_retry(attempts, e)`, asked after `attempts` attempts, the last failing
with `e`. -/
def Strategy.shouldRetry : Strategy → Nat → Exception → Bool
  | .retriableErrors kinds, _, e => kinds.any e.isInstance
  | .limit maxAttempts, attempts, _ => decide (attempts < maxAttempts)

/-- The loop of `retry(strategies, f)` after `attempts` attempts.  Python loops with
`while True`; `fuel` bounds the attempts still allowed so that the recursion is
structural, and `retryFrom_fuel_succ` shows that fuel past a limit strategy's bound
changes nothing. -/
def retryFrom (strategies : List Strategy) (f : EStateM Exception σ α) :
    (fuel attempts : Nat) → EStateM Exception σ α
  | 0, _ => f
  | fuel + 1, attempts => fun s =>
    match f s with
    | .ok a s' => .ok a s'
    | .error e s' =>
      if strategies.all (·.shouldRetry (attempts + 1) e) then
        retryFrom strategies f fuel (attempts + 1) s'
      else .error e s'

/-- Modelled from the spec: `agora.retry.retry(strategies, f)`, allowed `fuel` retries. -/
def retry (strategies : List Strategy) (fuel : Nat) (f : EStateM Exception σ α) :
    EStateM Exception σ α :=
  retryFrom strategies f fuel 0

section Executor

variable {σ α : Type} {strategies : List Strategy} {f : EStateM Exception σ α}

/-- A success is returned at once, whatever the fuel. -/
theorem retryFrom_ok {fuel attempts : Nat} {s s' : σ} {a : α} (succeeds : f s = .ok a s') :
    retryFrom strategies f fuel attempts s = .ok a s' := by
  cases fuel <;> simp only [retryFrom, succeeds]

theorem retryFrom_succ_error {fuel attempts : Nat} {s s' : σ} {e : Exception}
    (fails : f s = .error e s') :
    retryFrom strategies f (fuel + 1) attempts s =
      if strategies.all (·.shouldRetry (attempts + 1) e) then
        retryFrom strategies f fuel (attempts + 1) s'
      else .error e s' := by
  simp only [retryFrom, fails]

/-- A failure that some strategy refuses to retry is what the caller sees. -/
theorem retryFrom_refused {fuel attempts : Nat} {s s' : σ} {e : Exception}
    (fails : f s = .error e s')
    (refused : ∃ strategy ∈ strategies, strategy.shouldRetry (attempts + 1) e = false) :
    retryFrom strategies f fuel attempts s = .error e s' := by
  obtain ⟨strategy, member, refuses⟩ := refused
  have notAll : strategies.all (·.shouldRetry (attempts + 1) e) = false :=
    List.all_eq_false.mpr ⟨strategy, member, by simp [refuses]⟩
  cases fuel with
  | zero => exact fails
  | succ fuel => rw [retryFrom_succ_error fails, notAll, if_neg Bool.false_ne_true]

theorem retryFrom_succ_retried {fuel attempts : Nat} {s s' : σ} {e : Exception}
    (fails : f s = .error e s')
    (agreed : ∀ strategy ∈ strategies, strategy.shouldRetry (attempts + 1) e = true) :
    retryFrom strategies f (fuel + 1) attempts s =
      retryFrom strategies f fuel (attempts + 1) s' := by
  rw [retryFrom_succ_error fails, List.all_eq_true.mpr agreed, if_pos rfl]

/-- Once the attempts allowed by `fuel` reach past a `LimitStrategy`, one more unit of
fuel is never used. -/
theorem retryFrom_fuel_succ {maxAttempts : Nat} (limited : .limit maxAttempts ∈ strategies) :
    ∀ {fuel attempts : Nat}, maxAttempts ≤ attempts + fuel + 1 →
      retryFrom strategies f (fuel + 1) attempts = retryFrom strategies f fuel attempts := by
  intro fuel
  induction fuel with
  | zero =>
    intro attempts enough
    funext s
    show _ = f s
    cases outcome : f s with
    | ok a s' => exact retryFrom_ok outcome
    | error e s' =>
      have refuses : (Strategy.limit maxAttempts).shouldRetry (attempts + 1) e = false := by
        simp only [Strategy.shouldRetry, decide_eq_false_iff_not]
        omega
      exact retryFrom_refused outcome ⟨_, limited, refuses⟩
  | succ fuel ih =>
    intro attempts enough
    funext s
    cases outcome : f s with
    | ok a s' => rw [retryFrom_ok outcome, retryFrom_ok outcome]
    | error e s' =>
      rw [retryFrom_succ_error outcome, retryFrom_succ_error outcome,
        @ih (attempts + 1) (by omega)]

/-- Any fuel past a `LimitStrategy`'s bound gives the same loop. -/
theorem retryFrom_fuel_irrelevant {maxAttempts : Nat} (limited : .limit maxAttempts ∈ strategies)
    {fuel fuel' attempts : Nat} (enough : maxAttempts ≤ attempts + fuel + 1) (more : fuel ≤ fuel') :
    retryFrom strategies f fuel' attempts = retryFrom strategies f fuel attempts := by
  induction fuel', more using Nat.le_induction with
  | base => rfl
  | succ fuel' _ ih => rw [retryFrom_fuel_succ limited (by omega), ih]

/-- An attempt that always fails. -/
def failing : EStateM Exception Unit Unit :=
  fun s => .error (.other "Exception") s

theorem retryFrom_fuel_irrelevant_sample :
    Strategy.limit 2 ∈ [Strategy.limit 2] ∧ 2 ≤ 0 + 1 + 1 ∧ 1 ≤ 5 ∧
      retryFrom [.limit 2] failing 5 0 = retryFrom [.limit 2] failing 1 0 :=
  ⟨List.mem_singleton_self _, by decide, by decide,
    retryFrom_fuel_irrelevant (List.mem_singleton_self _) (by decide) (by decide)⟩

end Executor

end AgoraClient

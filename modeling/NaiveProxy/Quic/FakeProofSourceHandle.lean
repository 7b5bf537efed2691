import Mathlib.Data.List.Basic

/-!
# `FakeProofSourceHandle`: pending operations and their callbacks

`quic/test_tools/fake_proof_source_handle.cc` stands in for a `ProofSourceHandle`
in handshake tests. Each of its two operations, `SelectCertificate` and
`ComputeSignature`, follows an `Action`: the delegate answers now
(`DELEGATE_SYNC`), the operation fails now (`FAIL_SYNC`), or the request is held as
a pending operation, which `CompletePendingOperation` later answers through the
delegate (`DELEGATE_ASYNC`) or fails (`FAIL_ASYNC`). `CancelPendingOperation` drops
what is held.

A handle is its two actions and its two optional pending operations. A test's
calls are `Call`s; `run` performs a list of them and collects every callback the
handle delivers, as a `Done` tagged with the request it answers. Then:

    pendingAsync_run                  every operation a handle holds after any run
                                      was saved under an asynchronous action, so
                                      its `Run` never reaches the QUIC_BUG
    completePendingOperation_repeats  `CompletePendingOperation` answers the held
                                      request but never releases it: each further
                                      call delivers the same callback again, and
                                      NumPendingOperations() stays 1
-/

namespace Quic

/-- `FakeProofSourceHandle::Action` (the header is not in `src/`): the four actions
the `.cc` distinguishes. -/
inductive Action
  | delegateSync
  | delegateAsync
  | failSync
  | failAsync
deriving DecidableEq, Repr

/-- `QuicAsyncStatus` as the two operations return it. -/
inductive QuicAsyncStatus
  | success
  | failure
  | pending
deriving DecidableEq, Repr

/-- The two operations of a handle. -/
inductive Operation
  | selectCert
  | computeSignature
deriving DecidableEq, Repr

/-- A call of `OnSelectCertificateDone` (for `selectCert`) or `OnComputeSignatureDone`
(for `computeSignature`) on the handle's callback, with its `ok` and `is_sync`,
tagged with the request it answers. -/
structure Done where
  operation : Operation
  request : Nat
  ok : Bool
  isSync : Bool
deriving DecidableEq, Repr

/-- A `SelectCertOperation` or `ComputeSignatureOperation`: its action, and the
request whose arguments it saved. -/
structure PendingOperation where
  action : Action
  request : Nat
deriving DecidableEq, Repr

/-- The delegate `ProofSource` on the requests of a test: whether `GetCertChain`
returns a chain with certificates, and what `ComputeTlsSignature` passes its callback
before returning (nothing, for a delegate that answers later). -/
structure Delegate where
  getCertChainOk : Nat → Bool
  computeTlsSignature : Nat → Option Bool

/-- `ComputeSignatureNow`: the delegate's signature, which it must have computed
before returning. -/
def computeSignatureNow (d : Delegate) (request : Nat) : Except String Bool :=
  match d.computeTlsSignature request with
  | some ok => pure ok
  | none => throw "delegate->ComputeTlsSignature must computes a signature immediately"

namespace Delegate

/-- The delegate's answer to `operation`, computed now: `chain && !chain->certs.empty()`
for `GetCertChain`, or the `ok` of `ComputeSignatureNow`. -/
def answer (d : Delegate) : Operation → Nat → Except String Bool
  | .selectCert, request => pure (d.getCertChainOk request)
  | .computeSignature, request => computeSignatureNow d request

/-- The delegate computes every signature before returning, as `ComputeSignatureNow`
checks. -/
def Synchronous (d : Delegate) : Prop := ∀ request, (d.computeTlsSignature request).isSome

theorem answer_ok {d : Delegate} (hsync : d.Synchronous) (operation : Operation) (request : Nat) :
    ∃ ok, d.answer operation request = .ok ok := by
  cases operation with
  | selectCert => exact ⟨_, rfl⟩
  | computeSignature =>
    obtain ⟨ok, hok⟩ := Option.isSome_iff_exists.1 (hsync request)
    exact ⟨ok, by simp only [answer, computeSignatureNow, hok]; rfl⟩

end Delegate

/-- The handle: the actions it was built with, `select_cert_op_` and
`compute_signature_op_`. -/
structure FakeProofSourceHandle where
  selectCertAction : Action
  computeSignatureAction : Action
  selectCertOp : Option PendingOperation
  computeSignatureOp : Option PendingOperation
deriving DecidableEq, Repr

/-- The calls a test makes on a handle. -/
inductive Call
  | selectCertificate (request : Nat)
  | computeSignature (request : Nat)
  | completePendingOperation
  | cancelPendingOperation
deriving DecidableEq, Repr

namespace FakeProofSourceHandle

/-- The constructor: the two actions, and nothing pending. -/
def init (selectCertAction computeSignatureAction : Action) : FakeProofSourceHandle :=
  ⟨selectCertAction, computeSignatureAction, none, none⟩

variable (hd : FakeProofSourceHandle)

/-! ## The handle's operations -/

/-- The action of `operation`. -/
def action : Operation → Action
  | .selectCert => hd.selectCertAction
  | .computeSignature => hd.computeSignatureAction

/-- The pending operation of `operation`. -/
def pendingOp : Operation → Option PendingOperation
  | .selectCert => hd.selectCertOp
  | .computeSignature => hd.computeSignatureOp

/-- `select_cert_op_.emplace(...)` or `compute_signature_op_.emplace(...)`: the new
operation replaces whatever was held. -/
def emplace : Operation → PendingOperation → FakeProofSourceHandle
  | .selectCert, op => { hd with selectCertOp := some op }
  | .computeSignature, op => { hd with computeSignatureOp := some op }

/-- `CancelPendingOperation()`. -/
def cancelPendingOperation : FakeProofSourceHandle :=
  { hd with selectCertOp := none, computeSignatureOp := none }

/-- `NumPendingOperations()`. -/
def numPendingOperations : Nat :=
  hd.selectCertOp.isSome.toNat + hd.computeSignatureOp.isSome.toNat

/-- `HasPendingOperation()`. -/
def hasPendingOperation : Bool := decide (0 < hd.numPendingOperations)

/-- `SelectCertificate` and `ComputeSignature`, for `operation`: an asynchronous
action saves the request and returns `QUIC_PENDING`; `FAIL_SYNC` fails now;
otherwise (`DELEGATE_SYNC`) the delegate answers now. -/
def startOperation (d : Delegate) (operation : Operation) (request : Nat) :
    Except String (FakeProofSourceHandle × List Done × QuicAsyncStatus) :=
  if hd.action operation == .delegateAsync || hd.action operation == .failAsync then
    pure (hd.emplace operation ⟨hd.action operation, request⟩, [], .pending)
  else if hd.action operation == .failSync then
    pure (hd, [⟨operation, request, false, true⟩], .failure)
  else do
    let ok ← d.answer operation request
    pure (hd, [⟨operation, request, ok, true⟩], if ok then .success else .failure)

/-- `SelectCertificate(...)`. -/
def selectCertificate (d : Delegate) (request : Nat) :
    Except String (FakeProofSourceHandle × List Done × QuicAsyncStatus) :=
  hd.startOperation d .selectCert request

/-- `ComputeSignature(...)`. -/
def computeSignature (d : Delegate) (request : Nat) :
    Except String (FakeProofSourceHandle × List Done × QuicAsyncStatus) :=
  hd.startOperation d .computeSignature request

end FakeProofSourceHandle

/-- `SelectCertOperation::Run` and `ComputeSignatureOperation::Run`: fail, or answer
through the delegate; any other action is a QUIC_BUG, which fails the test. -/
def runOperation (d : Delegate) (operation : Operation) (op : PendingOperation) : Except String Done :=
  if op.action == .failAsync then pure ⟨operation, op.request, false, false⟩
  else if op.action == .delegateAsync then do
    let ok ← d.answer operation op.request
    pure ⟨operation, op.request, ok, false⟩
  else throw ("Unexpected action: " ++ toString op.action.toCtorIdx)

namespace FakeProofSourceHandle

variable (hd : FakeProofSourceHandle)

/-- `CompletePendingOperation()`: runs the held select operation, else the held
signature operation. It releases neither. -/
def completePendingOperation (d : Delegate) : Except String (FakeProofSourceHandle × List Done) :=
  if hd.numPendingOperations ≤ 1 then
    match hd.selectCertOp, hd.computeSignatureOp with
    | some op, _ => do
      let done ← runOperation d .selectCert op
      pure (hd, [done])
    | none, some op => do
      let done ← runOperation d .computeSignature op
      pure (hd, [done])
    | none, none => pure (hd, [])
  else throw "NumPendingOperations() <= 1"

end FakeProofSourceHandle

/-- The outcome of `SelectCertificate` or `ComputeSignature` without the status it
returns. -/
def withoutStatus : Except String (FakeProofSourceHandle × List Done × QuicAsyncStatus) →
    Except String (FakeProofSourceHandle × List Done)
  | .ok (hd, done, _) => .ok (hd, done)
  | .error e => .error e

/-- One call: the handle after it and the callbacks it delivered. -/
def FakeProofSourceHandle.step (hd : FakeProofSourceHandle) (d : Delegate) :
    Call → Except String (FakeProofSourceHandle × List Done)
  | .selectCertificate request => withoutStatus (hd.selectCertificate d request)
  | .computeSignature request => withoutStatus (hd.computeSignature d request)
  | .completePendingOperation => hd.completePendingOperation d
  | .cancelPendingOperation => .ok (hd.cancelPendingOperation, [])

/-- A sequence of calls: the handle after them and every callback, in order. -/
def run (d : Delegate) : FakeProofSourceHandle → List Call → Except String (FakeProofSourceHandle × List Done)
  | hd, [] => .ok (hd, [])
  | hd, c :: cs =>
    match hd.step d c with
    | .error e => .error e
    | .ok (hd₁, done₁) =>
      match run d hd₁ cs with
      | .error e => .error e
      | .ok (hd₂, done₂) => .ok (hd₂, done₁ ++ done₂)

/-- Puts `done₁` in front of the callbacks of an outcome. -/
def prependDone (done₁ : List Done) :
    Except String (FakeProofSourceHandle × List Done) → Except String (FakeProofSourceHandle × List Done)
  | .ok (hd, done) => .ok (hd, done₁ ++ done)
  | .error e => .error e

/-! ## Runs -/

section Runs

variable {d : Delegate} {hd hd' : FakeProofSourceHandle} {c : Call} {cs : List Call}
  {done : List Done}

theorem run_cons_eq_ok (hrun : run d hd (c :: cs) = .ok (hd', done)) :
    ∃ hd₁ done₁ done₂, hd.step d c = .ok (hd₁, done₁) ∧ run d hd₁ cs = .ok (hd', done₂) ∧
      done = done₁ ++ done₂ := by
  rcases hs : hd.step d c with e | ⟨hd₁, done₁⟩
  · simp only [run, hs] at hrun
    cases hrun
  rcases hr : run d hd₁ cs with e | ⟨hd₂, done₂⟩ <;> simp only [run, hs, hr] at hrun <;> cases hrun
  exact ⟨hd₁, done₁, done₂, rfl, hr, rfl⟩

theorem run_cons_of_step {hd₁ : FakeProofSourceHandle} {done₁ : List Done}
    (hs : hd.step d c = .ok (hd₁, done₁)) :
    run d hd (c :: cs) = prependDone done₁ (run d hd₁ cs) := by
  simp only [run, hs]
  rcases run d hd₁ cs with e | ⟨hd₂, done₂⟩ <;> rfl

theorem prependDone_prependDone (done₁ done₂ : List Done) (x : Except String (FakeProofSourceHandle × List Done)) :
    prependDone done₁ (prependDone done₂ x) = prependDone (done₁ ++ done₂) x := by
  rcases x with e | ⟨hd, done⟩ <;> simp [prependDone]

theorem run_append {cs₁ cs₂ : List Call} {hd₁ : FakeProofSourceHandle} {done₁ : List Done}
    (hrun : run d hd cs₁ = .ok (hd₁, done₁)) :
    run d hd (cs₁ ++ cs₂) = prependDone done₁ (run d hd₁ cs₂) := by
  induction cs₁ generalizing hd done₁ with
  | nil =>
    cases hrun
    rw [List.nil_append]
    rcases run d hd₁ cs₂ with e | ⟨hd₂, done₂⟩ <;> rfl
  | cons c cs₁ ih =>
    obtain ⟨hd₀, done₀, done', hs, hr, rfl⟩ := run_cons_eq_ok hrun
    rw [List.cons_append, run_cons_of_step hs, ih hr, prependDone_prependDone]

/-- An invariant every call keeps holds after every run. -/
theorem run_invariant (I : FakeProofSourceHandle → Prop)
    (hstep : ∀ hd c hd₁ done₁, I hd → hd.step d c = .ok (hd₁, done₁) → I hd₁)
    (hrun : run d hd cs = .ok (hd', done)) (hI : I hd) : I hd' := by
  induction cs generalizing hd done with
  | nil =>
    cases hrun
    exact hI
  | cons c cs ih =>
    obtain ⟨hd₁, done₁, done₂, hs, hr, -⟩ := run_cons_eq_ok hrun
    exact ih hr (hstep _ _ _ _ hI hs)

end Runs

/-! ## What one call does -/

namespace FakeProofSourceHandle

/-- Every operation the handle holds was saved under an asynchronous action. -/
def PendingAsync (hd : FakeProofSourceHandle) : Prop :=
  ∀ operation op, hd.pendingOp operation = some op → op.action = .delegateAsync ∨ op.action = .failAsync

section Step

variable {d : Delegate} {hd hd₁ : FakeProofSourceHandle} {operation : Operation} {request : Nat}
  {done : List Done} {status : QuicAsyncStatus}

@[simp] theorem pendingOp_emplace_self (op : PendingOperation) :
    (hd.emplace operation op).pendingOp operation = some op := by
  cases operation <;> rfl

theorem pendingOp_emplace_of_ne {other : Operation} (op : PendingOperation) (hne : other ≠ operation) :
    (hd.emplace operation op).pendingOp other = hd.pendingOp other := by
  cases operation <;> cases other <;> first | rfl | exact absurd rfl hne

/-- What `SelectCertificate` and `ComputeSignature` can do: under an asynchronous
action, hold the request in place of any earlier one, with no callback; otherwise
answer it now, exactly once, leaving the handle as it was. -/
theorem startOperation_eq_ok (hs : hd.startOperation d operation request = .ok (hd₁, done, status)) :
    ((hd.action operation = .delegateAsync ∨ hd.action operation = .failAsync) ∧
      hd₁ = hd.emplace operation ⟨hd.action operation, request⟩ ∧ done = [] ∧ status = .pending) ∨
    (hd₁ = hd ∧ ∃ ok, done = [⟨operation, request, ok, true⟩]) := by
  unfold startOperation at hs
  split at hs
  · rename_i hasync
    cases hs
    exact .inl ⟨by simpa using hasync, rfl, rfl, rfl⟩
  split at hs
  · cases hs
    exact .inr ⟨rfl, _, rfl⟩
  · rcases ha : d.answer operation request with e | ok <;> rw [ha] at hs <;> cases hs
    exact .inr ⟨rfl, ok, rfl⟩

theorem runOperation_of_async (operation : Operation) {op : PendingOperation}
    (hasync : op.action = .delegateAsync ∨ op.action = .failAsync) (hsync : d.Synchronous) :
    ∃ ok, runOperation d operation op = .ok ⟨operation, op.request, ok, false⟩ := by
  rcases hasync with h | h
  · obtain ⟨ok, hok⟩ := d.answer_ok hsync operation op.request
    exact ⟨ok, by simp only [runOperation, h, hok]; rfl⟩
  · exact ⟨false, by simp only [runOperation, h]; rfl⟩

theorem completePendingOperation_eq_ok (hc : hd.completePendingOperation d = .ok (hd₁, done)) :
    hd₁ = hd := by
  unfold completePendingOperation at hc
  split at hc
  · rcases hsel : hd.selectCertOp with _ | op <;> rcases hcmp : hd.computeSignatureOp with _ | op' <;>
      simp only [hsel, hcmp] at hc
    · cases hc; rfl
    · rcases hr : runOperation d .computeSignature op' with e | cb <;> rw [hr] at hc <;> cases hc
      rfl
    all_goals
      rcases hr : runOperation d .selectCert op with e | cb <;> rw [hr] at hc <;> cases hc
      rfl
  · cases hc

theorem withoutStatus_eq_ok {x : Except String (FakeProofSourceHandle × List Done × QuicAsyncStatus)}
    (hx : withoutStatus x = .ok (hd₁, done)) : ∃ status, x = .ok (hd₁, done, status) := by
  rcases x with e | ⟨hd₂, done₂, status⟩ <;> cases hx
  exact ⟨status, rfl⟩

theorem pendingAsync_startOperation (hI : hd.PendingAsync)
    (hs : hd.startOperation d operation request = .ok (hd₁, done, status)) : hd₁.PendingAsync := by
  rcases startOperation_eq_ok hs with ⟨hasync, rfl, -⟩ | ⟨rfl, -⟩
  · intro other op hop
    by_cases hne : other = operation
    · subst hne
      rw [pendingOp_emplace_self, Option.some.injEq] at hop
      exact hop ▸ hasync
    · exact hI other op (by rwa [pendingOp_emplace_of_ne _ hne] at hop)
  · exact hI

theorem pendingAsync_step (hI : hd.PendingAsync) {c : Call} (hs : hd.step d c = .ok (hd₁, done)) :
    hd₁.PendingAsync := by
  cases c with
  | selectCertificate request =>
    obtain ⟨status, hst⟩ := withoutStatus_eq_ok hs
    exact pendingAsync_startOperation hI hst
  | computeSignature request =>
    obtain ⟨status, hst⟩ := withoutStatus_eq_ok hs
    exact pendingAsync_startOperation hI hst
  | completePendingOperation => exact completePendingOperation_eq_ok hs ▸ hI
  | cancelPendingOperation =>
    cases hs
    intro operation op hop
    cases operation <;> cases hop

/-- Every handle a run reaches from the constructor holds only asynchronous
operations. -/
theorem pendingAsync_run {a b : Action} {cs : List Call}
    (hrun : run d (init a b) cs = .ok (hd₁, done)) : hd₁.PendingAsync :=
  run_invariant _ (fun _ _ _ _ hI hs => pendingAsync_step hI hs) hrun
    (fun operation op hop => by cases operation <;> cases hop)

/-- With exactly one operation pending and a synchronous delegate,
`CompletePendingOperation` delivers one callback for the held request, and keeps
the handle. -/
theorem completePendingOperation_of_one (hI : hd.PendingAsync) (hsync : d.Synchronous)
    (hone : hd.numPendingOperations = 1) :
    ∃ operation op cb, hd.pendingOp operation = some op ∧ cb.operation = operation ∧
      cb.request = op.request ∧ cb.isSync = false ∧
      hd.completePendingOperation d = .ok (hd, [cb]) := by
  unfold completePendingOperation
  rw [if_pos (Nat.le_of_eq hone)]
  rcases hsel : hd.selectCertOp with _ | op <;> rcases hcmp : hd.computeSignatureOp with _ | op'
  · simp [numPendingOperations, hsel, hcmp] at hone
  · obtain ⟨ok, hok⟩ := runOperation_of_async .computeSignature
      (hI .computeSignature op' hcmp) hsync
    exact ⟨.computeSignature, op', _, hcmp, rfl, rfl, rfl, by simp only [hok]; rfl⟩
  all_goals
    obtain ⟨ok, hok⟩ := runOperation_of_async .selectCert (hI .selectCert op hsel) hsync
    exact ⟨.selectCert, op, _, hsel, rfl, rfl, rfl, by simp only [hok]; rfl⟩

theorem run_replicate {c : Call} {cb : Done} (hs : hd.step d c = .ok (hd, [cb])) (k : Nat) :
    run d hd (List.replicate k c) = .ok (hd, List.replicate k cb) := by
  induction k with
  | zero => rfl
  | succ k ih =>
    rw [List.replicate_succ, run_cons_of_step hs, ih]
    rfl

end Step

/-! ## Completing an operation does not release it -/

section Complete

variable {d : Delegate} {a b : Action} {calls : List Call} {hd : FakeProofSourceHandle}
  {done : List Done}

/-- After any sequence of calls that leaves one operation pending, every further
`CompletePendingOperation` delivers the same callback, for the held request, again:
the handle never changes, so `NumPendingOperations()` stays 1 and one request is
answered as often as the test completes it. -/
theorem completePendingOperation_repeats (hsync : d.Synchronous)
    (hrun : run d (init a b) calls = .ok (hd, done)) (hone : hd.numPendingOperations = 1) :
    ∃ operation op cb, hd.pendingOp operation = some op ∧ cb.operation = operation ∧
      cb.request = op.request ∧
      ∀ k, run d (init a b) (calls ++ List.replicate k .completePendingOperation) =
        .ok (hd, done ++ List.replicate k cb) := by
  obtain ⟨operation, op, cb, hop, hcbo, hcbr, -, hc⟩ :=
    completePendingOperation_of_one (pendingAsync_run hrun) hsync hone
  refine ⟨operation, op, cb, hop, hcbo, hcbr, fun k => ?_⟩
  rw [run_append hrun, run_replicate (c := .completePendingOperation) hc k]
  rfl

end Complete

end FakeProofSourceHandle

/-- A delegate that has a certificate chain and signs every request at once. -/
def syncDelegate : Delegate := ⟨fun _ => true, fun _ => some true⟩

/-- `SelectCertificate(7)` under `DELEGATE_ASYNC`, then completed twice. -/
theorem completePendingOperation_repeats_select :
    ∃ operation op cb,
      (⟨.delegateAsync, .delegateSync, some ⟨.delegateAsync, 7⟩, none⟩ :
        FakeProofSourceHandle).pendingOp operation = some op ∧
      cb.operation = operation ∧ cb.request = op.request ∧
      ∀ k, run syncDelegate (.init .delegateAsync .delegateSync)
          ([.selectCertificate 7] ++ List.replicate k .completePendingOperation) =
        .ok (⟨.delegateAsync, .delegateSync, some ⟨.delegateAsync, 7⟩, none⟩, [] ++ List.replicate k cb) :=
  FakeProofSourceHandle.completePendingOperation_repeats (fun _ => rfl) rfl rfl

example : run syncDelegate (.init .delegateAsync .delegateSync)
    [.selectCertificate 7, .completePendingOperation, .completePendingOperation] =
      .ok (⟨.delegateAsync, .delegateSync, some ⟨.delegateAsync, 7⟩, none⟩,
        [⟨.selectCert, 7, true, false⟩, ⟨.selectCert, 7, true, false⟩]) := rfl

end Quic

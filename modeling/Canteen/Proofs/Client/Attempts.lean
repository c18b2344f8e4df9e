import Canteen.Client.Link

set_option autoImplicit false

namespace Canteen.Client

open Canteen.Flow (Surroundings)
open Json (Value)

def pursue (config : ServerConfig) (call : Call) (budget : Nat) :
    Except RequestError Value → Flow (Except RequestError Value)
  | .ok payload => .done (.ok payload)
  | .error error =>
      if error.isRetryable then
        .perform (.pause config.backoffMs.toNat) fun _ => attempts config call budget
      else .done (.error error)

variable {σ : Type} {config : ServerConfig} {call : Call} {budget : Nat}
  {around : Surroundings σ} {s after : σ}

theorem attempt_exchange (config : ServerConfig) (call : Call)
    (idle : ∀ key s, (around.reply (.read key) s).2 = s) (s : σ) :
    ∃ token, (attempt config call).run around s =
      (classify (around.reply
          (.exchange (outgoing config call token) config.timeoutMs.toNat) s).1,
        (around.reply (.exchange (outgoing config call token) config.timeoutMs.toNat) s).2) := by
  obtain ⟨token, read⟩ : ∃ token, (currentToken call).run around s = (token, s) := by
    unfold currentToken
    split
    · exact ⟨_, congrArg (Prod.mk _) (idle tokenKey s)⟩
    · exact ⟨none, rfl⟩
  refine ⟨token, ?_⟩
  change ((currentToken call).bind _).run _ _ = _
  rw [Flow.run_bind, read]
  rfl

theorem attempts_succ (config : ServerConfig) (call : Call) (budget : Nat) :
    attempts config call (budget + 1) =
      (attempt config call).bind (pursue config call budget) := by
  conv => lhs; unfold attempts
  change (attempt config call).bind _ = _
  congr

theorem attempts_conclusive {result : Except RequestError Value}
    (ran : (attempt config call).run around s = (result, after))
    (final : ∀ error, result = .error error → error.isRetryable = false) :
    (attempts config call budget).run around s = (result, after) := by
  cases budget with
  | zero => exact ran
  | succ budget =>
    rw [attempts_succ, Flow.run_bind, ran]
    cases result with
    | ok payload => rfl
    | error error => simp [pursue, final error rfl, Flow.run]

theorem attempts_again {error : RequestError}
    (ran : (attempt config call).run around s = (.error error, after))
    (again : error.isRetryable = true) :
    (attempts config call (budget + 1)).run around s =
      (attempts config call budget).run around
        (around.reply (.pause config.backoffMs.toNat) after).2 := by
  rw [attempts_succ, Flow.run_bind, ran]
  simp [pursue, again, Flow.run]

end Canteen.Client

import Canteen.Proofs.Client.Attempts
import Canteen.Rehearsal.Mock

set_option autoImplicit false

namespace Canteen.Client

open Json
open Rehearsal (Answer)

structure Trial where
  request : Outgoing
  began : Nat
  ended : Nat

structure Log where
  now : Nat
  trials : List Trial := []

namespace Log

def exchange (log : Log) (request : Outgoing) (wait : Nat) : Log :=
  { now := log.now + wait
    trials := log.trials ++ [{ request, began := log.now, ended := log.now + wait }] }

theorem trials_exchange {log : Log} {request : Outgoing} {wait i : Nat} {trial : Trial}
    (found : (log.exchange request wait).trials[i]? = some trial) :
    log.trials[i]? = some trial ∨ i = log.trials.length ∧
      trial = { request, began := log.now, ended := log.now + wait } := by
  obtain earlier | last := Nat.lt_or_ge i log.trials.length
  · rw [exchange, List.getElem?_append_left earlier] at found
    exact .inl found
  · rw [exchange, List.getElem?_append_right last, List.getElem?_singleton] at found
    split at found
    · exact .inr ⟨by omega, (Option.some.inj found).symm⟩
    · cases found

def pause (log : Log) (millis : Nat) : Log := { log with now := log.now + millis }

end Log

-- The store may say something else whenever it is asked.
def scripted (script : Nat → Answer) (stored : Log → String → Cart.Lookup) :
    Flow.Surroundings Log where
  reply
    | .read key, log => (stored log key, log)
    | .write _ _, log => (.ok (), log)
    | .erase _, log => (.ok (), log)
    | .exchange request limit, log =>
        let (exchanged, wait) := (script log.trials.length).within limit
        (exchanged, log.exchange request wait)
    | .pause millis, log => ((), log.pause millis)
    | .ask _, log => (.error .closed, log)
    | .announce _, log => ((), log)

inductive Means (limit : Nat) : Answer → Except RequestError Value → Prop where
  | silent {delay : Nat} : Means limit { reply := none, delay } (.error .timeout)
  | late {reply : Except LinkError Response} {delay : Nat} (late : limit < delay) :
      Means limit { reply := some reply, delay } (.error .timeout)
  | unreachable {reason : String} {delay : Nat} (punctual : delay ≤ limit) :
      Means limit { reply := some (.error (.unreachable reason)), delay }
        (.error (.unreachable reason))
  | timedOut {delay : Nat} (punctual : delay ≤ limit) :
      Means limit { reply := some (.error .timedOut), delay } (.error .timeout)
  | accepted {status : UInt16} {body : ByteArray} {delay : Nat} (punctual : delay ≤ limit)
      (good : status < 400) :
      Means limit { reply := some (.ok { status, body }), delay }
        (.ok ((Value.ofBytes? body).getD (.object [])))
  | unauthorized {body : ByteArray} {delay : Nat} (punctual : delay ≤ limit) :
      Means limit { reply := some (.ok { status := 401, body }), delay } (.error .unauthorized)
  | rejected {status : UInt16} {body : ByteArray} {delay : Nat} (punctual : delay ≤ limit)
      (bad : 400 ≤ status) (authorized : status ≠ 401) :
      Means limit { reply := some (.ok { status, body }), delay }
        (.error (.rejected status ((Value.ofBytes? body).bind errorMessage)))

inductive Conclusive : Except RequestError Value → Prop where
  | accepted (payload : Value) : Conclusive (.ok payload)
  | unauthorized : Conclusive (.error .unauthorized)
  | refused {status : UInt16} {message : Option String} (client : status < 500) :
      Conclusive (.error (.rejected status message))

def waited (limit : Nat) (answer : Answer) : Nat :=
  match answer.reply with
  | some _ => min answer.delay limit
  | none => limit

def waits (limit : Nat) (script : Nat → Answer) : Nat → Nat
  | 0 => 0
  | count + 1 => waits limit script count + waited limit (script count)

theorem within_wait (answer : Answer) (limit : Nat) :
    (answer.within limit).2 = waited limit answer := by
  obtain ⟨reply, delay⟩ := answer
  cases reply with
  | none => rfl
  | some reply =>
    obtain late | punctual := Nat.lt_or_ge limit delay
    · simp [Answer.within, waited, Nat.not_le_of_lt late, Nat.min_eq_right (Nat.le_of_lt late)]
    · simp [Answer.within, waited, punctual]

def outcome (limit : Nat) (answer : Answer) : Except RequestError Value :=
  classify (answer.within limit).1

theorem outcome_punctual {limit delay : Nat} (punctual : delay ≤ limit)
    (reply : Except LinkError Response) :
    outcome limit { reply := some reply, delay } = classify (some reply) := by
  simp [outcome, Answer.within, punctual]

theorem outcome_late {limit delay : Nat} (late : limit < delay)
    (reply : Except LinkError Response) :
    outcome limit { reply := some reply, delay } = .error .timeout := by
  simp [outcome, Answer.within, Nat.not_le_of_lt late, classify]

theorem means_interpret {limit delay : Nat} (punctual : delay ≤ limit) (response : Response) :
    Means limit { reply := some (.ok response), delay } response.interpret := by
  obtain ⟨status, body⟩ := response
  unfold Response.interpret
  dsimp only
  split
  · rename_i unauthorized
    rw [unauthorized]
    exact .unauthorized punctual
  · rename_i authorized
    split
    · rename_i bad
      exact .rejected punctual bad authorized
    · rename_i good
      exact .accepted punctual (UInt16.not_le.mp good)

theorem means_outcome (limit : Nat) (answer : Answer) :
    Means limit answer (outcome limit answer) := by
  obtain ⟨reply, delay⟩ := answer
  cases reply with
  | none => exact .silent
  | some reply =>
    obtain late | punctual := Nat.lt_or_ge limit delay
    · rw [outcome_late late]
      exact .late late
    · rw [outcome_punctual punctual]
      cases reply with
      | ok response => exact means_interpret punctual response
      | error error =>
        cases error with
        | unreachable reason => exact .unreachable punctual
        | timedOut => exact .timedOut punctual

theorem Means.conclusive {limit : Nat} {answer : Answer} {error : RequestError}
    (means : Means limit answer (.error error)) :
    Conclusive (.error error) ↔ error.isRetryable = false := by
  constructor
  · intro conclusive
    cases conclusive with
    | unauthorized => rfl
    | refused client => exact decide_eq_false (UInt16.not_le.mpr client)
  · intro final
    cases means with
    | silent => cases final
    | late late => cases final
    | unreachable punctual => cases final
    | timedOut punctual => cases final
    | unauthorized punctual => exact .unauthorized
    | rejected punctual bad authorized =>
      exact .refused (UInt16.not_le.mp (of_decide_eq_false final))

section

variable (config : ServerConfig) (call : Call) (script : Nat → Answer)

/-- Every trial sends the request, begins when those before it and the pauses after them are over,
and lasts as long as its answer is waited for. -/
structure Punctual (start : Nat) (log : Log) : Prop where
  request : ∀ (i : Nat) (trial : Trial), log.trials[i]? = some trial →
    ∃ token, trial.request = outgoing config call token
  began : ∀ (i : Nat) (trial : Trial), log.trials[i]? = some trial →
    trial.began = start + waits config.timeoutMs.toNat script i + i * config.backoffMs.toNat
  ended : ∀ (i : Nat) (trial : Trial), log.trials[i]? = some trial →
    trial.ended = trial.began + waited config.timeoutMs.toNat (script i)

def Due (start : Nat) (log : Log) : Prop :=
  log.now = start + waits config.timeoutMs.toNat script log.trials.length +
    log.trials.length * config.backoffMs.toNat

def tried (token : Option String) (log : Log) : Log :=
  log.exchange (outgoing config call token)
    (waited config.timeoutMs.toNat (script log.trials.length))

/-- How the trials from number `first` on went, the last of them being number `last`. -/
structure Course (start budget first last : Nat) (result : Except RequestError Value)
    (after : Log) : Prop where
  started : first ≤ last
  within : last ≤ first + budget
  vain : ∀ i, first ≤ i → i < last →
    ∃ outcome, Means config.timeoutMs.toNat (script i) outcome ∧ ¬Conclusive outcome
  means : Means config.timeoutMs.toNat (script last) result
  stopped : last = first + budget ∨ Conclusive result
  count : after.trials.length = last + 1
  punctual : Punctual config call script start after
  now : after.now = start + waits config.timeoutMs.toNat script (last + 1) +
    last * config.backoffMs.toNat

theorem attempt_run (stored : Log → String → Cart.Lookup) (log : Log) :
    ∃ token result,
      (attempt config call).run (scripted script stored) log =
        (result, tried config call script token log) ∧
      Means config.timeoutMs.toNat (script log.trials.length) result := by
  have idle (key : String) (log : Log) :
      ((scripted script stored).reply (.read key) log).2 = log := rfl
  obtain ⟨token, ran⟩ := attempt_exchange config call idle log
  refine ⟨token, _, ran.trans ?_, means_outcome _ _⟩
  rw [tried, ← within_wait]
  rfl

variable {config call script} {stored : Log → String → Cart.Lookup} {start budget : Nat}

theorem Punctual.extend {log : Log} (punctual : Punctual config call script start log)
    (due : Due config script start log) (token : Option String) :
    Punctual config call script start (tried config call script token log) := by
  constructor
  · intro i trial found
    obtain earlier | ⟨rfl, rfl⟩ := Log.trials_exchange found
    · exact punctual.request i trial earlier
    · exact ⟨token, rfl⟩
  · intro i trial found
    obtain earlier | ⟨rfl, rfl⟩ := Log.trials_exchange found
    · exact punctual.began i trial earlier
    · exact due
  · intro i trial found
    obtain earlier | ⟨rfl, rfl⟩ := Log.trials_exchange found
    · exact punctual.ended i trial earlier
    · rfl

theorem Punctual.pause {log : Log} (punctual : Punctual config call script start log)
    (millis : Nat) : Punctual config call script start (log.pause millis) :=
  ⟨punctual.request, punctual.began, punctual.ended⟩

theorem Punctual.gap {log : Log} (punctual : Punctual config call script start log) {i : Nat}
    {earlier trial : Trial} (before : log.trials[i]? = some earlier)
    (found : log.trials[i + 1]? = some trial) :
    trial.began = earlier.ended + config.backoffMs.toNat := by
  rw [punctual.ended i earlier before, punctual.began i earlier before,
    punctual.began (i + 1) trial found, waits, Nat.succ_mul]
  omega

theorem Due.pause {log : Log} (due : Due config script start log) (token : Option String) :
    Due config script start
      ((tried config call script token log).pause config.backoffMs.toNat) := by
  unfold Due at due ⊢
  simp only [tried, Log.pause, Log.exchange, List.length_append, List.length_singleton, waits,
    Nat.succ_mul]
  omega

theorem Punctual.last {log : Log} (punctual : Punctual config call script start log)
    (due : Due config script start log) (token : Option String)
    {result : Except RequestError Value}
    (means : Means config.timeoutMs.toNat (script log.trials.length) result)
    (stopped : budget = 0 ∨ Conclusive result) :
    Course config call script start budget log.trials.length log.trials.length result
      (tried config call script token log) where
  started := Nat.le_refl _
  within := Nat.le_add_right _ _
  vain _ started stopped := absurd stopped (Nat.not_lt_of_le started)
  means
  stopped := stopped.imp_left fun none => by omega
  count := by simp [tried, Log.exchange]
  punctual := punctual.extend due token
  now := by
    change log.now + _ = _
    rw [due, waits]
    omega

theorem Course.again {first last : Nat} {result failed : Except RequestError Value} {after : Log}
    (course : Course config call script start budget (first + 1) last result after)
    (means : Means config.timeoutMs.toNat (script first) failed) (vain : ¬Conclusive failed) :
    Course config call script start (budget + 1) first last result after where
  started := Nat.le_of_succ_le course.started
  within := by
    have within := course.within
    omega
  vain i started stopped := by
    obtain rfl | later := Nat.eq_or_lt_of_le started
    · exact ⟨failed, means, vain⟩
    · exact course.vain i later stopped
  means := course.means
  stopped := course.stopped.imp_left fun all => by omega
  count := course.count
  punctual := course.punctual
  now := course.now

theorem attempts_run (budget : Nat) {log : Log} (punctual : Punctual config call script start log)
    (due : Due config script start log) :
    ∃ result after last,
      (attempts config call budget).run (scripted script stored) log = (result, after) ∧
      Course config call script start budget log.trials.length last result after := by
  induction budget generalizing log with
  | zero =>
    obtain ⟨token, result, ran, means⟩ := attempt_run config call script stored log
    exact ⟨_, _, _, ran, punctual.last due token means (.inl rfl)⟩
  | succ budget fewer =>
    obtain ⟨token, result, ran, means⟩ := attempt_run config call script stored log
    have last (conclusive : Conclusive result) :
        Course config call script start (budget + 1) _ _ result _ :=
      punctual.last due token means (.inr conclusive)
    cases result with
    | ok payload =>
      refine ⟨_, _, _, attempts_conclusive ran ?_, last (.accepted payload)⟩
      intro error same
      cases same
    | error error =>
      cases again : error.isRetryable with
      | false =>
        refine ⟨_, _, _, attempts_conclusive ran ?_, last (means.conclusive.mpr again)⟩
        rintro _ ⟨rfl⟩
        exact again
      | true =>
        obtain ⟨result, after, last, later, course⟩ :=
          fewer ((punctual.extend due token).pause _) (due.pause token)
        refine ⟨result, after, last, (attempts_again ran again).trans later, ?_⟩
        -- The rest is a course of its own, from the trial after this one on.
        have number : ((tried config call script token log).pause
            config.backoffMs.toNat).trials.length = log.trials.length + 1 := by
          simp [tried, Log.pause, Log.exchange]
        rw [number] at course
        apply course.again means
        intro conclusive
        rw [means.conclusive.mp conclusive] at again
        cases again

end

/-- A call is tried until an answer is conclusive or the budget is spent. What the last answer
means is the result, and the trials follow one another with nothing but the pauses between. -/
theorem send_retries (config : ServerConfig) (call : Call) (script : Nat → Answer)
    (stored : Log → String → Cart.Lookup) (start : Nat) :
    ∃ result log last,
      (send config call).run (scripted script stored) { now := start } = (result, log) ∧
      last ≤ call.retries.toNat ∧ log.trials.length = last + 1 ∧
      (∀ i < last, ∃ outcome,
        Means config.timeoutMs.toNat (script i) outcome ∧ ¬Conclusive outcome) ∧
      Means config.timeoutMs.toNat (script last) result ∧
      (last = call.retries.toNat ∨ Conclusive result) ∧
      Punctual config call script start log ∧
      (∀ (i : Nat) (earlier trial : Trial), log.trials[i]? = some earlier →
        log.trials[i + 1]? = some trial →
          trial.began = earlier.ended + config.backoffMs.toNat) ∧
      log.now = start + waits config.timeoutMs.toNat script (last + 1) +
        last * config.backoffMs.toNat := by
  have punctual : Punctual config call script start { now := start } :=
    ⟨by simp, by simp, by simp⟩
  have due : Due config script start { now := start } := by simp [Due, waits]
  obtain ⟨result, log, last, ran, course⟩ := attempts_run call.retries.toNat punctual due
  have within := course.within
  have stopped := course.stopped
  rw [List.length_nil, Nat.zero_add] at within stopped
  refine ⟨result, log, last, ran, within, course.count, ?_, course.means, stopped,
    course.punctual, ?_, course.now⟩
  · intro i earlier
    exact course.vain i (Nat.zero_le _) earlier
  · intro i earlier trial before found
    exact course.punctual.gap before found

end Canteen.Client

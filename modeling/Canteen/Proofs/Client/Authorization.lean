import Mathlib.Data.List.Basic
import Canteen.Client.Shop
import Canteen.Proofs.Client.Attempts
import Canteen.Proofs.Client.SigningIn
import Canteen.Proofs.Flow.Stored

set_option autoImplicit false

namespace Canteen.Client

open Cart (Keeper)
open Canteen.Flow (Surroundings Detached Event Happening Runs Told events heldAfter others performed)
open Json (Value)

variable {config : ServerConfig} {call : Call} {keeper final : Keeper}

theorem token?_eq_some {stored : Cart.Lookup} {token : String} :
    token? stored = some token ↔ stored = .ok (some token) ∧ token ≠ "" := by
  match stored with
  | .error reason => simp [token?]
  | .ok none => simp [token?]
  | .ok (some text) =>
    by_cases blank : text = ""
    · subst blank
      simp [token?]
    · simp only [token?, String.isEmpty_iff, if_neg blank, Option.some.injEq, Except.ok.injEq]
      constructor
      · rintro rfl
        exact ⟨rfl, blank⟩
      · exact And.left

theorem mem_headers {token : Option String} {header : Header} :
    header ∈ headers call token ↔ header = ⟨"Accept", "application/json"⟩ ∨
      (call.body.isSome = true ∧ header = ⟨"Content-Type", "application/json"⟩) ∨
      ∃ text, token = some text ∧ header = ⟨"Authorization", "Bearer " ++ text⟩ := by
  cases token <;> cases body : call.body <;> simp [headers, body]

-- What an attempt knows of the token when it sends. A call that needs none does not ask for it.
inductive Obtained (call : Call) (before : List Event) : Option String → Prop where
  | unasked (free : call.authenticated = false) : Obtained call before none
  | read (stored : Cart.Lookup) (bound : call.authenticated = true)
      (last : (performed before).getLast? = some ⟨.read tokenKey, stored⟩) :
      Obtained call before (token? stored)

theorem Obtained.prepend {before : List Event} {token : Option String}
    (obtained : Obtained call before token) (first : List Event) :
    Obtained call (first ++ before) token := by
  cases obtained with
  | unasked free => exact .unasked free
  | read stored bound last => exact .read stored bound (by simp [last])

theorem Obtained.wait {before between : List Event} {token : Option String}
    (obtained : Obtained call before token) (idle : performed between = []) :
    Obtained call (before ++ between) token := by
  cases obtained with
  | unasked free => exact .unasked free
  | read stored bound last => exact .read stored bound (by simp [idle, last])

/-- Every attempt in a run sends the same but for the token, and the token it has just read. -/
def Authorized (config : ServerConfig) (call : Call) (events : List Event) : Prop :=
  ∀ before request limit reply after,
    events = before ++ .own (.exchange request limit) reply :: after →
      ∃ token, request = outgoing config call token ∧ Obtained call before token

theorem Authorized.concat {first : List Event} {event : Event}
    (authorized : Authorized config call first)
    (sends : ∀ request limit reply, event = .own (.exchange request limit) reply →
      ∃ token, request = outgoing config call token ∧ Obtained call first token) :
    Authorized config call (first ++ [event]) := by
  intro before request limit reply after split
  obtain rfl | ⟨earlier, last, rfl⟩ := List.eq_nil_or_concat' after
  · obtain ⟨rfl, same⟩ := List.append_inj' split rfl
    exact sends request limit reply (List.cons.inj same).1
  · rw [← List.cons_append, ← List.append_assoc] at split
    exact authorized before request limit reply earlier (List.append_inj' split rfl).1

theorem authorized_of_unsent {events : List Event}
    (unsent : ∀ request limit reply, .own (.exchange request limit) reply ∉ events) :
    Authorized config call events := by
  intro before request limit reply after split
  exact absurd (split ▸ by simp) (unsent request limit reply)

theorem Authorized.append {first second : List Event} (one : Authorized config call first)
    (other : Authorized config call second) : Authorized config call (first ++ second) := by
  intro before request limit reply after split
  rcases List.append_eq_append_iff.mp split with ⟨rest, rfl, late⟩ | ⟨rest, early, tail⟩
  · obtain ⟨token, same, obtained⟩ := other rest request limit reply after late
    exact ⟨token, same, obtained.prepend first⟩
  · cases rest with
    | nil =>
      obtain ⟨token, same, obtained⟩ := other [] request limit reply after tail.symm
      refine ⟨token, same, ?_⟩
      rw [List.append_nil] at early
      simpa [early] using obtained.prepend first
    | cons event rest =>
      obtain ⟨rfl, -⟩ := List.cons.inj tail
      exact one before request limit reply rest early

section

variable {events : List Event}

theorem authorized_others (served : List (Cart.Lookup × Cart.Request)) :
    Authorized config call (others served) :=
  authorized_of_unsent (by simp [others])

theorem authorized_quiet {effect : Effect} {reply : effect.Reply} {rest : List Event}
    (before : List (Cart.Lookup × Cart.Request))
    (quiet : ∀ request limit, effect ≠ .exchange request limit)
    (authorized : Authorized config call rest) :
    Authorized config call (others before ++ .own effect reply :: rest) := by
  refine (authorized_others before).append ?_
  have silent : Authorized config call [.own effect reply] := by
    refine authorized_of_unsent fun request limit answer member => ?_
    cases List.mem_singleton.mp member
    exact quiet request limit rfl
  exact silent.append authorized

theorem currentToken_authorized {later : Flow (Option String)}
    (run : Runs (currentToken call) keeper events later final) :
    Authorized config call events ∧ ∀ token, later = .done token → Obtained call events token := by
  unfold currentToken at run
  split at run
  · rename_i bound
    change Runs (.perform (.read tokenKey) fun stored => .done (token? stored)) _ _ _ _ at run
    obtain ⟨waiting, served⟩ | ⟨before, stored, next, after, split, -, ended, -⟩ :=
      Flow.runs_once run
    · rw [served, waiting]
      exact ⟨authorized_others _, by simp⟩
    · rw [split, ended]
      refine ⟨authorized_quiet before (by simp) (authorized_others after), ?_⟩
      rintro _ ⟨⟩
      exact .read stored bound (by simp)
  · rename_i free
    obtain ⟨same, -, served⟩ := Flow.runs_done run
    rw [same, served]
    refine ⟨authorized_others _, ?_⟩
    rintro _ ⟨⟩
    exact .unasked (by simpa using free)

theorem attempt_authorized {later : Flow (Except RequestError Value)}
    (run : Runs (attempt config call) keeper events later final) :
    Authorized config call events := by
  change Runs ((currentToken call).bind fun token =>
    .perform (.exchange (outgoing config call token) config.timeoutMs.toNat) fun exchanged =>
      .done (classify exchanged)) _ _ _ _ at run
  obtain ⟨middle, moved, -⟩ | ⟨token, between, first, second, split, moved, remaining⟩ :=
    Flow.runs_bind run
  · exact (currentToken_authorized moved).1
  · obtain ⟨quiet, obtained⟩ := currentToken_authorized moved
    have known := obtained token rfl
    rw [split]
    obtain ⟨-, served⟩ | ⟨before, reply, next, after, sends, -⟩ := Flow.runs_once remaining
    · rw [served]
      exact quiet.append (authorized_others _)
    · rw [sends, List.append_cons, ← List.append_assoc, ← List.append_assoc]
      refine Authorized.append ?_ (authorized_others after)
      refine (quiet.append (authorized_others before)).concat ?_
      rintro _ _ _ ⟨⟩
      exact ⟨token, rfl, known.wait (Flow.performed_others before)⟩

theorem attempts_authorized (budget : Nat) {keeper : Keeper} {events : List Event}
    {later : Flow (Except RequestError Value)}
    (run : Runs (attempts config call budget) keeper events later final) :
    Authorized config call events := by
  induction budget generalizing keeper events with
  | zero => exact attempt_authorized run
  | succ budget ih =>
    rw [attempts_succ] at run
    obtain ⟨middle, moved, -⟩ | ⟨result, between, first, second, split, moved, remaining⟩ :=
      Flow.runs_bind run
    · exact attempt_authorized moved
    · rw [split]
      refine (attempt_authorized moved).append ?_
      cases result with
      | ok payload =>
        rw [(Flow.runs_done remaining).2.2]
        exact authorized_others _
      | error error =>
        unfold pursue at remaining
        dsimp only at remaining
        split at remaining
        · obtain ⟨-, served⟩ | ⟨before, reply, next, rest, served, -, again⟩ :=
            Flow.runs_perform remaining
          · rw [served]
            exact authorized_others _
          · rw [served]
            exact authorized_quiet before (by simp) (ih again)
        · rw [(Flow.runs_done remaining).2.2]
          exact authorized_others _

end

theorem attempts_detached (free : call.authenticated = false) (budget : Nat) :
    (attempts config call budget).Detached := by
  have once : (attempt config call).Detached := by
    have token : (currentToken call).Detached := by
      rw [currentToken, free]
      exact .done none
    exact token.bind fun _ => .perform id fun _ => .done _
  induction budget with
  | zero => exact once
  | succ budget ih =>
    rw [attempts_succ]
    refine once.bind fun result => ?_
    cases result with
    | ok payload => exact .done _
    | error error =>
      unfold pursue
      dsimp only
      split
      · exact .perform id fun _ => ih
      · exact .done _

structure Current (call : Call) (before : List Event) (token : String) : Prop where
  bound : call.authenticated = true
  read : (performed before).getLast? = some ⟨.read tokenKey, .ok (some token)⟩
  filled : token ≠ ""

theorem Obtained.eq_some {before : List Event} {found : Option String}
    (obtained : Obtained call before found) {token : String} :
    found = some token ↔ Current call before token := by
  cases obtained with
  | unasked free =>
    refine ⟨by simp, fun current => ?_⟩
    cases free.symm.trans current.bound
  | read stored bound last =>
    rw [token?_eq_some]
    constructor
    · rintro ⟨rfl, filled⟩
      exact ⟨bound, last, filled⟩
    · intro current
      obtain ⟨-, same⟩ := Sigma.mk.inj (Option.some.inj (last.symm.trans current.read))
      exact ⟨eq_of_heq same, current.filled⟩

/-- An attempt of the call, by what was done before it. -/
structure Sends (config : ServerConfig) (call : Call) (before : List Event) (request : Outgoing) :
    Prop where
  method : request.method = call.method
  url : request.url = Address.resolve config.baseUrl config.pathInset call.path
  path : request.path = call.path
  body : request.body = call.body
  reads : call.authenticated = true →
    ∃ stored, (performed before).getLast? = some ⟨.read tokenKey, stored⟩
  carries : ∀ header, header ∈ request.headers ↔
    header = ⟨"Accept", "application/json"⟩ ∨
      (call.body.isSome = true ∧ header = ⟨"Content-Type", "application/json"⟩) ∨
      ∃ token, Current call before token ∧ header = ⟨"Authorization", "Bearer " ++ token⟩
  once : (request.headers.map (·.name)).Nodup

theorem Obtained.sends {before : List Event} {token : Option String}
    (obtained : Obtained call before token) :
    Sends config call before (outgoing config call token) where
  method := rfl
  url := rfl
  path := rfl
  body := rfl
  reads bound := by
    cases obtained with
    | unasked free => cases free.symm.trans bound
    | read stored _ last => exact ⟨stored, last⟩
  carries header := by
    change header ∈ headers call token ↔ _
    rw [mem_headers]
    simp only [obtained.eq_some]
  once := by
    change ((headers call token).map (·.name)).Nodup
    cases token <;> cases body : call.body <;> simp [headers, body]

theorem Sends.carries_token {before : List Event} {request : Outgoing}
    (sends : Sends config call before request) {token : String} :
    ⟨"Authorization", "Bearer " ++ token⟩ ∈ request.headers ↔ Current call before token := by
  rw [sends.carries]
  constructor
  · rintro (other | ⟨-, other⟩ | ⟨found, current, same⟩)
    · simp at other
    · simp at other
    · simp only [Header.mk.injEq, true_and] at same
      rwa [(String.append_right_inj _).mp same]
  · exact fun current => .inr (.inr ⟨token, current, rfl⟩)

-- The last thing done by its own was to begin a pause.
def Waiting (past : List Happening) : Prop :=
  ∃ millis, (performed (events past)).getLast? = some ⟨.pause millis, ()⟩

theorem Waiting.read_later {past gap : List Happening} (waiting : Waiting past)
    {stored : Cart.Lookup}
    (last : (performed (events (past ++ gap))).getLast? = some ⟨.read tokenKey, stored⟩) :
    ∃ first second, gap = first ++ .here (.own (.read tokenKey) stored) :: second := by
  obtain ⟨millis, paused⟩ := waiting
  rw [Flow.events_append, Flow.performed_append, List.getLast?_append, paused] at last
  cases later : (performed (events gap)).getLast? with
  | none => simp [later] at last
  | some deed =>
    obtain rfl : deed = ⟨.read tokenKey, stored⟩ := by simpa [later] using last
    have member := Flow.mem_performed.mp (List.mem_of_getLast? later)
    exact List.append_of_mem (Flow.mem_events.mp member)

variable {happenings : List Happening} {later : Flow (Except RequestError Value)}

/-- What an attempt carries is decided by the one read made for it. So a token that is gone by the
end of a pause is never sent again, one that has replaced it is sent at once, and a call that needs
no token goes the same way whatever is stored. -/
theorem send_authorizes {held : String → Option String}
    (run : Runs (send config call) keeper (events happenings) later final)
    (told : Told held happenings) :
    (∀ before request limit reply after,
      events happenings = before ++ .own (.exchange request limit) reply :: after →
        Sends config call before request) ∧
      (∀ past rest token, happenings = past ++ rest → Waiting past →
        heldAfter held past tokenKey ≠ some token → .elsewhere tokenKey (some token) ∉ rest →
          ∀ request limit reply, .here (.own (.exchange request limit) reply) ∈ rest →
            ⟨"Authorization", "Bearer " ++ token⟩ ∉ request.headers) ∧
      (∀ past gap request limit reply after token,
        happenings = past ++ gap ++ .here (.own (.exchange request limit) reply) :: after →
          Waiting past → call.authenticated = true → token ≠ "" →
            heldAfter held past tokenKey = some token →
              (∀ value, .elsewhere tokenKey value ∉ gap) →
                (∀ reason, .here (.own (.read tokenKey) (.error reason)) ∉ gap) →
                  ⟨"Authorization", "Bearer " ++ token⟩ ∈ request.headers) ∧
      (call.authenticated = false → ∀ {σ : Type} {around other : Surroundings σ},
        (∀ effect s, ¬effect.OnStore → other.reply effect s = around.reply effect s) →
          ∀ s, (send config call).run other s = (send config call).run around s) := by
  have storeless := attempts_storeless config call call.retries.toNat
  have sends (before : List Event) (request : Outgoing) (limit : Nat) (reply : Exchanged)
      (after : List Event)
      (split : events happenings = before ++ .own (.exchange request limit) reply :: after) :
      Sends config call before request := by
    obtain ⟨token, rfl, obtained⟩ :=
      attempts_authorized _ run before request limit reply after split
    exact obtained.sends
  refine ⟨sends, ?_, ?_, ?_⟩
  · intro past rest token split waiting gone unheard request limit reply member carried
    obtain ⟨gap, after, rfl⟩ := List.append_of_mem member
    have sent := sends (events (past ++ gap)) request limit reply (events after)
      (by simp [split])
    obtain ⟨first, second, rfl⟩ := waiting.read_later (sent.carries_token.mp carried).read
    have stored := told (past ++ first) tokenKey (some token)
      (second ++ .here (.own (.exchange request limit) reply) :: after) (by simp [split])
    rw [Flow.heldAfter_append] at stored
    refine Flow.heldAfter_of_sets (P := (· ≠ some token)) gone ?_ stored.symm
    rintro happening early _ sets rfl
    have elsewhere := storeless.elsewhere_of_sets run (split ▸ by simp [early]) sets
    exact unheard (by simp [← elsewhere, early])
  · intro past gap request limit reply after token split waiting bound filled stands unmoved unfailed
    have sent := sends (events (past ++ gap)) request limit reply (events after)
      (by simp [split])
    obtain ⟨stored, last⟩ := sent.reads bound
    obtain ⟨first, second, rfl⟩ := waiting.read_later last
    cases stored with
    | error reason => exact absurd (by simp) (unfailed reason)
    | ok value =>
      have kept : heldAfter (heldAfter held past) first tokenKey = some token := by
        refine Flow.heldAfter_of_sets (P := (· = some token)) stands ?_
        intro happening early value sets
        have elsewhere := storeless.elsewhere_of_sets run (split ▸ by simp [early]) sets
        exact absurd (by simp [← elsewhere, early]) (unmoved value)
      obtain rfl : value = some token := by
        rw [told (past ++ first) tokenKey value _ (by simp [split]; rfl), Flow.heldAfter_append, kept]
      exact sent.carries_token.mpr ⟨bound, last, filled⟩
  · intro free σ around other agree s
    exact (attempts_detached free _).run_eq agree s

def inquiry : Call := orderCall {} "7"

def renewal : List Happening :=
  [.here (.own (.read tokenKey) (.ok (some "old"))),
    .here (.own (.exchange (outgoing {} inquiry (some "old")) 8000) none),
    .here (.own (.pause 500) ()),
    .elsewhere tokenKey (some "new"),
    .here (.own (.read tokenKey) (.ok (some "new"))),
    .here (.own (.exchange (outgoing {} inquiry (some "new")) 8000) (some (.ok receipt)))]

theorem renewal_runs :
    Runs (send {} inquiry) {} (events renewal) (.done (classify (some (.ok receipt)))) {} :=
  .own _ rfl (.own _ rfl (.own _ rfl (.own _ rfl (.own _ rfl (.stay _ _)))))

theorem renewal_told :
    Told (Function.update (fun _ => none) tokenKey (some "old")) renewal := by
  simp only [renewal, Flow.told_cons]
  refine ⟨?_, by simp, by simp, by simp, ?_, by simp, Flow.told_nil _⟩ <;>
    · rintro key value ⟨⟩
      rfl

theorem send_authorizes_renewal :
    Runs (send {} inquiry) {} (events renewal) (.done (classify (some (.ok receipt)))) {} ∧
      Told (Function.update (fun _ => none) tokenKey (some "old")) renewal ∧
      ⟨"Authorization", "Bearer new"⟩ ∈ (outgoing {} inquiry (some "new")).headers ∧
      ⟨"Authorization", "Bearer old"⟩ ∉ (outgoing {} inquiry (some "new")).headers := by
  obtain ⟨-, forgotten, renewed, -⟩ := send_authorizes renewal_runs renewal_told
  have waiting : Waiting (renewal.take 4) := ⟨500, rfl⟩
  refine ⟨renewal_runs, renewal_told, ?_, ?_⟩
  · exact renewed (renewal.take 4) [.here (.own (.read tokenKey) (.ok (some "new")))] _ _ _ []
      "new" rfl waiting rfl (by decide) rfl (by simp) (by simp)
  · exact forgotten (renewal.take 4) (renewal.drop 4) "old" rfl waiting (by decide)
      (by simp [renewal]) _ 8000 (some (.ok receipt)) (by simp [renewal])

end Canteen.Client

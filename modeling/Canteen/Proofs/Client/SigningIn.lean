import Canteen.Client.Shop
import Canteen.Proofs.Client.Placement
import Canteen.Proofs.Flow.Storing
import Canteen.Proofs.Payload.Order

set_option autoImplicit false

namespace Canteen.Client

open Canteen.Flow (Surroundings Keeps Storeless Cabinet cabinet keeps_cabinet)
open Json (Value Reader Plain)

variable {σ : Type} {config : ServerConfig} {studentId password : String}

theorem attempts_storeless (config : ServerConfig) (call : Call) (budget : Nat) :
    (attempts config call budget).Storeless := by
  have token : (currentToken call).Storeless := by
    unfold currentToken
    split
    · exact .perform id fun _ => .done _
    · exact .done _
  have once : (attempt config call).Storeless :=
    token.bind fun _ => .perform id fun _ => .done _
  induction budget with
  | zero => exact once
  | succ budget ih =>
    refine once.bind fun result => ?_
    cases result with
    | ok payload => exact .done _
    | error error =>
      dsimp only
      split
      · exact .perform id fun _ => ih
      · exact .done _

theorem fetch_storeless {α : Type} (config : ServerConfig) (what : String) (read : Reader α)
    (call : Call) : (fetch config what read call).Storeless := by
  rw [fetch_eq]
  exact (attempts_storeless config call _).bind fun _ => .done _

def admission (config : ServerConfig) (studentId password : String) :
    Flow (Except RequestError Pass) :=
  if (Text.trim studentId).isEmpty ∨ password.isEmpty then .done (.error missingCredentials)
  else fetch config "login" Payload.readPass
    (loginCall { studentId := Text.trim studentId, password })

theorem admission_storeless (config : ServerConfig) (studentId password : String) :
    (admission config studentId password).Storeless := by
  unfold admission
  split
  · exact .done _
  · exact fetch_storeless config _ _ _

theorem login_eq (config : ServerConfig) (studentId password : String) :
    login config studentId password = (admission config studentId password).bind fun
      | .error error => .done (.error (.request error))
      | .ok pass => keep pass := by
  rw [login, admission]
  by_cases blank : (Text.trim studentId).isEmpty ∨ password.isEmpty
  · rw [if_pos blank, if_pos blank]
    rfl
  · rw [if_neg blank, if_neg blank]
    change (fetch _ _ _ _).bind _ = _
    congr

theorem keep_eq (pass : Pass) :
    keep pass = .perform (.write tokenKey pass.token) fun
      | .error error => .done (.error (.store error))
      | .ok () => .perform (.write userKey (Payload.profileText pass.user)) fun
        | .error error => .done (.error (.store error))
        | .ok () => .done (.ok pass.user) := by
  unfold keep
  change Flow.perform (.write tokenKey pass.token) _ = _
  congr
  funext reply
  cases reply with
  | error error => rfl
  | ok =>
    change Flow.perform (.write userKey _) _ = _
    congr
    funext reply
    cases reply <;> rfl

variable {around : Surroundings σ} {content : σ → String → Option String} {s final : σ}
  {error : SessionError}

structure HalfKept (around : Surroundings σ) (pass : Pass) (s : σ) (reason : StoreError) :
    Prop where
  token : (around.reply (.write tokenKey pass.token) s).1 = .ok ()
  profile : (around.reply (.write userKey (Payload.profileText pass.user))
    (around.reply (.write tokenKey pass.token) s).2).1 = .error reason

theorem failed_keep_cases (keeps : Keeps around content) {pass : Pass}
    (failed : (keep pass).run around s = (.error error, final)) :
    (content final = content s ∧ ∀ reason, ¬HalfKept around pass s reason) ∨
      ∃ reason, HalfKept around pass s reason ∧ error = .store reason ∧
        content final = Function.update (content s) tokenKey (some pass.token) := by
  have first := keeps.written tokenKey pass.token s
  rw [keep_eq, Flow.run] at failed
  dsimp only at failed
  cases token : (around.reply (.write tokenKey pass.token) s).1 with
  | error reason =>
    rw [token] at failed first
    obtain ⟨-, rfl⟩ := Prod.mk.inj failed
    refine .inl ⟨first, fun _ half => ?_⟩
    cases token.symm.trans half.token
  | ok =>
    have second := keeps.written userKey (Payload.profileText pass.user)
      (around.reply (.write tokenKey pass.token) s).2
    -- The token is stored by now, whatever becomes of the profile.
    rw [token] at failed first
    dsimp only at failed
    rw [Flow.run] at failed
    dsimp only at failed
    cases profile : (around.reply (.write userKey (Payload.profileText pass.user))
        (around.reply (.write tokenKey pass.token) s).2).1 with
    | error reason =>
      rw [profile] at failed second
      obtain ⟨same, rfl⟩ := Prod.mk.inj failed
      exact .inr ⟨reason, ⟨token, profile⟩, (Except.error.inj same).symm, second.trans first⟩
    | ok =>
      rw [profile] at failed
      cases failed

theorem failed_login_cases (keeps : Keeps around content)
    (failed : (login config studentId password).run around s = (.error error, final)) :
    (∃ reason, error = .request reason ∧ content final = content s ∧
        ((admission config studentId password).run around s).1 = .error reason) ∨
      ∃ pass between, (admission config studentId password).run around s = (.ok pass, between) ∧
        content between = content s ∧ (keep pass).run around between = (.error error, final) := by
  have before := (admission_storeless config studentId password).content_run keeps s
  rw [login_eq, Flow.run_bind] at failed
  generalize (admission config studentId password).run around s = admitted at failed before
  obtain ⟨answer, between⟩ := admitted
  cases answer with
  | error reason =>
    obtain ⟨same, rfl⟩ := Prod.mk.inj failed
    exact .inl ⟨reason, (Except.error.inj same).symm, before, rfl⟩
  | ok pass => exact .inr ⟨pass, between, rfl, before, failed⟩

/-- After a login that failed, everything stored is as before, but for the token if the server had
already granted it and the store took it and then refused the profile. -/
theorem failed_login_keeps_iff (keeps : Keeps around content)
    (failed : (login config studentId password).run around s = (.error error, final)) :
    (∀ key, key ≠ tokenKey → content final key = content s key) ∧
      (content final tokenKey = content s tokenKey ↔ ∀ pass between reason,
        (admission config studentId password).run around s = (.ok pass, between) →
          HalfKept around pass between reason → content s tokenKey = some pass.token) ∧
      ∀ pass between reason,
        (admission config studentId password).run around s = (.ok pass, between) →
          HalfKept around pass between reason →
            error = .store reason ∧ content final tokenKey = some pass.token := by
  rcases failed_login_cases keeps failed with ⟨reason, -, same, refused⟩ |
    ⟨pass, between, admitted, before, unkept⟩
  · refine ⟨fun key _ => by rw [same], iff_of_true (by rw [same]) ?_, ?_⟩ <;>
      · intro pass between _ admitted
        rw [admitted] at refused
        cases refused
  · rw [admitted]
    rcases failed_keep_cases keeps unkept with ⟨same, whole⟩ | ⟨reason, half, rfl, changed⟩
    · rw [before] at same
      refine ⟨fun key _ => by rw [same], iff_of_true (by rw [same]) ?_, ?_⟩ <;>
        · rintro _ _ other ⟨⟩ half
          exact absurd half (whole other)
    · rw [before] at changed
      rw [changed]
      refine ⟨fun key other => Function.update_of_ne other _ _, ?_, ?_⟩
      · rw [Function.update_self]
        refine ⟨?_, fun kept => (kept pass between reason rfl half).symm⟩
        rintro same _ _ _ ⟨⟩ -
        exact same.symm
      · rintro _ _ other ⟨⟩ again
        refine ⟨congrArg _ (Except.error.inj (half.profile.symm.trans again.profile)), ?_⟩
        exact Function.update_self _ _ _

def asha : Profile := { studentId := "s1", name := "Asha" }
def ben : Profile := { studentId := "s100", name := "Ben" }

def grant : Value :=
  .ofFields [("access_token", .string "new"), ("user", .ofFields (Payload.profileFields ben))]

def welcome : Nat → (effect : Effect) → effect.Reply
  | _, .exchange _ _ => some (.ok (.json 200 grant))
  | _, .read _ => .ok none
  | _, .write _ _ | _, .erase _ => .ok ()
  | _, .pause _ | _, .announce _ => ()
  | _, .ask _ => .error .closed

def unwritable (key : String) : Nat → Effect → Option StoreError
  | _, .write other _ => if other = key then some (.refused "full") else none
  | _, _ => none

def crowded : Surroundings Cabinet := cabinet (unwritable userKey) welcome

def occupied : Cabinet :=
  { store := ⟨.memory [(tokenKey, "old"), (userKey, Payload.profileText asha)], trivial⟩ }

theorem admission_crowded :
    (admission {} "s100" "secret").run crowded occupied =
      (.ok { token := "new", user := ben }, { occupied with turn := 1 }) := by
  have plain : Plain Json.deepest grant := by
    have profile : Plain 126 (.ofFields (Payload.profileFields ben)) :=
      .ofFields (by simp [Payload.profileFields, Plain.string])
    exact .ofFields (by simp [profile, Plain.string])
  have answer : classify (some (.ok (.json 200 grant))) = .ok grant.sorted :=
    @Response.interpret_json 200 _ plain (by decide)
  have filled : ¬((Text.trim "s100").isEmpty ∨ "secret".isEmpty) := by decide
  have sent : (send {} (loginCall ⟨Text.trim "s100", "secret"⟩)).run crowded occupied =
      (classify (some (.ok (.json 200 grant))), { occupied with turn := 1 }) := rfl
  rw [admission, if_neg filled, fetch_eq, Flow.run_bind, sent, answer]
  rfl

def halfway : Cabinet :=
  { store := ⟨(occupied.store.val.set tokenKey "new").2, trivial⟩, turn := 3 }

theorem login_crowded :
    (login {} "s100" "secret").run crowded occupied =
      (.error (.store (.refused "full")), halfway) := by
  rw [login_eq, Flow.run_bind, admission_crowded]
  rfl

theorem failed_login_keeps_iff_crowded :
    (login {} "s100" "secret").run crowded occupied = (.error (.store (.refused "full")), halfway) ∧
      halfway.store.val.content tokenKey = some "new" ∧
      halfway.store.val.content userKey = some (Payload.profileText asha) := by
  obtain ⟨others, -, half⟩ :=
    failed_login_keeps_iff (keeps_cabinet (unwritable userKey) welcome) login_crowded
  have stored := half _ _ _ admission_crowded ⟨rfl, rfl⟩
  exact ⟨login_crowded, stored.2, others userKey (by decide)⟩

theorem half_login_stored :
    ¬∀ {σ : Type} {config : ServerConfig} {studentId password : String} {around : Surroundings σ}
      {content : σ → String → Option String} {s final : σ} {error : SessionError},
      Keeps around content →
        (login config studentId password).run around s = (.error error, final) →
          content final tokenKey = content s tokenKey ∧
            content final userKey = content s userKey := by
  intro keeps
  have same := (keeps (keeps_cabinet (unwritable userKey) welcome) login_crowded).1
  exact absurd same (by decide)

end Canteen.Client

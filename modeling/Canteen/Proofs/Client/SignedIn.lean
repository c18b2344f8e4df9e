import Canteen.Payload.Session
import Canteen.Proofs.Client.Authorization
import Canteen.Proofs.Flow.Obliging
import Canteen.Proofs.Json.Spelling

set_option autoImplicit false

namespace Canteen.Payload

open Json

theorem profileMembers?_printed (found : PartialProfile) (name text : String)
    (rest : List (List Glyph × Written)) :
    profileMembers? found ((name.toList.map glyph, .string (text.toList.map glyph)) :: rest) =
      if name = "student_id" then
        if found.studentId.isSome then none
        else profileMembers? { found with studentId := some text } rest
      else if name = "name" then
        if found.name.isSome then none
        else profileMembers? { found with name := some text } rest
      else profileMembers? found rest := by
  simp [profileMembers?, writtenString?, text?_map_glyph]

theorem profileOfText?_profileText (profile : Profile) :
    profileOfText? (profileText profile) = some profile := by
  have lists : Lists
      [("student_id".toList.map glyph, .string (profile.studentId.toList.map glyph)),
        ("name".toList.map glyph, .string (profile.name.toList.map glyph))]
      (profileFields profile) :=
    .cons ⟨rfl, spells_string _⟩ (.cons ⟨rfl, spells_string _⟩ .nil)
  rw [profileOfText?, profileText, (spells_object lists).ofText?]
  change (profileMembers? ⟨none, none⟩ _).bind _ = _
  rw [profileMembers?_printed, profileMembers?_printed]
  rfl

end Canteen.Payload

namespace Canteen.Client

open Canteen.Flow (Surroundings Keeps Obliging drawer keeps_drawer obliging_drawer)
open Json (Value Plain)

variable {σ : Type} {around : Surroundings σ} {content : σ → String → Option String} {s final : σ}
  {config : ServerConfig} {call : Call} {studentId password : String} {user : Profile}

theorem classify_eq_ok {exchanged : Exchanged} {payload : Value}
    (classified : classify exchanged = .ok payload) :
    ∃ response, exchanged = some (.ok response) ∧ response.interpret = .ok payload := by
  match exchanged, classified with
  | some (.ok response), classified => exact ⟨response, rfl, classified⟩

theorem decode_eq_ok {α : Type} {what : String} {read : Json.Reader α} {payload : Value} {a : α}
    (decoded : decode what read payload = .ok a) : read payload = .ok a := by
  unfold decode at decoded
  split at decoded
  · cases decoded
    assumption
  · cases decoded

def loginRequest (config : ServerConfig) (studentId password : String) : Outgoing :=
  outgoing config (loginCall { studentId := Text.trim studentId, password }) none

def Grants (config : ServerConfig) (studentId password : String) (around : Surroundings σ) (s : σ)
    (pass : Pass) : Prop :=
  ∃ response payload,
    (around.reply (.exchange (loginRequest config studentId password) config.timeoutMs.toNat) s).1 =
        some (.ok response) ∧
      response.interpret = .ok payload ∧ Payload.readPass payload = .ok pass

theorem grants_of_admission {pass : Pass}
    (admitted : (admission config studentId password).run around s = (.ok pass, final)) :
    Grants config studentId password around s pass := by
  rw [admission] at admitted
  split at admitted
  · cases admitted
  · rw [fetch_eq, Flow.run_bind] at admitted
    have decoded := congrArg Prod.fst admitted
    change (classify (around.reply (.exchange (loginRequest config studentId password)
      config.timeoutMs.toNat) s).1).bind (decode "login" Payload.readPass) = _ at decoded
    cases classified : classify (around.reply (.exchange (loginRequest config studentId password)
        config.timeoutMs.toNat) s).1 with
    | error error =>
      rw [classified] at decoded
      cases decoded
    | ok payload =>
      rw [classified] at decoded
      obtain ⟨response, exchanged, good⟩ := classify_eq_ok classified
      exact ⟨response, payload, exchanged, good, decode_eq_ok decoded⟩

section

variable (keeps : Keeps around content) (obliging : Obliging around)
include keeps obliging

theorem currentToken_run (bound : call.authenticated = true) (s : σ) :
    ((currentToken call).run around s).1 = token? (.ok (content s tokenKey)) := by
  rw [currentToken, if_pos bound]
  change token? (around.reply (.read tokenKey) s).1 = _
  rw [obliging.read keeps]

theorem attempt_outbox (bound : call.authenticated = true) (s : σ) :
    (attempt config call).outbox around s =
      [outgoing config call (token? (.ok (content s tokenKey)))] := by
  have silent : (currentToken call).outbox around s = [] := by
    rw [currentToken, if_pos bound]
    rfl
  change ((currentToken call).bind fun token =>
    .perform (.exchange (outgoing config call token) config.timeoutMs.toNat) fun exchanged =>
      .done (classify exchanged)).outbox around s = _
  rw [Flow.outbox_bind, silent, currentToken_run keeps obliging bound]
  rfl

theorem attempts_outbox (bound : call.authenticated = true) (budget : Nat) (s : σ) :
    ∃ count, (attempts config call budget).outbox around s =
      List.replicate (count + 1) (outgoing config call (token? (.ok (content s tokenKey)))) := by
  induction budget generalizing s with
  | zero => exact ⟨0, attempt_outbox keeps obliging bound s⟩
  | succ budget ih =>
    have kept := (attempts_storeless config call 0).content_run keeps s
    rw [attempts_succ, Flow.outbox_bind, attempt_outbox keeps obliging bound s]
    change content ((attempt config call).run around s).2 = _ at kept
    generalize (attempt config call).run around s = ran at kept
    obtain ⟨result, after⟩ := ran
    cases result with
    | ok payload => exact ⟨0, rfl⟩
    | error error =>
      unfold pursue
      dsimp only
      split
      · obtain ⟨count, more⟩ := ih (around.reply (.pause config.backoffMs.toNat) after).2
        rw [keeps.untouched after id, kept] at more
        exact ⟨count + 1, congrArg (_ :: ·) more⟩
      · exact ⟨0, rfl⟩

theorem signedIn_run (s : σ) :
    (signedIn.run around s).1 = (token? (.ok (content s tokenKey))).isSome := by
  change (token? (around.reply (.read tokenKey) s).1).isSome = _
  rw [obliging.read keeps]

theorem currentUser_run (s : σ) :
    (currentUser.run around s).1 = (content s userKey).bind Payload.profileOfText? := by
  change profile? (around.reply (.read userKey) s).1 = _
  rw [obliging.read keeps]
  cases content s userKey <;> rfl

theorem send_outbox (bound : call.authenticated = true) (s : σ) :
    (send config call).outbox around s ≠ [] ∧
      ∀ request ∈ (send config call).outbox around s,
        request = outgoing config call (token? (.ok (content s tokenKey))) := by
  obtain ⟨count, sent⟩ := attempts_outbox keeps obliging bound call.retries.toNat s
  rw [send, sent]
  refine ⟨by simp, fun request member => ?_⟩
  exact (List.mem_replicate.mp member).2

theorem keep_run (pass : Pass) (s : σ) :
    ((keep pass).run around s).1 = .ok pass.user ∧
      content ((keep pass).run around s).2 =
        Function.update (Function.update (content s) tokenKey (some pass.token)) userKey
          (some (Payload.profileText pass.user)) := by
  rw [keep_eq, Flow.run]
  dsimp only
  rw [obliging.written]
  dsimp only
  rw [Flow.run]
  dsimp only
  rw [obliging.written]
  refine ⟨rfl, ?_⟩
  rw [← obliging.content_write keeps, ← obliging.content_write keeps]
  rfl

theorem login_stores
    (entered : (login config studentId password).run around s = (.ok user, final)) :
    ∃ pass, Grants config studentId password around s pass ∧ pass.user = user ∧
      content final = Function.update (Function.update (content s) tokenKey (some pass.token))
        userKey (some (Payload.profileText user)) := by
  have before := (admission_storeless config studentId password).content_run keeps s
  rw [login_eq, Flow.run_bind] at entered
  cases admitted : (admission config studentId password).run around s with
  | mk answer between =>
    rw [admitted] at entered before
    cases answer with
    | error error => cases entered
    | ok pass =>
      obtain ⟨greeted, stored⟩ := keep_run keeps obliging pass between
      change (keep pass).run around between = _ at entered
      rw [entered] at greeted stored
      obtain rfl : user = pass.user := Except.ok.inj greeted
      exact ⟨pass, grants_of_admission admitted, rfl, before ▸ stored⟩

end

structure Usable (around : Surroundings σ) (s : σ) (pass : Pass) : Prop where
  signedIn : (signedIn.run around s).1 = true
  user : (currentUser.run around s).1 = some pass.user
  sends : ∀ (config : ServerConfig) (call : Call), call.authenticated = true →
    (send config call).outbox around s ≠ [] ∧
      ∀ request ∈ (send config call).outbox around s,
        ⟨"Authorization", "Bearer " ++ pass.token⟩ ∈ request.headers

/-- After a login, and as long as nobody changes what it stored, the customer is known by the
profile the server sent, and is signed in just if the token that came with it is not empty. -/
theorem login_usable_iff (keeps : Keeps around content) (obliging : Obliging around)
    (entered : (login config studentId password).run around s = (.ok user, final)) :
    ∃ pass, Grants config studentId password around s pass ∧ pass.user = user ∧
      ∀ later, content later tokenKey = content final tokenKey →
        content later userKey = content final userKey →
          (currentUser.run around later).1 = some user ∧
          (Usable around later pass ↔ pass.token ≠ "") ∧
          (pass.token = "" → (signedIn.run around later).1 = false ∧
            ∀ (config : ServerConfig) (call : Call), call.authenticated = true →
              ∀ request ∈ (send config call).outbox around later, ∀ value,
                ⟨"Authorization", value⟩ ∉ request.headers) := by
  obtain ⟨pass, grants, rfl, stored⟩ := login_stores keeps obliging entered
  refine ⟨pass, grants, rfl, fun later sameToken sameUser => ?_⟩
  have token : content later tokenKey = some pass.token := by
    rw [sameToken, stored, Function.update_of_ne (by decide), Function.update_self]
  have profile : content later userKey = some (Payload.profileText pass.user) := by
    rw [sameUser, stored, Function.update_self]
  have known : (currentUser.run around later).1 = some pass.user := by
    rw [currentUser_run keeps obliging, profile, Option.bind_some,
      Payload.profileOfText?_profileText]
  have answer := signedIn_run keeps obliging later
  rw [token] at answer
  have missing : token? (.ok (some "")) = none := rfl
  refine ⟨known, ⟨fun usable blank => ?_, fun filled => ?_⟩, fun blank => ?_⟩
  · rw [usable.signedIn, blank, missing] at answer
    cases answer
  · have found : token? (.ok (some pass.token)) = some pass.token :=
      token?_eq_some.mpr ⟨rfl, filled⟩
    refine ⟨by rw [answer, found]; rfl, known, fun config call bound => ?_⟩
    obtain ⟨sent, each⟩ := send_outbox keeps obliging bound later
    refine ⟨sent, fun request member => ?_⟩
    rw [each request member, token, found]
    exact mem_headers.mpr (.inr (.inr ⟨_, rfl, rfl⟩))
  · rw [blank, missing] at answer
    rw [blank] at token
    refine ⟨answer, fun config call bound request member value carried => ?_⟩
    rw [(send_outbox keeps obliging bound later).2 request member, token, missing] at carried
    change _ ∈ headers call none at carried
    obtain other | ⟨-, other⟩ | ⟨text, none, -⟩ := mem_headers.mp carried
    · simp at other
    · simp at other
    · cases none

def passValue (pass : Pass) : Value :=
  .ofFields
    [("access_token", .string pass.token), ("user", .ofFields (Payload.profileFields pass.user))]

def admitting (pass : Pass) : (effect : Effect) → effect.Reply
  | .exchange _ _ => some (.ok (.json 200 (passValue pass)))
  | .read _ => .ok none
  | .write _ _ | .erase _ => .ok ()
  | .pause _ | .announce _ => ()
  | .ask _ => .error .closed

theorem admission_admitting (pass : Pass) (entries : Store.Table String) :
    (admission {} "s100" "secret").run (drawer (admitting pass)) entries = (.ok pass, entries) := by
  have plain : Plain Json.deepest (passValue pass) := by
    have profile : Plain 126 (.ofFields (Payload.profileFields pass.user)) :=
      .ofFields (by simp [Payload.profileFields, Plain.string])
    exact .ofFields (by simp [profile, Plain.string])
  have answer : classify (some (.ok (.json 200 (passValue pass)))) = .ok (passValue pass).sorted :=
    @Response.interpret_json 200 _ plain (by decide)
  have filled : ¬((Text.trim "s100").isEmpty ∨ "secret".isEmpty) := by decide
  have sent : (send {} (loginCall ⟨Text.trim "s100", "secret"⟩)).run (drawer (admitting pass))
      entries = (classify (some (.ok (.json 200 (passValue pass)))), entries) := rfl
  rw [admission, if_neg filled, fetch_eq, Flow.run_bind, sent, answer]
  rfl

theorem login_admitting (pass : Pass) (entries : Store.Table String) :
    (login {} "s100" "secret").run (drawer (admitting pass)) entries =
      (.ok pass.user, (entries.insert tokenKey pass.token).insert userKey
        (Payload.profileText pass.user)) := by
  rw [login_eq, Flow.run_bind, admission_admitting]
  rfl

-- A name that has to be escaped in the stored profile.
def quoting : Pass := { token := "new", user := { studentId := "s100", name := "\"Ben\"\n" } }

theorem login_usable_iff_quoting :
    ∃ final pass, (login {} "s100" "secret").run (drawer (admitting quoting)) [] =
        (.ok quoting.user, final) ∧
      pass.user = quoting.user ∧ Usable (drawer (admitting quoting)) final pass := by
  obtain ⟨pass, -, same, sessions⟩ := login_usable_iff (keeps_drawer (admitting quoting))
    (obliging_drawer _) (login_admitting quoting [])
  obtain ⟨-, usable, blank⟩ := sessions _ rfl rfl
  refine ⟨_, pass, login_admitting quoting [], same, usable.mpr fun empty => ?_⟩
  have signedOut := (blank empty).1
  rw [signedIn_run (keeps_drawer _) (obliging_drawer _)] at signedOut
  revert signedOut
  decide

theorem empty_token_unusable :
    ¬∀ {σ : Type} {around : Surroundings σ} {content : σ → String → Option String} {s final : σ}
      {config : ServerConfig} {studentId password : String} {user : Profile},
      Keeps around content → Obliging around →
        (login config studentId password).run around s = (.ok user, final) →
          ∃ pass, Grants config studentId password around s pass ∧ pass.user = user ∧
            Usable around final pass := by
  intro claimed
  obtain ⟨pass, -, -, usable⟩ := claimed (keeps_drawer (admitting { token := "", user := ben }))
    (obliging_drawer _) (login_admitting { token := "", user := ben } [])
  have signedIn := usable.signedIn
  rw [signedIn_run (keeps_drawer _) (obliging_drawer _)] at signedIn
  revert signedIn
  decide

end Canteen.Client

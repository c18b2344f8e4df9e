import Canteen.Client.Link
import Canteen.Config.Document
import Canteen.Mismatch
import Canteen.Proofs.Request.Address

set_option autoImplicit false

namespace Canteen.Config

open Client (outgoing)

/-- A configuration that has been let through: the one of a document, or what the surroundings make
of any other. -/
inductive Accepted (config : Config) : Prop where
  | document (text : String) (read : ofText text = .ok config)
  | surroundings (before : Config) (lookup : String → Option String)
      (applied : before.applyEnvironment (.ofVariables lookup) = .ok config)

variable {config : Config}

theorem validate_of_ofText {text : String} (read : ofText text = .ok config) :
    config.validate = .ok () := by
  unfold ofText at read
  split at read
  · cases read
  · split at read
    · cases read
    · obtain ⟨⟨⟩, valid, rfl⟩ := map_eq_ok.mp read
      exact valid

theorem validate_of_applyEnvironment {before : Config} {environment : Environment}
    (applied : before.applyEnvironment environment = .ok config) : config.validate = .ok () := by
  simp only [applyEnvironment] at applied
  -- With a mode from the surroundings or without, the last thing done is to validate.
  split at applied
  all_goals
    obtain ⟨moded, -, rest⟩ := bind_eq_ok.mp applied
    obtain ⟨⟨⟩, valid, same⟩ := bind_eq_ok.mp rest
    cases same
    exact valid

theorem Accepted.valid (accepted : Accepted config) : config.validate = .ok () := by
  cases accepted with
  | document text read => exact validate_of_ofText read
  | surroundings before lookup applied => exact validate_of_applyEnvironment applied

-- It may still be nothing but slashes.
theorem Accepted.baseUrl_ne_nil (accepted : Accepted config) (real : config.server.mode = .real) :
    config.server.baseUrl.toList ≠ [] := by
  have solid := ((validate_eq_ok config).mp accepted.valid).1 real
  intro empty
  simp [Text.isAllBlank, empty] at solid

theorem outgoing_url_eq_iff (call : Call) (token : Option String) :
    (outgoing config.server call token).url =
        (outgoing (config.withBaseUrl "").server call token).url ↔
      Address.trimEnd config.server.baseUrl.toList = [] := by
  have bare : Address.trimEnd "".toList = [] := rfl
  simp only [outgoing, withBaseUrl, Address.resolve, String.ofList_inj, Address.resolveChars_eq_iff,
    Address.site, bare, List.nil_append, List.append_left_eq_self]

/-- A configuration for a real server that has been let through leads somewhere else than one
without a base does, except if its base is made of slashes alone: that is not a blank text, so it is
let through, but nothing is left of it in an address. -/
theorem backend_addressed_iff (accepted : Accepted config) (real : config.server.mode = .real)
    (call : Call) (token : Option String) :
    (outgoing config.server call token).url ≠
        (outgoing (config.withBaseUrl "").server call token).url ↔
      ∀ n, config.server.baseUrl.toList ≠ List.replicate (n + 1) '/' := by
  rw [ne_eq, outgoing_url_eq_iff, Address.trimEnd_eq_nil, not_exists]
  constructor
  · intro other n
    exact other (n + 1)
  · intro other n
    cases n with
    | zero => exact accepted.baseUrl_ne_nil real
    | succ n => exact other n

def liveAt (baseUrl name : String) : Option String :=
  if name = Environment.modeVariable then some "live"
  else if name = Environment.baseUrlVariable then some baseUrl
  else none

def live (baseUrl : String) : Config := { server := { mode := .real, baseUrl } }

theorem backend_addressed_iff_slashed :
    Accepted (live "//campus/") ∧ (live "//campus/").server.mode = .real ∧
      (outgoing (live "//campus/").server { method := .get, path := "/menu" } none).url ≠
        (outgoing ((live "//campus/").withBaseUrl "").server
          { method := .get, path := "/menu" } none).url := by
  have accepted : Accepted (live "//campus/") := .surroundings {} (liveAt "//campus/") (by decide)
  refine ⟨accepted, rfl, (backend_addressed_iff accepted rfl _ _).mpr ?_⟩
  intro n same
  have letter : 'c' ∈ List.replicate (n + 1) '/' := same ▸ (by decide)
  cases List.eq_of_mem_replicate letter

theorem slash_let_through :
    ofText "[api]\nmode = \"real\"\nbase_url = \"/\"\n" = .ok (live "/") ∧
      applyEnvironment {} (.ofVariables (liveAt "/")) = .ok (live "/") ∧
      (outgoing (live "/").server { method := .get, path := "/menu" } none).url = "/menu" ∧
      (outgoing ((live "/").withBaseUrl "").server { method := .get, path := "/menu" } none).url =
        "/menu" := by
  refine ⟨?_, ?_, ?_, ?_⟩
  · decide +kernel
  · decide +kernel
  · decide
  · decide

end Canteen.Config

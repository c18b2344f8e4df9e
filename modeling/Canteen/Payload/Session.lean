import Canteen.Json.Printer
import Canteen.Json.Reader

set_option autoImplicit false

namespace Canteen

structure Profile where
  studentId : String
  name : String
deriving DecidableEq, Repr

structure Credentials where
  studentId : String
  password : String
deriving DecidableEq, Repr

structure Pass where
  token : String
  user : Profile
deriving DecidableEq, Repr

namespace Payload

open Json

def userProfile : Json.Record := { name := "UserProfile", size := 2 }

def readProfile : Reader Profile :=
  userProfile.read
    (fun fields => do
      let name ← fields.field? "name" Reader.string
      let studentId ← fields.field? "student_id" Reader.string
      return {
        studentId := ← required "student_id" studentId
        name := ← required "name" name })
    (fun items => do
      return {
        studentId := ← userProfile.item items 0 Reader.string
        name := ← userProfile.item items 1 Reader.string })

def loginRequest : Json.Record := { name := "LoginRequest", size := 2 }

def readCredentials : Reader Credentials :=
  loginRequest.read
    (fun fields => do
      let password ← fields.field? "password" Reader.string
      let studentId ← fields.field? "student_id" Reader.string
      return {
        studentId := ← required "student_id" studentId
        password := ← required "password" password })
    (fun items => do
      return {
        studentId := ← loginRequest.item items 0 Reader.string
        password := ← loginRequest.item items 1 Reader.string })

def loginResponse : Json.Record := { name := "LoginResponse", size := 2 }

def readPass : Reader Pass :=
  loginResponse.read
    (fun fields => do
      let token ← fields.field? "access_token" Reader.string
      let user ← fields.field? "user" readProfile
      return {
        token := ← required "access_token" token
        user := ← required "user" user })
    (fun items => do
      return {
        token := ← loginResponse.item items 0 Reader.string
        user := ← loginResponse.item items 1 readProfile })

def profileFields (profile : Profile) : List (String × Value) :=
  [("student_id", .string profile.studentId), ("name", .string profile.name)]

def credentialsFields (credentials : Credentials) : List (String × Value) :=
  [("student_id", .string credentials.studentId), ("password", .string credentials.password)]

def profileText (profile : Profile) : String := (Value.object (profileFields profile)).text

structure PartialProfile where
  studentId : Option String
  name : Option String

def writtenString? : Written → Option String
  | .string glyphs => text? glyphs
  | _ => none

-- A repeated field is refused; nothing is asked of what stands under any other name.
def profileMembers? : PartialProfile → List (List Glyph × Written) → Option PartialProfile
  | found, [] => some found
  | found, (name, item) :: rest => do
      let name ← text? name
      if name = "student_id" then
        if found.studentId.isSome then none
        else profileMembers? { found with studentId := ← writtenString? item } rest
      else if name = "name" then
        if found.name.isSome then none
        else profileMembers? { found with name := ← writtenString? item } rest
      else profileMembers? found rest

def profileOfText? (text : String) : Option Profile := do
  match ← Written.ofText? text with
  | .object members =>
      let found ← profileMembers? ⟨none, none⟩ members
      return { studentId := ← found.studentId, name := ← found.name }
  | .array [studentId, name] =>
      return { studentId := ← writtenString? studentId, name := ← writtenString? name }
  | _ => none

end Payload

end Canteen

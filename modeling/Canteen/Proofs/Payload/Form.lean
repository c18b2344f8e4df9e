import Canteen.Payload.Menu
import Canteen.Payload.Session
import Canteen.Proofs.Json.Members
import Canteen.Proofs.Payload.Order

set_option autoImplicit false

namespace Canteen.Payload

open Json

/-- What is written as an object with one field for each part of it. -/
inductive Form where
  | record
  | request
  | menuItem
  | line
  | cartItem
  | profile
deriving DecidableEq, Repr

namespace Form

abbrev Content : Form → Type
  | record => Order.Record
  | request => Order.Request
  | menuItem => Product
  | line => Cart.Line
  | cartItem => Product
  | profile => Profile

def names : Form → List String
  | record => ["order_id", "status", "eta_minutes", "created_at"]
  | request => ["items"]
  | menuItem => ["id", "name", "price", "available"]
  | line => ["id", "name", "price", "qty", "available"]
  | cartItem => ["id", "name", "price", "available"]
  | profile => ["student_id", "name"]

def fields : (form : Form) → form.Content → List (String × Value)
  | record, content => recordFields content
  | request, content => requestFields content
  | menuItem, content => productFields content
  | line, content => lineFields content
  | cartItem, content => productFields content
  | profile, content => profileFields content

def read : (form : Form) → Reader form.Content
  | record => readOrderRecord
  | request => readOrderRequest
  | menuItem => readMenuItem
  | line => readCartLine
  | cartItem => readCartItem
  | profile => readProfile

def text (form : Form) (content : form.Content) : String :=
  (Value.object (form.fields content)).text

def orderedText (form : Form) (content : form.Content) : String :=
  (Value.ofFields (form.fields content)).text

def reread (form : Form) (text : String) : Option (Except Mismatch form.Content) :=
  (Value.ofText? text).map form.read

/-- A text of an object with the members that the form's own text has, in any order, and with others
under names that are unknown to the form. -/
structure Extends (form : Form) (content : form.Content) (added : List (List Glyph × Written))
    (text : String) : Prop where
  members : ∃ own all, Written.ofText? (form.text content) = some (.object own) ∧
    Written.ofText? text = some (.object all) ∧ all.Perm (own ++ added)
  unknown : ∀ member ∈ added, ∀ name ∈ form.names, text? member.1 ≠ some name

theorem distinct_fields (form : Form) (content : form.Content) :
    ((form.fields content).map (·.1)).Nodup := by
  cases form with
  | record =>
    obtain ⟨orderId, status, etaMinutes, createdAt⟩ := content
    cases createdAt <;> simp [fields, recordFields]
  | request => simp [fields, requestFields]
  | menuItem | cartItem => simp [fields, productFields]
  | line => simp [fields, lineFields]
  | profile => simp [fields, profileFields]

theorem sorted_fields (form : Form) (content : form.Content) :
    ∀ field ∈ form.fields content, field.2.sorted = field.2 := by
  cases form with
  | record =>
    obtain ⟨orderId, status, etaMinutes, createdAt⟩ := content
    cases createdAt <;> simp [fields, recordFields, Value.sorted, Value.nat]
  | request =>
    simp only [fields, requestFields, List.forall_mem_singleton, Value.sorted, sortedItems_eq_map,
      List.map_map]
    rfl
  | menuItem | cartItem | line | profile =>
    simp [fields, productFields, lineFields, profileFields, Value.sorted, Value.nat]

theorem plain_fields (depth : Nat) (form : Form) (content : form.Content) :
    ∀ field ∈ form.fields content, Plain (depth + 2) field.2 := by
  have narrow (n : UInt32) : n.toNat < UInt64.size := Nat.lt_trans n.toNat_lt_size (by decide)
  cases form with
  | record =>
    obtain ⟨orderId, status, etaMinutes, createdAt⟩ := content
    cases createdAt <;>
      simp [fields, recordFields, Plain.string, Plain.nat, narrow, UInt64.toNat_lt_size]
  | request =>
    have entry (entry : Order.Entry) : Plain (depth + 1) (.object (entryFields entry)) :=
      .object (by simp [entryFields, Plain.string, Plain.nat, narrow])
    simp only [fields, requestFields, List.forall_mem_singleton]
    exact .array (by simpa using fun item _ => entry item)
  | menuItem | cartItem | line | profile =>
    simp [fields, productFields, lineFields, profileFields, Plain.string, Plain.nat, Plain.bool,
      narrow, UInt64.toNat_lt_size]

def Tells (form : Form) (content : form.Content) (given : Fields) : Prop :=
  ∀ name ∈ form.names, given.get? name = Fields.get? (form.fields content) name

namespace Tells

variable {given : Fields}

theorem field {α : Type} {form : Form} {content : form.Content} {name : String} {read : Reader α}
    {value : Value} {a : α} (tells : form.Tells content given) (known : name ∈ form.names)
    (own : Fields.get? (form.fields content) name = some value) (reads : read value = .ok a) :
    given.field? name read = .ok (some a) :=
  Fields.field?_eq_ok ((tells name known).trans own) reads

theorem read_record {content : Order.Record} (tells : record.Tells content given) :
    readOrderRecord (.object given) = .ok content := by
  have said : Payload.Tells given content := by
    constructor
    · exact tells "order_id" (by simp [names])
    · exact tells "status" (by simp [names])
    · exact tells "eta_minutes" (by simp [names])
    · rw [tells "created_at" (by simp [names])]
      obtain ⟨orderId, status, etaMinutes, createdAt⟩ := content
      cases createdAt <;> rfl
  exact said.readOrderRecord_eq

theorem read_request {content : Order.Request} (tells : request.Tells content given) :
    readOrderRequest (.object given) = .ok content := by
  have items : given.field? "items" (Reader.list readEntry) = .ok (some content.items) :=
    tells.field (by simp [names]) rfl (Reader.list_array readEntry_entryFields _)
  simp only [readOrderRequest, Record.read, items]
  rfl

section

variable {content : Product}

theorem field_available (tells : cartItem.Tells content given) :
    given.field? "available" Reader.bool = .ok (some content.available) :=
  tells.field (by simp [names]) rfl rfl

theorem field_id (tells : cartItem.Tells content given) :
    given.field? "id" Reader.string = .ok (some content.id) :=
  tells.field (by simp [names]) rfl rfl

theorem field_name (tells : cartItem.Tells content given) :
    given.field? "name" Reader.string = .ok (some content.name) :=
  tells.field (by simp [names]) rfl rfl

theorem field_price (tells : cartItem.Tells content given) :
    given.field? "price" Reader.word64 = .ok (some content.price) :=
  tells.field (by simp [names]) rfl (Reader.word64_nat _)

theorem read_cartItem (tells : cartItem.Tells content given) :
    readCartItem (.object given) = .ok content := by
  simp only [readCartItem, Record.read, tells.field_available, tells.field_id, tells.field_name,
    tells.field_price]
  rfl

theorem read_menuItem (tells : menuItem.Tells content given) :
    readMenuItem (.object given) = .ok content := by
  have product : cartItem.Tells content given := tells
  simp only [readMenuItem, Record.read, product.field_available, product.field_id,
    product.field_name, product.field_price]
  rfl

end

theorem read_line {content : Cart.Line} (tells : line.Tells content given) :
    readCartLine (.object given) = .ok content := by
  have product : cartItem.Tells content.toProduct given := by
    simp only [Tells, names, List.forall_mem_cons] at tells ⊢
    obtain ⟨id, name, price, -, available, -⟩ := tells
    exact ⟨id, name, price, available, by simp⟩
  have qty : given.field? "qty" Reader.word32 = .ok (some content.qty) :=
    tells.field (by simp [names]) rfl (Reader.word32_nat _)
  simp only [readCartLine, Record.read, product.field_available, product.field_id,
    product.field_name, product.field_price, qty]
  rfl

theorem read_profile {content : Profile} (tells : profile.Tells content given) :
    readProfile (.object given) = .ok content := by
  have name : given.field? "name" Reader.string = .ok (some content.name) :=
    tells.field (by simp [names]) rfl rfl
  have studentId : given.field? "student_id" Reader.string = .ok (some content.studentId) :=
    tells.field (by simp [names]) rfl rfl
  simp only [readProfile, Record.read, name, studentId]
  rfl

theorem read_eq {form : Form} {content : form.Content} (tells : form.Tells content given) :
    form.read (.object given) = .ok content := by
  cases form with
  | record => exact tells.read_record
  | request => exact tells.read_request
  | menuItem => exact tells.read_menuItem
  | line => exact tells.read_line
  | cartItem => exact tells.read_cartItem
  | profile => exact tells.read_profile

end Tells

variable {form : Form} {content : form.Content} {text : String}

theorem tells_ofList {members : Fields}
    (same : ∀ name ∈ form.names, ∀ value,
      (name, value) ∈ members ↔ (name, value) ∈ form.fields content) :
    form.Tells content (Fields.ofList members) :=
  fun name known => Fields.get?_ofList (form.distinct_fields content) (same name known)

theorem exists_own {arranged : Fields} (order : arranged.Perm (form.fields content)) :
    ∃ own, Written.ofText? (Value.object arranged).text = some (.object own) ∧
      own.map (meaning? (deepest - 1)) = arranged.map some := by
  have conveys : ∀ field ∈ arranged, Conveys (deepest - 1) field.2 field.2.sorted :=
    fun field member => (form.plain_fields 124 content field (order.subset member)).conveys
  have ordered : sortedFields arranged = arranged :=
    sortedFields_eq_self fun field member => form.sorted_fields content field (order.subset member)
  obtain ⟨own, listed, meanings⟩ := exists_members conveys
  rw [ordered] at meanings
  exact ⟨own, (spells_object listed).ofText?, meanings⟩

theorem reread_eq {all : List (List Glyph × Written)}
    (parsed : Written.ofText? text = some (.object all)) :
    form.reread text =
      (fieldsOf? (deepest - 1) [] all).map fun fields => form.read (.object fields) := by
  have room : deepest ≠ 0 := by decide
  simp [reread, Value.ofText?, parsed, Written.value?, room]
  rfl

theorem reread_arranged {arranged : Fields} (order : arranged.Perm (form.fields content)) :
    form.reread (Value.object arranged).text = some (.ok content) := by
  obtain ⟨own, parsed, meanings⟩ := exists_own order
  have tells : form.Tells content (Fields.ofList arranged) :=
    tells_ofList fun _ _ _ => order.mem_iff
  rw [reread_eq parsed, fieldsOf?_eq_some.mpr ⟨arranged, meanings, rfl⟩]
  exact congrArg some tells.read_eq

theorem Extends.reread_eq_some {added : List (List Glyph × Written)}
    (extended : form.Extends content added text) (outcome : Except Mismatch form.Content) :
    form.reread text = some outcome ↔
      (∀ member ∈ added, Legible member) ∧ outcome = .ok content := by
  obtain ⟨⟨own, all, written, parsed, order⟩, unknown⟩ := extended
  obtain ⟨found, same, meanings⟩ := exists_own (List.Perm.refl (form.fields content))
  obtain rfl : own = found := Written.object.inj (Option.some.inj (written.symm.trans same))
  have own_legible : ∀ member ∈ own, Legible member := exists_meanings.mp ⟨_, meanings⟩
  have all_legible : (∀ member ∈ all, Legible member) ↔ ∀ member ∈ added, Legible member := by
    simp only [order.mem_iff, List.mem_append]
    exact ⟨fun each member here => each member (.inr here),
      fun each member here => here.elim (own_legible member) (each member)⟩
  -- An added member goes under none of the names that are looked up.
  have same {pairs : Fields} (read : all.map (meaning? (deepest - 1)) = pairs.map some) :
      ∀ name ∈ form.names, ∀ value,
        (name, value) ∈ pairs ↔ (name, value) ∈ form.fields content := by
    intro name known value
    rw [mem_of_meanings read, mem_of_meanings meanings]
    constructor
    · rintro ⟨member, here, means⟩
      rcases List.mem_append.mp (order.subset here) with mine | other
      · exact ⟨member, mine, means⟩
      · exact absurd (meaning?_eq_some.mp means).1 (unknown member other name known)
    · rintro ⟨member, mine, means⟩
      exact ⟨member, order.mem_iff.mpr (List.mem_append_left _ mine), means⟩
  rw [reread_eq parsed, Option.map_eq_some_iff, ← all_legible]
  constructor
  · rintro ⟨fields, read, rfl⟩
    obtain ⟨pairs, each, rfl⟩ := fieldsOf?_eq_some.mp read
    exact ⟨exists_meanings.mp ⟨pairs, each⟩, (tells_ofList (same each)).read_eq⟩
  · rintro ⟨legible, rfl⟩
    obtain ⟨pairs, each⟩ := exists_meanings.mpr legible
    exact ⟨_, fieldsOf?_eq_some.mpr ⟨pairs, each, rfl⟩, (tells_ofList (same each)).read_eq⟩

/-- What is written is read back, with the fields as they come or in order, and whatever fields are
added under other names: to the object once it has been read, or to its text, if the text can still
be read at all. -/
theorem reread_written (form : Form) (content : form.Content) :
    form.reread (form.text content) = some (.ok content) ∧
      form.reread (form.orderedText content) = some (.ok content) ∧
      (∀ added : Fields, (∀ field ∈ added, field.1 ∉ form.names) →
        form.read (.ofFields (form.fields content ++ added)) = .ok content) ∧
      ∀ added text, form.Extends content added text → ∀ outcome,
        form.reread text = some outcome ↔
          (∀ member ∈ added, Legible member) ∧ outcome = .ok content := by
  refine ⟨reread_arranged (.refl _), ?_, ?_, ?_⟩
  · exact reread_arranged (Fields.ofList_perm (form.distinct_fields content))
  · intro added unknown
    refine (tells_ofList fun name known value => ?_).read_eq
    rw [List.mem_append, or_iff_left]
    exact fun member => unknown _ member known
  · exact fun added text extended => extended.reread_eq_some

def zoe : Profile := ⟨"s100", "Zoë \"Z\" Ω"⟩

def textMember (name text : String) : List Glyph × Written :=
  (name.toList.map glyph, .string (text.toList.map glyph))

def remarked : String :=
  (Value.object [("name", .string zoe.name), ("remark", .string "n/a\t"),
    ("student_id", .string zoe.studentId)]).text

theorem extends_remarked :
    profile.Extends zoe [textMember "remark" "n/a\t"] remarked := by
  have spelled (name text : String) : (textMember name text).1 = name.toList.map glyph ∧
      Spells (textMember name text).2 (Value.string text).print :=
    ⟨rfl, spells_string text⟩
  have own : Lists [textMember "student_id" zoe.studentId, textMember "name" zoe.name]
      (profileFields zoe) :=
    .cons (spelled _ _) (.cons (spelled _ _) .nil)
  have all : Lists [textMember "name" zoe.name, textMember "remark" "n/a\t",
      textMember "student_id" zoe.studentId] [(_, .string _), (_, .string _), (_, .string _)] :=
    .cons (spelled _ _) (.cons (spelled _ _) (.cons (spelled _ _) .nil))
  have order : [textMember "name" zoe.name, textMember "remark" "n/a\t",
      textMember "student_id" zoe.studentId].Perm
        ([textMember "student_id" zoe.studentId, textMember "name" zoe.name] ++
          [textMember "remark" "n/a\t"]) :=
    ((List.Perm.swap _ _ _).cons _).trans (.swap _ _ _)
  refine ⟨⟨_, _, (spells_object own).ofText?, (spells_object all).ofText?, order⟩, ?_⟩
  have title : text? (textMember "remark" "n/a\t").1 = some "remark" := text?_map_glyph "remark"
  simp only [List.forall_mem_singleton, title, names]
  decide

theorem reread_written_remarked :
    profile.Extends zoe [textMember "remark" "n/a\t"] remarked ∧
      profile.reread remarked = some (.ok zoe) ∧
      profile.read (.ofFields (profileFields zoe ++ [("remark", .array [.null])])) = .ok zoe := by
  obtain ⟨-, -, object, extended⟩ := reread_written profile zoe
  have read : (textMember "remark" "n/a\t").2.value? (deepest - 1) = some (.string "n/a\t") := by
    rw [textMember, Written.value?, text?_map_glyph]
    rfl
  have legible : Legible (textMember "remark" "n/a\t") :=
    ⟨_, meaning?_eq_some.mpr ⟨text?_map_glyph _, read⟩⟩
  refine ⟨extends_remarked, ?_, object _ (by decide)⟩
  exact (extended _ _ extends_remarked _).mpr ⟨by simpa using legible, rfl⟩

end Form

end Canteen.Payload

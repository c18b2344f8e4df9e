import Canteen.Proofs.Json.Spelling

set_option autoImplicit false

namespace Canteen.Json

namespace Fields

theorem get?_nil (name : String) : get? [] name = none := rfl

theorem get?_cons (name other : String) (value : Value) (fields : Fields) :
    get? ((name, value) :: fields) other =
      if other = name then some value else get? fields other := by
  by_cases same : other = name
  · simp [get?, same]
  · have differ : (other == name) = false := by simpa using same
    simp [get?, List.lookup_cons, differ, same]

theorem get?_insert (name other : String) (value : Value) (fields : Fields) :
    get? (insert name value fields) other =
      if other = name then some value else get? fields other := by
  induction fields with
  | nil => rw [insert, get?_cons]
  | cons first rest ih =>
    obtain ⟨label, old⟩ := first
    rw [insert, get?_cons]
    by_cases here : name = label
    · by_cases same : other = label <;> simp [here, same, get?_cons]
    · by_cases before : name < label
      · simp [here, before, get?_cons]
      · by_cases same : other = label
        · simp [here, before, same, get?_cons, Ne.symm here]
        · simp [here, before, same, get?_cons, ih]

theorem mem_insert {name : String} {value : Value} {fields : Fields}
    {field : String × Value} (member : field ∈ insert name value fields) :
    field = (name, value) ∨ field ∈ fields := by
  induction fields with
  | nil => exact .inl (List.mem_singleton.mp member)
  | cons first rest ih =>
    obtain ⟨other, old⟩ := first
    rw [insert] at member
    split at member
    · rcases List.mem_cons.mp member with new | later
      · exact .inl new
      · exact .inr (List.mem_cons_of_mem _ later)
    split at member
    · exact List.mem_cons.mp member
    · rcases List.mem_cons.mp member with same | later
      · exact .inr (same ▸ List.mem_cons_self)
      · exact (ih later).imp_right (List.mem_cons_of_mem _)

theorem mem_foldl_insert {members fields : List (String × Value)} {field : String × Value}
    (member : field ∈ members.foldl (fun fields (name, value) => insert name value fields) fields) :
    field ∈ members ∨ field ∈ fields := by
  induction members generalizing fields with
  | nil => exact .inr member
  | cons first rest ih =>
    rcases ih member with later | earlier
    · exact .inl (List.mem_cons_of_mem _ later)
    · rcases mem_insert earlier with rfl | old
      · exact .inl List.mem_cons_self
      · exact .inr old

end Fields

mutual

def Value.sorted : Value → Value
  | .null => .null
  | .bool b => .bool b
  | .number n => .number n
  | .string s => .string s
  | .array items => .array (sortedItems items)
  | .object fields => .object (Fields.ofList (sortedFields fields))

def sortedItems : List Value → List Value
  | [] => []
  | item :: rest => item.sorted :: sortedItems rest

def sortedFields : List (String × Value) → List (String × Value)
  | [] => []
  | (name, value) :: rest => (name, value.sorted) :: sortedFields rest

end

theorem sortedItems_eq_map (items : List Value) : sortedItems items = items.map Value.sorted := by
  induction items with
  | nil => rfl
  | cons item rest ih => rw [sortedItems, ih, List.map_cons]

theorem sortedFields_eq_self {fields : List (String × Value)}
    (each : ∀ field ∈ fields, field.2.sorted = field.2) : sortedFields fields = fields := by
  induction fields with
  | nil => rfl
  | cons field rest ih =>
    obtain ⟨here, others⟩ := List.forall_mem_cons.mp each
    rw [sortedFields, here, ih others]

inductive Plain : Nat → Value → Prop where
  | null {depth : Nat} : Plain depth .null
  | bool {depth : Nat} (b : Bool) : Plain depth (.bool b)
  | integer {depth : Nat} {n : Int} (low : Int64.minValue.toInt ≤ n) (high : n ≤ largestWord) :
      Plain depth (.number (.integer n))
  | string {depth : Nat} (s : String) : Plain depth (.string s)
  | array {depth : Nat} {items : List Value} (each : ∀ item ∈ items, Plain depth item) :
      Plain (depth + 1) (.array items)
  | object {depth : Nat} {fields : List (String × Value)}
      (each : ∀ field ∈ fields, Plain depth field.2) : Plain (depth + 1) (.object fields)

theorem Plain.nat {depth n : Nat} (bound : n < UInt64.size) : Plain depth (.nat n) := by
  have negative : Int64.minValue.toInt ≤ 0 := by decide
  have room : n ≤ largestWord := Nat.le_sub_one_of_lt bound
  exact .integer (Int.le_trans negative (Int.natCast_nonneg n)) (Int.ofNat_le.mpr room)

theorem Plain.ofFields {depth : Nat} {members : List (String × Value)}
    (each : ∀ field ∈ members, Plain depth field.2) : Plain (depth + 1) (.ofFields members) := by
  refine .object fun field member => ?_
  rcases Fields.mem_foldl_insert member with found | none
  · exact each field found
  · cases none

def Conveys (depth : Nat) (value meaning : Value) : Prop :=
  ∃ tree, Spells tree value.print ∧ tree.value? depth = some meaning

theorem valuesOf?_sorted {depth : Nat} {items : List Value}
    (each : ∀ item ∈ items, Conveys depth item item.sorted) :
    ∃ trees, List.Forall₂ (fun tree item => Spells tree item.print) trees items ∧
      valuesOf? depth trees = some (sortedItems items) := by
  induction items with
  | nil => exact ⟨[], .nil, rfl⟩
  | cons item rest ih =>
    obtain ⟨⟨tree, spells, value⟩, others⟩ := List.forall_mem_cons.mp each
    obtain ⟨trees, spelled, values⟩ := ih others
    refine ⟨tree :: trees, .cons spells spelled, ?_⟩
    rw [valuesOf?, value, values]
    rfl

def meaning? (depth : Nat) (member : List Glyph × Written) : Option (String × Value) := do
  let name ← text? member.1
  let value ← member.2.value? depth
  return (name, value)

theorem meaning?_eq_some {depth : Nat} {title : List Glyph} {tree : Written} {name : String}
    {value : Value} :
    meaning? depth (title, tree) = some (name, value) ↔
      text? title = some name ∧ tree.value? depth = some value := by
  simp [meaning?, Option.bind_eq_some_iff]

theorem fieldsOf?_eq_some {depth : Nat} {known fields : Fields}
    {members : List (List Glyph × Written)} :
    fieldsOf? depth known members = some fields ↔
      ∃ pairs : Fields, members.map (meaning? depth) = pairs.map some ∧
        pairs.foldl (fun fields (name, value) => Fields.insert name value fields) known =
          fields := by
  induction members generalizing known with
  | nil => simp [fieldsOf?]
  | cons member rest ih =>
    obtain ⟨title, tree⟩ := member
    simp only [fieldsOf?, Option.bind_eq_bind, Option.bind_eq_some_iff, ih]
    constructor
    · rintro ⟨name, named, value, read, pairs, others, rfl⟩
      refine ⟨(name, value) :: pairs, ?_, rfl⟩
      rw [List.map_cons, List.map_cons, others, meaning?_eq_some.mpr ⟨named, read⟩]
    · rintro ⟨_ | ⟨⟨name, value⟩, pairs⟩, each, rfl⟩
      · cases each
      · obtain ⟨first, others⟩ := List.cons.inj each
        obtain ⟨named, read⟩ := meaning?_eq_some.mp first
        exact ⟨name, named, value, read, pairs, others, rfl⟩

theorem exists_members {depth : Nat} {fields : List (String × Value)}
    (each : ∀ field ∈ fields, Conveys depth field.2 field.2.sorted) :
    ∃ members, Lists members fields ∧
      members.map (meaning? depth) = (sortedFields fields).map some := by
  induction fields with
  | nil => exact ⟨[], .nil, rfl⟩
  | cons field rest ih =>
    obtain ⟨name, value⟩ := field
    obtain ⟨⟨tree, spells, read⟩, others⟩ := List.forall_mem_cons.mp each
    obtain ⟨members, listed, meanings⟩ := ih others
    refine ⟨(name.toList.map glyph, tree) :: members, .cons ⟨rfl, spells⟩ listed, ?_⟩
    rw [List.map_cons, meanings, meaning?_eq_some.mpr ⟨text?_map_glyph name, read⟩]
    rfl

theorem Plain.conveys {depth : Nat} {value : Value} (plain : Plain depth value) :
    Conveys depth value value.sorted := by
  induction plain with
  | null => exact ⟨.null, spells_null, rfl⟩
  | bool b => exact ⟨.bool b, spells_bool b, rfl⟩
  | integer low high =>
    refine ⟨_, spells_integer _, ?_⟩
    rw [Written.value?, value?_numeral low high]
    rfl
  | string s =>
    refine ⟨_, spells_string s, ?_⟩
    rw [Written.value?, text?_map_glyph]
    rfl
  | array each ih =>
    obtain ⟨trees, spelled, values⟩ := valuesOf?_sorted ih
    refine ⟨.array trees, spells_array spelled, ?_⟩
    simp [Written.value?, values, Value.sorted]
  | object each ih =>
    obtain ⟨members, listed, meanings⟩ := exists_members ih
    have fields : fieldsOf? _ [] members = some _ := fieldsOf?_eq_some.mpr ⟨_, meanings, rfl⟩
    refine ⟨.object members, spells_object listed, ?_⟩
    simp [Written.value?, fields, Value.sorted, Fields.ofList]

theorem ofText?_text {value : Value} (plain : Plain deepest value) :
    Value.ofText? value.text = some value.sorted := by
  obtain ⟨tree, spells, meaning⟩ := plain.conveys
  rw [Value.ofText?, spells.ofText?]
  exact meaning

end Canteen.Json

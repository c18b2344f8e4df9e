import Canteen.Proofs.Json.RoundTrip

set_option autoImplicit false

namespace Canteen.Json

namespace Fields

variable {fields known members : Fields} {name : String} {value : Value}

theorem mem_of_get? (found : fields.get? name = some value) : (name, value) ∈ fields := by
  obtain ⟨before, after, rfl, -⟩ := List.lookup_eq_some_iff.mp found
  simp

theorem get?_of_mem (distinct : (fields.map (·.1)).Nodup) (member : (name, value) ∈ fields) :
    fields.get? name = some value := by
  induction fields with
  | nil => cases member
  | cons first rest ih =>
    obtain ⟨label, old⟩ := first
    obtain ⟨absent, others⟩ := List.nodup_cons.mp distinct
    rw [get?_cons]
    rcases List.mem_cons.mp member with same | later
    · cases same
      exact if_pos rfl
    · have differ : name ≠ label := by
        rintro rfl
        exact absent (List.mem_map.mpr ⟨_, later, rfl⟩)
      rw [if_neg differ]
      exact ih others later

theorem get?_foldl_insert {expected : Option Value}
    (only : ∀ value, (name, value) ∈ members → expected = some value)
    (there : known.get? name = expected ∨ ∃ value, (name, value) ∈ members) :
    Fields.get? (members.foldl (fun fields (name, value) => insert name value fields) known) name =
      expected := by
  induction members generalizing known with
  | nil => simpa using there
  | cons first rest ih =>
    obtain ⟨label, new⟩ := first
    refine ih (fun value later => only value (List.mem_cons_of_mem _ later)) ?_
    rw [get?_insert]
    by_cases here : name = label
    · subst here
      exact .inl ((if_pos rfl).trans (only new List.mem_cons_self).symm)
    · simpa [here] using there

theorem get?_ofList (distinct : (fields.map (·.1)).Nodup)
    (same : ∀ value, (name, value) ∈ members ↔ (name, value) ∈ fields) :
    Fields.get? (ofList members) name = fields.get? name := by
  apply get?_foldl_insert
  · intro value member
    exact get?_of_mem distinct ((same value).mp member)
  · cases found : fields.get? name with
    | none => exact .inl rfl
    | some value => exact .inr ⟨value, (same value).mpr (mem_of_get? found)⟩

theorem insert_perm (absent : name ∉ fields.map (·.1)) :
    (insert name value fields).Perm ((name, value) :: fields) := by
  induction fields with
  | nil => rfl
  | cons first rest ih =>
    obtain ⟨label, old⟩ := first
    obtain ⟨differ, later⟩ := not_or.mp (mt List.mem_cons.mpr absent)
    rw [insert, if_neg differ]
    split
    · rfl
    · exact ((ih later).cons _).trans (.swap _ _ _)

theorem foldl_insert_perm (distinct : ((members ++ known).map (·.1)).Nodup) :
    (members.foldl (fun fields (name, value) => insert name value fields) known).Perm
      (members ++ known) := by
  induction members generalizing known with
  | nil => rfl
  | cons first rest ih =>
    obtain ⟨name, value⟩ := first
    rw [List.cons_append, List.map_cons, List.nodup_cons, List.map_append] at distinct
    have absent : name ∉ known.map (·.1) :=
      fun member => distinct.1 (List.mem_append_right _ member)
    have moved : (rest ++ insert name value known).Perm ((name, value) :: (rest ++ known)) :=
      ((insert_perm absent).append_left rest).trans List.perm_middle
    refine (ih ?_).trans moved
    rw [(moved.map _).nodup_iff, List.map_cons, List.nodup_cons, List.map_append]
    exact distinct

theorem ofList_perm (distinct : (members.map (·.1)).Nodup) : (ofList members).Perm members := by
  rw [← List.append_nil members] at distinct
  exact (foldl_insert_perm distinct).trans (by rw [List.append_nil])

end Fields

variable {depth : Nat} {members : List (List Glyph × Written)}

theorem mem_of_meanings {pairs : Fields} (meanings : members.map (meaning? depth) = pairs.map some)
    (pair : String × Value) : pair ∈ pairs ↔ ∃ member ∈ members, meaning? depth member = some pair := by
  rw [← List.mem_map, meanings]
  simp

-- Right inside the outermost object, the depth is one less.
def Legible (member : List Glyph × Written) : Prop := ∃ pair, meaning? (deepest - 1) member = some pair

theorem exists_meanings :
    (∃ pairs : Fields, members.map (meaning? depth) = pairs.map some) ↔
      ∀ member ∈ members, ∃ pair, meaning? depth member = some pair := by
  induction members with
  | nil => exact ⟨by simp, fun _ => ⟨[], rfl⟩⟩
  | cons first rest ih =>
    rw [List.forall_mem_cons, ← ih]
    constructor
    · rintro ⟨_ | ⟨pair, pairs⟩, each⟩
      · cases each
      · obtain ⟨here, others⟩ := List.cons.inj each
        exact ⟨⟨pair, here⟩, pairs, others⟩
    · rintro ⟨⟨pair, here⟩, pairs, others⟩
      exact ⟨pair :: pairs, by rw [List.map_cons, List.map_cons, here, others]⟩

end Canteen.Json

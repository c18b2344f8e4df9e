import Mathlib.Data.List.Forall2
import Mathlib.Tactic.NormNum
import Canteen.Proofs.Binary64.Exact
import Canteen.Proofs.Cart.NormalForm

set_option autoImplicit false

namespace Canteen.Cart

open Json

theorem ids_firsts (lines : List Line) :
    (firsts lines).map (·.id) = (lines.map (·.id)).eraseDups := by
  induction lines using List.reverseRecOn with
  | nil => rfl
  | append_singleton lines line ih =>
    rw [firsts_concat, List.map_append, List.eraseDups_append, ← ih]
    by_cases known : line.id ∈ lines.map (·.id)
    · rw [if_pos known]
      simp_all [List.removeAll]
    · rw [if_neg known]
      simp_all [List.removeAll, List.eraseDups_cons]

theorem find?_of_mem_firsts {lines : List Line} {line : Line} (member : line ∈ firsts lines) :
    lines.find? (·.id = line.id) = some line := by
  induction lines with
  | nil => cases member
  | cons first rest ih =>
    rcases List.mem_cons.mp member with rfl | later
    · simp
    · obtain ⟨earlier, differ⟩ := List.mem_filter.mp later
      have other : first.id ≠ line.id := Ne.symm (by simpa using differ)
      simp [other, ih earlier]

namespace Snapshot

/-- What one entry says, its amounts as exact numbers. -/
structure Slip where
  id : String
  qty : ℚ
  name : String
  price : ℚ
  available : Bool

/-- A field that is missing or of another kind has its default. -/
inductive Given {α : Type} (kind : Value → α → Prop) (default : α) : Option Value → α → Prop where
  | there {value : Value} {content : α} :
      kind value content → Given kind default (some value) content
  | missing {found : Option Value} :
      (∀ value ∈ found, ∀ content, ¬kind value content) → Given kind default found default

def IsText (value : Value) (text : String) : Prop := value = .string text

def IsFlag (value : Value) (flag : Bool) : Prop := value = .bool flag

def IsAmount (value : Value) (amount : ℚ) : Prop :=
  ∃ n, value = .number n ∧ n.toDouble.toRat = amount ∧ 0 ≤ amount

structure Slip.Reads (slip : Slip) (entry : Value) : Prop where
  id : ∃ value, entry.field? "id" = some value ∧ IsText value slip.id
  qty : ∃ value, entry.field? "qty" = some value ∧ IsAmount value slip.qty
  name : Given IsText "" (entry.field? "name") slip.name
  price : Given IsAmount 0 (entry.field? "price") slip.price
  available : Given IsFlag true (entry.field? "available") slip.available

def Acceptable (entry : Value) : Prop :=
  ∃ fields id value qty, entry = .object fields ∧ Fields.get? fields "id" = some (.string id) ∧
    Fields.get? fields "qty" = some value ∧ IsAmount value qty

def Slip.line (slip : Slip) : Line where
  id := slip.id
  name := slip.name
  price := capped64 ⌊slip.price + 1 / 2⌋₊
  qty := capped32 ⌊slip.qty⌋₊
  available := slip.available

variable {α : Type} {kind : Value → α → Prop} {default : α}

theorem Given.exists (kind : Value → α → Prop) (default : α) (found : Option Value) :
    ∃ content, Given kind default found content := by
  by_cases there : ∃ value ∈ found, ∃ content, kind value content
  · obtain ⟨value, rfl, content, is⟩ := there
    exact ⟨content, .there is⟩
  · push Not at there
    exact ⟨default, .missing there⟩

theorem Given.getD {read : Value → Option α}
    (reads : ∀ value content, read value = some content ↔ kind value content)
    {found : Option Value} {content : α} (given : Given kind default found content) :
    (found.bind read).getD default = content := by
  cases given with
  | there is => simp [(reads _ _).mpr is]
  | missing other =>
    have nothing : found.bind read = none := by
      rw [Option.bind_eq_none_iff]
      intro value present
      exact Option.eq_none_iff_forall_ne_some.mpr fun content is =>
        other value present content ((reads value content).mp is)
    rw [nothing]
    rfl

theorem string?_iff (value : Value) (text : String) :
    value.string? = some text ↔ IsText value text := by
  cases value <;> simp [Value.string?, IsText]

theorem number?_iff (value : Value) (n : Number) : value.number? = some n ↔ value = .number n := by
  cases value <;> simp [Value.number?]

theorem bool?_iff (value : Value) (flag : Bool) : value.bool? = some flag ↔ IsFlag value flag := by
  cases value <;> simp [Value.bool?, IsFlag]

-- A number that is not below zero, exactly.
def amount? (value : Value) : Option ℚ := do
  let n ← value.number?
  if n.toDouble.isBelowZero then none else some n.toDouble.toRat

theorem amount?_iff (value : Value) (amount : ℚ) :
    amount? value = some amount ↔ IsAmount value amount := by
  cases value with
  | number n =>
    simp only [amount?, Value.number?, IsAmount, Option.bind_eq_bind, Option.bind_some,
      Option.ite_none_left_eq_some, Bool.not_eq_true, Binary64.isBelowZero_eq_false_iff,
      Option.some.injEq, Value.number.injEq, exists_eq_left']
    constructor
    · rintro ⟨unsigned, rfl⟩
      exact ⟨rfl, unsigned⟩
    · rintro ⟨rfl, unsigned⟩
      exact ⟨unsigned, rfl⟩
  | _ => simp [amount?, Value.number?, IsAmount]

theorem price_eq (found : Option Value) :
    price found = capped64 ⌊(found.bind amount?).getD 0 + 1 / 2⌋₊ := by
  have nothing : capped64 ⌊(0 : ℚ) + 1 / 2⌋₊ = 0 := by
    rw [Nat.floor_eq_zero.mpr (by norm_num)]
    rfl
  cases found with
  | none => exact nothing.symm
  | some value =>
    cases value with
    | number n =>
      cases below : n.toDouble.isBelowZero with
      | true => simpa [price, amount?, Value.number?, below] using nothing.symm
      | false =>
        have unsigned := (Binary64.isBelowZero_eq_false_iff _).mp below
        simp [price, amount?, Value.number?, below, Binary64.round_eq unsigned]
    | _ => exact nothing.symm

variable {slip : Slip} {slips : List Slip} {entry : Value} {entries : List Value}

theorem line?_of_reads (reads : slip.Reads entry) : line? entry = some slip.line := by
  obtain ⟨_, id, rfl⟩ := reads.id
  obtain ⟨_, qty, n, rfl, precise, unsigned⟩ := reads.qty
  rw [← precise, ← Binary64.isBelowZero_eq_false_iff] at unsigned
  have name := reads.name.getD string?_iff
  have available := reads.available.getD bool?_iff
  have floor : n.toDouble.floor = ⌊slip.qty⌋₊ := by
    rw [Binary64.floor_eq ((Binary64.isBelowZero_eq_false_iff _).mp unsigned), precise]
  have price : price (entry.field? "price") = capped64 ⌊slip.price + 1 / 2⌋₊ := by
    rw [price_eq, reads.price.getD amount?_iff]
  simp only [line?, id, qty, Option.bind_eq_bind, Option.bind_some, Value.string?, Value.number?,
    unsigned, Bool.false_eq_true, if_false, name, available, price, floor]
  rfl

theorem Acceptable.reads (acceptable : Acceptable entry) : ∃ slip : Slip, slip.Reads entry := by
  obtain ⟨fields, id, value, qty, rfl, named, counted, is⟩ := acceptable
  obtain ⟨name, called⟩ := Given.exists IsText "" (Fields.get? fields "name")
  obtain ⟨price, priced⟩ := Given.exists IsAmount 0 (Fields.get? fields "price")
  obtain ⟨available, offered⟩ := Given.exists IsFlag true (Fields.get? fields "available")
  exact ⟨⟨id, qty, name, price, available⟩, ⟨_, named, rfl⟩, ⟨value, counted, is⟩, called, priced,
    offered⟩

theorem acceptable_of_line? {line : Line} (read : line? entry = some line) : Acceptable entry := by
  cases entry with
  | object fields =>
    simp only [line?, Option.bind_eq_bind, Option.bind_eq_some_iff, string?_iff, number?_iff,
      Option.ite_none_left_eq_some, Bool.not_eq_true, Binary64.isBelowZero_eq_false_iff] at read
    obtain ⟨_, named, id, rfl, value, counted, n, number, unsigned, -⟩ := read
    exact ⟨fields, id, value, _, rfl, named, counted, n, number, rfl, unsigned⟩
  | _ => simp [line?, Value.field?] at read

theorem mapM_line?_iff {lines : List Line} :
    entries.mapM line? = some lines ↔
      List.Forall₂ (fun entry line => line? entry = some line) entries lines := by
  induction entries generalizing lines with
  | nil => cases lines <;> simp
  | cons entry rest ih =>
    cases head : line? entry with
    | none => cases lines <;> simp [head]
    | some line =>
      cases tail : rest.mapM line? with
      | none => cases lines <;> simp [head, tail, ← ih]
      | some later => cases lines <;> simp [head, tail, ← ih]

theorem mapM_line?_of_reads (read : List.Forall₂ Slip.Reads slips entries) :
    entries.mapM line? = some (slips.map Slip.line) := by
  rw [mapM_line?_iff, List.forall₂_map_right_iff]
  exact read.flip.imp fun _ _ => line?_of_reads

theorem exists_slips (acceptable : ∀ entry ∈ entries, Acceptable entry) :
    ∃ slips, List.Forall₂ Slip.Reads slips entries := by
  induction entries with
  | nil => exact ⟨[], .nil⟩
  | cons entry rest ih =>
    obtain ⟨slip, first⟩ := (acceptable entry List.mem_cons_self).reads
    obtain ⟨slips, later⟩ := ih fun other member => acceptable other (List.mem_cons_of_mem _ member)
    exact ⟨slip :: slips, .cons first later⟩

/-- Lines that are what the slips come to, each id once. -/
structure SumsUp (slips : List Slip) (lines : List Line) : Prop where
  ids : lines.map (·.id) = ((slips.filter fun slip => 1 ≤ ⌊slip.qty⌋₊).map (·.id)).eraseDups
  words : ∀ line ∈ lines, ∃ slip,
    slips.find? (fun slip => 1 ≤ ⌊slip.qty⌋₊ ∧ slip.id = line.id) = some slip ∧
      line.name = slip.name ∧ line.available = slip.available ∧
      line.price.toNat = min ⌊slip.price + 1 / 2⌋₊ (UInt64.size - 1)
  qty : ∀ line ∈ lines, line.qty.toNat =
    min ((slips.filter (·.id = line.id)).map fun slip => min ⌊slip.qty⌋₊ (UInt32.size - 1)).sum
      (UInt32.size - 1)

theorem dropEmpty_slips (slips : List Slip) :
    dropEmpty (slips.map Slip.line) = (slips.filter fun slip => 1 ≤ ⌊slip.qty⌋₊).map Slip.line := by
  have filled (slip : Slip) : 0 < slip.line.qty ↔ 1 ≤ ⌊slip.qty⌋₊ := by
    rw [UInt32.lt_iff_toNat_lt, Slip.line, toNat_capped32, UInt32.toNat_zero]
    simp only [UInt32.size]
    omega
  rw [dropEmpty, List.filter_map]
  congr 2
  funext slip
  exact decide_eq_decide.mpr (filled slip)

theorem units_slips (slips : List Slip) (id : String) :
    (orderRequest (slips.map Slip.line)).units id =
      ((slips.filter (·.id = id)).map fun slip => min ⌊slip.qty⌋₊ (UInt32.size - 1)).sum := by
  induction slips with
  | nil => rfl
  | cons slip rest ih =>
    change Order.Request.units ⟨_ :: (orderRequest (rest.map Slip.line)).items⟩ id = _
    rw [units_cons, ih]
    by_cases same : slip.id = id
    · simp [same, Slip.line, toNat_capped32]
    · simp [same, Slip.line]

theorem sumsUp_normalForm (slips : List Slip) :
    SumsUp slips (normalForm (slips.map Slip.line)) where
  ids := by
    have kept : (normalForm (slips.map Slip.line)).map (·.id) =
        (firsts (dropEmpty (slips.map Slip.line))).map (·.id) := by
      rw [normalForm, List.map_map]
      rfl
    rw [kept, ids_firsts, dropEmpty_slips, List.map_map]
    rfl
  words := by
    intro line member
    obtain ⟨first, among, rfl⟩ := List.mem_map.mp member
    have found := find?_of_mem_firsts among
    rw [dropEmpty_slips, List.find?_map, List.find?_filter] at found
    obtain ⟨slip, found, rfl⟩ := Option.map_eq_some_iff.mp found
    refine ⟨slip, ?_, rfl, rfl, toNat_capped64 _⟩
    simp only [decide_eq_true_eq, Function.comp_apply] at found
    exact found
  qty := by
    intro line member
    obtain ⟨first, -, rfl⟩ := List.mem_map.mp member
    rw [toNat_capped32, units_slips]

/-- The whole snapshot is read, or nothing of it. -/
theorem decode_reads (raw : String) :
    (∀ entries, Value.ofText? raw = some (.array entries) →
      (∀ entry ∈ entries, Acceptable entry) →
      ∃ slips, List.Forall₂ Slip.Reads slips entries ∧ SumsUp slips (decode raw)) ∧
    ((¬∃ entries, Value.ofText? raw = some (.array entries) ∧
      ∀ entry ∈ entries, Acceptable entry) → decode raw = []) := by
  constructor
  · intro entries parsed acceptable
    obtain ⟨slips, read⟩ := exists_slips acceptable
    refine ⟨slips, read, ?_⟩
    have same : decode raw = normalForm (slips.map Slip.line) := by
      simp only [decode, parsed, ofEntries?, mapM_line?_of_reads read, Option.map_some,
        Option.getD_some, foldl_merge]
    rw [same]
    exact sumsUp_normalForm slips
  · intro unacceptable
    unfold decode
    split
    · rename_i entries parsed
      cases read : entries.mapM line? with
      | none => simp [ofEntries?, read]
      | some lines =>
        have pairs := (mapM_line?_iff.mp read).imp fun _ _ read =>
          And.intro (acceptable_of_line? read) read
        exact absurd ⟨entries, parsed, ((List.forall₂_and_left _ _).mp pairs).1⟩ unacceptable
    · rfl

-- The first "a" is half a unit, which is none, so "b" goes first; the second is more than fits.
def untidy : String :=
  "[\x7b\"id\":\"a\",\"qty\":0.5,\"name\":\"Apple\"\x7d," ++
    "\x7b\"id\":\"b\",\"qty\":2.9,\"price\":10.5\x7d," ++
    "\x7b\"id\":\"a\",\"qty\":5e9,\"price\":-3\x7d," ++
    "\x7b\"id\":\"b\",\"qty\":1,\"available\":false\x7d]"

def tidied : List Line :=
  [{ id := "b", name := "", price := 11, available := true, qty := 3 },
    { id := "a", name := "", price := 0, available := true, qty := 4294967295 }]

theorem decode_untidy : decode untidy = tidied := by
  decide +kernel

theorem decode_reads_untidy :
    ∃ entries slips, Value.ofText? untidy = some (.array entries) ∧
      (∀ entry ∈ entries, Acceptable entry) ∧ List.Forall₂ Slip.Reads slips entries ∧
      SumsUp slips tidied := by
  obtain ⟨whole, nothing⟩ := decode_reads untidy
  have accepted := not_imp_comm.mp nothing (by rw [decode_untidy]; exact List.cons_ne_nil _ _)
  obtain ⟨entries, parsed, acceptable⟩ := accepted
  obtain ⟨slips, read, sums⟩ := whole entries parsed acceptable
  rw [decode_untidy] at sums
  exact ⟨entries, slips, parsed, acceptable, read, sums⟩

end Snapshot

end Canteen.Cart

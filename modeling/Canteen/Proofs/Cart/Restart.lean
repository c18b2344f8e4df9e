import Mathlib.Data.List.Forall2
import Canteen.Proofs.Json.RoundTrip
import Canteen.Proofs.Json.Precision
import Canteen.Proofs.Cart.NormalForm

set_option autoImplicit false

namespace Canteen.Cart

open Json Binary64

variable {lines : List Line} {line : Line}

def Line.reprice (f : UInt64 → UInt64) (line : Line) : Line := { line with price := f line.price }

theorem firsts_reprice (f : UInt64 → UInt64) (lines : List Line) :
    firsts (lines.map (·.reprice f)) = (firsts lines).map (·.reprice f) := by
  induction lines with
  | nil => rfl
  | cons line rest ih =>
    rw [List.map_cons, firsts, ih, firsts, List.map_cons, List.filter_map]
    rfl

theorem normalForm_reprice (f : UInt64 → UInt64) (lines : List Line) :
    normalForm (lines.map (·.reprice f)) = (normalForm lines).map (·.reprice f) := by
  have order : orderRequest (lines.map (·.reprice f)) = orderRequest lines := by
    simp only [orderRequest, List.map_map]
    rfl
  have filled : dropEmpty (lines.map (·.reprice f)) = (dropEmpty lines).map (·.reprice f) :=
    List.filter_map
  rw [normalForm, order, filled, firsts_reprice, normalForm, List.map_map, List.map_map]
  rfl

namespace Snapshot

def restoredPrice (price : UInt64) : UInt64 := capped64 (nearestWhole price.toNat)

theorem plain_entry {depth : Nat} (line : Line) :
    Plain (depth + 1) (.object (Payload.lineFields line)) := by
  have small : line.qty.toNat < UInt64.size := line.qty.toNat_lt_size.trans (by decide)
  refine .object ?_
  simp only [Payload.lineFields, List.forall_mem_cons]
  exact ⟨.string _, .string _, .nat line.price.toNat_lt_size, .nat small, .bool _, by simp⟩

theorem line?_entry (line : Line) :
    line? (Value.object (Payload.lineFields line)).sorted = some (line.reprice restoredPrice) := by
  have field (name : String) :
      (Value.object (Payload.lineFields line)).sorted.field? name =
        if name = "available" then some (.bool line.available)
        else if name = "qty" then some (.nat line.qty.toNat)
        else if name = "price" then some (.nat line.price.toNat)
        else if name = "name" then some (.string line.name)
        else if name = "id" then some (.string line.id) else none := by
    simp [Value.sorted, sortedFields, Payload.lineFields, Value.field?, Fields.ofList,
      Fields.get?_insert, Fields.get?_nil, Value.nat]
  have bound : line.qty.toNat < UInt64.size := line.qty.toNat_lt_size.trans (by decide)
  obtain ⟨unsigned, whole⟩ := Number.toDouble_nat bound
  -- A quantity has room in a double, so that nothing is rounded.
  have exact : nearestWhole line.qty.toNat = line.qty.toNat :=
    (nearestWhole_eq_iff _).mpr (isDouble_of_lt (line.qty.toNat_lt_size.trans (by decide)))
  obtain ⟨notBelow, money⟩ := Number.toDouble_nat line.price.toNat_lt_size
  simp only [line?, field, price]
  simp [Value.string?, Value.number?, Value.bool?, Value.nat, unsigned, whole.floor_eq, exact,
    capped32_toNat, notBelow, money.round_eq, Line.reprice, restoredPrice]

theorem ofEntries?_sorted (lines : List Line) :
    ofEntries? (sortedItems (lines.map fun line => .object (Payload.lineFields line))) =
      some ((normalForm lines).map (·.reprice restoredPrice)) := by
  have entry : line? ∘ Value.sorted ∘ (fun line => .object (Payload.lineFields line)) =
      fun line => pure (line.reprice restoredPrice) := funext line?_entry
  rw [ofEntries?, sortedItems_eq_map, List.map_map, List.mapM_map, entry, List.mapM_pure]
  exact congrArg some ((foldl_merge _).trans (normalForm_reprice _ _))

theorem decode_encode (lines : List Line) :
    decode (encode lines) = (normalForm lines).map (·.reprice restoredPrice) := by
  have plain : Plain deepest
      (.array (lines.map fun line => .object (Payload.lineFields line))) := by
    refine .array fun item member => ?_
    obtain ⟨line, -, rfl⟩ := List.mem_map.mp member
    exact plain_entry line
  rw [decode, encode, ofText?_text plain]
  change (ofEntries? (sortedItems _)).getD [] = _
  rw [ofEntries?_sorted]
  rfl

theorem decode_encode_of_proper (proper : Proper lines) :
    decode (encode lines) = lines.map (·.reprice restoredPrice) := by
  rw [decode_encode, normalForm_of_proper proper]

def Survives (price : UInt64) : Prop := IsDouble price.toNat ∨ price.toNat = UInt64.size - 1

theorem restoredPrice_eq_iff (price : UInt64) : restoredPrice price = price ↔ Survives price := by
  have bound := price.toNat_lt_size
  rw [← UInt64.toNat_inj, restoredPrice, toNat_capped64, Survives, ← nearestWhole_eq_iff]
  constructor
  · intro same
    omega
  · rintro (same | largest)
    · rw [same]
      omega
    · -- The double nearest to the largest word is the power of two above it.
      have above : nearestWhole (UInt64.size - 1) = UInt64.size := by decide +kernel
      rw [largest, above]
      rfl

theorem survives_capped64 {n : Nat} (double : IsDouble n) : Survives (capped64 n) := by
  rw [Survives, toNat_capped64]
  rcases Nat.le_total n (UInt64.size - 1) with fits | beyond
  · exact .inl (by rwa [Nat.min_eq_left fits])
  · exact .inr (Nat.min_eq_right beyond)

theorem survives_price {value : Option Value} (short : ∀ found ∈ value, found.Short) :
    Survives (price value) := by
  have zero : Survives 0 := .inl (isDouble_of_lt (by decide))
  rw [price]
  split
  · rename_i n found
    obtain ⟨number, same, read⟩ := Option.bind_eq_some_iff.mp found
    split
    · exact zero
    · have precise := short number same
      cases precise <;> cases read
      rename_i precise
      exact survives_capped64 (isDouble_round precise)
  · exact zero

theorem survives_line? {entry : Value} (short : entry.Short) (found : line? entry = some line) :
    Survives line.price := by
  simp only [line?, Option.bind_eq_bind, Option.bind_eq_some_iff, Option.pure_def] at found
  obtain ⟨_, -, _, -, _, -, _, -, found⟩ := found
  obtain ⟨-, ⟨⟩⟩ := Option.ite_none_left_eq_some.mp found
  exact survives_price fun _ present => short.field? present

theorem survives_mapM {entries : List Value} (short : ∀ entry ∈ entries, entry.Short)
    (read : entries.mapM line? = some lines) : ∀ line ∈ lines, Survives line.price := by
  induction entries generalizing lines with
  | nil =>
    cases read
    simp
  | cons entry rest ih =>
    rw [List.forall_mem_cons] at short
    simp only [List.mapM_cons, Option.bind_eq_bind, Option.bind_eq_some_iff] at read
    obtain ⟨line, first, others, more, ⟨⟩⟩ := read
    exact List.forall_mem_cons.mpr ⟨survives_line? short.1 first, ih short.2 more⟩

theorem survives_normalForm (survives : ∀ line ∈ lines, Survives line.price) :
    ∀ line ∈ normalForm lines, Survives line.price := by
  intro line member
  obtain ⟨first, kept, rfl⟩ := List.mem_map.mp member
  exact survives first (mem_dropEmpty.mp (mem_of_mem_firsts kept)).1

theorem survives_decode (raw : String) : ∀ line ∈ decode raw, Survives line.price := by
  unfold decode
  split
  · rename_i entries found
    cases Value.short_ofText? found with
    | array short =>
      rw [ofEntries?]
      cases read : entries.mapM line? with
      | none => simp
      | some lines =>
        rw [Option.map_some, Option.getD_some, foldl_merge]
        exact survives_normalForm (survives_mapM short read)
  · simp

theorem reprice_eq_self (survives : ∀ line ∈ lines, Survives line.price) :
    lines.map (·.reprice restoredPrice) = lines := by
  conv_rhs => rw [← List.map_id lines]
  apply List.map_congr_left
  intro line member
  rw [Line.reprice, (restoredPrice_eq_iff _).mpr (survives line member)]
  rfl

def unpriced (line : Line) : Line := line.reprice fun _ => 0

/-- A restart leaves everything but the prices of a cart in its normal form as it is. -/
theorem restart_keeps_unpriced (lines : List Line) :
    (decode (encode lines)).map unpriced = (normalForm lines).map unpriced ∧
      (Proper lines → (decode (encode lines)).map unpriced = lines.map unpriced) := by
  have same : (decode (encode lines)).map unpriced = (normalForm lines).map unpriced := by
    rw [decode_encode, List.map_map]
    rfl
  refine ⟨same, fun proper => ?_⟩
  rw [same, normalForm_of_proper proper]

def teas : List Line :=
  [{ Tally.tea with qty := 0 }, { Tally.tea with qty := 4294967295 },
    { Tally.tea with name := "Green tea", qty := 2 }]

theorem restart_keeps_unpriced_teas :
    (decode (encode teas)).map (fun line => (line.name, line.qty)) = [("Tea", 4294967295)] ∧
      Proper [{ Tally.tea with qty := 2 }] ∧
      (decode (encode [{ Tally.tea with qty := 2 }])).map unpriced =
        [unpriced { Tally.tea with qty := 2 }] := by
  have proper : Proper [{ Tally.tea with qty := 2 }] := ⟨by decide, by decide⟩
  refine ⟨?_, proper, (restart_keeps_unpriced _).2 proper⟩
  have words := congrArg (List.map fun line => (line.name, line.qty))
    (restart_keeps_unpriced teas).1
  rw [List.map_map, List.map_map] at words
  exact words.trans (by decide)

/-- A price comes back as it was just if it survives, which all prices below `2 ^ 53` do. -/
theorem restart_keeps_price_iff (proper : Proper lines) :
    List.Forall₂ (fun old new => new.price = restoredPrice old.price ∧
        (new.price = old.price ↔ Survives old.price)) lines (decode (encode lines)) ∧
      (decode (encode lines) = lines ↔ ∀ line ∈ lines, Survives line.price) ∧
      ((∀ line ∈ lines, line.price.toNat < 2 ^ 53) →
        decode (encode lines) = lines ∧ total (decode (encode lines)) = total lines) := by
  have back := decode_encode_of_proper proper
  have kept (survives : ∀ line ∈ lines, Survives line.price) : decode (encode lines) = lines := by
    rw [back, reprice_eq_self survives]
  refine ⟨?_, ⟨fun same line member => ?_, kept⟩, fun small => ?_⟩
  · rw [back, List.forall₂_map_right_iff, List.forall₂_same]
    exact fun line _ => ⟨rfl, restoredPrice_eq_iff line.price⟩
  · rw [back, ← List.map_id lines, List.map_map, List.map_inj_left] at same
    exact (restoredPrice_eq_iff _).mp (congrArg (·.price) (same line member))
  · have same := kept fun line member => .inl (isDouble_of_lt (small line member))
    exact ⟨same, congrArg total same⟩

def banquet : Product :=
  { id := "9", name := "Banquet", price := 18446744073709551615, available := true }

def feast : List Line := [{ Tally.tea with qty := 2 }, { banquet with qty := 1 }]

theorem restart_keeps_price_iff_feast : Proper feast ∧ decode (encode feast) = feast := by
  have proper : Proper feast := ⟨by decide, by decide⟩
  have survives : ∀ line ∈ feast, Survives line.price := by
    simp only [feast, List.forall_mem_cons]
    exact ⟨.inl (isDouble_of_lt (by decide)), .inr (by decide), by simp⟩
  exact ⟨proper, (restart_keeps_price_iff proper).2.1.mpr survives⟩

-- The least price that no double is equal to.
def oddPrice : Line := { banquet with price := 9007199254740993, qty := 1 }

theorem odd_price_rounded :
    Proper [oddPrice] ∧ (decode (encode [oddPrice])).map (·.price) = [9007199254740992] ∧
      total (decode (encode [oddPrice])) ≠ total [oddPrice] := by
  have proper : Proper [oddPrice] := ⟨by decide, by decide⟩
  rw [decode_encode_of_proper proper]
  exact ⟨proper, by decide +kernel, by decide +kernel⟩

/-- A restored cart does not change in further restarts. -/
theorem restart_idempotent (raw : String) : decode (encode (decode raw)) = decode raw := by
  rw [decode_encode_of_proper (proper_decode raw), reprice_eq_self (survives_decode raw)]

end Snapshot

end Canteen.Cart

import Mathlib.Data.List.Forall2
import Canteen.Json.Printer

set_option autoImplicit false

namespace Canteen.Json

def glyph (c : Char) : Glyph :=
  if c < ' ' ∧ c ∉ ['\x08', '\x0c', '\n', '\r', '\t'] then .unit c.toNat else .plain c

theorem hexValue?_hexDigit (n : Nat) : hexValue? (hexDigit n) = some (n % 16) := by
  have all : ∀ m < 16, hexValue? (Nat.digitChar m) = some m := by decide
  exact all (n % 16) (Nat.mod_lt n (by decide))

-- A character has an escape of its own, or is a control written as a unit, or stands for itself.
inductive Escape (c : Char) : List Char → Glyph → Prop where
  | letter {letter : Char} (named : escaped? letter = some c) : Escape c ['\\', letter] (.plain c)
  | unit (control : c < ' ') :
      Escape c ['\\', 'u', '0', '0', hexDigit (c.toNat / 16), hexDigit c.toNat] (.unit c.toNat)
  | plain (quote : c ≠ '"') (backslash : c ≠ '\\') (visible : ¬c < ' ') : Escape c [c] (.plain c)

theorem escape (c : Char) : Escape c (escapeChar c) (glyph c) := by
  by_cases short : c ∈ ['"', '\\', '\x08', '\x0c', '\n', '\r', '\t']
  · simp only [List.mem_cons, List.not_mem_nil, or_false] at short
    rcases short with rfl | rfl | rfl | rfl | rfl | rfl | rfl <;> exact .letter rfl
  · simp only [List.mem_cons, List.not_mem_nil, or_false, not_or] at short
    obtain ⟨quote, backslash, b, f, n, r, t⟩ := short
    by_cases control : c < ' '
    · simpa [escapeChar, glyph, quote, backslash, b, f, n, r, t, control] using Escape.unit control
    · simpa [escapeChar, glyph, quote, backslash, b, f, n, r, t, control] using
        Escape.plain quote backslash control

theorem glyphs?_escape {c : Char} {written : List Char} {glyph : Glyph}
    (escape : Escape c written glyph) (rest : List Char) :
    glyphs? (written ++ rest) =
      (glyphs? rest).map fun (glyphs, rest) => (glyph :: glyphs, rest) := by
  cases escape with
  | @letter letter named =>
    have other : letter ≠ 'u' := by
      rintro rfl
      cases named
    change glyphs? ('\\' :: letter :: rest) = _
    rw [glyphs?.eq_def]
    cases found : glyphs? rest <;> simp [named, found, other]
  | unit control =>
    have small : c.toNat < 32 := control
    have high : c.toNat / 16 % 16 = c.toNat / 16 := by omega
    have zero : hexValue? '0' = some 0 := rfl
    have code : c.toNat / 16 * 16 + c.toNat % 16 = c.toNat := by omega
    change glyphs? ('\\' :: 'u' :: '0' :: '0' :: _ :: _ :: rest) = _
    rw [glyphs?]
    cases found : glyphs? rest <;> simp [hexValue?_hexDigit, zero, high, code]
  | plain quote backslash visible =>
    change glyphs? (c :: rest) = _
    rw [glyphs?.eq_def]
    cases found : glyphs? rest <;> simp [backslash, visible, found]

theorem glyphs?_flatMap (cs rest : List Char) :
    glyphs? (cs.flatMap escapeChar ++ '"' :: rest) = some (cs.map glyph, rest) := by
  induction cs with
  | nil => rfl
  | cons c cs ih =>
    rw [List.flatMap_cons, List.append_assoc, glyphs?_escape (escape c), ih]
    rfl

theorem characters?_unit {n : Nat} (low : n < 0xd800) (glyphs : List Glyph) :
    characters? (.unit n :: glyphs) = (characters? glyphs).map (Char.ofNat n :: ·) := by
  have high : isHighUnit n = false := by
    simp [isHighUnit]; omega
  have low : isLowUnit n = false := by
    simp [isLowUnit]; omega
  cases glyphs with
  | nil => simp [characters?, high, low]
  | cons next rest => cases next <;> simp [characters?, high, low]

theorem characters?_map_glyph (cs : List Char) : characters? (cs.map glyph) = some cs := by
  induction cs with
  | nil => rfl
  | cons c cs ih =>
    rw [List.map_cons]
    have shape := escape c
    generalize glyph c = g, escapeChar c = written at shape ⊢
    cases shape with
    | letter | plain =>
      rw [characters?, ih]
      rfl
    | unit control =>
      have small : c.toNat < 32 := control
      rw [characters?_unit (by omega), ih, Char.ofNat_toNat]
      rfl

theorem text?_map_glyph (s : String) : text? (s.toList.map glyph) = some s := by
  rw [text?, characters?_map_glyph]
  exact congrArg some String.ofList_toList

-- What may stand after a value.
def Closed (rest : List Char) : Prop :=
  ∀ c ∈ rest.head?, c = ',' ∨ c = ']' ∨ c = '\x7d'

theorem Closed.not_digit {c : Char} {rest : List Char} (closed : Closed (c :: rest)) :
    c.isDigit = false ∧ c ≠ '.' ∧ c ≠ 'e' ∧ c ≠ 'E' := by
  rcases closed c rfl with rfl | rfl | rfl <;> decide

theorem head_toDigits_ne_zero {n : Nat} (positive : 0 < n) :
    (Nat.toDigits 10 n).head? ≠ some '0' := by
  induction n using Nat.strongRecOn with
  | _ n ih =>
    by_cases small : n < 10
    · simp [Nat.toDigits_of_lt_base small]; omega
    · have shorter := ih (n / 10) (by omega) (by omega)
      rw [Nat.toDigits_of_base_le (by decide) (by omega), List.head?_append]
      cases first : (Nat.toDigits 10 (n / 10)).head? with
      | none => exact absurd (List.head?_eq_none_iff.mp first) Nat.toDigits_ne_nil
      | some c => simpa [first] using shorter

theorem digits?_toDigits (n : Nat) {rest : List Char} (closed : Closed rest) :
    digits? (Nat.toDigits 10 n ++ rest) = some (Nat.toDigits 10 n, rest) := by
  have digit : ∀ c ∈ Nat.toDigits 10 n, c.isDigit = true :=
    fun c member => Nat.isDigit_of_mem_toDigits (by decide) (by decide) member
  have stop : rest.takeWhile Char.isDigit = [] ∧ rest.dropWhile Char.isDigit = rest := by
    cases rest with
    | nil => exact ⟨rfl, rfl⟩
    | cons c rest => simp [closed.not_digit.1]
  rw [digits?, List.takeWhile_append_of_pos digit, List.dropWhile_append_of_pos digit, stop.1,
    stop.2, List.append_nil]
  simp [Nat.toDigits_ne_nil]

theorem whole?_toDigits (n : Nat) {rest : List Char} (closed : Closed rest) :
    whole? (Nat.toDigits 10 n ++ rest) = some (Nat.toDigits 10 n, rest) := by
  rw [whole?, digits?_toDigits n closed]
  rcases Nat.eq_zero_or_pos n with rfl | positive
  · rfl
  · have first := head_toDigits_ne_zero positive
    split
    · rename_i second more after same
      simp only [Option.some.injEq, Prod.mk.injEq] at same
      simp [same.1] at first
    · rfl

def numeral (n : Int) : Numeral :=
  { negative := n < 0, whole := Nat.toDigits 10 n.natAbs, fraction := [], exponent := none }

theorem toDigits_eq_cons (n : Nat) :
    ∃ c tail, Nat.toDigits 10 n = c :: tail ∧ c.isDigit = true := by
  obtain ⟨c, tail, shape⟩ := List.exists_cons_of_ne_nil (Nat.toDigits_ne_nil (n := n) (b := 10))
  exact ⟨c, tail, shape,
    Nat.isDigit_of_mem_toDigits (by decide) (by decide) (shape ▸ List.mem_cons_self)⟩

theorem numeral?_printInteger (n : Int) {rest : List Char} (closed : Closed rest) :
    numeral? (printInteger n ++ rest) = some (numeral n, rest) := by
  have whole := whole?_toDigits n.natAbs closed
  have fraction : fraction? rest = some ([], rest) := by
    cases rest with
    | nil => rfl
    | cons c rest =>
      rw [fraction?]
      rintro _ ⟨⟩
      exact closed.not_digit.2.1 rfl
  have exponent : exponent? rest = some (none, rest) := by
    cases rest with
    | nil => rfl
    | cons c rest => simp [exponent?, closed.not_digit]
  by_cases negative : n < 0
  · simp [numeral?, printInteger, numeral, negative, whole, fraction, exponent]
  · obtain ⟨c, tail, shape, digit⟩ := toDigits_eq_cons n.natAbs
    have unsigned : c ≠ '-' := by
      rintro rfl
      cases digit
    rw [shape, List.cons_append] at whole
    simp [numeral?, printInteger, numeral, negative, shape, unsigned, whole, fraction, exponent]

theorem value?_numeral {n : Int} (low : Int64.minValue.toInt ≤ n) (high : n ≤ largestWord) :
    (numeral n).value? = some (.integer n) := by
  have size : Nat.ofDigitChars 10 (Nat.toDigits 10 n.natAbs) 0 = n.natAbs :=
    Nat.ofDigitChars_ten_toDigits
  by_cases negative : n < 0
  · have same : -(n.natAbs : Int) = n := by omega
    have some_size : n.natAbs ≠ 0 := by omega
    simp only [Numeral.value?, Numeral.isInteger, numeral, negative, size, same]
    simpa [some_size] using low
  · have same : (n.natAbs : Int) = n := by omega
    have small : n.natAbs ≤ largestWord := by omega
    simp only [Numeral.value?, Numeral.isInteger, numeral, negative, size, same]
    simp [small]

structure Spells (tree : Written) (text : List Char) : Prop where
  opens : ∃ c tail, text = c :: tail ∧ isSpace c = false ∧ c ≠ ']'
  reads : ∀ fuel rest, 2 * text.length ≤ fuel → Closed rest →
    written? fuel (text ++ rest) = some (tree, rest)

-- The text is not empty, so there is a step to take.
theorem spells_of_step {tree : Written} {text : List Char}
    (opens : ∃ c tail, text = c :: tail ∧ isSpace c = false ∧ c ≠ ']')
    (reads : ∀ fuel rest, 2 * text.length ≤ fuel + 1 → Closed rest →
      written? (fuel + 1) (text ++ rest) = some (tree, rest)) : Spells tree text where
  opens := opens
  reads fuel rest enough closed := by
    cases fuel with
    | zero =>
      obtain ⟨c, tail, rfl, -⟩ := opens
      cases enough
    | succ fuel => exact reads fuel rest enough closed

theorem skipSpace_cons {c : Char} {tail : List Char} (solid : isSpace c = false) :
    skipSpace (c :: tail) = c :: tail := by
  simp [skipSpace, solid]

theorem spells_null : Spells .null Value.null.print :=
  spells_of_step ⟨_, _, rfl, rfl, by decide⟩ fun _ _ _ _ => rfl

theorem spells_bool (b : Bool) : Spells (.bool b) (Value.bool b).print := by
  cases b <;> exact spells_of_step ⟨_, _, rfl, rfl, by decide⟩ fun _ _ _ _ => rfl

theorem spells_string (s : String) : Spells (.string (s.toList.map glyph)) (printString s) := by
  refine spells_of_step ⟨_, _, rfl, rfl, by decide⟩ fun fuel rest _ _ => ?_
  have read := glyphs?_flatMap s.toList rest
  simp [written?, printString, skipSpace_cons, isSpace, read]

theorem printInteger_eq_cons (n : Int) :
    ∃ c tail, printInteger n = c :: tail ∧ (c = '-' ∨ c.isDigit = true) := by
  unfold printInteger
  split
  · exact ⟨_, _, rfl, .inl rfl⟩
  · obtain ⟨c, tail, shape, digit⟩ := toDigits_eq_cons n.natAbs
    exact ⟨c, tail, shape, .inr digit⟩

-- Nothing else starts like a numeral.
theorem numeric_ne {c : Char} (first : c = '-' ∨ c.isDigit = true) :
    ∀ other ∈ [' ', '\t', '\n', '\r', 'n', 't', 'f', '"', '[', ']', '\x7b'], c ≠ other := by
  rcases first with rfl | digit
  · simp
  · rintro other member rfl
    simp only [List.mem_cons, List.not_mem_nil, or_false] at member
    rcases member with rfl | rfl | rfl | rfl | rfl | rfl | rfl | rfl | rfl | rfl | rfl <;>
      cases digit

theorem spells_integer (n : Int) : Spells (.number (numeral n)) (printInteger n) := by
  obtain ⟨c, tail, shape, first⟩ := printInteger_eq_cons n
  have other := numeric_ne first
  simp only [List.forall_mem_cons] at other
  have solid : isSpace c = false := by simp [isSpace, other]
  refine spells_of_step ⟨c, tail, shape, solid, other.2.2.2.2.2.2.2.2.2.1⟩
    fun fuel rest _ closed => ?_
  have read := numeral?_printInteger n closed
  rw [shape, List.cons_append] at read ⊢
  rw [written?, skipSpace_cons solid]
  split <;> simp_all

theorem printItems_closed (items : List Value) (rest : List Char) :
    Closed (printItems items ++ rest) := by
  cases items <;> simp [Closed, printItems]

theorem printFields_closed (fields : List (String × Value)) (rest : List Char) :
    Closed (printFields fields ++ rest) := by
  cases fields <;> simp [Closed, printFields]

theorem written?_array {c : Char} (solid : isSpace c = false) (other : c ≠ ']') (fuel : Nat)
    (tail : List Char) :
    written? (fuel + 1) ('[' :: c :: tail) =
      (items? fuel (c :: tail)).map fun (items, rest) => (.array items, rest) := by
  rw [written?, skipSpace_cons rfl]
  simp [skipSpace_cons solid, other]

theorem written?_object {c : Char} (solid : isSpace c = false) (other : c ≠ '\x7d') (fuel : Nat)
    (tail : List Char) :
    written? (fuel + 1) ('\x7b' :: c :: tail) =
      (members? fuel (c :: tail)).map fun (members, rest) => (.object members, rest) := by
  rw [written?, skipSpace_cons rfl]
  simp [skipSpace_cons solid, other]

theorem items?_printItems {tree : Written} {trees : List Written} {item : Value}
    {items : List Value} (first : Spells tree item.print)
    (others : List.Forall₂ (fun tree item => Spells tree item.print) trees items)
    {fuel : Nat} (enough : 2 * (item.print ++ printItems items).length ≤ fuel) (rest : List Char) :
    items? fuel (item.print ++ (printItems items ++ rest)) = some (tree :: trees, rest) := by
  induction others generalizing tree item fuel with
  | nil =>
    cases fuel with
    | zero => simp [printItems] at enough
    | succ fuel =>
      simp only [printItems, List.length_append, List.length_singleton] at enough
      rw [items?, first.reads fuel _ (by omega) (printItems_closed [] rest)]
      rfl
  | @cons next following trees items second others ih =>
    cases fuel with
    | zero => simp [printItems] at enough
    | succ fuel =>
      simp only [printItems, List.length_append, List.length_cons] at enough
      -- The item and its comma are worth two steps, and one has been taken.
      have more : items? fuel (following.print ++ (printItems items ++ rest)) = _ :=
        ih second (by rw [List.length_append]; omega)
      rw [items?, first.reads fuel _ (by omega) (printItems_closed _ rest)]
      simp [printItems, skipSpace_cons, isSpace, more]

theorem spells_array {trees : List Written} {items : List Value}
    (each : List.Forall₂ (fun tree item => Spells tree item.print) trees items) :
    Spells (.array trees) (Value.array items).print := by
  cases each with
  | nil => exact spells_of_step ⟨_, _, rfl, rfl, by decide⟩ fun _ _ _ _ => rfl
  | @cons tree item trees items first others =>
    refine spells_of_step ⟨_, _, rfl, rfl, by decide⟩ fun fuel rest enough _ => ?_
    simp only [Value.print, List.length_cons] at enough
    have read : items? fuel _ = _ := items?_printItems first others (by omega) rest
    obtain ⟨c, tail, shape, solid, other⟩ := first.opens
    rw [shape, List.cons_append] at read
    rw [Value.print, List.cons_append, List.append_assoc, shape, List.cons_append,
      written?_array solid other, read]
    rfl

def Lists (members : List (List Glyph × Written)) (fields : List (String × Value)) : Prop :=
  List.Forall₂ (fun member field =>
    member.1 = field.1.toList.map glyph ∧ Spells member.2 field.2.print) members fields

section

variable {name : String} {tree : Written} {members : List (List Glyph × Written)} {fuel : Nat}
  {text after rest : List Char}

theorem members?_last (read : written? fuel text = some (tree, '\x7d' :: rest)) :
    members? (fuel + 1) (printString name ++ ':' :: text) =
      some ([(name.toList.map glyph, tree)], rest) := by
  have title := glyphs?_flatMap name.toList (':' :: text)
  rw [members?]
  simp [printString, skipSpace_cons, isSpace, title, read]

theorem members?_more (read : written? fuel text = some (tree, ',' :: after))
    (more : members? fuel after = some (members, rest)) :
    members? (fuel + 1) (printString name ++ ':' :: text) =
      some ((name.toList.map glyph, tree) :: members, rest) := by
  have title := glyphs?_flatMap name.toList (':' :: text)
  rw [members?]
  simp [printString, skipSpace_cons, isSpace, title, read, more]

end

theorem members?_printFields {tree : Written} {members : List (List Glyph × Written)}
    {name : String} {value : Value} {fields : List (String × Value)}
    (first : Spells tree value.print) (others : Lists members fields) {fuel : Nat}
    (enough : 2 * (value.print ++ printFields fields).length < fuel) (rest : List Char) :
    members? fuel (printString name ++ ':' :: (value.print ++ (printFields fields ++ rest))) =
      some ((name.toList.map glyph, tree) :: members, rest) := by
  induction others generalizing tree name value fuel with
  | nil =>
    cases fuel with
    | zero => cases enough
    | succ fuel =>
      simp only [printFields, List.length_append, List.length_singleton] at enough
      exact members?_last (first.reads fuel _ (by omega) (printFields_closed [] rest))
  | @cons member field members fields second others ih =>
    obtain ⟨title, second⟩ := second
    cases fuel with
    | zero => cases enough
    | succ fuel =>
      simp only [printFields, List.length_append, List.length_cons] at enough
      have more : members? fuel (printString field.1 ++ ':' :: (field.2.print ++ _)) = _ :=
        ih second (by rw [List.length_append]; omega)
      rw [← title] at more
      have read := first.reads fuel _ (by omega) (printFields_closed (field :: fields) rest)
      simp only [printFields, List.cons_append, List.append_assoc] at read ⊢
      exact members?_more read more

theorem spells_object {members : List (List Glyph × Written)} {fields : List (String × Value)}
    (lists : Lists members fields) : Spells (.object members) (Value.object fields).print := by
  cases lists with
  | nil => exact spells_of_step ⟨_, _, rfl, rfl, by decide⟩ fun _ _ _ _ => rfl
  | @cons member field members fields first others =>
    obtain ⟨title, first⟩ := first
    refine spells_of_step ⟨_, _, rfl, rfl, by decide⟩ fun fuel rest enough _ => ?_
    simp only [Value.print, List.length_append, List.length_cons] at enough
    have read : members? fuel (printString field.1 ++ ':' :: _) = _ :=
      members?_printFields first others (by rw [List.length_append]; omega) rest
    rw [← title] at read
    simp only [Value.print, List.cons_append, List.append_assoc]
    exact (written?_object rfl (by decide) fuel _).trans (congrArg (Option.map _) read)

theorem Spells.ofText? {tree : Written} {value : Value} (spells : Spells tree value.print) :
    Written.ofText? value.text = some tree := by
  have read := spells.reads (2 * value.print.length + 2) [] (by omega) (by simp [Closed])
  rw [List.append_nil] at read
  simp [Written.ofText?, Value.text, read, skipSpace]

end Canteen.Json

import Canteen.Request
import Mathlib.Data.List.DropRight

set_option autoImplicit false

namespace Canteen.Address

theorem pieces_append_slash (cs rest : List Char) :
    pieces (cs ++ '/' :: rest) = pieces cs ++ pieces rest := by
  simp [pieces, List.splitOn_append_cons_self]

theorem pieces_of_single {cs : List Char} (single : '/' ∉ cs) :
    pieces cs = if cs = [] then [] else [cs] := by
  by_cases empty : cs = [] <;> simp [pieces, List.splitOn_eq_singleton single, empty]

/-- A path beside its pieces: none of them is empty or has a slash in it, and there is at least one
slash between any two. -/
inductive Splits : List Char → List (List Char) → Prop where
  | nil : Splits [] []
  | slash {cs : List Char} {ps : List (List Char)} (rest : Splits cs ps) : Splits ('/' :: cs) ps
  | piece {first cs : List Char} {ps : List (List Char)} (filled : first ≠ []) (single : '/' ∉ first)
      (ends : ∀ c ∈ cs.head?, c = '/') (rest : Splits cs ps) : Splits (first ++ cs) (first :: ps)

variable {cs : List Char} {ps : List (List Char)}

theorem Splits.clean (splits : Splits cs ps) : ∀ piece ∈ ps, piece ≠ [] ∧ '/' ∉ piece := by
  induction splits with
  | nil => simp
  | slash _ ih => exact ih
  | piece filled single _ _ ih => simpa using ⟨⟨filled, single⟩, ih⟩

theorem Splits.pieces_eq (splits : Splits cs ps) : pieces cs = ps := by
  induction splits with
  | nil => rfl
  | @slash cs ps _ ih => exact (pieces_append_slash [] cs).trans ih
  | @piece first cs ps filled single ends _ ih =>
    have alone : pieces first = [first] := by rw [pieces_of_single single, if_neg filled]
    cases cs with
    | nil => rw [List.append_nil, alone, ← ih]; rfl
    | cons c rest =>
      obtain rfl : c = '/' := ends c rfl
      have later : pieces rest = ps := (pieces_append_slash [] rest).symm.trans ih
      rw [pieces_append_slash, alone, later]
      rfl

theorem exists_splits (cs : List Char) : ∃ ps, Splits cs ps := by
  induction cs with
  | nil => exact ⟨[], .nil⟩
  | cons c rest ih =>
    obtain ⟨ps, splits⟩ := ih
    by_cases slash : c = '/'
    · subst slash
      exact ⟨ps, .slash splits⟩
    · have single : '/' ∉ [c] := by simpa using Ne.symm slash
      -- The character begins a piece of its own, or it goes before the first piece of the rest.
      cases splits with
      | nil => exact ⟨[[c]], @Splits.piece [c] [] [] (by simp) single (by simp) .nil⟩
      | slash rest => exact ⟨[c] :: ps, .piece (by simp) single (by simp) (.slash rest)⟩
      | @piece first cs ps _ unbroken ends rest =>
        have longer : '/' ∉ c :: first := by simpa using ⟨Ne.symm slash, unbroken⟩
        exact ⟨(c :: first) :: ps, .piece (by simp) longer ends rest⟩

theorem splits_iff : Splits cs ps ↔ pieces cs = ps := by
  constructor
  · exact Splits.pieces_eq
  · rintro rfl
    obtain ⟨ps, splits⟩ := exists_splits cs
    rwa [splits.pieces_eq]

theorem splits_pieces (cs : List Char) : Splits cs (pieces cs) := splits_iff.mpr rfl

theorem join_eq_nil : join ps = [] ↔ ps = [] := by
  cases ps <;> simp [join]

theorem splits_join (clean : ∀ piece ∈ ps, piece ≠ [] ∧ '/' ∉ piece) : Splits (join ps) ps := by
  induction ps with
  | nil => exact .nil
  | cons first rest ih =>
    obtain ⟨⟨filled, single⟩, others⟩ := List.forall_mem_cons.mp clean
    have ends : ∀ c ∈ (join rest).head?, c = '/' := by
      cases rest <;> simp [join]
    exact .slash (.piece filled single ends (ih others))

theorem join_pieces_inj {cs ds : List Char} :
    join (pieces cs) = join (pieces ds) ↔ pieces cs = pieces ds := by
  constructor
  · intro same
    have first := (splits_join (splits_pieces cs).clean).pieces_eq
    have second := (splits_join (splits_pieces ds).clean).pieces_eq
    rw [← first, same, second]
  · exact congrArg join

def Trimmed (base host : List Char) : Prop :=
  host.getLast? ≠ some '/' ∧ ∃ n, base = host ++ List.replicate n '/'

theorem trimEnd_concat_slash (cs : List Char) : trimEnd (cs ++ ['/']) = trimEnd cs :=
  List.rdropWhile_concat_pos _ _ _ rfl

theorem trimEnd_concat {c : Char} (cs : List Char) (other : c ≠ '/') :
    trimEnd (cs ++ [c]) = cs ++ [c] :=
  List.rdropWhile_concat_neg _ _ _ (by simpa using other)

theorem trimmed_trimEnd (base : List Char) : Trimmed base (trimEnd base) := by
  induction base using List.reverseRecOn with
  | nil => exact ⟨by simp [trimEnd], 0, rfl⟩
  | append_singleton cs c ih =>
    by_cases slash : c = '/'
    · subst slash
      obtain ⟨ends, n, parts⟩ := ih
      rw [trimEnd_concat_slash]
      refine ⟨ends, n + 1, ?_⟩
      rw [List.replicate_succ', ← List.append_assoc, ← parts]
    · rw [trimEnd_concat cs slash]
      exact ⟨by simpa using slash, 0, (List.append_nil _).symm⟩

theorem Trimmed.trimEnd_eq {base host : List Char} (trimmed : Trimmed base host) :
    trimEnd base = host := by
  obtain ⟨ends, n, rfl⟩ := trimmed
  induction n with
  | zero =>
    rw [List.replicate_zero, List.append_nil]
    cases host using List.reverseRecOn with
    | nil => rfl
    | append_singleton cs c => exact trimEnd_concat cs (by simpa using ends)
  | succ n ih => rw [List.replicate_succ', ← List.append_assoc, trimEnd_concat_slash, ih]

theorem trimEnd_eq_nil {base : List Char} : trimEnd base = [] ↔ ∃ n, base = List.replicate n '/' := by
  constructor
  · intro bare
    obtain ⟨-, n, parts⟩ := trimmed_trimEnd base
    exact ⟨n, by rwa [bare] at parts⟩
  · rintro ⟨n, rfl⟩
    exact Trimmed.trimEnd_eq ⟨by simp, n, rfl⟩

def site (base inset path : List Char) : List Char :=
  trimEnd base ++ join (pieces inset ++ pieces path)

theorem resolveChars_eq (base inset path : List Char) :
    resolveChars base inset path =
      if site base inset path = [] then ['/'] else site base inset path := by
  unfold resolveChars site
  cases trimEnd base ++ join (pieces inset ++ pieces path) <;> rfl

theorem site_ne_slash (base inset path : List Char) : site base inset path ≠ ['/'] := by
  intro slash
  obtain ⟨bare, joined⟩ | ⟨host, -⟩ := List.append_eq_singleton_iff.mp slash
  · have clean : ∀ piece ∈ pieces inset ++ pieces path, piece ≠ [] ∧ '/' ∉ piece := by
      rw [← pieces_append_slash]
      exact (splits_pieces _).clean
    have none := (splits_join clean).pieces_eq
    rw [joined] at none
    rw [← none] at joined
    cases joined
  · have ends := (trimmed_trimEnd base).1
    simp [host] at ends

theorem resolveChars_eq_iff {base inset path other otherInset otherPath : List Char} :
    resolveChars base inset path = resolveChars other otherInset otherPath ↔
      site base inset path = site other otherInset otherPath := by
  have first := site_ne_slash base inset path
  have second := site_ne_slash other otherInset otherPath
  rw [resolveChars_eq, resolveChars_eq]
  constructor
  · intro same
    split at same
    next bare =>
      split at same
      next otherBare => rw [bare, otherBare]
      next => exact absurd same.symm second
    next =>
      split at same
      next => exact absurd same first
      next => exact same
  · intro same
    rw [same]

theorem resolveChars_eq_iff_pieces {base inset p q : List Char} :
    resolveChars base inset p = resolveChars base inset q ↔ pieces p = pieces q := by
  rw [resolveChars_eq_iff, ← join_pieces_inj]
  simp [site, join]

/-- How an address is put together: the base without the slashes at its end, and a slash before each
piece of the inset and of the path; or a lone slash, if nothing is there to put together. -/
def Resolves (base inset path url : List Char) : Prop :=
  ∃ host front back, Trimmed base host ∧ Splits inset front ∧ Splits path back ∧
    url = if host = [] ∧ front = [] ∧ back = [] then ['/']
      else host ++ (front ++ back).flatMap ('/' :: ·)

theorem site_eq_nil {base inset path : List Char} :
    site base inset path = [] ↔ trimEnd base = [] ∧ pieces inset = [] ∧ pieces path = [] := by
  simp [site, join_eq_nil]

theorem resolves_iff {base inset path url : List Char} :
    Resolves base inset path url ↔ resolveChars base inset path = url := by
  have parts : resolveChars base inset path =
      if trimEnd base = [] ∧ pieces inset = [] ∧ pieces path = [] then ['/']
      else trimEnd base ++ (pieces inset ++ pieces path).flatMap ('/' :: ·) := by
    simp only [resolveChars_eq, site_eq_nil]
    rfl
  constructor
  · rintro ⟨host, front, back, trimmed, before, after, rfl⟩
    rw [parts, trimmed.trimEnd_eq, before.pieces_eq, after.pieces_eq]
  · rintro rfl
    exact ⟨_, _, _, trimmed_trimEnd base, splits_pieces inset, splits_pieces path, parts⟩

example : resolveChars "//".toList "/".toList "///".toList = "/".toList := by decide

theorem resolve_eq_iff {base path url : String} {inset : Option String} :
    resolve base inset path = url ↔
      resolveChars base.toList (inset.getD "").toList path.toList = url.toList := by
  rw [resolve, ← String.toList_inj, String.toList_ofList]

end Canteen.Address

/-
# ConsoleView.Proofs.Registry.Names -- what a name in markup means

A name without its marker is cut at the separators; its normal form is the words
of the cut joined, each but the first with its first character in upper case
(`camelCase_eq_joinWords`).  Nothing in a normal form is a separator, not even
what upper-casing writes, so a normal form is its own.  The normal form is all
that matters of a name: it decides the row of the table and, if there is one,
what is rendered (`normalForm_decides`).
-/
import ConsoleView.Proofs.Preview.Guarded
import Mathlib.Data.List.Basic

namespace ConsoleView

set_option autoImplicit false

/-! ## Words -/

/-- The name without `data-` at its start, or else without `x-`. -/
def unmarked (cs : List Char) : List Char :=
  ((cs.dropPrefix? "data-".toList).or (cs.dropPrefix? "x-".toList)).getD cs

/-- The words of a name: what stands between its separators, if there is anything. -/
def nameWords (cs : List Char) : List (List Char) :=
  (Text.pieces isSeparator cs).filter fun word => !word.isEmpty

/-- A word with its first character in upper case. -/
def raised : List Char → List Char
  | [] => []
  | c :: rest => Text.upperChar c ++ rest

/-- Words joined, each but the first raised. -/
def joinWords : List (List Char) → List Char
  | [] => []
  | first :: later => first ++ later.flatMap raised

theorem dropMarker_eq (cs : List Char) : dropMarker cs = unmarked cs := by
  have begins : ∀ {marker rest : List Char}, cs.dropPrefix? marker = some rest →
      cs = marker ++ rest := by
    intro marker rest found
    simpa using List.dropPrefix?_eq_some_iff.1 found
  unfold dropMarker
  split
  · simp [unmarked, List.dropPrefix?]
  · simp [unmarked, List.dropPrefix?]
  · rename_i noData noX
    rw [unmarked]
    cases data : cs.dropPrefix? "data-".toList with
    | some rest => exact absurd (begins data) (noData rest)
    | none =>
        cases x : cs.dropPrefix? "x-".toList with
        | some rest => exact absurd (begins x) (noX rest)
        | none => rfl

/-- After the first word, the rest of the word that is being written comes before the words
after it. -/
theorem camelCase_started (cs : List Char) (raise : Bool) :
    ∃ word later, Text.pieces isSeparator cs = word :: later ∧
      camelCase true raise cs =
        (if raise then raised word else word) ++
          (later.filter fun word => !word.isEmpty).flatMap raised := by
  induction cs generalizing raise with
  | nil => exact ⟨[], [], rfl, by cases raise <;> rfl⟩
  | cons c rest ih =>
      rw [Text.pieces_cons]
      by_cases separator : isSeparator c = true
      · obtain ⟨word, later, cut, written⟩ := ih true
        refine ⟨[], word :: later, by simp [cut, Text.pushPiece, separator], ?_⟩
        rw [camelCase, if_pos separator, written]
        cases word <;> cases raise <;> simp [raised]
      · obtain ⟨word, later, cut, written⟩ := ih false
        refine ⟨c :: word, later, by simp [cut, Text.pushPiece, separator], ?_⟩
        rw [camelCase, if_neg separator, written]
        cases raise <;> simp [raised]

/-- **The words of a name are joined**, each but the first raised. -/
theorem camelCase_eq_joinWords (cs : List Char) :
    camelCase false false cs = joinWords (nameWords cs) := by
  induction cs with
  | nil => rfl
  | cons c rest ih =>
      by_cases separator : isSeparator c = true
      · rw [camelCase, if_pos separator, ih, nameWords, nameWords, Text.pieces_cons]
        obtain ⟨word, later, cut, -⟩ := camelCase_started rest true
        simp [cut, Text.pushPiece, separator]
      · obtain ⟨word, later, cut, written⟩ := camelCase_started rest false
        rw [camelCase, if_neg separator, nameWords, Text.pieces_cons, cut]
        simp [written, Text.pushPiece, separator, joinWords]

/-! ## Separators -/

/-- No run of the table of upper-case mappings reaches a separator. -/
theorem upperRuns_clear : ∀ r ∈ Text.upperRuns,
    0x5F < r.first + r.shift ∨ (0x3A < r.first + r.shift ∧ r.last + r.shift < 0x5F) := by
  decide +kernel

theorem upperExpansions_clear : ∀ e ∈ Text.upperExpansions, ∀ code ∈ e.2,
    isSeparator (Char.ofNat code) = false := by
  decide +kernel

/-- The character of a number that is no separator's is no separator, even if the number is no
code point. -/
theorem isSeparator_ofNat {n : Nat} (clear : 0x5F < n ∨ (0x3A < n ∧ n < 0x5F)) :
    isSeparator (Char.ofNat n) = false := by
  have code : (Char.ofNat n).toNat = n ∨ (Char.ofNat n).toNat = 0 := by
    by_cases valid : n.isValidChar
    · rw [Char.ofNat, dif_pos valid]
      exact .inl rfl
    · rw [Char.ofNat, dif_neg valid]
      exact .inr rfl
  have ne : ∀ c : Char, c.toNat ≠ n → c.toNat ≠ 0 → Char.ofNat n ≠ c := by
    rintro c other positive rfl
    exact code.elim other positive
  have hyphen := ne '-' (by show 0x2D ≠ n; omega) (by decide)
  have underscore := ne '_' (by show 0x5F ≠ n; omega) (by decide)
  have colon := ne ':' (by show 0x3A ≠ n; omega) (by decide)
  simp [isSeparator, hyphen, underscore, colon]

/-- The upper case of a character that is no separator has no separator. -/
theorem isSeparator_upperChar {c : Char} (clear : isSeparator c = false) :
    ∀ d ∈ Text.upperChar c, isSeparator d = false := by
  unfold Text.upperChar
  split
  · rename_i run found
    have listed := upperRuns_clear run (List.mem_of_find?_eq_some found)
    have covered := List.find?_some found
    simp only [Text.CaseRun.covers, Bool.and_eq_true, decide_eq_true_eq] at covered
    intro d member
    rw [List.mem_singleton.1 member]
    exact isSeparator_ofNat (by omega)
  · split
    · rename_i codes found
      intro d member
      obtain ⟨code, named, rfl⟩ := List.mem_map.1 member
      obtain ⟨before, after, table, -⟩ := List.lookup_eq_some_iff.1 found
      have listed : (c.toNat, codes) ∈ Text.upperExpansions := by simp [table]
      exact upperExpansions_clear _ listed code named
    · intro d member
      rwa [List.mem_singleton.1 member]

theorem isSeparator_raised {word : List Char} (clear : ∀ c ∈ word, isSeparator c = false) :
    ∀ c ∈ raised word, isSeparator c = false := by
  cases word with
  | nil => exact clear
  | cons first rest =>
      intro c member
      rcases List.mem_append.1 member with upper | later
      · exact isSeparator_upperChar (clear first List.mem_cons_self) c upper
      · exact clear c (List.mem_cons_of_mem _ later)

/-- Joined words have no separator if the words have none. -/
theorem isSeparator_joinWords {words : List (List Char)}
    (clear : ∀ word ∈ words, ∀ c ∈ word, isSeparator c = false) :
    ∀ c ∈ joinWords words, isSeparator c = false := by
  cases words with
  | nil => exact fun c member => absurd member List.not_mem_nil
  | cons first later =>
      intro c member
      rcases List.mem_append.1 member with inFirst | inLater
      · exact clear first List.mem_cons_self c inFirst
      · obtain ⟨word, listed, inside⟩ := List.mem_flatMap.1 inLater
        exact isSeparator_raised (clear word (List.mem_cons_of_mem _ listed)) c inside

theorem isSeparator_of_mem_nameWords {cs word : List Char} (listed : word ∈ nameWords cs) :
    ∀ c ∈ word, isSeparator c = false :=
  Text.sep_of_mem_pieces (List.mem_filter.1 listed).1

/-! ## Normal forms -/

/-- Without separators nothing is raised. -/
theorem camelCase_of_clear {cs : List Char} (clear : ∀ c ∈ cs, isSeparator c = false)
    (started : Bool) : camelCase started false cs = cs := by
  induction cs generalizing started with
  | nil => rfl
  | cons c rest ih =>
      have first : isSeparator c = false := clear c List.mem_cons_self
      rw [camelCase, first, ih fun d later => clear d (List.mem_cons_of_mem _ later)]
      rfl

/-- Without separators there is no marker. -/
theorem dropMarker_of_clear {cs : List Char} (clear : ∀ c ∈ cs, isSeparator c = false) :
    dropMarker cs = cs := by
  unfold dropMarker
  split
  · exact absurd (clear '-' (by simp)) (by decide)
  · exact absurd (clear '-' (by simp)) (by decide)
  · rfl

theorem normalizeName_of_clear {name : String} (clear : ∀ c ∈ name.toList, isSeparator c = false) :
    normalizeName name = name := by
  rw [normalizeName, dropMarker_of_clear clear, camelCase_of_clear clear, String.ofList_toList]

/-- What a name is brought to: its words joined. -/
def writtenName (name : String) : String :=
  String.ofList (joinWords (nameWords (unmarked name.toList)))

theorem normalizeName_eq (name : String) : normalizeName name = writtenName name := by
  rw [normalizeName, camelCase_eq_joinWords, dropMarker_eq, writtenName]

theorem isSeparator_writtenName (name : String) :
    ∀ c ∈ (writtenName name).toList, isSeparator c = false := by
  rw [writtenName, String.toList_ofList]
  exact isSeparator_joinWords fun word listed => isSeparator_of_mem_nameWords listed

/-! ## Rows -/

/-- No two rows have the same name. -/
theorem distinct_names : (registry.map Descriptor.name).Nodup := by decide

/-- A name means the one row that is used like this and has its normal form for a name. -/
theorem lookup_eq_some_iff {name : String} {usage : Usage} {d : Descriptor} :
    lookup name usage = some d ↔
      (registry.filter fun row => row.usage == usage && row.name == normalizeName name) = [d] := by
  let rows := registry.filter fun row => row.usage == usage && row.name == normalizeName name
  have first : lookup name usage = rows.head? := List.head?_filter.symm
  have named : ∀ row ∈ rows, row.name = normalizeName name := fun row listed => by
    have test := (List.mem_filter.1 listed).2
    simp only [Bool.and_eq_true, beq_iff_eq] at test
    exact test.2
  have distinct : (rows.map Descriptor.name).Nodup :=
    distinct_names.sublist (List.filter_sublist.map _)
  rw [first]
  show rows.head? = some d ↔ rows = [d]
  match rows, named, distinct with
  | [], _, _ => simp
  | [row], _, _ => simp
  | row :: next :: rest, named, distinct =>
      have same : row.name = next.name := (named row (by simp)).trans (named next (by simp)).symm
      simp [same] at distinct

/-- Names of one normal form are rendered alike if there is a row for it. -/
theorem render_congr_name {a b : String} (same : normalizeName a = normalizeName b)
    (registered : normalizeName a ∈ registry.map Descriptor.name) (fixture : Scope)
    (settings : Settings) (resolve : Resolver) :
    render a fixture settings resolve = render b fixture settings resolve := by
  have resolved : resolveName a = resolveName b := by
    rw [resolveName, resolveName, lookup_congr same, lookup_congr same]
  have found : resolveName a ≠ none := fun unknown => by
    obtain ⟨d, listed, named⟩ := List.mem_map.1 registered
    exact resolveName_eq_none_iff.1 unknown d listed named
  obtain ⟨d, meant⟩ := Option.ne_none_iff_exists'.1 found
  rw [render, render, draft, draft, ← resolved, meant]

/-- **A name means what its words joined are the name of.**  Its normal form is its words joined,
which has no separator and is its own normal form; the name is looked up as the one row of this
name, and every name of this normal form is rendered like it if there is such a row. -/
theorem normalForm_decides (name : String) :
    normalizeName name = writtenName name ∧
      (∀ c ∈ (writtenName name).toList, isSeparator c = false) ∧
      normalizeName (writtenName name) = writtenName name ∧
      (∀ (usage : Usage) (d : Descriptor), lookup name usage = some d ↔
        (registry.filter fun row => row.usage == usage && row.name == writtenName name) = [d]) ∧
      ∀ other : String, normalizeName other = writtenName name →
        writtenName name ∈ registry.map Descriptor.name →
        ∀ (fixture : Scope) (settings : Settings) (resolve : Resolver),
          render other fixture settings resolve = render name fixture settings resolve := by
  have written := normalizeName_eq name
  refine ⟨written, isSeparator_writtenName name,
    normalizeName_of_clear (isSeparator_writtenName name), ?_, ?_⟩
  · intro usage d
    rw [← written]
    exact lookup_eq_some_iff
  · intro other same registered fixture settings resolve
    exact render_congr_name (same.trans written.symm) (same ▸ registered) fixture settings resolve

/-- Separators at the ends and in a row do not matter, nor which ones they are. -/
theorem jobLink_by_other_names :
    normalizeName ":job--link_" = writtenName "data-job_link" ∧
      writtenName "data-job_link" ∈ registry.map Descriptor.name ∧
      ∀ (fixture : Scope) (settings : Settings) (resolve : Resolver),
        render ":job--link_" fixture settings resolve =
          render "data-job_link" fixture settings resolve := by
  have same : normalizeName ":job--link_" = writtenName "data-job_link" := by decide +kernel
  have registered : writtenName "data-job_link" ∈ registry.map Descriptor.name := by
    decide +kernel
  exact ⟨same, registered, (normalForm_decides "data-job_link").2.2.2.2 ":job--link_" same registered⟩

end ConsoleView

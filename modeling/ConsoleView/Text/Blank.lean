/-
# ConsoleView.Text.Blank -- blank characters, trimming, and cutting text into pieces

A character class of a standard is a list of closed ranges of code points, and
membership is the only question that is asked of it.  `isBlank` is the Unicode
property White_Space.  `trim` takes blanks off both ends; `words` are the longest
runs without a blank, in order.  `pieces` is the general cut: it removes the
separators and keeps everything between them, so that joining the pieces loses
only the separators (`flatten_pieces`).
-/

namespace ConsoleView.Text

set_option autoImplicit false

/-! ## Character classes -/

/-- A closed range of code points, first and last. -/
abbrev CodeRange := Nat × Nat

def inRanges (ranges : List CodeRange) (n : Nat) : Bool :=
  ranges.any fun r => r.1 ≤ n && n ≤ r.2

def blankRanges : List CodeRange :=
  [(0x09, 0x0D), (0x20, 0x20), (0x85, 0x85), (0xA0, 0xA0), (0x1680, 0x1680), (0x2000, 0x200A),
   (0x2028, 0x2029), (0x202F, 0x202F), (0x205F, 0x205F), (0x3000, 0x3000)]

def isBlank (c : Char) : Bool := inRanges blankRanges c.toNat

/-! ## Pieces -/

/-- One step of `pieces`, from the right: a separator opens a new first piece,
any other character joins the first piece. -/
def pushPiece (sep : Char → Bool) (c : Char) : List (List Char) → List (List Char)
  | [] => if sep c then [[], []] else [[c]]
  | p :: ps => if sep c then [] :: p :: ps else (c :: p) :: ps

/-- Cut at every separator.  There is one piece more than there are separators. -/
def pieces (sep : Char → Bool) (cs : List Char) : List (List Char) :=
  cs.foldr (pushPiece sep) [[]]

theorem pieces_nil (sep : Char → Bool) : pieces sep [] = [[]] := rfl

theorem pieces_cons (sep : Char → Bool) (c : Char) (cs : List Char) :
    pieces sep (c :: cs) = pushPiece sep c (pieces sep cs) := rfl

theorem pieces_ne_nil (sep : Char → Bool) (cs : List Char) : pieces sep cs ≠ [] := by
  cases cs with
  | nil => simp [pieces]
  | cons c cs =>
      rw [pieces_cons]
      cases pieces sep cs <;> simp only [pushPiece] <;> split <;> simp

/-- Cutting loses the separators and nothing else. -/
theorem flatten_pieces (sep : Char → Bool) (cs : List Char) :
    (pieces sep cs).flatten = cs.filter (fun c => !sep c) := by
  induction cs with
  | nil => rfl
  | cons c cs ih =>
      rw [pieces_cons]
      obtain ⟨p, ps, eq⟩ := List.exists_cons_of_ne_nil (pieces_ne_nil sep cs)
      rw [eq] at ih ⊢
      by_cases h : sep c = true
      · simpa [pushPiece, h] using ih
      · simp only [pushPiece, h, Bool.false_eq_true, if_false, List.flatten_cons, List.cons_append,
          Bool.not_false, List.filter_cons_of_pos]
        rw [← ih]; rfl

/-- No piece holds a separator. -/
theorem sep_of_mem_pieces {sep : Char → Bool} {cs p : List Char} (mem : p ∈ pieces sep cs) :
    ∀ c ∈ p, sep c = false := by
  induction cs generalizing p with
  | nil =>
      rw [pieces_nil, List.mem_singleton] at mem
      subst mem
      simp
  | cons c cs ih =>
      rw [pieces_cons] at mem
      obtain ⟨q, ps, eq⟩ := List.exists_cons_of_ne_nil (pieces_ne_nil sep cs)
      rw [eq] at ih mem
      by_cases h : sep c = true
      · simp only [pushPiece, h, if_true, List.mem_cons] at mem
        rcases mem with rfl | mem
        · simp
        · exact ih (List.mem_cons.2 mem)
      · simp only [pushPiece, h, Bool.false_eq_true, if_false, List.mem_cons] at mem
        rcases mem with rfl | mem
        · intro x hx
          rcases List.mem_cons.1 hx with rfl | hx
          · simpa using h
          · exact ih (List.mem_cons_self) x hx
        · exact ih (List.mem_cons_of_mem _ mem)

/-- Without a separator there is one piece. -/
theorem pieces_of_clear {sep : Char → Bool} {front : List Char}
    (clear : ∀ c ∈ front, sep c = false) : pieces sep front = [front] := by
  induction front with
  | nil => rfl
  | cons d front ih =>
      have here := clear d List.mem_cons_self
      rw [pieces_cons, ih fun c member => clear c (List.mem_cons_of_mem _ member)]
      simp [pushPiece, here]

/-- A cut at a separator cuts both sides. -/
theorem pieces_append {sep : Char → Bool} {c : Char} {front back : List Char}
    (separates : sep c = true) :
    pieces sep (front ++ c :: back) = pieces sep front ++ pieces sep back := by
  induction front with
  | nil =>
      obtain ⟨piece, more, same⟩ := List.exists_cons_of_ne_nil (pieces_ne_nil sep back)
      rw [List.nil_append, pieces_cons, same]
      simp [pushPiece, separates, pieces_nil]
  | cons d front ih =>
      obtain ⟨piece, more, same⟩ := List.exists_cons_of_ne_nil (pieces_ne_nil sep front)
      rw [List.cons_append, pieces_cons, pieces_cons, ih, same]
      by_cases here : sep d = true <;> simp [pushPiece, here]

/-! ## Trimming and words -/

def trimChars (cs : List Char) : List Char :=
  ((cs.dropWhile isBlank).reverse.dropWhile isBlank).reverse

def trim (s : String) : String := String.ofList (trimChars s.toList)

/-- The non-empty pieces between blanks. -/
def wordsOf (cs : List Char) : List (List Char) :=
  (pieces isBlank cs).filter fun p => !p.isEmpty

def words (s : String) : List String := (wordsOf s.toList).map String.ofList

end ConsoleView.Text

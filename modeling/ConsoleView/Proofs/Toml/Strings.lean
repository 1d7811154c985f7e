/-
# ConsoleView.Proofs.Toml.Strings -- strings read back as they were written

The writer picks one of four forms, so there are four readings to follow.
Within a line it is one step per character: a character stands for itself or
behind a backslash (`Shown`), and the reader undoes either.  Over lines the
reader takes a whole run of quotes at once, and the writer has written it quote
by quote.  `Spelled` is what the two agree on: the written characters beside the
string, with the number of bare quotes at the front, which is never more than
two.  Reading undoes every spelling (`longRest_spelled`), and both long forms
are spellings, the basic one by its count of bare quotes and the literal one
because a string with three quotes in a row is not written in it.  Together:
what is written is read back (`text_textChars`).
-/
import ConsoleView.Toml.Text
import ConsoleView.Toml.Writer

namespace ConsoleView.Toml

set_option autoImplicit false

variable {c q : Char} {cs ws rest taken : List Char} {room : Nat}

/-! ## Escapes -/

theorem hexDigit?_capitalDigit {n : Nat} (digit : n < 16) :
    hexDigit? (capitalDigit n) = some n := by
  have all : ∀ n < 16, hexDigit? (capitalDigit n) = some n := by decide
  exact all n digit

theorem lt_of_needsCode (coded : needsCode c = true) : c.toNat < 256 := by
  simp only [needsCode, Bool.or_eq_true, Bool.and_eq_true, decide_eq_true_eq, beq_iff_eq] at coded
  omega

/-- The code of a character is read back. -/
theorem escape_codeEscape (coded : needsCode c = true) (more : List Char) :
    escape ((codeEscape c.toNat).tail ++ more) = some (c, more) := by
  have bound := lt_of_needsCode coded
  have high := hexDigit?_capitalDigit (n := c.toNat / 16) (by omega)
  have low := hexDigit?_capitalDigit (n := c.toNat % 16) (by omega)
  have zero : hexDigit? '0' = some 0 := by decide
  have code : c.toNat / 16 * 16 + c.toNat % 16 = c.toNat := by omega
  have valid : c.toNat.isValidChar := c.valid
  simp only [codeEscape, List.tail_cons, List.cons_append, List.nil_append, escape, codeChar,
    hexNumber, zero, high, low, Nat.zero_mul, Nat.zero_add, code, if_pos valid, Char.ofNat_toNat]

/-- A character other than a quote as it stands in a basic string: for itself, or behind a backslash
in a way that the reader undoes and does not take for the end of a line. -/
inductive Shown (c : Char) : List Char → Prop
  | plain (plain : isPlain c = true) (ne : c ≠ '\\') : Shown c [c]
  | escaped (code : List Char) (read : ∀ more, escape (code ++ more) = some (c, more))
      (stays : ∀ more, lineFeed? (skipBlanks (code ++ more)) = none) : Shown c ('\\' :: code)

theorem Shown.head_ne {more : List Char} (shown : Shown c ws) (ne : c ≠ '"') :
    ws ++ rest ≠ '"' :: more := by
  cases shown with
  | plain plain notBackslash => simp [ne]
  | escaped code read stays => simp

theorem Shown.length_pos (shown : Shown c ws) : 0 < ws.length := by
  cases shown <;> simp

theorem isPlain_of_needsCode (uncoded : needsCode c = false) (ne : c ≠ '\n') :
    isPlain c = true := by
  simp only [needsCode, Bool.or_eq_false_iff, Bool.and_eq_false_iff, decide_eq_false_iff_not,
    bne_eq_false_iff_eq, beq_eq_false_iff_ne] at uncoded
  simp only [isPlain, Bool.or_eq_true, Bool.and_eq_true, decide_eq_true_eq]
  rcases uncoded with ⟨(large | tab) | feed, notDelete⟩
  · exact Or.inr ⟨by omega, notDelete⟩
  · exact Or.inl tab
  · exact absurd feed ne

/-- A character is shown, or it is the end of a line in a string over lines. -/
theorem shown_basicChar (long : Bool) (c : Char) :
    Shown c (basicChar long c) ∨ long = true ∧ c = '\n' ∧ basicChar long c = ['\n'] := by
  have code : ∀ n e, c.toNat = n → Char.ofNat n = e → c = e := by
    intro n e same known
    rw [← known, ← same, Char.ofNat_toNat]
  unfold basicChar
  split
  case isTrue backslash =>
    exact Or.inl (backslash ▸ .escaped ['\\'] (fun _ => rfl) (fun _ => rfl))
  rename_i notBackslash
  split
  case isTrue bell =>
    exact Or.inl (code 8 '\x08' bell rfl ▸ .escaped ['b'] (fun _ => rfl) (fun _ => rfl))
  split
  case isTrue tab =>
    exact Or.inl (tab ▸ .escaped ['t'] (fun _ => rfl) (fun _ => rfl))
  split
  case isTrue feed =>
    cases long with
    | true => exact Or.inr ⟨rfl, feed, rfl⟩
    | false =>
        subst feed
        exact Or.inl (.escaped ['n'] (fun _ => rfl) (fun _ => rfl))
  rename_i notFeed
  split
  case isTrue form =>
    exact Or.inl (code 12 '\x0C' form rfl ▸ .escaped ['f'] (fun _ => rfl) (fun _ => rfl))
  split
  case isTrue carriage =>
    exact Or.inl (carriage ▸ .escaped ['r'] (fun _ => rfl) (fun _ => rfl))
  split
  case isTrue coded =>
    exact Or.inl (.escaped _ (escape_codeEscape coded) (fun _ => rfl))
  rename_i uncoded
  exact Or.inl (.plain (isPlain_of_needsCode (by simpa using uncoded) notFeed) notBackslash)

/-! ## Strings within a line -/

theorem basicRest_shown (shown : Shown c ws) (ne : c ≠ '"') :
    basicRest (room + 1) taken (ws ++ rest) = basicRest room (c :: taken) rest := by
  cases shown with
  | plain plain notBackslash => simp [basicRest, plain]
  | escaped code read stays => simp [basicRest, read]

/-- What stands between double quotes is read back. -/
theorem basicRest_basicChars (quotes : Nat) (fits : (basicChars false quotes cs).length < room) :
    basicRest room taken (basicChars false quotes cs ++ '"' :: rest) =
      some (String.ofList (taken.reverse ++ cs), rest) := by
  induction cs generalizing taken room quotes with
  | nil =>
      obtain ⟨room, rfl⟩ : ∃ k, room = k + 1 := ⟨room - 1, by omega⟩
      simp [basicChars, basicRest]
  | cons c cs ih =>
      obtain ⟨room, rfl⟩ : ∃ k, room = k + 1 := ⟨room - 1, by omega⟩
      by_cases quote : c = '"'
      · subst quote
        have written : basicChars false quotes ('"' :: cs) =
            '\\' :: '"' :: basicChars false 0 cs := rfl
        rw [written, List.length_cons, List.length_cons] at fits
        have later : basicRest room ('"' :: taken) (basicChars false 0 cs ++ '"' :: rest) =
            some (String.ofList (('"' :: taken).reverse ++ cs), rest) := ih 0 (by omega)
        simp [written, basicRest, escape, later]
      · have shown : Shown c (basicChar false c) := by
          rcases shown_basicChar false c with shown | ⟨long, -⟩
          · exact shown
          · cases long
        have written : basicChars false quotes (c :: cs) =
            basicChar false c ++ basicChars false 0 cs := by
          simp [basicChars, quote]
        have taking := shown.length_pos
        rw [written, List.length_append] at fits
        rw [written, List.append_assoc, basicRest_shown shown quote, ih 0 (by omega)]
        simp

/-- What stands between single quotes is read back. -/
theorem literalRest_plain (plain : ∀ c ∈ cs, isPlain c = true ∧ c ≠ '\'') :
    literalRest taken (cs ++ '\'' :: rest) = some (String.ofList (taken.reverse ++ cs), rest) := by
  induction cs generalizing taken with
  | nil => simp [literalRest]
  | cons c cs ih =>
      obtain ⟨here, notQuote⟩ := plain c List.mem_cons_self
      have later : literalRest (c :: taken) (cs ++ '\'' :: rest) =
          some (String.ofList ((c :: taken).reverse ++ cs), rest) :=
        ih fun d member => plain d (List.mem_cons_of_mem _ member)
      simp [literalRest, here, later]

/-! ## Strings over lines -/

/-- How a string is written over lines between three quotes `q`: `Spelled k cs ws` says that `ws` is
written for the string `cs`, and starts with `k` quotes, which stand for themselves. -/
inductive Spelled (escapes : Bool) (q : Char) : (quotes : Nat) → List Char → List Char → Prop
  | nil : Spelled escapes q 0 [] []
  | plain {k : Nat} {cs ws : List Char} (c : Char) (plain : isPlain c = true) (ne : c ≠ q)
      (clear : c = '\\' → escapes = false) (later : Spelled escapes q k cs ws) :
      Spelled escapes q 0 (c :: cs) (c :: ws)
  | escaped {k : Nat} {cs ws : List Char} (c : Char) (code : List Char) (basic : escapes = true)
      (read : ∀ more, escape (code ++ more) = some (c, more))
      (stays : ∀ more, lineFeed? (skipBlanks (code ++ more)) = none)
      (later : Spelled escapes q k cs ws) : Spelled escapes q 0 (c :: cs) ('\\' :: code ++ ws)
  | lineFeed {k : Nat} {cs ws : List Char} (later : Spelled escapes q k cs ws) :
      Spelled escapes q 0 ('\n' :: cs) ('\n' :: ws)
  | quote {k : Nat} {cs ws : List Char} (few : k < 2) (later : Spelled escapes q k cs ws) :
      Spelled escapes q (k + 1) (q :: cs) (q :: ws)

section Spelling

variable {escapes : Bool} {k : Nat}

theorem Shown.spelled {vs : List Char} (shown : Shown c vs) (ne : c ≠ q)
    (later : Spelled true q k cs ws) : Spelled true q 0 (c :: cs) (vs ++ ws) := by
  cases shown with
  | plain plain notBackslash =>
      exact .plain c plain ne (fun slash => absurd slash notBackslash) later
  | escaped code read stays => exact .escaped c code rfl read stays later

theorem Spelled.le_two (spelled : Spelled escapes q k cs ws) : k ≤ 2 := by
  cases spelled <;> omega

/-- The quotes at the front can be told from the rest. -/
theorem Spelled.split (spelled : Spelled escapes q k cs ws) :
    ∃ cs' ws', cs = List.replicate k q ++ cs' ∧ ws = List.replicate k q ++ ws' ∧
      Spelled escapes q 0 cs' ws' := by
  induction spelled with
  | quote few later ih =>
      obtain ⟨cs', ws', rfl, rfl, spelled⟩ := ih
      exact ⟨cs', ws', rfl, rfl, spelled⟩
  | nil => exact ⟨_, _, rfl, rfl, .nil⟩
  | plain c plain ne clear later => exact ⟨_, _, rfl, rfl, .plain c plain ne clear later⟩
  | escaped c code basic read stays later =>
      exact ⟨_, _, rfl, rfl, .escaped c code basic read stays later⟩
  | lineFeed later => exact ⟨_, _, rfl, rfl, .lineFeed later⟩

/-- A spelling that starts with no quote does not start with one by another way. -/
theorem Spelled.head_ne (spelled : Spelled escapes q 0 cs ws) (notFeed : q ≠ '\n')
    (notBackslash : q ≠ '\\') : ws.head? ≠ some q := by
  cases spelled with
  | nil => simp
  | plain c plain ne clear later => simpa using ne
  | escaped c code basic read stays later => simpa using Ne.symm notBackslash
  | lineFeed later => simpa using Ne.symm notFeed

theorem takeWhile_quotes (clear : rest.head? ≠ some q) :
    ((List.replicate k q ++ rest).takeWhile (· == q)).length = k := by
  have stops : rest.takeWhile (· == q) = [] := by
    cases rest with
    | nil => rfl
    | cons c rest =>
        have ne : c ≠ q := by simpa using clear
        simp [ne]
  have all : ∀ c ∈ List.replicate k q, (c == q) = true := by
    intro c member
    simpa using List.eq_of_mem_replicate member
  rw [List.takeWhile_append_of_pos all, stops, List.append_nil, List.length_replicate]

theorem longRest_cons_quote :
    longRest escapes q (room + 1) taken (q :: rest) =
      if (quoteRun q (q :: rest)).2 then
        some (String.ofList (List.replicate (quoteRun q (q :: rest)).1 q ++ taken).reverse,
          (q :: rest).drop ((quoteRun q (q :: rest)).1 + 3))
      else
        longRest escapes q room (List.replicate (quoteRun q (q :: rest)).1 q ++ taken)
          ((q :: rest).drop (quoteRun q (q :: rest)).1) := by
  simp [longRest]

/-- Up to two quotes belong to the string. -/
theorem longRest_quotes (pos : 0 < k) (few : k ≤ 2) (clear : rest.head? ≠ some q) :
    longRest escapes q (room + 1) taken (List.replicate k q ++ rest) =
      longRest escapes q room (List.replicate k q ++ taken) rest := by
  have run : quoteRun q (List.replicate k q ++ rest) = (k, false) := by
    simp only [quoteRun, takeWhile_quotes clear]
    exact if_pos (by omega)
  obtain ⟨n, rfl⟩ : ∃ n, k = n + 1 := ⟨k - 1, by omega⟩
  rw [List.replicate_succ, List.cons_append] at run ⊢
  rw [longRest_cons_quote, run]
  simp [List.replicate_succ]

/-- Three quotes end the string; up to two before them belong to it. -/
theorem longRest_close (few : k ≤ 2) (clear : rest.head? ≠ some q) :
    longRest escapes q (room + 1) taken (List.replicate k q ++ q :: q :: q :: rest) =
      some (String.ofList (taken.reverse ++ List.replicate k q), rest) := by
  have quotes : List.replicate k q ++ q :: q :: q :: rest = List.replicate (k + 3) q ++ rest := by
    simp [← List.replicate_append_replicate]
  have run : quoteRun q (List.replicate (k + 3) q ++ rest) = (k, true) := by
    simp only [quoteRun, takeWhile_quotes clear, Nat.add_sub_cancel]
    rw [if_neg (by omega), Nat.min_eq_left few]
  have ended : (List.replicate (k + 3) q ++ rest).drop (k + 3) = rest := by simp
  rw [quotes]
  rw [List.replicate_succ, List.cons_append] at run ended ⊢
  rw [longRest_cons_quote, run]
  simp only [if_true, ended, List.reverse_append, List.reverse_replicate]

theorem lineFeed?_of_isPlain (plain : isPlain c = true) : lineFeed? (c :: rest) = none := by
  have notFeed : c ≠ '\n' := by rintro rfl; revert plain; decide
  have notReturn : c ≠ '\r' := by rintro rfl; revert plain; decide
  simp [lineFeed?, notFeed, notReturn]

/-- One character of a spelling that is no quote is one step of the reader. -/
theorem longRest_plain (plain : isPlain c = true) (ne : c ≠ q)
    (clear : c = '\\' → escapes = false) :
    longRest escapes q (room + 1) taken (c :: rest) =
      longRest escapes q room (c :: taken) rest := by
  have literal : ¬ (decide (c = '\\') && escapes) = true := by
    intro both
    simp only [Bool.and_eq_true, decide_eq_true_eq] at both
    rw [clear both.1] at both
    cases both.2
  rw [longRest, if_neg ne, if_neg literal, lineFeed?_of_isPlain plain]
  simp only [plain, if_true]

theorem longRest_escape {more : List Char} (basic : escapes = true) (notBackslash : q ≠ '\\')
    (read : escape more = some (c, rest)) (stays : lineFeed? (skipBlanks more) = none) :
    longRest escapes q (room + 1) taken ('\\' :: more) =
      longRest escapes q room (c :: taken) rest := by
  rw [longRest, if_neg (Ne.symm notBackslash), basic]
  simp only [decide_true, Bool.and_self, if_true, stays, read]

theorem longRest_lineFeed (notFeed : q ≠ '\n') :
    longRest escapes q (room + 1) taken ('\n' :: rest) =
      longRest escapes q room ('\n' :: taken) rest := by
  rw [longRest, if_neg (Ne.symm notFeed)]
  rfl

/-- **Reading undoes every spelling**, by induction on the length, as one step may take two quotes. -/
theorem longRest_spelled (spelled : Spelled escapes q k cs ws) (notFeed : q ≠ '\n')
    (notBackslash : q ≠ '\\') (fits : ws.length < room) (clear : rest.head? ≠ some q) :
    longRest escapes q room taken (ws ++ q :: q :: q :: rest) =
      some (String.ofList (taken.reverse ++ cs), rest) := by
  induction length : ws.length using Nat.strongRecOn generalizing k cs ws taken room with
  | _ n ih =>
  obtain ⟨room, rfl⟩ : ∃ m, room = m + 1 := ⟨room - 1, by omega⟩
  rcases Nat.eq_zero_or_pos k with none | pos
  · subst none
    cases spelled with
    | nil => exact longRest_close (Nat.zero_le 2) clear
    | plain c plain ne clearSlash later =>
        simp only [List.length_cons] at fits length
        rw [List.cons_append, longRest_plain plain ne clearSlash,
          ih _ (by omega) later (by omega) rfl]
        simp
    | escaped c code basic read stays later =>
        simp only [List.length_cons, List.length_append, List.cons_append] at fits length
        rw [List.cons_append, List.cons_append, List.append_assoc,
          longRest_escape basic notBackslash (read _) (stays _),
          ih _ (by omega) later (by omega) rfl]
        simp
    | lineFeed later =>
        simp only [List.length_cons] at fits length
        rw [List.cons_append, longRest_lineFeed notFeed, ih _ (by omega) later (by omega) rfl]
        simp
  · have few := spelled.le_two
    obtain ⟨cs, ws, rfl, rfl, later⟩ := spelled.split
    simp only [List.length_append, List.length_replicate] at fits length
    rw [List.append_assoc]
    cases ws with
    | nil =>
        cases later
        rw [List.nil_append, List.append_nil]
        exact longRest_close few clear
    | cons c ws =>
        have front : (c :: ws ++ q :: q :: q :: rest).head? ≠ some q :=
          later.head_ne notFeed notBackslash
        rw [longRest_quotes pos few front, ih _ (by omega) later (by omega) rfl]
        simp

end Spelling

/-! ## The two long forms -/

/-- The writer of basic strings leaves bare quotes, of which there are never three in a row:
`before` have just been left, and `front` are next. -/
theorem spelled_basicChars (cs : List Char) (before : Nat) (few : before ≤ 2) :
    ∃ front, front + before ≤ 2 ∧ Spelled true '"' front cs (basicChars true before cs) := by
  induction cs generalizing before with
  | nil => exact ⟨0, by omega, .nil⟩
  | cons c cs ih =>
      by_cases quote : c = '"'
      · subst quote
        by_cases room : before < 2
        · obtain ⟨front, bound, spelled⟩ := ih (before + 1) (by omega)
          have written : basicChars true before ('"' :: cs) =
              '"' :: basicChars true (before + 1) cs := by
            simp [basicChars, room]
          rw [written]
          exact ⟨front + 1, by omega, .quote (by omega) spelled⟩
        · obtain ⟨front, -, spelled⟩ := ih 0 (by omega)
          have written : basicChars true before ('"' :: cs) =
              '\\' :: ['"'] ++ basicChars true 0 cs := by
            simp [basicChars, room]
          rw [written]
          exact ⟨0, by omega, .escaped '"' ['"'] rfl (fun _ => rfl) (fun _ => rfl) spelled⟩
      · obtain ⟨front, -, spelled⟩ := ih 0 (by omega)
        have written : basicChars true before (c :: cs) =
            basicChar true c ++ basicChars true 0 cs := by
          simp [basicChars, quote]
        rw [written]
        refine ⟨0, by omega, ?_⟩
        rcases shown_basicChar true c with shown | ⟨-, rfl, feed⟩
        · exact shown.spelled quote spelled
        · rw [feed]
          exact .lineFeed spelled

/-- A string without control characters and without three quotes in a row is its own literal
spelling. -/
theorem spelled_literal (uncoded : ∀ c ∈ cs, needsCode c = false)
    (apart : ¬ List.replicate 3 q <:+: cs) : ∃ front, Spelled false q front cs cs := by
  induction cs with
  | nil => exact ⟨0, .nil⟩
  | cons c cs ih =>
      have apart' : ¬ List.replicate 3 q <:+: cs := fun infixed => apart (List.infix_cons infixed)
      obtain ⟨front, spelled⟩ :=
        ih (fun d member => uncoded d (List.mem_cons_of_mem _ member)) apart'
      by_cases quote : c = q
      · subst quote
        by_cases few : front < 2
        · exact ⟨front + 1, .quote few spelled⟩
        · obtain ⟨rest, -, split, -, -⟩ := spelled.split
          have two : front = 2 := by have := spelled.le_two; omega
          rw [split, two] at apart
          exact absurd ⟨[], rest, by simp [List.replicate_succ]⟩ apart
      · by_cases feed : c = '\n'
        · subst feed
          exact ⟨0, .lineFeed spelled⟩
        · have plain := isPlain_of_needsCode (uncoded c List.mem_cons_self) feed
          exact ⟨0, .plain c plain quote (fun _ => rfl) spelled⟩

/-! ## The choice of a form -/

/-- One step of counting runs: the longest run so far, and the run that ends here. -/
def countRun (c : Char) (counts : Nat × Nat) (d : Char) : Nat × Nat :=
  if d = c then (max counts.1 (counts.2 + 1), counts.2 + 1) else (counts.1, 0)

theorem longestRun_eq (c : Char) (cs : List Char) :
    longestRun c cs = (cs.foldl (countRun c) (0, 0)).1 := rfl

theorem le_foldl_countRun (c : Char) (cs : List Char) (counts : Nat × Nat) :
    counts.1 ≤ (cs.foldl (countRun c) counts).1 := by
  induction cs generalizing counts with
  | nil => exact Nat.le_refl _
  | cons d cs ih =>
      have here : counts.1 ≤ (countRun c counts d).1 := by
        unfold countRun
        split
        · exact Nat.le_max_left _ _
        · exact Nat.le_refl _
      rw [List.foldl_cons]
      exact Nat.le_trans here (ih _)

theorem foldl_countRun_replicate (c : Char) {n : Nat} (pos : 0 < n) (counts : Nat × Nat) :
    counts.2 + n ≤ ((List.replicate n c).foldl (countRun c) counts).1 := by
  induction n generalizing counts with
  | zero => omega
  | succ n ih =>
      have here : countRun c counts c = (max counts.1 (counts.2 + 1), counts.2 + 1) := if_pos rfl
      rw [List.replicate_succ, List.foldl_cons, here]
      rcases Nat.eq_zero_or_pos n with rfl | more
      · exact Nat.le_max_right _ _
      · have later := ih more (max counts.1 (counts.2 + 1), counts.2 + 1)
        simp only at later
        omega

/-- No run is longer than the longest. -/
theorem le_longestRun {n : Nat} (infixed : List.replicate n c <:+: cs) : n ≤ longestRun c cs := by
  obtain ⟨front, back, rfl⟩ := infixed
  rw [longestRun_eq, List.foldl_append, List.foldl_append]
  rcases Nat.eq_zero_or_pos n with rfl | pos
  · exact Nat.zero_le _
  · have counted := foldl_countRun_replicate c pos (front.foldl (countRun c) (0, 0))
    have kept := le_foldl_countRun c back
      ((List.replicate n c).foldl (countRun c) (front.foldl (countRun c) (0, 0)))
    omega

theorem not_mem_of_longestRun (none : longestRun c cs = 0) : c ∉ cs := by
  intro member
  obtain ⟨front, back, rfl⟩ := List.append_of_mem member
  have one : List.replicate 1 c <:+: front ++ c :: back := ⟨front, back, by simp⟩
  have counted := le_longestRun one
  omega

theorem not_infix_of_longestRun (few : longestRun c cs ≤ 2) : ¬ List.replicate 3 c <:+: cs := by
  intro infixed
  have three := le_longestRun infixed
  omega

theorem of_formOf_literal (form : formOf cs = .literal) :
    cs ≠ [] ∧ ∀ c ∈ cs, isPlain c = true ∧ c ≠ '\'' := by
  refine ⟨?_, ?_⟩
  · rintro rfl
    cases form
  · dsimp only [formOf] at form
    split at form
    · cases form
    · split at form
      · rename_i clear
        simp only [Bool.and_eq_true, Bool.not_eq_true', List.any_eq_false, Bool.not_eq_true,
          List.contains_eq_mem, decide_eq_false_iff_not, beq_iff_eq] at clear
        obtain ⟨⟨uncoded, noFeed⟩, noQuote⟩ := clear
        intro c member
        have notFeed : c ≠ '\n' := by rintro rfl; exact noFeed member
        have notQuote : c ≠ '\'' := by rintro rfl; exact not_mem_of_longestRun noQuote member
        exact ⟨isPlain_of_needsCode (uncoded c member) notFeed, notQuote⟩
      · split at form
        · cases form
        · split at form
          · cases form
          · split at form <;> cases form

theorem of_formOf_longLiteral (form : formOf cs = .longLiteral) :
    (∀ c ∈ cs, needsCode c = false) ∧ ¬ List.replicate 3 '\'' <:+: cs := by
  dsimp only [formOf] at form
  split at form
  · cases form
  · split at form
    · cases form
    · split at form
      · cases form
      · split at form
        · rename_i clear
          simp only [Bool.and_eq_true, Bool.not_eq_true', List.any_eq_false, Bool.not_eq_true,
            decide_eq_true_eq] at clear
          exact ⟨clear.1, not_infix_of_longestRun clear.2⟩
        · split at form <;> cases form

/-! ## Any string -/

/-- Two quotes that are not followed by a third are a string without characters. -/
theorem text_basic (room : Nat) (clear : rest.head? ≠ some '"') :
    text room ('"' :: (basicChars false 0 cs ++ '"' :: rest)) =
      basicRest room [] (basicChars false 0 cs ++ '"' :: rest) := by
  have apart : ∀ more, basicChars false 0 cs ++ '"' :: rest ≠ '"' :: '"' :: more := by
    intro more same
    cases cs with
    | nil =>
        rw [basicChars, List.nil_append] at same
        rw [(List.cons.inj same).2] at clear
        exact clear rfl
    | cons c cs =>
        by_cases quote : c = '"'
        · simp [basicChars, quote] at same
        · have written : basicChars false 0 (c :: cs) =
              basicChar false c ++ basicChars false 0 cs := by
            simp [basicChars, quote]
          rw [written, List.append_assoc] at same
          rcases shown_basicChar false c with shown | ⟨long, -⟩
          · exact shown.head_ne quote same
          · cases long
  rw [text]
  intro more same
  exact apart more same

theorem text_literal (room : Nat) (nonempty : cs ≠ []) (clear : ∀ c ∈ cs, c ≠ '\'') :
    text room ('\'' :: (cs ++ rest)) = literalRest [] (cs ++ rest) := by
  obtain ⟨c, cs, rfl⟩ := List.exists_cons_of_ne_nil nonempty
  have notQuote := clear c List.mem_cons_self
  simp [text, notQuote]

/-- No spelling starts with a line end, unless the string does. -/
theorem lineFeed?_spelled {escapes : Bool} {k : Nat} (spelled : Spelled escapes q k cs ws)
    (noFeed : '\n' ∉ cs) (notFeed : q ≠ '\n') (notReturn : q ≠ '\r') (more : List Char) :
    lineFeed? (ws ++ q :: more) = none := by
  have quoted : ∀ cs, lineFeed? (q :: cs) = none := by
    intro cs
    simp [lineFeed?, notFeed, notReturn]
  cases spelled with
  | nil => exact quoted _
  | plain c plain ne clear later => exact lineFeed?_of_isPlain plain
  | escaped c code basic read stays later => rfl
  | lineFeed later => exact absurd List.mem_cons_self noFeed
  | quote few later => exact quoted _

/-- The line end that was put after the opening quotes does not count, and no other is there. -/
theorem skipFirstLineFeed_spelled {escapes : Bool} {k : Nat} (spelled : Spelled escapes q k cs ws)
    (notFeed : q ≠ '\n') (notReturn : q ≠ '\r') (more : List Char) :
    skipFirstLineFeed ((if cs.contains '\n' then ['\n'] else []) ++ (ws ++ q :: more)) =
      ws ++ q :: more := by
  by_cases lined : cs.contains '\n' = true
  · rw [if_pos lined]
    rfl
  · have noFeed : '\n' ∉ cs := by simpa using lined
    have none := lineFeed?_spelled spelled noFeed notFeed notReturn more
    rw [if_neg lined, List.nil_append, skipFirstLineFeed, none]
    rfl

/-- **What is written for a string is read back**, whatever comes after it that is no quote. -/
theorem text_textChars (s : String) (fits : (textChars s).length ≤ room)
    (clear : ∀ c ∈ rest.head?, c ≠ '"' ∧ c ≠ '\'') :
    text room (textChars s ++ rest) = some (s, rest) := by
  have noDouble : rest.head? ≠ some '"' := fun head => (clear _ head).1 rfl
  have noSingle : rest.head? ≠ some '\'' := fun head => (clear _ head).2 rfl
  have whole : String.ofList s.toList = s := String.ofList_toList
  cases form : formOf s.toList with
  | basic =>
      have written : textChars s = '"' :: (basicChars false 0 s.toList ++ ['"']) := by
        simp [textChars, form]
      rw [written] at fits ⊢
      simp only [List.length_cons, List.length_append, List.length_nil] at fits
      have read : basicRest room [] (basicChars false 0 s.toList ++ '"' :: rest) =
          some (s, rest) := by
        rw [basicRest_basicChars 0 (by omega), List.reverse_nil, List.nil_append, whole]
      simp only [List.cons_append, List.append_assoc, List.nil_append]
      rw [text_basic room noDouble, read]
  | literal =>
      obtain ⟨nonempty, plain⟩ := of_formOf_literal form
      have written : textChars s = '\'' :: (s.toList ++ ['\'']) := by
        simp [textChars, form]
      have read : literalRest [] (s.toList ++ '\'' :: rest) = some (s, rest) := by
        rw [literalRest_plain plain, List.reverse_nil, List.nil_append, whole]
      rw [written]
      simp only [List.cons_append, List.append_assoc, List.nil_append]
      rw [text_literal room nonempty fun c member => (plain c member).2, read]
  | longBasic =>
      have written : textChars s =
          '"' :: '"' :: '"' :: ((if s.toList.contains '\n' then ['\n'] else []) ++
            (basicChars true 0 s.toList ++ ['"', '"', '"'])) := by
        simp [textChars, form]
      obtain ⟨front, -, spelled⟩ := spelled_basicChars s.toList 0 (by omega)
      rw [written] at fits ⊢
      simp only [List.length_cons, List.length_append, List.length_nil] at fits
      have read : longRest true '"' room []
          (basicChars true 0 s.toList ++ '"' :: '"' :: '"' :: rest) = some (s, rest) := by
        rw [longRest_spelled spelled (by decide) (by decide) (by omega) noDouble, List.reverse_nil,
          List.nil_append, whole]
      simp only [List.cons_append, List.append_assoc, List.nil_append]
      rw [text, skipFirstLineFeed_spelled spelled (by decide) (by decide), read]
  | longLiteral =>
      have written : textChars s =
          '\'' :: '\'' :: '\'' :: ((if s.toList.contains '\n' then ['\n'] else []) ++
            (s.toList ++ ['\'', '\'', '\''])) := by
        simp [textChars, form]
      obtain ⟨uncoded, apart⟩ := of_formOf_longLiteral form
      obtain ⟨front, spelled⟩ := spelled_literal uncoded apart
      rw [written] at fits ⊢
      simp only [List.length_cons, List.length_append, List.length_nil] at fits
      have read : longRest false '\'' room [] (s.toList ++ '\'' :: '\'' :: '\'' :: rest) =
          some (s, rest) := by
        rw [longRest_spelled spelled (by decide) (by decide) (by omega) noSingle, List.reverse_nil,
          List.nil_append, whole]
      simp only [List.cons_append, List.append_assoc, List.nil_append]
      rw [text, skipFirstLineFeed_spelled spelled (by decide) (by decide), read]

end ConsoleView.Toml

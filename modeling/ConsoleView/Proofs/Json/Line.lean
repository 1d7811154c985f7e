/-
# ConsoleView.Proofs.Json.Line -- the text of a JSON value is one line

Everything that is written is written with characters from the space on: digits,
signs and brackets are such characters, and of the others strings escape those
below the space.  So no line break stands in the text of a value
(`newline_not_mem_print`), whatever its strings and names hold.
-/
import ConsoleView.Json.Printer
import Mathlib.Data.List.Basic

namespace ConsoleView

set_option autoImplicit false

/-! ## Visible characters -/

/-- No character is below the space. -/
def Visible (cs : List Char) : Prop := ∀ c ∈ cs, 0x20 ≤ c.toNat

instance (cs : List Char) : Decidable (Visible cs) :=
  decidable_of_iff (cs.all fun c => decide (0x20 ≤ c.toNat)) (by simp [Visible])

namespace Visible

variable {front back cs : List Char}

theorem append (first : Visible front) (second : Visible back) : Visible (front ++ back) :=
  fun c member => (List.mem_append.1 member).elim (first c) (second c)

theorem cons {c : Char} (first : 0x20 ≤ c.toNat) (later : Visible cs) : Visible (c :: cs) :=
  List.forall_mem_cons.2 ⟨first, later⟩

theorem flatMap {α : Type} {items : List α} {f : α → List Char} (each : ∀ a ∈ items, Visible (f a)) :
    Visible (items.flatMap f) := by
  intro c member
  obtain ⟨a, listed, written⟩ := List.mem_flatMap.1 member
  exact each a listed c written

theorem of_subset (visible : Visible cs) (part : front ⊆ cs) : Visible front :=
  fun c member => visible c (part member)

theorem newline_not_mem (visible : Visible cs) : '\n' ∉ cs :=
  fun member => absurd (visible '\n' member) (by decide)

end Visible

/-! ## Numbers -/

theorem visible_decimalDigits (n : Nat) : Visible (decimalDigits n) := by
  intro c member
  have digit := Nat.isDigit_of_mem_toDigits (by decide) (by decide) member
  simp only [Char.isDigit, Bool.and_eq_true, decide_eq_true_eq] at digit
  have low : '0'.toNat ≤ c.toNat := digit.1
  exact Nat.le_trans (by decide) low

namespace NumberLayout

theorem visible_zeros (n : Nat) : Visible (zeros n) := by
  intro c member
  rw [List.eq_of_mem_replicate member]
  decide

variable {l : NumberLayout} {ds : List Char}

theorem visible_writePoint (digits : Visible ds) (wholeEnd : Visible l.wholeEnd) (exponent : Int) :
    Visible (l.writePoint ds exponent) := by
  rw [writePoint]
  split
  · exact (digits.append (visible_zeros _)).append wholeEnd
  · dsimp only
    split
    · exact (digits.of_subset (List.take_subset _ ds)).append
        (.cons (by decide) (digits.of_subset (List.drop_subset _ ds)))
    · exact .cons (by decide) (.cons (by decide) ((visible_zeros _).append digits))

theorem visible_writeExponent (digits : Visible ds) (lead : Int) :
    Visible (writeExponent ds lead) := by
  unfold writeExponent
  refine .append ?_ (.cons (by decide) (.cons ?_ (visible_decimalDigits _)))
  · match ds with
    | [] | [_] => exact digits
    | d :: e :: rest =>
        obtain ⟨first, later⟩ := List.forall_mem_cons.1 digits
        exact .cons first (.cons (by decide) later)
  · split <;> decide

theorem visible_writeDecimal (wholeEnd : Visible l.wholeEnd) (d : Decimal) :
    Visible (l.writeDecimal d) := by
  rw [writeDecimal]
  split
  · exact visible_writePoint (visible_decimalDigits _) wholeEnd _
  · exact visible_writeExponent (visible_decimalDigits _) _

end NumberLayout

namespace Json

theorem visible_realChars (x : Float) : Visible (realChars x) := by
  rw [realChars]
  split
  · refine .append ?_ (NumberLayout.visible_writeDecimal (by decide) _)
    split <;> decide
  · decide

theorem visible_intChars (n : Int) : Visible (intChars n) := by
  refine .append ?_ (visible_decimalDigits _)
  split <;> decide

/-! ## Values -/

theorem visible_stringChars (s : String) : Visible (stringChars s) :=
  .cons (by decide) (.append (.flatMap fun _ _ _ => le_toNat_of_mem_escapeChar) (by decide))

mutual

/-- **All of the text of a value is visible.** -/
theorem visible_chars (j : Json) : Visible (chars j) := by
  match j with
  | .null | .bool true | .bool false => decide
  | .int n => exact visible_intChars n
  | .real x => exact visible_realChars x
  | .string s => exact visible_stringChars s
  | .array items => exact .cons (by decide) (.append (visible_itemChars items) (by decide))
  | .object fields => exact .cons (by decide) (.append (visible_fieldChars fields) (by decide))

theorem visible_itemChars (items : List Json) : Visible (itemChars items) := by
  match items with
  | [] => exact nofun
  | [j] => exact visible_chars j
  | j :: k :: rest =>
      exact .append (visible_chars j) (.cons (by decide) (visible_itemChars (k :: rest)))

theorem visible_fieldChars (fields : List (String × Json)) : Visible (fieldChars fields) := by
  match fields with
  | [] => exact nofun
  | [(name, j)] =>
      exact .append (visible_stringChars name) (.cons (by decide) (visible_chars j))
  | (name, j) :: field :: rest =>
      exact .append (.append (visible_stringChars name) (.cons (by decide) (visible_chars j)))
        (.cons (by decide) (visible_fieldChars (field :: rest)))

end

theorem newline_not_mem_print (j : Json) : '\n' ∉ j.print.toList := by
  rw [print, String.toList_ofList]
  exact (visible_chars j).newline_not_mem

end Json

end ConsoleView

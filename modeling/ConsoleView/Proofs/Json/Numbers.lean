/-
# ConsoleView.Proofs.Json.Numbers -- numbers that are read and written again

A JSON value holds whole numbers of sixty-four bits and finite doubles only
(`NumbersFit`).  So a double that has been read from one is finite, whichever of
the two it was read from, and a finite double is written as a number and read
back.  What every reading of a field keeps, a record keeps when it is read
(`RecordShape.read_keeps`).
-/
import ConsoleView.Proofs.Decimal.Whole
import ConsoleView.Proofs.Json.Record

namespace ConsoleView.Json

set_option autoImplicit false

/-- Each number in a value is a whole number of sixty-four bits, with or without a sign, or a
finite double. -/
def NumbersFit : Json → Prop
  | .int n => -2 ^ 63 ≤ n ∧ n < 2 ^ 64
  | .real x => x.isFinite = true
  | .array items => inItems items
  | .object fields => inFields fields
  | _ => True
where
  inItems : List Json → Prop
    | [] => True
    | j :: rest => NumbersFit j ∧ inItems rest
  inFields : List (String × Json) → Prop
    | [] => True
    | (_, j) :: rest => NumbersFit j ∧ inFields rest

/-! ## Doubles -/

namespace Codec

theorem roundTrips_float {x : Float} (finite : x.isFinite = true) : float.RoundTrips x := by
  obtain ⟨negative, value, number⟩ := finite_ofFloat finite
  simp only [RoundTrips, float, number]

theorem finite_of_read_float {j : Json} (fits : j.NumbersFit) {x : Float}
    (read : float.read j = .ok x) : x.isFinite = true := by
  cases j with
  | real y =>
      obtain rfl : y = x := Except.ok.inj read
      exact fits
  | int n =>
      obtain rfl : Float.ofInt n = x := Except.ok.inj read
      exact isFinite_ofInt fits.1 fits.2
  | _ => cases read

end Codec

/-! ## Records -/

namespace RecordShape

variable {ρ : Type} {P : ρ → Prop}

theorem putEntries_keeps {fields : List (Field ρ)}
    (put : ∀ f ∈ fields, ∀ {j r next}, j.NumbersFit → P r → f.put j r = .ok next → P next)
    {entries : Entries Json} {seen names : List String} {r last : ρ}
    (fit : NumbersFit.inFields entries) (start : P r)
    (done : putEntries fields entries seen r = .ok (last, names)) : P last := by
  induction entries generalizing seen r with
  | nil =>
      cases done
      exact start
  | cons e rest ih =>
      obtain ⟨name, j⟩ := e
      rw [putEntries] at done
      split at done
      · exact ih fit.2 start done
      · rename_i f found
        split at done
        · cases done
        · split at done
          · cases done
          · rename_i next first
            exact ih fit.2 (put f (List.mem_of_find?_eq_some found) fit.1 start first) done

theorem putItems_keeps {shape : RecordShape ρ} {length : Nat} {fields : List (Field ρ)}
    (put : ∀ f ∈ fields, ∀ {j r next}, j.NumbersFit → P r → f.put j r = .ok next → P next)
    {items : List Json} {position : Nat} {r last : ρ}
    (fit : NumbersFit.inItems items) (start : P r)
    (done : putItems shape length fields items position r = .ok last) : P last := by
  induction fields generalizing items position r with
  | nil =>
      cases items with
      | nil =>
          cases done
          exact start
      | cons j rest => cases done
  | cons f fields ih =>
      have later := @ih fun g member => put g (List.mem_cons_of_mem _ member)
      cases items with
      | nil =>
          rw [putItems] at done
          split at done
          · cases done
          · exact later fit start done
      | cons j rest =>
          rw [putItems] at done
          split at done
          · cases done
          · rename_i next first
            exact later fit.2 (put f List.mem_cons_self fit.1 start first) done

/-- **What the defaults have and every reading of a field keeps, a record that has been read
has.** -/
theorem read_keeps {shape : RecordShape ρ} (blank : P shape.blank)
    (put : ∀ f ∈ shape.fields, ∀ {j r next}, j.NumbersFit → P r → f.put j r = .ok next → P next)
    {j : Json} {r : ρ} (fits : j.NumbersFit) (read : shape.read j = .ok r) : P r := by
  cases j with
  | object entries =>
      obtain ⟨names, done⟩ := put_of_read_object read
      exact putEntries_keeps put fits blank done
  | array items => exact putItems_keeps put fits blank read
  | _ => cases read

end RecordShape

end ConsoleView.Json

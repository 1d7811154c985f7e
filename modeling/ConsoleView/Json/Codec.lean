/-
# ConsoleView.Json.Codec -- types written as JSON and read back

A `Codec` is a pair of a writer and a reader.  It is lawful when reading what
was written gives the value back; the scalar codecs here are.  Integers are read
from integers only, within the bounds of their type; a double is read from a
number of either kind.
-/
import ConsoleView.Json.Mismatch

namespace ConsoleView.Json

set_option autoImplicit false

/-- How the values of a type are written as JSON and read back. -/
structure Codec (α : Type) where
  write : α → Json
  read : Json → Except Mismatch α

namespace Codec

/-- Reading undoes writing. -/
def RoundTrips {α : Type} (codec : Codec α) (a : α) : Prop := codec.read (codec.write a) = .ok a

/-- Reading undoes writing for every value. -/
def Lawful {α : Type} (codec : Codec α) : Prop := ∀ a, codec.RoundTrips a

/-! ## Scalars -/

/-- Any JSON value, kept as it is. -/
def raw : Codec Json where
  write := id
  read := .ok

def string : Codec String where
  write := .string
  read
    | .string s => .ok s
    | j => .error (.wrongKind j .string)

def path : Codec String where
  write := .string
  read
    | .string s => .ok s
    | j => .error (.wrongKind j .path)

def bool : Codec Bool where
  write := .bool
  read
    | .bool b => .ok b
    | j => .error (.wrongKind j .boolean)

def readInt (wanted : Wanted) (low high : Int) : Json → Except Mismatch Int
  | .int n => if low ≤ n ∧ n ≤ high then .ok n else .error (.outOfBounds n wanted)
  | j => .error (.wrongKind j wanted)

def uint32 : Codec UInt32 where
  write n := .int n.toNat
  read j := return UInt32.ofNat (← readInt .uint32 0 (UInt32.size - 1) j).toNat

def uint64 : Codec UInt64 where
  write n := .int n.toNat
  read j := return UInt64.ofNat (← readInt .uint64 0 (UInt64.size - 1) j).toNat

def int64 : Codec Int64 where
  write n := .int n.toInt
  read j := return Int64.ofInt (← readInt .int64 Int64.minValue.toInt Int64.maxValue.toInt j)

/-- A position in a list; positions take sixty-four bits. -/
def index : Codec Nat where
  write n := .int n
  read j := return (← readInt .index 0 (UInt64.size - 1) j).toNat

/-- A double; the values without digits are written as `null`. -/
def float : Codec Float where
  write x :=
    match Double.ofFloat x with
    | .finite _ _ => .real x
    | _ => .null
  read
    | .real x => .ok x
    | .int n => .ok (Float.ofInt n)
    | j => .error (.wrongKind j .float)

/-! ## Options and lists -/

/-- Nothing is written as `null`. -/
def option {α : Type} (codec : Codec α) : Codec (Option α) where
  write
    | none => .null
    | some a => codec.write a
  read
    | .null => .ok none
    | j => some <$> codec.read j

def list {α : Type} (codec : Codec α) : Codec (List α) where
  write items := .array (items.map codec.write)
  read
    | .array items => items.mapM codec.read
    | j => .error (.wrongKind j .sequence)

/-! ## Laws -/

theorem lawful_raw : raw.Lawful := fun _ => rfl

theorem lawful_string : string.Lawful := fun _ => rfl

theorem lawful_path : path.Lawful := fun _ => rfl

theorem lawful_bool : bool.Lawful := fun _ => rfl

theorem readInt_int {wanted : Wanted} {low high n : Int} (bounds : low ≤ n ∧ n ≤ high) :
    readInt wanted low high (.int n) = .ok n := if_pos bounds

theorem lawful_uint32 : uint32.Lawful := by
  intro n
  have bounds : (0 : Int) ≤ n.toNat ∧ (n.toNat : Int) ≤ UInt32.size - 1 := by
    have := n.toNat_lt
    simp only [UInt32.size]
    omega
  simp only [RoundTrips, uint32, readInt_int bounds]
  exact congrArg Except.ok (by simp)

theorem lawful_uint64 : uint64.Lawful := by
  intro n
  have bounds : (0 : Int) ≤ n.toNat ∧ (n.toNat : Int) ≤ UInt64.size - 1 := by
    have := n.toNat_lt
    simp only [UInt64.size]
    omega
  simp only [RoundTrips, uint64, readInt_int bounds]
  exact congrArg Except.ok (by simp)

theorem lawful_int64 : int64.Lawful := by
  intro n
  have bounds : Int64.minValue.toInt ≤ n.toInt ∧ n.toInt ≤ Int64.maxValue.toInt := by
    have := n.le_toInt
    have := n.toInt_lt
    have : Int64.minValue.toInt = -9223372036854775808 := by decide
    have : Int64.maxValue.toInt = 9223372036854775807 := by decide
    omega
  simp only [RoundTrips, int64, readInt_int bounds]
  exact congrArg Except.ok (Int64.ofInt_toInt n)

theorem roundTrips_index {n : Nat} (bound : n < UInt64.size) : index.RoundTrips n := by
  have bounds : (0 : Int) ≤ n ∧ (n : Int) ≤ UInt64.size - 1 := by
    simp only [UInt64.size] at bound ⊢
    omega
  simp only [RoundTrips, index, readInt_int bounds]
  rfl

/-- An option is given back by the codec of its value, unless that writes some value as `null`. -/
theorem lawful_option {α : Type} {codec : Codec α} (lawful : codec.Lawful)
    (shown : ∀ a, codec.write a ≠ .null) : (option codec).Lawful := by
  rintro (_ | a)
  · rfl
  · have h := lawful a
    simp only [RoundTrips, option] at h ⊢
    cases eq : codec.write a with
    | null => exact absurd eq (shown a)
    | _ => rw [eq] at h; simp only [h]; rfl

end Codec

end ConsoleView.Json

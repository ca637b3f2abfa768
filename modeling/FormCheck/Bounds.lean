namespace FormCheck

/-- An interval of lengths that contains its ends. A missing end is no limit. -/
structure Bounds where
  min : Option Nat
  max : Option Nat
deriving DecidableEq, Repr

namespace Bounds

/-- The interval of all lengths. -/
def unbounded : Bounds := ⟨none, none⟩

instance : Inhabited Bounds := ⟨unbounded⟩

/-- The interval between two ends. Two ends that are both given may come in either order. -/
def between (a b : Option Nat) : Bounds :=
  match a, b with
  | some m, some n => if n < m then ⟨some n, some m⟩ else ⟨some m, some n⟩
  | _, _ => ⟨a, b⟩

def sorted (a b : Nat) : Bounds := between (some a) (some b)

def atMost (n : Nat) : Bounds := between none (some n)

def atLeast (n : Nat) : Bounds := between (some n) none

/-- Whether a length lies within the interval. -/
def contains (b : Bounds) (n : Nat) : Bool :=
  b.min.all (· ≤ n) && b.max.all (n ≤ ·)

theorem contains_iff {b : Bounds} {n : Nat} :
    b.contains n = true ↔ (∀ m, b.min = some m → m ≤ n) ∧ (∀ m, b.max = some m → n ≤ m) := by
  obtain ⟨min, max⟩ := b
  cases min <;> cases max <;> simp [contains]

theorem min_sorted (a b : Nat) : (sorted a b).min = some (Min.min a b) := by
  simp only [sorted, between]
  split <;> simp <;> omega

theorem max_sorted (a b : Nat) : (sorted a b).max = some (Max.max a b) := by
  simp only [sorted, between]
  split <;> simp <;> omega

/-- An end of an interval as the lines of the log show it. -/
def endText : Option Nat → String
  | none => "None"
  | some n => "Some(" ++ toString n ++ ")"

/-- The interval as the lines of the log show it, with both ends in any case. -/
def logText (b : Bounds) : String :=
  "Range \x7b min: " ++ endText b.min ++ ", max: " ++ endText b.max ++ " \x7d"

end Bounds

end FormCheck

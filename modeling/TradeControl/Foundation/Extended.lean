import Mathlib.Algebra.Order.Group.Abs
import Mathlib.Algebra.Order.Ring.Rat

namespace Foundation

/-- A number that may be infinite or none at all; finite values are exact. -/
inductive Extended
  | finite (value : Rat)
  | posInf
  | negInf
  | nan
  deriving DecidableEq

namespace Extended

def isFinite : Extended → Bool
  | finite _ => true
  | posInf | negInf | nan => false

/-- No comparison with `nan` holds. -/
def lt : Extended → Extended → Bool
  | finite a, finite b => a < b
  | finite _, posInf | negInf, finite _ | negInf, posInf => true
  | _, _ => false

def le : Extended → Extended → Bool
  | finite a, finite b => a ≤ b
  | finite _, posInf | negInf, finite _ | negInf, posInf | posInf, posInf | negInf, negInf => true
  | _, _ => false

/-- The other number where one is `nan`. -/
def max : Extended → Extended → Extended
  | nan, b => b
  | a, nan => a
  | a, b => if a.lt b then b else a

def neg : Extended → Extended
  | finite a => finite (-a)
  | posInf => negInf
  | negInf => posInf
  | nan => nan

def abs : Extended → Extended
  | finite a => finite |a|
  | posInf | negInf => posInf
  | nan => nan

def add : Extended → Extended → Extended
  | finite a, finite b => finite (a + b)
  | nan, _ | _, nan | posInf, negInf | negInf, posInf => nan
  | posInf, _ | _, posInf => posInf
  | negInf, _ | _, negInf => negInf

def sub (a b : Extended) : Extended := a.add b.neg

/-- The infinity of the sign of a factor; a zero leaves none. -/
def infinityOf (factor : Rat) : Extended := if 0 < factor then posInf else if factor < 0 then negInf else nan

def mul : Extended → Extended → Extended
  | finite a, finite b => finite (a * b)
  | nan, _ | _, nan => nan
  | posInf, finite a | finite a, posInf => infinityOf a
  | negInf, finite a | finite a, negInf => (infinityOf a).neg
  | posInf, posInf | negInf, negInf => posInf
  | posInf, negInf | negInf, posInf => negInf

/-- Division by zero is by a zero of positive sign. -/
def div : Extended → Extended → Extended
  | finite a, finite b => if b = 0 then infinityOf a else finite (a / b)
  | nan, _ | _, nan => nan
  | finite _, posInf | finite _, negInf => finite 0
  | posInf, finite b => if b < 0 then negInf else posInf
  | negInf, finite b => if b < 0 then posInf else negInf
  | posInf, _ | negInf, _ => nan

@[simp] theorem isFinite_finite (a : Rat) : (finite a).isFinite = true := rfl

@[simp] theorem isFinite_nan : nan.isFinite = false := rfl

@[simp] theorem lt_finite (a b : Rat) : (finite a).lt (finite b) = decide (a < b) := rfl

@[simp] theorem le_finite (a b : Rat) : (finite a).le (finite b) = decide (a ≤ b) := rfl

@[simp] theorem abs_finite (a : Rat) : (finite a).abs = finite |a| := rfl

@[simp] theorem sub_finite (a b : Rat) : (finite a).sub (finite b) = finite (a - b) := by
  rw [sub_eq_add_neg]
  rfl

@[simp] theorem mul_finite (a b : Rat) : (finite a).mul (finite b) = finite (a * b) := rfl

theorem div_finite (a : Rat) {b : Rat} (nonzero : b ≠ 0) : (finite a).div (finite b) = finite (a / b) :=
  if_neg nonzero

@[simp] theorem max_finite (a b : Rat) : (finite a).max (finite b) = finite (Max.max a b) := by
  show (if (finite a).lt (finite b) then finite b else finite a) = finite (Max.max a b)
  rw [lt_finite]
  by_cases less : a < b
  · rw [if_pos (by simpa using less), max_eq_right less.le]
  · rw [if_neg (by simpa using less), max_eq_left (not_lt.mp less)]

end Extended

end Foundation

import Mathlib.Tactic.IntervalCases
import ShaderBuild.Condition.Expr

namespace ShaderBuild.Condition

/-!
# The arithmetic of conditions

What the operations of conditions mean as operations on integers: exact ones, whose
results wrap around at 64 bits in two's complement. The machine arithmetic of the
evaluator computes just these results.
-/

/-- A number wraps around to the one of 64 bits that it is congruent to. -/
def wrap (number : Int) : Int :=
  number.bmod (2 ^ 64)

/-- A truth value as an integer. -/
def flag (holds : Prop) [Decidable holds] : Int :=
  if holds then 1 else 0

/-- What an operation on one value means. -/
def UnaryOp.meaning : UnaryOp → Int → Int
  | .not, a => flag (a = 0)
  | .complement, a => -a - 1
  | .negate, a => wrap (-a)
  | .keep, a => a

/-- Counts that a shift can be made by: 32 bits wide, and taken modulo 64. -/
def shiftDistance? (count : Int) : Option Nat :=
  if 0 ≤ count ∧ count < 2 ^ 32 then some (count % 64).toNat else none

/-- What an operation on two values means. Some operations have no result on some values. -/
def BinaryOp.meaning? (op : BinaryOp) (a b : Int) : Option Int :=
  match op with
  | .or => some (flag (a ≠ 0 ∨ b ≠ 0))
  | .and => some (flag (a ≠ 0 ∧ b ≠ 0))
  | .bitOr => some (BitVec.ofInt 64 a ||| BitVec.ofInt 64 b).toInt
  | .bitXor => some (BitVec.ofInt 64 a ^^^ BitVec.ofInt 64 b).toInt
  | .bitAnd => some (BitVec.ofInt 64 a &&& BitVec.ofInt 64 b).toInt
  | .equal => some (flag (a = b))
  | .notEqual => some (flag (a ≠ b))
  | .less => some (flag (a < b))
  | .greater => some (flag (b < a))
  | .atMost => some (flag (a ≤ b))
  | .atLeast => some (flag (b ≤ a))
  | .shiftLeft => (shiftDistance? b).map fun distance => wrap (a * 2 ^ distance)
  | .shiftRight => (shiftDistance? b).map fun distance => a / 2 ^ distance
  | .add => some (wrap (a + b))
  | .subtract => some (wrap (a - b))
  | .multiply => some (wrap (a * b))
  | .divide => if b = 0 ∨ a = -2 ^ 63 ∧ b = -1 then none else some (a.tdiv b)
  | .remainder => if b = 0 ∨ a = -2 ^ 63 ∧ b = -1 then none else some (a.tmod b)

/-- The result that one operand decides alone, whatever the other one is. -/
def BinaryOp.decidedBy? : BinaryOp → Int → Option Int
  | .or, a => if a ≠ 0 then some 1 else none
  | .and, a => if a = 0 then some 0 else none
  | _, _ => none

/-- What an operation means on operands that may be unknown. -/
def BinaryOp.outcome? (op : BinaryOp) : Option Int → Option Int → Option Int
  | some a, some b => op.meaning? a b
  | some a, none => op.decidedBy? a
  | none, some b => op.decidedBy? b
  | none, none => none

/-- What an expression means, where names stand for what the environment says. -/
def Expr.meaning? (environment : Environment) : Expr → Option Int
  | .number value => some value.toInt
  | .identifier name => (environment.value name).map Int64.toInt
  | .defined name => (environment.defined name).map fun holds => flag (holds = true)
  | .unary op operand => (operand.meaning? environment).map op.meaning
  | .binary op left right =>
      op.outcome? (left.meaning? environment) (right.meaning? environment)

/-! ### Machine arithmetic -/

theorem toInt_truth (holds : Bool) : (truth holds).toInt = flag (holds = true) := by
  cases holds <;> rfl

theorem toInt_truth_of_iff
    {test : Bool} {holds : Prop} [Decidable holds] (same : test = true ↔ holds) :
    (truth test).toInt = flag holds := by
  rw [toInt_truth]
  unfold flag
  simp only [same]

theorem toInt_eq_zero_iff {value : Int64} : value.toInt = 0 ↔ value = 0 :=
  Int64.toInt_inj (y := 0)

theorem wrap_eq
    {number : Int} (low : -2 ^ 63 ≤ number) (high : number < 2 ^ 63) :
    wrap number = number :=
  Int.bmod_eq_of_le (by omega) (by omega)

theorem UnaryOp.toInt_apply (op : UnaryOp) (value : Int64) :
    (op.apply value).toInt = op.meaning value.toInt := by
  have low := value.le_toInt
  have high := value.toInt_lt
  cases op with
  | not =>
      exact toInt_truth_of_iff (by simp [toInt_eq_zero_iff])
  | complement =>
      exact (Int64.toInt_not value).trans (wrap_eq (by omega) (by omega))
  | negate =>
      exact Int64.toInt_neg value
  | keep =>
      rfl

/-- Shifts by a machine number and by a distance agree if they do at each distance. -/
theorem map_shiftCount?
    {shift : Int64 → Int64} {meaning : Nat → Int}
    (same : ∀ distance < 64, (shift (Int64.ofInt (distance : Nat))).toInt = meaning distance)
    (count : Int64) :
    (shift <$> shiftCount? count).map Int64.toInt =
      (shiftDistance? count.toInt).map meaning := by
  have limit : ((1 <<< 32 : Nat) : Int) = 2 ^ 32 := by decide
  unfold shiftCount? shiftDistance?
  rw [limit]
  by_cases inRange : 0 ≤ count.toInt ∧ count.toInt < 2 ^ 32
  · have distance : ((count.toInt % 64).toNat : Int) = count.toInt % 64 := by omega
    have agree := same (count.toInt % 64).toNat (by omega)
    rw [distance] at agree
    have inRange' : (0 ≤ count.toInt && count.toInt < 2 ^ 32) = true := by
      simpa using inRange
    rw [if_pos inRange, inRange', if_pos rfl]
    exact congrArg some agree
  · have outOfRange : (0 ≤ count.toInt && count.toInt < 2 ^ 32) = false := by
      simpa using inRange
    rw [if_neg inRange, outOfRange]
    rfl

theorem toNat_distance :
    ∀ distance < 64, ((Int64.ofInt (distance : Nat)).toBitVec.smod 64).toNat = distance := by
  decide +kernel

theorem toInt_shiftLeft (value : Int64) {distance : Nat} (small : distance < 64) :
    (value <<< Int64.ofInt (distance : Nat)).toInt = wrap (value.toInt * 2 ^ distance) := by
  rw [← Int64.toInt_toBitVec, Int64.toBitVec_shiftLeft, BitVec.shiftLeft_eq',
    toNat_distance distance small, BitVec.toInt_shiftLeft, Nat.shiftLeft_eq,
    ← Int64.toInt_toBitVec value, BitVec.toInt_eq_toNat_bmod value.toBitVec]
  unfold wrap
  rw [Int.bmod_mul_bmod]
  push_cast
  rfl

theorem toInt_shiftRight (value : Int64) {distance : Nat} (small : distance < 64) :
    (value >>> Int64.ofInt (distance : Nat)).toInt = value.toInt / 2 ^ distance := by
  rw [← Int64.toInt_toBitVec, Int64.toBitVec_shiftRight, BitVec.sshiftRight_eq',
    toNat_distance distance small, BitVec.toInt_sshiftRight, Int.shiftRight_eq_div_pow,
    Int64.toInt_toBitVec]
  push_cast
  rfl

/-- A quotient exists unless the divisor is zero or the quotient does not fit. -/
theorem divides_iff (a b : Int64) :
    divides a b = true ↔ ¬(b.toInt = 0 ∨ a.toInt = -2 ^ 63 ∧ b.toInt = -1) := by
  have least : a.toInt = -2 ^ 63 ↔ a = Int64.minValue := by
    rw [← Int64.toInt_minValue, Int64.toInt_inj]
  have negative : b.toInt = -1 ↔ b = -1 := Int64.toInt_inj (y := -1)
  rw [least, negative, toInt_eq_zero_iff]
  simp [divides, imp_iff_not_or]

/-- A result that depends on division exists just if the quotient does. -/
theorem map_divides
    {a b result : Int64} {meaning : Int}
    (same : divides a b = true → result.toInt = meaning) :
    (if divides a b then some result else none).map Int64.toInt =
      if b.toInt = 0 ∨ a.toInt = -2 ^ 63 ∧ b.toInt = -1 then none else some meaning := by
  by_cases divisible : divides a b = true
  · rw [if_pos divisible, if_neg ((divides_iff a b).mp divisible), Option.map_some,
      same divisible]
  · rw [if_neg divisible,
      if_pos (not_not.mp fun neither => divisible ((divides_iff a b).mpr neither))]
    rfl

theorem toInt_div_of_divides {a b : Int64} (divisible : divides a b = true) :
    (a / b).toInt = a.toInt.tdiv b.toInt := by
  by_cases isLeast : a = Int64.minValue
  · refine Int64.toInt_div_of_ne_right a b fun isNegative => ?_
    simp [divides, isLeast, isNegative] at divisible
  · exact Int64.toInt_div_of_ne_left a b isLeast

theorem toInt_of_toBitVec {value : Int64} {bits : BitVec 64} (same : value.toBitVec = bits) :
    value.toInt = bits.toInt := by
  rw [← same, Int64.toInt_toBitVec]

theorem ofInt_toInt (value : Int64) : BitVec.ofInt 64 value.toInt = value.toBitVec := by
  rw [← Int64.toInt_toBitVec, BitVec.ofInt_toInt]

/-- An operation on two machine numbers has the result that it means. -/
theorem BinaryOp.map_toInt_apply (op : BinaryOp) (a b : Int64) :
    (op.apply a b).map Int64.toInt = op.meaning? a.toInt b.toInt := by
  cases op with
  | or | and =>
      exact congrArg some (toInt_truth_of_iff (by simp [toInt_eq_zero_iff]))
  | equal | notEqual =>
      exact congrArg some (toInt_truth_of_iff (by simp [Int64.toInt_inj]))
  | less | greater =>
      exact congrArg some (toInt_truth_of_iff (by simp [Int64.lt_iff_toInt_lt]))
  | atMost | atLeast =>
      exact congrArg some (toInt_truth_of_iff (by simp [Int64.le_iff_toInt_le]))
  | bitOr | bitXor | bitAnd =>
      refine congrArg some (toInt_of_toBitVec ?_)
      rw [ofInt_toInt, ofInt_toInt]
      rfl
  | shiftLeft =>
      exact map_shiftCount? (fun _ small => toInt_shiftLeft a small) b
  | shiftRight =>
      exact map_shiftCount? (fun _ small => toInt_shiftRight a small) b
  | add =>
      exact congrArg some (Int64.toInt_add a b)
  | subtract =>
      exact congrArg some (Int64.toInt_sub a b)
  | multiply =>
      exact congrArg some (Int64.toInt_mul a b)
  | divide =>
      exact map_divides toInt_div_of_divides
  | remainder =>
      exact map_divides fun _ => Int64.toInt_mod a b

/-- An operand that decides an operation alone decides it as a machine number too. -/
theorem BinaryOp.map_toInt_combine (op : BinaryOp) (left right : Option Int64) :
    (op.combine left right).map Int64.toInt =
      op.outcome? (left.map Int64.toInt) (right.map Int64.toInt) := by
  have alone (a : Int64) :
      (op.combine (some a) none).map Int64.toInt = op.decidedBy? a.toInt ∧
        (op.combine none (some a)).map Int64.toInt = op.decidedBy? a.toInt := by
    cases op with
    | or | and =>
        by_cases isZero : a = 0 <;> simp [combine, decidedBy?, isZero, toInt_eq_zero_iff]
    | _ =>
        exact ⟨rfl, rfl⟩
  rcases left with _ | a <;> rcases right with _ | b
  · rfl
  · exact (alone b).2
  · exact (alone a).1
  · exact op.map_toInt_apply a b

/-- An expression has the value that it means. -/
theorem Expr.map_toInt_value (environment : Environment) (expr : Expr) :
    (expr.value environment).map Int64.toInt = expr.meaning? environment := by
  induction expr with
  | number value =>
      rfl
  | identifier name =>
      rfl
  | defined name =>
      cases holds : environment.defined name <;> simp [value, meaning?, holds, toInt_truth]
  | unary op operand inductionHypothesis =>
      rw [meaning?, ← inductionHypothesis, value]
      cases operand.value environment <;> simp [op.toInt_apply]
  | binary op left right leftHypothesis rightHypothesis =>
      rw [meaning?, ← leftHypothesis, ← rightHypothesis]
      exact op.map_toInt_combine _ _

end ShaderBuild.Condition

import StreamAudit.Sql.Value

/-!
Operators on values. Arithmetic on integers stays exact within 64 bits and goes over to doubles
beyond; a division by zero is null. Truth has three values, and what is neither true nor false is
null.
-/

set_option autoImplicit false
set_option relaxedAutoImplicit false

namespace StreamAudit.Sql

open StreamAudit.Number

/-- How two values are compared. -/
inductive Comparison where
  | less
  | atMost
  | greater
  | atLeast
  | equal
  | unequal
deriving DecidableEq, Repr

/-- Whether an order satisfies a comparison. -/
def Comparison.holds : Comparison → Ordering → Bool
  | .less, order => order == .lt
  | .atMost, order => order != .gt
  | .greater, order => order == .gt
  | .atLeast, order => order != .lt
  | .equal, order => order == .eq
  | .unequal, order => order != .eq

/-- Operations on two values that are no comparisons. -/
inductive Operation where
  | bitAnd
  | bitOr
  | shiftLeft
  | shiftRight
  | add
  | subtract
  | multiply
  | divide
  | remainder
  | concat
deriving DecidableEq, Repr

/-- Conjunction with null for what is not known. -/
def both : Option Bool → Option Bool → Option Bool
  | some false, _ | _, some false => some false
  | some true, some true => some true
  | _, _ => none

/-- Disjunction with null for what is not known. -/
def either : Option Bool → Option Bool → Option Bool
  | some true, _ | _, some true => some true
  | some false, some false => some false
  | _, _ => none

/-- The conjunction of many. -/
def allOf (truths : List (Option Bool)) : Option Bool :=
  truths.foldr both (some true)

/-- The disjunction of many. -/
def anyOf (truths : List (Option Bool)) : Option Bool :=
  truths.foldr either (some false)

namespace Operation

/-- The remainder with the sign of the dividend. -/
def remainderOf (n m : Int) : Value :=
  if m = 0 then .null else .whole (n.tmod m)

/-- An operation on integers. -/
def onIntegers (operation : Operation) (n m : Int) : Value :=
  match operation with
  | .add => .ofInteger (n + m)
  | .subtract => .ofInteger (n - m)
  | .multiply => .ofInteger (n * m)
  | .divide => if m = 0 then .null else .ofInteger (n.tdiv m)
  | _ => remainderOf n m

/-- An operation on doubles. The remainder is one of integers. -/
def onReals (operation : Operation) (a b : Value) : Value :=
  let x := a.toReal
  let y := b.toReal
  match operation with
  | .add => .ofReal (x.add y)
  | .subtract => .ofReal (x.add y.negate)
  | .multiply => .ofReal (x.multiply y)
  | .divide => if y.isZero then .null else .ofReal (x.divide y)
  | _ =>
    match remainderOf a.toWord b.toWord with
    | .whole n => .real (.ofInt n)
    | other => other

/-- Arithmetic on values. -/
def arithmetic (operation : Operation) (a b : Value) : Value :=
  match a.operand, b.operand with
  | .null, _ | _, .null => .null
  | .whole n, .whole m => operation.onIntegers n m
  | _, _ => operation.onReals a b

/-- The natural number whose binary digits are those of an integer of 64 bits. -/
def bits (n : Int) : Nat :=
  (n % (2 * wordLimit)).toNat

/-- The integer of 64 bits with the given binary digits. -/
def ofBits (n : Nat) : Int :=
  let m : Int := n % (2 * wordLimit).toNat
  if m < wordLimit then m else m - 2 * wordLimit

/-- An integer with its binary digits moved to the left, or to the right for a negative distance. -/
def shifted (n distance : Int) : Int :=
  if distance ≥ 0 then
    if 64 ≤ distance then 0 else ofBits (bits n * Nat.pow 2 distance.toNat)
  else if distance ≤ -64 then (if n < 0 then -1 else 0)
  else n.fdiv (Nat.pow 2 (-distance).toNat : Nat)

/-- An operation on binary digits. -/
def onBits (operation : Operation) (n m : Int) : Int :=
  match operation with
  | .bitAnd => ofBits (bits n &&& bits m)
  | .bitOr => ofBits (bits n ||| bits m)
  | .shiftLeft => shifted n m
  | _ => shifted n (-m)

/-- Two values joined to one text; two runs of octets are joined as such. -/
def joined (a b : Value) : Value :=
  match a, b with
  | .octets first, .octets second => .octets (first ++ second)
  | _, _ =>
    match a.text?, b.text? with
    | some s, some t => .text (s ++ t)
    | _, _ => .null

/-- The value of an operation. -/
def apply (operation : Operation) (a b : Value) : Value :=
  match operation with
  | .bitAnd | .bitOr | .shiftLeft | .shiftRight =>
    if a = .null ∨ b = .null then .null else .whole (operation.onBits a.toWord b.toWord)
  | .concat => joined a b
  | _ => operation.arithmetic a b

end Operation

namespace Value

/-- The value with the other sign. -/
def negated (a : Value) : Value :=
  Operation.subtract.apply (.whole 0) a

/-- The value with every binary digit changed. -/
def complement (a : Value) : Value :=
  if a = .null then .null else .whole (-a.toWord - 1)

end Value

end StreamAudit.Sql

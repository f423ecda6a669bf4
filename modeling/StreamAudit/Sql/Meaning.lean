import StreamAudit.Sql.Operator

/-!
What expressions mean. An expression is evaluated within the selections that it stands in, the
innermost first; each of them contributes a row, and the rows that were put together to it. Beside
its value an expression has a preference for a kind of values and a way in which its texts are
compared.
-/

set_option autoImplicit false
set_option relaxedAutoImplicit false

namespace StreamAudit.Sql

/-- A row of a selection, with the rows that were put together to it. -/
structure Frame where
  row : List Value
  group : List (List Value) := []

/-- What an expression is evaluated in: a frame of every selection around it, the innermost first,
and all frames of the innermost one with the place of the present one among them. -/
structure Surroundings where
  frames : List Frame
  peers : List Frame := []
  place : Nat := 0

namespace Surroundings

/-- What stands around a selection some levels outside of the innermost. -/
def outside (around : Surroundings) (levels : Nat) : Surroundings :=
  if levels = 0 then around else { frames := around.frames.drop levels }

end Surroundings

/-- The row among some rows that stands for all of them, by the outer frames. -/
abbrev Lead :=
  List Frame → List (List Value) → Option (Option (List Value))

/-- The meaning of an expression. It says whether it depends on the rows put together to a row or on
the peers of a row, which row then stands for the group, whether it is a word for truth, the name of
the column that it is, how many expressions are nested in it, and how many levels outside the
innermost of the selections stands that it takes a column from. -/
structure Meaning where
  value : Surroundings → Option Value
  affinity : Affinity := .nothing
  collation : Option Collation := none
  isExplicit : Bool := false
  usesGroup : Bool := false
  usesPeers : Bool := false
  lead : Option Lead := none
  truth : Option Bool := none
  column : Option String := none
  height : Nat := 1
  level : Option Nat := none

namespace Meaning

/-- The meaning of a constant. -/
def constant (value : Value) : Meaning where
  value _ := some value

/-- The meaning of an expression with parts. A collation that was asked for in a part holds for the
whole. -/
def combined (parts : List Meaning) (value : Surroundings → Option Value) : Meaning where
  value := value
  collation := (parts.find? Meaning.isExplicit).bind Meaning.collation
  isExplicit := parts.any Meaning.isExplicit
  usesGroup := parts.any Meaning.usesGroup
  usesPeers := parts.any Meaning.usesPeers
  lead := parts.reverse.findSome? Meaning.lead
  height := parts.foldl (fun most part ↦ max most part.height) 0 + 1
  level := (parts.filterMap Meaning.level).min?

/-- The meaning of a function of one value. -/
def map (f : Value → Value) (operand : Meaning) : Meaning :=
  combined [operand] fun around ↦ (operand.value around).map f

/-- The meaning of a function of two values. -/
def map₂ (f : Value → Value → Value) (left right : Meaning) : Meaning :=
  combined [left, right] fun around ↦ do
    pure (f (← left.value around) (← right.value around))

/-- The collation that two compared expressions agree on. -/
def collationWith (left right : Meaning) : Collation :=
  let asked (meaning : Meaning) : Option Collation :=
    if meaning.isExplicit then meaning.collation else none
  (asked left <|> asked right <|> left.collation <|> right.collation).getD .binary

/-- The order of values of two expressions, none if one of them is null. -/
def order? (left right : Meaning) (a b : Value) : Option Ordering :=
  let (a, b) := align (left.affinity, a) (right.affinity, b)
  Value.order? (left.collationWith right) a b

/-- Whether values of two expressions are the same, where null is the same as null. -/
def same (left right : Meaning) (a b : Value) : Bool :=
  if a = .null ∨ b = .null then a = b else left.order? right a b == some .eq

/-- Compares values of as many expressions on both sides from the front. -/
def compareRows (comparison : Comparison) :
    List (Meaning × Value) → List (Meaning × Value) → Option Bool
  | left :: lefts, right :: rights =>
    let order := left.1.order? right.1 left.2 right.2
    if lefts.isEmpty then order.map comparison.holds
    else
      match comparison with
      | .equal => both (order.map (· == .eq)) (compareRows .equal lefts rights)
      | .unequal => either (order.map (· != .eq)) (compareRows .unequal lefts rights)
      | _ =>
        match order with
        | some .eq => compareRows comparison lefts rights
        | other => other.map comparison.holds
  | _, _ => some true

/-- The values of some expressions, each with its expression. -/
def values (meanings : List Meaning) (around : Surroundings) : Option (List (Meaning × Value)) :=
  meanings.mapM fun meaning ↦ (meaning.value around).map fun value ↦ (meaning, value)

/-- The meaning of a comparison of rows of values. -/
def compared (comparison : Comparison) (left right : List Meaning) : Meaning :=
  combined (left ++ right) fun around ↦ do
    pure (.ofTruth (compareRows comparison (← values left around) (← values right around)))

/-- The meaning of a test whether rows of values are the same. -/
def identity (left right : List Meaning) : Meaning :=
  combined (left ++ right) fun around ↦ do
    let pairs := (← values left around).zip (← values right around)
    pure (.ofTruth (some (pairs.all fun (a, b) ↦ a.1.same b.1 a.2 b.2)))

/-- Whether an expression holds as a condition. -/
def holds (condition : Meaning) (around : Surroundings) : Option Bool :=
  (condition.value around).map fun value ↦ value.truth? == some true

end Meaning

end StreamAudit.Sql

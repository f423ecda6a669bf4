import StreamAudit.Sql.Operator

/-!
Functions on numbers. What is no number counts for one where a sum would count it, or makes the
result null where only numbers have one.
-/

set_option autoImplicit false
set_option relaxedAutoImplicit false

namespace StreamAudit.Sql.Function

open StreamAudit.Number

/-- The magnitude of a value; the least integer of 64 bits has none. -/
def abs? : Value → Option Value
  | .null => some .null
  | .whole n => if n = -wordLimit then none else some (.whole n.natAbs)
  | other =>
    some (match other.toReal with
      | .finite _ units => .real (.finite false units)
      | .infinite _ => .real (.infinite false)
      | .nan => .null)

/-- The double nearest to a number that is rounded to some places behind the point, a half upward in
magnitude. -/
def roundedUnits (negative : Bool) (units places : Nat) : Binary64 :=
  let scale := Nat.pow 10 places
  let digits := (2 * units * scale + Binary64.unit) / (2 * Binary64.unit)
  .ofRatio negative digits scale

/-- A number rounded to some places behind the point. -/
def round (value : Value) (places : Option Value) : Value :=
  if value = .null ∨ places = some .null then .null
  else
    let places := (min 30 ((places.map Value.toWord).getD 0)).toNat
    match value.toReal with
    | .finite negative units =>
      if Nat.pow 2 52 * Binary64.unit < units then .real (.finite negative units)
      else
        let found := roundedUnits negative units places
        .real (if found.isZero then .finite false 0 else found)
    | other => .real other

/-- The sign of a number. -/
def sign (value : Value) : Value :=
  match value.asNumber with
  | .whole n => .whole n.sign
  | .real x => .whole (if x.isPositive then 1 else if x.isZero then 0 else -1)
  | _ => .null

/-- Which integer beside a number is taken. -/
inductive Side where
  | below
  | above
  | inside
deriving DecidableEq, Repr

/-- A finite double without its fraction. -/
def wholeUnits (side : Side) (negative : Bool) (units : Nat) : Nat :=
  let inner := units / Binary64.unit * Binary64.unit
  let goesOut := match side with
    | .below => negative
    | .above => !negative
    | .inside => false
  if goesOut && inner != units then inner + Binary64.unit else inner

/-- An integer beside a number. -/
def toWhole (side : Side) (value : Value) : Value :=
  match value.asNumber with
  | .whole n => .whole n
  | .real (.finite negative units) => .real (.finite negative (wholeUnits side negative units))
  | .real x => .real x
  | _ => .null

/-- A function of two doubles on values that are numbers. -/
def onReals (f : Binary64 → Binary64 → Binary64) (a b : Value) : Value :=
  let isNumber (value : Value) : Bool := match value.asNumber with
    | .whole _ | .real _ => true
    | _ => false
  if isNumber a && isNumber b then .ofReal (f a.toReal b.toReal) else .null

/-- The remainder of a division of doubles, with the sign of the dividend. -/
def remainder : Binary64 → Binary64 → Binary64
  | .finite negative units, .finite _ other =>
    if other = 0 then .nan else .finite negative (units % other)
  | .finite negative units, .infinite _ => .finite negative units
  | _, _ => .nan

/-- The square root of a double, rounded. -/
def squareRoot (x : Binary64) : Binary64 :=
  match x with
  | .finite negative units =>
    if units = 0 then x
    else if negative then .nan
    else
      let scale := Nat.pow 2 1200
      .ofRatio false (Nat.sqrt (units * scale * scale * Binary64.unit)) (scale * Binary64.unit)
  | .infinite false => x
  | _ => .nan

end StreamAudit.Sql.Function

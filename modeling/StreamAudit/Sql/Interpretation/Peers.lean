import StreamAudit.Sql.Interpretation.Expression

/-!
Calls that look at the peers of a row: the rows of the same selection that agree with it in some
expressions, sorted by others. A function of rows put together takes an extent of the peers, which
is all up to the present row and those that agree with it in the order unless another is asked for.
The least and the greatest value heed no condition where the extent begins behind the first peer,
and joined texts that are empty count for null.
-/

set_option autoImplicit false
set_option relaxedAutoImplicit false

namespace StreamAudit.Sql

open StreamAudit.Number StreamAudit.Text

/-- The peers of a row in their order, each with the number of the group that agrees with it in the
order, and the place and the group of the row. -/
structure Peers where
  members : List (Frame × Nat)
  place : Nat
  group : Nat

namespace Peers

/-- How many peers stand before all that agree with the row. -/
def before (peers : Peers) : Nat :=
  (peers.members.filter fun member ↦ member.2 < peers.group).length

/-- How many peers stand up to the last that agrees with the row. -/
def upTo (peers : Peers) : Nat :=
  (peers.members.filter fun member ↦ member.2 ≤ peers.group).length

/-- Whether a number lies from an end on, as seen from the number of the row. -/
def isFrom (own other : Nat) : ExtentEnd → Bool
  | .start => true
  | .before count => own ≤ other + count
  | .present => own ≤ other
  | .behind count => own + count ≤ other
  | .stop => false

/-- Whether a number lies up to an end, as seen from the number of the row. -/
def isUpTo (own other : Nat) : ExtentEnd → Bool
  | .start => false
  | .before count => other + count ≤ own
  | .present => other ≤ own
  | .behind count => other ≤ own + count
  | .stop => true

/-- Whether a peer is left out of an extent. -/
def isExcluded (peers : Peers) (exclusion : Exclusion) (place group : Nat) : Bool :=
  match exclusion with
  | .nothing => false
  | .present => place == peers.place
  | .group => group == peers.group
  | .ties => group == peers.group && place != peers.place

/-- The peers in an extent. -/
def within (peers : Peers) (extent : Extent) : List Frame :=
  (peers.members.zipIdx.filter fun ((_, group), place) ↦
    let (own, other) := if extent.unit = .rows then (peers.place, place) else (peers.group, group)
    isFrom own other extent.first && isUpTo own other extent.last &&
      !peers.isExcluded extent.exclusion place group).map fun member ↦ member.1.1

end Peers

/-- The functions of peers. -/
inductive PeerFunction where
  | rowNumber
  | rank
  | denseRank
  | percentRank
  | cumulative
  | tile
  | earlier
  | later
  | firstValue
  | lastValue
  | nthValue
deriving DecidableEq, Repr

namespace PeerFunction

/-- The functions of peers with their names and how many arguments they take. -/
def all : List (String × PeerFunction × Nat × Nat) :=
  [("row_number", .rowNumber, 0, 0), ("rank", .rank, 0, 0), ("dense_rank", .denseRank, 0, 0),
    ("percent_rank", .percentRank, 0, 0), ("cume_dist", .cumulative, 0, 0), ("ntile", .tile, 1, 1),
    ("lag", .earlier, 1, 3), ("lead", .later, 1, 3), ("first_value", .firstValue, 1, 1),
    ("last_value", .lastValue, 1, 1), ("nth_value", .nthValue, 2, 2)]

/-- The function of a name that takes some number of arguments. -/
def find? (name : String) (count : Nat) : Option PeerFunction :=
  (all.find? fun (given, _, least, most) ↦
    sameButAsciiCase given name && least ≤ count && count ≤ most).map fun found ↦ found.2.1

/-- A quotient of counts. -/
def ratio (n m : Nat) : Value :=
  .real (.ofRatio false n m)

/-- The number of the part of a row when rows are dealt out to some number of parts. -/
def tileOf (count parts place : Nat) : Nat :=
  let size := count / parts
  let larger := count % parts
  if place < larger * (size + 1) then place / (size + 1) + 1
  else larger + (place - larger * (size + 1)) / size + 1

/-- The value of an argument at a place among frames, or another value if there is no such place. -/
def valueAt (frames : List Frame) (around : Surroundings) (argument : Option Meaning) (place : Int)
    (otherwise : Option Meaning) : Option Value :=
  let frame? := if place < 0 then none else frames[place.toNat]?
  match frame?, argument with
  | some frame, some argument => argument.value { frames := frame :: around.frames.drop 1 }
  | _, _ => match otherwise with
    | some meaning => meaning.value around
    | none => some .null

/-- The value of a function of peers at a row. -/
def apply (function : PeerFunction) (arguments : List Meaning) (peers : Peers) (extent : Extent)
    (around : Surroundings) : Option Value := do
  let second ← match arguments[1]? with
    | some meaning => meaning.value around
    | none => some (.whole 1)
  let count := peers.members.length
  let frames := peers.within extent
  let beside (place : Int) : Option Value :=
    valueAt (peers.members.map Prod.fst) around arguments.head? place arguments[2]?
  let inside (place : Int) : Option Value := valueAt frames around arguments.head? place none
  match function with
  | .rowNumber => pure (.whole (peers.place + 1))
  | .rank => pure (.whole (peers.before + 1))
  | .denseRank => pure (.whole (peers.group + 1))
  | .percentRank =>
    pure (if count ≤ 1 then .real (.finite false 0) else ratio peers.before (count - 1))
  | .cumulative => pure (ratio peers.upTo count)
  | .tile =>
    let parts ← match arguments.head? with
      | some meaning => meaning.value around
      | none => none
    guard (0 < parts.toWord)
    pure (.whole (tileOf count parts.toWord.toNat peers.place))
  | .earlier => beside (peers.place - second.toWord)
  | .later => beside (peers.place + second.toWord)
  | .firstValue => inside 0
  | .lastValue => inside (frames.length - 1)
  | .nthValue =>
    guard (0 < second.toWord)
    inside (second.toWord - 1)

end PeerFunction

namespace Meaning

/-- How rows are sorted by an expression. -/
def sortKey (meaning : Meaning) (isDescending : Bool) (nullsLast : Option Bool) : SortKey where
  collation := meaning.collation.getD .binary
  isDescending := isDescending
  nullsLast := nullsLast

/-- The values of some expressions as a row. -/
def row (meanings : List Meaning) (around : Surroundings) : Option Row :=
  meanings.mapM fun meaning ↦ meaning.value around

/-- The peers of the present row that agree with it in some expressions, sorted by others. -/
def peersOf (partition : List Meaning) (terms : List (Meaning × SortKey)) (around : Surroundings) :
    Option Peers := do
  let seenFrom (frame : Frame) : Surroundings := { frames := frame :: around.frames.drop 1 }
  let keys := partition.map fun meaning ↦ meaning.sortKey false none
  let order := terms.map Prod.snd
  let described ← around.peers.zipIdx.mapM fun (frame, place) ↦ do
    pure (← row partition (seenFrom frame), ← row (terms.map Prod.fst) (seenFrom frame),
      frame, place)
  let (own, _) ← described[around.place]?
  let members :=
    (described.filter fun member ↦ SortKey.rowOrder keys member.1 own == .eq).map Prod.snd
  let groups := SortKey.groups order (SortKey.sorted order members)
  let numbered :=
    groups.zipIdx.flatMap fun (group, number) ↦ group.map fun member ↦ (member.2, number)
  let place ← numbered.findIdx? fun member ↦ member.1.2 == around.place
  pure
    { members := numbered.map fun member ↦ (member.1.1, member.2)
      place
      group := (numbered[place]?.map Prod.snd).getD 0 }

end Meaning

namespace Interpreter

variable (inner : Interpreter) (setting : Setting)

/-- The meaning of expressions to sort by. -/
def terms (given : List Term) : Option (List (Meaning × SortKey)) :=
  given.mapM fun (.mk value isDescending nullsLast) ↦ do
    let meaning ← inner.expr setting value
    pure (meaning, meaning.sortKey isDescending nullsLast)

/-- The expressions and the extent of a clause, with those of the clause that it goes on from. -/
def resolved (scope : Scope) : PeerClause → Option (List Expr × List Term × Option Extent)
  | .mk none partition terms extent => some (partition, terms, extent)
  | .mk (some base) partition terms extent => do
    let (_, .mk none inherited given whole) ← scope.clauses.find? fun clause ↦
      sameButAsciiCase clause.1 base | none
    guard (partition.isEmpty && (given.isEmpty || terms.isEmpty))
    if terms.isEmpty && extent.isNone then pure (inherited, given, whole)
    else
      guard whole.isNone
      pure (inherited, given ++ terms, extent)

/-- The meaning of a call that looks at peers. -/
def peerCall (function : String) (isDistinct : Bool) (arguments : List Expr)
    (condition : Option Expr) (clause : PeerClause) : Option Meaning :=
  match setting.scopes with
  | [] => none
  | scope :: outer => do
    guard (scope.admitsPeers && !isDistinct)
    let (partition, given, extent) ← resolved scope clause
    let extent := extent.getD {}
    let rowSetting := { setting with scopes := { scope with admitsPeers := false } :: outer }
    let meanings ← arguments.mapM (inner.expr rowSetting)
    let condition ← condition.mapM (inner.expr rowSetting)
    let partition ← partition.mapM (inner.expr rowSetting)
    let terms ← inner.terms rowSetting given
    let parts := meanings ++ condition.toList ++ partition ++ terms.map Prod.fst
    let collation := (meanings.findSome? Meaning.collation).getD .binary
    let value : Option (Surroundings → Option Value) :=
      match PeerFunction.find? function arguments.length with
      | some found => if condition.isSome then none else some fun around ↦ do
          found.apply meanings (← Meaning.peersOf partition terms around) extent around
      | none => (Aggregate.find? function arguments.length).map fun found around ↦ do
          let peers ← Meaning.peersOf partition terms around
          let seenFrom (frame : Frame) : Surroundings := { frames := frame :: around.frames.drop 1 }
          let moves := extent.first ≠ .start && extent.exclusion = .nothing
          let taken ← (peers.within extent).filterM fun frame ↦
            match if found.isExtreme.isSome && moves then none else condition with
            | some condition => condition.holds (seenFrom frame)
            | none => some true
          let rows ← taken.mapM fun frame ↦ Meaning.row meanings (seenFrom frame)
          let value ← found.apply collation rows
          pure (if found.name = "group_concat" && value = .text "" then .null else value)
    value.map fun value ↦ { Meaning.combined parts value with usesPeers := true }

end Interpreter

end StreamAudit.Sql

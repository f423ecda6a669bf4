import StreamAudit.Json.Basic

/-!
Reading forms. A form is an object whose members are read one by one; what is wrong with any of them
is collected, in the order of the members, with the path to the place.
-/

set_option autoImplicit false
set_option relaxedAutoImplicit false

namespace StreamAudit.Form

/-- One step of a path into a form. -/
inductive Step where
  | member (name : String)
  | index (place : Nat)
deriving DecidableEq, Repr

/-- What is wrong with a value. -/
inductive Cause where
  | missing
  | forbidden
  | noText
  | tooShort
  | noInteger
  | integerText
  | integerTooLong
  | fractional
  | infinite
  | noFlag
  | flagText
  | noNumber
  | numberText
  | tooSmall
  | noChoice
  | noList
  | noObject
  | noDate
  | dateText
  | dateInexact
  | dateOffCalendar
  | rule (message : String)
deriving DecidableEq, Repr

/-- A cause with the path to its place. -/
structure Complaint where
  path : List Step
  cause : Cause
deriving DecidableEq, Repr

/-- A value that was read, or all that is wrong. -/
inductive Checked (α : Type) where
  | ok (value : α)
  | wrong (complaints : List Complaint)
deriving DecidableEq, Repr

/-- Reads a value. -/
abbrev Reader (α : Type) :=
  Json → Checked α

variable {α β : Type}

namespace Checked

/-- The complaints of a reading. -/
def complaints : Checked α → List Complaint
  | .ok _ => []
  | .wrong all => all

/-- Changes the value that was read. -/
def map (f : α → β) : Checked α → Checked β
  | .ok a => .ok (f a)
  | .wrong all => .wrong all

/-- Supplies one more argument; the complaints of both sides are kept. -/
def also (function : Checked (α → β)) (argument : Checked α) : Checked β :=
  match function, argument with
  | .ok f, .ok a => .ok (f a)
  | _, _ => .wrong (complaints function ++ complaints argument)

/-- Places the complaints one step further down. -/
def under (step : Step) : Checked α → Checked α
  | .ok a => .ok a
  | .wrong all => .wrong (all.map fun complaint ↦ { complaint with path := step :: complaint.path })

theorem also_eq_ok_iff {function : Checked (α → β)} {argument : Checked α} {b : β} :
    also function argument = .ok b ↔ ∃ f a, function = .ok f ∧ argument = .ok a ∧ f a = b := by
  cases function <;> cases argument <;> simp [also]

theorem eq_ok_of_under {step : Step} {found : Checked α} {a : α} (h : found.under step = .ok a) :
    found = .ok a := by
  cases found with
  | ok b => exact h
  | wrong all => cases h

end Checked

/-- A value with one thing wrong. -/
def refuse (cause : Cause) : Checked α :=
  .wrong [⟨[], cause⟩]

/-- The reader of a cause or a value. -/
def leaf (read : Json → Except Cause α) : Reader α :=
  fun value ↦
    match read value with
    | .ok a => .ok a
    | .error cause => refuse cause

/-- A member that must be there. -/
def required (fields : Json.Members) (name : String) (read : Reader α) : Checked α :=
  match fields.get? name with
  | some value => (read value).under (.member name)
  | none => .wrong [⟨[.member name], .missing⟩]

/-- A member that may be missing. -/
def optional (fields : Json.Members) (name : String) (read : Reader α) (absent : α) : Checked α :=
  match fields.get? name with
  | some value => (read value).under (.member name)
  | none => .ok absent

section Members

variable {fields : Json.Members} {name : String} {read : Reader α} {a : α} {value : Json}

theorem read_of_required (h : required fields name read = .ok a)
    (hvalue : fields.get? name = some value) :
    read value = .ok a := by
  rw [required, hvalue] at h
  exact Checked.eq_ok_of_under h

theorem read_of_optional {absent : α} (h : optional fields name read absent = .ok a)
    (hvalue : fields.get? name = some value) : read value = .ok a := by
  unfold Form.optional at h
  rw [hvalue] at h
  exact Checked.eq_ok_of_under h

end Members

/-- A value that may be null. -/
def nullable (read : Reader α) : Reader (Option α)
  | .null => .ok none
  | value => (read value).map some

/-- The items of a list from a place on, each by the same reader. -/
def itemsFrom (read : Reader α) : Nat → List Json → Checked (List α)
  | _, [] => .ok []
  | place, item :: rest =>
    ((Checked.ok List.cons).also ((read item).under (.index place))).also
      (itemsFrom read (place + 1) rest)

/-- A list, every item by the same reader. -/
def list (read : Reader α) : Reader (List α)
  | .list items => itemsFrom read 0 items
  | _ => refuse .noList

/-- A text, after a preparation and no shorter than the given length. -/
def text (prepare : String → String) (minimum : Nat) : Reader String
  | .text s => if (prepare s).length < minimum then refuse .tooShort else .ok (prepare s)
  | _ => refuse .noText

theorem prepared_of_text {prepare : String → String} {minimum : Nat} {s t : String}
    (h : text prepare minimum (.text s) = .ok t) : t = prepare s := by
  change (if (prepare s).length < minimum then refuse .tooShort else .ok (prepare s)) = .ok t at h
  split at h
  · cases h
  · exact (Checked.ok.inj h).symm

/-- One of some words, each of which stands for a value. -/
def choice (ofName? : String → Option α) : Reader α
  | .text word =>
    match ofName? word with
    | some a => .ok a
    | none => refuse .noChoice
  | _ => refuse .noChoice

/-- An object, by a reader of its members. -/
def object (read : Json.Members → Checked α) : Reader α
  | .object members => read members
  | _ => refuse .noObject

/-- Complaints about the members that a form does not know. -/
def unknown (fields : Json.Members) (known : List String) : List Complaint :=
  (fields.keys.filter fun name ↦ !known.contains name).map fun name ↦ ⟨[.member name], .forbidden⟩

end StreamAudit.Form

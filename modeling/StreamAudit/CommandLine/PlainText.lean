/-!
Output as it is captured where no terminal reads. What writes it leaves out the control sequences of
a terminal: an escape, a bracket, parameter characters, characters in between and a final character.
What hands out the captured text reads the two characters that may end a line as one, and so leaves
out the carriage return; nothing that is written loses it.
-/

set_option autoImplicit false
set_option relaxedAutoImplicit false

namespace StreamAudit.CommandLine

/-- Whether a character gives parameters to a control sequence. -/
def isParameter (c : Char) : Bool :=
  0x30 ≤ c.toNat && c.toNat ≤ 0x3F

/-- Whether a character stands between the parameters and the end of a control sequence. -/
def isIntermediate (c : Char) : Bool :=
  0x20 ≤ c.toNat && c.toNat ≤ 0x2F

/-- Whether a character ends a control sequence. -/
def isFinal (c : Char) : Bool :=
  0x40 ≤ c.toNat && c.toNat ≤ 0x7E

/-- The length of the rest of a control sequence behind its bracket, if it comes to an end. -/
def lengthToFinal? (s : List Char) : Option Nat :=
  let parameters := s.takeWhile isParameter
  let between := (s.dropWhile isParameter).takeWhile isIntermediate
  match (s.dropWhile isParameter).dropWhile isIntermediate with
  | c :: _ => if isFinal c then some (parameters.length + between.length + 1) else none
  | [] => none

/-- The length of the control sequence in front, none if there is none. -/
def sequenceLength? : List Char → Option Nat
  | escape :: '[' :: rest =>
    if escape.toNat = 0x1B then (lengthToFinal? rest).map (· + 2) else none
  | _ => none

/-- A text without its control sequences, of which the given number of characters is still to
pass. -/
def withoutSequences : Nat → List Char → List Char
  | _, [] => []
  | left + 1, _ :: rest => withoutSequences left rest
  | 0, c :: rest =>
    match sequenceLength? (c :: rest) with
    | some length => withoutSequences (length - 1) rest
    | none => c :: withoutSequences 0 rest

/-- A captured text as it is handed out: without carriage returns at the ends of lines. -/
def withoutReturns : List Char → List Char
  | '\r' :: '\n' :: rest => '\n' :: withoutReturns rest
  | c :: rest => c :: withoutReturns rest
  | [] => []

/-- What is captured of a text that is written to where no terminal reads. -/
def plainText (s : String) : String :=
  String.ofList (withoutReturns (withoutSequences 0 s.toList))

end StreamAudit.CommandLine

import SiteGuard.Pattern.CharSet

/-!
# Patterns

The syntax tree of a pattern, and the measures by which a pattern is too large:
its depth, and the bytes that its automaton takes.
-/

namespace SiteGuard
namespace Pattern

inductive Look where
  | start
  | finish
  | lineStart
  | lineFinish
  | lineStartCrlf
  | lineFinishCrlf
  | wordEdge
  | notWordEdge
  | wordStart
  | wordFinish
  | wordStartHalf
  | wordFinishHalf
  deriving DecidableEq, Repr

inductive Node where
  | empty
  | char (c : Char)
  | set (s : CharSet)
  | look (l : Look)
  /-- At least `least` times, and at most as often as `most` says. -/
  | repeated (least : Nat) (most : Option Nat) (sub : Node)
  /-- A group; a named one carries the number of bytes of its name. -/
  | group (nameBytes : Option Nat) (sub : Node)
  | sequence (parts : List Node)
  | choice (parts : List Node)
  deriving Repr, Inhabited

namespace Node

/-! ## Constructors that simplify -/

def repeating (least : Nat) (most : Option Nat) (sub : Node) : Node :=
  if least = 0 ∧ most = some 0 then empty
  else if least = 1 ∧ most = some 1 then sub
  else repeated least most sub

def sequenceOf : List Node → Node
  | [] => empty
  | [part] => part
  | parts => sequence parts

def choiceOf : List Node → Node
  | [part] => part
  | parts => choice parts

/-! ## Depth -/

mutual

def withinDepth (limit : Nat) : Node → Bool
  | repeated _ _ sub => limit != 0 && withinDepth (limit - 1) sub
  | group _ sub => limit != 0 && withinDepth (limit - 1) sub
  | sequence parts => limit != 0 && allWithinDepth (limit - 1) parts
  | choice parts => limit != 0 && allWithinDepth (limit - 1) parts
  | _ => true

def allWithinDepth (limit : Nat) : List Node → Bool
  | [] => true
  | part :: rest => withinDepth limit part && allWithinDepth limit rest

end

/-! ## Size -/

mutual

def matchesEmpty : Node → Bool
  | empty => true
  | char _ => false
  | set _ => false
  | look _ => true
  | repeated least _ sub => least == 0 || matchesEmpty sub
  | group _ sub => matchesEmpty sub
  | sequence parts => allMatchEmpty parts
  | choice parts => someMatchesEmpty parts

def allMatchEmpty : List Node → Bool
  | [] => true
  | part :: rest => matchesEmpty part && allMatchEmpty rest

def someMatchesEmpty : List Node → Bool
  | [] => false
  | part :: rest => matchesEmpty part || someMatchesEmpty rest

end

/-- Bytes of one state of an automaton, of one range of a set, and of one way out of a fork. -/
def stateBytes : Nat := 32
def rangeBytes : Nat := 8
def branchBytes : Nat := 4

def forkBytes : Nat := stateBytes + 2 * branchBytes

/-- Copies of a part; none at all still takes a state. -/
def copiesBytes (n part : Nat) : Nat :=
  if n = 0 then stateBytes else n * part

def repeatedBytes (least : Nat) (most : Option Nat) (empties : Bool) (part : Nat) : Nat :=
  match most with
  | none =>
    if least = 0 then
      if empties then part + 2 * forkBytes + stateBytes else part + forkBytes
    else least * part + forkBytes
  | some most =>
    if least = 0 ∧ most = 1 then part + forkBytes + stateBytes
    else if least = most then copiesBytes least part
    else copiesBytes least part + stateBytes + (most - least) * (part + forkBytes)

mutual

/-- Bytes of the automaton of a pattern, the names of its groups apart. -/
def bytes : Node → Nat
  | empty => stateBytes
  | char _ => stateBytes
  | set s => stateBytes + s.length * rangeBytes
  | look _ => stateBytes
  | repeated least most sub => repeatedBytes least most (matchesEmpty sub) (bytes sub)
  | group _ sub => bytes sub + 2 * stateBytes
  | sequence parts => sequenceBytes parts
  | choice parts => choiceBytes parts + 2 * stateBytes

def sequenceBytes : List Node → Nat
  | [] => 0
  | part :: rest => bytes part + sequenceBytes rest

def choiceBytes : List Node → Nat
  | [] => 0
  | part :: rest => bytes part + branchBytes + choiceBytes rest

end

mutual

def groupBytes : Node → Nat
  | repeated _ _ sub => groupBytes sub
  | group none sub => 16 + groupBytes sub
  | group (some name) sub => 44 + name + groupBytes sub
  | sequence parts => groupsBytes parts
  | choice parts => groupsBytes parts
  | _ => 0

def groupsBytes : List Node → Nat
  | [] => 0
  | part :: rest => groupBytes part + groupsBytes rest

end

/-- The whole pattern is one more group, with a last state behind it. -/
def totalBytes (n : Node) : Nat :=
  bytes n + 3 * stateBytes + 16 + groupBytes n

end Node
end Pattern
end SiteGuard

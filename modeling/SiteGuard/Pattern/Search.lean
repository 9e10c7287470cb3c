import SiteGuard.Pattern.Parser

/-!
# Searching with patterns

The places of a text are the gaps in front of, between and behind its
characters.  A pattern maps the places at which a match may begin to those at
which it may end, so searching needs no backtracking.  Sets of places are lists
of truth values along the text.
-/

namespace SiteGuard
namespace Pattern

/-! ## Conditions -/

structure Around where
  before : Option Char
  after : Option Char

def isWordChar (c : Option Char) : Bool :=
  (c.map (CharSet.holds CharSet.wordChars)).getD false

def Look.holds (l : Look) (a : Around) : Bool :=
  let wordBefore := isWordChar a.before
  let wordAfter := isWordChar a.after
  match l with
  | start => a.before.isNone
  | finish => a.after.isNone
  | lineStart => a.before.isNone || a.before == some '\n'
  | lineFinish => a.after.isNone || a.after == some '\n'
  | lineStartCrlf =>
    a.before.isNone || a.before == some '\n' || (a.before == some '\r' && a.after != some '\n')
  | lineFinishCrlf =>
    a.after.isNone || a.after == some '\r' || (a.after == some '\n' && a.before != some '\r')
  | wordEdge => wordBefore != wordAfter
  | notWordEdge => wordBefore == wordAfter
  | wordStart => !wordBefore && wordAfter
  | wordFinish => wordBefore && !wordAfter
  | wordStartHalf => !wordBefore
  | wordFinishHalf => !wordAfter

/-- The surroundings of each place, given the character in front of the first one. -/
def surroundings : Option Char → List Char → List Around
  | before, [] => [⟨before, none⟩]
  | before, c :: rest => ⟨before, some c⟩ :: surroundings (some c) rest

/-! ## Places -/

abbrev Places : Type := List Bool

/-- Places behind a character that passes a test and that begins at one of the given places. -/
def advance (test : Char → Bool) (text : List Char) (places : Places) : Places :=
  false :: List.zipWith (fun here c => here && test c) places text

def meet (places : Places) (test : Around → Bool) (around : List Around) : Places :=
  List.zipWith (fun here a => here && test a) places around

def union (a b : Places) : Places :=
  List.zipWith or a b

/-- Applies a step a number of times, or fewer if a step changes nothing. -/
def iterate (step : Places → Places) : Nat → Places → Places
  | 0, places => places
  | n + 1, places =>
    let next := step places
    if next = places then places else iterate step n next

def reach (step : Places → Places) : Nat → Places → Places
  | 0, places => places
  | n + 1, places =>
    let next := union places (step places)
    if next = places then places else reach step n next

def stepLimit (text : List Char) : Nat :=
  text.length + 1

mutual

/-- The places at which a match that begins at one of the given places may end. -/
def ends (text : List Char) (around : List Around) : Node → Places → Places
  | .empty, places => places
  | .char c, places => advance (· == c) text places
  | .set s, places => advance s.holds text places
  | .look l, places => meet places l.holds around
  | .repeated least most sub, places =>
    let step := ends text around sub
    let limit := stepLimit text
    let begun := iterate step (min least limit) places
    reach step
      (match most with
        | none => limit
        | some most => min (most - least) limit)
      begun
  | .group _ sub, places => ends text around sub places
  | .sequence parts, places => endsInOrder text around parts places
  | .choice parts, places => endsOfAny text around parts places

def endsInOrder (text : List Char) (around : List Around) : List Node → Places → Places
  | [], places => places
  | part :: rest, places => endsInOrder text around rest (ends text around part places)

def endsOfAny (text : List Char) (around : List Around) : List Node → Places → Places
  | [], places => places.map fun _ => false
  | part :: rest, places =>
    union (ends text around part places) (endsOfAny text around rest places)

end

end Pattern

/-! ## Patterns that are not too large -/

/-- A pattern whose automaton may take no more than ten mebibytes. -/
structure Pattern where
  root : Pattern.Node
  fits : root.totalBytes ≤ 10 * 1024 * 1024

namespace Pattern

def compile? (s : String) : Option Pattern := do
  let root ← parse? s.toList
  if h : root.totalBytes ≤ 10 * 1024 * 1024 then some ⟨root, h⟩ else none

def occursIn (p : Pattern) (s : String) : Bool :=
  let text := s.toList
  let around := surroundings none text
  (ends text around p.root (around.map fun _ => true)).any id

end Pattern
end SiteGuard

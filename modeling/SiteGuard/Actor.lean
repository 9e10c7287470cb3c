import SiteGuard.Engine.Command

/-!
# Actors

An engine behind a queue of commands, with a timer for each suspension and an
alarm at each minute.  The machine moves in single steps: a command arrives, the
first command of the queue is handled, a timer runs out, or the alarm goes off.
Time is counted in milliseconds from the start, and a step takes none.
-/

namespace SiteGuard

open Calendar

/-! ## State -/

/-- Ends a suspension when it is due, unless it is aborted before. -/
structure Timer where
  rule : String
  ticket : Nat
  due : Nat
  deriving DecidableEq

/-- A command that waits for room in the queue; one that a timer sent carries its ticket. -/
structure Waiting where
  command : Command
  ticket : Option Nat

structure Actor where
  engine : Engine
  /-- The moment at which the clock stood at zero. -/
  origin : Moment
  clock : Nat
  queue : List Command
  capacity : Nat
  waiting : List Waiting
  timers : List Timer
  /-- When the next pass is due. -/
  alarm : Nat

/-- Material that nobody can guess, for one command. -/
structure Fresh where
  ruleId : String
  salt : List UInt8

namespace Actor

/-! ## Time -/

def leastDelay : Nat := 1200000000

/-- Nanoseconds from a moment to the pass that follows one at that moment. -/
def passDelay (m : Moment) : Nat :=
  max m.untilNextMinute leastDelay

def roundUp (nanos : Nat) : Nat :=
  (nanos + 999999) / 1000000

def momentAt (a : Actor) (clock : Nat) : Moment :=
  { a.origin with instant := (a.origin.instant.after? (clock * 1000000)).getD a.origin.instant }

def now (a : Actor) : Moment :=
  a.momentAt a.clock

/--
Sets the alarm for the next minute.  The clock stands still while a step is taken, so it
shows here what it has shown to the pass.
-/
def armed (a : Actor) : Actor :=
  { a with alarm := a.clock + roundUp (passDelay a.now) }

/-! ## Queue -/

/-- Commands enter the queue in the order in which they were sent, as far as there is room. -/
def refill (a : Actor) : Actor :=
  let room := a.capacity - a.queue.length
  { a with
    queue := a.queue ++ (a.waiting.take room).map (·.command)
    waiting := a.waiting.drop room }

def send (a : Actor) (w : Waiting) : Actor :=
  { a with waiting := a.waiting ++ [w] }.refill

/-! ## Timers -/

def lostTickets (before after : List Suspension) : List Nat :=
  (before.filter fun s => !after.contains s).map (·.ticket)

/-- A command that ends a suspension aborts its timer; a timer's own command does not. -/
def abortedTickets (c : Command) (before after : List Suspension) : List Nat :=
  match c with
  | .resume _ => []
  | _ => lostTickets before after

/-- Stops timers, and those that have run out and wait for room in the queue. -/
def abort (a : Actor) (tickets : List Nat) : Actor :=
  { a with
    timers := a.timers.filter fun t => !tickets.contains t.ticket
    waiting := a.waiting.filter fun w => !(w.ticket.any tickets.contains) }

def startTimers (a : Actor) (before after : List Suspension) : Actor :=
  let new := after.filter fun s => !before.contains s
  { a with
    timers := a.timers ++ new.map fun s => ⟨s.rule, s.ticket, a.clock + a.engine.graceSeconds * 1000⟩ }

/-! ## Steps -/

def adopt (a : Actor) (c : Command) (o : Outcome) : Actor :=
  let before := a.engine.suspended
  let after := o.engine.suspended
  let a := { a with engine := o.engine }
  let a := (a.abort (abortedTickets c before after)).startTimers before after
  if o.passed then a.armed else a

/-- Handles the first command of the queue, and returns what it came to. -/
def handle (a : Actor) (fresh : Fresh) : Option (Except Failure Reply) × Actor :=
  match a.queue with
  | [] => (none, a)
  | c :: rest =>
    let a := { a with queue := rest }.refill
    let outcome := a.engine.run ⟨a.now, fresh.ruleId, fresh.salt⟩ c
    (some outcome.result, a.adopt c outcome)

/-- A timer runs out: it sends the command that ends its suspension. -/
def expire (a : Actor) (t : Timer) : Actor :=
  { a with timers := a.timers.erase t }.send ⟨.resume t.rule, some t.ticket⟩

def ring (a : Actor) : Actor :=
  { a with engine := (a.engine.pass a.now "alarm").2 }.armed

/-! ## Runs -/

def spawn (engine : Engine) (origin : Moment) (capacity : Nat) : Actor :=
  let a : Actor := ⟨engine, origin, 0, [], max capacity 1, [], [], 0⟩
  { a with engine := (engine.pass origin "startup").2 }.armed

def drain (fresh : Fresh) : (fuel : Nat) → Actor → Actor
  | 0, a => a
  | fuel + 1, a => if a.queue.isEmpty then a else drain fresh fuel (a.handle fresh).2

def settle (a : Actor) (fresh : Fresh) : Actor :=
  let due := a.timers.filter fun t => t.due ≤ a.clock
  let a := due.foldl expire a
  a.drain fresh (a.queue.length + a.waiting.length)

def request (a : Actor) (fresh : Fresh) (c : Command) : Except Failure Reply × Actor :=
  let (result, a) := (a.send ⟨c, none⟩).handle fresh
  (result.getD (.error .engineUnavailable), a.settle fresh)

def nextDue (a : Actor) : Nat :=
  a.timers.foldl (fun least t => min least t.due) a.alarm

def advance (fresh : Fresh) (target : Nat) : (fuel : Nat) → Actor → Actor
  | 0, a => { a with clock := target }
  | fuel + 1, a =>
    let due := max a.clock a.nextDue
    if target < due then { a with clock := target }
    else
      let a := { a with clock := due }
      let a := if a.alarm ≤ due then a.ring else a
      advance fresh target fuel (a.settle fresh)

/-- Lets time pass; there are at most as many alarms as the least delay allows. -/
def sleep (a : Actor) (fresh : Fresh) (millis : Nat) : Actor :=
  advance fresh (a.clock + millis) (millis / 1000 + a.timers.length + 2) a

end Actor
end SiteGuard

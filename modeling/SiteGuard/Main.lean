import SiteGuard.Http
import SiteGuard.ListenAddress
import SiteGuard.Options
import Std.Time.DateTime.Timestamp

/-!
# Command line

Reads the options, checks them, and then serves requests from standard input:
each line is a method, a path and, after another blank, a body.  The answer is a
line with the status and the body.  The clock shows universal time.
-/

namespace SiteGuard
namespace Console

open Calendar

/-! ## Options -/

def stopText : Options.Stop → String
  | .unknownArgument => "error: unexpected argument found"
  | .missingValue => "error: a value is required for an option"
  | .invalidNumber => "error: invalid value for a number"
  | .repeatedOption => "error: an option cannot be used multiple times"
  | .unwantedValue => "error: unexpected value for an option"
  | .help =>
    "Usage: " ++ Http.serviceName ++ " [--listen ADDRESS] [--db PATH] [--interstitial-url URL]"
      ++ " [--grace-seconds N] [--queue-depth N]"
  | .version => Http.serviceName ++ " " ++ Http.serviceVersion

/-- The engine of some options; nothing is kept when the program ends. -/
def engineOf (o : Options) : Except String Engine := do
  match Url.parse o.interstitialUrl with
  | .error f => .error ("invalid --interstitial-url '" ++ o.interstitialUrl ++ "': " ++ f.message)
  | .ok interstitial =>
    match ListenAddress.parse o.listen with
    | .error f => .error (f.message o.listen)
    | .ok _ => .ok (Engine.start Store.inMemory interstitial o.graceSeconds)

/-! ## Requests -/

def requestOf (line : String) : Http.Request :=
  match Text.cut ' ' line.trimAscii.toString.toList with
  | none => ⟨line.trimAscii.toString, "", none, ""⟩
  | some (method, rest) =>
    match Text.cut ' ' rest with
    | none => ⟨String.ofList method, String.ofList rest, none, ""⟩
    | some (path, body) =>
      ⟨String.ofList method, String.ofList path, some "application/json", String.ofList body⟩

/-! ## Clock and chance -/

def wallClock : IO Moment := do
  let nanos := (← Std.Time.Timestamp.now).toNanosecondsSinceUnixEpoch.val
  let instant? := Instant.of? (nanos / 1000000000) (nanos % 1000000000).toNat
  pure (Moment.utc (instant?.getD Instant.epoch))

def alphabet : List Char := "0123456789abcdefghijklmnopqrstuvwxyz".toList

def freshMaterial : IO Fresh := do
  let digits ← (List.range 8).mapM fun _ => do
    let i ← IO.rand 0 35
    pure (alphabet.getD i '0')
  let salt ← IO.getRandomBytes 16
  pure ⟨"r_" ++ String.ofList digits, salt.toList⟩

/-! ## Service -/

partial def serve (input output : IO.FS.Stream) (began : Nat) (actor : Actor) : IO Unit := do
  let line ← input.getLine
  if line.isEmpty then return
  let fresh ← freshMaterial
  let passed := (← IO.monoMsNow) - began
  let actor := actor.sleep fresh (passed - actor.clock)
  let (response, service) := Http.Service.handle (some actor) fresh (requestOf line)
  let body := (response.body.map Json.render).getD ""
  output.putStrLn (toString response.status ++ " " ++ body)
  output.flush
  serve input output began (service.getD actor)

/-- Serves requests until the input ends; the result is the exit status. -/
def run (args : List String) : IO UInt32 := do
  match Options.parse args with
  | .error stop =>
    IO.println (stopText stop)
    return if stop = .help ∨ stop = .version then 0 else 2
  | .ok options =>
    match engineOf options with
    | .error message =>
      IO.eprintln message
      return 1
    | .ok engine =>
      let actor := Actor.spawn engine (← wallClock) options.queueDepth
      serve (← IO.getStdin) (← IO.getStdout) (← IO.monoMsNow) actor
      return 0

end Console
end SiteGuard

def main (args : List String) : IO UInt32 :=
  SiteGuard.Console.run args

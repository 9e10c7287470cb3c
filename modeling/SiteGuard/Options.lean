import SiteGuard.Text

/-!
# Command-line options

Options are long names with one value each, attached with an equals sign or
following as the next argument.  An option without a value, or given twice, is
refused when the next option is met or the arguments end.
-/

namespace SiteGuard

open Text

structure Options where
  listen : String
  db : String
  interstitialUrl : String
  graceSeconds : Nat
  queueDepth : Nat
  deriving DecidableEq

namespace Options

inductive Key where
  | listen
  | db
  | interstitialUrl
  | graceSeconds
  | queueDepth
  deriving DecidableEq

/-- Why the arguments give no options; help and version are asked for in the same way. -/
inductive Stop where
  | unknownArgument
  | missingValue
  | invalidNumber
  | repeatedOption
  | unwantedValue
  | help
  | version
  deriving DecidableEq, Repr

def keyOf? : String → Option Key
  | "listen" => some .listen
  | "db" => some .db
  | "interstitial-url" => some .interstitialUrl
  | "grace-seconds" => some .graceSeconds
  | "queue-depth" => some .queueDepth
  | _ => none

def default : Options :=
  ⟨"127.0.0.1:17610", "./data/policy-core.db", "chrome-extension://policy-guard/block.html", 15, 64⟩

/-! ## State -/

/-- The options so far, the keys that were given, and the option that still waits to be taken over. -/
structure Reading where
  options : Options
  given : List Key
  pending : Option (Key × Option String)
  /-- Whether only plain arguments follow. -/
  plainOnly : Bool

def number (value : String) : Except Stop Nat :=
  match boundedNat? UInt64.size value.toList with
  | some n => .ok n
  | none => .error .invalidNumber

def withValue (o : Options) (value : String) : Key → Except Stop Options
  | .listen => .ok { o with listen := value }
  | .db => if value.isEmpty then .error .missingValue else .ok { o with db := value }
  | .interstitialUrl => .ok { o with interstitialUrl := value }
  | .graceSeconds => (number value).map fun n => { o with graceSeconds := n }
  | .queueDepth => (number value).map fun n => { o with queueDepth := n }

namespace Reading

def assign (r : Reading) (key : Key) (value : String) : Except Stop Reading :=
  if r.given.contains key then .error .repeatedOption
  else
    (r.options.withValue value key).map fun options => { r with options, given := key :: r.given }

def settle (r : Reading) : Except Stop Reading :=
  match r.pending with
  | none => .ok r
  | some (_, none) => .error .missingValue
  | some (key, some value) => { r with pending := none }.assign key value

def long (r : Reading) (arg : List Char) : Except Stop Reading :=
  let (name, attached) :=
    match cut '=' arg with
    | some (name, value) => (String.ofList name, some (String.ofList value))
    | none => (String.ofList arg, none)
  match keyOf? name, attached with
  | some key, some value => do (← r.settle).assign key value
  | some key, none => do .ok { ← r.settle with pending := some (key, none) }
  | none, attached =>
    if name = "help" ∨ name = "version" then
      if attached.isSome then .error .unwantedValue
      else do
        let _ ← r.settle
        .error (if name = "help" then .help else .version)
    else .error .unknownArgument

def short (r : Reading) (arg : List Char) : Except Stop Reading :=
  match arg with
  | 'h' :: _ => do
    let _ ← r.settle
    .error .help
  | 'V' :: _ => do
    let _ ← r.settle
    .error .version
  | _ => .error .unknownArgument

def plain (r : Reading) (arg : String) : Except Stop Reading :=
  match r.pending with
  | some (key, none) => .ok { r with pending := some (key, some arg) }
  | _ => .error .unknownArgument

def step (r : Reading) (arg : String) : Except Stop Reading :=
  if r.plainOnly then .error .unknownArgument
  else
    match arg.toList with
    | ['-', '-'] => .ok { r with plainOnly := true }
    | '-' :: '-' :: rest => r.long rest
    | '-' :: c :: rest => r.short (c :: rest)
    | _ => r.plain arg

end Reading

def parse (args : List String) : Except Stop Options := do
  let r ← args.foldlM Reading.step ⟨default, [], none, false⟩
  .ok (← r.settle).options

end Options
end SiteGuard

import SiteGuard.Failure
import SiteGuard.Settings.Wire

/-!
# Settings store

The settings lie as one document in a primary table of limited size.  What does
not fit, or what the table refuses, goes to a fallback file, if there is one.
Reading never fails: what cannot be read is passed over, and the defaults come
last.
-/

namespace SiteGuard

open Text

/-! ## Documents -/

/-- A stored document: settings that were saved, or whatever was put there from outside. -/
inductive Document where
  | saved (s : Settings)
  | text (t : String)
  | bytes (content : List UInt8)

namespace Document

def encoding (s : Settings) : String :=
  Json.encode s

def size : Document → Nat
  | saved s => Utf8.byteCount (encoding s)
  | text t => Utf8.byteCount t
  | bytes content => content.length

def ofBytes (content : List UInt8) : Document :=
  match Utf8.decode? content with
  | some cs => text (String.ofList cs)
  | none => bytes content

def settings? : Document → Option Settings
  | saved s => some s
  | text t => (Json.decode Settings t).toOption
  | bytes _ => none

end Document

/-! ## Backends -/

inductive Primary where
  | absent
  | row (d : Document)
  /-- The table is missing. -/
  | dropped

inductive Fallback where
  /-- No file has been chosen. -/
  | unconfigured
  | absent
  | file (d : Document)
  | directory

structure Store where
  primary : Primary
  fallback : Fallback
  /-- Documents of more bytes than this do not go to the primary table. -/
  quota : Nat

namespace Store

def defaultQuota : Nat := 102400

def inMemory : Store := ⟨.absent, .unconfigured, defaultQuota⟩

def onDisk : Store := ⟨.absent, .absent, defaultQuota⟩

/-! ## Reading -/

def primaryDocument? (s : Store) : Option Document :=
  match s.primary with
  | .row d => some d
  | _ => none

def fallbackDocument? (s : Store) : Option Document :=
  match s.fallback with
  | .file d => some d
  | _ => none

def load (s : Store) : Settings :=
  ((s.primaryDocument?.bind Document.settings?).or
    (s.fallbackDocument?.bind Document.settings?)).getD Settings.default

/-! ## Writing -/

def canFallBack (s : Store) : Bool :=
  match s.fallback with
  | .unconfigured => false
  | .directory => false
  | _ => true

/-- The primary row would hide a fresher file, so it goes. -/
def cleared : Primary → Primary
  | .row _ => .absent
  | p => p

def saveToFallback (s : Store) (settings : Settings) : Except Failure Store :=
  match s.fallback with
  | .unconfigured => .error (.storage .noFallback)
  | .directory => .error (.storage .directory)
  | _ => .ok { s with primary := cleared s.primary, fallback := .file (.saved settings) }

def save (s : Store) (settings : Settings) : Except Failure Store :=
  if s.quota < (Document.saved settings).size then s.saveToFallback settings
  else
    match s.primary with
    | .dropped => s.saveToFallback settings
    | _ => .ok { s with primary := .row (.saved settings) }

/-! ## Opening -/

/-- Opening creates the table if it is missing and takes the quota back to its default. -/
def reopen (s : Store) : Store :=
  { s with
    primary := match s.primary with | .dropped => .absent | p => p
    quota := defaultQuota }

/-! ## Damage from outside -/

def withRow (s : Store) (row : Option Document) : Option Store :=
  match s.primary with
  | .dropped => none
  | _ => some { s with primary := (row.map Primary.row).getD .absent }

def withoutTable (s : Store) : Option Store :=
  match s.primary with
  | .dropped => none
  | _ => some { s with primary := .dropped }

def withFile (s : Store) (d : Document) : Option Store :=
  if s.canFallBack then some { s with fallback := .file d } else none

def withoutFile (s : Store) : Option Store :=
  match s.fallback with
  | .file _ => some { s with fallback := .absent }
  | _ => none

def withDirectory (s : Store) : Option Store :=
  if s.canFallBack then some { s with fallback := .directory } else none

end Store
end SiteGuard

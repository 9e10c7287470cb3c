import SiteGuard.Proofs.Settings.Wire
import SiteGuard.Proofs.Store

/-!
# Saving as text

A store remembers the settings that it has taken.  On the medium lies their
text, and a save is a few calls there, each of which may fail: the row is
replaced, or else the file is written and then the row deleted.  These calls
leave what the store remembers, and a failing save leaves what there was.
-/

namespace SiteGuard

open Text

/-! ## Text on the medium -/

namespace Document

def written : Document → Document
  | saved s => text (encoding s)
  | text t => text t
  | bytes content => bytes content

theorem settings?_written (d : Document) : d.written.settings? = d.settings? := by
  cases d with
  | saved s =>
      have hread : Json.decode Settings (encoding s) = .ok s :=
        Json.decode_encode s
      show (Json.decode Settings (encoding s)).toOption = some s
      rw [hread]
      rfl
  | text t =>
      rfl
  | bytes content =>
      rfl

end Document

namespace Store

def writtenPrimary : Primary → Primary
  | .row d => .row d.written
  | p => p

def writtenFallback : Fallback → Fallback
  | .file d => .file d.written
  | f => f

def written (st : Store) : Store :=
  { st with primary := writtenPrimary st.primary, fallback := writtenFallback st.fallback }

theorem primarySettings?_written (st : Store) :
    st.written.primaryDocument?.bind Document.settings? =
      st.primaryDocument?.bind Document.settings? := by
  unfold written primaryDocument?
  cases st.primary with
  | absent =>
      rfl
  | row d =>
      exact d.settings?_written
  | dropped =>
      rfl

theorem fallbackSettings?_written (st : Store) :
    st.written.fallbackDocument?.bind Document.settings? =
      st.fallbackDocument?.bind Document.settings? := by
  unfold written fallbackDocument?
  cases st.fallback with
  | file d =>
      exact d.settings?_written
  | unconfigured =>
      rfl
  | absent =>
      rfl
  | directory =>
      rfl

theorem load_written (st : Store) : st.written.load = st.load := by
  unfold load
  rw [primarySettings?_written, fallbackSettings?_written]

/-! ## The calls of a save -/

/-- Writes the file, and then deletes the row, which is left where that fails. -/
def writeFile (st : Store) (text : String) : Except Failure Unit × Store :=
  match st.withFile (.text text) with
  | some st' => (.ok (), (st'.withRow none).getD st')
  | none =>
      match st.fallback with
      | .unconfigured => (.error (.storage .noFallback), st)
      | _ => (.error (.storage .directory), st)

def write (st : Store) (settings : Settings) : Except Failure Unit × Store :=
  let text := Document.encoding settings
  if st.quota < Utf8.byteCount text then st.writeFile text
  else
    match st.withRow (some (.text text)) with
    | some st' => (.ok (), st')
    | none => st.writeFile text

def outcome (st : Store) : Except Failure Store → Except Failure Unit × Store
  | .ok st' => (.ok (), st'.written)
  | .error f => (.error f, st.written)

theorem writeFile_written (st : Store) (settings : Settings) :
    st.written.writeFile (Document.encoding settings) =
      st.outcome (st.saveToFallback settings) := by
  rcases st with ⟨primary, fallback, quota⟩
  cases fallback with
  | unconfigured =>
      rfl
  | directory =>
      rfl
  | absent =>
      cases primary <;> rfl
  | file d =>
      cases primary <;> rfl

theorem write_written (st : Store) (settings : Settings) :
    st.written.write settings = st.outcome (st.save settings) := by
  show (if st.quota < Utf8.byteCount (Document.encoding settings) then _ else _) = st.outcome
    (if st.quota < Utf8.byteCount (Document.encoding settings) then _ else _)
  by_cases hquota : st.quota < Utf8.byteCount (Document.encoding settings)
  · rw [if_pos hquota, if_pos hquota]
    exact st.writeFile_written settings
  · rw [if_neg hquota, if_neg hquota]
    rcases st with ⟨primary, fallback, quota⟩
    cases primary with
    | absent =>
        rfl
    | row d =>
        rfl
    | dropped =>
        exact writeFile_written ⟨.dropped, fallback, quota⟩ settings

/-! ## Failing -/

theorem saveToFallback_fails_iff (st : Store) (settings : Settings) :
    (∃ f, st.saveToFallback settings = .error f) ↔
      st.fallback = .unconfigured ∨ st.fallback = .directory := by
  unfold saveToFallback
  cases st.fallback <;> simp

theorem save_fails_iff (st : Store) (settings : Settings) :
    (∃ f, st.save settings = .error f) ↔
      (st.quota < Utf8.byteCount (Document.encoding settings) ∨ st.primary = .dropped) ∧
        (st.fallback = .unconfigured ∨ st.fallback = .directory) := by
  rw [← saveToFallback_fails_iff st settings]
  unfold save
  show (∃ f, (if st.quota < Utf8.byteCount (Document.encoding settings) then _ else _) = _) ↔ _
  by_cases hquota : st.quota < Utf8.byteCount (Document.encoding settings)
  · simp only [hquota, if_true, true_or, true_and]
  · cases hprimary : st.primary with
    | absent =>
        simp [hquota]
    | row d =>
        simp [hquota]
    | dropped =>
        simp [hquota]

/-! ## Taking -/

section Taking

variable {st st' : Store} {s s' : Settings}

theorem fallback_of_saveToFallback (h : st.saveToFallback s = .ok st') :
    st'.fallback = .file (.saved s) := by
  unfold saveToFallback at h
  cases hfallback : st.fallback with
  | unconfigured =>
      rw [hfallback] at h
      cases h
  | directory =>
      rw [hfallback] at h
      cases h
  | absent =>
      rw [hfallback] at h
      cases h
      rfl
  | file d =>
      rw [hfallback] at h
      cases h
      rfl

theorem save_eq_ok (h : st.save s = .ok st') :
    st'.fallback = .file (.saved s) ∨
      ¬st.quota < (Document.saved s).size ∧ st' = { st with primary := .row (.saved s) } := by
  unfold save at h
  split at h
  · exact Or.inl (fallback_of_saveToFallback h)
  · rename_i hfits
    split at h
    · exact Or.inl (fallback_of_saveToFallback h)
    · cases h
      exact Or.inr ⟨hfits, rfl⟩

theorem canFallBack_of_save (h : st.save s = .ok st') (hfile : st.canFallBack = true) :
    st'.canFallBack = true := by
  rcases save_eq_ok h with hfallback | ⟨_, rfl⟩
  · unfold canFallBack
    rw [hfallback]
  · exact hfile

theorem save_of_canFallBack (h : st.canFallBack = true) (s : Settings) :
    ∃ st', st.save s = .ok st' := by
  cases hsave : st.save s with
  | ok st' =>
      exact ⟨st', rfl⟩
  | error f =>
      rcases (save_fails_iff st s).mp ⟨f, hsave⟩ with ⟨_, hfallback | hfallback⟩
      · rw [canFallBack, hfallback] at h
        cases h
      · rw [canFallBack, hfallback] at h
        cases h

theorem save_again (h : st.save s = .ok st')
    (hsize : (Document.saved s').size ≤ (Document.saved s).size) :
    ∃ st'', st'.save s' = .ok st'' := by
  rcases save_eq_ok h with hfallback | ⟨hfits, rfl⟩
  · apply save_of_canFallBack
    unfold canFallBack
    rw [hfallback]
  · have hfits' : ¬st.quota < (Document.saved s').size :=
      fun hless => hfits (Nat.lt_of_lt_of_le hless hsize)
    refine ⟨{ st with primary := .row (.saved s') }, ?_⟩
    unfold save
    exact if_neg hfits'

end Taking

/-! ## Runs -/

inductive Operation where
  | save (settings : Settings)
  | resize (quota : Nat)
  | reopen

def after (st : Store) : Operation → Store
  | .save settings => (st.save settings).toOption.getD st
  | .resize quota => { st with quota }
  | .reopen => st.reopen

def afterAll (st : Store) (ops : List Operation) : Store :=
  ops.foldl after st

def acknowledged : Store → List Operation → List Settings
  | _, [] => []
  | st, .save settings :: ops =>
      match st.save settings with
      | .ok st' => settings :: acknowledged st' ops
      | .error _ => acknowledged st ops
  | st, op :: ops => acknowledged (st.after op) ops

theorem getLast?_getD_cons {α : Type} (a b : α) (as : List α) :
    (a :: as).getLast?.getD b = as.getLast?.getD a := by
  cases as with
  | nil =>
      rfl
  | cons a' as =>
      rw [List.getLast?_cons_cons]
      rfl

theorem load_afterAll (st : Store) (ops : List Operation) :
    (st.afterAll ops).load = (st.acknowledged ops).getLast?.getD st.load := by
  induction ops generalizing st with
  | nil =>
      rfl
  | cons op ops ih =>
      show ((st.after op).afterAll ops).load = _
      rw [ih]
      cases op with
      | save settings =>
          cases hsave : st.save settings with
          | error f =>
              simp only [acknowledged, after, hsave, Except.toOption, Option.getD_none]
          | ok st' =>
              simp only [acknowledged, after, hsave, Except.toOption, Option.getD_some]
              rw [load_save hsave, getLast?_getD_cons]
      | resize quota =>
          rfl
      | reopen =>
          show _ = (st.reopen.acknowledged ops).getLast?.getD _
          rw [← load_reopen st st.reopen.quota]
          rfl

/-! ## The last acknowledged save -/

theorem load_onDisk : onDisk.load = Settings.default :=
  rfl

/-- What is read is the last acknowledged save, in one step and over a run: a save that
succeeds is read back, from the text too, one that fails leaves every byte, and it fails
just where neither place takes the text. -/
theorem last_save_loaded (st : Store) (settings : Settings) (ops : List Operation) :
    (∀ st', st.save settings = .ok st' →
      st'.load = settings ∧ st.written.write settings = (.ok (), st'.written) ∧
        st'.written.load = settings) ∧
    (∀ f, st.save settings = .error f →
      st.written.write settings = (.error f, st.written) ∧ st.written.load = st.load) ∧
    ((∃ f, st.save settings = .error f) ↔
      (st.quota < Utf8.byteCount (Document.encoding settings) ∨ st.primary = .dropped) ∧
        (st.fallback = .unconfigured ∨ st.fallback = .directory)) ∧
    st.reopen.load = st.load ∧ st.written.reopen.load = st.load ∧
    (onDisk.afterAll ops).written.load =
      (onDisk.acknowledged ops).getLast?.getD Settings.default := by
  refine ⟨?_, ?_, st.save_fails_iff settings, ?_, ?_, ?_⟩
  · intro st' hsave
    have hload : st'.load = settings :=
      load_save hsave
    have hcalls : st.written.write settings = st.outcome (.ok st') :=
      hsave ▸ st.write_written settings
    exact ⟨hload, hcalls, (load_written st').trans hload⟩
  · intro f hsave
    have hcalls : st.written.write settings = st.outcome (.error f) :=
      hsave ▸ st.write_written settings
    exact ⟨hcalls, load_written st⟩
  · exact load_reopen st st.reopen.quota
  · exact (load_reopen st.written st.written.reopen.quota).trans (load_written st)
  · rw [load_written, load_afterAll, load_onDisk]

end Store
end SiteGuard

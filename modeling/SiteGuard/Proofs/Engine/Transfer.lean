import SiteGuard.Proofs.Engine.Grants
import SiteGuard.Proofs.Engine.NormalForm

/-!
# Policies that are carried over

An exported policy and what an import leaves alone make up the settings between them.
As all settings are valid that an engine comes to have, a policy that one engine exports
is never refused by another one on account of what is in it, and the import of it
restores what was exported and nothing else.
-/

namespace SiteGuard

open Calendar

/-! ## Overrides in normal form -/

namespace Overrides

variable {o o' : Overrides} {key host : String} {till now : Instant}

theorem exists_normalize (h : ∀ key ∈ o.keys, ∃ host, HostPattern.hostname? key = some host) :
    ∃ o', o.normalize = .ok o' := by
  cases hnormal : o.normalize with
  | ok o' =>
      exact ⟨o', rfl⟩
  | error key =>
      have hfound := normalize_eq_error_iff.mp hnormal
      rcases h key (List.mem_of_find?_eq_some hfound) with ⟨host, hhost⟩
      have hnone := List.find?_some hfound
      rw [hhost] at hnone
      cases hnone

theorem lastsTo_of_normalize (h : o.normalize = .ok o') (hkey : o.get? key = some till)
    (hhost : HostPattern.hostname? key = some host) : o'.LastsTo host till := by
  have hcollects := collects_of_normalize h
  have hexpires : Expires o.entries host till := (expires_iff_get? o host till).mpr ⟨key, hkey, hhost⟩
  cases hknown : o'.get? host with
  | none =>
      exact absurd hexpires (hcollects.complete host hknown till)
  | some known =>
      exact ⟨known, hknown, (hcollects.last host known hknown).2 till hexpires⟩

end Overrides

/-! ## Settings with another policy -/

namespace Settings

variable {s other : Settings}

theorem exported_rules (s : Settings) : s.exported.rules = s.rules :=
  rfl

theorem Valid.imported (h : s.Valid) (hother : other.Valid) :
    (s.imported other.exported).Valid :=
  ⟨hother.ids, hother.distinct, hother.rules, h.minutes⟩

end Settings

theorem Command.decideImport_of_valid {e : Engine} {other : Settings} {pin : Option String}
    {overrides : Overrides} (hvalid : e.settings.Valid) (hother : other.Valid)
    (hauthorized : e.settings.authorize pin = .ok ())
    (hnormal : e.settings.overrides.normalize = .ok overrides) :
    decideImport e other.exported pin = .ok (commit
      { e.settings.imported other.exported with overrides } [] "import" .done) := by
  have hnormalized : (e.settings.imported other.exported).normalized =
      .ok { e.settings.imported other.exported with overrides } :=
    Settings.normalized_of_ok hnormal
  have hfault : { e.settings.imported other.exported with overrides }.fault? = none :=
    Settings.fault?_eq_none_iff.mpr ((hvalid.imported hother).of_same rfl rfl)
  unfold decideImport
  simp only [hauthorized, hnormalized, bind, Except.bind, hfault, orFail]

namespace Engine

/-! ## Engines at some time of their life -/

/--
An engine that has begun without documents, and whose settings have changed by commands
alone, with ids for new rules that no rule had.
-/
inductive Evolved : Engine → Prop where
  | intro {store : Store} {interstitial : Url} {graceSeconds : Nat} {events : List Event}
      (hprimary : store.primaryDocument? = none) (hfallback : store.fallbackDocument? = none)
      (huntampered : Untampered (start store interstitial graceSeconds) events)
      (hfresh : ∀ before o c rest, events = before ++ .command o c :: rest →
        c.Mints o ((start store interstitial graceSeconds).afterAll before) →
        o.Fresh ((start store interstitial graceSeconds).afterAll before).settings) :
      Evolved ((start store interstitial graceSeconds).afterAll events)

variable {a b : Engine} {o : Occasion} {pin : Option String}

theorem Evolved.valid (h : a.Evolved) : a.settings.Valid := by
  cases h with
  | intro hprimary hfallback huntampered hfresh =>
      exact (afterAll_sound hprimary hfallback huntampered hfresh).valid

theorem Evolved.keyed (h : a.Evolved) : a.table.Keyed := by
  cases h with
  | intro =>
      exact afterAll_keyed (start_keyed _ _ _) _

/-! ## Carrying a policy over -/

theorem run_exportPolicy (e : Engine) (o : Occasion) :
    (e.run o .exportPolicy).result = .ok (.policy e.settings.exported) :=
  rfl

/--
What one engine exports another one takes, also from its text.  The switches, the mode of
new rules and the rules become those of the exporting engine; of all else in the settings
only the overrides change, of which none that is live is cut short.  Nothing is suspended
any more, the table is that of the new plan, and exporting comes to the same again.
-/
theorem import_restores_export (ha : a.Evolved) (hb : b.Evolved)
    (hkeys : ∀ key ∈ b.settings.overrides.keys, ∃ host, HostPattern.hostname? key = some host)
    (hauthorized : b.settings.authorize pin = .ok ()) (houtage : b.outage = Outage.none)
    (htable : b.table.InOrder)
    (hstore : ∀ s, (b.settings.imported a.settings.exported).normalized = .ok s →
      ∃ store, b.store.save s = .ok store)
    (hroom : a.settings.rules.length ≤ Directive.idCount) :
    ∃ p, (∀ earlier, (a.run earlier .exportPolicy).result = .ok (.policy p)) ∧
      Json.decode PolicyExport (Json.encode p) = .ok p ∧
      (b.run o (.importPolicy p pin)).result = .ok .done ∧
      let after := (b.run o (.importPolicy p pin)).engine
      after.settings = { b.settings with
        enabled := a.settings.enabled
        allowlistMode := a.settings.allowlistMode
        defaultBlockMode := a.settings.defaultBlockMode
        rules := a.settings.rules
        overrides := after.settings.overrides } ∧
      (∀ key till, b.settings.overrides.get? key = some till → o.now.instant < till →
        ∃ host known, HostPattern.hostname? key = some host ∧
          after.settings.overrides.get? host = some known ∧ ¬known < till) ∧
      after.suspended = [] ∧
      after.installed =
        .ok (DirectiveTable.inOrder (after.settings.plan o.now [] b.interstitial)) ∧
      ∀ later, (after.run later .exportPolicy).result = .ok (.policy p) := by
  rcases Overrides.exists_normalize hkeys with ⟨overrides, hnormal⟩
  have hnormalized : (b.settings.imported a.settings.exported).normalized =
      .ok { b.settings.imported a.settings.exported with overrides } :=
    Settings.normalized_of_ok hnormal
  have hdecide : Command.decide o b (.importPolicy a.settings.exported pin) =
      .ok (Command.commit { b.settings.imported a.settings.exported with overrides } [] "import"
        .done) :=
    Command.decideImport_of_valid hb.valid ha.valid hauthorized hnormal
  have hsaves : ∃ after, b.saved { b.settings.imported a.settings.exported with overrides } =
      .ok after := by
    rcases hstore _ hnormalized with ⟨store, hsaved⟩
    exact ⟨_, saved_of_store (by rw [houtage]; rfl) hsaved⟩
  have hok := result_of_commit houtage htable (by exact hroom) hsaves hdecide
  have hcommitted := committed_of_run hb.keyed (by exact hroom) hdecide hok
  refine ⟨a.settings.exported, a.run_exportPolicy, Json.decode_encode _, hok, ?_, ?_,
    hcommitted.suspended, ?_, ?_⟩
  · rw [hcommitted.settings]
    rfl
  · intro key till hkey hlive
    rcases hkeys key (SortedMap.mem_keys.mpr ⟨till, SortedMap.get?_eq_some_iff.mp hkey⟩) with
      ⟨host, hhost⟩
    rcases (Overrides.lastsTo_of_normalize hnormal hkey hhost).live hlive with
      ⟨known, hknown, hlasts⟩
    refine ⟨host, known, hhost, ?_, hlasts⟩
    rw [hcommitted.settings]
    exact hknown
  · rw [hcommitted.installed, planned, suspendedRules, hcommitted.suspended,
      hcommitted.interstitial]
    rfl
  · intro later
    rw [run_exportPolicy, hcommitted.settings]
    rfl

/-! ## A sample -/

def plainly : Engine :=
  emptied.afterAll [.command firstDawn (.addRule plainDraft)]

theorem plainly_evolved : plainly.Evolved := by
  refine .intro rfl rfl (.own .command .nil) ?_
  intro before o c rest hevents hmints
  rcases before with _ | ⟨first, before⟩
  · cases hevents
    cases hmints with
    | added hopen =>
        cases hopen
  · simp at hevents

theorem plainly_rules : plainly.settings.rules = [plainRule] := by
  decide +kernel

def onFile : Engine :=
  start Store.onDisk loopbackUrl 60

def letIn : OverrideCall := ⟨"127.0.0.1", 5, none⟩

def lenient : Engine :=
  onFile.afterAll [.command firstDawn letIn.command]

theorem lenient_evolved : lenient.Evolved := by
  refine .intro rfl rfl (.own .command .nil) ?_
  intro before o c rest hevents hmints
  rcases before with _ | ⟨first, before⟩
  · cases hevents
    cases hmints
  · simp at hevents

theorem letIn_asks : letIn.Asks firstDawn.now.instant "127.0.0.1" ⟨300, 0, by decide⟩ :=
  ⟨by decide, by decide, hostname?_loopback, by decide⟩

theorem afterAll_command (e : Engine) (o : Occasion) (c : Command) :
    e.afterAll [.command o c] = (e.run o c).engine :=
  rfl

theorem lenient_eq : lenient = (onFile.run firstDawn letIn.command).engine :=
  afterAll_command onFile firstDawn letIn.command

theorem onFile_room : onFile.settings.rules.length ≤ Directive.idCount := by
  decide

theorem letIn_taken :
    ∃ reply, (onFile.run firstDawn letIn.command).result = .ok reply ∧ lenient.Receptive := by
  have hreceptive : onFile.Receptive := ⟨rfl, ⟨⟨[], rfl⟩, rfl, rfl⟩, rfl⟩
  have hdecide := letIn.decide_eq firstDawn onFile letIn_asks
  rw [lenient_eq]
  exact ⟨_, hreceptive.commit (start_keyed _ _ _) (by exact onFile_room) hdecide⟩

theorem lenient_granted : onFile.Granted dawn "127.0.0.1" ⟨300, 0, by decide⟩ lenient := by
  rcases letIn_taken with ⟨reply, hok, _⟩
  rw [lenient_eq]
  exact granted_of_run (start_keyed _ _ _) onFile_room letIn_asks hok

theorem lenient_overrides : lenient.settings.overrides =
    SortedMap.ofList [("127.0.0.1", ⟨300, 0, by decide⟩)] := by
  rw [lenient_granted.settings]
  rfl

set_option maxRecDepth 10000 in
theorem plain_policy_carried :
    ∃ p, (plainly.run firstDawn .exportPolicy).result = .ok (.policy p) ∧
      p.rules = [plainRule] ∧
      (lenient.run firstDawn (.importPolicy p none)).result = .ok .done ∧
      (lenient.run firstDawn (.importPolicy p none)).engine.settings.rules = [plainRule] ∧
      ∃ known, (lenient.run firstDawn
          (.importPolicy p none)).engine.settings.overrides.get? "127.0.0.1" = some known ∧
        ¬known < ⟨300, 0, by decide⟩ := by
  have hkeys : ∀ key ∈ lenient.settings.overrides.keys,
      ∃ host, HostPattern.hostname? key = some host := by
    intro key hkey
    rw [lenient_overrides] at hkey
    obtain rfl : key = "127.0.0.1" := List.mem_singleton.mp hkey
    exact ⟨_, hostname?_loopback⟩
  have hauthorized : lenient.settings.authorize none = .ok () := by
    rw [lenient_granted.settings]
    rfl
  rcases letIn_taken with ⟨_, _, hreceptive⟩
  have hroom : plainly.settings.rules.length ≤ Directive.idCount := by
    rw [plainly_rules]
    decide
  rcases import_restores_export (o := firstDawn) plainly_evolved lenient_evolved hkeys hauthorized
    hreceptive.outage hreceptive.table
    (fun s _ => Store.save_of_canFallBack hreceptive.file s) hroom with
    ⟨p, hexport, _, hdone, hsettings, hlasts, _⟩
  have hpolicy : p.rules = [plainRule] := by
    have hexported := (hexport firstDawn).symm.trans (plainly.run_exportPolicy firstDawn)
    rw [Reply.policy.inj (Except.ok.inj hexported), Settings.exported_rules, plainly_rules]
  have hknown : lenient.settings.overrides.get? "127.0.0.1" = some ⟨300, 0, by decide⟩ := by
    rw [lenient_overrides]
    rfl
  rcases hlasts _ _ hknown (by decide) with ⟨host, known, hhost, hget, hlate⟩
  cases hhost.symm.trans hostname?_loopback
  refine ⟨p, hexport firstDawn, hpolicy, hdone, ?_, known, hget, hlate⟩
  rw [hsettings, plainly_rules]

end Engine
end SiteGuard

import SiteGuard.Proofs.Engine.Overrides

/-!
# Stored overrides in normal form

Settings are brought to normal form whenever they are patched or imported, with
the overrides that lie in the store already among them.  What is in normal form
stays as it is; what is not is moved to another host, or stands in the way of the
command.
-/

namespace SiteGuard

/-! ## Refusals of hostnames -/

def Failure.SparesHosts (f : Failure) : Prop :=
  ∀ text, f ≠ .invalidHostname text

theorem Failure.IsBackend.sparesHosts {f : Failure} (h : f.IsBackend) : f.SparesHosts := by
  intro text
  rcases h with ⟨cause, rfl⟩ | ⟨cause, rfl⟩
  · nofun
  · nofun

theorem Rule.fault?_sparesHosts {r : Rule} {f : Failure} (h : r.fault? = some f) :
    f.SparesHosts := by
  intro text
  unfold Rule.fault? at h
  split at h
  · cases h
    nofun
  · split at h
    · cases h
      nofun
    · rcases Option.map_eq_some_iff.mp h with ⟨cause, _, rfl⟩
      nofun

namespace Settings

theorem rulesFault?_sparesHosts {rules : List Rule} {seen : List String} {f : Failure}
    (h : rulesFault? seen rules = some f) : f.SparesHosts := by
  induction rules generalizing seen with
  | nil =>
      cases h
  | cons r rest ih =>
      unfold rulesFault? at h
      split at h
      · cases h
        nofun
      · split at h
        · cases h
          nofun
        · rcases Option.or_eq_some_iff.mp h with hrule | ⟨_, hrest⟩
          · exact Rule.fault?_sparesHosts hrule
          · exact ih hrest

theorem fault?_sparesHosts {s : Settings} {f : Failure} (h : s.fault? = some f) :
    f.SparesHosts := by
  rcases Option.or_eq_some_iff.mp h with hrules | ⟨_, hminutes⟩
  · exact rulesFault?_sparesHosts hrules
  · split at hminutes
    · cases hminutes
      nofun
    · cases hminutes

theorem authorize_sparesHosts {s : Settings} {candidate : Option String} {f : Failure}
    (h : s.authorize candidate = .error f) : f.SparesHosts := by
  unfold authorize checkPin at h
  split at h
  · split at h
    · cases h
    · split at h
      · cases h
        nofun
      · split at h
        · cases h
        · cases h
          nofun
  · cases h

theorem key_of_normalized_error {s : Settings} {text : String}
    (h : s.normalized = .error (.invalidHostname text)) :
    text ∈ s.overrides.keys ∧ HostPattern.hostname? text = none := by
  unfold normalized at h
  split at h
  · cases h
  · rename_i key hkey
    cases h
    exact Overrides.key_of_normalize_error hkey

theorem normalized_self {s : Settings}
    (h : ∀ key ∈ s.overrides.keys, HostPattern.hostname? key = some key) :
    s.normalized = .ok s := by
  unfold normalized
  rw [Overrides.normalize_self h]

end Settings

theorem Json.merge_sparesHosts {α : Type} [Wire α] {base : α} {patch : Json}
    {guarded : List String} {f : Failure} (h : Json.merge base patch guarded = .error f) :
    f.SparesHosts := by
  unfold Json.merge at h
  split at h
  · dsimp only at h
    split at h
    · cases h
    · cases h
      nofun
  · cases h
    nofun
  · cases h
    nofun

namespace Command

variable {e : Engine}

theorem orFail_sparesHosts {s : Settings} {f : Failure} (h : orFail s.fault? = .error f) :
    f.SparesHosts := by
  unfold orFail at h
  split at h
  · cases h
  · rename_i hfault
    cases h
    exact Settings.fault?_sparesHosts hfault

theorem decidePatch_invalidHostname {patch : Json} {pin : Option String} {text : String}
    (h : decidePatch e patch pin = .error (.invalidHostname text)) :
    ∃ merged, Json.merge e.settings patch ["pin"] = .ok merged ∧
      merged.normalized = .error (.invalidHostname text) := by
  unfold decidePatch at h
  rcases bind_eq_error h with hrefused | ⟨_, _, h⟩
  · exact absurd rfl (Settings.authorize_sparesHosts hrefused text)
  · rcases bind_eq_error h with hmerge | ⟨merged, hmerge, h⟩
    · exact absurd rfl (Json.merge_sparesHosts hmerge text)
    · rcases bind_eq_error h with hnormal | ⟨normal, _, h⟩
      · exact ⟨merged, hmerge, hnormal⟩
      · rcases bind_eq_error h with hfault | ⟨_, _, h⟩
        · exact absurd rfl (orFail_sparesHosts hfault text)
        · cases h

theorem decideImport_invalidHostname {policy : PolicyExport} {pin : Option String}
    {text : String} (h : decideImport e policy pin = .error (.invalidHostname text)) :
    (e.settings.imported policy).normalized = .error (.invalidHostname text) := by
  unfold decideImport at h
  rcases bind_eq_error h with hrefused | ⟨_, _, h⟩
  · exact absurd rfl (Settings.authorize_sparesHosts hrefused text)
  · rcases bind_eq_error h with hnormal | ⟨normal, _, h⟩
    · exact hnormal
    · rcases bind_eq_error h with hfault | ⟨_, _, h⟩
      · exact absurd rfl (orFail_sparesHosts hfault text)
      · cases h

/-- Whether a command brings the stored overrides to normal form, and names no others. -/
inductive Renormalizes : Command → Prop where
  | patch {patch : Json} {pin : Option String} (hsilent : patch.get? "overrides" = none) :
      Renormalizes (.patchSettings patch pin)
  | policy {policy : PolicyExport} {pin : Option String} :
      Renormalizes (.importPolicy policy pin)

end Command

namespace Engine

open HostPattern

variable {e : Engine}

/-- Such a command is refused for a hostname only where a stored key names none. -/
theorem key_of_run_invalidHostname {o : Occasion} {c : Command} (hc : c.Renormalizes)
    {text : String} (h : (e.run o c).result = .error (.invalidHostname text)) :
    text ∈ e.settings.overrides.keys ∧ hostname? text = none := by
  rcases run_error h with hdecide | hbackend
  · cases hc with
    | patch hsilent =>
        rcases Command.decidePatch_invalidHostname hdecide with ⟨merged, hmerge, hnormal⟩
        rcases Settings.key_of_normalized_error hnormal with ⟨hmem, hnone⟩
        rcases Settings.keys_of_merge (by decide) hmerge hmem with ⟨_, hold⟩ | ⟨_, hnamed, _⟩
        · exact ⟨hold, hnone⟩
        · rw [hsilent] at hnamed
          cases hnamed
    | policy =>
        have hnormal := Command.decideImport_invalidHostname hdecide
        have hkey := Settings.key_of_normalized_error hnormal
        exact hkey
  · exact absurd rfl (hbackend.sparesHosts text)

/-! ## Histories -/

section Histories

variable {store : Store} {events : List Event}

theorem overrides_named (hprimary : store.primaryDocument? = none)
    (hfallback : store.fallbackDocument? = none) (hown : ∀ event ∈ events, event.IsOwn)
    (interstitial : Url) (graceSeconds : Nat) :
    ∀ k ∈ ((start store interstitial graceSeconds).afterAll events).settings.overrides.keys,
      ∃ text, hostname? text = some k := by
  apply Store.HostsIn.load
  apply hostsIn_afterAll
  · exact fun host k _ hhost => ⟨host, hhost⟩
  · exact Store.hostsIn_of_empty hprimary hfallback
  · exact hown
  · exact fun _ _ text k _ hhost => ⟨text, hhost⟩

theorem overrides_plain (hprimary : store.primaryDocument? = none)
    (hfallback : store.fallbackDocument? = none) (hown : ∀ event ∈ events, event.IsOwn)
    (hordinary : ∀ event ∈ events, ∀ text, event.NamesHost text → Ordinary text)
    (interstitial : Url) (graceSeconds : Nat) :
    ∀ k ∈ ((start store interstitial graceSeconds).afterAll events).settings.overrides.keys,
      Plain k := by
  have hhosts : ((start store interstitial graceSeconds).afterAll events).store.HostsIn
      fun k => hostname? k = some k ∧ Plain k := by
    apply hostsIn_afterAll
    · rintro host k ⟨hself, hplain⟩ hhost
      rw [hself] at hhost
      cases hhost
      exact ⟨hself, hplain⟩
    · exact Store.hostsIn_of_empty hprimary hfallback
    · exact hown
    · intro event hevent text k htext hhost
      have hplain := (hordinary event hevent text htext).plain hhost
      exact ⟨(hostname?_hostname?_iff hhost).mpr hplain, hplain⟩
  exact fun k hk => (hhosts.load k hk).2

/--
Overrides are in normal form but for keys that are not plain: these alone are
moved when the settings are brought to normal form again, or have the command
refused that does so.  Texts as they are usually written name plain hosts.
-/
theorem overrides_normal (hprimary : store.primaryDocument? = none)
    (hfallback : store.fallbackDocument? = none) (hown : ∀ event ∈ events, event.IsOwn)
    (interstitial : Url) (graceSeconds : Nat) (e : Engine)
    (he : e = (start store interstitial graceSeconds).afterAll events) :
    (∀ k ∈ e.settings.overrides.keys, k ≠ "" ∧ hostname? k = some k ↔ Plain k) ∧
      ((∀ k ∈ e.settings.overrides.keys, Plain k) → e.settings.normalized = .ok e.settings) ∧
      (∀ (o : Occasion) (c : Command) (text : String), c.Renormalizes →
        (e.run o c).result = .error (.invalidHostname text) →
        text ∈ e.settings.overrides.keys ∧ ¬Plain text) ∧
      ((∀ event ∈ events, ∀ text, event.NamesHost text → Ordinary text) →
        ∀ k ∈ e.settings.overrides.keys, Plain k) := by
  subst he
  have hself : ∀ k ∈
      ((start store interstitial graceSeconds).afterAll events).settings.overrides.keys,
      hostname? k = some k ↔ Plain k := by
    intro k hk
    rcases overrides_named hprimary hfallback hown interstitial graceSeconds k hk with ⟨t, ht⟩
    exact hostname?_hostname?_iff ht
  refine ⟨?_, ?_, ?_, ?_⟩
  · intro k hk
    rw [hself k hk, and_iff_right_iff_imp]
    rintro hplain rfl
    exact hplain.nonempty rfl
  · intro hplain
    exact Settings.normalized_self fun k hk => (hself k hk).mpr (hplain k hk)
  · intro o c text hc hrefused
    rcases key_of_run_invalidHostname hc hrefused with ⟨hmem, hnone⟩
    refine ⟨hmem, fun hplain => ?_⟩
    rw [(hself text hmem).mpr hplain] at hnone
    cases hnone
  · intro hordinary
    exact overrides_plain hprimary hfallback hown hordinary interstitial graceSeconds

/-! ## Samples -/

theorem run_grantOverride {o : Occasion} {hostname host : String} {minutes : Int64}
    {url : Option String} {till : Calendar.Instant}
    (hminutes : 1 ≤ minutes.toInt ∧ minutes.toInt ≤ Command.maxOverrideMinutes)
    (hhost : hostname? hostname = some host)
    (htill : o.now.instant.after? (minutes.toInt.toNat * Calendar.Instant.minuteNanos) =
      some till) :
    ∃ reply, e.run o (.grantOverride hostname minutes url) = e.apply o.now
      ⟨some { e.settings with overrides := e.settings.overrides.extend host till }, e.suspended,
        some "override", reply⟩ := by
  have hdecide : ∃ reply, Command.decideOverride o e hostname minutes url =
      .ok (Command.commit
        { e.settings with overrides := e.settings.overrides.extend host till } e.suspended
        "override" reply) := by
    have hrange : ¬(minutes.toInt < 1 ∨ Command.maxOverrideMinutes < minutes.toInt) := by
      omega
    unfold Command.decideOverride
    simp only [hhost, htill, hrange, if_false]
    exact ⟨_, rfl⟩
  rcases hdecide with ⟨reply, hdecide⟩
  have hgranted : Command.decide o e (.grantOverride hostname minutes url) = _ := hdecide
  exact ⟨reply, run_of_decided hgranted⟩

def fresh : Engine :=
  start Store.inMemory (finding Settings.default).interstitial 60

def askedFor (hostname : String) : Engine :=
  fresh.afterAll [.command ⟨dawn, "", []⟩ (.grantOverride hostname 5 none)]

theorem askedFor_eq (hostname : String) :
    askedFor hostname = (fresh.run ⟨dawn, "", []⟩ (.grantOverride hostname 5 none)).engine :=
  rfl

theorem hostname?_loopback : hostname? "127.0.0.1" = some "127.0.0.1" := by
  have htext : String.ofList (Ipv4.text ⟨2130706433⟩) = "127.0.0.1" := by
    rfl
  have hhost := hostname?_ipv4 ⟨2130706433⟩
  rw [htext] at hhost
  exact hhost

set_option maxRecDepth 10000 in
theorem keys_askedFor_loopback :
    (askedFor "127.0.0.1").settings.overrides.keys = ["127.0.0.1"] := by
  have htill : dawn.instant.after? ((5 : Int64).toInt.toNat * Calendar.Instant.minuteNanos) =
      some ⟨300, 0, by decide⟩ := by
    decide +kernel
  rcases @run_grantOverride fresh ⟨dawn, "", []⟩ _ _ 5 none _ (by decide) hostname?_loopback
    htill with ⟨reply, hrun⟩
  rw [askedFor_eq, hrun]
  rfl

theorem loopback_stays_normal :
    (askedFor "127.0.0.1").settings.overrides.keys = ["127.0.0.1"] ∧
      (askedFor "127.0.0.1").settings.normalized = .ok (askedFor "127.0.0.1").settings ∧
      ∀ (o : Occasion) (c : Command) (text : String), c.Renormalizes →
        ((askedFor "127.0.0.1").run o c).result ≠ .error (.invalidHostname text) := by
  have hown : ∀ event ∈ [Event.command ⟨dawn, "", []⟩ (.grantOverride "127.0.0.1" 5 none)],
      event.IsOwn := by
    intro event hevent
    obtain rfl := List.mem_singleton.mp hevent
    exact .command
  rcases overrides_normal rfl rfl hown _ _ (askedFor "127.0.0.1") rfl with
    ⟨hself, hnormal, hrefused, hplain⟩
  have hordinary : ∀ k ∈ (askedFor "127.0.0.1").settings.overrides.keys, Plain k := by
    apply hplain
    intro event hevent text htext
    obtain rfl := List.mem_singleton.mp hevent
    obtain ⟨⟨⟩⟩ := htext
    exact .pattern rfl (by decide)
  refine ⟨keys_askedFor_loopback, hnormal hordinary, ?_⟩
  intro o c text hc hresult
  rcases hrefused o c text hc hresult with ⟨hmem, hnot⟩
  exact hnot (hordinary text hmem)

set_option maxRecDepth 10000 in
/-- The brackets of an IPv6 address are kept with the host, and are not read again. -/
theorem bracketed_override_refused :
    (askedFor "http://[::1]/").settings.overrides.keys = ["[::1]"] ∧
      hostname? "[::1]" = none ∧
      (askedFor "http://[::1]/").settings.requirePinForChanges = false ∧
      ((askedFor "http://[::1]/").run ⟨dawn, "", []⟩ (.patchSettings (.object []) none)).result =
        .error (.invalidHostname "[::1]") := by
  exact ⟨rfl, rfl, rfl, rfl⟩

end Histories

end Engine
end SiteGuard

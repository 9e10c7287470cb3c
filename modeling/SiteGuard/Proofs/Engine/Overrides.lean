import SiteGuard.Proofs.Engine.Saving
import SiteGuard.Proofs.HostPattern.NormalForm
import SiteGuard.Proofs.Merge

/-!
# Hosts of stored overrides

Whatever a store holds, in either of its places, has only overrides of hosts
that were named by some text.  So the question under which key an override is
found again is that which of the named hosts name themselves.
-/

namespace SiteGuard

open Calendar

/-! ## Hosts in a store -/

/-- Every document is one of settings that were saved, with overrides of such hosts alone. -/
structure Store.HostsIn (Q : String → Prop) (s : Store) : Prop where
  primary : ∀ d, s.primaryDocument? = some d →
    ∃ settings, d = .saved settings ∧ ∀ k ∈ settings.overrides.keys, Q k
  fallback : ∀ d, s.fallbackDocument? = some d →
    ∃ settings, d = .saved settings ∧ ∀ k ∈ settings.overrides.keys, Q k

namespace Store

variable {Q : String → Prop} {s s' : Store}

theorem hostsIn_of_empty (hprimary : s.primaryDocument? = none)
    (hfallback : s.fallbackDocument? = none) : s.HostsIn Q := by
  constructor
  · intro d hd
    rw [hprimary] at hd
    cases hd
  · intro d hd
    rw [hfallback] at hd
    cases hd

theorem HostsIn.load (h : s.HostsIn Q) : ∀ k ∈ s.load.overrides.keys, Q k := by
  intro k hk
  unfold Store.load at hk
  cases hprimary : s.primaryDocument? with
  | some d =>
      rcases h.primary d hprimary with ⟨settings, rfl, hkeys⟩
      rw [hprimary] at hk
      exact hkeys k hk
  | none =>
      rw [hprimary] at hk
      cases hfallback : s.fallbackDocument? with
      | some d =>
          rcases h.fallback d hfallback with ⟨settings, rfl, hkeys⟩
          rw [hfallback] at hk
          exact hkeys k hk
      | none =>
          rw [hfallback] at hk
          cases hk

theorem HostsIn.reopen (h : s.HostsIn Q) (quota : Nat) :
    { s.reopen with quota }.HostsIn Q := by
  constructor
  · intro d hd
    apply h.primary d
    cases hprimary : s.primary <;> simp_all [Store.reopen, primaryDocument?]
  · exact h.fallback

theorem HostsIn.saveToFallback {settings : Settings}
    (hkeys : ∀ k ∈ settings.overrides.keys, Q k) (hsave : s.saveToFallback settings = .ok s') :
    s'.HostsIn Q := by
  unfold Store.saveToFallback at hsave
  split at hsave
  · cases hsave
  · cases hsave
  · cases hsave
    constructor
    · intro d hd
      rw [primaryDocument?_of_cleared rfl] at hd
      cases hd
    · intro d hd
      cases hd
      exact ⟨settings, rfl, hkeys⟩

theorem HostsIn.save (h : s.HostsIn Q) {settings : Settings}
    (hkeys : ∀ k ∈ settings.overrides.keys, Q k) (hsave : s.save settings = .ok s') :
    s'.HostsIn Q := by
  unfold Store.save at hsave
  split at hsave
  · exact HostsIn.saveToFallback hkeys hsave
  · split at hsave
    · exact HostsIn.saveToFallback hkeys hsave
    · cases hsave
      constructor
      · intro d hd
        cases hd
        exact ⟨settings, rfl, hkeys⟩
      · exact h.fallback

end Store

/-! ## Passes -/

namespace Engine

variable {Q : String → Prop} {e e' : Engine}

theorem hostsIn_saved (h : e.store.HostsIn Q) {s : Settings}
    (hkeys : ∀ k ∈ s.overrides.keys, Q k) (hsaved : e.saved s = .ok e') :
    e'.store.HostsIn Q := by
  unfold saved at hsaved
  split at hsaved
  · cases hsaved
  · rcases map_eq_ok hsaved with ⟨store, hstore, rfl⟩
    exact h.save hkeys hstore

theorem hostsIn_purged (h : e.store.HostsIn Q) (now : Instant) :
    (e.purged now).store.HostsIn Q := by
  unfold purged
  split
  · exact h
  · split
    · rename_i hsaved
      refine hostsIn_saved h ?_ hsaved
      intro k hk
      exact h.load k (SortedMap.keys_filter_subset _ _ hk)
    · exact h

theorem hostsIn_pass (h : e.store.HostsIn Q) (now : Moment) (reason : String) :
    (e.pass now reason).2.store.HostsIn Q := by
  rw [pass_store]
  exact hostsIn_purged h now.instant

end Engine

/-! ## Hosts that are named -/

/-- The texts for whose hosts a command asks for overrides. -/
inductive Command.NamesHost : Command → String → Prop where
  | granted {hostname : String} {minutes : Int64} {url : Option String} :
      Command.NamesHost (.grantOverride hostname minutes url) hostname
  | patched {patch : Json} {pin : Option String} {entries : List (String × Json)} {text : String}
      (hentries : patch.get? "overrides" = some (.object entries))
      (htext : text ∈ entries.map (·.1)) : Command.NamesHost (.patchSettings patch pin) text

/-! ## Edits -/

theorem Settings.keys_of_normalized {s normal : Settings} (h : s.normalized = .ok normal) :
    ∀ k ∈ normal.overrides.keys,
      ∃ text ∈ s.overrides.keys, HostPattern.hostname? text = some k := by
  intro k hk
  unfold Settings.normalized at h
  split at h
  · rename_i o hnormal
    cases h
    exact Overrides.mem_keys_of_normalize hnormal hk
  · cases h

namespace Engine

section Closed

variable {Q : String → Prop}
variable (hclosed : ∀ host k, Q host → HostPattern.hostname? host = some k → Q k)
variable {e : Engine}

include hclosed

theorem keys_of_patch (h : e.store.HostsIn Q) {patch : Json} {pin : Option String}
    (hnamed : ∀ text k, (Command.patchSettings patch pin).NamesHost text →
      HostPattern.hostname? text = some k → Q k) {merged normal : Settings}
    (hmerge : Json.merge e.settings patch ["pin"] = .ok merged)
    (hnormal : merged.normalized = .ok normal) : ∀ k ∈ normal.overrides.keys, Q k := by
  intro k hk
  rcases Settings.keys_of_normalized hnormal k hk with ⟨text, htext, hhost⟩
  rcases Settings.keys_of_merge (by decide) hmerge htext with ⟨_, hold⟩ | ⟨entries, hpatch, hmem⟩
  · exact hclosed text k (h.load text hold) hhost
  · exact hnamed text k (.patched hpatch hmem) hhost

/-- What is saved has the overrides that were there, of such hosts, or ones of hosts just named. -/
theorem keys_of_saves (h : e.store.HostsIn Q) {o : Occasion} {c : Command}
    (hnamed : ∀ text k, c.NamesHost text → HostPattern.hostname? text = some k → Q k)
    {s : Settings} {reply : Reply} (hsaves : c.Saves o e s reply) :
    ∀ k ∈ s.overrides.keys, Q k := by
  cases hsaves with
  | patched _ hmerge hnormal _ =>
      exact keys_of_patch hclosed h hnamed hmerge hnormal
  | granted _ _ hhost _ =>
      intro k hk
      rcases Overrides.of_mem_keys_extend hk with rfl | hold
      · exact hnamed _ k .granted hhost
      · exact h.load k hold
  | imported _ hnormal _ =>
      intro k hk
      rcases Settings.keys_of_normalized hnormal k hk with ⟨text, htext, hhost⟩
      exact hclosed text k (h.load text htext) hhost
  | switched =>
      exact h.load
  | added =>
      exact h.load
  | removed =>
      exact h.load
  | edited =>
      exact h.load
  | blocked =>
      exact h.load
  | pinned =>
      exact h.load

/-! ## Histories -/

theorem hostsIn_run (h : e.store.HostsIn Q) {c : Command}
    (hnamed : ∀ text k, c.NamesHost text → HostPattern.hostname? text = some k → Q k)
    (o : Occasion) : (e.run o c).engine.store.HostsIn Q := by
  apply run_keeps (I := fun e => e.store.HostsIn Q) h
  · intro held suspended hheld
    exact hheld
  · intro held reason hheld
    exact hostsIn_pass hheld o.now reason
  · intro edit s held e' hdecide hedit hheld hsave
    have hsaves := Command.saves_of_decide hdecide hedit
    exact hostsIn_saved hheld (keys_of_saves hclosed h hnamed hsaves) hsave

/-- An event that is not a change of the files from outside. -/
inductive Event.IsOwn : Event → Prop where
  | command {o : Occasion} {c : Command} : Event.IsOwn (.command o c)
  | restart : Event.IsOwn .restart
  | outage {o : Outage} : Event.IsOwn (.outage o)

inductive Event.NamesHost : Event → String → Prop where
  | command {o : Occasion} {c : Command} {text : String} (htext : c.NamesHost text) :
      Event.NamesHost (.command o c) text

theorem hostsIn_after (h : e.store.HostsIn Q) {event : Event} (hown : event.IsOwn)
    (hnamed : ∀ text k, event.NamesHost text → HostPattern.hostname? text = some k → Q k) :
    (e.after event).store.HostsIn Q := by
  cases hown with
  | command =>
      exact hostsIn_run hclosed h (fun text k htext => hnamed text k (.command htext)) _
  | restart =>
      exact h.reopen e.store.quota
  | outage =>
      exact h

theorem hostsIn_afterAll {events : List Event} (h : e.store.HostsIn Q)
    (hown : ∀ event ∈ events, event.IsOwn)
    (hnamed : ∀ event ∈ events, ∀ text k, event.NamesHost text →
      HostPattern.hostname? text = some k → Q k) : (e.afterAll events).store.HostsIn Q := by
  induction events generalizing e with
  | nil =>
      exact h
  | cons event rest ih =>
      apply ih
      · exact hostsIn_after hclosed h (hown event List.mem_cons_self)
          (hnamed event List.mem_cons_self)
      · exact fun later hmem => hown later (List.mem_cons_of_mem _ hmem)
      · exact fun later hmem => hnamed later (List.mem_cons_of_mem _ hmem)

end Closed

end Engine
end SiteGuard

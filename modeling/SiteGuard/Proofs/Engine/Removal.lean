import SiteGuard.Proofs.Engine.Validity
import SiteGuard.Proofs.Json.Size
import SiteGuard.Proofs.Store.Medium

/-!
# Removing rules

Settings with fewer rules take no more bytes, and a pass over a table that refuses
nothing succeeds.  So where the backends are in order any rule can be taken away,
and no other rule goes with it.
-/

namespace SiteGuard

open Calendar

/-! ## Fewer rules -/

namespace Settings

variable {s : Settings}

theorem toJson_withRules (s : Settings) (rules : List Rule) : Json.toJson { s with rules } =
    .object (s.members.take 5 ++ ("rules", .list (rules.map Json.toJson)) ::
      s.members.drop 6) := by
  have hrules : (Json.Shape.list (Json.Wire.shape Rule)).toJson (rules.map Json.Wire.pack) =
      .list (rules.map Json.toJson) := by
    show Json.list ((rules.map Json.Wire.pack).map _) = _
    rw [List.map_map]
    rfl
  rw [← hrules]
  rfl

theorem size_of_sublist {rules : List Rule} (h : rules.Sublist s.rules) :
    (Document.saved { s with rules }).size ≤ (Document.saved s).size := by
  have hlist : (Json.list (rules.map Json.toJson)).size ≤
      (Json.list (s.rules.map Json.toJson)).size :=
    Json.size_list_of_sublist (h.map Json.toJson)
  have hparts : (Document.saved { s with rules }).size +
        (Json.list (s.rules.map Json.toJson)).size =
      (Document.saved s).size + (Json.list (rules.map Json.toJson)).size := by
    have hexchange := Json.size_exchange (s.members.take 5) (s.members.drop 6) "rules"
      (.list (rules.map Json.toJson)) (.list (s.rules.map Json.toJson))
    rw [← toJson_withRules, ← toJson_withRules] at hexchange
    exact hexchange
  omega

theorem Valid.eraseP_rules (h : s.Valid) {front back : List Rule} {r : Rule}
    (hrules : s.rules = front ++ r :: back) :
    s.rules.eraseP (fun other => other.id == r.id) = front ++ back := by
  have hdistinct := h.distinct
  rw [hrules, List.map_append, List.map_cons, List.nodup_append'] at hdistinct
  have hfront : ∀ other ∈ front, ¬(other.id == r.id) = true := by
    intro other hother hsame
    rw [beq_iff_eq] at hsame
    exact hdistinct.2.2 (List.mem_map_of_mem hother) (hsame ▸ List.mem_cons_self)
  have hself : (r.id == r.id) = true :=
    beq_self_eq_true _
  rw [hrules, List.eraseP_append_right _ hfront, List.eraseP_cons, hself]
  rfl

end Settings

theorem Store.save_of_size_le {st : Store} {s s' : Settings} (h : ∃ st', st.save s = .ok st')
    (hsize : (Document.saved s').size ≤ (Document.saved s).size) :
    ∃ st', st.save s' = .ok st' := by
  cases hsave : st.save s' with
  | ok st' =>
      exact ⟨st', rfl⟩
  | error f =>
      rcases (save_fails_iff st s').mp ⟨f, hsave⟩ with ⟨hprimary, hfallback⟩
      have hfails : ∃ f, st.save s = .error f := by
        refine (save_fails_iff st s).mpr ⟨hprimary.imp_left fun hquota => ?_, hfallback⟩
        exact Nat.lt_of_lt_of_le hquota hsize
      rcases h with ⟨st', hok⟩
      rcases hfails with ⟨f', herror⟩
      rw [hok] at herror
      cases herror

/-! ## Tables in order -/

/-- A table that can be read, and that refuses no change of its rows. -/
structure DirectiveTable.InOrder (t : DirectiveTable) : Prop where
  lists : ∃ ds, t.installed = .ok ds
  inserts : t.refusesInsert = false
  deletes : t.refusesDelete = false

theorem DirectiveTable.InOrder.replaces {t : DirectiveTable} (h : t.InOrder)
    {add : List Directive} (hnodup : (add.map (·.id)).Nodup) (remove : List UInt32) :
    ∃ t', t.replace remove add = .ok t' := by
  have hnone : repeated? [] (add.map (·.id)) = none :=
    repeated?_eq_none_iff.mpr ⟨hnodup, fun _ _ => List.not_mem_nil⟩
  have hpresent : t.present = true := by
    rcases h.lists with ⟨ds, hds⟩
    exact (installed_eq_ok_iff.mp hds).1
  refine ⟨(t.erase remove).filled add, ?_⟩
  have hallowed : t.refusal? remove add = none := by
    unfold refusal?
    rw [hpresent, h.inserts, h.deletes]
    rfl
  unfold replace
  rw [hnone, hallowed]
  rfl

namespace Engine

variable {e : Engine}

theorem install_of_inOrder (houtage : e.outage = Outage.none) (htable : e.table.InOrder)
    {wanted : List Directive} (hnodup : (wanted.map (·.id)).Nodup) (reason : String) :
    ∃ report e', e.install wanted reason = .ok (report, e') := by
  rcases htable.lists with ⟨before, hbefore⟩
  have hinstalled : e.installed = .ok before := by
    unfold installed
    rw [houtage]
    exact hbefore
  have hadd : ((Delta.between before wanted).add.map (·.id)).Nodup :=
    hnodup.sublist (List.filter_sublist.map _)
  rcases htable.replaces hadd (Delta.between before wanted).remove with ⟨table, htable⟩
  have hreplaced : e.replaced (Delta.between before wanted) = .ok { e with table } := by
    unfold replaced
    rw [houtage, htable]
    rfl
  unfold install
  simp only [hinstalled, hreplaced, bind, Except.bind]
  split
  · exact ⟨_, _, rfl⟩
  · exact ⟨_, _, rfl⟩

theorem pass_of_inOrder (houtage : e.outage = Outage.none) (htable : e.table.InOrder)
    (hroom : e.settings.rules.length ≤ Directive.idCount) (now : Moment) (reason : String) :
    ∃ report, (e.pass now reason).1 = .ok report := by
  have hnodup : ((e.planned now).map (·.id)).Nodup :=
    Settings.plan_ids_nodup (Nat.le_trans Settings.length_rulesInForce_le hroom)
  have hpurged : (e.purged now.instant).outage = Outage.none := by
    rw [purged_eq_with_store]
    exact houtage
  have hsame : (e.purged now.instant).table.InOrder :=
    (e.purged_table now.instant).symm ▸ htable
  rcases install_of_inOrder hpurged hsame hnodup reason with ⟨report, e', hinstall⟩
  refine ⟨report, ?_⟩
  unfold pass
  rw [wanted_eq_planned]
  simp only [hinstall]

/-- Where its settings are taken and the table is in order, a command that saves succeeds. -/
theorem result_of_commit {o : Occasion} {c : Command} {s : Settings}
    {suspended : List Suspension} {reason : String} {reply : Reply}
    (houtage : e.outage = Outage.none) (htable : e.table.InOrder)
    (hroom : s.rules.length ≤ Directive.idCount) (hsaves : ∃ after, e.saved s = .ok after)
    (hdecide : c.decide o e = .ok (Command.commit s suspended reason reply)) :
    (e.run o c).result = .ok reply := by
  rcases hsaves with ⟨after, hsaved⟩
  rcases saved_eq_ok hsaved with ⟨hframe, hsettings⟩
  have hworks : (after.withSuspended suspended).outage = Outage.none := by
    rw [hframe]
    exact houtage
  have hsame : (after.withSuspended suspended).table.InOrder :=
    (saved_table hsaved).symm ▸ htable
  have hrules : (after.withSuspended suspended).settings.rules.length ≤ Directive.idCount := by
    show after.settings.rules.length ≤ _
    rw [hsettings]
    exact hroom
  rcases pass_of_inOrder hworks hsame hrules o.now reason with ⟨report, hpass⟩
  rw [run_of_commit hdecide hsaved]
  show Except.map _ ((after.withSuspended suspended).pass o.now reason).1 = _
  rw [hpass]
  rfl

/-! ## Removals -/

/-- The store would take once more what it holds, and the table is in order. -/
structure Working (e : Engine) : Prop where
  outage : e.outage = Outage.none
  stores : ∃ store, e.store.save e.settings = .ok store
  table : e.table.InOrder

theorem Working.saves (h : e.Working) {rules : List Rule}
    (hrules : rules.Sublist e.settings.rules) :
    ∃ e', e.saved { e.settings with rules } = .ok e' := by
  rcases Store.save_of_size_le h.stores (Settings.size_of_sublist hrules) with ⟨store, hsave⟩
  refine ⟨{ e with store }, ?_⟩
  unfold saved
  rw [h.outage, hsave]
  rfl

theorem decideRemove_of_mem {r : Rule} (hr : r ∈ e.settings.rules) :
    Command.decideRemove e r.id = .ok (Command.commit
      { e.settings with rules := e.settings.rules.eraseP fun other => other.id == r.id }
      (e.released r.id) "removeRule" .done) := by
  have hfound : (e.settings.rule? r.id).isNone = false := by
    cases hrule : e.settings.rule? r.id with
    | none =>
        exact absurd (beq_self_eq_true r.id) (List.find?_eq_none.mp hrule r hr)
    | some found =>
        rfl
  unfold Command.decideRemove
  simp only [hfound, Bool.false_eq_true, if_false]

theorem run_removeRule (hworking : e.Working) (hvalid : e.settings.Valid)
    (hroom : e.settings.rules.length ≤ Directive.idCount) {front back : List Rule} {r : Rule}
    (hrules : e.settings.rules = front ++ r :: back) (o : Occasion) :
    (e.run o (.removeRule r.id)).result = .ok .done ∧
      (e.run o (.removeRule r.id)).engine.settings.rules = front ++ back := by
  have hmem : r ∈ e.settings.rules := hrules ▸ List.mem_append_right _ List.mem_cons_self
  have hless : (e.settings.rules.eraseP fun other => other.id == r.id).Sublist
      e.settings.rules := List.eraseP_sublist
  have hdecide : Command.decide o e (.removeRule r.id) = .ok (Command.commit
      { e.settings with rules := e.settings.rules.eraseP fun other => other.id == r.id }
      (e.released r.id) "removeRule" .done) := decideRemove_of_mem hmem
  have hok := result_of_commit hworking.outage hworking.table
    (Nat.le_trans hless.length_le hroom) (hworking.saves hless) hdecide
  refine ⟨hok, ?_⟩
  rcases run_commit hdecide hok with ⟨before, report, hsettings, _, _, _, hpass⟩
  rw [(kept_of_pass hpass).1, hsettings]
  exact hvalid.eraseP_rules hrules

end Engine
end SiteGuard

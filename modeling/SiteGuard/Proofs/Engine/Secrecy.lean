import Mathlib.Data.Option.Basic
import SiteGuard.Proofs.Engine.Gate
import SiteGuard.Proofs.Settings.Twin

/-!
# What engines tell of a PIN

Engines are twins if nothing but the contents of a PIN record tells them apart.  To
those who offer no PIN they give the same replies and fail in the same words, and twins
they stay.
-/

namespace SiteGuard

open Calendar

/-! ## Documents -/

inductive Document.Twin : Document → Document → Prop where
  | same (d : Document) : Document.Twin d d
  | saved {s s' : Settings} (h : s.Twin s') : Document.Twin (.saved s) (.saved s')
  | text {t t' : String} {s s' : Settings} (hread : Json.decode Settings t = .ok s)
      (hread' : Json.decode Settings t' = .ok s') (h : s.Twin s') :
      Document.Twin (.text t) (.text t')

theorem Document.Twin.settings? {d d' : Document} (h : d.Twin d') :
    Option.Rel Settings.Twin d.settings? d'.settings? := by
  cases h with
  | same =>
      cases d.settings? with
      | none =>
          exact .none
      | some s =>
          exact .some (.refl s)
  | saved h =>
      exact .some h
  | text hread hread' h =>
      show Option.Rel Settings.Twin (Json.decode Settings _).toOption
        (Json.decode Settings _).toOption
      rw [hread, hread']
      exact .some h

/-! ## Stores -/

theorem rel_getD_or {α β : Type} {R : α → β → Prop} {x y : Option α} {x' y' : Option β} {a : α}
    {b : β} (hx : Option.Rel R x x') (hy : Option.Rel R y y') (h : R a b) :
    R ((x.or y).getD a) ((x'.or y').getD b) := by
  cases hx with
  | some h =>
      exact h
  | none =>
      cases hy with
      | some h =>
          exact h
      | none =>
          exact h

inductive Primary.Twin : Primary → Primary → Prop where
  | absent : Primary.Twin .absent .absent
  | row {d d' : Document} (h : d.Twin d') : Primary.Twin (.row d) (.row d')
  | dropped : Primary.Twin .dropped .dropped

inductive Fallback.Twin : Fallback → Fallback → Prop where
  | unconfigured : Fallback.Twin .unconfigured .unconfigured
  | absent : Fallback.Twin .absent .absent
  | file {d d' : Document} (h : d.Twin d') : Fallback.Twin (.file d) (.file d')
  | directory : Fallback.Twin .directory .directory

inductive Store.Twin : Store → Store → Prop where
  | mk {primary primary' : Primary} {fallback fallback' : Fallback} {quota : Nat}
      (hprimary : primary.Twin primary') (hfallback : fallback.Twin fallback') :
      Store.Twin ⟨primary, fallback, quota⟩ ⟨primary', fallback', quota⟩

namespace Store

variable {st st' : Store} {s s' : Settings}

theorem Twin.load (h : st.Twin st') : st.load.Twin st'.load := by
  have hread : Option.Rel Settings.Twin (st.primaryDocument?.bind Document.settings?)
      (st'.primaryDocument?.bind Document.settings?) ∧
      Option.Rel Settings.Twin (st.fallbackDocument?.bind Document.settings?)
        (st'.fallbackDocument?.bind Document.settings?) := by
    cases h with
    | mk hprimary hfallback =>
        constructor
        · cases hprimary with
          | absent =>
              exact .none
          | row h =>
              exact h.settings?
          | dropped =>
              exact .none
        · cases hfallback with
          | unconfigured =>
              exact .none
          | absent =>
              exact .none
          | file h =>
              exact h.settings?
          | directory =>
              exact .none
  exact rel_getD_or hread.1 hread.2 (.refl Settings.default)

theorem Twin.saveToFallback (h : st.Twin st') (hs : s.Twin s') :
    Matched Twin (st.saveToFallback s) (st'.saveToFallback s') := by
  cases h with
  | @mk primary primary' _ _ quota hprimary hfallback =>
      have hcleared : (cleared primary).Twin (cleared primary') := by
        cases hprimary with
        | absent =>
            exact .absent
        | row _ =>
            exact .absent
        | dropped =>
            exact .dropped
      cases hfallback with
      | unconfigured =>
          exact .error _
      | directory =>
          exact .error _
      | absent =>
          exact .ok (.mk hcleared (.file (.saved hs)))
      | file _ =>
          exact .ok (.mk hcleared (.file (.saved hs)))

theorem Twin.save (h : st.Twin st') (hs : s.Twin s') : Matched Twin (st.save s) (st'.save s') := by
  have hoverflow := h.saveToFallback hs
  unfold Store.save
  rw [hs.size]
  cases h with
  | @mk primary primary' _ _ quota hprimary hfallback =>
      show Matched Twin (if quota < _ then _ else _) (if quota < _ then _ else _)
      by_cases hquota : quota < (Document.saved s).size
      · rw [if_pos hquota, if_pos hquota]
        exact hoverflow
      · rw [if_neg hquota, if_neg hquota]
        cases hprimary with
        | absent =>
            exact .ok (.mk (.row (.saved hs)) hfallback)
        | row _ =>
            exact .ok (.mk (.row (.saved hs)) hfallback)
        | dropped =>
            exact hoverflow

theorem Twin.reopen (h : st.Twin st') :
    Twin { st.reopen with quota := st.quota } { st'.reopen with quota := st'.quota } := by
  cases h with
  | mk hprimary hfallback =>
      refine .mk ?_ hfallback
      cases hprimary with
      | absent =>
          exact .absent
      | row h =>
          exact .row h
      | dropped =>
          exact .absent

end Store

/-! ## Engines -/

namespace Engine

/-- The same engine on a store that is a twin. -/
inductive Twin (e : Engine) : Engine → Prop where
  | mk {store : Store} (h : e.store.Twin store) : Twin e { e with store }

variable {e e' : Engine} {s s' : Settings}

theorem Twin.settings (h : e.Twin e') : e.settings.Twin e'.settings := by
  cases h with
  | mk h =>
      exact h.load

theorem Twin.withSuspended (h : e.Twin e') (suspended : List Suspension) :
    (e.withSuspended suspended).Twin (e'.withSuspended suspended) := by
  cases h with
  | mk h =>
      exact .mk h

theorem Twin.restarted (h : e.Twin e') : e.restarted.Twin e'.restarted := by
  cases h with
  | mk h =>
      exact .mk h.reopen

theorem Twin.saved (h : e.Twin e') (hs : s.Twin s') :
    Matched Twin (e.saved s) (e'.saved s') := by
  cases h with
  | @mk store h =>
      show Matched Twin (if e.outage.save then _ else _) (if e.outage.save then _ else _)
      cases e.outage.save with
      | true =>
          exact .error _
      | false =>
          exact (h.save hs).map fun _ _ hstores => .mk hstores

/-! ## Passes -/

theorem Twin.purged (h : e.Twin e') (now : Instant) : (e.purged now).Twin (e'.purged now) := by
  have hcount : e'.settings.expiredCount now = e.settings.expiredCount now :=
    h.settings.view (f := fun s => s.expiredCount now) fun _ _ => rfl
  have hpurged : (e.settings.purged now).Twin (e'.settings.purged now) :=
    h.settings.update (f := fun s => s.purged now) fun _ _ => rfl
  unfold Engine.purged
  rw [hcount]
  by_cases hnone : e.settings.expiredCount now = 0
  · rw [if_pos hnone, if_pos hnone]
    exact h
  · rw [if_neg hnone, if_neg hnone]
    rcases (h.saved hpurged).inv with ⟨f, hsaved, hsaved'⟩ | ⟨next, next', hsaved, hsaved', hnext⟩
    · rw [hsaved, hsaved']
      exact h
    · rw [hsaved, hsaved']
      exact hnext

theorem Twin.wanted (h : e.Twin e') (now : Moment) : e'.wanted now = e.wanted now := by
  have hplan : ∀ suspended interstitial,
      (e'.settings.purged now.instant).plan now suspended interstitial =
        (e.settings.purged now.instant).plan now suspended interstitial := by
    intro suspended interstitial
    exact h.settings.view (f := fun s => (s.purged now.instant).plan now suspended interstitial)
      fun _ _ => rfl
  cases h with
  | mk _ =>
      exact hplan _ _

theorem Twin.replaced (h : e.Twin e') (d : Delta) :
    Matched Twin (e.replaced d) (e'.replaced d) := by
  cases h with
  | @mk store h =>
      show Matched Twin (if e.outage.replace then _ else _) (if e.outage.replace then _ else _)
      cases e.outage.replace with
      | true =>
          exact .error _
      | false =>
          exact (Matched.refl (e.table.replace d.remove d.add)).map fun _ _ htable =>
            htable ▸ .mk h

theorem Twin.installed (h : e.Twin e') : e'.installed = e.installed := by
  cases h with
  | mk _ =>
      rfl

theorem Twin.install (h : e.Twin e') (wanted : List Directive) (reason : String) :
    Matched (fun a b => b.1 = a.1 ∧ a.2.Twin b.2) (e.install wanted reason)
      (e'.install wanted reason) := by
  unfold Engine.install
  rw [h.installed]
  refine (Matched.refl e.installed).bind ?_
  rintro listed _ rfl
  dsimp only
  split
  · exact .ok ⟨rfl, h⟩
  · exact (h.replaced _).bind fun _ _ hreplaced => .ok ⟨rfl, hreplaced⟩

theorem Twin.pass (h : e.Twin e') (now : Moment) (reason : String) :
    (e'.pass now reason).1 = (e.pass now reason).1 ∧
      (e.pass now reason).2.Twin (e'.pass now reason).2 := by
  have hpurged := h.purged now.instant
  unfold Engine.pass
  rw [h.wanted now]
  dsimp only
  rcases (hpurged.install (e.wanted now) reason).inv with
    ⟨f, hinstall, hinstall'⟩ | ⟨⟨report, next⟩, ⟨report', next'⟩, hinstall, hinstall', hsame, hnext⟩
  · rw [hinstall, hinstall']
    exact ⟨rfl, hpurged⟩
  · rw [hinstall, hinstall']
    exact ⟨congrArg Except.ok hsame, hnext⟩

end Engine

/-! ## Outcomes -/

/-- The same outcome, which leaves an engine that is a twin. -/
structure Outcome.Twin (out out' : Outcome) : Prop where
  result : out'.result = out.result
  passed : out'.passed = out.passed
  engine : out.engine.Twin out'.engine

inductive Edit.Twin (edit : Edit) : Edit → Prop where
  | mk {saved : Option Settings} (h : Option.Rel Settings.Twin edit.saved saved) :
      Edit.Twin edit { edit with saved }

inductive Decision.Twin : Decision → Decision → Prop where
  | answer (r : Reply) : Decision.Twin (.answer r) (.answer r)
  | pass (reason : String) : Decision.Twin (.pass reason) (.pass reason)
  | edit {edit edit' : Edit} (h : edit.Twin edit') : Decision.Twin (.edit edit) (.edit edit')

theorem Decision.Twin.commit {s s' : Settings} (h : s.Twin s') (suspended : List Suspension)
    (reason : String) (reply : Reply) :
    Decision.Twin (Command.commit s suspended reason reply)
      (Command.commit s' suspended reason reply) :=
  .edit (.mk (.some h))

theorem Decision.Twin.refl (d : Decision) : d.Twin d := by
  cases d with
  | answer r =>
      exact .answer r
  | pass reason =>
      exact .pass reason
  | edit edit =>
      rcases edit with ⟨_ | s, suspended, reason, reply⟩
      · exact .edit (.mk .none)
      · exact .edit (.mk (.some (.refl s)))

namespace Engine

variable {e e' : Engine}

theorem Twin.passThen (h : e.Twin e') (now : Moment) (reason : String) (reply : Report → Reply) :
    (e.passThen now reason reply).Twin (e'.passThen now reason reply) := by
  rcases h.pass now reason with ⟨hresult, hengine⟩
  exact ⟨congrArg (Except.map reply) hresult, rfl, hengine⟩

theorem Twin.passFor (h : e.Twin e') (now : Moment) (reason : Option String) (reply : Reply) :
    (e.passFor now reason reply).Twin (e'.passFor now reason reply) := by
  cases reason with
  | none =>
      exact ⟨rfl, rfl, h⟩
  | some reason =>
      exact h.passThen now reason _

theorem Twin.apply (h : e.Twin e') (now : Moment) {edit edit' : Edit} (hedit : edit.Twin edit') :
    (e.apply now edit).Twin (e'.apply now edit') := by
  have hheld := h.withSuspended edit.suspended
  cases hedit with
  | @mk saved hsaved =>
      rcases edit with ⟨old, suspended, reason, reply⟩
      cases hsaved with
      | none =>
          exact hheld.passFor now reason reply
      | @some s s' hs =>
          rcases (h.saved hs).inv with ⟨f, hsaved, hsaved'⟩ | ⟨new, new', hsaved, hsaved', hnew⟩
          · rw [apply_of_unsaved rfl hsaved, apply_of_unsaved rfl hsaved']
            exact ⟨rfl, rfl, hheld⟩
          · rw [apply_of_saved rfl hsaved, apply_of_saved rfl hsaved']
            exact (hnew.withSuspended suspended).passFor now reason reply

theorem Twin.carryOut (h : e.Twin e') (now : Moment) {d d' : Decision} (hd : d.Twin d') :
    (e.carryOut now d).Twin (e'.carryOut now d') := by
  cases hd with
  | answer r =>
      exact ⟨rfl, rfl, h⟩
  | pass reason =>
      exact h.passThen now reason .report
  | edit hedit =>
      exact h.apply now hedit

end Engine

/-! ## Decisions -/

/-- The same occasion, but for the bytes of the salt. -/
inductive Occasion.Twin (o : Occasion) : Occasion → Prop where
  | mk {freshSalt : List UInt8} (h : freshSalt.length = o.freshSalt.length) :
      Occasion.Twin o { o with freshSalt }

theorem Occasion.Twin.now {o o' : Occasion} (h : o.Twin o') : o'.now = o.now := by
  cases h with
  | mk _ =>
      rfl

namespace Command

variable {o o' : Occasion} {e e' : Engine}

theorem Twin.decidePatch (h : e.Twin e') (patch : Json) {pin : Option String}
    (hpin : Settings.given? pin = none) :
    Matched Decision.Twin (decidePatch e patch pin) (decidePatch e' patch pin) := by
  unfold Command.decidePatch
  rw [h.settings.authorize hpin]
  refine (Matched.refl _).bind ?_
  rintro _ _ rfl
  refine (h.settings.merge (by decide) patch).bind ?_
  intro merged merged' hmerged
  refine hmerged.normalized.bind ?_
  intro normal normal' hnormal
  have hfault : normal'.fault? = normal.fault? :=
    hnormal.view fun _ _ => rfl
  have hretained : ∀ id, isRetained normal' id = isRetained normal id :=
    fun id => hnormal.view (f := fun s => isRetained s id) fun _ _ => rfl
  rw [hfault]
  refine (Matched.refl _).bind ?_
  rintro _ _ rfl
  simp only [hretained]
  cases h with
  | mk _ =>
      exact .ok (.commit hnormal _ _ _)

theorem Twin.decideAdd (h : e.Twin e') (o : Occasion) (draft : RuleDraft) :
    Matched Decision.Twin (decideAdd o e draft) (decideAdd o e' draft) := by
  have hdraft : draft.toRule o.freshRuleId e'.settings.defaultBlockMode =
      draft.toRule o.freshRuleId e.settings.defaultBlockMode :=
    h.settings.view (f := fun s => draft.toRule o.freshRuleId s.defaultBlockMode) fun _ _ => rfl
  have hrule : ∀ id, e'.settings.rule? id = e.settings.rule? id :=
    fun id => h.settings.view (f := fun s => s.rule? id) fun _ _ => rfl
  have hadded : ∀ rule, Settings.Twin { e.settings with rules := e.settings.rules ++ [rule] }
      { e'.settings with rules := e'.settings.rules ++ [rule] } :=
    fun rule => h.settings.update (f := fun s => { s with rules := s.rules ++ [rule] })
      fun _ _ => rfl
  unfold Command.decideAdd
  simp only [hdraft, hrule]
  refine (Matched.refl _).bind ?_
  rintro _ _ rfl
  split
  · exact .error _
  · cases h with
    | mk _ =>
        exact .ok (.commit (hadded _) _ _ _)

theorem Twin.decideRemove (h : e.Twin e') (id : String) :
    Matched Decision.Twin (decideRemove e id) (decideRemove e' id) := by
  have hrule : e'.settings.rule? id = e.settings.rule? id :=
    h.settings.view (f := fun s => s.rule? id) fun _ _ => rfl
  have hremoved := h.settings.update
    (f := fun s => { s with rules := s.rules.eraseP fun r => r.id == id }) fun _ _ => rfl
  unfold Command.decideRemove
  simp only [hrule]
  split
  · exact .error _
  · cases h with
    | mk _ =>
        exact .ok (.commit hremoved _ _ _)

theorem Twin.decideRulePatch (h : e.Twin e') (patch : Json) :
    Matched Decision.Twin (decideRulePatch e patch) (decideRulePatch e' patch) := by
  have hrule : ∀ id, e'.settings.rule? id = e.settings.rule? id :=
    fun id => h.settings.view (f := fun s => s.rule? id) fun _ _ => rfl
  have hreplaced : ∀ id new, Settings.Twin
      { e.settings with rules := replaceRule id new e.settings.rules }
      { e'.settings with rules := replaceRule id new e'.settings.rules } :=
    fun id new => h.settings.update (f := fun s => { s with rules := replaceRule id new s.rules })
      fun _ _ => rfl
  unfold Command.decideRulePatch
  simp only [hrule]
  split
  · exact .error _
  · split
    · exact .error _
    · refine (Matched.refl _).bind ?_
      rintro updated _ rfl
      refine (Matched.refl _).bind ?_
      rintro _ _ rfl
      cases h with
      | mk _ =>
          exact .ok (.commit (hreplaced _ updated) _ _ _)

theorem Twin.decideSuspend (h : e.Twin e') (rule url : String) :
    Matched Decision.Twin (decideSuspend e rule url) (decideSuspend e' rule url) := by
  have hrule : e'.settings.rule? rule = e.settings.rule? rule :=
    h.settings.view (f := fun s => s.rule? rule) fun _ _ => rfl
  unfold Command.decideSuspend
  rw [hrule]
  refine (Matched.refl _).bind ?_
  rintro _ _ rfl
  split
  · exact .error _
  · cases h with
    | mk _ =>
        exact .ok (.refl _)

theorem Twin.decideResume (h : e.Twin e') (rule : String) :
    (Command.decideResume e rule).Twin (Command.decideResume e' rule) := by
  have hretained : isRetained e'.settings rule = isRetained e.settings rule :=
    h.settings.view (f := fun s => isRetained s rule) fun _ _ => rfl
  have hsame : Command.decideResume e' rule = Command.decideResume e rule := by
    unfold Command.decideResume
    rw [hretained]
    cases h with
    | mk _ =>
        rfl
  rw [hsame]
  exact .refl _

theorem Twin.decideOverride (h : e.Twin e') (ho : o.Twin o') (hostname : String)
    (minutes : Int64) (url : Option String) :
    Matched Decision.Twin (decideOverride o e hostname minutes url)
      (decideOverride o' e' hostname minutes url) := by
  have hoverrides : e'.settings.overrides = e.settings.overrides :=
    h.settings.view fun _ _ => rfl
  have hgranted : ∀ overrides, Settings.Twin { e.settings with overrides }
      { e'.settings with overrides } :=
    fun overrides => h.settings.update (f := fun s => { s with overrides }) fun _ _ => rfl
  unfold Command.decideOverride
  simp only [ho.now, hoverrides]
  split
  · exact .error _
  · split
    · exact .error _
    · split
      · exact .error _
      · cases h with
        | mk _ =>
            exact .ok (.commit (hgranted _) _ _ _)

theorem Twin.decideSite (h : e.Twin e') (o : Occasion) (url : String) :
    Matched Decision.Twin (decideSite o e url) (decideSite o e' url) := by
  have hblock : ∀ host, Rule.mk o.freshRuleId host .wildcard e'.settings.defaultBlockMode false
      none (some siteNote) = ⟨o.freshRuleId, host, .wildcard, e.settings.defaultBlockMode, false,
        none, some siteNote⟩ := by
    intro host
    rw [h.settings.view (f := Settings.defaultBlockMode) fun _ _ => rfl]
  have hrules : e'.settings.rules = e.settings.rules :=
    h.settings.view fun _ _ => rfl
  have hadded : ∀ rules, Settings.Twin { e.settings with rules } { e'.settings with rules } :=
    fun rules => h.settings.update (f := fun s => { s with rules }) fun _ _ => rfl
  unfold Command.decideSite
  simp only [hblock, hrules]
  refine (Matched.refl _).bind ?_
  rintro u _ rfl
  split
  · exact .error _
  · split
    · exact .ok (.answer _)
    · cases h with
      | mk _ =>
          exact .ok (.commit (hadded _) _ _ _)

/-- Where there is a PIN, none can be set; where there is none, there is nothing to tell. -/
theorem Twin.decidePin (h : e.Twin e') (ho : o.Twin o') (pin : String) {current : Option String}
    (hcurrent : Settings.given? current = none) :
    Matched Decision.Twin (decidePin o e pin current) (decidePin o' e' pin current) := by
  have hset : ∀ {salt salt' : List UInt8}, salt'.length = salt.length →
      Settings.Twin { e.settings with pin := PinRecord.ofPin pin salt }
        { e'.settings with pin := PinRecord.ofPin pin salt' } := by
    intro salt salt' hlength
    have hsame : ({ e'.settings with pin := PinRecord.ofPin pin salt' } : Settings) =
        { e.settings with pin := PinRecord.ofPin pin salt' } :=
      h.settings.view (f := fun s => { s with pin := PinRecord.ofPin pin salt' }) fun _ _ => rfl
    rw [hsame]
    exact .mk (s := { e.settings with pin := PinRecord.ofPin pin salt })
      (PinRecord.ofPin_alike pin pin hlength)
  unfold Command.decidePin
  simp only [h.settings.checkPin hcurrent]
  split
  · exact .error _
  · refine (Matched.refl _).bind ?_
    rintro _ _ rfl
    cases h with
    | mk _ =>
        cases ho with
        | mk hlength =>
            exact .ok (.commit (hset hlength) _ _ _)

theorem Twin.decideImport (h : e.Twin e') (policy : PolicyExport) {pin : Option String}
    (hpin : Settings.given? pin = none) :
    Matched Decision.Twin (decideImport e policy pin) (decideImport e' policy pin) := by
  have himported : (e.settings.imported policy).Twin (e'.settings.imported policy) :=
    h.settings.update (f := fun s => s.imported policy) fun _ _ => rfl
  unfold Command.decideImport
  rw [h.settings.authorize hpin]
  refine (Matched.refl _).bind ?_
  rintro _ _ rfl
  refine himported.normalized.bind ?_
  intro normal normal' hnormal
  have hfault : normal'.fault? = normal.fault? :=
    hnormal.view fun _ _ => rfl
  rw [hfault]
  refine (Matched.refl _).bind ?_
  rintro _ _ rfl
  exact .ok (.commit hnormal _ _ _)

theorem Twin.decide (h : e.Twin e') (ho : o.Twin o') {c : Command}
    (hc : Settings.given? c.offered? = none) :
    Matched Decision.Twin (c.decide o e) (c.decide o' e') := by
  have hsettings := h.settings
  cases c with
  | refresh reason =>
      exact .ok (.pass reason)
  | viewSettings =>
      show Matched Decision.Twin (.ok (.answer (.settings e.settings.redacted)))
        (.ok (.answer (.settings e'.settings.redacted)))
      rw [hsettings.redacted]
      exact .ok (.answer _)
  | switchTo enabled =>
      have hswitched := hsettings.update (f := fun s => { s with enabled }) fun _ _ => rfl
      cases h with
      | mk _ =>
          exact .ok (.commit hswitched _ _ _)
  | patchSettings patch pin =>
      exact decidePatch h patch hc
  | addRule draft =>
      cases ho with
      | mk _ =>
          exact decideAdd h o draft
  | removeRule id =>
      exact decideRemove h id
  | patchRule patch =>
      exact decideRulePatch h patch
  | findBlocker url =>
      have hrules : e'.settings.rules = e.settings.rules :=
        hsettings.view fun _ _ => rfl
      unfold Command.decide
      rw [hrules]
      exact (Matched.refl _).bind fun _ _ _ => .ok (.answer _)
  | suspend rule url =>
      exact decideSuspend h rule url
  | resume rule =>
      exact .ok (decideResume h rule)
  | grantOverride hostname minutes url =>
      exact decideOverride h ho hostname minutes url
  | blockSite url =>
      cases ho with
      | mk _ =>
          exact decideSite h o url
  | changePin pin current =>
      exact decidePin h ho pin hc
  | exportPolicy =>
      have hexported : e'.settings.exported = e.settings.exported :=
        hsettings.view fun _ _ => rfl
      unfold Command.decide
      rw [hexported]
      exact .ok (.answer _)
  | importPolicy policy pin =>
      exact decideImport h policy hc
  | listDirectives =>
      unfold Command.decide
      rw [h.installed]
      refine (Matched.refl _).bind ?_
      rintro listed _ rfl
      exact .ok (.answer _)
  | navigate url =>
      unfold Command.decide
      rw [h.installed]
      refine (Matched.refl _).bind ?_
      rintro _ _ rfl
      refine (Matched.refl _).bind ?_
      rintro listed _ rfl
      exact .ok (.answer _)

end Command

/-! ## Runs -/

namespace Engine

variable {e e' : Engine}

theorem Twin.run (h : e.Twin e') {o o' : Occasion} (ho : o.Twin o') {c : Command}
    (hc : Settings.given? c.offered? = none) : (e.run o c).Twin (e'.run o' c) := by
  rw [run_eq e, run_eq e', ho.now]
  rcases (Command.Twin.decide h ho hc).inv with
    ⟨f, hdecide, hdecide'⟩ | ⟨d, d', hdecide, hdecide', hd⟩
  · rw [hdecide, hdecide']
    exact ⟨rfl, rfl, h⟩
  · rw [hdecide, hdecide']
    exact h.carryOut o.now hd

/-- The same event, with other bytes for a salt, or on a store that is a twin. -/
inductive Event.Twin : Event → Event → Prop where
  | command {o o' : Occasion} {c : Command} (ho : o.Twin o')
      (hc : Settings.given? c.offered? = none) : Event.Twin (.command o c) (.command o' c)
  | restart : Event.Twin .restart .restart
  | outage (o : Outage) : Event.Twin (.outage o) (.outage o)
  | stored {st st' : Store} (h : st.Twin st') : Event.Twin (.stored st) (.stored st')

theorem Twin.after (h : e.Twin e') {event event' : Event} (hevent : event.Twin event') :
    (e.after event).Twin (e'.after event') := by
  cases hevent with
  | command ho hc =>
      exact (h.run ho hc).engine
  | restart =>
      exact h.restarted
  | outage o =>
      cases h with
      | mk h =>
          exact .mk h
  | stored hstored =>
      cases h with
      | mk _ =>
          exact .mk hstored

/-- What the commands of a history come to, one after the other. -/
def results : Engine → List Event → List (Except Failure Reply)
  | _, [] => []
  | e, .command o c :: rest => (e.run o c).result :: results (e.run o c).engine rest
  | e, event :: rest => results (e.after event) rest

/-- A result as it is told, a failure by its text. -/
def told (w : Wording) : Except Failure Reply → Except String Reply
  | .ok r => .ok r
  | .error f => .error (f.text w)

/--
Two engines that differ in nothing but the contents of the PIN record, the texts of
which are equally long, give the same replies and the same errors to whatever is
asked without a candidate for the PIN, whoever words them, and in the end that is
still all in which they differ.
-/
theorem pin_stays_secret {events events' : List Event} (h : e.Twin e')
    (hevents : List.Forall₂ Event.Twin events events') :
    e'.results events' = e.results events ∧
      (∀ w, (e'.results events').map (told w) = (e.results events).map (told w)) ∧
      (e.afterAll events).Twin (e'.afterAll events') := by
  have hsame : e'.results events' = e.results events ∧
      (e.afterAll events).Twin (e'.afterAll events') := by
    induction hevents generalizing e e' with
    | nil =>
        exact ⟨rfl, h⟩
    | @cons event event' rest rest' hevent _ ih =>
        rcases ih (h.after hevent) with ⟨hresults, htwin⟩
        refine ⟨?_, htwin⟩
        cases hevent with
        | command ho hc =>
            show _ :: _ = _ :: _
            rw [(h.run ho hc).result]
            exact congrArg _ hresults
        | restart =>
            exact hresults
        | outage o =>
            exact hresults
        | stored _ =>
            exact hresults
  refine ⟨hsame.1, ?_, hsame.2⟩
  intro w
  rw [hsame.1]

/-! ## A sample -/

/-- The settings of an owner who wants a PIN for changes and has chosen this one. -/
def guardedBy (pin : String) (salt : List UInt8) : Settings :=
  { Settings.default with requirePinForChanges := true, pin := PinRecord.ofPin pin salt }

/-- Someone without the PIN looks around, tries to change things, and turns blocking off. -/
def curiosity (salt : List UInt8) : List Event :=
  [.command ⟨dawn, "", salt⟩ .viewSettings,
    .command ⟨dawn, "", salt⟩ (.patchSettings (.object [("pin", .null)]) none),
    .command ⟨dawn, "", salt⟩ (.changePin "0000" (some "")), .restart,
    .command ⟨dawn, "", salt⟩ (.switchTo false)]

theorem curiosity_unsatisfied :
    (finding (guardedBy "1234" (List.replicate 16 7))).settings.pin ≠
        (finding (guardedBy "98765" (List.replicate 16 8))).settings.pin ∧
      (finding (guardedBy "98765" (List.replicate 16 8))).results
          (curiosity (List.replicate 16 2)) =
        (finding (guardedBy "1234" (List.replicate 16 7))).results
          (curiosity (List.replicate 16 1)) := by
  have htwins : (finding (guardedBy "1234" (List.replicate 16 7))).Twin
      (finding (guardedBy "98765" (List.replicate 16 8))) := by
    have hsettings : (guardedBy "1234" (List.replicate 16 7)).Twin
        (guardedBy "98765" (List.replicate 16 8)) :=
      .mk (PinRecord.ofPin_alike "1234" "98765" rfl)
    exact .mk (.mk (.row (.saved hsettings)) .unconfigured)
  have hevents : List.Forall₂ Event.Twin (curiosity (List.replicate 16 1))
      (curiosity (List.replicate 16 2)) :=
    .cons (.command (.mk rfl) rfl) (.cons (.command (.mk rfl) rfl)
      (.cons (.command (.mk rfl) rfl) (.cons .restart (.cons (.command (.mk rfl) rfl) .nil))))
  refine ⟨?_, (pin_stays_secret htwins hevents).1⟩
  decide +kernel

end Engine
end SiteGuard

import SiteGuard.Proofs.Engine.Commit
import SiteGuard.Proofs.Engine.Removal
import SiteGuard.Proofs.Overrides.Latest

/-!
# Grants in any order

Several overrides that are granted at one instant come to the same settings and to
the same table in whatever order they are asked for.  Each pass drops what has run
out, and none of what is granted has, so every host keeps the last one of the
instants until which it is let through.
-/

namespace SiteGuard

open Calendar

/-! ## Tables in order -/

theorem DirectiveTable.InOrder.rebuilt {t : DirectiveTable} (h : t.InOrder) {ds : List Directive}
    (hnodup : (ds.map (·.id)).Nodup) : (t.rebuilt ds).InOrder := by
  have hflags : t.rebuilt ds = { t with rows := (t.rebuilt ds).rows } :=
    filled_eq { t with rows := SortedMap.empty } ds
  rcases h.lists with ⟨before, hbefore⟩
  have hpresent : (t.rebuilt ds).present = true := by
    rw [hflags]
    exact (installed_eq_ok_iff.mp hbefore).1
  constructor
  · exact ⟨_, installed_of_entries hpresent (t.rebuilt_entries hnodup)⟩
  · rw [hflags]
    exact h.inserts
  · rw [hflags]
    exact h.deletes

/-! ## Calls -/

structure OverrideCall where
  hostname : String
  minutes : Int64
  link : Option String

namespace OverrideCall

def command (c : OverrideCall) : Command :=
  .grantOverride c.hostname c.minutes c.link

/-- A valid call asks at an instant that a host be let through until another one. -/
structure Asks (c : OverrideCall) (now : Instant) (host : String) (till : Instant) : Prop where
  least : 1 ≤ c.minutes.toInt
  most : c.minutes.toInt ≤ Command.maxOverrideMinutes
  host : HostPattern.hostname? c.hostname = some host
  till : now.after? (c.minutes.toInt.toNat * Instant.minuteNanos) = some till

variable {c d : OverrideCall} {now till till' : Instant} {host host' : String}

theorem Asks.lt (h : c.Asks now host till) : now < till := by
  have hpositive : 0 < c.minutes.toInt.toNat * Instant.minuteNanos := by
    have hleast := h.least
    unfold Instant.minuteNanos
    omega
  exact Instant.lt_of_after? hpositive h.till

theorem Asks.unique (h : c.Asks now host till) (h' : c.Asks now host' till') :
    host = host' ∧ till = till' :=
  ⟨Option.some.inj (h.host.symm.trans h'.host), Option.some.inj (h.till.symm.trans h'.till)⟩

theorem Asks.not_lt_of_le (h : c.Asks now host till) (h' : d.Asks now host' till')
    (hle : c.minutes.toInt ≤ d.minutes.toInt) : ¬till' < till := by
  have hleast := h.least
  have hleast' := h'.least
  rcases Instant.of_after?_minutes (by omega) h.till with ⟨hsecond, hnano⟩
  rcases Instant.of_after?_minutes (by omega) h'.till with ⟨hsecond', hnano'⟩
  rw [Instant.lt_iff]
  omega

theorem decide_eq (o : Occasion) (e : Engine) (h : c.Asks o.now.instant host till) :
    c.command.decide o e = .ok (Command.commit
      { e.settings with overrides := e.settings.overrides.extend host till } e.suspended "override"
      (.grant ⟨host, ((e.settings.overrides.extend host till).get? host).getD till,
        c.link.getD (homePage host)⟩)) := by
  have hminutes : ¬(c.minutes.toInt < 1 ∨ Command.maxOverrideMinutes < c.minutes.toInt) :=
    not_or.mpr ⟨Int.not_lt.mpr h.least, Int.not_lt.mpr h.most⟩
  show Command.decideOverride o e c.hostname c.minutes c.link = _
  unfold Command.decideOverride
  dsimp only
  rw [if_neg hminutes, h.host]
  dsimp only
  rw [h.till]

theorem asks_of_run {e : Engine} {o : Occasion} {reply : Reply}
    (hok : (e.run o c.command).result = .ok reply) :
    ∃ host till, c.Asks o.now.instant host till := by
  cases hdecide : Command.decideOverride o e c.hostname c.minutes c.link with
  | error f =>
      have hrefused : c.command.decide o e = .error f := hdecide
      rw [Engine.run_of_refused hrefused] at hok
      cases hok
  | ok decision =>
      rcases Command.decideOverride_eq_ok hdecide with
        ⟨host, till, hleast, hmost, hhost, htill, _⟩
      exact ⟨host, till, hleast, hmost, hhost, htill⟩

end OverrideCall

/-! ## One grant -/

namespace Overrides

theorem get?_live_eq_some_iff {o : Overrides} {host : String} {now till : Instant} :
    (o.live now).get? host = some till ↔ o.get? host = some till ∧ now < till := by
  unfold live
  rw [SortedMap.get?_filter, Option.filter_eq_some_iff, decide_eq_true_iff]

/-- What is granted has not run out, so it does not matter when the others are dropped. -/
theorem live_extend {o : Overrides} {host : String} {now till : Instant} (h : now < till) :
    (o.extend host till).live now = (o.live now).extend host till := by
  apply SortedMap.ext_get?
  intro other
  have hlive : ∀ o : Overrides, (o.live now).get? other =
      (o.get? other).filter fun till => now < till :=
    fun o => SortedMap.get?_filter o _ other
  have hkept : ∀ i, now < i → (some i).filter (fun till => decide (now < till)) = some i := by
    intro i hi
    rw [Option.filter_some, if_pos (decide_eq_true hi)]
  by_cases hsame : host = other
  · subst hsame
    rw [hlive, get?_extend_self, get?_extend_self, hlive]
    cases o.get? host with
    | none =>
        exact hkept till h
    | some known =>
        have hlatest : now < Instant.latest till known :=
          Instant.lt_of_lt_of_not_lt h (Instant.not_latest_lt_left till known)
        dsimp only
        rw [hkept _ hlatest]
        by_cases hknown : now < known
        · rw [hkept known hknown]
        · have hlater : ¬till < known := fun hless => hknown (Instant.lt_trans h hless)
          rw [Option.filter_some, if_neg (fun hdecide => hknown (of_decide_eq_true hdecide))]
          exact congrArg some (if_neg hlater)
  · rw [hlive, get?_extend_other hsame, get?_extend_other hsame, hlive]

end Overrides

namespace Engine

variable {e e' : Engine} {o : Occasion} {c : OverrideCall} {host : String} {till : Instant}

structure Granted (e : Engine) (now : Moment) (host : String) (till : Instant) (e' : Engine) :
    Prop where
  settings : e'.settings = { e.settings with
    overrides := (e.settings.overrides.live now.instant).extend host till }
  table : e'.table = e.table.rebuilt (e'.planned now)
  suspended : e'.suspendedRules = e.suspendedRules
  interstitial : e'.interstitial = e.interstitial

theorem granted_of_run {reply : Reply} (hkeyed : e.table.Keyed)
    (hroom : e.settings.rules.length ≤ Directive.idCount) (hasks : c.Asks o.now.instant host till)
    (hok : (e.run o c.command).result = .ok reply) :
    e.Granted o.now host till (e.run o c.command).engine := by
  have hcommitted := committed_of_run hkeyed (by exact hroom) (c.decide_eq o e hasks) hok
  refine ⟨?_, hcommitted.table, ?_, hcommitted.interstitial⟩
  · rw [hcommitted.settings]
    unfold Settings.purged
    rw [Overrides.live_extend hasks.lt]
  · rw [suspendedRules, hcommitted.suspended]
    rfl

/-! ## Some grants -/

def afterGrants (e : Engine) (o : Occasion) (calls : List OverrideCall) : Engine :=
  calls.foldl (fun e c => (e.run o c.command).engine) e

def AllGranted (e : Engine) (o : Occasion) (calls : List OverrideCall) : Prop :=
  ∀ front c back, calls = front ++ c :: back →
    ∃ reply, ((e.afterGrants o front).run o c.command).result = .ok reply

theorem afterGrants_concat (e : Engine) (o : Occasion) (calls : List OverrideCall)
    (c : OverrideCall) :
    e.afterGrants o (calls ++ [c]) = ((e.afterGrants o calls).run o c.command).engine :=
  List.foldl_concat ..

theorem AllGranted.of_concat {calls : List OverrideCall} (h : e.AllGranted o (calls ++ [c])) :
    e.AllGranted o calls := by
  intro front d back hsplit
  apply h front d (back ++ [c])
  rw [hsplit, List.append_assoc]
  rfl

theorem afterGrants_keyed (h : e.table.Keyed) (o : Occasion) (calls : List OverrideCall) :
    (e.afterGrants o calls).table.Keyed := by
  induction calls using List.reverseRecOn with
  | nil =>
      exact h
  | append_singleton calls c ih =>
      rw [afterGrants_concat]
      exact run_keyed ih o c.command

/-- An instant until which a host is let through, at first or by one of some calls. -/
def Through (e : Engine) (now : Instant) (calls : List OverrideCall) (host : String)
    (till : Instant) : Prop :=
  (e.settings.overrides.live now).get? host = some till ∨ ∃ c ∈ calls, c.Asks now host till

structure Accumulated (e : Engine) (now : Moment) (calls : List OverrideCall) (e' : Engine) :
    Prop where
  settings : e'.settings = { e.settings with overrides := e'.settings.overrides }
  overrides : Overrides.Collects (e'.settings.overrides.live now.instant)
    (e.Through now.instant calls)
  live : calls ≠ [] → e'.settings.overrides.live now.instant = e'.settings.overrides
  rows : e'.table = { e.table with rows := e'.table.rows }
  table : calls ≠ [] → e'.table = e.table.rebuilt (e'.planned now)
  suspended : e'.suspendedRules = e.suspendedRules
  interstitial : e'.interstitial = e.interstitial

theorem accumulated_nil (e : Engine) (now : Moment) : e.Accumulated now [] e where
  settings := rfl
  overrides := by
    refine (Overrides.Collects.self _).congr fun host till => ?_
    exact (or_iff_left fun hasked => nomatch hasked.choose_spec.1).symm
  live := fun hne => absurd rfl hne
  rows := rfl
  table := fun hne => absurd rfl hne
  suspended := rfl
  interstitial := rfl

theorem Accumulated.concat {now : Moment} {calls : List OverrideCall} {e'' : Engine}
    (h : e.Accumulated now calls e') (hasks : c.Asks now.instant host till)
    (hgranted : e'.Granted now host till e'') : e.Accumulated now (calls ++ [c]) e'' := by
  have hoverrides : e''.settings.overrides =
      (e'.settings.overrides.live now.instant).extend host till := by
    rw [hgranted.settings]
  have hlive : e''.settings.overrides.live now.instant = e''.settings.overrides := by
    rw [hoverrides, Overrides.live_extend hasks.lt, Overrides.live_live]
  have hrebuilt : e''.table = e.table.rebuilt (e''.planned now) := by
    rw [hgranted.table, h.rows]
    rfl
  constructor
  · rw [hgranted.settings, h.settings]
  · rw [hlive, hoverrides]
    refine (h.overrides.extend host till).congr fun other i => ?_
    unfold Through
    rw [or_assoc]
    refine or_congr_right ?_
    constructor
    · rintro (⟨d, hd, hdasks⟩ | ⟨rfl, rfl⟩)
      · exact ⟨d, List.mem_append_left _ hd, hdasks⟩
      · exact ⟨c, List.mem_append_right _ List.mem_cons_self, hasks⟩
    · rintro ⟨d, hd, hdasks⟩
      rcases List.mem_append.mp hd with hd | hd
      · exact Or.inl ⟨d, hd, hdasks⟩
      · cases List.mem_singleton.mp hd
        exact Or.inr (hdasks.unique hasks)
  · exact fun _ => hlive
  · rw [hrebuilt]
    exact DirectiveTable.filled_eq _ _
  · exact fun _ => hrebuilt
  · exact hgranted.suspended.trans h.suspended
  · exact hgranted.interstitial.trans h.interstitial

theorem accumulated_afterGrants {calls : List OverrideCall} (hkeyed : e.table.Keyed)
    (hroom : e.settings.rules.length ≤ Directive.idCount) (h : e.AllGranted o calls) :
    e.Accumulated o.now calls (e.afterGrants o calls) := by
  induction calls using List.reverseRecOn with
  | nil =>
      exact e.accumulated_nil o.now
  | append_singleton calls c ih =>
      have hbefore := ih h.of_concat
      rcases h calls c [] rfl with ⟨reply, hok⟩
      rcases OverrideCall.asks_of_run hok with ⟨host, till, hasks⟩
      have hrules : (e.afterGrants o calls).settings.rules.length ≤ Directive.idCount := by
        rw [hbefore.settings]
        exact hroom
      rw [afterGrants_concat]
      exact hbefore.concat hasks
        (granted_of_run (afterGrants_keyed hkeyed o calls) hrules hasks hok)

/-! ## Grants that succeed -/

/-- Whatever settings are saved are taken, and the table is in order. -/
structure Receptive (e : Engine) : Prop where
  outage : e.outage = Outage.none
  table : e.table.InOrder
  file : e.store.canFallBack = true

theorem purged_canFallBack (h : e.store.canFallBack = true) (now : Instant) :
    (e.purged now).store.canFallBack = true := by
  unfold purged
  split
  · exact h
  · split
    · rename_i hsaved
      exact Store.canFallBack_of_save (store_of_saved hsaved).2 h
    · exact h

theorem Receptive.commit {command : Command} {s : Settings} {suspended : List Suspension}
    {reason : String} {reply : Reply} (h : e.Receptive) (hkeyed : e.table.Keyed)
    (hroom : s.rules.length ≤ Directive.idCount)
    (hdecide : command.decide o e = .ok (Command.commit s suspended reason reply)) :
    (e.run o command).result = .ok reply ∧ (e.run o command).engine.Receptive := by
  have hout : e.outage.save = false := by
    rw [h.outage]
    rfl
  rcases Store.save_of_canFallBack h.file s with ⟨store, hstore⟩
  have hsaved : e.saved s = .ok { e with store } := saved_of_store hout hstore
  have hok := result_of_commit h.outage h.table hroom ⟨_, hsaved⟩ hdecide
  have hcommitted := committed_of_run hkeyed hroom hdecide hok
  have hrules : (e.run o command).engine.settings.rules.length ≤ Directive.idCount := by
    rw [hcommitted.settings]
    exact hroom
  rcases saved_of_commit hdecide hok with ⟨after, report, hafter, _, hpass⟩
  cases hsaved.symm.trans hafter
  refine ⟨hok, ?_, ?_, ?_⟩
  · rw [pass_frame hpass]
    exact h.outage
  · rw [hcommitted.table]
    exact h.table.rebuilt
      (Settings.plan_ids_nodup (Nat.le_trans Settings.length_rulesInForce_le hrules))
  · rw [pass_frame hpass]
    exact purged_canFallBack (Store.canFallBack_of_save hstore h.file) o.now.instant

theorem AllGranted.concat {calls : List OverrideCall} {reply : Reply} (h : e.AllGranted o calls)
    (hok : ((e.afterGrants o calls).run o c.command).result = .ok reply) :
    e.AllGranted o (calls ++ [c]) := by
  intro front d back hsplit
  rcases List.eq_nil_or_concat back with rfl | ⟨back, last, rfl⟩
  · rcases List.append_inj' hsplit rfl with ⟨rfl, hlast⟩
    cases hlast
    exact ⟨reply, hok⟩
  · have hfront : calls ++ [c] = (front ++ d :: back) ++ [last] := by
      rw [hsplit, List.append_assoc, List.concat_eq_append]
      rfl
    exact h front d back (List.append_inj' hfront rfl).1

theorem Receptive.afterGrants {calls : List OverrideCall} (h : e.Receptive)
    (hkeyed : e.table.Keyed) (hroom : e.settings.rules.length ≤ Directive.idCount)
    (hvalid : ∀ c ∈ calls, ∃ host till, c.Asks o.now.instant host till) :
    e.AllGranted o calls ∧ (e.afterGrants o calls).Receptive := by
  induction calls using List.reverseRecOn with
  | nil =>
      refine ⟨?_, h⟩
      intro front c back hsplit
      cases front <;> cases hsplit
  | append_singleton calls c ih =>
      rcases ih fun d hd => hvalid d (List.mem_append_left _ hd) with ⟨hgranted, hreceptive⟩
      rcases hvalid c (List.mem_append_right _ List.mem_cons_self) with ⟨host, till, hasks⟩
      have hrules : (e.afterGrants o calls).settings.rules.length ≤ Directive.idCount := by
        rw [(accumulated_afterGrants hkeyed hroom hgranted).settings]
        exact hroom
      rcases hreceptive.commit (afterGrants_keyed hkeyed o calls) (by exact hrules)
        (c.decide_eq o (e.afterGrants o calls) hasks) with ⟨hok, hafter⟩
      rw [afterGrants_concat]
      exact ⟨hgranted.concat hok, hafter⟩

/-! ## Any order -/

/-- The expiry of a host that has been asked for is the later one of the old and the new. -/
def laterOf (known : Option Instant) (till : Instant) : Instant :=
  match known with
  | some known => Instant.latest till known
  | none => till

theorem lastOf_through {now : Instant} {calls : List OverrideCall} (hc : c ∈ calls)
    (hasks : c.Asks now host till)
    (hmost : ∀ d ∈ calls, HostPattern.hostname? d.hostname = some host →
      d.minutes.toInt ≤ c.minutes.toInt) :
    (laterOf (e.settings.overrides.get? host) till).LastOf (e.Through now calls host) := by
  have hcalls : ∀ i, (∃ d ∈ calls, d.Asks now host i) → ¬till < i := by
    rintro i ⟨d, hd, hdasks⟩
    exact hdasks.not_lt_of_le hasks (hmost d hd hdasks.host)
  have htill : e.Through now calls host till := Or.inr ⟨c, hc, hasks⟩
  cases hknown : e.settings.overrides.get? host with
  | none =>
      refine ⟨htill, ?_⟩
      rintro i (hlive | hasked)
      · rw [(Overrides.get?_live_eq_some_iff.mp hlive).1] at hknown
        cases hknown
      · exact hcalls i hasked
  | some known =>
      constructor
      · show e.Through now calls host (if till < known then known else till)
        split
        · rename_i hless
          exact Or.inl (Overrides.get?_live_eq_some_iff.mpr
            ⟨hknown, Instant.lt_trans hasks.lt hless⟩)
        · exact htill
      · rintro i (hlive | hasked)
        · rw [(Overrides.get?_live_eq_some_iff.mp hlive).1] at hknown
          cases hknown
          exact Instant.not_latest_lt_right till _
        · exact Instant.not_lt_trans (hcalls i hasked) (Instant.not_latest_lt_left till known)

theorem through_perm {now : Instant} {calls calls' : List OverrideCall} (h : calls.Perm calls')
    (host : String) (till : Instant) :
    e.Through now calls host till ↔ e.Through now calls' host till := by
  unfold Through
  simp only [h.mem_iff]

theorem Accumulated.unique {now : Moment} {calls calls' : List OverrideCall} {e'' : Engine}
    (hne : calls ≠ []) (hperm : calls'.Perm calls) (h : e.Accumulated now calls e')
    (h' : e.Accumulated now calls' e'') : e''.settings = e'.settings ∧ e''.table = e'.table := by
  have hne' : calls' ≠ [] := by
    rintro rfl
    exact hne (List.nil_perm.mp hperm)
  have hoverrides : e''.settings.overrides = e'.settings.overrides := by
    rw [← h'.live hne', ← h.live hne]
    exact (h'.overrides.congr (through_perm hperm)).unique h.overrides
  have hsettings : e''.settings = e'.settings := by
    rw [h'.settings, h.settings, hoverrides]
  have hplanned : e''.planned now = e'.planned now := by
    unfold planned
    rw [hsettings, h'.suspended, h.suspended, h'.interstitial, h.interstitial]
  refine ⟨hsettings, ?_⟩
  rw [h'.table hne', h.table hne, hplanned]

/--
Overrides that are granted at one moment leave the same settings and the same table in every
order of the calls.
-/
theorem grants_commute {grants : List OverrideCall} (hkeyed : e.table.Keyed)
    (hroom : e.settings.rules.length ≤ Directive.idCount) :
    (e.Receptive → (∀ c ∈ grants, ∃ host till, c.Asks o.now.instant host till) →
      ∀ order : List OverrideCall, order.Perm grants → e.AllGranted o order) ∧
    ∀ order : List OverrideCall, order.Perm grants → e.AllGranted o order →
      let after := e.afterGrants o order
      (∀ other : List OverrideCall, other.Perm grants → e.AllGranted o other →
        (e.afterGrants o other).settings = after.settings ∧
          (e.afterGrants o other).table = after.table) ∧
      after.settings = { e.settings with overrides := after.settings.overrides } ∧
      (∀ c ∈ grants, ∀ host till, c.Asks o.now.instant host till →
        (∀ d ∈ grants, HostPattern.hostname? d.hostname = some host →
          d.minutes.toInt ≤ c.minutes.toInt) →
        after.settings.overrides.get? host =
          some (laterOf (e.settings.overrides.get? host) till)) ∧
      ∀ host till, (∀ c ∈ grants, HostPattern.hostname? c.hostname ≠ some host) →
        o.now.instant < till →
          (after.settings.overrides.get? host = some till ↔
            e.settings.overrides.get? host = some till) := by
  refine ⟨fun hreceptive hvalid order hperm => ?_, fun order hperm hall => ?_⟩
  · exact (hreceptive.afterGrants hkeyed hroom fun c hc => hvalid c (hperm.mem_iff.mp hc)).1
  have hafter := accumulated_afterGrants hkeyed hroom hall
  have hcollects := hafter.overrides.congr (through_perm hperm)
  refine ⟨?_, hafter.settings, ?_, ?_⟩
  · intro other hother hall'
    by_cases hnone : order = []
    · subst hnone
      cases List.perm_nil.mp (hother.trans hperm.symm)
      exact ⟨rfl, rfl⟩
    · exact hafter.unique hnone (hother.trans hperm.symm)
        (accumulated_afterGrants hkeyed hroom hall')
  · intro c hc host till hasks hmost
    have hlast := hcollects.get?_eq_some_iff.mpr (lastOf_through hc hasks hmost)
    exact (Overrides.get?_live_eq_some_iff.mp hlast).1
  · intro host till hother hlive
    have hthrough : ∀ i, (e.settings.overrides.live o.now.instant).get? host = some i ↔
        e.Through o.now.instant grants host i := by
      intro i
      refine (or_iff_left ?_).symm
      rintro ⟨c, hc, hasks⟩
      exact hother c hc hasks.host
    calc
      _ ↔ ((e.afterGrants o order).settings.overrides.live o.now.instant).get? host =
          some till := by
        rw [Overrides.get?_live_eq_some_iff, and_iff_left hlive]
      _ ↔ till.LastOf (e.Through o.now.instant grants host) := hcollects.get?_eq_some_iff
      _ ↔ till.LastOf fun i => (e.settings.overrides.live o.now.instant).get? host = some i :=
        ⟨fun h => h.congr fun i => (hthrough i).symm, fun h => h.congr hthrough⟩
      _ ↔ (e.settings.overrides.live o.now.instant).get? host = some till :=
        (Overrides.Collects.self _).get?_eq_some_iff.symm
      _ ↔ e.settings.overrides.get? host = some till := by
        rw [Overrides.get?_live_eq_some_iff, and_iff_left hlive]

/-! ## A sample -/

/-- The machine itself is let through already for ten minutes, and there is a file for settings. -/
def passable : Settings :=
  { Settings.default with
    overrides := SortedMap.ofList [("[::1]", ⟨600, 0, by decide⟩), ("[::2]", ⟨240, 0, by decide⟩)] }

def withFile : Engine :=
  { finding passable with store := ⟨.row (.saved passable), .absent, Store.defaultQuota⟩ }

def fiveMinutes : OverrideCall := ⟨"http://[::1]/", 5, none⟩

def quarter : OverrideCall := ⟨"https://[::1]:8080/start", 15, none⟩

set_option maxRecDepth 10000 in
theorem loopback_calls_commute :
    withFile.AllGranted atDawn [fiveMinutes, quarter] ∧
      (withFile.afterGrants atDawn [quarter, fiveMinutes]).settings =
        (withFile.afterGrants atDawn [fiveMinutes, quarter]).settings ∧
      (withFile.afterGrants atDawn [quarter, fiveMinutes]).table =
        (withFile.afterGrants atDawn [fiveMinutes, quarter]).table ∧
      (withFile.afterGrants atDawn [quarter, fiveMinutes]).settings.overrides.get? "[::1]" =
        some ⟨900, 0, by decide⟩ ∧
      (withFile.afterGrants atDawn [quarter, fiveMinutes]).settings.overrides.get? "[::2]" =
        some ⟨240, 0, by decide⟩ := by
  have hreceptive : withFile.Receptive := ⟨rfl, ⟨⟨[], rfl⟩, rfl, rfl⟩, rfl⟩
  have hfive : fiveMinutes.Asks atDawn.now.instant "[::1]" ⟨300, 0, by decide⟩ :=
    ⟨by decide, by decide, by rfl, by decide⟩
  have hquarter : quarter.Asks atDawn.now.instant "[::1]" ⟨900, 0, by decide⟩ :=
    ⟨by decide, by decide, by rfl, by decide⟩
  have hvalid : ∀ c ∈ [fiveMinutes, quarter], ∃ host till, c.Asks atDawn.now.instant host till :=
    List.forall_mem_cons.mpr ⟨⟨_, _, hfive⟩, List.forall_mem_singleton.mpr ⟨_, _, hquarter⟩⟩
  have hswap : [quarter, fiveMinutes].Perm [fiveMinutes, quarter] := List.Perm.swap ..
  rcases grants_commute (e := withFile) (o := atDawn) (start_keyed _ _ _) (by decide) with
    ⟨hall, hsame⟩
  have hforth := hall hreceptive hvalid _ (List.Perm.refl _)
  have hback := hall hreceptive hvalid _ hswap
  rcases hsame _ (List.Perm.refl _) hforth with ⟨hothers, _, htouched, hkept⟩
  rcases hothers _ hswap hback with ⟨hsettings, htable⟩
  refine ⟨hforth, hsettings, htable, ?_, ?_⟩
  · rw [hsettings]
    refine htouched quarter (by simp) "[::1]" _ hquarter ?_
    exact List.forall_mem_cons.mpr
      ⟨fun _ => by decide, List.forall_mem_singleton.mpr fun _ => by decide⟩
  · have hknown : withFile.settings.overrides.get? "[::2]" = some ⟨240, 0, by decide⟩ := by
      show passable.overrides.get? "[::2]" = _
      simp [passable, SortedMap.ofList, SortedMap.get?_insert]
    rw [hsettings]
    refine (hkept "[::2]" _ ?_ (by decide)).mpr hknown
    refine List.forall_mem_cons.mpr ⟨?_, List.forall_mem_singleton.mpr ?_⟩
    · rw [hfive.host]
      decide
    · rw [hquarter.host]
      decide

end Engine
end SiteGuard

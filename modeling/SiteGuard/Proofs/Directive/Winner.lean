import SiteGuard.Proofs.Plan.Order

/-!
# Winners among directives

The verdict on a page is that of one directive which holds of it.  No other one that
does has a higher priority, and if any of the same priority allows the page, so does
this one.  Directives that do not hold of the page have no part in the verdict,
wherever they stand.
-/

namespace SiteGuard

/-! ## Actions -/

theorem Action.isAllow_iff {a : Action} : a.isAllow = true ↔ a = .allow := by
  cases a with
  | allow =>
      exact ⟨fun _ => rfl, fun _ => rfl⟩
  | redirect target =>
      constructor
      · intro h
        cases h
      · intro h
        cases h

namespace Directive

theorem verdict_cases (d : Directive) (url : String) :
    (d.action = .allow ∧ d.verdict url = .allowed d.id) ∨
      ∃ target, d.action = .redirect target ∧
        d.verdict url = .redirect d.id (target.location url) := by
  unfold verdict
  cases d.action with
  | allow =>
      exact Or.inl ⟨rfl, rfl⟩
  | redirect target =>
      exact Or.inr ⟨target, rfl, rfl⟩

/-! ## Winners -/

section Winners

variable {ds : List Directive} {url : String} {w : Directive}

/--
The directive that a page is judged by.  Of those that hold of the page none has a
higher priority, one of its priority allows only if it allows itself, and none behind
it is its equal in both.
-/
structure Wins (ds : List Directive) (url : String) (w : Directive) : Prop where
  mem : w ∈ ds
  holds : w.condition.holds url = true
  highest : ∀ d ∈ ds, d.condition.holds url = true → d.priority ≤ w.priority
  favours : ∀ d ∈ ds, d.condition.holds url = true → d.priority = w.priority →
    d.action = .allow → w.action = .allow
  last : ∃ front back, ds = front ++ w :: back ∧
    ∀ d ∈ back, d.condition.holds url = true → d.priority = w.priority →
      w.action = .allow ∧ d.action ≠ .allow

theorem allows_of_yieldsTo {d e : Directive} (h : d.yieldsTo e = true)
    (hpriority : d.priority = e.priority) (hallow : d.action = .allow) : e.action = .allow := by
  rcases yieldsTo_iff.mp h with hlt | ⟨_, hfavour⟩
  · rw [hpriority] at hlt
    exact absurd hlt (UInt32.lt_irrefl _)
  · exact Action.isAllow_iff.mp (hfavour (Action.isAllow_iff.mpr hallow))

theorem allows_of_not_yieldsTo {d e : Directive} (h : d.yieldsTo e = false)
    (hpriority : e.priority = d.priority) : d.action = .allow ∧ e.action ≠ .allow := by
  have hnot : ¬(d.action.isAllow = true → e.action.isAllow = true) := by
    intro hfavour
    exact ne_true_of_eq_false h (yieldsTo_iff.mpr (Or.inr ⟨hpriority.symm, hfavour⟩))
  rw [Action.isAllow_iff, Action.isAllow_iff] at hnot
  exact Classical.not_imp.mp hnot

theorem wins_of_winner? (h : winner? ds url = some w) : Wins ds url w := by
  have hdecides := winner?_eq_some h
  refine ⟨hdecides.mem, hdecides.holds, ?_, ?_, ?_⟩
  · intro d hd hholds
    exact priority_le_of_yieldsTo (hdecides.strongest d hd hholds)
  · intro d hd hholds
    exact allows_of_yieldsTo (hdecides.strongest d hd hholds)
  · rcases winner?_lastStrongest h with ⟨front, back, hfilter, _, hback⟩
    rcases List.filter_eq_append_iff.mp hfilter with ⟨before, rest, rfl, _, hrest⟩
    rcases List.filter_eq_cons_iff.mp hrest with ⟨skipped, behind, rfl, _, _, hbehind⟩
    refine ⟨before ++ skipped, behind, (List.append_assoc _ _ _).symm, ?_⟩
    intro d hd hholds
    apply allows_of_not_yieldsTo
    apply hback d
    rw [← hbehind]
    exact List.mem_filter.mpr ⟨hd, hholds⟩

theorem winner?_insert {d : Directive} (hd : d.condition.holds url = false)
    (front back : List Directive) :
    winner? (front ++ d :: back) url = winner? (front ++ back) url := by
  have hskipped : (d :: back).filter (fun e => e.condition.holds url) =
      back.filter (fun e => e.condition.holds url) :=
    List.filter_cons_of_neg (ne_true_of_eq_false hd)
  unfold winner?
  rw [List.filter_append, List.filter_append, hskipped]

theorem Alike.of_perm {es : List Directive} (h : ds.Perm es) : Alike ds es := by
  constructor
  · intro d hd
    exact ⟨d, h.mem_iff.mp hd, rfl⟩
  · intro e he
    exact ⟨e, h.mem_iff.mpr he, rfl⟩

end Winners

end Directive

namespace Verdict

open Directive

/--
A page is let through if no directive holds of it, and else judged by the one that
wins.  The kind of the verdict does not depend on the order of the directives, and
the verdict does not depend at all on those that do not hold of the page.
-/
theorem strongest_decides (ds : List Directive) (url : String) :
    (of ds url = .proceed ↔ ∀ d ∈ ds, d.condition.holds url = false) ∧
    (of ds url ≠ .proceed → ∃ w, Wins ds url w ∧
      ((w.action = .allow ∧ of ds url = .allowed w.id) ∨
        ∃ target, w.action = .redirect target ∧
          of ds url = .redirect w.id (target.location url))) ∧
    (∀ es, ds.Perm es → (of es url).kind = (of ds url).kind) ∧
    ∀ front d back, d.condition.holds url = false →
      of (front ++ d :: back) url = of (front ++ back) url := by
  refine ⟨of_eq_proceed_iff, ?_, ?_, ?_⟩
  · intro hjudged
    cases hwinner : winner? ds url with
    | none =>
        exact absurd (of_eq_proceed_iff.mpr (winner?_eq_none hwinner)) hjudged
    | some w =>
        have hverdict : of ds url = w.verdict url := by
          unfold of
          rw [hwinner]
        rw [hverdict]
        exact ⟨w, wins_of_winner? hwinner, verdict_cases w url⟩
  · intro es hperm
    exact (kind_of_alike (Alike.of_perm hperm) url).symm
  · intro front d back hd
    unfold of
    rw [winner?_insert hd]

/-- Directives of one priority on every page of the web and on pages with a word in them. -/
def contest : List Directive :=
  [⟨1001, 5, .allow, ⟨some "|http", none, [.mainFrame]⟩⟩,
    ⟨1002, 5, .redirect ⟨"about:blank", none⟩, ⟨some "news", none, [.mainFrame]⟩⟩]

def bystander : Directive :=
  ⟨1003, 9, .redirect ⟨"about:blank", none⟩, ⟨some "mail", none, [.mainFrame]⟩⟩

/-- At equal priority the page is allowed, whatever comes last. -/
theorem contest_allowed :
    of contest "http://news.example/" ≠ .proceed ∧
      (∃ w, Wins contest "http://news.example/" w ∧
        of contest "http://news.example/" = .allowed w.id) ∧
      (of contest.reverse "http://news.example/").kind = .allowed ∧
      of (contest ++ [bystander]) "http://news.example/" = .allowed 1001 := by
  rcases strongest_decides contest "http://news.example/" with ⟨_, hwins, hperm, hinsert⟩
  have hallowed : of contest "http://news.example/" = .allowed 1001 := rfl
  have hjudged : of contest "http://news.example/" ≠ .proceed := by
    rw [hallowed]
    exact Verdict.noConfusion
  refine ⟨hjudged, ?_, ?_, ?_⟩
  · rcases hwins hjudged with ⟨w, hw, ⟨_, hverdict⟩ | ⟨target, _, hverdict⟩⟩
    · exact ⟨w, hw, hverdict⟩
    · rw [hallowed] at hverdict
      cases hverdict
  · rw [hperm _ (List.reverse_perm contest).symm, hallowed]
    rfl
  · rw [hinsert contest bystander [] rfl, List.append_nil]
    exact hallowed

end Verdict
end SiteGuard

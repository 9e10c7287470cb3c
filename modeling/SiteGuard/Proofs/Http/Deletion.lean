import SiteGuard.Http
import SiteGuard.Proofs.Actor.Idle
import SiteGuard.Proofs.Engine.Removal
import SiteGuard.Proofs.Text.Pieces
import SiteGuard.Proofs.Url.Percent

/-!
# Deleting rules by request

The path of a rule ends in its id, percent-encoded as one segment.  Such a path is
read back as the id, unless the segment is a name that stands for something else
there: a rule whose id is written like one of these names is not reached.
-/

namespace SiteGuard
namespace Http

open Calendar Text Url

/-! ## Segments -/

/-- What a segment of a path may not hold as it is. -/
def inSegment (c : Char) : Bool :=
  Percent.inPath c || c == '/' || c == '%'

def fixedNames : List String :=
  ["update", "test", "temporary_allow", "current_site"]

/-- An encoding of ids that leaves nothing as it is that may not stand in a segment. -/
def Encodes (reserved : Char → Bool) : Prop :=
  ∀ c, inSegment c = true → reserved c = true

def segmentOf (reserved : Char → Bool) (id : String) : String :=
  String.ofList (Percent.encode reserved id.toList)

def rulePath (segment : String) : String :=
  "/rules/" ++ segment

/-- A text that goes on as long as a path does, and has one segment. -/
structure IsSegment (segment : String) : Prop where
  slash : '/' ∉ segment.toList
  query : '?' ∉ segment.toList
  fragment : '#' ∉ segment.toList
  nonempty : segment ≠ ""

section Segments

variable {reserved : Char → Bool} {segment : String}

theorem not_mem_segment (h : Encodes reserved) {mark : Char} (hsegment : inSegment mark = true)
    (hmark : mark ≠ '%') (hdigit : ∀ n < 16, Percent.digit n ≠ mark) (id : String) :
    mark ∉ (segmentOf reserved id).toList := by
  unfold segmentOf
  rw [String.toList_ofList]
  exact Percent.not_mem_encode (h mark hsegment) hmark hdigit _

theorem isSegment_segmentOf (h : Encodes reserved) {id : String} (hid : id ≠ "") :
    IsSegment (segmentOf reserved id) := by
  constructor
  · exact not_mem_segment h (by decide) (by decide) (by decide) id
  · exact not_mem_segment h (by decide) (by decide) (by decide) id
  · exact not_mem_segment h (by decide) (by decide) (by decide) id
  · have hne : Percent.encode reserved id.toList ≠ [] :=
      Percent.encode_ne_nil (h '%' (by decide)) (mt String.toList_eq_nil_iff.mp hid)
    intro hempty
    have hchars := congrArg String.toList hempty
    unfold segmentOf at hchars
    rw [String.toList_ofList] at hchars
    exact hne hchars

theorem decode?_segment (h : Encodes reserved) (id : String) :
    Utf8.decode? (Percent.decode (segmentOf reserved id).toList) = some id.toList := by
  unfold segmentOf
  rw [String.toList_ofList]
  exact Percent.decode?_encode (h '%' (by decide)) _

theorem pieces_rulePath (h : IsSegment segment) :
    (pieces '/' (plainPath (rulePath segment))).map String.ofList = ["", "rules", segment] := by
  have hpath : (rulePath segment).toList = "/rules/".toList ++ segment.toList :=
    String.toList_append
  have hfixed : ∀ c ∈ "/rules/".toList, (c != '?' && c != '#') = true := by
    simp
  have hplain : plainPath (rulePath segment) =
      [] ++ '/' :: ("rules".toList ++ '/' :: segment.toList) := by
    unfold plainPath
    rw [hpath]
    apply List.takeWhile_eq_self_iff.mpr
    intro c hc
    rcases List.mem_append.mp hc with hfront | hback
    · exact hfixed c hfront
    · have hquery : c ≠ '?' := fun heq => h.query (heq ▸ hback)
      have hfragment : c ≠ '#' := fun heq => h.fragment (heq ▸ hback)
      simp [hquery, hfragment]
  rw [hplain, pieces_append List.not_mem_nil, pieces_append (by decide),
    pieces_eq_singleton h.slash]
  simp only [List.map_cons, List.map_nil, String.ofList_toList, String.ofList_nil]

/-! ## Resources -/

theorem resource?_rule (h : IsSegment segment) (hfree : segment ∉ fixedNames) :
    resource? (rulePath segment) = some (.rule segment.toList) := by
  have hne : segment ≠ "" := h.nonempty
  unfold resource?
  rw [pieces_rulePath h]
  split
  all_goals simp_all [fixedNames]

theorem resource?_fixed (h : IsSegment segment) (hfixed : segment ∈ fixedNames) :
    ∃ r, resource? (rulePath segment) = some r ∧ operation? "DELETE" r = none := by
  unfold resource?
  rw [pieces_rulePath h]
  simp only [fixedNames, List.mem_cons, List.not_mem_nil, or_false] at hfixed
  rcases hfixed with rfl | rfl | rfl | rfl
  · exact ⟨.rulePatch, rfl, rfl⟩
  · exact ⟨.ruleTest, rfl, rfl⟩
  · exact ⟨.ruleSuspension, rfl, rfl⟩
  · exact ⟨.currentSite, rfl, rfl⟩

end Segments

/-! ## Requests -/

section Requests

variable {reserved : Char → Bool} {id : String}

theorem segmentOf_of_fixed (h : Encodes reserved)
    (hfixed : segmentOf reserved id ∈ fixedNames) : segmentOf reserved id = id := by
  have hplain : ∀ name ∈ fixedNames, '%' ∉ name.toList := by
    simp [fixedNames]
  have hread := decode?_segment h id
  rw [Percent.decode_of_not_mem (hplain _ hfixed), Utf8.decode?_encode] at hread
  exact String.toList_inj.mp (Option.some.inj hread)

def deletion (segment : String) (contentType : Option String) (body : String) : Request :=
  ⟨"DELETE", rulePath segment, contentType, body⟩

theorem handle_free (h : Encodes reserved) (hid : id ≠ "")
    (hfree : segmentOf reserved id ∉ fixedNames) (s : Service) (fresh : Fresh)
    (contentType : Option String) (body : String) :
    s.handle fresh (deletion (segmentOf reserved id) contentType body) =
      s.run fresh (.removeRule id) := by
  have hoperation : operation? "DELETE" (.rule (segmentOf reserved id).toList) =
      some (.command (.removeRule id)) := by
    show some (removal _) = _
    unfold removal
    rw [decode?_segment h id]
    dsimp only
    rw [String.ofList_toList]
  unfold Service.handle deletion
  rw [resource?_rule (isSegment_segmentOf h hid) hfree]
  dsimp only
  rw [hoperation]
  rfl

theorem handle_fixed (h : Encodes reserved) (hid : id ≠ "")
    (hfixed : segmentOf reserved id ∈ fixedNames) (s : Service) (fresh : Fresh)
    (contentType : Option String) (body : String) :
    s.handle fresh (deletion (segmentOf reserved id) contentType body) = (bare 405, s) := by
  rcases resource?_fixed (isSegment_segmentOf h hid) hfixed with ⟨r, hresource, hoperation⟩
  unfold Service.handle deletion
  rw [hresource]
  dsimp only
  rw [hoperation]
  rfl

end Requests

/-! ## Rules that are there -/

/--
Where the backends are in order, a rule that is stored can be deleted by its path,
and then the stored rules are the others.  The exception is a rule whose path is that
of a fixed name: the method is not allowed there, and nothing happens.
-/
theorem deletion_removes_one {store : Store} {interstitial : Url} {graceSeconds : Nat}
    {events : List Engine.Event} (hprimary : store.primaryDocument? = none)
    (hfallback : store.fallbackDocument? = none)
    (h : Engine.Untampered (Engine.start store interstitial graceSeconds) events)
    (hfresh : ∀ before o c rest, events = before ++ .command o c :: rest →
      c.Mints o ((Engine.start store interstitial graceSeconds).afterAll before) →
      o.Fresh ((Engine.start store interstitial graceSeconds).afterAll before).settings)
    {a : Actor} (hidle : a.Idle)
    (hengine : a.engine = (Engine.start store interstitial graceSeconds).afterAll events)
    (hworking : a.engine.Working) (hroom : a.engine.settings.rules.length ≤ Directive.idCount)
    {r : Rule} (hr : r ∈ a.engine.settings.rules) {reserved : Char → Bool}
    (hencodes : Encodes reserved) (fresh : Fresh) (contentType : Option String) (body : String) :
    let segment := segmentOf reserved r.id
    let answered := Service.handle (some a) fresh (deletion segment contentType body)
    (segment ∉ fixedNames → ∃ front back a', a.engine.settings.rules = front ++ r :: back ∧
      answered = (⟨200, true, some (.object [("ok", .bool true)])⟩, some a') ∧
      a'.engine.settings.rules = front ++ back ∧ a'.Idle) ∧
    (segment ∈ fixedNames → r.id = segment ∧ answered = (bare 405, some a)) := by
  intro segment answered
  have hvalid : a.engine.settings.Valid := by
    rw [hengine]
    exact (Engine.afterAll_sound hprimary hfallback h hfresh).valid
  have hid : r.id ≠ "" := by
    intro hempty
    have hblank := hvalid.ids r hr
    rw [hempty] at hblank
    cases hblank
  constructor
  · intro hfree
    rcases List.append_of_mem hr with ⟨front, back, hrules⟩
    rcases Engine.run_removeRule hworking hvalid hroom hrules
      ⟨a.now, fresh.ruleId, fresh.salt⟩ with ⟨hdone, hothers⟩
    rcases hidle.request fresh (.removeRule r.id) with ⟨hresult, hidle', hkept⟩
    refine ⟨front, back, (a.request fresh (.removeRule r.id)).2, hrules, ?_, ?_, hidle'⟩
    · have hrun := handle_free hencodes hid hfree (some a) fresh contentType body
      have hanswer : answer (a.request fresh (.removeRule r.id)).1 =
          ⟨200, true, some (.object [("ok", .bool true)])⟩ := by
        rw [hresult, hdone]
        rfl
      rw [← hanswer]
      exact hrun
    · rw [hkept]
      exact hothers
  · intro hfixed
    exact ⟨(segmentOf_of_fixed hencodes hfixed).symm,
      handle_fixed hencodes hid hfixed (some a) fresh contentType body⟩

/-! ## Samples -/

def atRest (e : Engine) : Actor :=
  ⟨e, Engine.dawn, 0, [], 1, [], [], 0⟩

theorem atRest_idle (e : Engine) : (atRest e).Idle :=
  ⟨rfl, rfl, Nat.one_pos⟩

def giving (id : String) : List Engine.Event :=
  [.command Engine.firstDawn (.addRule ⟨some id, "[::1]", none, none, false, none, none⟩)]

def given (id : String) : Engine :=
  Engine.emptied.afterAll (giving id)

def givenRule (id : String) : Rule :=
  ⟨id, "[::1]", .wildcard, .hard, false, none, none⟩

theorem giving_untampered (id : String) : Engine.Untampered Engine.emptied (giving id) :=
  .own .command .nil

theorem given_checked : ∀ id ∈ ["a b", "update"],
    (given id).settings.rules = [givenRule id] ∧
      ((given id).store.save (given id).settings).isOk = true ∧
      (given id).table.installed.isOk = true ∧ (given id).outage = Outage.none ∧
      (given id).table.refusesInsert = false ∧ (given id).table.refusesDelete = false := by
  decide +kernel

theorem given_working {id : String} (h : id ∈ ["a b", "update"]) : (given id).Working := by
  rcases given_checked id h with ⟨_, hsaved, hlisted, houtage, hinserts, hdeletes⟩
  exact ⟨houtage, eq_ok_of_isOk hsaved, eq_ok_of_isOk hlisted, hinserts, hdeletes⟩

theorem spaced_deleted :
    segmentOf inSegment "a b" = "a%20b" ∧ (given "a b").settings.rules = [givenRule "a b"] ∧
      ∃ a', Service.handle (some (atRest (given "a b"))) ⟨"", []⟩ (deletion "a%20b" none "") =
          (⟨200, true, some (.object [("ok", .bool true)])⟩, some a') ∧
        a'.engine.settings.rules = [] := by
  have hrules : (given "a b").settings.rules = [givenRule "a b"] :=
    (given_checked "a b" List.mem_cons_self).1
  have hfresh : ∀ before o c rest, giving "a b" = before ++ .command o c :: rest →
      c.Mints o (Engine.emptied.afterAll before) →
      o.Fresh (Engine.emptied.afterAll before).settings := by
    intro before o c rest hevents hmints
    rcases before with _ | ⟨first, before⟩
    · cases hevents
      cases hmints with
      | added hopen =>
          cases hopen
    · simp [giving] at hevents
  have hworking : (given "a b").Working :=
    given_working List.mem_cons_self
  have hsegment : segmentOf inSegment (givenRule "a b").id = "a%20b" := by
    decide +kernel
  generalize hgiven : given "a b" = e at hrules hworking ⊢
  have hroom : e.settings.rules.length ≤ Directive.idCount := by
    rw [hrules]
    decide
  have hmem : givenRule "a b" ∈ e.settings.rules := by
    rw [hrules]
    exact List.mem_singleton_self _
  rcases deletion_removes_one rfl rfl (giving_untampered "a b") hfresh (atRest_idle e) hgiven.symm
    hworking hroom hmem (fun _ => id) ⟨"", []⟩ none "" with ⟨hdeleted, _⟩
  rw [hsegment] at hdeleted
  rcases hdeleted (by decide) with ⟨front, back, a', hsplit, hanswer, hothers, _⟩
  have hnone : front ++ back = [] := by
    have hlength := congrArg List.length (hrules.symm.trans hsplit)
    apply List.eq_nil_of_length_eq_zero
    simp only [List.length_append, List.length_cons, List.length_nil] at hlength ⊢
    omega
  exact ⟨hsegment, hrules, a', hanswer, hothers.trans hnone⟩

/-- A rule may be called `update`, and its path then leads elsewhere. -/
theorem update_not_deleted :
    Engine.Untampered Engine.emptied (giving "update") ∧ (atRest (given "update")).Idle ∧
      (given "update").Working ∧ (given "update").settings.rules = [givenRule "update"] ∧
      segmentOf inSegment "update" = "update" ∧
      Service.handle (some (atRest (given "update"))) ⟨"", []⟩ (deletion "update" none "") =
        (bare 405, some (atRest (given "update"))) := by
  have hid : "update" ∈ ["a b", "update"] := by
    decide
  have hsegment : segmentOf inSegment "update" = "update" := by
    decide +kernel
  have hfixed : segmentOf inSegment "update" ∈ fixedNames := by
    rw [hsegment]
    exact List.mem_cons_self
  have hrefused := handle_fixed (fun _ => id) (by decide) hfixed (some (atRest (given "update")))
    ⟨"", []⟩ none ""
  rw [hsegment] at hrefused
  exact ⟨giving_untampered _, atRest_idle _, given_working hid, (given_checked _ hid).1, hsegment,
    hrefused⟩

end Http
end SiteGuard

import Mathlib.Data.Set.List
import SiteGuard.Proofs.Directive.Table

/-!
# Changes as transactions

A change of a table is a run of statements, first the deletions and then the
insertions, any of which may fail.  They work on what the transaction holds, so when
one fails the table is still what it was.  When none does, the table lists what was
added, and of what it listed before that which was neither removed nor added.
-/

namespace SiteGuard
namespace DirectiveTable

/-! ## Statements -/

/-- One statement of a change; a row that is inserted takes the place of one of its number. -/
inductive Statement where
  | delete (id : UInt32)
  | insert (d : Directive)

namespace Statement

/-- What a statement makes of a table, unless it fails. -/
def effect : Statement → DirectiveTable → DirectiveTable
  | delete id, t => t.erase [id]
  | insert d, t => t.put (keyOf d.id) (.ok d)

/-- Whether a table refuses a statement; a deletion is refused only if it meets a row. -/
def isRefused : Statement → DirectiveTable → Bool
  | delete id, t => t.refusesDelete && t.deletesRow [id]
  | insert _, t => t.refusesInsert

def failure : Statement → Failure
  | delete _ => .interception .deletionRefused
  | insert _ => .interception .insertionRefused

end Statement

def statements (remove : List UInt32) (add : List Directive) : List Statement :=
  remove.map Statement.delete ++ add.map Statement.insert

/-- What statements make of a table, if none of them fails. -/
def afterStatements (t : DirectiveTable) (ss : List Statement) : DirectiveTable :=
  ss.foldl (fun t s => s.effect t) t

/-- Which statements fail, told by their place, by themselves and by what they work on. -/
abbrev Fault : Type :=
  Nat → Statement → DirectiveTable → Bool

/-- The failures that a table brings about itself. -/
def refusals : Fault :=
  fun _ s t => s.isRefused t

/-! ## Transactions -/

/-- What a table is while statements run, and what it will be if all of them do. -/
structure Transaction where
  stored : DirectiveTable
  current : DirectiveTable

namespace Transaction

def execute (x : Transaction) (s : Statement) : Transaction :=
  { x with current := s.effect x.current }

def executeAll (fails : Fault) : Nat → List Statement → Transaction →
    Option Statement × Transaction
  | _, [], x => (none, x)
  | n, s :: rest, x =>
    if fails n s x.current then (some s, x) else executeAll fails (n + 1) rest (x.execute s)

/-- Commits what the statements have made, or rolls it back where one has failed. -/
def closed (x : Transaction) : Option Statement → Except Failure Unit × DirectiveTable
  | none => (.ok (), x.current)
  | some s => (.error s.failure, x.stored)

end Transaction

/-- A change under failures: whether it went through, and the table that there is then. -/
def change (t : DirectiveTable) (fails : Fault) (remove : List UInt32) (add : List Directive) :
    Except Failure Unit × DirectiveTable :=
  match repeated? [] (add.map (·.id)) with
  | some id => (.error (.interception (.duplicateId id)), t)
  | none =>
    if !t.present then (.error (.interception .noTable), t)
    else
      let (failed, x) := Transaction.executeAll fails 0 (statements remove add) ⟨t, t⟩
      x.closed failed

namespace Transaction

variable {fails : Fault} {n : Nat} {ss : List Statement} {x : Transaction}

theorem executeAll_of_fails {s : Statement} (h : fails n s x.current = true) :
    executeAll fails n (s :: ss) x = (some s, x) :=
  if_pos h

theorem executeAll_of_not_fails {s : Statement} (h : fails n s x.current = false) :
    executeAll fails n (s :: ss) x = executeAll fails (n + 1) ss (x.execute s) :=
  if_neg (ne_true_of_eq_false h)

theorem executeAll_stored (fails : Fault) (n : Nat) (ss : List Statement) (x : Transaction) :
    (executeAll fails n ss x).2.stored = x.stored := by
  induction ss generalizing n x with
  | nil =>
      rfl
  | cons s rest ih =>
      unfold executeAll
      split
      · rfl
      · exact ih (n + 1) (x.execute s)

theorem executeAll_current (h : (executeAll fails n ss x).1 = none) :
    (executeAll fails n ss x).2.current = x.current.afterStatements ss := by
  induction ss generalizing n x with
  | nil =>
      rfl
  | cons s rest ih =>
      unfold executeAll at h ⊢
      split
      · rename_i hfails
        rw [if_pos hfails] at h
        cases h
      · rename_i hfails
        rw [if_neg hfails] at h
        exact ih h

theorem executeAll_ne_none_iff :
    (executeAll fails n ss x).1 ≠ none ↔
      ∃ front s back, ss = front ++ s :: back ∧
        fails (n + front.length) s (x.current.afterStatements front) = true := by
  induction ss generalizing n x with
  | nil =>
      simp [executeAll]
  | cons s rest ih =>
      unfold executeAll
      split
      · rename_i hfails
        exact iff_of_true (Option.some_ne_none s) ⟨[], s, rest, rfl, hfails⟩
      · rename_i hfails
        rw [ih]
        constructor
        · intro h
          rcases h with ⟨front, s', back, hrest, hlater⟩
          refine ⟨s :: front, s', back, congrArg (List.cons s) hrest, ?_⟩
          rw [List.length_cons, Nat.add_comm front.length, ← Nat.add_assoc]
          exact hlater
        · intro h
          rcases h with ⟨front, s', back, hcons, hlater⟩
          cases front with
          | nil =>
              injection hcons with hs _
              rw [← hs] at hlater
              exact absurd hlater hfails
          | cons first front =>
              injection hcons with hs hrest
              subst hs
              refine ⟨front, s', back, hrest, ?_⟩
              rw [List.length_cons, Nat.add_comm front.length, ← Nat.add_assoc] at hlater
              exact hlater

end Transaction

/-! ## What statements make -/

theorem erase_nil (t : DirectiveTable) : t.erase [] = t := by
  have hrows : (t.erase []).rows = t.rows := by
    apply SortedMap.ext_mem
    intro e
    rw [mem_erase]
    exact and_iff_left fun id hid => absurd hid List.not_mem_nil
  calc t.erase [] = { t with rows := (t.erase []).rows } := rfl
    _ = t := by rw [hrows]

theorem erase_erase (t : DirectiveTable) (id : UInt32) (ids : List UInt32) :
    (t.erase [id]).erase ids = t.erase (id :: ids) := by
  have hrows : ((t.erase [id]).erase ids).rows = (t.erase (id :: ids)).rows := by
    apply SortedMap.ext_mem
    intro e
    rw [mem_erase, mem_erase, mem_erase, List.forall_mem_singleton, List.forall_mem_cons,
      and_assoc]
  calc (t.erase [id]).erase ids = { t with rows := ((t.erase [id]).erase ids).rows } := rfl
    _ = t.erase (id :: ids) := by rw [hrows]; rfl

theorem afterStatements_deletes (t : DirectiveTable) (ids : List UInt32) (rest : List Statement) :
    t.afterStatements (ids.map Statement.delete ++ rest) =
      (t.erase ids).afterStatements rest := by
  induction ids generalizing t with
  | nil =>
      rw [erase_nil]
      rfl
  | cons id ids ih =>
      rw [← erase_erase]
      exact ih (t.erase [id])

theorem afterStatements_inserts (t : DirectiveTable) (ds : List Directive) :
    t.afterStatements (ds.map Statement.insert) = t.filled ds :=
  List.foldl_map

theorem afterStatements_statements (t : DirectiveTable) (remove : List UInt32)
    (add : List Directive) :
    t.afterStatements (statements remove add) = (t.erase remove).filled add := by
  unfold statements
  rw [afterStatements_deletes, afterStatements_inserts]

/-! ## Outcomes -/

section Outcomes

variable {t : DirectiveTable} {fails : Fault} {remove : List UInt32} {add : List Directive}

def Strikes (fails : Fault) (t : DirectiveTable) (ss : List Statement) : Prop :=
  ∃ front s back, ss = front ++ s :: back ∧
    fails front.length s (t.afterStatements front) = true

theorem executeAll_statements_ne_none_iff {ss : List Statement} :
    (Transaction.executeAll fails 0 ss ⟨t, t⟩).1 ≠ none ↔ Strikes fails t ss := by
  rw [Transaction.executeAll_ne_none_iff]
  simp only [Nat.zero_add]
  rfl

/-- What a change comes to where the table is there and no number is added twice. -/
theorem change_eq (hpresent : t.present = true) (hnodup : (add.map (·.id)).Nodup) :
    t.change fails remove add =
      match ((Transaction.executeAll fails 0 (statements remove add) ⟨t, t⟩).1).map
        Statement.failure with
      | none => (.ok (), (t.erase remove).filled add)
      | some f => (.error f, t) := by
  unfold change
  simp only [repeated?_nil hnodup, hpresent, Bool.not_true, Bool.false_eq_true, if_false]
  cases hfailed : (Transaction.executeAll fails 0 (statements remove add) ⟨t, t⟩).1 with
  | none =>
      simp only [Option.map_none, Transaction.closed]
      rw [Transaction.executeAll_current hfailed, afterStatements_statements]
  | some s =>
      simp only [Option.map_some, Transaction.closed]
      rw [Transaction.executeAll_stored]

theorem change_of_repeated (hrepeated : ¬(add.map (·.id)).Nodup) :
    ∃ id, t.change fails remove add = (.error (.interception (.duplicateId id)), t) := by
  unfold change
  cases hid : repeated? [] (add.map (·.id)) with
  | none =>
      exact absurd (repeated?_eq_none_iff.mp hid).1 hrepeated
  | some id =>
      exact ⟨id, rfl⟩

theorem change_of_missing (hpresent : t.present = false) :
    ∃ f, t.change fails remove add = (.error f, t) := by
  unfold change
  rw [hpresent]
  cases repeated? [] (add.map (·.id)) with
  | none =>
      exact ⟨_, rfl⟩
  | some id =>
      exact ⟨_, rfl⟩

def Prevented (fails : Fault) (t : DirectiveTable) (remove : List UInt32)
    (add : List Directive) : Prop :=
  t.present = false ∨ ¬(add.map (·.id)).Nodup ∨ Strikes fails t (statements remove add)

/-- A change fails and leaves the table as it is, or it goes through as a whole. -/
theorem change_cases (t : DirectiveTable) (fails : Fault) (remove : List UInt32)
    (add : List Directive) :
    (Prevented fails t remove add ∧ ∃ f, t.change fails remove add = (.error f, t)) ∨
      (¬Prevented fails t remove add ∧
        t.change fails remove add = (.ok (), (t.erase remove).filled add)) := by
  unfold Prevented
  cases hpresent : t.present with
  | false =>
      exact Or.inl ⟨Or.inl rfl, change_of_missing hpresent⟩
  | true =>
      by_cases hnodup : (add.map (·.id)).Nodup
      · rw [change_eq hpresent hnodup, ← executeAll_statements_ne_none_iff]
        cases (Transaction.executeAll fails 0 (statements remove add) ⟨t, t⟩).1 with
        | none =>
            simp [hnodup]
        | some s =>
            exact Or.inl ⟨Or.inr (Or.inr (Option.some_ne_none s)), _, rfl⟩
      · rcases change_of_repeated hnodup with ⟨id, hchange⟩
        exact Or.inl ⟨Or.inr (Or.inl hnodup), _, hchange⟩

theorem change_failed {f : Failure} (h : (t.change fails remove add).1 = .error f) :
    (t.change fails remove add).2 = t := by
  rcases change_cases t fails remove add with ⟨_, f', hfailed⟩ | ⟨_, hdone⟩
  · rw [hfailed]
  · rw [hdone] at h
    cases h

theorem change_error_iff :
    (∃ f, (t.change fails remove add).1 = .error f) ↔ Prevented fails t remove add := by
  rcases change_cases t fails remove add with ⟨hprevented, f, hfailed⟩ | ⟨hfree, hdone⟩
  · rw [hfailed]
    exact iff_of_true ⟨f, rfl⟩ hprevented
  · rw [hdone]
    refine iff_of_false ?_ hfree
    intro h
    rcases h with ⟨f, hf⟩
    cases hf

theorem change_done (h : (t.change fails remove add).1 = .ok ()) :
    (add.map (·.id)).Nodup ∧ (t.change fails remove add).2 = (t.erase remove).filled add := by
  rcases change_cases t fails remove add with ⟨_, f, hfailed⟩ | ⟨hfree, hdone⟩
  · rw [hfailed] at h
    cases h
  · rw [hdone]
    exact ⟨not_not.mp fun hrepeated => hfree (Or.inr (Or.inl hrepeated)), rfl⟩

end Outcomes

/-! ## Refusals of the table itself -/

theorem deletesRow_iff {t : DirectiveTable} {ids : List UInt32} :
    t.deletesRow ids = true ↔ ∃ e ∈ t.rows.entries, ∃ id ∈ ids, e.1 = keyOf id := by
  unfold deletesRow names SortedMap.keys
  simp only [List.any_eq_true, List.mem_map, beq_iff_eq, exists_exists_and_eq_and,
    eq_comm (a := keyOf _)]

theorem deletesRow_nil (t : DirectiveTable) : t.deletesRow [] = false :=
  List.any_eq_false.mpr fun _ _ => Bool.false_ne_true

/-- A row that is deleted meets the first number or is still there for the others. -/
theorem deletesRow_cons (t : DirectiveTable) (id : UInt32) (ids : List UInt32) :
    t.deletesRow (id :: ids) = (t.deletesRow [id] || (t.erase [id]).deletesRow ids) := by
  rw [Bool.eq_iff_iff, Bool.or_eq_true, deletesRow_iff, deletesRow_iff, deletesRow_iff]
  constructor
  · intro h
    rcases h with ⟨e, he, other, hother, hkey⟩
    by_cases hfirst : e.1 = keyOf id
    · exact Or.inl ⟨e, he, id, List.mem_singleton_self id, hfirst⟩
    · have hlater : other ∈ ids := by
        rcases List.mem_cons.mp hother with rfl | hlater
        · exact absurd hkey hfirst
        · exact hlater
      have hstays : e ∈ (t.erase [id]).rows.entries :=
        mem_erase.mpr ⟨he, List.forall_mem_singleton.mpr hfirst⟩
      exact Or.inr ⟨e, hstays, other, hlater, hkey⟩
  · intro h
    rcases h with ⟨e, he, other, hother, hkey⟩ | ⟨e, he, other, hother, hkey⟩
    · rw [List.mem_singleton.mp hother] at hkey
      exact ⟨e, he, id, List.mem_cons_self, hkey⟩
    · exact ⟨e, (mem_erase.mp he).1, other, List.mem_cons_of_mem id hother, hkey⟩

namespace Transaction

theorem executeAll_deletes (n : Nat) (ids : List UInt32) (rest : List Statement)
    (x : Transaction) :
    (executeAll refusals n (ids.map Statement.delete ++ rest) x).1.map Statement.failure =
      if x.current.refusesDelete && x.current.deletesRow ids then
        some (.interception .deletionRefused)
      else
        (executeAll refusals (n + ids.length) rest ⟨x.stored, x.current.erase ids⟩).1.map
          Statement.failure := by
  induction ids generalizing n x with
  | nil =>
      rw [deletesRow_nil, erase_nil, Bool.and_false, if_neg Bool.false_ne_true]
      rfl
  | cons id ids ih =>
      have hlater := ih (n + 1) (x.execute (.delete id))
      have hplace : n + 1 + ids.length = n + (id :: ids).length := by
        rw [List.length_cons, Nat.add_comm ids.length, Nat.add_assoc]
      have htable : (x.execute (.delete id)).current.erase ids = x.current.erase (id :: ids) :=
        erase_erase x.current id ids
      rw [hplace, htable] at hlater
      rw [List.map_cons, List.cons_append, deletesRow_cons, Bool.and_or_distrib_left]
      cases hmet : x.current.refusesDelete && x.current.deletesRow [id] with
      | true =>
          rw [Bool.true_or, if_pos rfl, executeAll_of_fails hmet]
          rfl
      | false =>
          rw [Bool.false_or, executeAll_of_not_fails hmet]
          exact hlater

theorem executeAll_inserts (n : Nat) (ds : List Directive) (x : Transaction) :
    (executeAll refusals n (ds.map Statement.insert) x).1.map Statement.failure =
      if x.current.refusesInsert && !ds.isEmpty then some (.interception .insertionRefused)
      else none := by
  induction ds generalizing n x with
  | nil =>
      rw [List.isEmpty_nil, Bool.not_true, Bool.and_false]
      rfl
  | cons d rest ih =>
      have hlater := ih (n + 1) (x.execute (.insert d))
      rw [List.map_cons, List.isEmpty_cons, Bool.not_false, Bool.and_true]
      cases hrefuses : x.current.refusesInsert with
      | true =>
          rw [if_pos rfl, executeAll_of_fails hrefuses]
          rfl
      | false =>
          have hsame : (x.execute (.insert d)).current.refusesInsert = false := hrefuses
          rw [hsame, Bool.false_and] at hlater
          rw [executeAll_of_not_fails hrefuses]
          exact hlater

theorem executeAll_statements (t : DirectiveTable) (remove : List UInt32)
    (add : List Directive) :
    (executeAll refusals 0 (statements remove add) ⟨t, t⟩).1.map Statement.failure =
      if t.refusesDelete && t.deletesRow remove then some (.interception .deletionRefused)
      else if t.refusesInsert && !add.isEmpty then some (.interception .insertionRefused)
      else none := by
  unfold statements
  rw [executeAll_deletes, executeAll_inserts]
  rfl

end Transaction

/-- Statement by statement, a table changes as it does at once. -/
theorem change_refusals (t : DirectiveTable) (remove : List UInt32) (add : List Directive) :
    t.change refusals remove add =
      ((t.replace remove add).map (fun _ => ()), (t.replace remove add).toOption.getD t) := by
  by_cases hnodup : (add.map (·.id)).Nodup
  · cases hpresent : t.present with
    | false =>
        unfold change replace refusal?
        rw [repeated?_nil hnodup, hpresent]
        rfl
    | true =>
        rw [change_eq hpresent hnodup, Transaction.executeAll_statements]
        unfold replace refusal?
        rw [repeated?_nil hnodup, hpresent]
        cases t.refusesDelete && t.deletesRow remove with
        | true =>
            rfl
        | false =>
            cases t.refusesInsert && !add.isEmpty with
            | true =>
                rfl
            | false =>
                rfl
  · unfold change replace
    cases hid : repeated? [] (add.map (·.id)) with
    | none =>
        exact absurd (repeated?_eq_none_iff.mp hid).1 hnodup
    | some id =>
        rfl

/-! ## Tables that changes have written -/

/-- Tables whose rows all come from changes, whatever fails and is refused meanwhile. -/
inductive Written : DirectiveTable → Prop where
  | empty : Written empty
  | refusing {t : DirectiveTable} (insertions deletions : Bool) (h : t.Written) :
      Written { t with refusesInsert := insertions, refusesDelete := deletions }
  | changed {t : DirectiveTable} (fails : Fault) (remove : List UInt32) (add : List Directive)
      (h : t.Written) : Written (t.change fails remove add).2

theorem erase_filled_present (t : DirectiveTable) (remove : List UInt32)
    (add : List Directive) : ((t.erase remove).filled add).present = t.present := by
  rw [filled_eq]
  rfl

theorem Written.present {t : DirectiveTable} (hwritten : t.Written) : t.present = true := by
  induction hwritten with
  | empty =>
      rfl
  | refusing insertions deletions h ih =>
      exact ih
  | @changed t fails remove add h ih =>
      cases hresult : (t.change fails remove add).1 with
      | error f =>
          rw [change_failed hresult]
          exact ih
      | ok _ =>
          rw [(change_done hresult).2]
          exact (erase_filled_present t remove add).trans ih

theorem Written.exists_rowOf {t : DirectiveTable} (hwritten : t.Written) :
    ∀ e ∈ t.rows.entries, ∃ d, rowOf d = e := by
  induction hwritten with
  | empty =>
      intro e he
      cases he
  | refusing insertions deletions h ih =>
      exact ih
  | @changed t fails remove add h ih =>
      cases hresult : (t.change fails remove add).1 with
      | error f =>
          rw [change_failed hresult]
          exact ih
      | ok _ =>
          rcases change_done hresult with ⟨hnodup, htable⟩
          rw [htable]
          intro e he
          rcases (mem_erase_filled hnodup).mp he with ⟨d, _, hrow⟩ | ⟨hold, _⟩
          · exact ⟨d, hrow.symm⟩
          · exact ih e hold

theorem Written.exists_entries {t : DirectiveTable} (hwritten : t.Written) :
    ∃ ds : List Directive, t.rows.entries = ds.map rowOf := by
  have hrange : t.rows.entries ∈ Set.range (List.map rowOf) := by
    rw [Set.range_list_map]
    exact hwritten.exists_rowOf
  rcases hrange with ⟨ds, hrows⟩
  exact ⟨ds, hrows.symm⟩

theorem mem_rows_iff {t : DirectiveTable} {ds : List Directive}
    (hrows : t.rows.entries = ds.map rowOf) {d : Directive} :
    rowOf d ∈ t.rows.entries ↔ d ∈ ds := by
  rw [hrows]
  exact List.mem_map_of_injective rowOf_injective

theorem rowOf_mem_erase_filled {t : DirectiveTable} {remove : List UInt32}
    {add : List Directive} (hnodup : (add.map (·.id)).Nodup) {d : Directive} :
    rowOf d ∈ ((t.erase remove).filled add).rows.entries ↔
      d ∈ add ∨ (rowOf d ∈ t.rows.entries ∧ d.id ∉ remove ∧ d.id ∉ add.map (·.id)) := by
  have hkey : ∀ id, (rowOf d).1 ≠ keyOf id ↔ d.id ≠ id := fun id => not_congr keyOf_inj
  have hremoved : (∀ id ∈ remove, (rowOf d).1 ≠ keyOf id) ↔ d.id ∉ remove := by
    simp only [hkey, ← List.forall_mem_ne]
  have hreplaced : (∀ d' ∈ add, (rowOf d).1 ≠ keyOf d'.id) ↔ d.id ∉ add.map (·.id) := by
    simp only [hkey, ← List.forall_mem_ne, List.forall_mem_map]
  rw [mem_erase_filled hnodup, hremoved, hreplaced]
  simp only [rowOf_injective.eq_iff, exists_eq_right']

theorem Written.change_exact {t : DirectiveTable} {fails : Fault} {remove : List UInt32}
    {add : List Directive} (hwritten : t.Written)
    (hdone : (t.change fails remove add).1 = .ok ()) :
    ∃ before after, t.installed = .ok before ∧
      (t.change fails remove add).2.installed = .ok after ∧
      (after.Pairwise fun a b => a.id < b.id) ∧
      ∀ d, d ∈ after ↔
        d ∈ add ∨ (d ∈ before ∧ d.id ∉ remove ∧ d.id ∉ add.map (·.id)) := by
  have hwritten' : (t.change fails remove add).2.Written := hwritten.changed fails remove add
  rcases hwritten.exists_entries with ⟨before, hbefore⟩
  rcases hwritten'.exists_entries with ⟨after, hafter⟩
  rcases change_done hdone with ⟨hnodup, htable⟩
  refine ⟨before, after, installed_of_entries hwritten.present hbefore,
    installed_of_entries hwritten'.present hafter, pairwise_of_entries hafter, ?_⟩
  intro d
  rw [← mem_rows_iff hafter, htable, rowOf_mem_erase_filled hnodup, mem_rows_iff hbefore]

/-! ## Atomicity -/

/--
Whatever statement fails, a change leaves the table as it is, or it is done exactly.
Where nothing fails but what the table refuses, it is the replacement at once.
-/
theorem change_all_or_nothing (t : DirectiveTable) (fails : Fault) (remove : List UInt32)
    (add : List Directive) :
    (∀ f, (t.change fails remove add).1 = .error f → (t.change fails remove add).2 = t) ∧
      ((∃ f, (t.change fails remove add).1 = .error f) ↔
        t.present = false ∨ ¬(add.map (·.id)).Nodup ∨ Strikes fails t (statements remove add)) ∧
      (t.Written → (t.change fails remove add).1 = .ok () →
        ∃ before after, t.installed = .ok before ∧
          (t.change fails remove add).2.installed = .ok after ∧
          (after.Pairwise fun a b => a.id < b.id) ∧
          ∀ d, d ∈ after ↔
            d ∈ add ∨ (d ∈ before ∧ d.id ∉ remove ∧ d.id ∉ add.map (·.id))) ∧
      t.change refusals remove add =
        ((t.replace remove add).map (fun _ => ()), (t.replace remove add).toOption.getD t) :=
  ⟨fun _ => change_failed, change_error_iff, Written.change_exact,
    change_refusals t remove add⟩

def allowing (id priority : UInt32) : Directive :=
  ⟨id, priority, .allow, ⟨none, none, [.mainFrame]⟩⟩

def pair : DirectiveTable :=
  (empty.change refusals [] [allowing 1002 5, allowing 1001 5]).2

theorem pair_written : pair.Written :=
  Written.empty.changed refusals [] _

def renewed : List Directive :=
  [allowing 1001 9, allowing 1003 5]

def lateFault : Fault :=
  fun place _ _ => place == 4

/-- Numbers are removed twice and in vain, and a directive is added in place of another. -/
theorem pair_all_or_nothing :
    (pair.change lateFault [1002, 1002, 1009] renewed).2 = pair ∧
      ∃ after, (pair.change refusals [1002, 1002, 1009] renewed).2.installed = .ok after ∧
        (after.Pairwise fun a b => a.id < b.id) ∧
        allowing 1001 9 ∈ after ∧ allowing 1001 5 ∉ after ∧ allowing 1002 5 ∉ after := by
  constructor
  · have hfails := change_all_or_nothing pair lateFault [1002, 1002, 1009] renewed
    exact hfails.1 (.interception .insertionRefused) rfl
  · have hdone := change_all_or_nothing pair refusals [1002, 1002, 1009] renewed
    rcases hdone.2.2.1 pair_written rfl with ⟨before, after, _, hafter, hsorted, hmem⟩
    refine ⟨after, hafter, hsorted, ?_, ?_, ?_⟩
    · exact (hmem _).mpr (Or.inl List.mem_cons_self)
    · rw [hmem]
      simp [renewed, allowing]
    · rw [hmem]
      simp [renewed, allowing]

end DirectiveTable
end SiteGuard

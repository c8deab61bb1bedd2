import PropertyGraph.Engine.Query
import PropertyGraph.Proofs.Query.Reordering
import PropertyGraph.Proofs.Store.Extension
import PropertyGraph.Proofs.Transaction.Atomicity
import PropertyGraph.Proofs.Transaction.Preservation

/-!
# Queries after a rollback

A commit that fails and is rolled back gives a store its elements back, but what it removed and put
back comes last in the lists of the store.  So a query may find its rows in another order, and a limit
may keep other rows (`rollback_reorders`).

Queries see nothing of the transaction where nothing of the store was removed: the store extends what
it was all along (`Applied.extends`).  They see nothing either where they read no list.  Otherwise they
find the same rows in some order, unless they pick rows by their places or an expansion comes up to its
limit.  `queries_after_rollback` puts these together.
-/

namespace PropertyGraph

section AnyEngine

variable {ρ : Type} [RegexEngine ρ]

variable {s₀ s s' : Store} {m : Mutation} {done : List LogEntry}

/-! ### Reachable stores -/

theorem Store.keptByGrowth_reachable : Store.KeptByGrowth Store.Reachable where
  addNode := .addNode
  updateNode := .updateNode
  addEdge := .addEdge
  updateEdge := .updateEdge

theorem Mutation.Changes.reachable (h : m.Changes s s') (hs : s.Reachable) : s'.Reachable :=
  h.preserves Store.keptByGrowth_reachable hs (fun id _ => hs.removeNode id)
    fun key _ => hs.removeEdge key

theorem Mutation.removedKeeping_reachable (m : Mutation) : m.RemovedKeeping Store.Reachable where
  node _ hs := hs.removeNode _
  edge _ hs := hs.removeEdge _

/-! ### Extensions -/

/-- The mutation removes a node or an edge that the store has. -/
def Mutation.Removes (s : Store) : Mutation → Prop
  | .removeNode id => s.hasNode id
  | .removeEdge key => s.hasEdge key
  | _ => False

theorem Store.keptByGrowth_extends (s₀ : Store) : Store.KeptByGrowth s₀.Extends where
  addNode hs hadd := hs.addNode hadd
  updateNode hs hupd := hs.updateNode hupd
  addEdge hs hadd := hs.addEdge hadd
  updateEdge hs hupd := hs.updateEdge hupd

theorem Mutation.Changes.extends (h : m.Changes s s') (hs₀ : s₀.WellFormed) (hs : s₀.Extends s)
    (hm : ¬ m.Removes s₀) : s₀.Extends s' := by
  refine h.preserves s₀.keptByGrowth_extends hs (fun id hid => ?_) fun key hkey => ?_
  · rw [hid] at hm
    exact hs.removeNode hs₀ (Bool.eq_false_iff.mpr hm)
  · rw [hkey] at hm
    exact hs.removeEdge (Bool.eq_false_iff.mpr hm)

/-- What a mutation of an extension creates is not in the store. -/
theorem Mutation.Changes.removedKeeping_extends (h : m.Changes s s') (hs₀ : s₀.WellFormed)
    (hs : s₀.Extends s) : m.RemovedKeeping s₀.Extends := by
  refine ⟨fun {id s'} hid hs' => hs'.removeNode hs₀ ?_, fun {key s'} hkey hs' => hs'.removeEdge ?_⟩
  · cases m with
    | addNode n =>
      obtain rfl := Option.some.inj hid
      exact hs.node_free (Store.addNode_spec h).1
    | _ => cases hid
  · cases m with
    | addEdge e =>
      obtain rfl := Option.some.inj hkey
      exact hs.edge_free (Store.addEdge_spec h).2.2.1
    | _ => cases hkey

/-- Entries that remove nothing of a store make an extension of it. -/
theorem Applied.extends (h : Applied s₀ done s) (hs₀ : s₀.Reachable)
    (hdone : ∀ entry ∈ done, ¬ entry.mutation.Removes s₀) :
    s₀.Extends s ∧ ∀ entry ∈ done, entry.mutation.RemovedKeeping s₀.Extends := by
  induction h with
  | nil => exact ⟨.refl hs₀, fun _ hmem => (List.not_mem_nil hmem).elim⟩
  | @snoc done entry s s' _ hchange ih =>
    obtain ⟨hs, hcreated⟩ := ih fun entry hmem => hdone entry (List.mem_append_left _ hmem)
    have hentry := hdone entry (List.mem_append_right _ List.mem_cons_self)
    refine ⟨hchange.extends hs₀.wellFormed hs hentry, fun entry' hmem => ?_⟩
    -- what an entry creates was not there before it, and so it is not in the store
    rcases List.mem_append.mp hmem with hmem | hmem
    · exact hcreated entry' hmem
    · obtain rfl := List.mem_singleton.mp hmem
      exact hchange.removedKeeping_extends hs₀.wellFormed hs

/-! ### Rolled back commits -/

namespace Transaction

variable {t t' : Transaction} {fault : Error}

/-- The store behind a commit that failed and was rolled back.  It has the elements of the store
before, perhaps in another order, and in the same one if nothing of that store was removed. -/
theorem Gathering.rolledBack (hs : s.Reachable) (hnull : s.NullFree) (ht : t.Gathering s)
    (hauto : t.config.autoRollback = true)
    (hfail : t.commit Store.backend s = (.error fault, t', s')) :
    ∃ place < t.log.length, (∃ operation cause, fault = .mutationFailed place operation cause) ∧
      s.Rearranged s' ∧
      ((∀ entry ∈ t.log.take place, ¬ entry.mutation.Removes s) → s'.view = s.view) := by
  obtain ⟨-, -, habort, -, hrolled⟩ :=
    commit_error_spec Store.backend_keeps hs.wellFormed hnull ht hfail
  have hsame : s'.SameElements s := habort.sameElements (hrolled trivial hauto).1
  obtain ⟨place, w, hrun, rfl⟩ := commit_undone ht.requirePending hauto hfail
  have happly := applyFrom_spec Store.backend_keeps t.log (s := s) (@Applied.nil s)
  rw [List.nil_append, List.length_nil, hrun] at happly
  obtain ⟨-, -, happlied, hfault⟩ := happly
  obtain ⟨hlt, hnamed⟩ := hfault fault rfl
  -- the store stays reachable on the way there and back, and an extension where nothing is removed
  have hs' : (undoEach Store.backend (t.log.take place).reverse w).2.2.Reachable :=
    undoEach_applied_preserves Store.keptByGrowth_reachable happlied hs
      (fun _ _ _ _ hs hchange => hchange.reachable hs)
      fun entry _ => entry.mutation.removedKeeping_reachable
  refine ⟨place, hlt, hnamed, ⟨hs, hs', hsame⟩, fun hkept => ?_⟩
  obtain ⟨-, hcreated⟩ := happlied.extends hs hkept
  have hextends : s.Extends (undoEach Store.backend (t.log.take place).reverse w).2.2 :=
    undoEach_applied_preserves s.keptByGrowth_extends happlied (.refl hs)
      (fun entry hmem _ _ hs₁ hchange => hchange.extends hs.wellFormed hs₁ (hkept entry hmem))
      hcreated
  exact hextends.view_eq hs'.wellLabelled hsame.1 hsame.2

/-! ### Two people -/

def people : List Node := [⟨"a", ["Person"], .empty⟩, ⟨"b", ["Person"], .empty⟩]

def acquaintances : List Edge := [⟨"a", "b", "knows", .empty⟩, ⟨"b", "a", "knows", .empty⟩]

/-- Two people who know each other. -/
def circle : Store := (Store.ofElements people acquaintances).toOption.getD .empty

theorem reachable_circle : circle.Reachable :=
  Store.reachable_ofElements (show Store.ofElements people acquaintances = .ok circle from rfl)

theorem nullFree_circle : circle.NullFree := Store.nullFree_of_entries (by decide) (by decide)

/-- A transaction that is asked for mutations of the circle. -/
def attempt (calls : List Mutation) : Transaction :=
  (enqueueAll Store.backend calls (begin { id := "t" } 0).2 circle).1

/-- The store behind the commit of these mutations. -/
def circleAfter (calls : List Mutation) : Store := ((attempt calls).commit Store.backend circle).2.2

/-- A node is added, and then one whose id is taken. -/
def additionThenClash : List Mutation :=
  [.addNode ⟨"c", ["Person"], .empty⟩, .addNode ⟨"b", [], .empty⟩]

/-- A node is removed, and then one is added whose id is taken. -/
def removalThenClash : List Mutation := [.removeNode "a", .addNode ⟨"b", [], .empty⟩]

def everybody : Json := .object [("select", .string "*")]

def firstPerson : Json := .object [("select", .string "label:Person"), ("limit", .ofNat 1)]

/-- Whom people know. -/
def known : Json :=
  .object [("select", .string "label:Person"), ("traverse", .object [("type", .string "knows")])]

theorem attempt_fails (calls : List Mutation)
    (hfails : ((attempt calls).commit Store.backend circle).1.toBool = false) :
    enqueueAll Store.backend calls (begin { id := "t" } 0).2 circle = (attempt calls, circle) ∧
      ∃ fault t',
        (attempt calls).commit Store.backend circle = (.error fault, t', circleAfter calls) := by
  have hsame := (((justBegun_begin "t" {} [] 0).gathering circle).enqueueAll (v := circle)
    Store.backend_keeps calls).2
  refine ⟨Prod.ext rfl hsame, ?_⟩
  unfold circleAfter
  rcases hcommit : (attempt calls).commit Store.backend circle with ⟨fault | result, t', s'⟩
  · exact ⟨fault, t', rfl⟩
  · rw [hcommit] at hfails
    cases hfails

/-! ### Queries -/

/-- **Queries after a rollback.**  Let a transaction that has just begun be asked for any mutations of
a store without nulls, and let its commit fail and be rolled back at once.  A query answers as before
the transaction, with the same rows in the same order, if no mutation that was applied removed a node or
an edge of the store, or if the plan of the query reads neither the nodes of a label nor the edges at a
node.  A plan without a limit and without aggregates other than counts, none of whose expansions comes
up to its limit, finds the same rows, though perhaps in another order, or it fails alike. -/
theorem queries_after_rollback {s s₁ s' : Store} (hs : s.Reachable) (hnull : s.NullFree)
    {t₀ t t' : Transaction} (ht : t₀.JustBegun) {calls : List Mutation}
    (hcalls : enqueueAll Store.backend calls t₀ s = (t, s₁)) (hauto : t.config.autoRollback = true)
    {fault : Error} (hfail : t.commit Store.backend s₁ = (.error fault, t', s'))
    (config : EngineConfig) (record : Json) :
    ∃ place < t.log.length, (∃ operation cause, fault = .mutationFailed place operation cause) ∧
      ((∀ entry ∈ t.log.take place, ¬ entry.mutation.Removes s) →
        config.query s'.view record = config.query s.view record) ∧
      ((∀ p, config.plan record = .ok p → p.root.ReadsNoList) →
        config.query s'.view record = config.query s.view record) ∧
      ((∀ p, config.plan record = .ok p →
          p.root.OrderFree ∧ p.root.Uncapped s.view config.matcher) →
        (config.query s'.view record).map QueryResult.bag
          = (config.query s.view record).map QueryResult.bag) := by
  obtain ⟨hgather, hsame⟩ := (ht.gathering s).enqueueAll Store.backend_keeps calls
  rw [hcalls] at hgather hsame
  obtain rfl : s₁ = s := hsame
  obtain ⟨place, hplace, hfault, hrearranged, hview⟩ := hgather.rolledBack hs hnull hauto hfail
  refine ⟨place, hplace, hfault, fun hkept => by rw [hview hkept], fun hlists => ?_, fun hfree => ?_⟩
  · unfold EngineConfig.query
    cases hplan : config.plan record with
    | error e => rfl
    | ok p => exact PlanTree.execute_eq hrearranged.sameElements (hlists p hplan)
  · unfold EngineConfig.query
    cases hplan : config.plan record with
    | error e => rfl
    | ok p =>
      obtain ⟨horder, huncapped⟩ := hfree p hplan
      exact (PlanTree.execute_alike hrearranged horder huncapped).bag_eq

end Transaction

end AnyEngine

namespace Transaction

theorem queries_after_rollback_circle :
    ({} : EngineConfig).query (circleAfter additionThenClash).view firstPerson
        = ({} : EngineConfig).query circle.view firstPerson ∧
      ({} : EngineConfig).query (circleAfter removalThenClash).view everybody
        = ({} : EngineConfig).query circle.view everybody ∧
      (({} : EngineConfig).query (circleAfter removalThenClash).view known).map QueryResult.bag
        = (({} : EngineConfig).query circle.view known).map QueryResult.bag := by
  have hbegun := justBegun_begin "t" {} [] 0
  obtain ⟨haddition, faultA, tA, hfailA⟩ := attempt_fails additionThenClash (by decide +kernel)
  obtain ⟨hremoval, faultR, tR, hfailR⟩ := attempt_fails removalThenClash (by decide +kernel)
  refine ⟨?_, ?_, ?_⟩
  · obtain ⟨place, -, -, hkept, -⟩ :=
      queries_after_rollback reachable_circle nullFree_circle hbegun haddition rfl hfailA {} firstPerson
    refine hkept fun entry hmem => ?_
    have hentry : entry ∈ [LogEntry.mk (.addNode ⟨"c", ["Person"], .empty⟩) .nothing,
        ⟨.addNode ⟨"b", [], .empty⟩, .nothing⟩] := List.mem_of_mem_take hmem
    simp only [List.mem_cons, List.not_mem_nil, or_false] at hentry
    rcases hentry with rfl | rfl
    · exact not_false
    · exact not_false
  · obtain ⟨-, -, -, -, hlists, -⟩ :=
      queries_after_rollback reachable_circle nullFree_circle hbegun hremoval rfl hfailR {} everybody
    refine hlists fun p hp => ?_
    obtain rfl := Except.ok.inj hp
    exact .node trivial nofun
  · obtain ⟨-, -, -, -, -, hfree⟩ :=
      queries_after_rollback reachable_circle nullFree_circle hbegun hremoval rfl hfailR {} known
    have hplan : ({} : EngineConfig).plan known = .ok (QueryPlan.of (.wrap
        (.traverse { edgeType := some "knows" }) (.leaf (.select (.label "Person"))))) := rfl
    have hpaths : ∀ row ∈ (circle.nodesWithLabel "Person").map Node.toValue,
        ∀ start ∈ Traversal.origin? circle.view row,
          (Traversal.expansion { edgeType := some "knows" } circle.view 10000 start).paths.length
            < 10000 := by
      decide +kernel
    refine hfree fun p hp => ?_
    obtain rfl := Except.ok.inj (hplan.symm.trans hp)
    refine ⟨.node trivial (List.forall_mem_singleton.mpr (.node trivial nofun)),
      .node (fun t ht r hr row hrow start hstart => ?_)
        (List.forall_mem_singleton.mpr (.node (fun t ht => by cases ht) nofun))⟩
    obtain rfl := PlanStep.traverse.inj ht
    obtain rfl := Except.ok.inj hr
    exact hpaths row hrow start hstart

/-- After a rollback the first person may be another one. -/
theorem rollback_reorders :
    ¬ ∀ (s s₁ s' : Store) (t₀ t t' : Transaction) (calls : List Mutation) (fault : Error)
      (config : EngineConfig) (record : Json), s.Reachable → s.NullFree → t₀.JustBegun →
        enqueueAll Store.backend calls t₀ s = (t, s₁) → t.config.autoRollback = true →
          t.commit Store.backend s₁ = (.error fault, t', s') →
            (config.query s'.view record).map QueryResult.rows
              = (config.query s.view record).map QueryResult.rows := by
  intro hsame
  obtain ⟨hremoval, fault, t', hfail⟩ := attempt_fails removalThenClash (by decide +kernel)
  have hrows := hsame circle circle _ _ _ t' removalThenClash fault {} firstPerson reachable_circle
    nullFree_circle (justBegun_begin "t" {} [] 0) hremoval rfl hfail
  -- rows have no decidable equality, but their ids have
  have hids := congrArg (fun x => x.toOption.map (List.filterMap rowId?)) hrows
  revert hids
  decide +kernel

end Transaction

end PropertyGraph

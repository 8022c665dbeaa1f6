import IndexKeeper.Proofs.Cluster.History
import IndexKeeper.Proofs.Keyed
import IndexKeeper.Proofs.Pass.Deletion
import Mathlib.Data.List.Dedup

/-!
# Declarations that go one after the other

Several declarations may name one resource.  They are cleaned up one after the other, in any order,
and each clean-up is told the names of the declarations that are left.  The resource stays while
one of these names it, and goes with the last one: the deletions are the declared names, each once
and at its last place in the order (`deletions_cleanUps`), and in the end just the declared
resources are gone (`stored?_stateAfter`).
-/

namespace IndexKeeper.Cluster

open Program Pass

/-! ## One clean-up -/

/-- The cluster after a run is the one that its calls leave. -/
theorem eq_foldl_of_answered {c c' : Cluster} {siblings : Except Fault (List String)}
    {t : Transcript} (h : Answered (respond siblings) c t c') :
    c' = (callsOf (t.map Exchange.question)).foldl (fun c call => (c.answer call).2) c := by
  induction h with
  | nil c => rfl
  | cons q rest ih =>
    cases q with
    | remote call => exact ih
    | siblings => exact ih
    | count m => exact ih

variable {c : Cluster} {t : DeletionTarget} {previous : Status} {names : List String}

/-- The calls of a clean-up and the cluster that it leaves. -/
theorem exists_calls_finalize (c : Cluster) (t : DeletionTarget) (previous : Status)
    (siblings : Except Fault (List String)) :
    ∃ calls, CleanupCalls t (Unopposed t previous siblings) (Marked (c.answer (.fetch t.name)).1)
        calls ∧
      callsOf (c.finalize t previous siblings).asked = calls ∧
      (c.finalize t previous siblings).state =
        calls.foldl (fun c call => (c.answer call).2) c := by
  obtain ⟨asked, hends, hanswered, hasked⟩ :=
    exists_transcript (respond siblings) (Pass.finalize t previous) c
  obtain ⟨hcalls, _⟩ := cleanupCalls_finalize (respond siblings) c t previous
  refine ⟨_, hcalls, rfl, ?_⟩
  rw [hasked]
  exact eq_foldl_of_answered hanswered

/-- While another declaration names the resource, a clean-up leaves it alone. -/
theorem finalize_of_mem (h : t.name ∈ names) :
    callsOf (c.finalize t previous (.ok names)).asked = [] ∧
      (c.finalize t previous (.ok names)).state = c := by
  obtain ⟨calls, hcalls, hasked, hstate⟩ := exists_calls_finalize c t previous (.ok names)
  rw [hasked, hstate]
  cases hcalls with
  | nothing _ => exact ⟨rfl, rfl⟩
  | reading hun _ => exact absurd hun (not_unopposed_of_mem h)
  | deletion hun _ => exact absurd hun (not_unopposed_of_mem h)

/-- Without injected errors, a clean-up that nothing speaks against deletes a stored resource with
the marker. -/
theorem finalize_of_notMem (hwaiting : c.waiting = []) (hdrop : t.dropOnDelete = true)
    (hacknowledged : previous.acknowledged = true) (h : t.name ∉ names) {o : Observed}
    (hstored : c.stored? t.name = some o) (howned : o.ownedSchema?.isSome = true) :
    callsOf (c.finalize t previous (.ok names)).asked = [.fetch t.name, .delete t.name] ∧
      (c.finalize t previous (.ok names)).state = c.drop t.name := by
  have hunopposed : Unopposed t previous (.ok names) := ⟨hdrop, hacknowledged, names, rfl, h⟩
  have hfetch : c.answer (.fetch t.name) = (.ok o, c) := by
    rw [answer_of_no_waiting hwaiting, serve, hstored]
  have hdelete : (c.answer (.delete t.name)).2 = c.drop t.name := by
    rw [answer_of_no_waiting hwaiting, serve]
  have hmarked : Marked (c.answer (.fetch t.name)).1 := by
    rw [hfetch]
    exact marked_ok_iff.mpr howned
  obtain ⟨calls, hcalls, hasked, hstate⟩ := exists_calls_finalize c t previous (.ok names)
  rw [hasked, hstate]
  cases hcalls with
  | nothing hun => exact absurd hunopposed hun
  | reading _ hnot => exact absurd hmarked hnot
  | deletion _ _ =>
    refine ⟨rfl, ?_⟩
    rw [List.foldl_cons, List.foldl_cons, List.foldl_nil, hfetch, hdelete]

/-! ## One after the other -/

/-- A declaration that goes: what decides about the deletion of its resource, and its status. -/
structure Departing where
  target : DeletionTarget
  status : Status

/-- The names that declarations give. -/
def namesOf (xs : List Departing) : List String := xs.map fun x => x.target.name

@[simp] theorem namesOf_nil : namesOf [] = [] := rfl

@[simp] theorem namesOf_cons (x : Departing) (xs : List Departing) :
    namesOf (x :: xs) = x.target.name :: namesOf xs := rfl

@[simp] theorem namesOf_append (xs ys : List Departing) :
    namesOf (xs ++ ys) = namesOf xs ++ namesOf ys :=
  List.map_append

/-- The runs of the clean-ups of declarations, one after the other.  Each is told the names of those
that are left, as they are listed. -/
def cleanUps (list : List Departing → List String) :
    Cluster → List Departing → List (Run Effect Cluster Outcome)
  | _, [] => []
  | c, x :: rest =>
    let run := c.finalize x.target x.status (.ok (list rest))
    run :: cleanUps list run.state rest

/-- The cluster after some runs. -/
def stateAfter (c : Cluster) (runs : List (Run Effect Cluster Outcome)) : Cluster :=
  (runs.getLast?.map Run.state).getD c

/-- The names that are deleted in some calls. -/
def deleted (calls : List Call) : List String :=
  calls.filterMap fun
    | .delete name => some name
    | _ => none

/-- The names that are deleted in some runs, in order. -/
def deletions (runs : List (Run Effect Cluster Outcome)) : List String :=
  runs.flatMap fun run => deleted (callsOf run.asked)

/-- Every declaration asks for the deletion of its resource, was acknowledged, and has its resource
stored with the marker; no error waits. -/
structure Ready (c : Cluster) (xs : List Departing) : Prop where
  ordered : Keyed.Ordered c.resources
  waiting : c.waiting = []
  wanted : ∀ x ∈ xs, x.target.dropOnDelete = true
  acknowledged : ∀ x ∈ xs, x.status.acknowledged = true
  stored : ∀ x ∈ xs, ∃ o, c.stored? x.target.name = some o ∧ o.ownedSchema?.isSome = true

theorem stored?_drop {c : Cluster} (h : Keyed.Ordered c.resources) (name other : String) :
    (c.drop name).stored? other = if other = name then none else c.stored? other :=
  h.get?_erase name other

/-- The clean-up of the first of some declarations: nothing if another one names its resource, and
else the deletion. -/
inductive FirstCleanUp (c : Cluster) (x : Departing) (rest : List Departing) :
    Run Effect Cluster Outcome → Prop
  | shared {run : Run Effect Cluster Outcome} (h : x.target.name ∈ namesOf rest)
    (hcalls : callsOf run.asked = []) (hstate : run.state = c) : FirstCleanUp c x rest run
  | last {run : Run Effect Cluster Outcome} (h : x.target.name ∉ namesOf rest)
    (hcalls : callsOf run.asked = [.fetch x.target.name, .delete x.target.name])
    (hstate : run.state = c.drop x.target.name) : FirstCleanUp c x rest run

variable {list : List Departing → List String} {x : Departing} {xs rest : List Departing}

theorem firstCleanUp_of_ready (hlist : (list rest).Perm (namesOf rest))
    (h : Ready c (x :: rest)) :
    FirstCleanUp c x rest (c.finalize x.target x.status (.ok (list rest))) := by
  by_cases hname : x.target.name ∈ namesOf rest
  · obtain ⟨hcalls, hstate⟩ := finalize_of_mem (hlist.mem_iff.mpr hname)
    exact .shared hname hcalls hstate
  · obtain ⟨o, hstored, howned⟩ := h.stored x List.mem_cons_self
    have hnames : x.target.name ∉ list rest := fun hmem => hname (hlist.mem_iff.mp hmem)
    obtain ⟨hcalls, hstate⟩ := finalize_of_notMem h.waiting (h.wanted x List.mem_cons_self)
      (h.acknowledged x List.mem_cons_self) hnames hstored howned
    exact .last hname hcalls hstate

/-- The declarations that are left are as ready as before. -/
theorem Ready.next (h : Ready c (x :: rest)) {run : Run Effect Cluster Outcome}
    (hfirst : FirstCleanUp c x rest run) : Ready run.state rest := by
  have hrest : Ready c rest := by
    refine ⟨h.ordered, h.waiting, ?_, ?_, ?_⟩
    · exact fun y hy => h.wanted y (List.mem_cons_of_mem x hy)
    · exact fun y hy => h.acknowledged y (List.mem_cons_of_mem x hy)
    · exact fun y hy => h.stored y (List.mem_cons_of_mem x hy)
  cases hfirst with
  | shared _ _ hstate =>
    rw [hstate]
    exact hrest
  | last hname _ hstate =>
    rw [hstate]
    refine ⟨hrest.ordered.erase _, hrest.waiting, hrest.wanted, hrest.acknowledged, ?_⟩
    intro y hy
    -- the others name other resources, or this clean-up would not have been the last
    have hne : y.target.name ≠ x.target.name := by
      intro heq
      exact hname (heq ▸ List.mem_map_of_mem hy)
    rw [stored?_drop_of_ne c hne]
    exact hrest.stored y hy

/-- What the first clean-up leaves stored. -/
theorem FirstCleanUp.stored?_state {run : Run Effect Cluster Outcome}
    (h : FirstCleanUp c x rest run) (hordered : Keyed.Ordered c.resources) (name : String) :
    run.state.stored? name =
      if name = x.target.name ∧ name ∉ namesOf rest then none else c.stored? name := by
  cases h with
  | shared hname _ hstate =>
    have hnot : ¬ (name = x.target.name ∧ name ∉ namesOf rest) := by
      rintro ⟨rfl, hrest⟩
      exact hrest hname
    rw [hstate, if_neg hnot]
  | last hname _ hstate =>
    rw [hstate, stored?_drop hordered]
    by_cases heq : name = x.target.name
    · rw [if_pos heq, if_pos ⟨heq, heq ▸ hname⟩]
    · rw [if_neg heq, if_neg fun hboth => heq hboth.1]

/-- What the first clean-up changes. -/
theorem FirstCleanUp.mutations {run : Run Effect Cluster Outcome}
    (h : FirstCleanUp c x rest run) :
    (callsOf run.asked).filter Call.isMutation =
      if x.target.name ∈ namesOf rest then [] else [.delete x.target.name] := by
  cases h with
  | shared hname hcalls _ =>
    rw [hcalls, if_pos hname]
    rfl
  | last hname hcalls _ =>
    rw [hcalls, if_neg hname]
    rfl

/-! ## All clean-ups -/

theorem cleanUps_cons (list : List Departing → List String) (c : Cluster) (x : Departing)
    (rest : List Departing) :
    cleanUps list c (x :: rest) =
      c.finalize x.target x.status (.ok (list rest)) ::
        cleanUps list (c.finalize x.target x.status (.ok (list rest))).state rest := rfl

theorem stateAfter_cons (c : Cluster) (run : Run Effect Cluster Outcome)
    (runs : List (Run Effect Cluster Outcome)) :
    stateAfter c (run :: runs) = stateAfter run.state runs := by
  rw [stateAfter, stateAfter, List.getLast?_cons]
  cases runs.getLast? <;> rfl

/-- The clean-up of a declaration finds the resources that are still named. -/
theorem exists_run_cleanUps (hlist : ∀ xs, (list xs).Perm (namesOf xs)) {before : List Departing}
    (h : Ready c (before ++ x :: rest)) :
    ∃ mid run, (cleanUps list c (before ++ x :: rest))[before.length]? = some run ∧
      Ready mid (x :: rest) ∧ FirstCleanUp mid x rest run ∧
      ∀ name, mid.stored? name =
        if name ∈ namesOf before ∧ name ∉ namesOf (x :: rest) then none else c.stored? name := by
  induction before generalizing c with
  | nil =>
    refine ⟨c, _, rfl, h, firstCleanUp_of_ready (hlist rest) h, ?_⟩
    intro name
    rw [if_neg fun hboth => by cases hboth.1]
  | cons y before ih =>
    have hfirst := firstCleanUp_of_ready (hlist (before ++ x :: rest)) h
    obtain ⟨mid, run, hrun, hready, hclean, hstored⟩ := ih (h.next hfirst)
    refine ⟨mid, run, hrun, hready, hclean, ?_⟩
    intro name
    rw [hstored, hfirst.stored?_state h.ordered]
    simp only [namesOf_append, namesOf_cons, List.mem_append, List.mem_cons]
    -- whether the resource was gone before, goes with this clean-up, or is still named later
    grind

/-- The deletions are the declared names, each at its last place in the order. -/
theorem deletions_cleanUps (hlist : ∀ xs, (list xs).Perm (namesOf xs)) (h : Ready c xs) :
    deletions (cleanUps list c xs) = (namesOf xs).dedup := by
  induction xs generalizing c with
  | nil => rfl
  | cons x rest ih =>
    have hfirst := firstCleanUp_of_ready (hlist rest) h
    have hrest := ih (h.next hfirst)
    rw [deletions] at hrest
    rw [cleanUps_cons, deletions, List.flatMap_cons, hrest, namesOf_cons]
    cases hfirst with
    | shared hname hcalls hstate =>
      rw [hcalls]
      exact (List.dedup_cons_of_mem hname).symm
    | last hname hcalls hstate =>
      rw [hcalls]
      exact (List.dedup_cons_of_notMem hname).symm

/-- In the end the declared resources are gone, and the others are as before. -/
theorem stored?_stateAfter (hlist : ∀ xs, (list xs).Perm (namesOf xs)) (h : Ready c xs)
    (name : String) :
    (stateAfter c (cleanUps list c xs)).stored? name =
      if name ∈ namesOf xs then none else c.stored? name := by
  induction xs generalizing c with
  | nil => rfl
  | cons x rest ih =>
    have hfirst := firstCleanUp_of_ready (hlist rest) h
    rw [cleanUps_cons, stateAfter_cons, ih (h.next hfirst), hfirst.stored?_state h.ordered]
    simp only [namesOf_cons, List.mem_cons]
    grind

/-! ## Any order -/

theorem Ready.perm {order : List Departing} (h : Ready c xs) (horder : order.Perm xs) :
    Ready c order :=
  ⟨h.ordered, h.waiting, fun x hx => h.wanted x (horder.mem_iff.mp hx),
    fun x hx => h.acknowledged x (horder.mem_iff.mp hx),
    fun x hx => h.stored x (horder.mem_iff.mp hx)⟩

/-- Shared resources go with their last declaration.  In whatever order some declarations are
cleaned up, and in whatever order those that are left are listed, every declared name is deleted
once; a clean-up deletes, and changes nothing else, exactly if none of the declarations that are
left gives the same name; after it just those resources are gone that were declared and are not any
more; and so in the end the declared resources are gone and the others as before. -/
theorem gone_with_last_declaration (hlist : ∀ ys, (list ys).Perm (namesOf ys)) (h : Ready c xs)
    {order : List Departing} (horder : order.Perm xs) :
    (∀ name, (deletions (cleanUps list c order)).count name =
        if name ∈ namesOf xs then 1 else 0) ∧
      (∀ before x rest, order = before ++ x :: rest →
        ∃ run, (cleanUps list c order)[before.length]? = some run ∧
          (callsOf run.asked).filter Call.isMutation =
            (if x.target.name ∈ namesOf rest then [] else [.delete x.target.name]) ∧
          ∀ name, run.state.stored? name =
            if name ∈ namesOf (before ++ [x]) ∧ name ∉ namesOf rest then none
            else c.stored? name) ∧
      ∀ name, (stateAfter c (cleanUps list c order)).stored? name =
        if name ∈ namesOf xs then none else c.stored? name := by
  have hready := h.perm horder
  have hnames : (namesOf order).Perm (namesOf xs) := horder.map _
  refine ⟨?_, ?_, ?_⟩
  · intro name
    rw [deletions_cleanUps hlist hready, List.count_dedup]
    simp only [hnames.mem_iff]
  · rintro before x rest rfl
    obtain ⟨mid, run, hrun, hmid, hfirst, hstored⟩ := exists_run_cleanUps hlist hready
    refine ⟨run, hrun, hfirst.mutations, ?_⟩
    intro name
    rw [hfirst.stored?_state hmid.ordered, hstored]
    simp only [namesOf_append, namesOf_cons, namesOf_nil, List.mem_append, List.mem_cons,
      List.not_mem_nil]
    grind
  · intro name
    rw [stored?_stateAfter hlist hready]
    simp only [hnames.mem_iff]

theorem gone_with_last_declaration_shared :
    let owned : Observed := ⟨.empty, some (.obj [("_meta",
      .obj [("managed-by", .str Ownership.identity)])]), none⟩
    let c : Cluster := ⟨[("logs", owned), ("shared", owned)], [], []⟩
    let of (name : String) : Departing := ⟨⟨name, .index, true⟩, .succeeded name .create⟩
    Ready c [of "shared", of "logs", of "shared"] ∧
      (deletions (cleanUps namesOf c [of "shared", of "shared", of "logs"])).count "shared" =
        1 := by
  intro owned c of
  have howned : owned.ownedSchema?.isSome = true := by decide
  have hready : Ready c [of "shared", of "logs", of "shared"] := by
    refine ⟨?_, rfl, ?_, ?_, ?_⟩
    · exact List.pairwise_pair.mpr (by decide)
    · simp [of]
    · simp [of, Status.succeeded]
    · simp [of, c, stored?, Keyed.get?, howned]
  refine ⟨hready, ?_⟩
  have horder : [of "shared", of "shared", of "logs"].Perm [of "shared", of "logs", of "shared"] :=
    .cons _ (.swap _ _ _)
  have hcount :=
    (gone_with_last_declaration (fun ys => .refl (namesOf ys)) hready horder).1 "shared"
  rw [hcount]
  decide

end IndexKeeper.Cluster

import IndexKeeper.Proofs.Controller.Cleanup
import IndexKeeper.Proofs.Controller.Course
import IndexKeeper.Proofs.Controller.Patch

/-!
# The release of a deleted object

An object that is being deleted is let go whatever the server answers: a pass sends at most a
request to fetch the resource and one to delete it, and then a patch that leaves the finalizers
without its own in the stored object and the rest of it as it was (`Releases`).  What it does
depends on the name, the kind and the wish to drop the resource, and on nothing else in the
declaration: the passes over two objects that differ elsewhere look the same from outside (`Alike`),
even where the declaration of one can't be read.
-/

namespace IndexKeeper.Controller

open Program Connection

variable {config : Config} {c : Connection} {o : Object} {t u : Trace} {report : Report}
  {kind : Kind} {name : String}

/-! ## What is asked of the server -/

/-- At most a resource is fetched and then deleted. -/
inductive AtMostDeletes (c : Connection) (kind : Kind) (name : String) : Requests → Prop
  | nothing : AtMostDeletes c kind name []
  | fetches (x : Exchange Http.Request fun _ => Http.Reply)
    (hget : GoesTo .get (c.url? (documentPath kind name)) x.question) :
    AtMostDeletes c kind name [x]
  | deletes (x y : Exchange Http.Request fun _ => Http.Reply)
    (hget : GoesTo .get (c.url? (documentPath kind name)) x.question)
    (hdelete : GoesTo .delete (c.url? (documentPath kind name)) y.question) :
    AtMostDeletes c kind name [x, y]

/-- A fetch is at most one request, and there is one if something was fetched. -/
theorem exchangesOf_of_fetch {r : Except RemoteError Observed}
    (h : Ends (perform c o (.remote (.fetch name))) t r) :
    (exchangesOf t = [] ∧ ∃ e, r = .error e) ∨
      ∃ x, exchangesOf t = [x] ∧ GoesTo .get (c.url? (documentPath o.kind name)) x.question := by
  obtain ⟨requests, hends, rfl⟩ := ends_perform_remote_iff.mp h
  obtain ⟨sent, hsent, rfl⟩ := ends_perform_fetch_iff.mp hends
  rw [exchangesOf_asTrace]
  refine hsent.eq_nil_or_singleton.imp_left ?_
  rintro ⟨hnil, e, rfl⟩
  exact ⟨hnil, e, observation_error _ _ _⟩

/-- A deletion is at most one request. -/
theorem exchangesOf_of_delete {r : Except RemoteError Unit}
    (h : Realized (perform c o) (Pass.changed kind .delete (.delete name) r) u) :
    exchangesOf u = [] ∨
      ∃ y, exchangesOf u = [y] ∧
        GoesTo .delete (c.url? (documentPath o.kind name)) y.question := by
  obtain ⟨requests, rfl, hends⟩ := exists_requests_of_changed h
  obtain ⟨sent, hsent⟩ := exists_sends_of_delete hends
  rw [exchangesOf_counted, exchangesOf_asTrace]
  exact hsent.eq_nil_or_singleton.imp_left And.left

/-- What was found is fetched, and then deleted at most. -/
theorem atMostDeletes_of_deletes {target : DeletionTarget} {observed : Observed}
    {asked : Pass.Transcript} {r : Except Fault String}
    {x : Exchange Http.Request fun _ => Http.Reply}
    (h : Pass.Deletes target observed asked r) (hrealized : Realized (perform c o) asked u)
    (hget : GoesTo .get (c.url? (documentPath o.kind target.name)) x.question) :
    AtMostDeletes c o.kind target.name (x :: exchangesOf u) := by
  have hdelete {r : Except RemoteError Unit}
      (hchanged : Realized (perform c o) (Pass.changed target.kind .delete (.delete target.name) r)
        u) : AtMostDeletes c o.kind target.name (x :: exchangesOf u) := by
    rcases exchangesOf_of_delete hchanged with hnil | ⟨y, hy, hgoes⟩
    · rw [hnil]
      exact .fetches x hget
    · rw [hy]
      exact .deletes x y hget hgoes
  cases h with
  | notOwned hschema =>
    obtain rfl := realized_nil_iff.mp hrealized
    exact .fetches x hget
  | failed schema hschema e => exact hdelete hrealized
  | confirmed schema hschema => exact hdelete hrealized

/-- The other names come from a listing, of which the server sees nothing. -/
theorem exists_realized_of_listed {answer : Except Fault (List String)} {rest : Pass.Transcript}
    (h : Realized (perform c o) (Pass.listed answer :: rest) u) :
    ∃ v, exchangesOf u = exchangesOf v ∧ Realized (perform c o) rest v := by
  obtain ⟨first, v, rfl, hfirst, hv⟩ := realized_cons_iff.mp h
  obtain ⟨listing, rfl⟩ := exists_listing_of_ends hfirst
  exact ⟨v, rfl, hv⟩

theorem exchangesOf_of_listed {answer : Except Fault (List String)}
    (h : Realized (perform c o) [Pass.listed answer] u) : exchangesOf u = [] := by
  obtain ⟨v, hv, hnil⟩ := exists_realized_of_listed h
  obtain rfl := realized_nil_iff.mp hnil
  exact hv

/-- What could not be fetched is not deleted. -/
theorem atMostDeletes_of_unfound {answer : Except Fault (List String)}
    {r : Except RemoteError Observed}
    (h : Realized (perform c o) [Pass.listed answer, Pass.replied (.fetch name) r] u) :
    AtMostDeletes c o.kind name (exchangesOf u) := by
  obtain ⟨v, hv, hrest⟩ := exists_realized_of_listed h
  obtain ⟨fetched, last, rfl, hfetch, hnil⟩ := realized_cons_iff.mp hrest
  obtain rfl := realized_nil_iff.mp hnil
  rw [hv, List.append_nil]
  rcases exchangesOf_of_fetch hfetch with ⟨hnone, _⟩ | ⟨x, hx, hget⟩
  · rw [hnone]
    exact .nothing
  · rw [hx]
    exact .fetches x hget

/-- Dropping a resource asks the server for no more than that. -/
theorem atMostDeletes_of_drops {target : DeletionTarget} {previous : Status}
    {asked : Pass.Transcript} {r : Except Fault String} (h : Pass.Drops target previous asked r)
    (hrealized : Realized (perform c o) asked u) :
    AtMostDeletes c o.kind target.name (exchangesOf u) := by
  cases h with
  | notAsked hdrop =>
    obtain rfl := realized_nil_iff.mp hrealized
    exact .nothing
  | notAcknowledged hdrop hprevious =>
    obtain rfl := realized_nil_iff.mp hrealized
    exact .nothing
  | unlisted hdrop hprevious f =>
    rw [exchangesOf_of_listed hrealized]
    exact .nothing
  | shared hdrop hprevious names hnames =>
    rw [exchangesOf_of_listed hrealized]
    exact .nothing
  | gone hdrop hprevious names hnames => exact atMostDeletes_of_unfound hrealized
  | unread hdrop hprevious names hnames e he => exact atMostDeletes_of_unfound hrealized
  | found hdrop hprevious names hnames observed hdeletes =>
    obtain ⟨v, hv, hrest⟩ := exists_realized_of_listed hrealized
    obtain ⟨fetched, last, rfl, hfetch, hlast⟩ := realized_cons_iff.mp hrest
    rw [hv, exchangesOf_append]
    rcases exchangesOf_of_fetch hfetch with ⟨_, e, he⟩ | ⟨x, hx, hget⟩
    · cases he
    · rw [hx, List.singleton_append]
      exact atMostDeletes_of_deletes hdeletes hlast hget

/-! ## One pass -/

/-- The resource is deleted at most, and the finalizer goes, whatever was answered. -/
structure Releases (c : Connection) (o : Object) (t : Trace) : Prop where
  atServer : AtMostDeletes c o.kind o.spec.name (exchangesOf t)
  /-- The only patch takes the finalizer out, wherever it stands, and keeps the others in order. -/
  patches : ∃ r, patchesOf t =
    [patchedFinalizers o (o.finalizers.filter (· != o.kind.finalizer)) r]
  /-- Whatever was stored, the others are what is stored after the patch. -/
  writes : ∀ l r, patchedFinalizers o l r ∈ t →
    WritesFinalizers (.patchFinalizers o l) o (o.finalizers.filter (· != o.kind.finalizer))

theorem finalizersAfter_remove (h : o.isGuarded = true) :
    finalizersAfter o.finalizers o.kind.finalizer .remove =
      some (o.finalizers.filter (· != o.kind.finalizer)) := if_pos h

/-- The one patch that is sent writes the finalizers without the one of this operator. -/
theorem releases_of_patches (answer : Except Refusal Unit)
    (hserver : AtMostDeletes c o.kind o.spec.name (exchangesOf t))
    (hpatches : patchesOf t =
      [patchedFinalizers o (o.finalizers.filter (· != o.kind.finalizer)) answer]) :
    Releases c o t := by
  refine ⟨hserver, ⟨answer, hpatches⟩, ?_⟩
  intro l r hmem
  have hpatch := mem_patchesOf_iff.mpr ⟨hmem, rfl⟩
  rw [hpatches] at hpatch
  cases List.mem_singleton.mp hpatch
  exact writesFinalizers_patchFinalizers o _

/-- A guarded object is released. -/
theorem releases_of_ends (hguard : o.isGuarded = true) (h : Ends (cleanup c o) t report) :
    Releases c o t := by
  cases ends_cleanup_iff.mp h with
  | unguarded hother => cases hguard.symm.trans hother
  | released _ hpass hrealized hstored =>
    obtain ⟨r, hdrops, _, hremove⟩ := Pass.drops_of_finalize hpass
    rw [hremove] at hstored
    cases hstored with
    | kept hafter => cases (finalizersAfter_remove hguard).symm.trans hafter
    | patched finalizers hafter answer =>
      cases (finalizersAfter_remove hguard).symm.trans hafter
      refine releases_of_patches answer ?_ ?_
      · rw [exchangesOf_append, exchangesOf_patchedFinalizers, exchangesOf_nil, List.append_nil]
        exact atMostDeletes_of_drops hdrops hrealized
      · rw [patchesOf_append, patchesOf_of_realized hrealized]
        rfl

/-- An object without the finalizer is nobody's business. -/
theorem requestsOf_of_unguarded (hguard : o.isGuarded = false) (h : Ends (cleanup c o) t report) :
    requestsOf t = [] := by
  cases ends_cleanup_iff.mp h with
  | unguarded _ => rfl
  | released hother _ _ _ => cases hguard.symm.trans hother

/-! ## Two passes -/

/-- Two exchanges that look the same from outside: the same request, or patches with one path and
one body, and the same answer. -/
inductive Alike : Exchange Effect Effect.Answer → Exchange Effect Effect.Answer → Prop
  | same (x : Exchange Effect Effect.Answer) : Alike x x
  | patches {o o' : Object} {finalizers finalizers' : List String} (r : Except Refusal Unit)
    (hpath : (ApiRequest.patchFinalizers o finalizers).path =
      (ApiRequest.patchFinalizers o' finalizers').path)
    (hpatch : (ApiRequest.patchFinalizers o finalizers).patch? =
      (ApiRequest.patchFinalizers o' finalizers').patch?) :
    Alike (patchedFinalizers o finalizers r) (patchedFinalizers o' finalizers' r)

theorem forall₂_alike_refl (t : Trace) : List.Forall₂ Alike t t := by
  induction t with
  | nil => exact .nil
  | cons x rest ih => exact .cons (.same x) ih

section Declared

variable {s : Spec}

/-- What a pass asks about the resource of an object depends on the kind of its declaration only. -/
theorem perform_withSpec (hkind : s.kind = o.spec.kind) :
    perform c { o with spec := s } = perform c o := by
  funext e
  have hsame : Object.kind { o with spec := s } = o.kind := hkind
  cases e with
  | remote call => rw [perform, perform, hsame]
  | siblings =>
    rw [perform, perform, siblings, siblings, hsame]
    refine congrArg (ask (.list o.kind) >>= ·) (funext fun answer => ?_)
    cases answer <;> rfl
  | count m => rfl

theorem storesFinalizers_withSpec {change : FinalizerChange} {stored : Except Fault Unit}
    (hkind : s.kind = o.spec.kind) (h : StoresFinalizers o change u stored) :
    ∃ u', StoresFinalizers { o with spec := s } change u' stored ∧ List.Forall₂ Alike u u' := by
  have hsame : Object.kind { o with spec := s } = o.kind := hkind
  cases h with
  | kept hafter =>
    refine ⟨[], .kept ?_, .nil⟩
    rw [hsame]
    exact hafter
  | patched finalizers hafter r =>
    have hpath : Object.path o = Object.path { o with spec := s } := by
      rw [Object.path, Object.path, hsame]
      rfl
    refine ⟨_, .patched finalizers ?_ r, .cons (.patches r hpath rfl) .nil⟩
    rw [hsame]
    exact hafter

/-- The clean-ups after two declarations with one deletion target look the same. -/
theorem cleanup_withSpec (htarget : s.deletionTarget = o.spec.deletionTarget)
    (h : Ends (cleanup c o) t report) :
    ∃ t', Ends (cleanup c { o with spec := s }) t' report ∧ List.Forall₂ Alike t t' := by
  have hkind : s.kind = o.spec.kind := congrArg DeletionTarget.kind htarget
  have hguarded : Object.isGuarded { o with spec := s } = o.isGuarded := by
    rw [Object.isGuarded, Object.isGuarded, Object.kind, hkind]
    rfl
  cases ends_cleanup_iff.mp h with
  | unguarded hguard =>
    exact ⟨[], ends_cleanup_iff.mpr (.unguarded (hguarded.trans hguard)), .nil⟩
  | released hguard hpass hrealized hstored =>
    obtain ⟨u', hstored', halike⟩ := storesFinalizers_withSpec hkind hstored
    rw [← perform_withSpec hkind] at hrealized
    rw [← htarget] at hpass
    have hends := ends_cleanup_iff.mpr (.released (hguarded.trans hguard) hpass hrealized hstored')
    exact ⟨_, hends, List.rel_append (forall₂_alike_refl _) halike⟩

theorem alike_enclosed (hkind : s.kind = o.spec.kind) {body body' : Trace}
    (h : List.Forall₂ Alike body body') :
    List.Forall₂ Alike (enclosed o report body) (enclosed { o with spec := s } report body') := by
  have hsame : Object.kind { o with spec := s } = o.kind := hkind
  rw [enclosed, enclosed, hsame]
  refine List.rel_append (List.rel_append (List.rel_append ?_ h) ?_) ?_
  all_goals exact forall₂_alike_refl _

end Declared

/-! ## The whole pass -/

/-- A pass over a deleted object without the finalizer asks nothing; one over an object with it
deletes the resource at most and takes the finalizer out; and of the declaration it looks at the
deletion target only. -/
theorem release_of_deleted (hdeleted : o.deleted = true) (h : Ends (pass config c o) t report) :
    (o.isGuarded = false → requestsOf t = []) ∧ (o.isGuarded = true → Releases c o t) ∧
      ∀ s : Spec, s.deletionTarget = o.spec.deletionTarget →
        ∃ t', Ends (pass config c { o with spec := s }) t' report ∧ List.Forall₂ Alike t t' := by
  obtain ⟨body, rfl, hbody⟩ := ends_pass_iff.mp h
  rw [hdeleted, if_pos rfl] at hbody
  refine ⟨?_, ?_, ?_⟩
  · intro hguard
    rw [requestsOf_enclosed]
    exact requestsOf_of_unguarded hguard hbody
  · intro hguard
    obtain ⟨hserver, ⟨answer, hpatches⟩, _⟩ := releases_of_ends hguard hbody
    refine releases_of_patches answer ?_ ?_
    · rw [exchangesOf_enclosed]
      exact hserver
    · rw [patchesOf_enclosed]
      exact hpatches
  · intro s htarget
    obtain ⟨body', hbody', halike⟩ := cleanup_withSpec htarget hbody
    refine ⟨_, ends_pass_iff.mpr ⟨body', rfl, ?_⟩,
      alike_enclosed (congrArg DeletionTarget.kind htarget) halike⟩
    exact (if_pos hdeleted).symm ▸ hbody'

/-- An object that takes its index with it, whether or not its mappings can be read. -/
theorem release_of_deleted_logs :
    ∃ t report, Ends (pass { esUrl := loopback.base } loopback (leaving "logs")) t report ∧
      sent ⟨.delete, loopbackUrl "/logs", none⟩ confirmed ∈ t ∧
      Releases loopback (leaving "logs") t ∧
      ∃ t', Ends (pass { esUrl := loopback.base } loopback
          { leaving "logs" with spec := { name := "logs", dropOnDelete := true, mappings := "[" } })
          t' report ∧ List.Forall₂ Alike t t' := by
  have hurl : loopback.url? "logs" = some (loopbackUrl "/logs") := by cbv
  obtain ⟨report, hcleanup⟩ := ends_deletion hurl (by decide) (by decide : "logs" ≠ "metrics")
  have hends : Ends (pass { esUrl := loopback.base } loopback (leaving "logs")) _ report :=
    ends_pass_iff.mpr ⟨_, rfl, hcleanup⟩
  obtain ⟨_, hreleases, hdeclared⟩ := release_of_deleted rfl hends
  refine ⟨_, report, hends, ?_, hreleases rfl, hdeclared _ rfl⟩
  simp [enclosed, delete_mem_deletion]

end IndexKeeper.Controller

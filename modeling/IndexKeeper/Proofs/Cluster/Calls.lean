import IndexKeeper.Cluster
import IndexKeeper.Proofs.Pass.Cleanup
import IndexKeeper.Proofs.Pass.Permission

/-!
# Calls answered by a cluster in memory

What the answers of a cluster say about what it stores, and which exchanges leave a stored resource
alone: all but the changes that are about its name.
-/

namespace IndexKeeper

open Program Pass

namespace Cluster

variable {c c' : Cluster} {siblings : Except Fault (List String)} {name : String}

/-! ## One call -/

/-- A call gets a waiting error, and then nothing is done, or it is served. -/
theorem answer_cases (c : Cluster) (call : Call) :
    (∃ e left, c.answer call = (.error e, { c with waiting := left })) ∨
      c.answer call = c.serve call := by
  rw [answer]
  cases h : takeError? call.kind c.waiting with
  | none => exact Or.inr rfl
  | some found => exact Or.inl ⟨found.1, found.2, rfl⟩

/-- Without waiting errors every call is served. -/
theorem answer_of_no_waiting (h : c.waiting = []) (call : Call) : c.answer call = c.serve call := by
  rw [answer, h]
  rfl

theorem stored?_put (c : Cluster) (name other : String) (o : Observed) :
    (c.put name o).stored? other = if other = name then some o else c.stored? other :=
  Keyed.get?_insert name other o c.resources

theorem stored?_change (c : Cluster) (name other : String) (f : Observed → Observed) :
    (c.change name f).stored? other =
      if other = name then (c.stored? name).map f else c.stored? other := by
  rw [change]
  cases h : c.stored? name with
  | none =>
    by_cases heq : other = name
    · rw [if_pos heq, heq, h]
      rfl
    · rw [if_neg heq]
  | some o => exact stored?_put c name other (f o)

theorem stored?_drop_of_ne (c : Cluster) {other : String} (h : other ≠ name) :
    (c.drop name).stored? other = c.stored? other :=
  Keyed.get?_erase_of_ne h c.resources

/-- A call that is served leaves the other names alone, and its own unless it is a change. -/
theorem stored?_serve (c : Cluster) {call : Call}
    (h : call.isMutation = true → call.name ≠ name) :
    (c.serve call).2.stored? name = c.stored? name := by
  cases call with
  | probe _ => rfl
  | fetch other =>
    rw [serve]
    cases c.stored? other <;> rfl
  | create other payload =>
    have hne : name ≠ other := Ne.symm (h rfl)
    rw [serve, stored?_put, if_neg hne]
  | updateSettings other settings =>
    have hne : name ≠ other := Ne.symm (h rfl)
    rw [serve, stored?_change, if_neg hne]
  | updateSchema other schema =>
    have hne : name ≠ other := Ne.symm (h rfl)
    rw [serve, stored?_change, if_neg hne]
  | delete other =>
    have hne : name ≠ other := Ne.symm (h rfl)
    rw [serve, stored?_drop_of_ne c hne]

theorem stored?_answer (c : Cluster) {call : Call}
    (h : call.isMutation = true → call.name ≠ name) :
    (c.answer call).2.stored? name = c.stored? name := by
  rcases c.answer_cases call with ⟨e, left, heq⟩ | heq
  · rw [heq]
    rfl
  · rw [heq]
    exact stored?_serve c h

/-- A resource that is said not to be there is not stored. -/
theorem stored?_of_probe (h : (c.answer (.probe name)).1 = .ok false) : c.stored? name = none := by
  rcases c.answer_cases (.probe name) with ⟨e, left, heq⟩ | heq
  · rw [heq] at h
    cases h
  · rw [heq, serve] at h
    cases hstored : c.stored? name with
    | none => rfl
    | some o =>
      rw [hstored] at h
      cases h

/-- A resource that is fetched is the one that is stored. -/
theorem stored?_of_fetch {o : Observed} (h : (c.answer (.fetch name)).1 = .ok o) :
    c.stored? name = some o := by
  rcases c.answer_cases (.fetch name) with ⟨e, left, heq⟩ | heq
  · rw [heq] at h
    cases h
  · rw [heq, serve] at h
    cases hstored : c.stored? name with
    | none =>
      rw [hstored] at h
      cases h
    | some o' =>
      rw [hstored] at h
      cases h
      rfl

/-! ## A transcript -/

/-- An exchange is no change of the resource of a name. -/
def Spares (name : String) (x : Exchange Effect Effect.Answer) : Prop :=
  ∀ call, x.question = .remote call → call.isMutation = true → call.name ≠ name

theorem stored?_respond (c : Cluster) {x : Exchange Effect Effect.Answer} (h : Spares name x) :
    (c.respond siblings x.question).2.stored? name = c.stored? name := by
  obtain ⟨q, r⟩ := x
  cases q with
  | remote call => exact stored?_answer c (h call rfl)
  | siblings => rfl
  | count m => rfl

/-- A resource that every exchange spares is as before. -/
theorem stored?_of_spares {t : Transcript} (h : Answered (respond siblings) c t c')
    (hspare : ∀ x ∈ t, Spares name x) : c'.stored? name = c.stored? name := by
  refine h.preserves (motive := fun s => s.stored? name = c.stored? name) ?_ rfl
  intro x hx s hs
  rw [stored?_respond s (hspare x hx), hs]

/-- To spare a resource it is enough that the changes do. -/
theorem spares_of_changesOf {t : Transcript} (h : ∀ x ∈ changesOf t, Spares name x) :
    ∀ x ∈ t, Spares name x := by
  intro x hx call hcall hmutation
  obtain ⟨q, r⟩ := x
  cases hcall
  exact h _ (List.mem_filter.mpr ⟨hx, hmutation⟩) call rfl hmutation

/-- Without changes everything that is stored stays. -/
theorem stored?_of_no_changes {t : Transcript} (h : Answered (respond siblings) c t c')
    (hnothing : changesOf t = []) (name : String) : c'.stored? name = c.stored? name := by
  refine stored?_of_spares h (spares_of_changesOf ?_)
  rw [hnothing]
  simp

/-- A resource that was found is the one that is stored, and it still is after the reading. -/
theorem stored?_of_found {t : Transcript} {o : Observed}
    (hread : Reads name t (.ok (some o))) (h : Answered (respond siblings) c t c') :
    c.stored? name = some o ∧ c'.stored? name = some o := by
  have hafter := stored?_of_no_changes h hread.changesOf name
  cases hread with
  | found o =>
    obtain ⟨_, hrest⟩ := answered_cons_iff.mp h
    obtain ⟨hfetch, _⟩ := answered_cons_iff.mp hrest
    have hprobe : (c.answer (.probe name)).2.stored? name = c.stored? name :=
      stored?_answer c (fun hm => by cases hm)
    have hstored := hprobe.symm.trans (stored?_of_fetch hfetch)
    exact ⟨hstored, hafter.trans hstored⟩

theorem spares_replied (call : Call) (h : call.name ≠ name) (r : call.Answer) :
    Spares name (replied call r) := by
  intro other hother _
  cases hother
  exact h

/-- Every change that a pass may ask for is about the resource it is for. -/
theorem spares_of_permitted {d : Desired} {seen t : Transcript} (h : Permitted d seen t)
    (hname : d.name ≠ name) : ∀ x ∈ t, Spares name x := by
  have hone : ∀ (call : Call) (r : call.Answer), call.name = d.name →
      ∀ x ∈ [replied call r], Spares name x := by
    intro call r hcall x hx
    rw [List.mem_singleton.mp hx]
    exact spares_replied call (hcall ▸ hname) r
  cases h with
  | nothing => simp
  | createAbsent _ payload _ r => exact hone (.create d.name payload) r rfl
  | createVanished _ payload _ r => exact hone (.create d.name payload) r rfl
  | replace _ _ _ _ _ payload _ r => exact hone (.create d.name payload) r rfl
  | settings _ _ _ r => exact hone (.updateSettings d.name (outgoingSettings d)) r rfl
  | schema _ _ _ marked _ r => exact hone (.updateSchema d.name marked) r rfl
  | both _ _ _ marked _ r =>
    have hfirst := hone (.updateSettings d.name (outgoingSettings d)) (.ok ()) rfl
    have hsecond := hone (.updateSchema d.name marked) r rfl
    exact List.forall_mem_cons.mpr ⟨hfirst _ List.mem_cons_self, hsecond⟩

/-! ## Honest answers -/

/-- No fetch of a stored resource is answered as if nothing were there. -/
def Honest (siblings : Except Fault (List String)) : Cluster → List Effect → Prop
  | _, [] => True
  | c, q :: rest =>
    (∀ name, q = .remote (.fetch name) → (c.stored? name).isSome = true →
      (c.answer (.fetch name)).1 ≠ .error .notFound) ∧
    Honest siblings (c.respond siblings q).2 rest

theorem Honest.append_left {first rest : List Effect} (h : Honest siblings c (first ++ rest)) :
    Honest siblings c first := by
  induction first generalizing c with
  | nil => trivial
  | cons q tail ih => exact ⟨h.1, ih h.2⟩

theorem waiting_serve (c : Cluster) (call : Call) : (c.serve call).2.waiting = c.waiting := by
  cases call with
  | fetch name =>
    rw [serve]
    cases c.stored? name <;> rfl
  | updateSettings name settings =>
    rw [serve, change]
    cases c.stored? name <;> rfl
  | updateSchema name schema =>
    rw [serve, change]
    cases c.stored? name <;> rfl
  | _ => rfl

theorem respond_of_no_waiting (h : c.waiting = []) (q : Effect) :
    (c.respond siblings q).2.waiting = [] := by
  cases q with
  | remote call => rw [respond, answer_of_no_waiting h, waiting_serve, h]
  | siblings => exact h
  | count m => exact h

/-- Without injected errors all answers are honest. -/
theorem honest_of_no_waiting (h : c.waiting = []) (asked : List Effect) :
    Honest siblings c asked := by
  induction asked generalizing c with
  | nil => trivial
  | cons q rest ih =>
    refine ⟨?_, ih (respond_of_no_waiting h q)⟩
    intro name _ hstored
    obtain ⟨o, ho⟩ := Option.isSome_iff_exists.mp hstored
    rw [answer_of_no_waiting h, serve, ho]
    intro hcontra
    cases hcontra

/-- What is read of a stored resource is what is stored, or an error. -/
theorem eq_of_reads {t : Transcript} {found : Option Observed} {o : Observed}
    (hread : Reads name t (.ok found)) (h : Answered (respond siblings) c t c')
    (hhonest : Honest siblings c (t.map Exchange.question)) (hstored : c.stored? name = some o) :
    found = some o := by
  have hstill : (c.answer (.probe name)).2.stored? name = some o := by
    rw [stored?_answer c (fun hm => by cases hm), hstored]
  cases hread with
  | absent =>
    obtain ⟨hprobe, _⟩ := answered_cons_iff.mp h
    rw [stored?_of_probe hprobe] at hstored
    cases hstored
  | vanished =>
    -- the resource is still stored when it is fetched, so this answer would be dishonest
    obtain ⟨_, hrest⟩ := answered_cons_iff.mp h
    obtain ⟨hfetch, _⟩ := answered_cons_iff.mp hrest
    exact absurd hfetch (hhonest.2.1 name rfl (Option.isSome_of_eq_some hstill))
  | found o' => exact (stored?_of_found (.found o') h).1.symm.trans hstored

/-- An honest pass for a stored resource changes nothing, or goes on with what is stored. -/
theorem converges_of_stored {d : Desired} {previous : Status} {t : Transcript}
    {r : Except Fault Outcome} (hcourse : Course d previous t r)
    (h : Answered (respond siblings) c t c')
    (hhonest : Honest siblings c (t.map Exchange.question)) {o : Observed}
    (hstored : c.stored? d.name = some o) :
    changesOf t = [] ∨ ∃ seen rest mid out, t = seen ++ rest ∧ changesOf seen = [] ∧
      mid.stored? d.name = some o ∧ Answered (respond siblings) mid rest c' ∧
      Converges d previous o rest out := by
  cases hcourse with
  | unread e hread => exact Or.inl hread.changesOf
  | creates hread hcreate =>
    obtain ⟨mid, hseen, _⟩ := answered_append_iff.mp h
    rw [List.map_append] at hhonest
    -- an honest reading finds what is stored, so there is no creation
    have hfound := eq_of_reads hread hseen hhonest.append_left hstored
    cases hfound
  | converges observed hread hconv =>
    obtain ⟨mid, hseen, hrest⟩ := answered_append_iff.mp h
    rw [List.map_append] at hhonest
    have hfound := eq_of_reads hread hseen hhonest.append_left hstored
    cases hfound
    have hmid := (stored?_of_no_changes hseen hread.changesOf d.name).trans hstored
    exact Or.inr ⟨_, _, mid, _, rfl, hread.changesOf, hmid, hrest, hconv⟩

/-! ## Without injected errors -/

/-- What is read is what is stored, and reading leaves the cluster as it is. -/
theorem reads_of_no_waiting (hwaiting : c.waiting = []) {t : Transcript}
    {r : Except RemoteError (Option Observed)} (hread : Reads name t r)
    (h : Answered (respond siblings) c t c') : r = .ok (c.stored? name) ∧ c' = c := by
  have hprobe : c.answer (.probe name) =
      (.ok ((c.stored? name).isSome || c.vanished.contains name), c) := by
    rw [answer_of_no_waiting hwaiting, serve]
  have hfetch : c.answer (.fetch name) = c.serve (.fetch name) := answer_of_no_waiting hwaiting _
  -- the probe and the fetch are served from the same cluster, so they can not contradict each other
  cases hread with
  | probeFailed e =>
    obtain ⟨hr, _⟩ := answered_cons_iff.mp h
    rw [respond, hprobe] at hr
    cases hr
  | absent =>
    obtain ⟨hr, hrest⟩ := answered_cons_iff.mp h
    rw [respond, hprobe] at hrest
    rw [stored?_of_probe hr]
    exact ⟨rfl, answered_nil_iff.mp hrest⟩
  | vanished =>
    obtain ⟨_, hrest⟩ := answered_cons_iff.mp h
    rw [respond, hprobe] at hrest
    obtain ⟨hr, hrest⟩ := answered_cons_iff.mp hrest
    rw [respond, hfetch, serve] at hr hrest
    cases hstored : c.stored? name with
    | none =>
      rw [hstored] at hrest
      exact ⟨rfl, answered_nil_iff.mp hrest⟩
    | some o =>
      rw [hstored] at hr
      cases hr
  | fetchFailed e he =>
    obtain ⟨_, hrest⟩ := answered_cons_iff.mp h
    rw [respond, hprobe] at hrest
    obtain ⟨hr, _⟩ := answered_cons_iff.mp hrest
    rw [respond, hfetch, serve] at hr
    cases hstored : c.stored? name with
    | none =>
      rw [hstored] at hr
      cases hr
      exact absurd rfl he
    | some o =>
      rw [hstored] at hr
      cases hr
  | found o =>
    obtain ⟨_, hrest⟩ := answered_cons_iff.mp h
    rw [respond, hprobe] at hrest
    obtain ⟨hr, hrest⟩ := answered_cons_iff.mp hrest
    have hstored := stored?_of_fetch hr
    rw [respond, hfetch, serve, hstored] at hrest
    rw [hstored]
    exact ⟨rfl, answered_nil_iff.mp hrest⟩

/-- A counted change is answered as the call itself is. -/
theorem answered_changed_iff {kind : Kind} {operation : Mutation} {call : Call}
    {r : call.Answer} :
    Answered (respond siblings) c (changed kind operation call r) c' ↔
      (c.answer call).1 = r ∧ c' = (c.answer call).2 := by
  rw [changed, counted, replied, answered_cons_iff, answered_cons_iff, answered_nil_iff]
  constructor
  · rintro ⟨_, hr, hstate⟩
    exact ⟨hr, hstate⟩
  · rintro ⟨hr, hstate⟩
    exact ⟨rfl, hr, hstate⟩

/-- A change that was confirmed was served. -/
theorem serve_of_changed {kind : Kind} {operation : Mutation} {call : Call} {r : call.Result}
    (h : Answered (respond siblings) c (changed kind operation call (.ok r)) c') :
    c' = (c.serve call).2 := by
  obtain ⟨hr, rfl⟩ := answered_changed_iff.mp h
  rcases c.answer_cases call with ⟨e, left, heq⟩ | heq
  · rw [heq] at hr
    cases hr
  · rw [heq]

end Cluster

end IndexKeeper

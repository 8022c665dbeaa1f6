import IndexKeeper.Proofs.Cluster.Convergence
import IndexKeeper.Proofs.Manifest.Declared

/-!
# Fixed settings over whole histories

The declaration of an index can not change a fixed setting of a stored index, in any order of passes
and with any injected errors.  Nothing that is sent holds a value there, and what is laid over the
stored settings has maps on the way there, so the stored value stays (`KeepsFixed`).  A declaration
that wants another value is refused before anything is sent, with the setting named.
-/

namespace IndexKeeper

open Program Pass

namespace Tree

/-- Settings without the fixed ones, laid over others, leave the fixed ones of those alone. -/
theorem lookup_overlay_withoutFixed {desired observed : Tree} (hd : desired.MapsOrdered)
    {key : String} (hkey : key ∈ fixedSettings)
    (habove : ∀ q v, q <+: Path.ofDotted key → q ≠ Path.ofDotted key →
      desired.lookup q = some v → v.isObject = true) :
    (observed.overlay desired.withoutFixed.echo).lookup (Path.ofDotted key) =
      observed.lookup (Path.ofDotted key) := by
  have hnone : desired.withoutFixed.lookup (Path.ofDotted key) = none :=
    lookup_without_beyond hd hkey (List.prefix_refl _)
  refine lookup_overlay_of_absent (hd.without fixedSettings).echo ?_ ?_
  · rw [lookup_echo, hnone, Option.map_none]
  · intro q v hq hv
    rw [lookup_echo, Option.map_eq_some_iff] at hv
    obtain ⟨u, hu, rfl⟩ := hv
    rw [Json.isObject_echo]
    rcases lookup_without_le hd hu with hsame | ⟨_, _, _, hobj⟩
    · have hne : q ≠ Path.ofDotted key := by
        rintro rfl
        rw [hnone] at hu
        cases hu
      exact habove q u hq hne hsame
    · exact hobj

/-- The desired settings hold another text than the stored ones at a fixed setting. -/
def FixedDiffers (desired observed : Tree) (key want was : String) : Prop :=
  key ∈ fixedSettings ∧ desired.canonical? (Path.ofDotted key) = some want ∧
    observed.canonical? (Path.ofDotted key) = some was ∧ want ≠ was

/-- A stored leaf at a fixed setting that should have another text is refused, and the refusal
names such a setting. -/
theorem changes?_of_fixedDiffers {desired observed : Tree} (hd : desired.Expanded)
    {key want was : String} (h : FixedDiffers desired observed key want was) {w : Json}
    (hw : observed.lookup (Path.ofDotted key) = some w) (hleaf : w.isObject = false) :
    ∃ key want was, changes? desired observed true = .error (.immutableSetting key was want) ∧
      FixedDiffers desired observed key want was := by
  obtain ⟨hkey, hwant, hwas, hne⟩ := h
  obtain ⟨v, hv, rfl⟩ := canonical?_eq_some_iff.mp hwant
  obtain ⟨w', hw', rfl⟩ := canonical?_eq_some_iff.mp hwas
  rw [hw] at hw'
  cases hw'
  have hdiff := mem_differences_of_lookup hv hw hleaf hne
  obtain ⟨f, hrefused⟩ := changes?_of_fixed_difference hdiff (isFixed_ofDotted hkey)
  obtain ⟨_, d, hd', hfixed, rfl⟩ := mem_differences_of_changes?_error hrefused
  -- the difference that is named need not be the one at hand, but it is at a fixed setting too
  obtain ⟨_, hwant', hwas', hne'⟩ := mem_differences_iff.mp hd'
  obtain ⟨u, hu, _⟩ := canonical?_eq_some_iff.mp hwant'
  refine ⟨d.path.dotted, d.desired, d.observed, hrefused, isFixed_iff.mp hfixed, ?_, ?_, hne'⟩
  · rw [hd.ofDotted_dotted hu]
    exact hwant'
  · rw [hd.ofDotted_dotted hu]
    exact hwas'

end Tree

/-- A declared index is never replaced. -/
theorem Desired.DeclaredIndex.not_drifted {d : Desired} (h : d.DeclaredIndex) (o : Observed) :
    definitionDrifted d o = false := by
  rw [definitionDrifted, h.exists_settings.1]

namespace Cluster

variable {c c' : Cluster} {siblings : Except Fault (List String)} {name : String} {o : Observed}

/-! ## What a plan does to the stored settings -/

/-- A change that failed leaves everything that is stored. -/
theorem stored?_of_failed {kind : Kind} {operation : Mutation} {call : Call}
    (hmutation : call.isMutation = true) {e : RemoteError}
    (h : Answered (respond siblings) c (changed kind operation call (.error e)) c')
    (name : String) : c'.stored? name = c.stored? name := by
  obtain ⟨hr, rfl⟩ := answered_changed_iff.mp h
  rcases c.answer_cases call with ⟨e', left, heq⟩ | heq
  · rw [heq]
    rfl
  · rw [heq] at hr
    cases call with
    | probe _ => cases hmutation
    | fetch _ => cases hmutation
    | _ => cases hr

theorem settings_of_sendsSchema {d : Desired} {previous : Status} {schema : Json}
    {t : Transcript} {out : Outcome} (h : SendsSchema d previous schema t out)
    (hstored : c.stored? d.name = some o) (hanswered : Answered (respond siblings) c t c') :
    ∃ o', c'.stored? d.name = some o' ∧ o'.settings = o.settings := by
  cases h with
  | failed e => exact ⟨o, (stored?_of_failed rfl hanswered _).trans hstored, rfl⟩
  | confirmed => exact ⟨_, stored?_of_schema_sent hstored hanswered, rfl⟩

/-- A plan that sends leaves the stored settings, or lays those that it sends over them. -/
theorem settings_of_executes {d : Desired} {previous : Status} {p : Plan} {t : Transcript}
    {out : Outcome} (h : Executes d previous p t out) (hplan : p ≠ .replace)
    (hstored : c.stored? d.name = some o) (hanswered : Answered (respond siblings) c t c') :
    ∃ o', c'.stored? d.name = some o' ∧ (o'.settings = o.settings ∨
      ∃ sent schema, p = .send (some sent) schema ∧
        o'.settings = o.settings.overlay sent.echo) := by
  cases h with
  | replaceMalformed m hp => exact absurd rfl hplan
  | replaceFailed payload hp e => exact absurd rfl hplan
  | replaced payload hp => exact absurd rfl hplan
  | idle =>
    obtain rfl := answered_nil_iff.mp hanswered
    exact ⟨o, hstored, Or.inl rfl⟩
  | schemaOnly schema hsend =>
    obtain ⟨o', ho', hsame⟩ := settings_of_sendsSchema hsend hstored hanswered
    exact ⟨o', ho', Or.inl hsame⟩
  | settingsFailed settings schema e =>
    exact ⟨o, (stored?_of_failed rfl hanswered _).trans hstored, Or.inl rfl⟩
  | settingsOnly settings =>
    exact ⟨_, stored?_of_settings_sent hstored hanswered, Or.inr ⟨settings, none, rfl, rfl⟩⟩
  | both settings schema hsend =>
    obtain ⟨mid, hfirst, hsecond⟩ := answered_append_iff.mp hanswered
    have hmid := stored?_of_settings_sent hstored hfirst
    obtain ⟨o', ho', hsame⟩ := settings_of_sendsSchema hsend hmid hsecond
    exact ⟨o', ho', Or.inr ⟨settings, some schema, rfl, hsame⟩⟩

/-! ## The stored values stay -/

/-- What is stored before is stored after, with the same values at the fixed settings. -/
def KeepsFixed (before after : Cluster) : Prop :=
  ∀ name o, before.stored? name = some o → ∃ o', after.stored? name = some o' ∧
    ∀ key ∈ Tree.fixedSettings,
      o'.settings.lookup (Path.ofDotted key) = o.settings.lookup (Path.ofDotted key)

theorem KeepsFixed.refl (c : Cluster) : KeepsFixed c c :=
  fun _ o ho => ⟨o, ho, fun _ _ => rfl⟩

theorem KeepsFixed.trans {before middle after : Cluster} (first : KeepsFixed before middle)
    (last : KeepsFixed middle after) : KeepsFixed before after := by
  intro name o ho
  obtain ⟨o₁, ho₁, hfirst⟩ := first name o ho
  obtain ⟨o₂, ho₂, hlast⟩ := last name o₁ ho₁
  exact ⟨o₂, ho₂, fun key hkey => (hlast key hkey).trans (hfirst key hkey)⟩

/-- Going on with a stored index keeps its fixed settings. -/
theorem fixed_of_converges {d : Desired} (hindex : d.DeclaredIndex) {previous : Status}
    {t : Transcript} {out : Outcome} (h : Converges d previous o t out)
    (hstored : c.stored? d.name = some o) (hanswered : Answered (respond siblings) c t c') :
    ∃ o', c'.stored? d.name = some o' ∧ ∀ key ∈ Tree.fixedSettings,
      o'.settings.lookup (Path.ofDotted key) = o.settings.lookup (Path.ofDotted key) := by
  cases h with
  | notOwned hschema =>
    obtain rfl := answered_nil_iff.mp hanswered
    exact ⟨o, hstored, fun _ _ => rfl⟩
  | adopted schema hschema hprevious =>
    obtain rfl := answered_nil_iff.mp hanswered
    exact ⟨o, hstored, fun _ _ => rfl⟩
  | refused schema hschema hprevious f hplan =>
    obtain rfl := answered_nil_iff.mp hanswered
    exact ⟨o, hstored, fun _ _ => rfl⟩
  | executed schema hschema hprevious p hplan hexec =>
    have hjustified := justified_of_plan hschema hplan
    have hsends : p ≠ .replace := by
      intro hp
      have hdrift := hjustified.replace hp
      rw [hindex.not_drifted] at hdrift
      cases hdrift
    -- what is laid over the settings is the declared ones without the fixed
    obtain ⟨o', ho', hsettings⟩ := settings_of_executes hexec hsends hstored hanswered
    refine ⟨o', ho', ?_⟩
    intro key hkey
    rcases hsettings with hsame | ⟨sent, schema', hp, hlaid⟩
    · rw [hsame]
    · rw [hlaid, hjustified.settings _ _ hp, outgoingSettings, if_pos hindex.enforcesFixed]
      exact Tree.lookup_overlay_withoutFixed hindex.expanded.mapsOrdered hkey
        fun q v hq hne hv => hindex.isObject_above_fixed hkey hq hne hv

/-- A pass for a declared index keeps the fixed settings of all that is stored. -/
theorem keepsFixed_of_course {d : Desired} (hindex : d.DeclaredIndex) {previous : Status}
    {t : Transcript} {r : Except Fault Outcome} (hcourse : Course d previous t r)
    (h : Answered (respond siblings) c t c')
    (hhonest : Honest siblings c (t.map Exchange.question)) : KeepsFixed c c' := by
  intro name o hstored
  by_cases hname : d.name = name
  · subst hname
    rcases converges_of_stored hcourse h hhonest hstored with
      hnothing | ⟨seen, rest, mid, out, rfl, _, hmid, hrest, hconv⟩
    · exact ⟨o, (stored?_of_no_changes h hnothing _).trans hstored, fun _ _ => rfl⟩
    · exact fixed_of_converges hindex hconv hmid hrest
  · obtain ⟨seen, rest, rfl, hseen, hpermitted⟩ := hcourse.permitted
    have hspare : ∀ x ∈ changesOf (seen ++ rest), Spares name x := by
      rw [changesOf_append, hseen, List.nil_append]
      exact spares_of_permitted hpermitted hname
    have hsame := stored?_of_spares h (spares_of_changesOf hspare)
    exact ⟨o, hsame.trans hstored, fun _ _ => rfl⟩

/-! ## What is sent -/

/-- Settings that a pass for a declared index sends have nothing at the fixed settings. -/
theorem lookup_sent_of_course {d : Desired} (hindex : d.DeclaredIndex) {previous : Status}
    {t : Transcript} {r : Except Fault Outcome} (hcourse : Course d previous t r) {name : String}
    {sent : Tree} (hsent : Call.updateSettings name sent ∈ callsOf (t.map Exchange.question))
    {key : String} (hkey : key ∈ Tree.fixedSettings) :
    sent.lookup (Path.ofDotted key) = none := by
  have houtgoing : sent = outgoingSettings d := hcourse.eq_outgoingSettings hsent
  rw [houtgoing, outgoingSettings, if_pos hindex.enforcesFixed]
  exact Tree.lookup_without_beyond hindex.expanded.mapsOrdered hkey (List.prefix_refl _)

/-! ## Refusals -/

/-- The run of a reading. -/
def observe (c : Cluster) (name : String) :
    Run Effect Cluster (Except RemoteError (Option Observed)) :=
  (Pass.observe name).run (respond (.ok [])) c

/-- A pass for a declared index plans nothing where a fixed setting differs. -/
theorem plan_of_fixedDiffers {d : Desired} (hindex : d.DeclaredIndex)
    {key want was : String} (h : Tree.FixedDiffers d.settings o.settings key want was) {w : Json}
    (hw : o.settings.lookup (Path.ofDotted key) = some w) (hleaf : w.isObject = false)
    (schema : Json) :
    ∃ key want was, plan d o schema = .error (.immutableSetting key was want) ∧
      Tree.FixedDiffers d.settings o.settings key want was := by
  obtain ⟨key', want', was', hchanges, hdiffers⟩ :=
    Tree.changes?_of_fixedDiffers hindex.expanded h hw hleaf
  rw [← hindex.enforcesFixed] at hchanges
  exact ⟨key', want', was', plan_of_changes?_error (hindex.not_drifted o) hchanges schema, hdiffers⟩

/-- A pass for a declared index asks for no change where a fixed setting of the stored index
differs. -/
theorem changesOf_of_fixedDiffers {d : Desired} (hindex : d.DeclaredIndex) {previous : Status}
    {t : Transcript} {r : Except Fault Outcome} (hcourse : Course d previous t r)
    (h : Answered (respond siblings) c t c')
    (hhonest : Honest siblings c (t.map Exchange.question)) (hstored : c.stored? d.name = some o)
    {key want was : String}
    (hdiffers : Tree.FixedDiffers d.settings o.settings key want was) {w : Json}
    (hw : o.settings.lookup (Path.ofDotted key) = some w) (hleaf : w.isObject = false) :
    changesOf t = [] := by
  rcases converges_of_stored hcourse h hhonest hstored with
    hnothing | ⟨seen, rest, mid, out, rfl, hseen, _, _, hconv⟩
  · exact hnothing
  · rw [changesOf_append, hseen, List.nil_append]
    cases hconv with
    | notOwned hschema => rfl
    | adopted schema hschema hprevious => rfl
    | refused schema hschema hprevious f hplan => rfl
    | executed schema hschema hprevious p hplan hexec =>
      obtain ⟨_, _, _, hrefused, _⟩ := plan_of_fixedDiffers hindex hdiffers hw hleaf schema
      rw [hplan] at hrefused
      cases hrefused

/-- What an honest reading of a stored resource finds is what is stored. -/
theorem eq_of_observe {d : Desired} {previous : Status} (hstored : c.stored? d.name = some o)
    (hhonest : Honest (.ok []) c (c.reconcile d previous).asked) {found : Option Observed}
    (hfound : (c.observe d.name).value = .ok found) : found = some o := by
  obtain ⟨t, hends, hanswered, hasked⟩ :=
    exists_transcript (respond (.ok [])) (Pass.observe d.name) c
  rw [← observe] at hends hanswered hasked
  rw [hfound] at hends
  rw [reconcile, Pass.reconcile, run_bind, ← observe, hasked] at hhonest
  exact eq_of_reads (reads_of_ends hends) hanswered hhonest.append_left hstored

/-- A pass goes on with what it has read. -/
theorem reconcile_of_observe {d : Desired} {previous : Status} {observed : Observed}
    (hfound : (c.observe d.name).value = .ok (some observed)) {out : Outcome}
    (hconverge : converge d previous observed = .done out) :
    (c.reconcile d previous).value = .ok out := by
  rw [reconcile, Pass.reconcile, run_bind, ← observe, hfound]
  simp only [hconverge]
  rfl

/-- A pass that has read an index with another value at a fixed setting refuses, and names such a
setting. -/
theorem reconcile_of_fixedDiffers {d : Desired} (hindex : d.DeclaredIndex) {previous : Status}
    (hprevious : previous.isUnacknowledgedCreate = false)
    (hfound : (c.observe d.name).value = .ok (some o)) (howned : o.ownedSchema?.isSome = true)
    {key want was : String} (hdiffers : Tree.FixedDiffers d.settings o.settings key want was)
    {w : Json} (hw : o.settings.lookup (Path.ofDotted key) = some w)
    (hleaf : w.isObject = false) :
    ∃ key want was, Tree.FixedDiffers d.settings o.settings key want was ∧
      (c.reconcile d previous).value =
        .ok (rejected d previous (.immutableSetting key was want)) := by
  obtain ⟨schema, hschema⟩ := Option.isSome_iff_exists.mp howned
  obtain ⟨key', want', was', hplan, hdiffers'⟩ :=
    plan_of_fixedDiffers hindex hdiffers hw hleaf schema
  refine ⟨key', want', was', hdiffers', reconcile_of_observe hfound ?_⟩
  simp only [converge, hschema, hprevious, hplan]
  rfl

/-! ## Histories of declared indices -/

/-- A pass for a declared index, or an injected error. -/
def Step.IsIndexPass : Step → Prop
  | .reconcile d _ => d.DeclaredIndex
  | .finalize .. => False
  | .fail .. => True

theorem after_append (c : Cluster) (first last : List Step) :
    c.after (first ++ last) = (c.after first).after last :=
  List.foldl_append

theorem HonestHistory.append {first last : List Step} (h : c.HonestHistory (first ++ last)) :
    c.HonestHistory first ∧ (c.after first).HonestHistory last := by
  induction first generalizing c with
  | nil => exact ⟨trivial, h⟩
  | cons s rest ih =>
    obtain ⟨hfirst, hlast⟩ := ih h.2
    exact ⟨⟨h.1, hfirst⟩, hlast⟩

theorem keepsFixed_perform {s : Step} (hindex : s.IsIndexPass)
    (hhonest : ∀ d previous, s = .reconcile d previous →
      Honest (.ok []) c (c.reconcile d previous).asked) : KeepsFixed c (c.perform s) := by
  cases s with
  | reconcile d previous =>
    obtain ⟨t, hends, hanswered, hasked⟩ :=
      exists_transcript (respond (.ok [])) (Pass.reconcile d previous) c
    have hhonest' := hhonest d previous rfl
    rw [reconcile, hasked] at hhonest'
    exact keepsFixed_of_course hindex (course_of_ends hends) hanswered hhonest'
  | finalize target previous siblings => cases hindex
  | fail kind e => exact .refl c

theorem keepsFixed_after {steps : List Step} (hsteps : ∀ s ∈ steps, s.IsIndexPass)
    (hhonest : c.HonestHistory steps) : KeepsFixed c (c.after steps) := by
  induction steps generalizing c with
  | nil => exact .refl c
  | cons s rest ih =>
    have hfirst := keepsFixed_perform (hsteps s List.mem_cons_self) hhonest.1
    have hrest := ih (fun s hs => hsteps s (List.mem_cons_of_mem _ hs)) hhonest.2
    exact hfirst.trans hrest

/-- The fixed settings in every history of passes for declared indices, from any cluster and with
any injected errors but dishonest ones.  Between any two points an index that is stored keeps its
values there.  No pass sends a value there.  And a pass that meets an owned index with a leaf there
that should have another text asks for no change; if it can read the index and does not adopt it,
it is rejected with the fault that names a fixed setting whose texts differ. -/
theorem fixed_settings_immutable (c : Cluster) (steps : List Step)
    (hsteps : ∀ s ∈ steps, s.IsIndexPass) (hhonest : c.HonestHistory steps) :
    (∀ before middle rest, steps = before ++ middle ++ rest →
      ∀ name o, (c.after before).stored? name = some o →
        ∃ o', (c.after (before ++ middle)).stored? name = some o' ∧
          ∀ key ∈ Tree.fixedSettings,
            o'.settings.lookup (Path.ofDotted key) = o.settings.lookup (Path.ofDotted key)) ∧
    ∀ before d previous rest, steps = before ++ .reconcile d previous :: rest →
      let now := c.after before
      let pass := now.reconcile d previous
      (∀ name sent, .updateSettings name sent ∈ callsOf pass.asked →
        ∀ key ∈ Tree.fixedSettings, sent.lookup (Path.ofDotted key) = none) ∧
      ∀ o, now.stored? d.name = some o → o.ownedSchema?.isSome = true →
        ∀ key want was, Tree.FixedDiffers d.settings o.settings key want was →
        ∀ w, o.settings.lookup (Path.ofDotted key) = some w → w.isObject = false →
          (∀ call ∈ callsOf pass.asked, call.isMutation = false) ∧
          (previous.isUnacknowledgedCreate = false →
            ∀ found, (now.observe d.name).value = .ok found →
              ∃ out key want was, pass.value = .ok out ∧
                Tree.FixedDiffers d.settings o.settings key want was ∧
                out.status.acknowledged = false ∧ out.finalizer = .unchanged ∧
                out.message = (Fault.immutableSetting key was want).message ∧
                out.status.latestError = (Fault.immutableSetting key was want).message) := by
  constructor
  · rintro before middle rest rfl name o hstored
    have hmiddle : ∀ s ∈ middle, s.IsIndexPass := by
      intro s hs
      exact hsteps s (by simp [hs])
    rw [after_append]
    exact keepsFixed_after hmiddle hhonest.append.1.append.2 name o hstored
  · rintro before d previous rest rfl
    intro now pass
    have hindex : d.DeclaredIndex := hsteps (.reconcile d previous) (by simp)
    have hhonest' : Honest (.ok []) now pass.asked := hhonest.append.2.1 d previous rfl
    obtain ⟨t, hends, hanswered, hasked⟩ :=
      exists_transcript (respond (.ok [])) (Pass.reconcile d previous) now
    have hcourse := course_of_ends hends
    have hpass : pass.asked = t.map Exchange.question := hasked
    rw [hpass] at hhonest' ⊢
    constructor
    · intro name sent hsent key hkey
      exact lookup_sent_of_course hindex hcourse hsent hkey
    · intro o hstored howned key want was hdiffers w hw hleaf
      have hnothing := changesOf_of_fixedDiffers hindex hcourse hanswered hhonest' hstored
        hdiffers hw hleaf
      refine ⟨isMutation_of_changesOf hnothing, ?_⟩
      intro hprevious found hfound
      rw [← hpass] at hhonest'
      obtain rfl := eq_of_observe hstored hhonest' hfound
      obtain ⟨key', want', was', hdiffers', hvalue⟩ :=
        reconcile_of_fixedDiffers hindex hprevious hfound howned hdiffers hw hleaf
      exact ⟨_, key', want', was', hvalue, hdiffers', rfl, rfl, rfl, rfl⟩

theorem fixed_settings_immutable_codec :
    let d : Desired :=
      ⟨"logs", false, ⟨[("index", .obj [("codec", .str "default")])]⟩, .obj [], none⟩
    let c : Cluster := ⟨[("logs", ⟨⟨[("index", .obj [("codec", .str "best_compression")])]⟩,
      some (.obj [("_meta", .obj [("managed-by", .str Ownership.identity)])]), none⟩)], [], []⟩
    ∀ call ∈ callsOf (c.reconcile d {}).asked, call.isMutation = false := by
  intro d c
  have hread : Spec.ofJson? .index (.obj [("name", .str "logs"),
      ("settings", .obj [("codec", .str "default")])]) =
      some ⟨"logs", false, ⟨[("codec", .text "default")]⟩, "", none⟩ := by cbv
  have hdesired : Spec.toDesired ⟨"logs", false, ⟨[("codec", .text "default")]⟩, "", none⟩ =
      .ok d := rfl
  have hsteps : ∀ s ∈ [Step.reconcile d {}], s.IsIndexPass := by
    intro s hs
    rw [List.mem_singleton.mp hs]
    exact ⟨_, _, hread, hdesired⟩
  have hhonest : c.HonestHistory [.reconcile d {}] :=
    ⟨fun _ _ _ => honest_of_no_waiting rfl _, trivial⟩
  have hdiffers : Tree.FixedDiffers d.settings
      ⟨[("index", .obj [("codec", .str "best_compression")])]⟩ "index.codec" "default"
      "best_compression" := ⟨by decide, rfl, rfl, by decide⟩
  have hpass := (fixed_settings_immutable c [.reconcile d {}] hsteps hhonest).2 [] d {} [] rfl
  exact (hpass.2 _ rfl rfl _ _ _ hdiffers (.str "best_compression") rfl rfl).1

end Cluster

end IndexKeeper

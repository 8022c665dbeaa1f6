import IndexKeeper.Proofs.Cluster.History
import IndexKeeper.Proofs.Pass.Outcome
import IndexKeeper.Proofs.Resource

/-!
# Convergence

A pass over a cluster without injected errors that records no error leaves the resource `Settled`:
there is nothing left to plan.  A pass over a settled resource changes nothing and says so
(`reconcile_of_settled`), so a second pass is idle.

The four ways to get there store different things: a creation and a replacement the payload as the
server echoes it, an update the old settings with the sent ones laid over them, the desired schema,
or both.
-/

namespace IndexKeeper

open Program Pass

/-! ## Settled resources -/

/-- There is nothing left to plan for a resource. -/
def Settled (d : Desired) (o : Observed) : Prop :=
  ∃ schema, o.ownedSchema? = some schema ∧ plan d o schema = .ok (.send none none)

theorem settled_of_agrees {d : Desired} {o : Observed}
    (hdrift : definitionDrifted d o = false) (hordered : o.settings.MapsOrdered)
    (hagrees : Tree.Agrees d.settings o.settings) {want seen : Tree}
    (hmark : Ownership.mark d.schema = .ok want.toJson)
    (howned : o.ownedSchema? = some seen.toJson) (hschema : Tree.schemaDiffers want seen = false) :
    Settled d o := by
  have hchanges := Tree.changes?_of_agrees hordered hagrees d.enforcesFixed
  refine ⟨seen.toJson, howned, ?_⟩
  rw [plan_of_changes? hdrift hchanges hmark, hschema]
  rfl

/-- What carries the marker that was written is owned. -/
theorem ownedSchema?_of_mark {schema : Json} {want : Tree}
    (hmark : Ownership.mark schema = .ok want.toJson) (settings : Tree)
    (template : Option TemplateDefinition) :
    Observed.ownedSchema? ⟨settings, some want.toJson, template⟩ = some want.toJson :=
  Observed.ownedSchema?_eq_some_iff.mpr ⟨rfl, Ownership.isOwned_of_mark hmark⟩

/-! ## Declarations and stored settings that fit -/

/-- The settings of a declaration are built from a document, hold no double, and no map at a fixed
setting; its other documents are in order. -/
structure Desired.Plain (d : Desired) : Prop where
  built : ∃ document, Tree.ofSettings? document = .ok d.settings
  noDoubles : d.settings.NoDoubles
  fixed : ∀ key ∈ Tree.fixedSettings, ∀ v, d.settings.lookup (Path.ofDotted key) = some v →
    v.isObject = false
  ordered : d.Ordered

theorem Desired.Plain.mapsOrdered {d : Desired} (h : d.Plain) : d.settings.MapsOrdered := by
  obtain ⟨document, hbuilt⟩ := h.built
  exact (Tree.expanded_of_ofSettings? hbuilt).mapsOrdered

/-- Stored settings hold no leaf where the desired ones hold a map. -/
structure Tree.Fits (desired stored : Tree) : Prop where
  ordered : stored.Ordered
  maps : ∀ p v w, desired.lookup p = some v → v.isObject = true → stored.lookup p = some w →
    w.isObject = true

/-! ## What each way of changing a resource leaves -/

/-- What is stored of a payload is settled. -/
theorem settled_of_payload {d : Desired} (h : d.Plain) {payload : Desired.Payload}
    (hp : d.payload = .ok payload) :
    Settled d ⟨payload.settings.echo, some payload.schema, payload.template⟩ := by
  obtain ⟨want, hmark, rfl⟩ := exists_mark_of_payload hp
  refine settled_of_agrees (h.ordered.not_drifted _ _) h.mapsOrdered.echo
    (Tree.agrees_echo h.noDoubles) hmark (ownedSchema?_of_mark hmark _ _) ?_
  exact Tree.schemaDiffers_self (Ownership.mapsOrdered_of_mark hmark h.ordered.schema.mapsOrdered)

/-- A resource after an update with settings, a schema, or both. -/
def Observed.after (o : Observed) (settings : Option Tree) (schema : Option Json) : Observed where
  settings := match settings with
    | none => o.settings
    | some sent => o.settings.overlay sent.echo
  schema := schema.or o.schema
  template := o.template

/-- The settings after an update that sent what it had to agree with the desired ones. -/
theorem agrees_after_update {d : Desired} (h : d.Plain) {o : Observed}
    (hfits : d.settings.Fits o.settings) {changed : Bool}
    (hchanges : Tree.changes? d.settings o.settings d.enforcesFixed = .ok changed)
    (schema : Option Json) :
    let after := o.after (if changed then some (outgoingSettings d) else none) schema
    Tree.Agrees d.settings after.settings ∧ after.settings.MapsOrdered := by
  have ho : o.settings.MapsOrdered := hfits.ordered.mapsOrdered
  have hd : d.settings.MapsOrdered := h.mapsOrdered
  cases changed with
  | false => exact ⟨Tree.agrees_of_changes? ho hchanges, ho⟩
  | true =>
    simp only [Observed.after, if_true, outgoingSettings]
    cases henforce : d.enforcesFixed with
    | true =>
      rw [henforce] at hchanges
      refine ⟨?_, ho.overlay (hd.without Tree.fixedSettings).echo⟩
      exact Tree.agrees_overlay_withoutFixed h.noDoubles hd h.fixed hfits.maps hchanges
    | false => exact ⟨Tree.agrees_overlay_self h.noDoubles hd, ho.overlay hd.echo⟩

/-- What is stored after an update that sent what had changed is settled. -/
theorem settled_after_update {d : Desired} (h : d.Plain) {o : Observed}
    (hfits : d.settings.Fits o.settings) (hdrift : definitionDrifted d o = false) {changed : Bool}
    (hchanges : Tree.changes? d.settings o.settings d.enforcesFixed = .ok changed)
    {want seen : Tree} (hmark : Ownership.mark d.schema = .ok want.toJson)
    (howned : o.ownedSchema? = some seen.toJson) :
    Settled d (o.after (if changed then some (outgoingSettings d) else none)
      (if Tree.schemaDiffers want seen then some want.toJson else none)) := by
  obtain ⟨hagrees, hordered⟩ := agrees_after_update h hfits hchanges
    (if Tree.schemaDiffers want seen then some want.toJson else none)
  cases hdiffers : Tree.schemaDiffers want seen with
  | true =>
    rw [hdiffers] at hagrees hordered
    refine settled_of_agrees hdrift hordered hagrees hmark (ownedSchema?_of_mark hmark _ _) ?_
    have hwant := Ownership.mapsOrdered_of_mark hmark h.ordered.schema.mapsOrdered
    exact Tree.schemaDiffers_self hwant
  | false =>
    rw [hdiffers] at hagrees hordered
    exact settled_of_agrees hdrift hordered hagrees hmark howned hdiffers

namespace Cluster

variable {c c' : Cluster} {siblings : Except Fault (List String)}

theorem stored?_of_created {d : Desired} {payload : Desired.Payload}
    (h : Answered (respond siblings) c
      (changed d.kind .create (.create d.name payload) (.ok ())) c') :
    c'.stored? d.name = some ⟨payload.settings.echo, some payload.schema, payload.template⟩ := by
  rw [serve_of_changed h, serve, stored?_put, if_pos rfl]

theorem stored?_of_schema_sent {d : Desired} {o : Observed} {schema : Json}
    (hstored : c.stored? d.name = some o)
    (h : Answered (respond siblings) c
      (changed d.kind .updateSchema (.updateSchema d.name schema) (.ok ())) c') :
    c'.stored? d.name = some (o.after none (some schema)) := by
  rw [serve_of_changed h, serve, stored?_change, if_pos rfl, hstored]
  rfl

theorem stored?_of_settings_sent {d : Desired} {o : Observed} {settings : Tree}
    (hstored : c.stored? d.name = some o)
    (h : Answered (respond siblings) c
      (changed d.kind .updateSettings (.updateSettings d.name settings) (.ok ())) c') :
    c'.stored? d.name = some (o.after (some settings) none) := by
  rw [serve_of_changed h, serve, stored?_change, if_pos rfl, hstored]
  rfl

/-- A schema that was sent without an error is stored. -/
theorem stored?_of_sendsSchema {d : Desired} {previous : Status} {schema : Json} {t : Transcript}
    {out : Outcome} {o : Observed} (h : SendsSchema d previous schema t out)
    (hclean : out.isFailure = false) (hstored : c.stored? d.name = some o)
    (hanswered : Answered (respond siblings) c t c') :
    out = updated d ∧ c'.stored? d.name = some (o.after none (some schema)) := by
  cases h with
  | failed e =>
    simp at hclean
  | confirmed => exact ⟨rfl, stored?_of_schema_sent hstored hanswered⟩

/-- What a plan that was carried out without an error leaves. -/
theorem stored?_of_executes {d : Desired} {previous : Status} {settings : Option Tree}
    {schema : Option Json} {t : Transcript} {out : Outcome} {o : Observed}
    (h : Executes d previous (.send settings schema) t out) (hclean : out.isFailure = false)
    (hstored : c.stored? d.name = some o) (hanswered : Answered (respond siblings) c t c') :
    Acknowledged out.status ∧ c'.stored? d.name = some (o.after settings schema) := by
  cases h with
  | idle =>
    obtain rfl := answered_nil_iff.mp hanswered
    exact ⟨acknowledged_unchanged d previous, hstored⟩
  | schemaOnly schema hsend =>
    obtain ⟨rfl, hafter⟩ := stored?_of_sendsSchema hsend hclean hstored hanswered
    exact ⟨⟨rfl, rfl⟩, hafter⟩
  | settingsFailed settings schema e =>
    simp at hclean
  | settingsOnly settings => exact ⟨⟨rfl, rfl⟩, stored?_of_settings_sent hstored hanswered⟩
  | both settings schema hsend =>
    -- the schema is laid on what the settings left
    obtain ⟨mid, hfirst, hsecond⟩ := answered_append_iff.mp hanswered
    have hmid := stored?_of_settings_sent hstored hfirst
    obtain ⟨rfl, hafter⟩ := stored?_of_sendsSchema hsend hclean hmid hsecond
    exact ⟨⟨rfl, rfl⟩, hafter⟩

/-- Going on with a resource that was found, without an error, settles it. -/
theorem settled_of_converges {d : Desired} (hplain : d.Plain) {previous : Status}
    (hprevious : previous.isUnacknowledgedCreate = false) {t : Transcript} {out : Outcome}
    {o : Observed} (hfits : d.settings.Fits o.settings) (h : Converges d previous o t out)
    (hclean : out.isFailure = false) (hstored : c.stored? d.name = some o)
    (hanswered : Answered (respond siblings) c t c') :
    Acknowledged out.status ∧ ∃ o', c'.stored? d.name = some o' ∧ Settled d o' := by
  cases h with
  | notOwned hschema =>
    simp at hclean
  | adopted schema hschema hpending =>
    rw [hprevious] at hpending
    cases hpending
  | refused schema hschema _ f hplan =>
    simp at hclean
  | executed schema hschema _ p hplan hexec =>
    -- a plan that was carried out is a replacement or what had changed
    have hdecides := decides_plan (d := d) hschema
    rw [hplan] at hdecides
    cases hdecides with
    | drifted hdrift =>
      cases hexec with
      | replaceMalformed m hp =>
        simp at hclean
      | replaceFailed payload hp e =>
        simp at hclean
      | replaced payload hp =>
        exact ⟨⟨rfl, rfl⟩, _, stored?_of_created hanswered, settled_of_payload hplain hp⟩
    | sends hdrift changed hchanges want seen hmark hseen =>
      subst hseen
      obtain ⟨hstatus, hafter⟩ := stored?_of_executes hexec hclean hstored hanswered
      exact ⟨hstatus, _, hafter, settled_after_update hplain hfits hdrift hchanges hmark hschema⟩

/-! ## Two passes -/

/-- A pass that records no error settles the resource. -/
theorem settled_of_reconcile {d : Desired} (hplain : d.Plain) {previous : Status}
    (hprevious : previous.isUnacknowledgedCreate = false) (hwaiting : c.waiting = [])
    (hfits : ∀ o, c.stored? d.name = some o → d.settings.Fits o.settings) {out : Outcome}
    (hvalue : (c.reconcile d previous).value = .ok out) (hclean : out.isFailure = false) :
    Acknowledged out.status ∧
      ∃ o', (c.reconcile d previous).state.stored? d.name = some o' ∧ Settled d o' := by
  obtain ⟨t, hends, hanswered, _⟩ :=
    exists_transcript (respond (.ok [])) (Pass.reconcile d previous) c
  rw [← reconcile] at hends hanswered
  rw [hvalue] at hends
  have hcourse := course_of_ends hends
  -- an unread resource gives no outcome, so only two courses are left
  cases hcourse with
  | creates hread hcreate =>
    obtain ⟨mid, hseen, hrest⟩ := answered_append_iff.mp hanswered
    obtain ⟨rfl, payload, hp, rfl⟩ := hcreate.eq_created hclean
    exact ⟨⟨rfl, rfl⟩, _, stored?_of_created hrest, settled_of_payload hplain hp⟩
  | converges observed hread hconv =>
    obtain ⟨mid, hseen, hrest⟩ := answered_append_iff.mp hanswered
    obtain ⟨hfound, rfl⟩ := reads_of_no_waiting hwaiting hread hseen
    have hstored : mid.stored? d.name = some observed := (Except.ok.inj hfound).symm
    exact settled_of_converges hplain hprevious (hfits observed hstored) hconv hclean hstored hrest

/-- A pass over a settled resource changes nothing and says so. -/
theorem reconcile_of_settled {d : Desired} {previous : Status}
    (hprevious : previous.isUnacknowledgedCreate = false) (hwaiting : c.waiting = [])
    {o : Observed} (hstored : c.stored? d.name = some o) (h : Settled d o) :
    (∀ call ∈ callsOf (c.reconcile d previous).asked, call.isMutation = false) ∧
      (c.reconcile d previous).state = c ∧
      (c.reconcile d previous).value = .ok (unchanged d previous) := by
  obtain ⟨t, hends, hanswered, hasked⟩ :=
    exists_transcript (respond (.ok [])) (Pass.reconcile d previous) c
  rw [← reconcile] at hends hanswered hasked
  rw [hasked]
  generalize (c.reconcile d previous).value = value at hends
  generalize (c.reconcile d previous).state = state at hanswered
  cases course_of_ends hends with
  | unread e hread =>
    obtain ⟨hfound, _⟩ := reads_of_no_waiting hwaiting hread hanswered
    cases hfound
  | creates hread hcreate =>
    -- a stored resource is found, so there is no creation
    obtain ⟨mid, hseen, _⟩ := answered_append_iff.mp hanswered
    obtain ⟨hfound, rfl⟩ := reads_of_no_waiting hwaiting hread hseen
    rw [hstored] at hfound
    cases hfound
  | converges observed hread hconv =>
    obtain ⟨mid, hseen, hrest⟩ := answered_append_iff.mp hanswered
    obtain ⟨hfound, rfl⟩ := reads_of_no_waiting hwaiting hread hseen
    rw [hstored] at hfound
    cases hfound
    -- the plan is to send nothing, and no other way of going on fits it
    obtain ⟨schema, howned, hplan⟩ := h
    cases hconv with
    | notOwned hschema =>
      rw [howned] at hschema
      cases hschema
    | adopted schema hschema hpending =>
      rw [hprevious] at hpending
      cases hpending
    | refused schema' hschema _ f hrefused =>
      rw [howned] at hschema
      cases hschema
      rw [hplan] at hrefused
      cases hrefused
    | executed schema' hschema _ p hexecuted hexec =>
      rw [howned] at hschema
      cases hschema
      rw [hplan] at hexecuted
      cases hexecuted
      cases hexec with
      | idle =>
        refine ⟨isMutation_of_changesOf ?_, answered_nil_iff.mp hrest, rfl⟩
        rw [List.append_nil]
        exact hread.changesOf

theorem waiting_reconcile (hwaiting : c.waiting = []) (d : Desired) (previous : Status) :
    (c.reconcile d previous).state.waiting = [] := by
  obtain ⟨t, _, hanswered, _⟩ :=
    exists_transcript (respond (.ok [])) (Pass.reconcile d previous) c
  refine hanswered.preserves (motive := fun s => s.waiting = []) ?_ hwaiting
  intro x _ s hs
  exact respond_of_no_waiting hs x.question

/-- A pass after one that recorded no error, for the same declaration and with the status it
returned, asks for no change, leaves the cluster and the status as they are, and reports that there
was nothing to change. -/
theorem reconcile_twice {c : Cluster} {d : Desired} {previous : Status} {out : Outcome}
    (hplain : d.Plain) (hfits : ∀ o, c.stored? d.name = some o → d.settings.Fits o.settings)
    (hprevious : previous.isUnacknowledgedCreate = false) (hwaiting : c.waiting = [])
    (hvalue : (c.reconcile d previous).value = .ok out) (hclean : out.isFailure = false) :
    let first := (c.reconcile d previous).state
    let second := first.reconcile d out.status
    (∀ call ∈ callsOf second.asked, call.isMutation = false) ∧ second.state = first ∧
      second.value =
        .ok ⟨out.status, .ensure, "no changes on " ++ d.kind.label ++ " named " ++ d.name⟩ := by
  intro first second
  obtain ⟨hstatus, o', hstored, hsettled⟩ :=
    settled_of_reconcile hplain hprevious hwaiting hfits hvalue hclean
  have hfirst : first.waiting = [] := waiting_reconcile hwaiting d previous
  obtain ⟨hcalls, hstate, hsecond⟩ := reconcile_of_settled
    (isUnacknowledgedCreate_of_acknowledged hstatus) hfirst hstored hsettled
  refine ⟨hcalls, hstate, hsecond.trans (congrArg Except.ok ?_)⟩
  calc unchanged d out.status
      = ⟨(unchanged d out.status).status, .ensure,
          "no changes on " ++ d.kind.label ++ " named " ++ d.name⟩ := rfl
    _ = ⟨out.status, .ensure, "no changes on " ++ d.kind.label ++ " named " ++ d.name⟩ := by
        rw [status_unchanged d hstatus]

theorem reconcile_twice_logs :
    let d : Desired :=
      ⟨"logs", false, ⟨[("index", .obj [("blocks", .str "true")])]⟩, .obj [], none⟩
    let c : Cluster := ⟨[("logs", ⟨⟨[("index", .obj [("blocks", .str "false")])]⟩,
      some (.obj [("_meta", .obj [("managed-by", .str Ownership.identity)])]), none⟩)], [], []⟩
    let first := (c.reconcile d {}).state
    let second := first.reconcile d (updated d).status
    (∀ call ∈ callsOf second.asked, call.isMutation = false) ∧ second.state = first ∧
      second.value =
        .ok ⟨(updated d).status, .ensure,
          "no changes on " ++ d.kind.label ++ " named " ++ d.name⟩ := by
  intro d c
  have hbuilt : Tree.ofSettings? (.obj [("index", .obj [("blocks", .str "true")])]) =
      .ok d.settings := by cbv
  have hordered := (Tree.expanded_of_ofSettings? hbuilt).mapsOrdered
  have hplain : d.Plain := by
    refine ⟨⟨_, hbuilt⟩, ?_, ?_, ⟨?_, ?_⟩⟩
    · intro p x h
      have hp : p ∈ d.settings.leafPaths := (Tree.mem_leafPaths_iff hordered).mpr ⟨_, h, rfl⟩
      obtain rfl : p = ["index", "blocks"] := List.mem_singleton.mp hp
      cases h
    · have hnone : ∀ key ∈ Tree.fixedSettings,
          (d.settings.lookup (Path.ofDotted key)).isNone = true := by decide
      intro key hkey v hv
      have hkey' := hnone key hkey
      rw [hv] at hkey'
      cases hkey'
    · exact ⟨.nil, trivial⟩
    · intro t ht
      cases ht
  have hfits : ∀ o, c.stored? d.name = some o → d.settings.Fits o.settings := by
    intro o ho
    cases ho
    have hstored : Json.Ordered (.obj [("index", .obj [("blocks", .str "false")])]) := by
      simp [Json.Ordered, Json.OrderedMembers, Keyed.Ordered]
    refine ⟨hstored, ?_⟩
    intro p v w hv hobj hw
    cases hleaf : w.isObject with
    | true => rfl
    | false =>
      have hp := (Tree.mem_leafPaths_iff hstored.mapsOrdered).mpr ⟨w, hw, hleaf⟩
      obtain rfl : p = ["index", "blocks"] := List.mem_singleton.mp hp
      cases hv
      cases hobj
  have hvalue : (c.reconcile d {}).value = .ok (updated d) := rfl
  have hclean : (updated d).isFailure = false := rfl
  exact reconcile_twice hplain hfits rfl rfl hvalue hclean

end Cluster

end IndexKeeper

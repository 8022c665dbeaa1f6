import IndexKeeper.Controller.Api
import IndexKeeper.Json.MergePatch
import IndexKeeper.Proofs.Settings.Lookup

/-!
# What a patch leaves of a stored object

A merge patch sets the members it names and leaves the others (`get?_mergeMembers_of_some`,
`get?_mergeMembers_of_none`); it can't remove a member by leaving it out.  A status without an
operation has no member for one, so the patch with it would keep the operation that was stored.
With an operation, the stored document reads back as the status that was written, whatever it held
before (`ofJson?_mergePatch`), and everything else as before (`writesStatus_patchStatus`).

The patch of the finalizers replaces the list that was stored, and of the rest of the document
touches nothing but the version, which it sends as it was read (`writesFinalizers_patchFinalizers`).
-/

namespace IndexKeeper

/-! ## Merge patches -/

namespace Json

variable {key : String} {target patch : List (String × Json)}

@[simp] theorem mergePatch_obj (v : Json) (patch : List (String × Json)) :
    v.mergePatch (obj patch) = obj (mergeMembers (v.members?.getD []) patch) := rfl

theorem mergeMembers_null (target : List (String × Json)) (k : String)
    (rest : List (String × Json)) :
    mergeMembers target ((k, null) :: rest) = mergeMembers (Keyed.erase k target) rest := rfl

theorem mergeMembers_cons (target : List (String × Json)) (k : String) {v : Json} (hv : v ≠ null)
    (rest : List (String × Json)) :
    mergeMembers target ((k, v) :: rest) =
      mergeMembers (Keyed.insert k (mergePatch ((Keyed.get? k target).getD null) v) target)
        rest := by
  cases v with
  | null => exact absurd rfl hv
  | _ => rfl

/-- A member that a patch does not name stays. -/
theorem get?_mergeMembers_of_none (h : Keyed.get? key patch = none) :
    Keyed.get? key (mergeMembers target patch) = Keyed.get? key target := by
  induction patch generalizing target with
  | nil => rfl
  | cons e rest ih =>
    obtain ⟨k, v⟩ := e
    rw [Keyed.get?_cons] at h
    split at h
    · cases h
    · next hk =>
      have hne : key ≠ k := Ne.symm hk
      by_cases hv : v = null
      · rw [hv, mergeMembers_null, ih h, Keyed.get?_erase_of_ne hne]
      · rw [mergeMembers_cons _ _ hv, ih h, Keyed.get?_insert_of_ne hne]

/-- A member that a patch names, and not to remove it, is patched. -/
theorem get?_mergeMembers_of_some {v : Json} (hord : Keyed.Ordered patch)
    (h : Keyed.get? key patch = some v) (hv : v ≠ null) :
    Keyed.get? key (mergeMembers target patch) =
      some (mergePatch ((Keyed.get? key target).getD null) v) := by
  induction patch generalizing target with
  | nil => cases h
  | cons e rest ih =>
    obtain ⟨k, w⟩ := e
    obtain ⟨hhead, htail⟩ := List.pairwise_cons.mp hord
    rw [Keyed.get?_cons] at h
    split at h
    · next hk =>
      cases h
      subst hk
      -- the keys of the patch increase, so nothing after it names this one
      have hrest : Keyed.get? k rest = none := Keyed.Ordered.get?_eq_none_of_forall hhead
      rw [mergeMembers_cons _ _ hv, get?_mergeMembers_of_none hrest, Keyed.get?_insert_self]
    · next hk =>
      have hne : key ≠ k := Ne.symm hk
      by_cases hw : w = null
      · rw [hw, mergeMembers_null, ih htail h, Keyed.get?_erase_of_ne hne]
      · rw [mergeMembers_cons _ _ hw, ih htail h, Keyed.get?_insert_of_ne hne]

/-- A member that a patch names to remove it is gone. -/
theorem get?_mergeMembers_of_null (htarget : Keyed.Ordered target) (hord : Keyed.Ordered patch)
    (h : Keyed.get? key patch = some null) : Keyed.get? key (mergeMembers target patch) = none := by
  induction patch generalizing target with
  | nil => cases h
  | cons e rest ih =>
    obtain ⟨k, w⟩ := e
    obtain ⟨hhead, htail⟩ := List.pairwise_cons.mp hord
    rw [Keyed.get?_cons] at h
    split at h
    · next hk =>
      cases h
      subst hk
      have hrest : Keyed.get? k rest = none := Keyed.Ordered.get?_eq_none_of_forall hhead
      rw [mergeMembers_null, get?_mergeMembers_of_none hrest, htarget.get?_erase_self]
    · next hk =>
      by_cases hw : w = null
      · rw [hw, mergeMembers_null, ih (htarget.erase k) htail h]
      · rw [mergeMembers_cons _ _ hw, ih (htarget.insert k _) htail h]

theorem get?_eq_get?_members (key : String) (v : Json) :
    v.get? key = Keyed.get? key (v.members?.getD []) := by
  cases v <;> rfl

/-- A patch of one member patches it. -/
theorem get?_mergePatch_single (document : Json) {v : Json} (hv : v ≠ null) :
    (document.mergePatch (obj [(key, v)])).get? key =
      some (((document.get? key).getD null).mergePatch v) := by
  have hord : Keyed.Ordered [(key, v)] := List.pairwise_singleton _ _
  have hget : Keyed.get? key [(key, v)] = some v := if_pos rfl
  rw [mergePatch_obj, get?, get?_mergeMembers_of_some hord hget hv, get?_eq_get?_members]

/-- A patch of one member leaves all others. -/
theorem get?_mergePatch_single_of_ne (document v : Json) {other : String} (h : other ≠ key) :
    (document.mergePatch (obj [(key, v)])).get? other = document.get? other := by
  have hnone : Keyed.get? other [(key, v)] = none := by
    rw [Keyed.get?_cons, if_neg (Ne.symm h), Keyed.get?_nil]
  rw [mergePatch_obj, get?, get?_mergeMembers_of_none hnone, get?_eq_get?_members]

end Json

/-! ## The status -/

namespace Status

open Json

/-- What a stored status has to hold to be read as a status with an operation. -/
theorem ofJson?_of_members {ms : List (String × Json)} {name error : String}
    {operation : Operation} {acknowledged : Bool}
    (hname : Keyed.get? "resourceName" ms = some (.str name))
    (hoperation : Keyed.get? "operation" ms = some (.str operation.stored))
    (hacknowledged : Keyed.get? "acknowledged" ms = some (.bool acknowledged))
    (herror : Keyed.get? "latestError" ms = some (.str error)) :
    ofJson? (.obj ms) = some ⟨name, some operation, acknowledged, error⟩ := by
  have hword : Operation.ofStored? (.str operation.stored) = some operation := by
    cases operation <;> rfl
  simp [ofJson?, Record.read?, Record.default?, Record.optional?, hname, hoperation,
    hacknowledged, herror, hword, Json.text?, Json.bool?]

/-- The members of a stored status with an operation. -/
theorem exists_members {s : Status} {operation : Operation} (h : s.operation = some operation) :
    ∃ ms, s.toJson = .obj ms ∧ Keyed.Ordered ms ∧
      Keyed.get? "resourceName" ms = some (.str s.resourceName) ∧
      Keyed.get? "operation" ms = some (.str operation.stored) ∧
      Keyed.get? "acknowledged" ms = some (.bool s.acknowledged) ∧
      Keyed.get? "latestError" ms = some (.str s.latestError) := by
  refine ⟨_, rfl, Keyed.Ordered.ofList _, ?_⟩
  simp [h, Keyed.ofList, Keyed.get?_insert]

/-- A status with an operation is read from what a patch with it leaves, whatever was there. -/
theorem ofJson?_mergePatch {s : Status} (hoperation : s.operation ≠ none) (old : Json) :
    ofJson? (old.mergePatch s.toJson) = some s := by
  obtain ⟨operation, hs⟩ := Option.ne_none_iff_exists'.mp hoperation
  obtain ⟨ms, hms, hord, hname, hword, hacknowledged, herror⟩ := exists_members hs
  rw [hms, mergePatch_obj, ofJson?_of_members
    (get?_mergeMembers_of_some hord hname Json.noConfusion)
    (get?_mergeMembers_of_some hord hword Json.noConfusion)
    (get?_mergeMembers_of_some hord hacknowledged Json.noConfusion)
    (get?_mergeMembers_of_some hord herror Json.noConfusion), ← hs]

end Status

/-! ## Stored documents -/

namespace Controller

open Json

/-- The status that is read from a stored document. -/
def readStatus (document : Json) : Option Status :=
  (document.get? "status").bind Status.ofJson?

/-- A member of the metadata of a document. -/
def metadata? (name : String) (document : Json) : Option Json :=
  (document.get? "metadata").bind (Json.get? name)

/-- The finalizers that are read from a stored document. -/
def readFinalizers (document : Json) : Option (List String) :=
  (metadata? "finalizers" document).bind (Json.list? Json.text?)

/-- The document after a request was granted. -/
def ApiRequest.applied (r : ApiRequest) (document : Json) : Json :=
  (r.patch?.map document.mergePatch).getD document

/-- A request writes a status: whatever document it is granted on has this status after it, and is
else as it was. -/
structure WritesStatus (r : ApiRequest) (s : Status) : Prop where
  written : ∀ document, readStatus (r.applied document) = some s
  rest : ∀ document name, name ≠ "status" → (r.applied document).get? name = document.get? name
  readsBack : ∀ kind document o, Object.ofJson? kind document = some o →
    Object.ofJson? kind (r.applied document) = some { o with status := some s }

/-- A request writes the finalizers of an object: it names the version in which the object was read,
and whatever document it is granted on has these finalizers after it, and is else as it was. -/
structure WritesFinalizers (r : ApiRequest) (o : Object) (finalizers : List String) : Prop where
  version : ∃ patch, r.patch? = some patch ∧
    metadata? "resourceVersion" patch = some ((o.resourceVersion.map Json.str).getD .null)
  written : ∀ document, readFinalizers (r.applied document) = some finalizers
  metadata : ∀ document name, name ≠ "finalizers" → name ≠ "resourceVersion" →
    metadata? name (r.applied document) = metadata? name document
  rest : ∀ document name, name ≠ "metadata" → (r.applied document).get? name = document.get? name
  readsBack : ∀ kind document, document.Ordered → Object.ofJson? kind document = some o →
    Object.ofJson? kind (r.applied document) = some { o with finalizers := finalizers }

variable {o : Object} {s : Status} {document : Json} {kind : Kind} {finalizers : List String}

/-! ### The status -/

theorem get?_applied_patchStatus (o : Object) (s : Status) (document : Json) :
    ((ApiRequest.patchStatus o s).applied document).get? "status" =
      some (((document.get? "status").getD .null).mergePatch s.toJson) :=
  get?_mergePatch_single document Json.noConfusion

theorem get?_applied_patchStatus_of_ne (o : Object) (s : Status) (document : Json) {name : String}
    (hname : name ≠ "status") :
    ((ApiRequest.patchStatus o s).applied document).get? name = document.get? name :=
  get?_mergePatch_single_of_ne document s.toJson hname

/-- The status that was written is read back exactly. -/
theorem readStatus_applied (hoperation : s.operation ≠ none) (o : Object) (document : Json) :
    readStatus ((ApiRequest.patchStatus o s).applied document) = some s := by
  rw [readStatus, get?_applied_patchStatus, Option.bind_some, Status.ofJson?_mergePatch hoperation]

/-- The object reads back with the status that was written, and is else as it was. -/
theorem ofJson?_applied_patchStatus (hoperation : s.operation ≠ none) (patched : Object)
    (h : Object.ofJson? kind document = some o) :
    Object.ofJson? kind ((ApiRequest.patchStatus patched s).applied document) =
      some { o with status := some s } := by
  have hmetadata :=
    get?_applied_patchStatus_of_ne patched s document (by decide : "metadata" ≠ "status")
  have hspec := get?_applied_patchStatus_of_ne patched s document (by decide : "spec" ≠ "status")
  have hstatus : Object.optional? ((ApiRequest.patchStatus patched s).applied document) "status"
      Status.ofJson? = some (some s) := by
    obtain ⟨operation, hs⟩ := Option.ne_none_iff_exists'.mp hoperation
    obtain ⟨ms, hms, _⟩ := Status.exists_members hs
    have hget := get?_applied_patchStatus patched s document
    have hread := Status.ofJson?_mergePatch hoperation ((document.get? "status").getD .null)
    -- the patched member is an object, so it does not count as left out
    rw [hms, mergePatch_obj] at hget hread
    simp only [Object.optional?, Record.optional?, hget, hread, Option.map_some]
  simp only [Object.ofJson?, bind, pure, Option.bind_eq_some_iff, Option.some_inj] at h
  obtain ⟨name, hname, namespace_, hnamespace, uid, huid, version, hversion, finalizers,
    hfinalizers, deletion, hdeletion, spec, ⟨v, hv, hspecified⟩, status, _, rfl⟩ := h
  simp only [Object.ofJson?, bind, pure, hmetadata, hspec, hname, hnamespace, huid, hversion,
    hfinalizers, hdeletion, hv, hspecified, hstatus, Option.bind_some]

/-- A status that speaks of an operation is written by its patch. -/
theorem writesStatus_patchStatus (hoperation : s.operation ≠ none) (o : Object) :
    WritesStatus (.patchStatus o s) s where
  written := readStatus_applied hoperation o
  rest document _ hname := get?_applied_patchStatus_of_ne o s document hname
  readsBack _ _ _ h := ofJson?_applied_patchStatus hoperation o h

/-! ### The finalizers -/

theorem list?_text?_ofTexts (texts : List String) :
    Json.list? Json.text? (.ofTexts texts) = some texts := by
  rw [ofTexts, Json.list?]
  induction texts with
  | nil => rfl
  | cons s rest ih => simp [List.mapM_cons, ih, Json.text?]

/-- What the patch of the finalizers says of the metadata. -/
theorem exists_patchFinalizers (o : Object) (finalizers : List String) :
    ∃ ms, (ApiRequest.patchFinalizers o finalizers).patch? = some (.obj [("metadata", .obj ms)]) ∧
      Keyed.Ordered ms ∧ Keyed.get? "finalizers" ms = some (.ofTexts finalizers) ∧
      Keyed.get? "resourceVersion" ms = some ((o.resourceVersion.map Json.str).getD .null) ∧
      ∀ name, name ≠ "finalizers" → name ≠ "resourceVersion" → Keyed.get? name ms = none := by
  refine ⟨_, rfl, Keyed.Ordered.ofList _, ?_, ?_, ?_⟩
  · simp [Keyed.ofList, Keyed.get?_insert]
  · simp [Keyed.ofList]
  · intro name hfinalizers hversion
    simp [Keyed.ofList, Keyed.get?_insert, hfinalizers, hversion]

/-- The members of the metadata of a document. -/
def metadataMembers (document : Json) : List (String × Json) :=
  (((document.get? "metadata").getD .null).members?).getD []

theorem metadata?_eq (name : String) (document : Json) :
    metadata? name document = Keyed.get? name (metadataMembers document) := by
  rw [metadata?, metadataMembers]
  cases document.get? "metadata" with
  | none => rfl
  | some v => exact get?_eq_get?_members name v

theorem ordered_metadataMembers (h : document.Ordered) :
    Keyed.Ordered (metadataMembers document) := by
  rw [metadataMembers]
  cases hmetadata : document.get? "metadata" with
  | none => exact .nil
  | some v =>
    cases v with
    | obj ms =>
      refine h.mapsOrdered ["metadata"] ms ?_
      cases document with
      | obj members =>
        rw [lookup_obj_cons, show Keyed.get? "metadata" members = some (.obj ms) from hmetadata]
        exact lookup_nil _
      | _ => cases hmetadata
    | _ => exact .nil

/-- The metadata after the patch, member by member. -/
theorem metadata?_applied {r : ApiRequest} {ms : List (String × Json)}
    (h : r.patch? = some (.obj [("metadata", .obj ms)])) (name : String) (document : Json) :
    metadata? name (r.applied document) =
      Keyed.get? name (mergeMembers (metadataMembers document) ms) := by
  rw [metadata?, ApiRequest.applied, h, Option.map_some, Option.getD_some,
    get?_mergePatch_single document Json.noConfusion, Option.bind_some, mergePatch_obj, Json.get?,
    metadataMembers]

/-- A member of the metadata that may be left out is read from what is found under its name. -/
theorem optional?_metadata {α : Type} (document : Json) (name : String) (decode : Json → Option α) :
    Object.optional? ((document.get? "metadata").getD (.obj [])) name decode =
      match metadata? name document with
      | none | some .null => some none
      | some v => (decode v).map some := by
  rw [metadata?]
  cases document.get? "metadata" <;> rfl

section Granted

variable (o : Object) (finalizers : List String) (document : Json)

theorem metadata?_finalizers_applied :
    metadata? "finalizers" ((ApiRequest.patchFinalizers o finalizers).applied document) =
      some (.ofTexts finalizers) := by
  obtain ⟨ms, hpatch, hord, hfinalizers, _, _⟩ := exists_patchFinalizers o finalizers
  rw [metadata?_applied hpatch, get?_mergeMembers_of_some hord hfinalizers Json.noConfusion]
  rfl

theorem metadata?_applied_of_ne {name : String} (hne : name ≠ "finalizers")
    (hne' : name ≠ "resourceVersion") :
    metadata? name ((ApiRequest.patchFinalizers o finalizers).applied document) =
      metadata? name document := by
  obtain ⟨ms, hpatch, _, _, _, hnone⟩ := exists_patchFinalizers o finalizers
  rw [metadata?_applied hpatch, get?_mergeMembers_of_none (hnone name hne hne'), metadata?_eq]

theorem get?_applied_patchFinalizers_of_ne {name : String} (hne : name ≠ "metadata") :
    ((ApiRequest.patchFinalizers o finalizers).applied document).get? name =
      document.get? name := by
  obtain ⟨ms, hpatch, _⟩ := exists_patchFinalizers o finalizers
  rw [ApiRequest.applied, hpatch, Option.map_some, Option.getD_some,
    get?_mergePatch_single_of_ne document _ hne]

/-- The version reads back as it was read: the patch sends it, and a null where there is none. -/
theorem metadata?_version_applied (hordered : document.Ordered) :
    metadata? "resourceVersion" ((ApiRequest.patchFinalizers o finalizers).applied document) =
      o.resourceVersion.map Json.str := by
  obtain ⟨ms, hpatch, hord, _, hversion, _⟩ := exists_patchFinalizers o finalizers
  rw [metadata?_applied hpatch]
  cases hread : o.resourceVersion with
  | none =>
    rw [hread] at hversion
    exact get?_mergeMembers_of_null (ordered_metadataMembers hordered) hord hversion
  | some version =>
    rw [hread] at hversion
    rw [get?_mergeMembers_of_some hord hversion Json.noConfusion]
    rfl

end Granted

/-- The object reads back with the finalizers that were written, and is else as it was. -/
theorem ofJson?_applied_patchFinalizers (finalizers : List String) (hordered : document.Ordered)
    (h : Object.ofJson? kind document = some o) :
    Object.ofJson? kind ((ApiRequest.patchFinalizers o finalizers).applied document) =
      some { o with finalizers := finalizers } := by
  have hrest (name : String) (hne : name ≠ "metadata") :=
    get?_applied_patchFinalizers_of_ne o finalizers document hne
  have hplace (name : String) (decode : Json → Option String) (hne : name ≠ "finalizers")
      (hne' : name ≠ "resourceVersion") :
      Object.optional? ((((ApiRequest.patchFinalizers o finalizers).applied document).get?
          "metadata").getD (.obj [])) name decode =
        Object.optional? ((document.get? "metadata").getD (.obj [])) name decode := by
    rw [optional?_metadata, optional?_metadata,
      metadata?_applied_of_ne o finalizers document hne hne']
  have hversion : Object.optional? ((((ApiRequest.patchFinalizers o finalizers).applied
      document).get? "metadata").getD (.obj [])) "resourceVersion" Json.text? =
        some o.resourceVersion := by
    rw [optional?_metadata, metadata?_version_applied o finalizers document hordered]
    cases o.resourceVersion <;> rfl
  have hlist : Object.optional? ((((ApiRequest.patchFinalizers o finalizers).applied
      document).get? "metadata").getD (.obj [])) "finalizers" (Json.list? Json.text?) =
        some (some finalizers) := by
    rw [optional?_metadata, metadata?_finalizers_applied]
    exact congrArg (Option.map some) (list?_text?_ofTexts finalizers)
  have hstatus : Object.optional? ((ApiRequest.patchFinalizers o finalizers).applied document)
      "status" Status.ofJson? = Object.optional? document "status" Status.ofJson? := by
    simp only [Object.optional?, Record.optional?, hrest "status" (by decide)]
  simp only [Object.ofJson?, bind, pure, Option.bind_eq_some_iff, Option.some_inj] at h
  obtain ⟨name, hname, namespace_, hnamespace, uid, huid, version, _, stored, _, deletion,
    hdeletion, spec, ⟨v, hv, hspecified⟩, status, hstored, rfl⟩ := h
  simp only [Object.ofJson?, bind, pure, hrest "spec" (by decide),
    hplace "name" _ (by decide) (by decide), hplace "namespace" _ (by decide) (by decide),
    hplace "uid" _ (by decide) (by decide), hplace "deletionTimestamp" _ (by decide) (by decide),
    hversion, hlist, hstatus, hname, hnamespace, huid, hdeletion, hv, hspecified, hstored,
    Option.bind_some, Option.getD_some]

/-- The finalizers of an object are written by their patch. -/
theorem writesFinalizers_patchFinalizers (o : Object) (finalizers : List String) :
    WritesFinalizers (.patchFinalizers o finalizers) o finalizers where
  version := by
    obtain ⟨ms, hpatch, _, _, hversion, _⟩ := exists_patchFinalizers o finalizers
    exact ⟨_, hpatch, hversion⟩
  written document := by
    rw [readFinalizers, metadata?_finalizers_applied, Option.bind_some, list?_text?_ofTexts]
  metadata document _ hne hne' := metadata?_applied_of_ne o finalizers document hne hne'
  rest document _ hne := get?_applied_patchFinalizers_of_ne o finalizers document hne
  readsBack _ _ hordered h := ofJson?_applied_patchFinalizers finalizers hordered h

end Controller

end IndexKeeper

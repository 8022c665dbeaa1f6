import IndexKeeper.Controller.Pass
import IndexKeeper.Proofs.Pass.Permission
import IndexKeeper.Proofs.Realization
import IndexKeeper.Proofs.Remote.Confirmation

/-!
# Traces of a controller

What a controller asked of its surroundings, with the answers: requests to the server, requests to
the Kubernetes API, and metrics, which nobody answers.  `exchangesOf`, `patchesOf` and `requestsOf`
pick out what a statement is about.  A question of a pass about a resource is spelled out in
requests to the server only (`ends_perform_remote_iff`), apart from the one listing of a clean-up;
patches come from elsewhere (`patchesOf_of_realized`).
-/

namespace IndexKeeper.Controller

open Program

/-- What a controller asked, with the answers. -/
abbrev Trace := List (Exchange Effect Effect.Answer)

/-! ## Exchanges of a trace -/

/-- A request to the server, with what came of it. -/
def sent (request : Http.Request) (reply : Http.Reply) : Exchange Effect Effect.Answer :=
  ⟨.http request, reply⟩

/-- An asking for the objects of a kind, with the answer. -/
def listedObjects (kind : Kind) (r : Except ListError (List Object)) :
    Exchange Effect Effect.Answer :=
  ⟨.kubernetes (.list kind), r⟩

/-- A patch of the finalizers of an object, with the answer. -/
def patchedFinalizers (o : Object) (finalizers : List String) (r : Except Refusal Unit) :
    Exchange Effect Effect.Answer :=
  ⟨.kubernetes (.patchFinalizers o finalizers), r⟩

/-- A patch of the status of an object, with the answer. -/
def patchedStatus (o : Object) (status : Status) (r : Except Refusal Unit) :
    Exchange Effect Effect.Answer :=
  ⟨.kubernetes (.patchStatus o status), r⟩

/-- A metric that was counted. -/
def counted (m : Metric) : Exchange Effect Effect.Answer := ⟨.count m, ()⟩

/-- The requests of an exchange, as a controller asks them. -/
def asTrace (t : Connection.Requests) : Trace := t.map fun x => sent x.question x.response

theorem realized_asTrace (t : Connection.Requests) :
    Realized (fun r => (.ask (.http r) .done : Task Http.Reply)) t (asTrace t) := by
  induction t with
  | nil => exact .nil
  | cons x rest ih =>
    have hpart : Ends (.ask (.http x.question) .done : Task Http.Reply)
        [sent x.question x.response] x.response := .ask _ (.done _)
    exact .cons hpart ih

theorem eq_asTrace_of_realized {t : Connection.Requests} {u : Trace}
    (h : Realized (fun r => (.ask (.http r) .done : Task Http.Reply)) t u) : u = asTrace t := by
  induction h with
  | nil => rfl
  | cons hpart rest ih =>
    obtain ⟨reply, last, rfl, hlast⟩ := ends_ask_iff.mp hpart
    obtain ⟨rfl, hreply⟩ := ends_done_iff.mp hlast
    rw [ih, ← hreply]
    rfl

/-! ## What a trace is about -/

/-- The request to the server in an exchange, with what came of it. -/
def httpExchange? : Exchange Effect Effect.Answer → Option (Exchange Http.Request fun _ => Http.Reply)
  | ⟨.http request, reply⟩ => some ⟨request, reply⟩
  | _ => none

/-- The requests to the server in a trace, in order. -/
def exchangesOf (t : Trace) : Connection.Requests := t.filterMap httpExchange?

/-- Whether an exchange is a patch. -/
def isPatch : Exchange Effect Effect.Answer → Bool
  | ⟨.kubernetes (.patchFinalizers _ _), _⟩ | ⟨.kubernetes (.patchStatus _ _), _⟩ => true
  | _ => false

/-- The patches in a trace, in order. -/
def patchesOf (t : Trace) : Trace := t.filter isPatch

/-- Whether anybody is asked. -/
def isRequest : Exchange Effect Effect.Answer → Bool
  | ⟨.count _, _⟩ => false
  | _ => true

/-- The requests in a trace, to the server and to the Kubernetes API, in order. -/
def requestsOf (t : Trace) : Trace := t.filter isRequest

theorem mem_patchesOf_iff {t : Trace} {x : Exchange Effect Effect.Answer} :
    x ∈ patchesOf t ↔ x ∈ t ∧ isPatch x = true := List.mem_filter

theorem mem_requestsOf_iff {t : Trace} {x : Exchange Effect Effect.Answer} :
    x ∈ requestsOf t ↔ x ∈ t ∧ isRequest x = true := List.mem_filter

section Views

variable (t u : Trace) (m : Metric)

@[simp] theorem exchangesOf_nil : exchangesOf [] = [] := rfl

@[simp] theorem exchangesOf_append : exchangesOf (t ++ u) = exchangesOf t ++ exchangesOf u :=
  List.filterMap_append

@[simp] theorem exchangesOf_counted : exchangesOf (counted m :: t) = exchangesOf t := rfl

@[simp] theorem exchangesOf_patchedFinalizers (o : Object) (finalizers : List String)
    (r : Except Refusal Unit) :
    exchangesOf (patchedFinalizers o finalizers r :: t) = exchangesOf t := rfl

@[simp] theorem patchesOf_nil : patchesOf [] = [] := rfl

@[simp] theorem patchesOf_append : patchesOf (t ++ u) = patchesOf t ++ patchesOf u :=
  List.filter_append t u

@[simp] theorem patchesOf_counted : patchesOf (counted m :: t) = patchesOf t := rfl

@[simp] theorem requestsOf_nil : requestsOf [] = [] := rfl

@[simp] theorem requestsOf_append : requestsOf (t ++ u) = requestsOf t ++ requestsOf u :=
  List.filter_append t u

@[simp] theorem requestsOf_counted : requestsOf (counted m :: t) = requestsOf t := rfl

end Views

theorem mem_exchangesOf_iff {t : Trace} {x : Exchange Http.Request fun _ => Http.Reply} :
    x ∈ exchangesOf t ↔ sent x.question x.response ∈ t := by
  rw [exchangesOf, List.mem_filterMap]
  constructor
  · rintro ⟨y, hy, hx⟩
    obtain ⟨q, r⟩ := y
    cases q with
    | http request =>
      cases hx
      exact hy
    | _ => cases hx
  · intro h
    exact ⟨_, h, rfl⟩

/-- Metrics are no requests to the server. -/
theorem exchangesOf_requestsOf (t : Trace) : exchangesOf (requestsOf t) = exchangesOf t := by
  rw [exchangesOf, requestsOf, List.filterMap_filter]
  refine List.filterMap_congr fun x _ => ?_
  obtain ⟨q, r⟩ := x
  cases q <;> rfl

@[simp] theorem exchangesOf_asTrace (t : Connection.Requests) : exchangesOf (asTrace t) = t := by
  induction t with
  | nil => rfl
  | cons x rest ih =>
    rw [asTrace, List.map_cons, ← asTrace, exchangesOf, List.filterMap_cons, ← exchangesOf, ih]
    rfl

@[simp] theorem patchesOf_asTrace (t : Connection.Requests) : patchesOf (asTrace t) = [] := by
  rw [patchesOf, asTrace, List.filter_map, List.filter_eq_nil_iff.mpr]
  · rfl
  · intro x _
    exact Bool.false_ne_true

/-! ## What a pass about a resource asks -/

variable {c : Connection} {o : Object}

/-- A call is spelled out in the requests of its exchange. -/
theorem ends_perform_remote_iff {call : Call} {t : Trace} {r : call.Answer} :
    Ends (perform c o (.remote call)) t r ↔
      ∃ requests, Ends (c.perform o.kind call) requests r ∧ t = asTrace requests := by
  rw [perform, ends_realize_iff]
  constructor
  · rintro ⟨requests, hends, hrealized⟩
    exact ⟨requests, hends, eq_asTrace_of_realized hrealized⟩
  · rintro ⟨requests, hends, rfl⟩
    exact ⟨requests, hends, realized_asTrace requests⟩

/-- The names that others declare come from one listing. -/
theorem exists_listing_of_ends {t : Trace} {r : Except Fault (List String)}
    (h : Ends (perform c o .siblings) t r) : ∃ answer, t = [listedObjects o.kind answer] := by
  obtain ⟨answer, rest, rfl, hrest⟩ := ends_ask_iff.mp h
  cases answer with
  | error e =>
    obtain ⟨rfl, _⟩ := ends_done_iff.mp hrest
    exact ⟨.error e, rfl⟩
  | ok found =>
    obtain ⟨rfl, _⟩ := ends_done_iff.mp hrest
    exact ⟨.ok found, rfl⟩

theorem eq_counted_of_ends {m : Metric} {t : Trace} {r : Unit}
    (h : Ends (perform c o (.count m)) t r) : t = [counted m] := by
  obtain ⟨answer, rest, rfl, hrest⟩ := ends_ask_iff.mp h
  obtain ⟨rfl, _⟩ := ends_done_iff.mp hrest
  rfl

/-- A change is counted and then spelled out in the requests of its call. -/
theorem exists_requests_of_changed {kind : Kind} {operation : Mutation} {call : Call}
    {r : call.Answer} {u : Trace}
    (h : Realized (perform c o) (Pass.changed kind operation call r) u) :
    ∃ requests, u = counted (.mutations kind operation) :: asTrace requests ∧
      Ends (c.perform o.kind call) requests r := by
  obtain ⟨first, rest, rfl, hcounted, hrest⟩ := realized_cons_iff.mp h
  obtain ⟨part, last, rfl, hcall, hnil⟩ := realized_cons_iff.mp hrest
  obtain rfl := realized_nil_iff.mp hnil
  obtain ⟨requests, hends, rfl⟩ := ends_perform_remote_iff.mp hcall
  refine ⟨requests, ?_, hends⟩
  rw [eq_counted_of_ends hcounted, List.append_nil, List.singleton_append]

/-- A pass about a resource patches nothing. -/
theorem patchesOf_of_realized {t : Pass.Transcript} {u : Trace}
    (h : Realized (perform c o) t u) : patchesOf u = [] := by
  induction h with
  | nil => rfl
  | @cons x t part u hpart rest ih =>
    obtain ⟨q, r⟩ := x
    rw [patchesOf_append, ih, List.append_nil]
    cases q with
    | remote call =>
      obtain ⟨requests, _, rfl⟩ := ends_perform_remote_iff.mp hpart
      exact patchesOf_asTrace requests
    | siblings =>
      obtain ⟨answer, rfl⟩ := exists_listing_of_ends hpart
      rfl
    | count m =>
      rw [eq_counted_of_ends hpart]
      rfl

/-! ## What changes something at the server -/

open Connection in
/-- The requests of a call that changes nothing at the cluster change nothing at the server. -/
theorem isChange_of_ends_perform {call : Call} {t : Connection.Requests} {r : call.Answer}
    (hcall : call.isMutation = false) (h : Ends (c.perform o.kind call) t r) :
    ∀ x ∈ t, x.question.method.isChange = false := by
  intro x hx
  cases call with
  | probe name =>
    obtain ⟨sent, hsent, _⟩ := ends_perform_probe_iff.mp h
    rw [(hsent.eq_request x hx).method]
    rfl
  | fetch name =>
    obtain ⟨sent, hsent, _⟩ := ends_perform_fetch_iff.mp h
    rw [(hsent.eq_request x hx).method]
    rfl
  | _ => cases hcall

/-- A request that changes something at the server is one of a change of the pass. -/
theorem exists_change_of_realized {t : Pass.Transcript} {u : Trace}
    (h : Realized (perform c o) t u) {x : Exchange Http.Request fun _ => Http.Reply}
    (hx : x ∈ exchangesOf u) (hchange : x.question.method.isChange = true) :
    ∃ call r requests, Pass.replied call r ∈ Pass.changesOf t ∧ call.isMutation = true ∧
      Ends (c.perform o.kind call) requests r ∧ x ∈ requests := by
  obtain ⟨y, hy, part, hpart, hmem⟩ := h.exists_of_mem_spelled (mem_exchangesOf_iff.mp hx)
  have hin := mem_exchangesOf_iff.mpr hmem
  obtain ⟨q, r⟩ := y
  cases q with
  | remote call =>
    obtain ⟨requests, hends, rfl⟩ := ends_perform_remote_iff.mp hpart
    rw [exchangesOf_asTrace] at hin
    have hmutation : call.isMutation = true := by
      by_contra hreads
      have hquiet := isChange_of_ends_perform (Bool.eq_false_iff.mpr hreads) hends x hin
      exact Bool.false_ne_true (hquiet.symm.trans hchange)
    exact ⟨call, r, requests, List.mem_filter.mpr ⟨hy, hmutation⟩, hmutation, hends, hin⟩
  | siblings =>
    obtain ⟨answer, rfl⟩ := exists_listing_of_ends hpart
    cases hin
  | count m =>
    rw [eq_counted_of_ends hpart] at hin
    cases hin

/-- A pass without changes changes nothing at the server. -/
theorem isChange_of_changesOf {t : Pass.Transcript} {u : Trace} (h : Realized (perform c o) t u)
    (hchanges : Pass.changesOf t = []) : ∀ x ∈ exchangesOf u, x.question.method.isChange = false := by
  intro x hx
  by_contra hchange
  obtain ⟨call, r, requests, hmem, _⟩ :=
    exists_change_of_realized h hx ((Bool.not_eq_false _).mp hchange)
  rw [hchanges] at hmem
  cases hmem

end IndexKeeper.Controller

import RpgLint.Rule.Store

/-!
# Histories of a store

A store serves one request after another, and each may come with a fault that keeps the file from
being written.  What a single request can do is said once, by `RuleStore.Serves`; whatever holds of
all histories follows from it by induction on the requests.

## Main definitions

* `RuleStore.Serves` — the four ways in which a request ends.
* `StoreEvent` — a served request with the store before and after it.
* `RuleStore.served`, `RuleStore.history` — the store after some requests, and the events on the
  way.

## Main results

* `RuleStore.serves_serve` — each request ends in one of the four ways.
* `RuleStore.exists_of_mem_history` — an event of a history is a request served after those before
  it.
* `RuleStore.served_memory` — faults leave no trace in memory.
* `StoreEvent.Served.made_of_ok` — a change that was answered was made and written.
-/

namespace RpgLint

/-! ### A single request -/

/-- How a request to a store ends: with which store, and with which reply. -/
inductive RuleStore.Serves (store : RuleStore) :
    StoreRequest → Option Fault → RuleStore → Except Failure StoreReply → Prop
  /-- A request that only reads is answered, and nothing happens. -/
  | read {request : StoreRequest} {fault : Option Fault} {reply : StoreReply}
      (hread : ∀ change, request ≠ .change change) : Serves store request fault store (.ok reply)
  /-- A change is refused, and nothing happens. -/
  | refused {change : RuleChange} {fault : Option Fault} {failure : Failure}
      (hchange : store.memory.change change = .error failure) :
      Serves store (.change change) fault store (.error failure)
  /-- A change is made in memory, but the file cannot be written. -/
  | unwritten {change : RuleChange} {fault : Fault} {memory : RuleFile} {answer : RuleAnswer}
      (hchange : store.memory.change change = .ok (memory, answer)) :
      Serves store (.change change) (some fault) { store with memory := memory }
        (.error (.io fault))
  /-- A change is made in memory and in the file. -/
  | written {change : RuleChange} {memory : RuleFile} {answer : RuleAnswer}
      (hchange : store.memory.change change = .ok (memory, answer)) :
      Serves store (.change change) none { memory := memory, disk := some memory.exportText }
        (.ok (.answer answer))

namespace RuleStore

/-- **Each request ends in one of the four ways.** -/
theorem serves_serve (store : RuleStore) (request : StoreRequest) (fault : Option Fault) :
    store.Serves request fault (store.serve fault request).1 (store.serve fault request).2 := by
  cases request with
  | change change =>
    cases hchange : store.memory.change change with
    | error failure =>
      -- a refused change never gets to the file
      have hserve : store.serve fault (.change change) = (store, .error failure) := by
        simp only [serve, perform, hchange]
        rfl
      rw [hserve]
      exact .refused hchange
    | ok result =>
      obtain ⟨memory, answer⟩ := result
      -- a change that is made depends on the file for the reply alone
      cases fault with
      | some fault =>
        have hserve : store.serve (some fault) (.change change) =
            ({ store with memory := memory }, .error (.io fault)) := by
          simp only [serve, perform, hchange]
          rfl
        rw [hserve]
        exact .unwritten hchange
      | none =>
        have hserve : store.serve none (.change change) =
            ({ memory := memory, disk := some memory.exportText }, .ok (.answer answer)) := by
          simp only [serve, perform, hchange]
          rfl
        rw [hserve]
        exact .written hchange
  | get id => exact .read fun _ h => nomatch h
  | rules => exact .read fun _ h => nomatch h
  | exportText => exact .read fun _ h => nomatch h

end RuleStore

/-- The rules in memory after a request: those of a change that is not refused. -/
def RuleFile.remember (memory : RuleFile) : StoreRequest → RuleFile
  | .change change =>
    match memory.change change with
    | .ok (changed, _) => changed
    | .error _ => memory
  | .get _ | .rules | .exportText => memory

theorem RuleFile.remember_of_read {memory : RuleFile} {request : StoreRequest}
    (hread : ∀ change, request ≠ .change change) : memory.remember request = memory := by
  cases request with
  | change change => exact absurd rfl (hread change)
  | get id => rfl
  | rules => rfl
  | exportText => rfl

/-- What a request does in memory does not depend on the file. -/
theorem RuleStore.Serves.memory_eq {store after : RuleStore} {request : StoreRequest}
    {fault : Option Fault} {reply : Except Failure StoreReply}
    (h : store.Serves request fault after reply) :
    after.memory = store.memory.remember request := by
  cases h with
  | read hread => rw [RuleFile.remember_of_read hread]
  | refused hchange => rw [RuleFile.remember, hchange]
  | unwritten hchange => rw [RuleFile.remember, hchange]
  | written hchange => rw [RuleFile.remember, hchange]

/-- A request leaves the file as it is, or the file holds the rules. -/
theorem RuleStore.Serves.disk_eq {store after : RuleStore} {request : StoreRequest}
    {fault : Option Fault} {reply : Except Failure StoreReply}
    (h : store.Serves request fault after reply) :
    after.disk = store.disk ∨ after.disk = some after.memory.exportText := by
  cases h with
  | read hread => exact .inl rfl
  | refused hchange => exact .inl rfl
  | unwritten hchange => exact .inl rfl
  | written hchange => exact .inr rfl

/-! ### Requests one after another -/

/-- A served request. -/
structure StoreEvent where
  /-- The store before it. -/
  before : RuleStore
  /-- What was asked. -/
  request : StoreRequest
  /-- What kept the file from being written, if it was to be written. -/
  fault : Option Fault
  /-- The reply. -/
  reply : Except Failure StoreReply
  /-- The store after it. -/
  after : RuleStore

/-- The event is what comes of its request. -/
def StoreEvent.Served (event : StoreEvent) : Prop :=
  event.before.Serves event.request event.fault event.after event.reply

namespace RuleStore

/-- The event of serving a request. -/
def event (store : RuleStore) (request : StoreRequest) (fault : Option Fault) : StoreEvent :=
  { before := store, request := request, fault := fault, reply := (store.serve fault request).2,
    after := (store.serve fault request).1 }

theorem served_event (store : RuleStore) (request : StoreRequest) (fault : Option Fault) :
    (store.event request fault).Served :=
  store.serves_serve request fault

/-- The store after some requests, each with the fault of its write. -/
def served : RuleStore → List (StoreRequest × Option Fault) → RuleStore
  | store, [] => store
  | store, (request, fault) :: requests => served (store.serve fault request).1 requests

/-- The events on the way. -/
def history : RuleStore → List (StoreRequest × Option Fault) → List StoreEvent
  | _, [] => []
  | store, (request, fault) :: requests =>
    store.event request fault :: history (store.serve fault request).1 requests

theorem served_append (store : RuleStore) (earlier later : List (StoreRequest × Option Fault)) :
    store.served (earlier ++ later) = (store.served earlier).served later := by
  induction earlier generalizing store with
  | nil => rfl
  | cons first earlier ih => exact ih _

/-- An event of a history is a request served after those before it. -/
theorem exists_of_mem_history {store : RuleStore} {requests : List (StoreRequest × Option Fault)}
    {event : StoreEvent} (h : event ∈ store.history requests) :
    ∃ earlier request fault later, requests = earlier ++ (request, fault) :: later ∧
      event = (store.served earlier).event request fault := by
  induction requests generalizing store with
  | nil => cases h
  | cons first requests ih =>
    obtain ⟨request, fault⟩ := first
    rw [history, List.mem_cons] at h
    rcases h with rfl | h
    · -- the first event, with nothing served in front of it
      exact ⟨[], request, fault, requests, rfl, rfl⟩
    · -- an event of the rest of the history, behind the first one
      obtain ⟨earlier, request', fault', later, rfl, hevent⟩ := ih h
      exact ⟨(request, fault) :: earlier, request', fault', later, rfl, hevent⟩

/-- **Faults leave no trace in memory**: the requests alone decide which rules are there. -/
theorem served_memory (store : RuleStore) (requests : List (StoreRequest × Option Fault)) :
    (store.served requests).memory =
      requests.foldl (fun memory request => memory.remember request.1) store.memory := by
  induction requests generalizing store with
  | nil => rfl
  | cons first requests ih =>
    obtain ⟨request, fault⟩ := first
    rw [served, List.foldl_cons, ih, (store.serves_serve request fault).memory_eq]

/-- The rules in memory are those that there would be if every write succeeded. -/
theorem served_memory_faultless (store : RuleStore)
    (requests : List (StoreRequest × Option Fault)) :
    (store.served (requests.map fun request => (request.1, none))).memory =
      (store.served requests).memory := by
  rw [served_memory, served_memory, List.foldl_map]

/-- Whatever is true of every single request is true of every event of a history. -/
theorem served_of_mem_history {store : RuleStore} {requests : List (StoreRequest × Option Fault)}
    {event : StoreEvent} (h : event ∈ store.history requests) : event.Served := by
  obtain ⟨earlier, request, fault, later, -, rfl⟩ := exists_of_mem_history h
  exact (store.served earlier).served_event request fault

end RuleStore

/-- A change that was answered was made and written. -/
theorem StoreEvent.Served.made_of_ok {event : StoreEvent} (h : event.Served) {change : RuleChange}
    {reply : StoreReply} (hrequest : event.request = .change change)
    (hreply : event.reply = .ok reply) :
    ∃ answer, event.before.memory.change change = .ok (event.after.memory, answer) ∧
      event.after.disk = some event.after.memory.exportText := by
  obtain ⟨before, request, fault, reply', after⟩ := event
  have hserves : before.Serves request fault after reply' := h
  cases hserves with
  | read hread => exact absurd hrequest (hread change)
  | refused hchange => cases hreply
  | unwritten hchange => cases hreply
  | written hchange =>
    cases hrequest
    exact ⟨_, hchange, rfl⟩

end RpgLint

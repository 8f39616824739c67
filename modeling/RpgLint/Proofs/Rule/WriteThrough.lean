import RpgLint.Proofs.Rule.Change
import RpgLint.Proofs.Rule.Codec
import RpgLint.Proofs.Rule.History

/-!
# Writing through

A store keeps its file up to date: whatever is asked of it, and whichever writes fail, the file
holds the rules as they were right after the last write that succeeded.  A failed write does no harm
to the rules in memory, so that the next write makes up for it.

## Main definitions

* `StoreEvent.wrote` — a change was made and written.
* `RuleStore.WritesThrough` — what holds of every history of a store.

## Main results

* `StoreEvent.Served.disk_after`, `StoreEvent.Served.of_error` — what a request does to the file,
  and when it fails.
* `RuleStore.openOn_exportText` — a store that is opened on a written file has the rules that were
  written.
* `RuleStore.writesThrough_of_openOn` — a store writes through.
-/

namespace RpgLint

/-! ### A single request -/

/-- A failure on which a change is refused before anything is done. -/
def Failure.isRefusal : Failure → Bool
  | ruleExists _ | ruleNotFound _ | badImport => true
  | _ => false

/-- A change is refused for its id or for its text. -/
theorem RuleFile.Refuses.isRefusal {memory : RuleFile} {change : RuleChange} {failure : Failure}
    (h : memory.Refuses change failure) : failure.isRefusal := by
  cases h with
  | known => rfl
  | updateUnknown => rfl
  | removeUnknown => rfl
  | unreadable => rfl

/-- A store that is opened on a written file has the rules that were written. -/
theorem RuleStore.openOn_exportText (path : String) (memory : RuleFile) :
    openOn path (some memory.exportText) =
      .ok { memory := memory, disk := some memory.exportText } := by
  rw [openOn, opened, RuleFile.read?_exportText]
  rfl

theorem RuleStore.disk_of_openOn {path : String} {content : Option String} {store : RuleStore}
    (h : openOn path content = .ok store) : store.disk = content := by
  rw [openOn] at h
  cases hopened : opened path content with
  | error failure =>
    rw [hopened] at h
    cases h
  | ok memory =>
    rw [hopened] at h
    cases h
    rfl

namespace StoreEvent

/-- A change was made and written. -/
def wrote (event : StoreEvent) : Bool :=
  match event.request, event.reply with
  | .change _, .ok _ => true
  | _, _ => false

variable {event : StoreEvent}

/-- A request that only reads writes nothing. -/
theorem wrote_of_read (hread : ∀ change, event.request ≠ .change change) : event.wrote = false := by
  unfold wrote
  split
  · next change _ hrequest _ => exact absurd hrequest (hread change)
  · rfl

/-- A written file holds the rules in memory, and otherwise the file stays as it is. -/
theorem Served.disk_after (h : event.Served) :
    event.after.disk = if event.wrote then some event.after.memory.exportText
      else event.before.disk := by
  obtain ⟨before, request, fault, reply, after⟩ := event
  have hserves : before.Serves request fault after reply := h
  -- of the four ways in which a request ends, only the last one writes
  cases hserves with
  | read hread =>
    rw [wrote_of_read hread]
    rfl
  | refused hchange => rfl
  | unwritten hchange => rfl
  | written hchange => rfl

/-- A store that is opened on the file of a change that was written is the store after the
change. -/
theorem Served.openOn_of_wrote (h : event.Served) (hwrote : event.wrote) (path : String) :
    RuleStore.openOn path event.after.disk = .ok event.after := by
  have hdisk := h.disk_after
  rw [if_pos hwrote] at hdisk
  rw [hdisk, RuleStore.openOn_exportText, ← hdisk]

/-- A change that was written would have led any other store with the same rules to the same
result. -/
theorem Served.serve_of_wrote (h : event.Served) (hwrote : event.wrote) {other : RuleStore}
    (hmemory : other.memory = event.before.memory) :
    (other.serve none event.request).1 = event.after := by
  unfold wrote at hwrote
  split at hwrote
  · next change reply hrequest hreply =>
    obtain ⟨answer, hchange, hdisk⟩ := h.made_of_ok hrequest hreply
    rw [hrequest]
    simp only [RuleStore.serve, RuleStore.perform, hmemory, hchange]
    show RuleStore.mk event.after.memory (some event.after.memory.exportText) = event.after
    rw [← hdisk]
  · cases hwrote

/-- A request that fails is refused, and then nothing happens, or it could not be written. -/
theorem Served.of_error (h : event.Served) {failure : Failure}
    (hfailure : event.reply = .error failure) :
    (failure.isRefusal ∧ event.after = event.before) ∨
      ∃ fault, failure = .io fault ∧ event.fault = some fault ∧
        event.after.disk = event.before.disk ∧
        ∃ reply, event.before.serve none event.request =
          ({ memory := event.after.memory, disk := some event.after.memory.exportText },
            .ok reply) := by
  obtain ⟨before, request, fault, reply, after⟩ := event
  have hserves : before.Serves request fault after reply := h
  cases hserves with
  | read hread => cases hfailure
  | refused hchange =>
    cases hfailure
    exact .inl ⟨(RuleFile.refuses_of_change hchange).isRefusal, rfl⟩
  | @unwritten change fault memory answer hchange =>
    -- without the fault the same change is made and written
    cases hfailure
    refine .inr ⟨fault, rfl, rfl, rfl, .answer answer, ?_⟩
    show before.serve none (.change change) = _
    simp only [RuleStore.serve, RuleStore.perform, hchange]
    rfl
  | written hchange => cases hfailure

end StoreEvent

/-! ### Histories -/

namespace RuleStore

/-- The events of a history that wrote the file. -/
def writes (store : RuleStore) (requests : List (StoreRequest × Option Fault)) : List StoreEvent :=
  (store.history requests).filter (·.wrote)

/-- The file holds the rules as they were right after the last write, or what it held at first. -/
theorem disk_served (store : RuleStore) (requests : List (StoreRequest × Option Fault)) :
    (store.served requests).disk =
      (store.writes requests).getLast?.elim store.disk
        fun event => some event.after.memory.exportText := by
  induction requests generalizing store with
  | nil => rfl
  | cons first requests ih =>
    obtain ⟨request, fault⟩ := first
    have hdisk : (store.serve fault request).1.disk = _ :=
      (store.served_event request fault).disk_after
    rw [served, ih]
    by_cases hwrote : (store.event request fault).wrote
    · -- the last write is one of the later ones, or else this one
      have hwrites : store.writes ((request, fault) :: requests) =
          store.event request fault :: (store.serve fault request).1.writes requests :=
        List.filter_cons_of_pos hwrote
      rw [if_pos hwrote] at hdisk
      rw [hwrites, List.getLast?_cons, hdisk]
      cases ((store.serve fault request).1.writes requests).getLast? with
      | none => rfl
      | some last => rfl
    · have hwrites : store.writes ((request, fault) :: requests) =
          (store.serve fault request).1.writes requests :=
        List.filter_cons_of_neg hwrote
      rw [if_neg hwrote] at hdisk
      rw [hwrites, hdisk]
      rfl

/-- What holds of every history of a store on a file with the content. -/
structure WritesThrough (start : RuleStore) (content : Option String)
    (requests : List (StoreRequest × Option Fault)) : Prop where
  /-- The file holds the rules as they were right after the last write, or what it held at first. -/
  file : (start.served requests).disk =
    (start.writes requests).getLast?.elim content fun event => some event.after.memory.exportText
  /-- A request that is refused alters neither the rules in memory nor the file. -/
  refused : ∀ event ∈ start.history requests, ∀ failure, event.reply = .error failure →
    failure.isRefusal → event.after = event.before
  /-- A request that cannot be written leaves the file as it is.  In memory it does what it would
  have done. -/
  unwritten : ∀ event ∈ start.history requests, ∀ fault, event.reply = .error (.io fault) →
    event.after.disk = event.before.disk ∧
      ∃ reply, event.before.serve none event.request =
        ({ memory := event.after.memory, disk := some event.after.memory.exportText }, .ok reply)
  /-- No request fails in another way. -/
  failures : ∀ event ∈ start.history requests, ∀ failure, event.reply = .error failure →
    failure.isRefusal ∨ ∃ fault, event.fault = some fault ∧ failure = .io fault
  /-- The rules in memory are those that there would be if every write had succeeded. -/
  memory : (start.served requests).memory =
    (start.served (requests.map fun request => (request.1, none))).memory
  /-- After a change was written, the store is what it would be if every write had succeeded. -/
  caughtUp : ∀ earlier request fault, requests = earlier ++ [(request, fault)] →
    ((start.served earlier).event request fault).wrote →
      start.served requests = start.served (requests.map fun request => (request.1, none))
  /-- After a change was written, a store that is opened on the file has the same rules. -/
  reopened : ∀ event ∈ start.history requests, event.wrote →
    ∀ path, openOn path event.after.disk = .ok event.after

/-- **A store writes through.**  On whatever file it is opened, whatever is asked of it, and
whichever writes fail, the file holds the rules as they were right after the last write that
succeeded, and can be opened to give these rules; refused requests alter nothing, and those that
cannot be written are made up for by the next write. -/
theorem writesThrough_of_openOn {path : String} {content : Option String} {start : RuleStore}
    (hopen : openOn path content = .ok start) (requests : List (StoreRequest × Option Fault)) :
    start.WritesThrough content requests where
  file := by rw [disk_served, disk_of_openOn hopen]
  refused := by
    intro event hmem failure hfailure hrefusal
    rcases (served_of_mem_history hmem).of_error hfailure with ⟨-, hafter⟩ | ⟨fault, rfl, -⟩
    · exact hafter
    · cases hrefusal
  unwritten := by
    intro event hmem fault hfailure
    rcases (served_of_mem_history hmem).of_error hfailure
      with ⟨hrefusal, -⟩ | ⟨-, -, -, hdisk, hserve⟩
    · cases hrefusal
    · exact ⟨hdisk, hserve⟩
  failures := by
    intro event hmem failure hfailure
    rcases (served_of_mem_history hmem).of_error hfailure
      with ⟨hrefusal, -⟩ | ⟨fault, hio, hfault, -⟩
    · exact .inl hrefusal
    · exact .inr ⟨fault, hfault, hio⟩
  memory := (start.served_memory_faultless requests).symm
  caughtUp := by
    rintro earlier request fault rfl hwrote
    have hafter := (served_event _ request fault).serve_of_wrote hwrote
      (start.served_memory_faultless earlier)
    -- before the last request only the file can be behind, and the write brings it up to date
    rw [List.map_append, served_append, served_append]
    exact hafter.symm
  reopened := fun _ hmem hwrote => (served_of_mem_history hmem).openOn_of_wrote hwrote

/-- A rule is added while the file cannot be written, refused when it is added again, and then put
out of force.  With that it is in memory and in the file. -/
theorem writesThrough_missing_file :
    let rule : Rule :=
      { id := "GOTO", name := "No jumps", category := .deprecated, severity := .error,
        message := "Jump found" }
    let start : RuleStore := { memory := {}, disk := none }
    let requests : List (StoreRequest × Option Fault) :=
      [(.change (.add rule), some ⟨"disk full"⟩), (.change (.add rule), none), (.get "GOTO", none),
        (.change (.disable "GOTO"), none), (.exportText, none)]
    let reached : RuleFile := { rules := [{ rule with enabled := false }] }
    openOn "rules.json" none = .ok start ∧
      start.served requests = { memory := reached, disk := some reached.exportText } ∧
      openOn "rules.json" (start.served requests).disk = .ok (start.served requests) ∧
      start.WritesThrough none requests := by
  intro rule start requests reached
  have hopen : openOn "rules.json" none = .ok start := rfl
  have hreached : start.served requests = { memory := reached, disk := some reached.exportText } :=
    rfl
  refine ⟨hopen, hreached, ?_, writesThrough_of_openOn hopen requests⟩
  rw [hreached, openOn_exportText]

end RuleStore

end RpgLint

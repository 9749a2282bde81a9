import CellularRegistration.Proofs.Slot.Inert
import Mathlib.Data.List.Basic
import Mathlib.Data.List.Induction

namespace CellularRegistration

variable {κ : Type}

namespace Device.Operation

/-- An operation stores a configuration for a subscription. A document does so if it is valid. -/
def Stores (operation : Operation κ) (subId : Int32) (config : CarrierConfig) : Prop :=
  operation = .insertConfig subId config ∨
    ∃ text, operation = .insertToml subId text ∧ CarrierConfig.ofToml text = .ok config

/-- An operation stores or removes the configuration of a subscription. -/
def Edits (operation : Operation κ) (subId : Int32) : Prop :=
  operation = .removeConfig subId ∨ ∃ config, operation.Stores subId config

/-- The subscription that an operation starts a service for. -/
def startedFor : Operation κ → Option Int32
  | .spawn _ subId _ => some subId
  | _ => none

end Device.Operation

/-- The latest of some operations that edit the configuration of a subscription stores this one. -/
def Device.LatestStored (operations : List (Operation κ)) (subId : Int32) (config : CarrierConfig) :
    Prop :=
  ∃ before operation after, operations = before ++ operation :: after ∧
    operation.Stores subId config ∧ ∀ later ∈ after, ¬ later.Edits subId

/-- What is written in the place of the family table. -/
inductive TableWrite where
  | rebuilt (groups : List String)
  /-- The table of the configuration that is stored for a subscription. -/
  | reloaded (subId : Int32)
  | cleared

/-- The table that is written, by what the store holds at the moment. -/
def TableWrite.table (configs : ConfigStore) : TableWrite → FamilyTable
  | .rebuilt groups => (FamilyTable.build groups).1
  | .reloaded subId =>
    match configs.find? subId with
    | some config => (FamilyTable.build config.ratFamilies).1
    | none => .empty
  | .cleared => .empty

theorem LiveTable.reload_fst (live : LiveTable) (configs : ConfigStore) (subId : Int32) :
    (live.reload configs subId).1 = live.replace ((TableWrite.reloaded subId).table configs) := by
  simp only [reload, TableWrite.table]
  cases configs.find? subId <;> rfl

namespace SlotService

/-- The subscription that an effect reloads the families for. -/
def Effect.reloaded? : Effect κ → Option Int32
  | .reloaded subId => some subId
  | _ => none

/-- The subscription that the worker reloads the families for: its own, if it handles a change of
the configuration. -/
def reloadedBy (s : SlotService κ) (action : Action κ) : Option Int32 :=
  match s.handledBy action with
  | some .configChanged => some s.subId
  | _ => none

theorem reloads_beginClose (s : SlotService κ) :
    s.beginClose.2.filterMap Effect.reloaded? = [] := by
  unfold beginClose
  split <;> rfl

variable [DecidableEq κ]

theorem reloads_handle (s : SlotService κ) (command : Command κ) :
    (s.handle command).2.filterMap Effect.reloaded? =
      match command with
      | .configChanged => [s.subId]
      | _ => [] := by
  cases command with
  | message message =>
    cases message with
    | completed completion =>
      simp only [handle, complete]
      split <;> rfl
    | stateChanged => simp [handle, Effect.reloaded?]
  | _ => rfl

/-- A service reloads the families when its worker handles a change of the configuration, and at no
other time. -/
theorem reloads_act (s : SlotService κ) (action : Action κ) :
    (s.act action).2.2.filterMap Effect.reloaded? = (s.reloadedBy action).toList := by
  cases action with
  | call call =>
    obtain ⟨command, -, hact⟩ | ⟨-, hact⟩ | ⟨_, _, -, -, hact⟩ := act_call_cases s call <;> rw [hact]
    · rfl
    · -- A close ends the worker, which handles nothing of its queue any more.
      rw [turn_of_closed s.isClosed_beginClose, List.append_nil, reloads_beginClose]
      rfl
    · rfl
  | message message => rfl
  | replaceRadio radio => rfl
  | beginClose => exact s.reloads_beginClose
  | turn =>
    cases hphase : s.phase with
    | running =>
      cases hqueue : s.queue with
      | nil => simp [act, turn, reloadedBy, handledBy, hphase, hqueue]
      | cons command queue =>
        simp only [act, turn, reloadedBy, handledBy, hphase, hqueue, if_true, List.head?_cons]
        rw [reloads_handle]
        cases command <;> rfl
    | closing => simp [act, turn, reloadedBy, handledBy, hphase]
    | stopped => simp [act, turn, reloadedBy, handledBy, hphase]

/-- Handling a command leaves the rest of the queue as it is, but for what the radio sends
meanwhile. -/
theorem exists_queue_turn {s : SlotService κ} {command : Command κ} {queue : List (Command κ)}
    (hphase : s.phase = .running) (hqueue : s.queue = command :: queue) :
    ∃ more, (s.act .turn).1.queue = queue ++ more ∧ (s.act .turn).1.phase = .running := by
  rw [(act_turn_of_cons hphase hqueue).1]
  cases command with
  | request domain callback => exact ⟨_, rfl, hphase⟩
  | message message =>
    refine ⟨[], ?_⟩
    cases message with
    | completed completion =>
      rw [handle, complete_fst]
      exact ⟨(List.append_nil queue).symm, hphase⟩
    | stateChanged => exact ⟨(List.append_nil queue).symm, hphase⟩
  | addObserver observer =>
    refine ⟨[], ?_⟩
    simp only [handle]
    split <;> exact ⟨(List.append_nil queue).symm, hphase⟩
  | _ => exact ⟨[], (List.append_nil queue).symm, hphase⟩

end SlotService

namespace Device

/-- Of some effects, a device notices the reloads. -/
theorem applyAll_eq (d : Device κ) (effects : List (SlotService.Effect κ)) :
    d.applyAll effects =
      { d with
        families := (effects.filterMap SlotService.Effect.reloaded?).foldl
          (fun live subId => (live.reload d.configs subId).1) d.families } := by
  induction effects generalizing d with
  | nil => rfl
  | cons effect effects ih =>
    rw [applyAll, List.foldl_cons, ← applyAll, ih]
    cases effect <;> rfl

/-- What an operation writes in the place of the table, if it writes it. -/
def write? (d : Device κ) : Operation κ → Option TableWrite
  | .rebuildFamilies groups => some (.rebuilt groups)
  | .reloadFamilies subId | .spawn _ subId _ => some (.reloaded subId)
  | .clearFamilies => some .cleared
  | .act index action =>
    (d.services[index]?).bind fun service => (service.reloadedBy action).map .reloaded
  | .insertConfig _ _ | .insertToml _ _ | .removeConfig _ => none

variable [DecidableEq κ]

theorem families_perform (d : Device κ) (operation : Operation κ) :
    (d.perform operation).1.families =
      match d.write? operation with
      | some write => d.families.replace (write.table d.configs)
      | none => d.families := by
  cases operation with
  | insertConfig subId config => rfl
  | insertToml subId text =>
    simp only [perform]
    split <;> rfl
  | removeConfig subId => rfl
  | rebuildFamilies groups => rfl
  | reloadFamilies subId =>
    have hreload := d.families.reload_fst d.configs subId
    simp only [perform, write?, ← hreload]
    split
    next heq => rw [heq]
    next heq => rw [heq]
  | clearFamilies => rfl
  | spawn slot subId radio => exact d.families.reload_fst d.configs subId
  | act index action =>
    cases hservice : d.services[index]? with
    | none => simp [perform, act, write?, hservice]
    | some service =>
      rw [perform_act hservice, applyAll_eq, service.reloads_act action]
      simp only [write?, hservice, Option.bind_some]
      cases service.reloadedBy action with
      | none => rfl
      | some subId => exact d.families.reload_fst d.configs subId

/-- Only the operations on the store change the store. -/
theorem configs_perform (d : Device κ) (operation : Operation κ) :
    (d.perform operation).1.configs =
      match operation with
      | .insertConfig subId config => d.configs.insert subId config
      | .insertToml subId text =>
        match CarrierConfig.ofToml text with
        | .ok config => d.configs.insert subId config
        | .error _ => d.configs
      | .removeConfig subId => d.configs.erase subId
      | _ => d.configs := by
  cases operation with
  | insertToml subId text =>
    simp only [perform, ConfigStore.insertToml]
    cases CarrierConfig.ofToml text <;> rfl
  | reloadFamilies subId =>
    simp only [perform]
    split <;> rfl
  | spawn slot subId radio => simp only [perform, applyAll_eq]
  | act index action =>
    cases hservice : d.services[index]? with
    | none => simp only [perform, act, hservice]
    | some service => simp only [perform_act hservice, applyAll_eq]
  | _ => rfl

theorem find?_perform_iff (d : Device κ) (operation : Operation κ) (subId : Int32)
    (config : CarrierConfig) :
    (d.perform operation).1.configs.find? subId = some config ↔
      operation.Stores subId config ∨
        ¬ operation.Edits subId ∧ d.configs.find? subId = some config := by
  rw [configs_perform]
  cases operation with
  | insertConfig key stored =>
    by_cases hkey : key = subId
    · simp [Operation.Stores, Operation.Edits, hkey]
    · simp [Operation.Stores, Operation.Edits, hkey, Ne.symm hkey]
  | insertToml key text =>
    by_cases hkey : key = subId
    · cases htoml : CarrierConfig.ofToml text <;>
        simp [Operation.Stores, Operation.Edits, htoml, hkey]
    · cases htoml : CarrierConfig.ofToml text <;>
        simp [Operation.Stores, Operation.Edits, htoml, hkey, Ne.symm hkey]
  | removeConfig key =>
    by_cases hkey : key = subId
    · simp [Operation.Stores, Operation.Edits, hkey]
    · simp [Operation.Stores, Operation.Edits, hkey, Ne.symm hkey]
  | _ => simp [Operation.Stores, Operation.Edits]

theorem map_subId_set (services : List (SlotService κ)) {index : Nat} {service : SlotService κ}
    (hservice : services[index]? = some service) (action : SlotService.Action κ) :
    (services.set index (service.act action).1).map SlotService.subId =
      services.map SlotService.subId := by
  obtain ⟨hindex, rfl⟩ := List.getElem?_eq_some_iff.1 hservice
  have hsubId : (services[index].act action).1.subId = services[index].subId :=
    congrArg Prod.snd (services[index].settings_act action)
  have hindex' : index < (services.map SlotService.subId).length := by simpa using hindex
  have hget : services[index].subId = (services.map SlotService.subId)[index] := by simp
  rw [List.map_set, hsubId, hget, List.set_getElem_self]

theorem map_subId_perform (d : Device κ) (operation : Operation κ) :
    (d.perform operation).1.services.map SlotService.subId =
      d.services.map SlotService.subId ++ operation.startedFor.toList := by
  obtain ⟨slot, subId, radio, rfl, hservices⟩ | ⟨index, action, s, rfl, hservice, hservices⟩ |
    ⟨hstart, hservices⟩ := d.services_perform_cases operation <;> rw [hservices]
  · simp [Operation.startedFor, SlotService.initial]
  · rw [map_subId_set d.services hservice action]
    simp [Operation.startedFor]
  · have hnone : operation.startedFor = none := by
      cases operation with
      | spawn slot subId radio => exact absurd rfl (hstart slot subId radio)
      | _ => rfl
    simp [hnone]

/-- A change that waits in the queue of a service reloads the families when the worker has handled
all before it. -/
theorem write?_after_turns {d : Device κ} {index : Nat} {before after : List (SlotService.Command κ)}
    {s : SlotService κ} (hservice : d.services[index]? = some s) (hphase : s.phase = .running)
    (hqueue : s.queue = before ++ .configChanged :: after) :
    (d.performAll (.replicate before.length (.act index .turn))).write? (.act index .turn) =
      some (.reloaded s.subId) := by
  induction before generalizing d s after with
  | nil =>
    have hhandled : s.handledBy .turn = some .configChanged := by
      simp [SlotService.handledBy, hphase, hqueue]
    simp [performAll, write?, hservice, SlotService.reloadedBy, hhandled]
  | cons command before ih =>
    rw [List.cons_append] at hqueue
    obtain ⟨more, hmore, hrunning⟩ := SlotService.exists_queue_turn hphase hqueue
    have hsubId : (s.act .turn).1.subId = s.subId := congrArg Prod.snd (s.settings_act .turn)
    obtain ⟨hindex, -⟩ := List.getElem?_eq_some_iff.1 hservice
    have hnext : (d.perform (.act index .turn)).1.services[index]? = some (s.act .turn).1 := by
      rw [perform_act hservice, List.getElem?_set_self hindex]
    rw [List.append_assoc] at hmore
    rw [← hsubId]
    exact ih hnext hrunning hmore

/-- What has become of a device by some operations since its start. -/
def run (operations : List (Operation κ)) : Device κ :=
  (initial .initial).performAll operations

theorem run_snoc (operations : List (Operation κ)) (operation : Operation κ) :
    run (operations ++ [operation]) = ((run operations).perform operation).1 :=
  List.foldl_append

/-- The writes of the table that some operations make, each with the store at its moment. -/
def writes (d : Device κ) : List (Operation κ) → List (TableWrite × ConfigStore)
  | [] => []
  | operation :: operations =>
    (d.write? operation).toList.map (·, d.configs) ++ writes (d.perform operation).1 operations

theorem writes_append (d : Device κ) (before after : List (Operation κ)) :
    d.writes (before ++ after) = d.writes before ++ (d.performAll before).writes after := by
  induction before generalizing d with
  | nil => rfl
  | cons operation before ih =>
    simp only [List.cons_append, writes, ih, List.append_assoc]
    rfl

/-- The writes that some operations make from the start. -/
def writesOf (operations : List (Operation κ)) : List (TableWrite × ConfigStore) :=
  (initial .initial).writes operations

/-- All family tables that there have been, in order. Each is numbered by its generation. -/
def tables (operations : List (Operation κ)) : List FamilyTable :=
  .empty :: (writesOf operations).map fun (write, configs) => write.table configs

omit [DecidableEq κ] in
theorem LatestStored.snoc_iff {operations : List (Operation κ)} {operation : Operation κ}
    {subId : Int32} {config : CarrierConfig} :
    LatestStored (operations ++ [operation]) subId config ↔
      operation.Stores subId config ∨
        ¬ operation.Edits subId ∧ LatestStored operations subId config := by
  constructor
  · rintro ⟨before, latest, after, heq, hstores, hafter⟩
    obtain rfl | ⟨rest, last, rfl⟩ := after.eq_nil_or_concat'
    · obtain ⟨-, hlast⟩ := List.append_inj' heq rfl
      obtain rfl : operation = latest := by simpa using hlast
      exact .inl hstores
    · rw [← List.cons_append, ← List.append_assoc] at heq
      obtain ⟨rfl, hlast⟩ := List.append_inj' heq rfl
      obtain rfl : operation = last := by simpa using hlast
      obtain ⟨hrest, hlast⟩ := List.forall_mem_append.1 hafter
      exact .inr ⟨hlast operation List.mem_cons_self, before, latest, rest, rfl, hstores, hrest⟩
  · rintro (hstores | ⟨hedits, before, latest, after, rfl, hstores, hafter⟩)
    · exact ⟨operations, operation, [], rfl, hstores, by simp⟩
    · refine ⟨before, latest, after ++ [operation], by simp, hstores, ?_⟩
      exact List.forall_mem_append.2 ⟨hafter, by simpa using hedits⟩

theorem stored_run_iff (operations : List (Operation κ)) (subId : Int32) (config : CarrierConfig) :
    (run operations).configs.find? subId = some config ↔ LatestStored operations subId config := by
  induction operations using List.reverseRecOn with
  | nil => simp [run, performAll, initial, LatestStored]
  | append_singleton operations operation ih =>
    rw [run_snoc, find?_perform_iff, LatestStored.snoc_iff, ih]

theorem subIds_run (operations : List (Operation κ)) :
    (run operations).services.map SlotService.subId =
      operations.filterMap Operation.startedFor := by
  induction operations using List.reverseRecOn with
  | nil => rfl
  | append_singleton operations operation ih =>
    rw [run_snoc, map_subId_perform, ih, List.filterMap_append]
    cases operation <;> rfl

/-- The table in force is the last of all tables, and its generation is its number. -/
theorem families_run (operations : List (Operation κ)) :
    (run operations).families.generation = (writesOf operations).length ∧
      (run operations).families.table =
        match (writesOf operations).getLast? with
        | some (write, configs) => write.table configs
        | none => .empty := by
  induction operations using List.reverseRecOn with
  | nil => exact ⟨rfl, rfl⟩
  | append_singleton operations operation ih =>
    -- The last operation finds the store and the queues as the operations before it left them.
    have hwrites : writesOf (operations ++ [operation]) = writesOf operations ++
        ((run operations).write? operation).toList.map (·, (run operations).configs) := by
      simp [writesOf, writes_append, writes, run]
    rw [run_snoc, families_perform, hwrites]
    cases (run operations).write? operation with
    | none => simpa using ih
    | some write => simp [LiveTable.replace, ih.1]

theorem tables_append (earlier later : List (Operation κ)) :
    tables (earlier ++ later) = tables earlier ++
      ((run earlier).writes later).map fun (write, configs) => write.table configs := by
  simp only [tables, writesOf, writes_append, List.map_append, List.cons_append]
  rfl

theorem tables_generation (operations : List (Operation κ)) :
    (tables operations)[(run operations).families.generation]? =
      some (run operations).families.table := by
  obtain ⟨hgeneration, htable⟩ := families_run operations
  rw [hgeneration, htable, tables]
  obtain hnone | ⟨writes, latest, hwrites⟩ := (writesOf operations).eq_nil_or_concat'
  · rw [hnone]
    rfl
  · rw [hwrites]
    simp

/-- After some operations the store and the table are as the edits and the writes among these
say. -/
structure FollowsEdits (operations : List (Operation κ)) : Prop where
  /-- The configuration of a subscription is the one that was stored last, unless it was removed. -/
  stored_iff : ∀ subId config,
    (run operations).configs.find? subId = some config ↔ LatestStored operations subId config
  /-- An invalid document changes nothing. -/
  refused : ∀ subId text error, CarrierConfig.ofToml text = .error error →
    (run operations).perform (.insertToml subId text) = (run operations, .failed error, [])
  /-- Each service reloads for the subscription that it was started for. -/
  subIds_eq :
    (run operations).services.map SlotService.subId = operations.filterMap Operation.startedFor
  /-- The table in force is the one that was written last. -/
  table_eq : (run operations).families.table =
    match (writesOf operations).getLast? with
    | some (write, configs) => write.table configs
    | none => .empty
  /-- A change that is announced to an open service takes effect when the worker has handled all
  that waited before it. -/
  announced : ∀ index s, (run operations).services[index]? = some s → s.isClosed = false →
    (run (operations ++ .act index (.call .configChanged) ::
      .replicate s.queue.length (.act index .turn))).write? (.act index .turn) =
      some (.reloaded s.subId)
  /-- A reload tells the faults in the groups that are stored, or that none are. -/
  reload_reply : ∀ subId, ((run operations).perform (.reloadFamilies subId)).2.1 =
    match (run operations).configs.find? subId with
    | some config => .faults (FamilyTable.build config.ratFamilies).2
    | none => .failed (.configUnavailable subId)
  /-- Who took the table after the earlier operations holds it by its generation, and still finds
  it as it was after the later ones. -/
  snapshot_eq : ∀ earlier later, operations = earlier ++ later →
    (tables operations)[(run earlier).families.generation]? = some (run earlier).families.table

/-- Whatever is done to a device, and in whatever order, its table follows the edits of the store
and the writes of the table. -/
theorem run_followsEdits (operations : List (Operation κ)) : FollowsEdits operations where
  stored_iff := stored_run_iff operations
  refused subId text error htoml := by
    have hrefused : (run operations).configs.insertToml subId text = .error error := by
      rw [ConfigStore.insertToml, htoml]
      rfl
    simp only [perform, hrefused]
  subIds_eq := subIds_run operations
  table_eq := (families_run operations).2
  announced index s hservice hopen := by
    obtain ⟨hindex, -⟩ := List.getElem?_eq_some_iff.1 hservice
    have hact : s.act (.call .configChanged) = (s.enqueue .configChanged, .accepted (.ok ()), []) := by
      simp [SlotService.act, SlotService.call, SlotService.accept, hopen]
    have hnext : ((run operations).perform (.act index (.call .configChanged))).1.services[index]? =
        some (s.enqueue .configChanged) := by
      rw [perform_act hservice, hact, List.getElem?_set_self hindex]
    have hwrite := write?_after_turns hnext (SlotService.phase_eq_running hopen) rfl
    rw [run, performAll, List.foldl_append]
    exact hwrite
  reload_reply subId := by
    simp only [perform, LiveTable.reload]
    cases (run operations).configs.find? subId <;> rfl
  snapshot_eq earlier later heq := by
    have hearlier := tables_generation earlier
    obtain ⟨hlt, -⟩ := List.getElem?_eq_some_iff.1 hearlier
    rw [heq, tables_append, List.getElem?_append_left hlt]
    exact hearlier

/-- A change is announced, then another configuration is stored, and only then does the worker turn
to the change. -/
example :
    (run [.insertConfig 1 (.withFamilies ["1,2"]), .spawn 0 1 .silent,
      .act 0 (.call .configChanged), .insertConfig 1 (.withFamilies ["14,19"]),
      .act 0 .turn] : Device Nat).families.table =
      (FamilyTable.build ["14,19"]).1 := by rfl

end Device

end CellularRegistration

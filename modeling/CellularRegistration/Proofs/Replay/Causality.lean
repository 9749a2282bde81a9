import CellularRegistration.Json.Printer
import CellularRegistration.Proofs.Json.KnownFields
import CellularRegistration.Proofs.Replay.Progress
import CellularRegistration.Replay.Session

namespace CellularRegistration

/-- The items of an array. -/
def Draft.items? : Draft → Option (List Draft)
  | arr items => some items
  | _ => none

/-- The step that an item of a trace stands for. -/
def TraceStep.ofDraft? (draft : Draft) : Option TraceStep :=
  ((Shape.struct fields).select draft).bind (Shape.struct fields).decode

theorem mapM_bind_mapM {α β γ : Type} (f : α → Option β) (g : β → Option γ) (as : List α) :
    ((as.mapM f).bind fun bs => bs.mapM g) = as.mapM fun a => (f a).bind g := by
  induction as with
  | nil => rfl
  | cons a as ih =>
    simp only [List.mapM_cons, Option.pure_def, Option.bind_eq_bind, ← ih]
    cases f a with
    | none => rfl
    | some b =>
      cases hb : g b with
      | none => simp [hb, Option.bind_assoc]
      | some c => simp [hb, Option.bind_assoc]

theorem mapM_eq_none_of_mem {α β : Type} {f : α → Option β} {as : List α} {a : α} (h : a ∈ as)
    (ha : f a = none) : as.mapM f = none := by
  rw [Option.eq_none_iff_forall_ne_some]
  intro bs hbs
  induction as generalizing bs with
  | nil => cases h
  | cons first as ih =>
    simp only [mapM_eq_some_iff, List.forall₂_cons_left_iff] at hbs ih
    obtain ⟨b, bs, hb, hbs, -⟩ := hbs
    obtain rfl | h := List.mem_cons.1 h
    · simp [ha] at hb
    · exact ih h bs hbs

theorem Shape.select_list {α : Type} (item : Shape α) (drafts : List Draft) :
    (Shape.list item).select (.arr drafts) = (drafts.mapM item.select).map .arr :=
  rfl

theorem Shape.decode_list {α : Type} (item : Shape α) (js : List Json) :
    (Shape.list item).decode (.arr js) = js.mapM item.decode := by
  simp only [Shape.decode, Shape.read]
  rfl

/-- A trace is decoded item by item. -/
theorem TraceStep.decodeText_eq_mapM {text : String} {items : List Draft}
    (h : (Draft.ofText? text).bind Draft.items? = some items) :
    traceShape.decodeText text = items.mapM ofDraft? := by
  obtain ⟨draft, h, harray⟩ := Option.bind_eq_some_iff.1 h
  obtain rfl : draft = .arr items := by
    cases draft <;> simp_all [Draft.items?]
  have hitems := mapM_bind_mapM (Shape.struct fields).select (Shape.struct fields).decode items
  simp only [Shape.decodeText, h, traceShape, Shape.select_list, Shape.decode_list,
    Option.bind_eq_bind, Option.bind_some, Option.bind_map, Function.comp_def]
  exact hitems

namespace Replay

/-- A file holds a JSON array of these items. -/
def File.Lists (file : File) (items : List Draft) : Prop :=
  ∃ text, file.text = .ok text ∧ (Draft.ofText? text).bind Draft.items? = some items

/-- A file holds the trace of these steps. -/
def File.Holds (file : File) (steps : List TraceStep) : Prop :=
  ∃ items, file.Lists items ∧
    List.Forall₂ (fun item step => TraceStep.ofDraft? item = some step) items steps

theorem File.holds_of_mapM {file : File} {text : String} {steps : List TraceStep}
    (htext : file.text = .ok text)
    (hsteps : (((Draft.ofText? text).bind Draft.items?).bind
      fun items => items.mapM TraceStep.ofDraft?) = some steps) : file.Holds steps := by
  obtain ⟨items, hitems, hsteps⟩ := Option.bind_eq_some_iff.1 hsteps
  exact ⟨items, ⟨text, htext, hitems⟩, mapM_eq_some_iff.1 hsteps⟩

theorem readTrace_of_lists {request : Request} {items : List Draft} (h : request.trace.Lists items) :
    request.readTrace =
      match items.mapM TraceStep.ofDraft? with
      | none => .error .traceInvalid
      | some [] => .error (.traceEmpty request.trace.path)
      | some steps => .ok steps := by
  obtain ⟨text, htext, hitems⟩ := h
  rw [Request.readTrace, File.read, htext, ← TraceStep.decodeText_eq_mapM hitems]
  rfl

theorem readTrace_of_holds_nil {request : Request} (h : request.trace.Holds []) :
    request.readTrace = .error (.traceEmpty request.trace.path) := by
  obtain ⟨items, hlists, hdecode⟩ := h
  rw [readTrace_of_lists hlists, mapM_eq_some_iff.2 hdecode]

theorem readTrace_of_holds {request : Request} {steps : List TraceStep}
    (h : request.trace.Holds steps) (hne : steps ≠ []) : request.readTrace = .ok steps := by
  obtain ⟨items, hlists, hdecode⟩ := h
  rw [readTrace_of_lists hlists, mapM_eq_some_iff.2 hdecode]
  cases steps with
  | nil => exact absurd rfl hne
  | cons step steps => rfl

/-- A step fails with the error of its voice payload, or else with that of its data payload. -/
inductive FailsAs (step : TraceStep) : String → RegistrationError → Prop where
  | voice {error : RegistrationError} (h : step.voice.normalize .cs = .error error) :
      FailsAs step "voice" error
  | data {error : RegistrationError} (hvoice : (step.voice.normalize .cs).isOk = true)
      (h : step.data.normalize .ps = .error error) : FailsAs step "data" error

theorem failsAs_of_reportedState {i : Nat} {step : TraceStep} {rejection : Rejection}
    (h : reportedState i step = .error rejection) :
    rejection.step = i ∧
      FailsAs step (Failure.payloadName rejection.domain) rejection.error := by
  unfold reportedState recordOf at h
  cases hvoice : step.voice.normalize .cs with
  | error error =>
    simp only [hvoice, Except.error.injEq] at h
    subst h
    exact ⟨rfl, .voice hvoice⟩
  | ok voice =>
    cases hdata : step.data.normalize .ps with
    | error error =>
      simp only [hvoice, hdata, Except.error.injEq] at h
      subst h
      have hok : (step.voice.normalize .cs).isOk = true := by rw [hvoice]; rfl
      exact ⟨rfl, .data hok hdata⟩
    | ok data => simp [hvoice, hdata] at h

section Runs

variable {table : FamilyTable} {before : Progress}

/-- The rejection that ends a replay is that of the first step that does not answer. -/
theorem failsAs_of_rejection {steps : List TraceStep} {rejection : Rejection}
    (h : (runFrom table before steps).rejection = some rejection) :
    ∃ step, steps[answered steps]? = some step ∧
      rejection.step = before.step + answered steps ∧
      FailsAs step (Failure.payloadName rejection.domain) rejection.error := by
  induction steps generalizing before with
  | nil => cases h
  | cons step steps ih =>
    cases hreported : reportedState before.step step with
    | error error =>
      simp only [runFrom, hreported, Option.some.injEq] at h
      subst h
      rw [answered_cons_of_not_answers (not_answers_of_reportedState hreported)]
      exact ⟨step, rfl, failsAs_of_reportedState hreported⟩
    | ok reported =>
      simp only [runFrom, hreported] at h
      rw [answered_cons_of_answers (answers_of_reportedState hreported)]
      obtain ⟨failed, hfailed, hnumber, hfails⟩ := ih h
      rw [step_progress_publish] at hnumber
      exact ⟨failed, hfailed, by omega, hfails⟩

theorem outcome_publish_eq_none_iff {reported : ServiceState} {moved : Bool} :
    (publish table before reported moved).1.outcome = none ↔ before.published = none := by
  cases h : before.published <;> simp [publish, h]

/-- Published states are numbered by their steps, and only a state that none came before has no
outcome. -/
theorem outcome_eq_none_iff {steps : List TraceStep} {k : Nat} {p : Published}
    (h : (runFrom table before steps).published[k]? = some p) :
    p.step = before.step + k ∧ (p.outcome = none ↔ before.published = none ∧ k = 0) := by
  induction steps generalizing before k with
  | nil => cases h
  | cons step steps ih =>
    cases hreported : reportedState before.step step with
    | error rejection => simp [runFrom, hreported] at h
    | ok reported =>
      simp only [runFrom, hreported] at h
      cases k with
      | zero =>
        obtain rfl := Option.some.inj h
        simp [outcome_publish_eq_none_iff]
      | succ k =>
        -- After a step something is published, so no later state is the first.
        obtain ⟨hnumber, houtcome⟩ := ih h
        rw [step_progress_publish] at hnumber
        rw [published_progress_publish] at houtcome
        refine ⟨by omega, ?_⟩
        simp [houtcome]

/-- What later steps hold does not matter to what is published for earlier ones. -/
theorem isPrefix_published {earlier steps : List TraceStep} (h : earlier <+: steps) :
    (runFrom table before earlier).published <+: (runFrom table before steps).published := by
  obtain ⟨later, rfl⟩ := h
  rw [runFrom_append, Result.followedBy]
  cases (runFrom table before earlier).rejection with
  | some rejection => exact List.prefix_rfl
  | none => exact List.prefix_append _ _

end Runs

/-- The members of a line that show what the ratchet did. -/
def outcomeNames : List String :=
  ["same_family", "voice_held", "data_held", "bandwidths_updated"]

theorem get?_step (p : Published) : p.toJson.get? "step" = some (.int p.step) :=
  rfl

theorem get?_outcome_eq_null_iff (p : Published) {name : String} (h : name ∈ outcomeNames) :
    p.toJson.get? name = some .null ↔ p.outcome = none := by
  obtain ⟨number, state, outcome⟩ := p
  simp only [outcomeNames, List.mem_cons, List.not_mem_nil, or_false] at h
  cases outcome with
  | none => obtain rfl | rfl | rfl | rfl := h <;> simp [Published.toJson, Json.get?, Json.occurrences]
  | some outcome =>
    obtain rfl | rfl | rfl | rfl := h <;> simp [Published.toJson, Json.get?, Json.occurrences]

/-- The lines that a replay prints. -/
def Report.lines (report : Report) : List String :=
  report.published.map fun p => p.toJson.sorted.render

/-- What comes of a replay of some steps. -/
structure Report.Tells (report : Report) (steps : List TraceStep) : Prop where
  /-- There is a line for each step before the first that does not answer. -/
  length_lines : report.lines.length = answered steps
  fails_iff : report.failure.isSome = true ↔ ∃ step ∈ steps, ¬Answers step
  /-- A failure names that step and the payload that it fails at. -/
  failure : ∀ failure, report.failure = some failure →
    ∃ step payload error, steps[answered steps]? = some step ∧ FailsAs step payload error ∧
      failure.message = "step " ++ toString (answered steps) ++ ": " ++ payload ∧
      failure.cause = some error.message
  /-- Only the line of the first step says nothing of what the ratchet did. -/
  line : ∀ (i : Nat) (line : String), report.lines[i]? = some line →
    ∃ j : Json, line = j.sorted.render ∧ j.get? "step" = some (.int i) ∧
      ∀ name ∈ outcomeNames, j.get? name = some .null ↔ i = 0

theorem tells_run (table : FamilyTable) (steps : List TraceStep) :
    Report.Tells ⟨(run table steps).published, (run table steps).rejection.map .rejected⟩ steps := by
  constructor
  · rw [Report.lines, List.length_map]
    exact length_published table .initial steps
  · rw [Option.isSome_map]
    exact isSome_rejection_iff table .initial steps
  · intro failure hfailure
    obtain ⟨rejection, hrejection, rfl⟩ := Option.map_eq_some_iff.1 hfailure
    obtain ⟨step, hstep, hnumber, hfails⟩ := failsAs_of_rejection hrejection
    have hnumber : rejection.step = answered steps := hnumber.trans (Nat.zero_add _)
    exact ⟨step, _, _, hstep, hfails, by rw [← hnumber]; rfl, rfl⟩
  · intro i line hline
    rw [Report.lines, List.getElem?_map] at hline
    obtain ⟨p, hp, rfl⟩ := Option.map_eq_some_iff.1 hline
    obtain ⟨hnumber, houtcome⟩ := outcome_eq_none_iff hp
    have hnumber : p.step = i := hnumber.trans (Nat.zero_add i)
    refine ⟨p.toJson, rfl, by rw [get?_step, hnumber], fun name hname => ?_⟩
    rw [get?_outcome_eq_null_iff p hname, houtcome]
    simp [Progress.initial]

theorem loadFamilies_eq (request : Request) (config : CarrierConfig) :
    request.loadFamilies config = .ok (FamilyTable.build config.ratFamilies).1 := by
  simp [Request.loadFamilies, LiveTable.reload, LiveTable.rebuild, LiveTable.replace]

section Perform

variable {request : Request} {config : CarrierConfig}

theorem perform_of_readConfig (hconfig : request.readConfig = .ok config) :
    request.perform =
      match request.readTrace with
      | .error failure => .failed failure
      | .ok steps =>
        let result := run (FamilyTable.build config.ratFamilies).1 steps
        ⟨result.published, result.rejection.map .rejected⟩ := by
  simp only [Request.perform, hconfig, loadFamilies_eq]
  cases request.readTrace <;> rfl

theorem perform_of_error (hconfig : request.readConfig = .ok config) {failure : Failure}
    (htrace : request.readTrace = .error failure) : request.perform = .failed failure := by
  rw [perform_of_readConfig hconfig, htrace]

theorem perform_of_holds (hconfig : request.readConfig = .ok config) {steps : List TraceStep}
    (htrace : request.trace.Holds steps) (hne : steps ≠ []) :
    request.perform =
      ⟨(run (FamilyTable.build config.ratFamilies).1 steps).published,
        (run (FamilyTable.build config.ratFamilies).1 steps).rejection.map .rejected⟩ := by
  rw [perform_of_readConfig hconfig, readTrace_of_holds htrace hne]

/-- The lines of a trace that has steps, and of one that has none. -/
theorem lines_perform (hconfig : request.readConfig = .ok config) {steps : List TraceStep}
    (htrace : request.trace.Holds steps) :
    request.perform.lines =
      (run (FamilyTable.build config.ratFamilies).1 steps).published.map
        fun p => p.toJson.sorted.render := by
  by_cases hne : steps = []
  · subst hne
    rw [perform_of_error hconfig (readTrace_of_holds_nil htrace)]
    rfl
  · rw [perform_of_holds hconfig htrace hne]
    rfl

end Perform

/-- A replay decodes all of its trace, and then prints line by line what no later step changes. -/
structure Request.Causal (request : Request) : Prop where
  /-- A step that cannot be decoded leaves no line, wherever it stands. -/
  undecodable : ∀ items, request.trace.Lists items →
    (∃ item ∈ items, TraceStep.ofDraft? item = none) →
    request.perform.lines = [] ∧ request.perform.failure = some .traceInvalid
  empty : request.trace.Holds [] →
    request.perform.lines = [] ∧ request.perform.failure = some (.traceEmpty request.trace.path)
  tells : ∀ steps, request.trace.Holds steps → steps ≠ [] → request.perform.Tells steps
  /-- The lines of a trace that ends earlier are the first of the lines of the whole. -/
  earlier : ∀ steps, request.trace.Holds steps → ∀ file earlier, file.Holds earlier →
    earlier <+: steps →
    ({ request with trace := file } : Request).perform.lines <+: request.perform.lines

/-- Whatever the families of its configuration, a replay is causal. -/
theorem causal_of_readConfig {request : Request} {config : CarrierConfig}
    (hconfig : request.readConfig = .ok config) : request.Causal where
  undecodable := by
    intro items hlists ⟨item, hitem, hundecodable⟩
    have htrace : request.readTrace = .error .traceInvalid := by
      rw [readTrace_of_lists hlists, mapM_eq_none_of_mem hitem hundecodable]
    rw [perform_of_error hconfig htrace]
    exact ⟨rfl, rfl⟩
  empty := by
    intro hempty
    rw [perform_of_error hconfig (readTrace_of_holds_nil hempty)]
    exact ⟨rfl, rfl⟩
  tells := by
    intro steps hholds hne
    rw [perform_of_holds hconfig hholds hne]
    exact tells_run _ steps
  earlier := by
    intro steps hholds file earlier hfile hprefix
    have hconfig' : ({ request with trace := file } : Request).readConfig = .ok config := hconfig
    rw [lines_perform hconfig' hfile, lines_perform hconfig hholds]
    exact (isPrefix_published hprefix).map _

/-- A step that gives each domain the report of the other. -/
def swappedStep : TraceStep :=
  ⟨.dataV10 ⟨1, 3, 0, 0, none⟩, .voiceV10 ⟨1, 3, false, 0, 0, 0, 0, none⟩, [], false⟩

/-- A replay of LTE, of UMTS, and of a step with its reports swapped. -/
def replayWithSwap : Request :=
  ⟨1, none, "trace.json", .ok ("[[[\"1.5\",1,14,0,null],[\"1.5\",1,14,0,null]]," ++
    "[[\"1.5\",1,3,0,null],[\"1.5\",1,3,0,null]]," ++
    "[[\"data-1.0\",1,3,0,0,null],[\"voice-1.0\",1,3,false,0,0,0,0,null]]]")⟩

/-- The first step of that replay on its own. -/
def fileOfLte : File :=
  ⟨"first.json", .ok "[[[\"1.5\",1,14,0,null],[\"1.5\",1,14,0,null]]]"⟩

/-- The replay fails at the voice payload of the swapped step, though its data payload does not
answer either, and the first of its two lines is that of the first step on its own. -/
theorem causal_replayWithSwap :
    replayWithSwap.readConfig = .ok .default ∧
      replayWithSwap.perform.lines.length = 2 ∧
      (∃ failure, replayWithSwap.perform.failure = some failure ∧
        failure.message = "step 2: voice") ∧
      ({ replayWithSwap with trace := fileOfLte } : Request).perform.lines <+:
        replayWithSwap.perform.lines := by
  have hconfig : replayWithSwap.readConfig = .ok .default := rfl
  have hcausal := causal_of_readConfig hconfig
  have hsteps : replayWithSwap.trace.Holds [stepInPlace 14 [], stepInPlace 3 [], swappedStep] :=
    File.holds_of_mapM rfl (by decide +kernel)
  have hfirst : fileOfLte.Holds [stepInPlace 14 []] := File.holds_of_mapM rfl (by decide +kernel)
  have htells := hcausal.tells _ hsteps (by simp)
  refine ⟨hconfig, htells.length_lines, ?_, hcausal.earlier _ hsteps _ _ hfirst ⟨_, rfl⟩⟩
  obtain ⟨failure, hfailure⟩ :=
    Option.isSome_iff_exists.1 (htells.fails_iff.2 ⟨swappedStep, by simp, by decide⟩)
  obtain ⟨step, payload, error, hstep, hfails, hmessage, -⟩ := htells.failure failure hfailure
  obtain rfl : swappedStep = step := Option.some.inj hstep
  cases hfails with
  | voice _ => exact ⟨failure, hfailure, hmessage⟩
  | data hvoice _ => cases hvoice

end Replay

end CellularRegistration

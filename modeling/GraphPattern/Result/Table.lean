/-
Result tables: the rows that a query has found, and their JSON and TSV texts.
-/
import GraphPattern.Result.Json
import GraphPattern.Rdf.Written
import GraphPattern.Join.Run

namespace GraphPattern

/-- The forms that results are written in. -/
inductive ResultFormat where
  | json
  | tsv
deriving DecidableEq, Repr

/-- Rows under the names of the select variables. -/
structure ResultTable where
  columns : List String
  rows : List Solution
deriving DecidableEq

/-- The JSON object of a term.  A plain literal has no datatype, nor has one with a
language tag. -/
def Term.toJson : Term → Json
  | .iri i => .ofFields [("type", .text "uri"), ("value", .text i.text)]
  | .blank b => .ofFields [("type", .text "bnode"), ("value", .text b.id)]
  | .literal l =>
    .ofFields
      ([("type", .text "literal"), ("value", .text l.value)] ++
        match l.kind with
        | .tagged tag => [("xml:lang", .text tag.text)]
        | .typed datatype =>
          if datatype = Iri.xsdString then [] else [("datatype", .text datatype.text)])

/-- The JSON object of a row: a variable without a value is left out. -/
def Solution.toJson (s : Solution) : Json :=
  .ofFields (s.bindings.entries.filterMap fun entry => entry.2.map fun t => (entry.1, t.toJson))

namespace ResultTable

def toJson (r : ResultTable) : Json :=
  .ofFields
    [("head", .ofFields [("vars", .list (r.columns.map .text))]),
      ("results", .ofFields [("bindings", .list (r.rows.map Solution.toJson))])]

def line (cells : List String) : String := "\t".intercalate cells ++ "\n"

/-- The cell of a value: its N-Triples text, or nothing. -/
def cell (value : Option Term) : String := (value.map Term.ntriples).getD ""

def toTsv (r : ResultTable) : String :=
  line (r.columns.map fun v => "?" ++ v) ++
    String.join (r.rows.map fun row => line (row.values.map cell))

def serialize (r : ResultTable) : ResultFormat → String
  | .json => r.toJson.pretty
  | .tsv => r.toTsv

/-- The table of the rows that are left in a join; an error takes the place of the
whole table. -/
def ofJoin {ω : Type} (plan : JoinPlan) (b : Backend ω) (s : JoinState ω) :
    Except QueryError ResultTable × JoinState ω :=
  let d := s.drain plan b
  match d.error with
  | some e => (.error e, d.state)
  | none => (.ok ⟨s.columns, d.rows⟩, d.state)

end ResultTable

end GraphPattern

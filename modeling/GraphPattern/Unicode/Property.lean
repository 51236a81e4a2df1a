/-
Sets of characters by name, as they are asked for: a property, a category or a
script, or a property that has many values together with one of them.  Letters,
numbers and graphic characters are at the end.
-/
import GraphPattern.Unicode.AgeTable
import GraphPattern.Unicode.BreakTable
import GraphPattern.Unicode.CasingTable
import GraphPattern.Unicode.CategoryTable
import GraphPattern.Unicode.IdentifierTable
import GraphPattern.Unicode.PropertyTable
import GraphPattern.Unicode.Runs
import GraphPattern.Unicode.ScriptExtensionTable
import GraphPattern.Unicode.ScriptTable

namespace GraphPattern.Unicode

/-! ## General categories, alone and in groups -/

/-- A group of categories: its names, the categories in it, and the codes in it that
belong to no character. -/
structure CategoryGroup where
  names : List String
  members : List String
  blanks : List CodeRange

/-- The groups: letters, marks, numbers, punctuation, symbols, separators, others.
The codes that belong to no character count as others, so that the ranges on both
sides of them are one. -/
def categoryGroups : List CategoryGroup :=
  [ ⟨["Letter", "L"], ["Lu", "Ll", "Lt", "Lm", "Lo"], []⟩,
    ⟨["Cased_Letter", "LC"], ["Lu", "Ll", "Lt"], []⟩,
    ⟨["Mark", "M", "combiningmark"], ["Mn", "Mc", "Me"], []⟩,
    ⟨["Number", "N"], ["Nd", "Nl", "No"], []⟩,
    ⟨["Punctuation", "P", "punct"], ["Pc", "Pd", "Ps", "Pe", "Pi", "Pf", "Po"], []⟩,
    ⟨["Symbol", "S"], ["Sm", "Sc", "Sk", "So"], []⟩,
    ⟨["Separator", "Z"], ["Zs", "Zl", "Zp"], []⟩,
    ⟨["Other", "C"], ["Cc", "Cf", "Cn", "Co"], [⟨0xD800, 0xDFFF⟩]⟩ ]

def CategoryGroup.set (group : CategoryGroup) : CharSet :=
  .ofRanges (group.blanks ++
    group.members.flatMap fun name => (namedSet categoryTable name).ranges.toList)

/-- The characters of the category or group with a given name, or one of the sets
that are asked for like these: any character, those that are assigned, ASCII. -/
def categorySet? (name : String) : Option CharSet :=
  if name = "any" then some .all
  else if name = "assigned" then some (namedSet categoryTable "Cn").compl
  else if name = "ascii" then some (.ofRanges [⟨0, 0x7F⟩])
  else
    match findSet? categoryTable name with
    | some s => some s
    | none =>
      (categoryGroups.find? fun group => group.names.any fun known => looseName known == name).map
        (·.set)

def category (name : String) : CharSet := (categorySet? (looseName name)).getD .empty

/-! ## Properties and scripts -/

def propertySet? (name : String) : Option CharSet :=
  [propertyTable, casingTable, identifierTable, emojiTable].findSome? fun table =>
    findSet? table name

/-- The decimal digits of every script. -/
def digitSet : CharSet := category "Nd"

/-- White space. -/
def blankSet : CharSet := namedSet propertyTable "White_Space"

/-- What words are made of: alphabetic characters, marks, decimal digits, connectors
and joiners. -/
def wordSet : CharSet :=
  .unions
    [ namedSet propertyTable "Alphabetic", category "M", digitSet, category "Pc",
      namedSet propertyTable "Join_Control" ]

def scriptSet? (name : String) : Option CharSet := findSet? scriptTable name

/-- The characters that are used with the script with a given name, if they belong to
it or not. -/
def scriptExtensionSet? (name : String) : Option CharSet :=
  (findRuns? scriptTable name).map fun entry =>
    ((scriptExtensionTable.find? fun extended => extended.names.any (· ∈ entry.names)).getD
      entry).set

/-! ## Sets by name -/

/-- A name that is asked for, in the form in which names are compared.  An "is" in
front of it says nothing, except in "isc", which is a name of its own. -/
def askedName (s : String) : String :=
  match s.toList with
  | a :: b :: rest =>
    if a.toLower == 'i' && b.toLower == 's' then
      let name := looseName (String.ofList rest)
      if name = "c" then "isc" else name
    else looseName s
  | _ => looseName s

/-- The characters that an edition of the standard has: those that it adds and those
that earlier ones added. -/
def ageSet? (name : String) : Option CharSet :=
  (ageTable.findIdx? fun entry => entry.names.any fun known => looseName known == name).map
    fun k => .ofRanges ((ageTable.take (k + 1)).flatMap (·.ranges))

/-- The properties with many values, each with its names and the set of each
value. -/
def valuedProperties : List (List String × (String → Option CharSet)) :=
  [ (["generalcategory", "gc"], categorySet?),
    (["script", "sc"], scriptSet?),
    (["scriptextensions", "scx"], scriptExtensionSet?),
    (["age"], ageSet?),
    (["graphemeclusterbreak", "gcb"], findSet? graphemeBreakTable),
    (["wordbreak", "wb"], findSet? wordBreakTable),
    (["sentencebreak", "sb"], findSet? sentenceBreakTable) ]

/-- The set with a given name: of a property, a category or a script. -/
def setOfName? (name : String) : Option CharSet :=
  [propertySet?, categorySet?, scriptSet?].findSome? fun find => find (askedName name)

/-- The set of the characters for which a property has a given value. -/
def setOfValue? (property value : String) : Option CharSet :=
  (valuedProperties.find? fun entry => askedName property ∈ entry.1).bind fun entry =>
    entry.2 (askedName value)

/-! ## Letters, numbers and graphic characters

Sets that are asked for by name keep to one edition of the standard.  What is known
here of a character is what the next edition says, which adds characters and takes
nothing back.
-/

/-- The characters that become alphabetic, numbers, marks that extend, and graphic. -/
def additionTable : List NamedRuns :=
  [ ⟨["Alphabetic"],
      [ "2191 1 972 1 127 1 39665 2 2 1 1 1 28 1 24910 26 1387 3 50 2 3172 8 584 44 20676 25 2 25",
        "286 5 6145 8 1289 22 97 115 22733 31 1 22 8 2 53306 6 5986 12 21762 4298" ]⟩,
    ⟨["Number"], ["73184 10 21002 3"]⟩,
    ⟨["Grapheme_Extend"], ["6863 15 2 12 62478 2 3172 1 1 3 1 1 52092 1 2 1 7 2 5 1"]⟩,
    ⟨["Graphic"],
      [ "2191 1 972 1 127 1 3570 15 2 12 1493 1 2772 1 31799 2 2 1 1 1 28 1 21457 16 445 2 54 7",
        "2929 26 1387 3 8 9 33 2 3172 8 584 44 4 10 20662 25 2 25 286 5 6145 8 1289 22 97 115",
        "16135 3 445 23 15 17 6095 31 1 22 8 2 4056 1 158 4 341 9 379 4 50 1 3 1 57 1 4 1 28 1 4 1",
        "266 1 47935 6 5986 12 21762 4298" ]⟩ ]

/-- Letters, letter-like numbers and signs that belong to letters. -/
def alphabeticSet : CharSet :=
  (namedSet propertyTable "Alphabetic").union (namedSet additionTable "Alphabetic")

/-- Numbers of every kind. -/
def numberSet : CharSet := (category "N").union (namedSet additionTable "Number")

/-- Marks that extend the character before them. -/
def extendingSet : CharSet :=
  (namedSet propertyTable "Grapheme_Extend").union (namedSet additionTable "Grapheme_Extend")

/-- Separators, controls, format characters, and codes without a character. -/
def blankOrOtherSet : CharSet :=
  ((category "Z").union (category "C")).diff (namedSet additionTable "Graphic")

/-- Characters that nothing is shown for. -/
def ignorableSet : CharSet := namedSet propertyTable "Default_Ignorable_Code_Point"

def isAlphabetic (c : Char) : Bool := alphabeticSet.contains c

def isAlphanumeric (c : Char) : Bool := alphabeticSet.contains c || numberSet.contains c

/-- Whether a character shows by itself: it is a space or any graphic character, and
no mark on the character before it. -/
def isGraphic (c : Char) : Bool :=
  !extendingSet.contains c &&
    (c == ' ' || !(blankOrOtherSet.contains c || ignorableSet.contains c))

end GraphPattern.Unicode

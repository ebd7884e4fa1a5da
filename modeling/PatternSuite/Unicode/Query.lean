import PatternSuite.Unicode.Age
import PatternSuite.Unicode.Break
import PatternSuite.Unicode.Category
import PatternSuite.Unicode.Property
import PatternSuite.Unicode.Script

/-!
# Looking up characters by property

Properties and their values have several spellings each, and case, blanks, hyphens and underscores
in them do not count.

* `findNamed`: a category, a script or a binary property by its name alone.
* `findValued`: the characters for which a property has a value.
-/

namespace PatternSuite.Unicode

/-- Why a look-up gives nothing. -/
inductive QueryFault
  | unknownProperty
  | unknownValue
  deriving DecidableEq, Repr

/-- The spelling that all spellings of a name share. A leading `is` does not count either, except
in `isc`, which would become the name of a category. -/
def normalizeName (name : String) : String :=
  let chars := name.toList
  let startsWithIs := match chars with
    | i :: s :: _ => (i == 'i' || i == 'I') && (s == 's' || s == 'S')
    | _ => false
  let kept := (chars.drop (if startsWithIs then 2 else 0)).filterMap fun c =>
    if c == ' ' || c == '_' || c == '-' || 0x7F < c.toNat then none else some c.toLower
  let short := String.ofList kept
  if startsWithIs && short == "c" then "isc" else short

/-- Spellings of properties that have values other than yes and no. -/
def valuedPropertyNames : List String := [
  "age", "bc", "bidiclass", "blk", "block", "bmg", "bidimirroringglyph", "bpb",
  "bidipairedbracket", "bpt", "bidipairedbrackettype", "ccc", "canonicalcombiningclass", "cf",
  "casefolding", "dm", "decompositionmapping", "dt", "decompositiontype", "ea",
  "eastasianwidth", "equideo", "equivalentunifiedideograph", "fcnfkc", "fcnfkcclosure", "gc",
  "generalcategory", "gcb", "graphemeclusterbreak", "hst", "hangulsyllabletype", "incb",
  "indicconjunctbreak", "inpc", "indicpositionalcategory", "insc", "indicsyllabiccategory", "isc",
  "isocomment", "jamoshortname", "jsn", "jg", "joininggroup", "jt", "joiningtype", "lb",
  "linebreak", "lc", "lowercasemapping", "na", "name", "na1", "unicode1name", "namealias",
  "nfcqc", "nfcquickcheck", "nfdqc", "nfdquickcheck", "nfkccf", "nfkccasefold", "nfkcscf",
  "nfkcsimplecasefold", "nfkcqc",
  "nfkcquickcheck", "nfkdqc", "nfkdquickcheck", "nt", "numerictype", "nv", "numericvalue", "sb",
  "sentencebreak", "sc", "script", "scf", "simplecasefolding", "sfc", "scx", "scriptextensions",
  "slc", "simplelowercasemapping", "stc", "simpletitlecasemapping", "suc",
  "simpleuppercasemapping", "tc", "titlecasemapping", "uc", "uppercasemapping", "vo",
  "verticalorientation", "wb", "wordbreak", "kaccountingnumeric", "cjkaccountingnumeric",
  "kcompatibilityvariant", "cjkcompatibilityvariant", "kiicore", "cjkiicore", "kirggsource",
  "cjkirggsource", "kirghsource", "cjkirghsource", "kirgjsource", "cjkirgjsource",
  "kirgkpsource", "cjkirgkpsource", "kirgksource", "cjkirgksource", "kirgmsource",
  "cjkirgmsource", "kirgssource", "cjkirgssource", "kirgtsource", "cjkirgtsource",
  "kirguksource", "cjkirguksource", "kirgusource", "cjkirgusource", "kirgvsource",
  "cjkirgvsource", "kothernumeric", "cjkothernumeric", "kprimarynumeric", "cjkprimarynumeric",
  "krsunicode", "cjkrsunicode", "unicoderadicalstroke", "urs"]

/-- Spellings of binary properties that are no sets of single characters in the tables. -/
def derivedPropertyNames : List String := [
  "bidim", "bidimirrored", "ce", "compositionexclusion", "compex", "fullcompositionexclusion",
  "cwkcf", "changeswhennfkccasefolded", "grlink", "graphemelink", "hyphen", "oalpha",
  "otheralphabetic", "odi", "otherdefaultignorablecodepoint", "ogrext", "othergraphemeextend",
  "oidc", "otheridcontinue", "oids", "otheridstart", "olower", "otherlowercase", "omath",
  "othermath", "oupper", "otheruppercase", "xonfc", "expandsonnfc", "xonfd", "expandsonnfd",
  "xonfkc", "expandsonnfkc", "xonfkd", "expandsonnfkd"]

/-- Is the normalised name the name of some property? -/
def isPropertyName (name : String) : Bool :=
  valuedPropertyNames.contains name || derivedPropertyNames.contains name
    || propertyTable.any fun t => t.names.contains name

/-- The category of a normalised name; the surrogates are no characters. -/
def categoryOf (name : String) (missing : QueryFault) : Except QueryFault CharSet :=
  if name == "cs" || name == "surrogate" then .error .unknownValue
  else match findCategory? name with
    | some s => .ok s
    | none => .error missing

/-- A category, a script or a binary property by its name alone. The short names `cf`, `sc` and
`lc` stand for categories, though properties are called so too. -/
def findNamed (name : String) : Except QueryFault CharSet :=
  let name := normalizeName name
  if name != "cf" && name != "sc" && name != "lc" && isPropertyName name then
    match NamedTable.find name propertyTable with
    | some s => .ok s
    | none => .error .unknownProperty
  else
    match categoryOf name .unknownProperty with
    | .error .unknownProperty =>
      match NamedTable.find name scriptTable with
      | some s => .ok s
      | none => .error .unknownProperty
    | answer => answer

/-- The characters that existed in the version with a normalised name. -/
def existingAt? (version : String) : Option CharSet :=
  (ageTable.findIdx? fun t => t.names.contains version).map fun i =>
    (ageTable.take (i + 1)).foldl (fun s t => s.union t.set) CharSet.none

/-- The characters for which a property has a value. -/
def findValued (property value : String) : Except QueryFault CharSet :=
  let property := normalizeName property
  let value := normalizeName value
  let found (s : Option CharSet) : Except QueryFault CharSet := match s with
    | some s => .ok s
    | none => .error .unknownValue
  if !isPropertyName property then .error .unknownProperty
  else if property == "gc" || property == "generalcategory" then categoryOf value .unknownValue
  else if property == "sc" || property == "script" then
    found (NamedTable.find value scriptTable)
  else if property == "scx" || property == "scriptextensions" then
    found (NamedTable.find value scriptExtensionTable)
  else if property == "age" then found (existingAt? value)
  else if property == "gcb" || property == "graphemeclusterbreak" then
    found (NamedTable.find value graphemeBreakTable)
  else if property == "wb" || property == "wordbreak" then
    found (NamedTable.find value wordBreakTable)
  else if property == "sb" || property == "sentencebreak" then
    found (NamedTable.find value sentenceBreakTable)
  else .error .unknownValue

end PatternSuite.Unicode

import GlslFlatten.Standin.Unicode.Property
import GlslFlatten.Standin.Unicode.Script

/-!
Sets of characters by name: a category, a script or a property, in any of its spellings.
-/

namespace GlslFlatten.Unicode

/-- What a name fails to name. -/
inductive Unnamed where
  | property
  | value
  deriving DecidableEq, Repr

/-- A name without blanks, underlines, dashes, case, characters beyond ASCII, and a leading `is`. -/
def plainName (name : List Char) : String :=
  let (marked, body) := match name with
    | i :: s :: rest =>
      if i.toLower = 'i' && s.toLower = 's' then (true, rest) else (false, name)
    | _ => (false, name)
  let kept := (body.filter fun c => c.toNat < 128 && !([' ', '_', '-'].contains c)).map Char.toLower
  if marked && kept = ['c'] then "isc" else .ofList kept

/-- The names of each category and of each group of categories, with the labels of its members. -/
def categoryNames : List (List String × List String) := [
  (["c", "other"], ["Cc", "Cf", "Cn", "Co"]),
  (["cc", "control", "cntrl"], ["Cc"]),
  (["cf", "format"], ["Cf"]),
  (["cn", "unassigned"], ["Cn"]),
  (["co", "privateuse"], ["Co"]),
  (["l", "letter"], ["Lu", "Ll", "Lt", "Lm", "Lo"]),
  (["lc", "casedletter"], ["Lu", "Ll", "Lt"]),
  (["ll", "lowercaseletter"], ["Ll"]),
  (["lm", "modifierletter"], ["Lm"]),
  (["lo", "otherletter"], ["Lo"]),
  (["lt", "titlecaseletter"], ["Lt"]),
  (["lu", "uppercaseletter"], ["Lu"]),
  (["m", "mark", "combiningmark"], ["Mn", "Mc", "Me"]),
  (["mc", "spacingmark"], ["Mc"]),
  (["me", "enclosingmark"], ["Me"]),
  (["mn", "nonspacingmark"], ["Mn"]),
  (["n", "number"], ["Nd", "Nl", "No"]),
  (["nd", "decimalnumber", "digit"], ["Nd"]),
  (["nl", "letternumber"], ["Nl"]),
  (["no", "othernumber"], ["No"]),
  (["p", "punctuation", "punct"], ["Pc", "Pd", "Ps", "Pe", "Pi", "Pf", "Po"]),
  (["pc", "connectorpunctuation"], ["Pc"]),
  (["pd", "dashpunctuation"], ["Pd"]),
  (["pe", "closepunctuation"], ["Pe"]),
  (["pf", "finalpunctuation"], ["Pf"]),
  (["pi", "initialpunctuation"], ["Pi"]),
  (["po", "otherpunctuation"], ["Po"]),
  (["ps", "openpunctuation"], ["Ps"]),
  (["s", "symbol"], ["Sm", "Sc", "Sk", "So"]),
  (["sc", "currencysymbol"], ["Sc"]),
  (["sk", "modifiersymbol"], ["Sk"]),
  (["sm", "mathsymbol"], ["Sm"]),
  (["so", "othersymbol"], ["So"]),
  (["z", "separator"], ["Zs", "Zl", "Zp"]),
  (["zl", "lineseparator"], ["Zl"]),
  (["zp", "paragraphseparator"], ["Zp"]),
  (["zs", "spaceseparator"], ["Zs"])]

def category? (name : String) : Option CharSet :=
  match name with
  | "any" => some (.range 0 lastCodePoint)
  | "assigned" => some ((ofCategories ["Cn"]).complement lastCodePoint)
  | "ascii" => some (.range 0 127)
  | _ => (categoryNames.find? (·.1.contains name)).map fun entry => ofCategories entry.2

def script? (name : String) : Option CharSet := (scriptCode? name).map ofScript

/-- The names of properties that have more values than two, and of those that are not held here. -/
def otherProperties : String :=
  "age bidiclass bc bidimirroringglyph bmg bidipairedbracket bpb bidipairedbrackettype bpt block
  blk canonicalcombiningclass ccc casefolding cf changeswhennfkccasefolded cwkcf
  compositionexclusion ce decompositionmapping dm decompositiontype dt eastasianwidth ea
  expandsonnfc fullcompositionexclusion compex graphemeclusterbreak gcb graphemelink
  hangulsyllabletype hst hyphen isocomment isc indicpositionalcategory inpc indicsyllabiccategory
  insc jamoshortname joininggroup jg joiningtype jt linebreak lb lowercasemapping lc nfcquickcheck
  nfcqc nfdquickcheck nfdqc nfkccasefold nfkccf nfkcquickcheck nfkcqc nfkdquickcheck nfkdqc name
  na numerictype nt numericvalue nv sentencebreak sb simplecasefolding scf sfc
  simplelowercasemapping slc simpletitlecasemapping stc simpleuppercasemapping suc
  titlecasemapping tc unicode1name na1 uppercasemapping uc verticalorientation vo wordbreak wb"

/-- The characters with a property, or in a category or script. Two names that stand for a category as
well as for a property mean the category. -/
def named (name : List Char) : Except Unnamed CharSet :=
  let name := plainName name
  match (Property.named? name).map (·.chars) <|> category? name <|> script? name with
  | some s => .ok s
  | none => .error .property

/-- The characters for which a property has a value. -/
def valued (property value : List Char) : Except Unnamed CharSet :=
  let property := plainName property
  let value := plainName value
  let found (s : Option CharSet) : Except Unnamed CharSet :=
    match s with
    | some s => .ok s
    | none => .error .value
  if ["gc", "generalcategory", "category"].contains property then found (category? value)
  else if ["sc", "script", "scx", "scriptextensions"].contains property then found (script? value)
  else if (Property.named? property).isSome ||
      ((Text.words otherProperties.toList).map String.ofList).contains property then .error .value
  else .error .property

end GlslFlatten.Unicode

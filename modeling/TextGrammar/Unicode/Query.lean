import TextGrammar.Unicode.Age
import TextGrammar.Unicode.Script
import TextGrammar.Unicode.Segmentation

set_option autoImplicit false

namespace TextGrammar.Unicode

-- The form in which names are compared. What is not ASCII is dropped; "isc" is a short name of its
-- own, not the category C.
def looseName (name : List Char) : String :=
  let isPrefixed := match name with
    | i :: s :: _ => (i == 'i' || i == 'I') && (s == 's' || s == 'S')
    | _ => false
  let rest := if isPrefixed then name.drop 2 else name
  let kept := rest.filter fun c => c.toNat < 0x80 && c != ' ' && c != '_' && c != '-'
  let lower := String.ofList (kept.map Char.toLower)
  if isPrefixed && lower == "c" then "isc" else lower

def sameName (name loose : String) : Bool := looseName name.toList == loose

-- The general categories and their groups, each with its long and further names. Surrogates are no
-- characters, so their category has no name here.
def categoryNames : List (List String × List String) := [
  (["C", "Other"], ["Cc", "Cf", "Cn", "Co"]),
  (["Cc", "Control", "cntrl"], ["Cc"]),
  (["Cf", "Format"], ["Cf"]),
  (["Cn", "Unassigned"], ["Cn"]),
  (["Co", "Private_Use"], ["Co"]),
  (["L", "Letter"], ["Lu", "Ll", "Lt", "Lm", "Lo"]),
  (["LC", "Cased_Letter"], ["Lu", "Ll", "Lt"]),
  (["Lu", "Uppercase_Letter"], ["Lu"]),
  (["Ll", "Lowercase_Letter"], ["Ll"]),
  (["Lt", "Titlecase_Letter"], ["Lt"]),
  (["Lm", "Modifier_Letter"], ["Lm"]),
  (["Lo", "Other_Letter"], ["Lo"]),
  (["M", "Mark", "Combining_Mark"], ["Mn", "Mc", "Me"]),
  (["Mn", "Nonspacing_Mark"], ["Mn"]),
  (["Mc", "Spacing_Mark"], ["Mc"]),
  (["Me", "Enclosing_Mark"], ["Me"]),
  (["N", "Number"], ["Nd", "Nl", "No"]),
  (["Nd", "Decimal_Number", "digit"], ["Nd"]),
  (["Nl", "Letter_Number"], ["Nl"]),
  (["No", "Other_Number"], ["No"]),
  (["P", "Punctuation", "punct"], ["Pc", "Pd", "Ps", "Pe", "Pi", "Pf", "Po"]),
  (["Pc", "Connector_Punctuation"], ["Pc"]),
  (["Pd", "Dash_Punctuation"], ["Pd"]),
  (["Ps", "Open_Punctuation"], ["Ps"]),
  (["Pe", "Close_Punctuation"], ["Pe"]),
  (["Pi", "Initial_Punctuation"], ["Pi"]),
  (["Pf", "Final_Punctuation"], ["Pf"]),
  (["Po", "Other_Punctuation"], ["Po"]),
  (["S", "Symbol"], ["Sm", "Sc", "Sk", "So"]),
  (["Sm", "Math_Symbol"], ["Sm"]),
  (["Sc", "Currency_Symbol"], ["Sc"]),
  (["Sk", "Modifier_Symbol"], ["Sk"]),
  (["So", "Other_Symbol"], ["So"]),
  (["Z", "Separator"], ["Zs", "Zl", "Zp"]),
  (["Zs", "Space_Separator"], ["Zs"]),
  (["Zl", "Line_Separator"], ["Zl"]),
  (["Zp", "Paragraph_Separator"], ["Zp"])]

def category? (loose : String) : Option CodePoints :=
  if loose == "any" then some CodePoints.all
  else if loose == "assigned" then some (CodePoints.complement (inCategories ["Cn"]))
  else if loose == "ascii" then some [(0, 0x7F)]
  else
    (categoryNames.find? fun entry => entry.1.any (sameName · loose)).map fun entry =>
      inCategories entry.2

def script? (loose : String) : Option Script :=
  scripts.find? fun script => (script.name :: script.codes).any (sameName · loose)

def byRule? (rules : List PropertyRule) (loose : String) : Option CodePoints :=
  (rules.find? fun rule => sameName rule.name loose || sameName rule.short loose).map
    PropertyRule.codePoints

def property? (loose : String) : Option CodePoints :=
  if loose == "space" then some (withProperty "White_Space") else byRule? propertyTable loose

def age? (loose : String) : Option CodePoints :=
  let isNamed := fun (version : String) =>
    sameName version loose || "v" ++ String.ofList (version.toList.filter (· != '.')) == loose
  (ageTable.findIdx? fun entry => isNamed entry.1).map fun index =>
    CodePoints.unions ((ageTable.take (index + 1)).map fun entry => CodePoints.ofHex entry.2)

def graphemeBreak? (loose : String) : Option CodePoints :=
  if loose == "lv" then some openSyllables
  else if loose == "lvt" then some closedSyllables
  else byRule? graphemeBreaks loose

def shadowedNames : List String := ["cf", "sc", "lc"]

def byName? (name : List Char) : Option CodePoints :=
  let loose := looseName name
  let first := if shadowedNames.contains loose then none else property? loose
  first <|> category? loose <|> (script? loose).map Script.codePoints

def byValue? (property value : List Char) : Option CodePoints :=
  let property := looseName property
  let value := looseName value
  if property == "gc" || property == "generalcategory" then category? value
  else if property == "sc" || property == "script" then (script? value).map Script.codePoints
  else if property == "scx" || property == "scriptextensions" then
    (script? value).map Script.usedCodePoints
  else if property == "age" then age? value
  else if property == "gcb" || property == "graphemeclusterbreak" then graphemeBreak? value
  else if property == "wb" || property == "wordbreak" then byRule? wordBreaks value
  else if property == "sb" || property == "sentencebreak" then byRule? sentenceBreaks value
  else none

end TextGrammar.Unicode

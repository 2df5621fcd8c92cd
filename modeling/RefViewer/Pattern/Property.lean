import RefViewer.Pattern.CharClass
import RefViewer.Unicode.Script

/-!
# Properties by name

Names of properties, categories and scripts are compared loosely: case, blanks, underscores,
hyphens and a leading `is` do not count. A name alone is sought among the binary properties,
then the categories, then the scripts; a name with a value says which kind it means.
-/

namespace RefViewer.PropertyName

/-- The loose form of a name. A lone `c` after `is` keeps it, as the name of a property that
no class is made of. -/
def loose (name : List Char) : String :=
  let leadingIs := (name.take 2).map Char.toLower = ['i', 's']
  let body := if leadingIs then name.drop 2 else name
  let kept := body.filter fun c => c.toNat < 128 && c != ' ' && c != '_' && c != '-'
  let text := kept.map Char.toLower
  if leadingIs && text = ['c'] then "isc" else .ofList text

open Unicode (Category)

def categories : List (List String × List Category) := [
  (["lu", "uppercaseletter"], [.lu]),
  (["ll", "lowercaseletter"], [.ll]),
  (["lt", "titlecaseletter"], [.lt]),
  (["lc", "casedletter"], [.lu, .ll, .lt]),
  (["lm", "modifierletter"], [.lm]),
  (["lo", "otherletter"], [.lo]),
  (["l", "letter"], [.lu, .ll, .lt, .lm, .lo]),
  (["mn", "nonspacingmark"], [.mn]),
  (["mc", "spacingmark"], [.mc]),
  (["me", "enclosingmark"], [.me]),
  (["m", "mark", "combiningmark"], [.mn, .mc, .me]),
  (["nd", "decimalnumber", "digit"], [.nd]),
  (["nl", "letternumber"], [.nl]),
  (["no", "othernumber"], [.no]),
  (["n", "number"], [.nd, .nl, .no]),
  (["pc", "connectorpunctuation"], [.pc]),
  (["pd", "dashpunctuation"], [.pd]),
  (["ps", "openpunctuation"], [.ps]),
  (["pe", "closepunctuation"], [.pe]),
  (["pi", "initialpunctuation"], [.pi]),
  (["pf", "finalpunctuation"], [.pf]),
  (["po", "otherpunctuation"], [.po]),
  (["p", "punctuation", "punct"], [.pc, .pd, .ps, .pe, .pi, .pf, .po]),
  (["sm", "mathsymbol"], [.sm]),
  (["sc", "currencysymbol"], [.sc]),
  (["sk", "modifiersymbol"], [.sk]),
  (["so", "othersymbol"], [.so]),
  (["s", "symbol"], [.sm, .sc, .sk, .so]),
  (["zs", "spaceseparator"], [.zs]),
  (["zl", "lineseparator"], [.zl]),
  (["zp", "paragraphseparator"], [.zp]),
  (["z", "separator"], [.zs, .zl, .zp]),
  (["cc", "control", "cntrl"], [.cc]),
  (["cf", "format"], [.cf]),
  (["co", "privateuse"], [.co])]

def allAssigned : CharClass := .ofSets (Category.assigned.map Category.set)

def category? (name : String) : Option CharClass :=
  match name with
  | "any" => some .any
  | "ascii" => some (.range 0 0x7f)
  | "assigned" => some allAssigned
  | "cn" | "unassigned" => some (.complement allAssigned)
  | "c" | "other" =>
    some (.union (.ofSets [Category.cc.set, Category.cf.set, Category.co.set])
      (.complement allAssigned))
  | name =>
    (categories.find? fun entry => entry.1.contains name).map fun entry =>
      .ofSets (entry.2.map Category.set)

def hasName (names : List String) (name : String) : Bool :=
  names.any fun known => loose known.toList = name

def script? (name : String) : Option Unicode.Script :=
  Unicode.Script.all.find? fun script => hasName script.names name

def binary? (name : String) : Option Unicode.Property :=
  Unicode.Property.all.find? fun property => hasName property.names name

/-- Three names that are also short for properties mean categories. -/
def alone? (written : List Char) : Option CharClass :=
  let name := loose written
  let property := if ["cf", "sc", "lc"].contains name then none else binary? name
  match property with
  | some property => some (.set property.set)
  | none =>
    match category? name with
    | some cls => some cls
    | none => (script? name).map fun script => .set script.own

def withValue? (written value : List Char) : Option CharClass :=
  let value := loose value
  match loose written with
  | "gc" | "generalcategory" => category? value
  | "sc" | "script" => (script? value).map fun script => .set script.own
  | "scx" | "scriptextensions" => (script? value).map fun script => .set script.used
  | _ => none

end RefViewer.PropertyName

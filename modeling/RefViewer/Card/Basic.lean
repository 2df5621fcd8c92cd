import RefViewer.Card.Address
import RefViewer.Card.Html

/-!
# Cards

How an entry is shown: as markup and as plain text. Both have the same parts, the name, the
tags, the class with its ancestors, and the type or the items.
-/

namespace RefViewer.Card

def flagTags (labels : List (Bool × String)) : List String :=
  labels.filterMap fun (on, label) => if on then some label else none

def memberTags (m : Member) : List String :=
  m.memberType.text :: flagTags
    [(m.flags.unreplicated, "Unreplicated"), (m.flags.deprecated, "Deprecated"),
     (m.flags.hidden, "Hidden"), (m.flags.unscriptable, "Unscriptable")]
  ++ m.security.toList

/-- Items of an enum show no tag for replication. -/
def itemTags (item : EnumItem) : List String :=
  flagTags
    [(item.flags.deprecated, "Deprecated"), (item.flags.hidden, "Hidden"),
     (item.flags.unscriptable, "Unscriptable")]
  ++ item.security.toList

/-- A tag that reads as the security text is marked as security. -/
def tagClass (security : Option String) (tag : String) : String :=
  if security = some tag then "security" else Unicode.lower tag

def tagHtml (security : Option String) (tag : String) : Html :=
  .span ("tag " ++ tagClass security tag) tag

def ancestry (m : Member) : String := " → ".intercalate m.inheritance

def typeText (m : Member) : String := m.valueType.getD "N/A"

def titleHtml (address name : String) : Html :=
  .div "result-title"
    [.element "a"
      [("href", Html.escape address), ("target", "_blank"), ("rel", "noopener noreferrer"),
       ("class", "api-link")]
      [.text name]]

def memberHtml (m : Member) : Html :=
  let inheritance :=
    if m.inheritance = [] then [] else [.div "inheritance" [.text ("Inherits: " ++ ancestry m)]]
  .div "result-item"
    [.div "result-header"
      [.element "div" []
        ([titleHtml (Address.member m) m.name, .div "class-name" [.text m.className]]
          ++ inheritance),
       .div "tags" ((memberTags m).map (tagHtml m.security))],
     .div "result-details"
      [.div "detail-row" [.span "detail-label" "Type:", .span "detail-value" (typeText m)]]]

def itemHtml (item : EnumItem) : Html :=
  let tags := itemTags item
  .div "enum-item"
    (.div "enum-item-header"
        [.span "enum-item-name" item.name, .span "enum-item-value" item.value.display]
      :: if tags = [] then [] else [.div "enum-item-tags" (tags.map (tagHtml item.security))])

def sizeText (e : EnumType) : String := s!"Enum ({e.items.length} items)"

def enumHtml (e : EnumType) : Html :=
  .div "result-item enum-result"
    [.div "result-header"
      [.element "div" []
        [titleHtml (Address.enumType e) e.name, .div "class-name" [.text (sizeText e)]],
       .div "tags" [.span "tag enum" "Enum"]],
     .div "enum-items-container" (e.items.map itemHtml)]

def tree : Entry → Html
  | .member m => memberHtml m
  | .enumType e => enumHtml e

def html (entry : Entry) : String := (tree entry).render

def bracketed (tags : List String) : String :=
  String.join (tags.map fun tag => " [" ++ tag ++ "]")

def memberText (m : Member) : String :=
  let inheritance := if m.inheritance = [] then "" else " (inherits: " ++ ancestry m ++ ")"
  m.name ++ bracketed (memberTags m) ++ "\n  " ++ m.className ++ inheritance ++
    "\n  Type: " ++ typeText m

def itemText (item : EnumItem) : String :=
  let value := if item.value = .null then "" else " = " ++ item.value.display
  "\n    " ++ item.name ++ value ++ bracketed (itemTags item)

def enumText (e : EnumType) : String :=
  e.name ++ " [Enum]\n  " ++ sizeText e ++ String.join (e.items.map itemText)

def text : Entry → String
  | .member m => memberText m
  | .enumType e => enumText e

end RefViewer.Card

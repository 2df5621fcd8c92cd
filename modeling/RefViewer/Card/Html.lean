/-!
# Markup

A small tree of elements with attributes and text. In written text the five characters that
mean something to markup are replaced by entities; attribute values stand as they are given.
-/

namespace RefViewer

inductive Html where
  | text (text : String)
  | element (name : String) (attributes : List (String × String)) (children : List Html)

namespace Html

def entity? : Char → Option String
  | '&' => some "&amp;"
  | '<' => some "&lt;"
  | '>' => some "&gt;"
  | '"' => some "&quot;"
  | '\'' => some "&#39;"
  | _ => none

def escapeChar (c : Char) : List Char :=
  match entity? c with
  | some entity => entity.toList
  | none => [c]

def escape (text : String) : String := .ofList (text.toList.flatMap escapeChar)

def attributeText (name value : String) : String :=
  " " ++ name ++ "=\"" ++ value ++ "\""

mutual

def render : Html → String
  | .text s => escape s
  | .element name attributes children =>
    let attributesText := String.join (attributes.map fun (key, value) => attributeText key value)
    "<" ++ name ++ attributesText ++ ">" ++ renderAll children ++ "</" ++ name ++ ">"

def renderAll : List Html → String
  | [] => ""
  | html :: rest => html.render ++ renderAll rest

end

def div (cls : String) (children : List Html) : Html := .element "div" [("class", cls)] children

def span (cls : String) (text : String) : Html := .element "span" [("class", cls)] [.text text]

end Html

end RefViewer

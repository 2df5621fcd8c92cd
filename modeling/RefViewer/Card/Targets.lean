import RefViewer.Card.Basic
import RefViewer.Failure
import RefViewer.Render

/-!
# Targets

A page collects cards as markup next to an indicator of progress; a sheet writes the same
information as lines of text.
-/

namespace RefViewer

def noResultsText : String := "No results found. Try adjusting your query."

def progressText (rendered total : Nat) : String :=
  s!"Showing {rendered} of {total} results. Scroll to load more..."

structure HtmlPage where
  cards : List String
  indicator : Option String
  noResults : Bool
  deriving DecidableEq, Repr

namespace HtmlPage

def empty : HtmlPage := ⟨[], none, false⟩

def html (page : HtmlPage) : String :=
  if page.noResults then (Html.div "no-results" [.text noResultsText]).render
  else
    let indicator := page.indicator.map fun text =>
      Html.element "div" [("id", "loadingIndicator"), ("class", "loading-indicator")]
        [.text text]
    String.join page.cards ++ (indicator.map Html.render).getD ""

instance : Target HtmlPage where
  ready _ := .ok ()
  clear _ := .empty
  append entries page := { page with cards := page.cards ++ entries.map Card.html }
  showNoResults page := { page with noResults := true }
  showProgress rendered total page :=
    { page with
      indicator := if rendered < total then some (progressText rendered total) else none }

end HtmlPage

/-- Lines written so far; a sheet that is not writable stays as it is. -/
structure TextSheet where
  writable : Bool
  lines : List String
  deriving DecidableEq, Repr

namespace TextSheet

def empty : TextSheet := ⟨true, []⟩

def writeLine (line : String) (sheet : TextSheet) : TextSheet :=
  if sheet.writable then { sheet with lines := sheet.lines ++ [line] } else sheet

def text (sheet : TextSheet) : String := String.join (sheet.lines.map (· ++ "\n"))

instance : Target TextSheet where
  ready _ := .ok ()
  clear sheet := sheet.writeLine ""
  append entries sheet := entries.foldl (fun sheet entry => sheet.writeLine (Card.text entry)) sheet
  showNoResults sheet := sheet.writeLine noResultsText
  showProgress rendered total sheet :=
    if rendered < total then
      sheet.writeLine ("-- " ++ progressText rendered total ++ " (:more) --")
    else sheet

end TextSheet

end RefViewer

import RouteInventory.Pattern.Catalog
import RouteInventory.Pattern.Matches

/-!
Comments in a file's text.
-/

namespace RouteInventory.Extraction

/-- All line comments, then all block comments, each without the blanks around it. -/
def commentsIn (text : Array Char) : List String :=
  (Pattern.lineComment.groupTexts 1 text ++ Pattern.blockComment.groupTexts 1 text).map
    fun comment => .ofList (Text.trim comment)

end RouteInventory.Extraction

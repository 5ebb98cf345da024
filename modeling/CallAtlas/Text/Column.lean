/-! # Lines and columns of text -/

namespace CallAtlas.Text

/-- The number of lines. Each ends at a line feed; the last may end with the text. -/
def lineCount (text : String) : Nat :=
  let cs := text.toList
  cs.count '\n' + if cs.isEmpty || cs.getLast? == some '\n' then 0 else 1

/-- Fills a text up with blanks on the right, to a number of characters. -/
def padRight (width : Nat) (text : String) : String :=
  text ++ String.ofList (List.replicate (width - text.length) ' ')

/-- Fills a text up with blanks on the left. -/
def padLeft (width : Nat) (text : String) : String :=
  String.ofList (List.replicate (width - text.length) ' ') ++ text

end CallAtlas.Text

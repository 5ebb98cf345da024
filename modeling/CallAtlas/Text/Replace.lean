/-! # Replacements

    Characters of a text replaced by texts, one character after another. A later replacement
    also works on what the earlier ones have put in.
-/

namespace CallAtlas.Text

/-- The text with every occurrence of a character replaced. -/
def replaceChar (old : Char) (new : String) (s : String) : String :=
  String.ofList (s.toList.flatMap fun c => if c = old then new.toList else [c])

/-- The text with each rule applied to what the rules before it leave. -/
def replaceChain (rules : List (Char × String)) (s : String) : String :=
  rules.foldl (fun text rule => replaceChar rule.1 rule.2 text) s

end CallAtlas.Text

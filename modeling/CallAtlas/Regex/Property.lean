import CallAtlas.Regex.Syntax
import CallAtlas.Text.Alphanumeric
import CallAtlas.Text.CharProperty
import CallAtlas.Text.GeneralCategory
import CallAtlas.Text.Identifier
import CallAtlas.Text.Script
import CallAtlas.Text.WhiteSpace

/-! # Classes of characters by Unicode property

    Properties are looked up by name. Case, blanks, dashes, underscores and a leading "is" do
    not matter.
-/

namespace CallAtlas.Regex

open CallAtlas.Text

/-- The form in which names are compared. -/
def normalizeName (name : String) : String :=
  let cs := name.toList
  let (hadIs, cs) := match cs with
    | a :: b :: rest => if a.toLower = 'i' && b.toLower = 's' then (true, rest) else (false, cs)
    | cs => (false, cs)
  let plain :=
    (cs.filter fun c => c != ' ' && c != '_' && c != '-' && c.toNat < 0x80).map Char.toLower
  if hadIs && plain == ['c'] then "isc" else String.ofList plain

namespace GeneralCategory

open CallAtlas.Text.GeneralCategory

def letters : List CodeRanges :=
  [uppercaseLetter, lowercaseLetter, titlecaseLetter, modifierLetter, otherLetter]

def marks : List CodeRanges := [nonspacingMark, spacingMark, enclosingMark]

def numbers : List CodeRanges := [decimalNumber, letterNumber, otherNumber]

def punctuation : List CodeRanges :=
  [connectorPunctuation, dashPunctuation, openPunctuation, closePunctuation, initialPunctuation,
    finalPunctuation, otherPunctuation]

def symbols : List CodeRanges := [mathSymbol, currencySymbol, modifierSymbol, otherSymbol]

def separators : List CodeRanges := [spaceSeparator, lineSeparator, paragraphSeparator]

def assigned : CharSet :=
  .ofRanges (letters ++ marks ++ numbers ++ punctuation ++ symbols ++ separators
    ++ [control, formatting, privateUse]).flatten

/-- The set of a category, by its normalised name. -/
def set? (name : String) : Option CharSet :=
  let some' (parts : List CodeRanges) : Option CharSet := some (.ofRanges parts.flatten)
  match name with
  | "any" => some ⟨[(0, CharSet.lastCode)]⟩
  | "assigned" => some assigned
  | "ascii" => some ⟨[(0, 0x7f)]⟩
  | "l" | "letter" => some' letters
  | "lc" | "casedletter" => some' [uppercaseLetter, lowercaseLetter, titlecaseLetter]
  | "lu" | "uppercaseletter" => some' [uppercaseLetter]
  | "ll" | "lowercaseletter" => some' [lowercaseLetter]
  | "lt" | "titlecaseletter" => some' [titlecaseLetter]
  | "lm" | "modifierletter" => some' [modifierLetter]
  | "lo" | "otherletter" => some' [otherLetter]
  | "m" | "mark" | "combiningmark" => some' marks
  | "mn" | "nonspacingmark" => some' [nonspacingMark]
  | "mc" | "spacingmark" => some' [spacingMark]
  | "me" | "enclosingmark" => some' [enclosingMark]
  | "n" | "number" => some' numbers
  | "nd" | "decimalnumber" | "digit" => some' [decimalNumber]
  | "nl" | "letternumber" => some' [letterNumber]
  | "no" | "othernumber" => some' [otherNumber]
  | "p" | "punctuation" | "punct" => some' punctuation
  | "pc" | "connectorpunctuation" => some' [connectorPunctuation]
  | "pd" | "dashpunctuation" => some' [dashPunctuation]
  | "ps" | "openpunctuation" => some' [openPunctuation]
  | "pe" | "closepunctuation" => some' [closePunctuation]
  | "pi" | "initialpunctuation" => some' [initialPunctuation]
  | "pf" | "finalpunctuation" => some' [finalPunctuation]
  | "po" | "otherpunctuation" => some' [otherPunctuation]
  | "s" | "symbol" => some' symbols
  | "sm" | "mathsymbol" => some' [mathSymbol]
  | "sc" | "currencysymbol" => some' [currencySymbol]
  | "sk" | "modifiersymbol" => some' [modifierSymbol]
  | "so" | "othersymbol" => some' [otherSymbol]
  | "z" | "separator" => some' separators
  | "zs" | "spaceseparator" => some' [spaceSeparator]
  | "zl" | "lineseparator" => some' [lineSeparator]
  | "zp" | "paragraphseparator" => some' [paragraphSeparator]
  | "c" | "other" =>
    some (CharSet.ofRanges [control, formatting, privateUse].flatten |>.union assigned.complement)
  | "cc" | "control" | "cntrl" => some' [control]
  | "cf" | "format" => some' [formatting]
  | "co" | "privateuse" => some' [privateUse]
  | "cn" | "unassigned" => some assigned.complement
  | "cs" | "surrogate" => some .empty
  | _ => none

end GeneralCategory

namespace Property

open CallAtlas.Text.GeneralCategory

/-- Numbers other than letters are alphanumeric without being alphabetic. -/
def alphabetic : CharSet :=
  CharSet.difference ⟨Alphanumeric.ranges⟩ (.ofRanges (decimalNumber ++ otherNumber))

def lowercase : CharSet := .ofRanges (lowercaseLetter ++ CharProperty.otherLowercase)

def uppercase : CharSet := .ofRanges (uppercaseLetter ++ CharProperty.otherUppercase)

def graphemeExtend : CharSet :=
  .ofRanges (nonspacingMark ++ enclosingMark ++ CharProperty.otherGraphemeExtend)

/-- Properties that follow from others. -/
def derived? (name : String) : Option CharSet :=
  match name with
  | "alpha" | "alphabetic" => some alphabetic
  | "lower" | "lowercase" => some lowercase
  | "upper" | "uppercase" => some uppercase
  | "cased" => some (.unionAll [lowercase, uppercase, ⟨titlecaseLetter⟩])
  | "ci" | "caseignorable" =>
    some (.ofRanges (nonspacingMark ++ enclosingMark ++ formatting ++ modifierLetter
      ++ modifierSymbol ++ CharProperty.otherCaseIgnorable))
  | "ids" | "idstart" => some (.ofRanges (Identifier.startRanges ++ CharProperty.otherIdStart))
  | "idc" | "idcontinue" =>
    some (.ofRanges (Identifier.continueRanges ++ CharProperty.otherIdContinue))
  | "xids" | "xidstart" => some ⟨Identifier.startRanges⟩
  | "xidc" | "xidcontinue" => some ⟨Identifier.continueRanges⟩
  | "grext" | "graphemeextend" => some graphemeExtend
  | "grbase" | "graphemebase" =>
    some (.difference GeneralCategory.assigned (.unionAll [graphemeExtend,
      .ofRanges (control ++ formatting ++ privateUse ++ lineSeparator ++ paragraphSeparator)]))
  | _ => none

/-- The set of a yes-or-no property. -/
def binary? (name : String) : Option CharSet :=
  match derived? name with
  | some s => some s
  | none => (CharProperty.all.find? (·.names.contains name)).map fun p => ⟨p.ranges⟩

def script? (name : String) : Option CharSet :=
  (Script.all.find? (·.names.contains name)).map fun s => .ofRanges s.ranges

/-- The set that a query asks for. -/
def set? : PropertyQuery → Option CharSet
  | .named name =>
    let name := normalizeName name
    match binary? name with
    | some s => some s
    | none =>
      match GeneralCategory.set? name with
      | some s => some s
      | none => script? name
  | .valued name value =>
    let value := normalizeName value
    match normalizeName name with
    | "gc" | "generalcategory" => GeneralCategory.set? value
    | "sc" | "script" | "scx" | "scriptextensions" => script? value
    | _ => none

/-- Letters, marks, digits, connectors and the two join controls make words. -/
def wordSet : CharSet :=
  .unionAll [alphabetic,
    .ofRanges (nonspacingMark ++ spacingMark ++ enclosingMark ++ decimalNumber
      ++ connectorPunctuation ++ [(0x200c, 0x200d)])]

end Property

namespace ShortClass

/-- The set of a class with a one-letter escape. -/
def set (cls : ShortClass) (unicode : Bool) : CharSet :=
  match cls, unicode with
  | digit, true => ⟨CallAtlas.Text.GeneralCategory.decimalNumber⟩
  | space, true => ⟨whiteSpaceRanges⟩
  | word, true => Property.wordSet
  | digit, false => ⟨[(0x30, 0x39)]⟩
  | space, false => ⟨[(0x9, 0xd), (0x20, 0x20)]⟩
  | word, false => ⟨[(0x30, 0x39), (0x41, 0x5a), (0x5f, 0x5f), (0x61, 0x7a)]⟩

end ShortClass

end CallAtlas.Regex

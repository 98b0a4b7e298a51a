import WorkflowEngine.Unicode.CharSet
import WorkflowEngine.Unicode.Format
import WorkflowEngine.Unicode.Letter
import WorkflowEngine.Unicode.Mark
import WorkflowEngine.Unicode.Numeral
import WorkflowEngine.Unicode.Punctuation
import WorkflowEngine.Unicode.Script
import WorkflowEngine.Unicode.Symbol

/-!
# Properties of characters

The properties that a character class may name, found by their long and short
names without regard to case, spaces, hyphens and underscores.
-/

namespace WorkflowEngine
namespace Unicode

/-- Letters with case. -/
def casedLetters : List Ranges := [uppercaseLetter, lowercaseLetter, titlecaseLetter]

/-- Letters of all categories. -/
def letters : List Ranges := casedLetters ++ [modifierLetter, otherLetter]

/-- Marks of all categories. -/
def marks : List Ranges := [nonspacingMark, spacingMark, enclosingMark]

/-- Numbers of all categories. -/
def numbers : List Ranges := [decimalNumber, letterNumber, otherNumber]

/-- Punctuation of all categories. -/
def punctuation : List Ranges :=
  [connectorPunctuation, dashPunctuation, openPunctuation, closePunctuation,
   initialPunctuation, finalPunctuation, otherPunctuation]

/-- Symbols of all categories. -/
def symbols : List Ranges := [mathSymbol, currencySymbol, modifierSymbol, otherSymbol]

/-- Separators of all categories. -/
def separators : List Ranges := [spaceSeparator, lineSeparator, paragraphSeparator]

/-- The code points of surrogates, which are no characters. -/
def surrogate : Ranges := [⟨0xD800, 0xDFFF, 1⟩]

/-- Every code point that has been given a meaning. -/
def assigned : CharSet :=
  .unionOf (letters ++ marks ++ numbers ++ punctuation ++ symbols ++ separators ++
    [control, format, surrogate, privateUse])

/-- Alphabetic characters. -/
def alphabetic : CharSet := .unionOf (letters ++ [letterNumber, otherAlphabetic])

/-- White space. -/
def whiteSpace : CharSet :=
  .ranges
    [⟨0x9, 0xD, 1⟩, ⟨0x20, 0x20, 1⟩, ⟨0x85, 0x85, 1⟩, ⟨0xA0, 0xA0, 1⟩, ⟨0x1680, 0x1680, 1⟩,
     ⟨0x2000, 0x200A, 1⟩, ⟨0x2028, 0x2029, 1⟩, ⟨0x202F, 0x202F, 1⟩, ⟨0x205F, 0x205F, 1⟩,
     ⟨0x3000, 0x3000, 1⟩]

/-- The characters that make up words. -/
def word : CharSet :=
  .union alphabetic
    (.unionOf (marks ++ [decimalNumber, connectorPunctuation, [⟨0x200C, 0x200D, 1⟩]]))

/-- Hexadecimal digits of ASCII. -/
def asciiHexDigit : Ranges := [⟨0x30, 0x39, 1⟩, ⟨0x41, 0x46, 1⟩, ⟨0x61, 0x66, 1⟩]

/-- Hexadecimal digits and their full-width forms. -/
def hexDigit : Ranges :=
  asciiHexDigit ++ [⟨0xFF10, 0xFF19, 1⟩, ⟨0xFF21, 0xFF26, 1⟩, ⟨0xFF41, 0xFF46, 1⟩]

/-- Brings a name of a property to the form in which the tables list it: in
lower case, without separators and without a leading `is`. -/
def normalName (name : String) : String :=
  let plain := name.toList.filter fun char =>
    char != ' ' && char != '_' && char != '-' && char.toNat < 128
  let lower := plain.map Char.toLower
  let startsWithIs := ((name.toList.take 2).map Char.toLower) == ['i', 's']
  let rest := if startsWithIs then lower.drop 2 else lower
  if startsWithIs && rest == ['c'] then "isc" else String.ofList rest

/-- Properties that hold or do not hold of a character. -/
def binaryProperties : List (String × CharSet) :=
  [("alphabetic", alphabetic),
   ("alpha", alphabetic),
   ("uppercase", .unionOf [uppercaseLetter, otherUppercase]),
   ("upper", .unionOf [uppercaseLetter, otherUppercase]),
   ("lowercase", .unionOf [lowercaseLetter, otherLowercase]),
   ("lower", .unionOf [lowercaseLetter, otherLowercase]),
   ("whitespace", whiteSpace),
   ("wspace", whiteSpace),
   ("space", whiteSpace),
   ("asciihexdigit", .ranges asciiHexDigit),
   ("ahex", .ranges asciiHexDigit),
   ("hexdigit", .ranges hexDigit),
   ("hex", .ranges hexDigit),
   ("joincontrol", .between 0x200C 0x200D),
   ("joinc", .between 0x200C 0x200D),
   ("graphemeextend", .unionOf [nonspacingMark, enclosingMark, otherGraphemeExtend]),
   ("grext", .unionOf [nonspacingMark, enclosingMark, otherGraphemeExtend]),
   ("emoji", .ranges emoji),
   ("emojipresentation", .ranges emojiPresentation),
   ("epres", .ranges emojiPresentation),
   ("extendedpictographic", .ranges extendedPictographic),
   ("extpict", .ranges extendedPictographic)]

/-- General categories and the groups of them. -/
def categories : List (String × CharSet) :=
  [("any", .between 0 0x10FFFF),
   ("assigned", assigned),
   ("ascii", .between 0 0x7F),
   ("l", .unionOf letters), ("letter", .unionOf letters),
   ("lc", .unionOf casedLetters), ("casedletter", .unionOf casedLetters),
   ("lu", .ranges uppercaseLetter), ("uppercaseletter", .ranges uppercaseLetter),
   ("ll", .ranges lowercaseLetter), ("lowercaseletter", .ranges lowercaseLetter),
   ("lt", .ranges titlecaseLetter), ("titlecaseletter", .ranges titlecaseLetter),
   ("lm", .ranges modifierLetter), ("modifierletter", .ranges modifierLetter),
   ("lo", .ranges otherLetter), ("otherletter", .ranges otherLetter),
   ("m", .unionOf marks), ("mark", .unionOf marks), ("combiningmark", .unionOf marks),
   ("mn", .ranges nonspacingMark), ("nonspacingmark", .ranges nonspacingMark),
   ("mc", .ranges spacingMark), ("spacingmark", .ranges spacingMark),
   ("me", .ranges enclosingMark), ("enclosingmark", .ranges enclosingMark),
   ("n", .unionOf numbers), ("number", .unionOf numbers),
   ("nd", .ranges decimalNumber), ("decimalnumber", .ranges decimalNumber),
   ("digit", .ranges decimalNumber),
   ("nl", .ranges letterNumber), ("letternumber", .ranges letterNumber),
   ("no", .ranges otherNumber), ("othernumber", .ranges otherNumber),
   ("p", .unionOf punctuation), ("punctuation", .unionOf punctuation),
   ("punct", .unionOf punctuation),
   ("pc", .ranges connectorPunctuation), ("connectorpunctuation", .ranges connectorPunctuation),
   ("pd", .ranges dashPunctuation), ("dashpunctuation", .ranges dashPunctuation),
   ("ps", .ranges openPunctuation), ("openpunctuation", .ranges openPunctuation),
   ("pe", .ranges closePunctuation), ("closepunctuation", .ranges closePunctuation),
   ("pi", .ranges initialPunctuation), ("initialpunctuation", .ranges initialPunctuation),
   ("pf", .ranges finalPunctuation), ("finalpunctuation", .ranges finalPunctuation),
   ("po", .ranges otherPunctuation), ("otherpunctuation", .ranges otherPunctuation),
   ("s", .unionOf symbols), ("symbol", .unionOf symbols),
   ("sm", .ranges mathSymbol), ("mathsymbol", .ranges mathSymbol),
   ("sc", .ranges currencySymbol), ("currencysymbol", .ranges currencySymbol),
   ("sk", .ranges modifierSymbol), ("modifiersymbol", .ranges modifierSymbol),
   ("so", .ranges otherSymbol), ("othersymbol", .ranges otherSymbol),
   ("z", .unionOf separators), ("separator", .unionOf separators),
   ("zs", .ranges spaceSeparator), ("spaceseparator", .ranges spaceSeparator),
   ("zl", .ranges lineSeparator), ("lineseparator", .ranges lineSeparator),
   ("zp", .ranges paragraphSeparator), ("paragraphseparator", .ranges paragraphSeparator),
   ("c", .union (.unionOf [control, format, surrogate, privateUse]) (.compl assigned)),
   ("other", .union (.unionOf [control, format, surrogate, privateUse]) (.compl assigned)),
   ("cc", .ranges control), ("control", .ranges control), ("cntrl", .ranges control),
   ("cf", .ranges format), ("format", .ranges format),
   ("cs", .ranges surrogate), ("surrogate", .ranges surrogate),
   ("co", .ranges privateUse), ("privateuse", .ranges privateUse),
   ("cn", .compl assigned), ("unassigned", .compl assigned)]

/-- A script by name. -/
def script? (name : String) : Option CharSet := (Script.byName.lookup name).map .ranges

/-- The set named by a property alone.  The abbreviations that a category
shares with a property belong to the category. -/
def property? (name : String) : Option CharSet :=
  let name := normalName name
  (binaryProperties.lookup name).or ((categories.lookup name).or (script? name))

/-- The set named by a property and one of its values. -/
def propertyValue? (property value : String) : Option CharSet :=
  let property := normalName property
  let value := normalName value
  if property == "generalcategory" || property == "gc" then categories.lookup value
  else if property == "script" || property == "sc" || property == "scriptextensions" ||
      property == "scx" then script? value
  else none

/-- Whether a code point is alphabetic. -/
def isAlphabetic (code : Nat) : Bool := alphabetic.contains code

/-- Whether a code point is alphabetic or a number. -/
def isAlphanumeric (code : Nat) : Bool :=
  isAlphabetic code || (CharSet.unionOf numbers).contains code

/-- Whether a code point extends the grapheme before it. -/
def isGraphemeExtend (code : Nat) : Bool :=
  (CharSet.unionOf [nonspacingMark, enclosingMark, otherGraphemeExtend]).contains code

/-- Whether a code point has a visible sign or is the common space. -/
def isPrintable (code : Nat) : Bool :=
  code == 0x20 ||
    (assigned.contains code &&
      !(CharSet.unionOf (separators ++ [control, format, surrogate, privateUse])).contains code)

end Unicode
end WorkflowEngine

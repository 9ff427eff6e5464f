import TagTemplate.Pattern.Tree
import TagTemplate.Unicode.Break

/-!
The classes that patterns know by name: properties, general categories, scripts, ages, and classes
of boundaries. Patterns know the characters up to Unicode 16. Names are compared without regard to
case, blanks, underscores and hyphens, and a leading `is` is dropped.
-/

namespace TagTemplate.Pattern

open Unicode

def known (s : CodeSet) : CodeSet := s.diff Age.latest

def dropIs : List Char → List Char
  | a :: b :: r => if (a = 'i' ∨ a = 'I') ∧ (b = 's' ∨ b = 'S') then r else a :: b :: r
  | s => s

def isNameChar (c : Char) : Bool := c.toNat < 128 && c != '_' && c != ' ' && c != '-'

/-- The form of a name that is compared. The name `isc` keeps its start. -/
def plainName (name : String) : String :=
  let s := name.toList
  let plain := ((dropIs s).filter isNameChar).map Char.toLower
  if plain = ['c'] ∧ dropIs s ≠ s then "isc" else String.ofList plain

def isNamed (name : String) (names : List String) : Bool :=
  names.any fun n => plainName n == plainName name

abbrev Names := List (List String × CodeSet)

def Names.find? (name : String) (table : Names) : Option CodeSet :=
  (List.find? (fun e => isNamed name e.1) table).map (·.2)

open Category in
def categories : Names := [
  (["Lu", "Uppercase_Letter"], uppercaseLetter), (["Ll", "Lowercase_Letter"], lowercaseLetter),
  (["Lt", "Titlecase_Letter"], titlecaseLetter), (["LC", "Cased_Letter"], casedLetter),
  (["Lm", "Modifier_Letter"], modifierLetter), (["Lo", "Other_Letter"], otherLetter),
  (["L", "Letter"], letter),
  (["Mn", "Nonspacing_Mark"], nonspacingMark), (["Mc", "Spacing_Mark"], spacingMark),
  (["Me", "Enclosing_Mark"], enclosingMark), (["M", "Mark", "Combining_Mark"], mark),
  (["Nd", "Decimal_Number", "digit"], decimalNumber), (["Nl", "Letter_Number"], letterNumber),
  (["No", "Other_Number"], otherNumber), (["N", "Number"], number),
  (["Pc", "Connector_Punctuation"], connectorPunctuation),
  (["Pd", "Dash_Punctuation"], dashPunctuation), (["Ps", "Open_Punctuation"], openPunctuation),
  (["Pe", "Close_Punctuation"], closePunctuation),
  (["Pi", "Initial_Punctuation"], initialPunctuation),
  (["Pf", "Final_Punctuation"], finalPunctuation), (["Po", "Other_Punctuation"], otherPunctuation),
  (["P", "Punctuation", "punct"], punctuation),
  (["Sm", "Math_Symbol"], mathSymbol), (["Sc", "Currency_Symbol"], currencySymbol),
  (["Sk", "Modifier_Symbol"], modifierSymbol), (["So", "Other_Symbol"], otherSymbol),
  (["S", "Symbol"], symbol),
  (["Zs", "Space_Separator"], spaceSeparator), (["Zl", "Line_Separator"], lineSeparator),
  (["Zp", "Paragraph_Separator"], paragraphSeparator), (["Z", "Separator"], separator),
  (["Cc", "Control", "cntrl"], control), (["Cf", "Format"], format),
  (["Co", "Private_Use"], privateUse)]

def category? (name : String) : Option CodeSet :=
  let unassigned := Category.unassigned.union Age.latest
  if isNamed name ["Any"] then some .all
  else if isNamed name ["Assigned"] then some unassigned.compl
  else if isNamed name ["ASCII"] then some .ascii
  else if isNamed name ["Cn", "Unassigned"] then some unassigned
  else if isNamed name ["C", "Other"] then some (Category.other.union Age.latest)
  else (categories.find? name).map known

open Property in
def properties : Names := [
  (["AHex", "ASCII_Hex_Digit"], asciiHexDigit), (["Alpha", "Alphabetic"], alphabetic),
  (["Bidi_C", "Bidi_Control"], bidiControl), (["CI", "Case_Ignorable"], caseIgnorable),
  (["Cased"], cased), (["CWCF", "Changes_When_Casefolded"], changesWhenCasefolded),
  (["CWCM", "Changes_When_Casemapped"], changesWhenCasemapped),
  (["CWL", "Changes_When_Lowercased"], changesWhenLowercased),
  (["CWT", "Changes_When_Titlecased"], changesWhenTitlecased),
  (["CWU", "Changes_When_Uppercased"], changesWhenUppercased), (["Dash"], dash),
  (["DI", "Default_Ignorable_Code_Point"], defaultIgnorable), (["Dep", "Deprecated"], deprecated),
  (["Dia", "Diacritic"], diacritic), (["Emoji"], emoji),
  (["EComp", "Emoji_Component"], emojiComponent), (["EMod", "Emoji_Modifier"], emojiModifier),
  (["EBase", "Emoji_Modifier_Base"], emojiModifierBase),
  (["EPres", "Emoji_Presentation"], emojiPresentation),
  (["ExtPict", "Extended_Pictographic"], extendedPictographic), (["Ext", "Extender"], extender),
  (["Gr_Base", "Grapheme_Base"], graphemeBase), (["Gr_Ext", "Grapheme_Extend"], graphemeExtend),
  (["Gr_Link", "Grapheme_Link"], graphemeLink), (["Hex", "Hex_Digit"], hexDigit),
  (["Hyphen"], hyphen), (["IDS", "ID_Start"], idStart), (["IDC", "ID_Continue"], idContinue),
  (["ID_Compat_Math_Start"], mathStart), (["ID_Compat_Math_Continue"], mathContinue),
  (["Ideo", "Ideographic"], ideographic), (["IDSU", "IDS_Unary_Operator"], idsUnaryOperator),
  (["IDSB", "IDS_Binary_Operator"], idsBinaryOperator),
  (["IDST", "IDS_Trinary_Operator"], idsTrinaryOperator), (["Join_C", "Join_Control"], joinControl),
  (["LOE", "Logical_Order_Exception"], logicalOrderException), (["Lower", "Lowercase"], lowercase),
  (["Math"], math), (["MCM", "Modifier_Combining_Mark"], modifierCombiningMark),
  (["NChar", "Noncharacter_Code_Point"], Age.noncharacter),
  (["OAlpha", "Other_Alphabetic"], otherAlphabetic),
  (["ODI", "Other_Default_Ignorable_Code_Point"], otherDefaultIgnorable),
  (["OGr_Ext", "Other_Grapheme_Extend"], otherGraphemeExtend),
  (["OIDC", "Other_ID_Continue"], otherIdContinue), (["OIDS", "Other_ID_Start"], otherIdStart),
  (["OLower", "Other_Lowercase"], otherLowercase), (["OMath", "Other_Math"], otherMath),
  (["OUpper", "Other_Uppercase"], otherUppercase), (["Pat_Syn", "Pattern_Syntax"], patternSyntax),
  (["Pat_WS", "Pattern_White_Space"], patternWhiteSpace),
  (["PCM", "Prepended_Concatenation_Mark"], prependedConcatenationMark),
  (["QMark", "Quotation_Mark"], quotationMark), (["Radical"], radical),
  (["RI", "Regional_Indicator"], regionalIndicator),
  (["STerm", "Sentence_Terminal"], sentenceTerminal), (["SD", "Soft_Dotted"], softDotted),
  (["Term", "Terminal_Punctuation"], terminalPunctuation),
  (["UIdeo", "Unified_Ideograph"], unifiedIdeograph), (["Upper", "Uppercase"], uppercase),
  (["VS", "Variation_Selector"], variationSelector),
  (["WSpace", "White_Space", "space"], whiteSpace), (["XIDS", "XID_Start"], xidStart),
  (["XIDC", "XID_Continue"], xidContinue)]

def fixedProperties : List String :=
  ["DI", "Default_Ignorable_Code_Point", "ODI", "Other_Default_Ignorable_Code_Point", "Pat_Syn",
    "Pattern_Syntax", "ExtPict", "Extended_Pictographic"]

def property? (name : String) : Option CodeSet :=
  (properties.find? name).map fun s => if isNamed name fixedProperties then s else known s

def findScript? (name : String) : Option Script.Entry :=
  Script.entries.find? fun e => isNamed name e.names && !(known e.chars).isEmpty

def script? (name : String) : Option CodeSet := (findScript? name).map fun e => known e.chars

def scriptExtensions? (name : String) : Option CodeSet :=
  (findScript? name).map fun e => known e.extended

def ageNames (version : String) : List String := [version, "V" ++ version.replace "." "_"]

def age? (name : String) : Option CodeSet :=
  match Age.versions.find? fun (v, _) => isNamed name (ageNames v) && v != "17.0" with
  | some (v, _) => Age.upTo? v
  | none => none

def valued : List (List String × (String → Option CodeSet)) := [
  (["gc", "General_Category"], category?), (["sc", "Script"], script?),
  (["scx", "Script_Extensions"], scriptExtensions?), (["age"], age?),
  (["GCB", "Grapheme_Cluster_Break"], fun v => (Names.find? v Break.grapheme).map known),
  (["WB", "Word_Break"], fun v => (Names.find? v Break.word).map known),
  (["SB", "Sentence_Break"], fun v => (Names.find? v Break.sentence).map known)]

/-- The set that a query asks for. A lone name is one of a property, or else of a category, or else
of a script. -/
def Query.chars? : Query → Option CodeSet
  | .name n => property? n <|> category? n <|> script? n
  | .value p v => (valued.find? fun e => isNamed p e.1).bind fun e => e.2 v

end TagTemplate.Pattern

import RuleGate.Unicode.CombiningClass
import RuleGate.Unicode.Category
import RuleGate.Unicode.PropertyList
import RuleGate.Unicode.Script

/-! # Sets of characters by name

General categories, scripts and properties that a character has or has not are found by their long
and short names. Letters are compared without regard to case, and blanks, hyphens, underscores and
a leading `is` do not count.
-/
namespace RuleGate.Unicode.Property

def letters : List String := ["Lu", "Ll", "Lt", "Lm", "Lo"]

def alphabetic : Ranges := Ranges.union (Category.ranges ("Nl" :: letters)) otherAlphabetic

def decimal : Ranges := Category.ranges ["Nd"]

/-- The characters that make up words: letters, marks, decimal digits, connectors and the two
joiners. -/
def word : Ranges :=
  Ranges.ofList (alphabetic ++ Category.ranges ["Mn", "Mc", "Me", "Nd", "Pc"] ++ [(0x200C, 0x200D)])

def lowercase : Ranges := Ranges.union (Category.ranges ["Ll"]) otherLowercase

def uppercase : Ranges := Ranges.union (Category.ranges ["Lu"]) otherUppercase

def idStart : Ranges :=
  Ranges.diff (Ranges.ofList (Category.ranges ("Nl" :: letters) ++ otherIdStart)) [(0x2E2F, 0x2E2F)]

def idContinue : Ranges :=
  Ranges.ofList (idStart ++ Category.ranges ["Mn", "Mc", "Nd", "Pc"] ++ otherIdContinue)

def graphemeExtend : Ranges := Ranges.union (Category.ranges ["Mn", "Me"]) otherGraphemeExtend

/-- A name in the form in which names are compared. -/
def normalize (name : Text) : Text :=
  let (is, rest) := match name with
    | 'i' :: 's' :: r | 'I' :: 's' :: r | 'i' :: 'S' :: r | 'I' :: 'S' :: r => (true, r)
    | r => (false, r)
  let out := Text.lower (rest.filter fun c => c.toNat < 0x80 && c != ' ' && c != '_' && c != '-')
  if is && out == ['c'] then text "isc" else out

/-- The general categories, each with its short name first. -/
def categoryNames : String := String.join [
  "c:other cc:control:cntrl cf:format cn:unassigned co:privateuse cs:surrogate l:letter ",
  "lc:casedletter ll:lowercaseletter lm:modifierletter lo:otherletter lt:titlecaseletter ",
  "lu:uppercaseletter m:mark:combiningmark mc:spacingmark me:enclosingmark mn:nonspacingmark ",
  "n:number nd:decimalnumber:digit nl:letternumber no:othernumber p:punctuation:punct ",
  "pc:connectorpunctuation pd:dashpunctuation pe:closepunctuation pf:finalpunctuation ",
  "pi:initialpunctuation po:otherpunctuation ps:openpunctuation s:symbol sc:currencysymbol ",
  "sk:modifiersymbol sm:mathsymbol so:othersymbol z:separator zl:lineseparator ",
  "zp:paragraphseparator zs:spaceseparator"]

/-- The two-letter categories that a category of a given short name is made of. -/
def categoryParts : String → List String
  | "c" => ["Cc", "Cf", "Cn", "Co", "Cs"]
  | "l" => letters
  | "lc" => ["Lu", "Ll", "Lt"]
  | "m" => ["Mc", "Me", "Mn"]
  | "n" => ["Nd", "Nl", "No"]
  | "p" => ["Pc", "Pd", "Pe", "Pf", "Pi", "Po", "Ps"]
  | "s" => ["Sc", "Sk", "Sm", "So"]
  | "z" => ["Zl", "Zp", "Zs"]
  | name => [name.capitalize]

def scalars (r : Ranges) : Ranges := Ranges.diff r Ranges.surrogates

/-- The set of a general category by its normalized name. -/
def category? (name : Text) : Option Ranges :=
  let name := String.ofList name
  if name == "any" then some Ranges.all
  else if name == "ascii" then some [(0, 0x7F)]
  else if name == "assigned" then
    some (Ranges.complement (Category.ranges ["Cn"]))
  else
    ((categoryNames.splitOn " ").map (·.splitOn ":")).findSome? fun names =>
      if names.contains name then
        some (scalars (Category.ranges (categoryParts (names.headD ""))))
      else none

/-- The code of a script by its normalized name or code. -/
def scriptCode? (name : Text) : Option String :=
  (Script.codes.find? fun p =>
    normalize p.1.toList == name || normalize p.2.toList == name ||
      (p.2 == "Zinh" && name == text "qaai") || (p.2 == "Copt" && name == text "qaac")).map (·.2)

/-- The set of a property that a character has or has not, by its normalized name. -/
def binary? (name : Text) : Option Ranges :=
  match String.ofList name with
  | "alphabetic" | "alpha" => some alphabetic
  | "asciihexdigit" | "ahex" => some [(0x30, 0x39), (0x41, 0x46), (0x61, 0x66)]
  | "bidicontrol" | "bidic" => some bidiControl
  | "caseignorable" | "ci" =>
    some (Ranges.ofList (Category.ranges ["Mn", "Me", "Cf", "Lm", "Sk"] ++ middleSigns))
  | "cased" => some (Ranges.ofList (lowercase ++ uppercase ++ Category.ranges ["Lt"]))
  | "changeswhencasefolded" | "cwcf" => some casefolded
  | "changeswhencasemapped" | "cwcm" =>
    some (Ranges.ofList (lowercased ++ uppercased ++ titlecased))
  | "changeswhenlowercased" | "cwl" => some lowercased
  | "changeswhentitlecased" | "cwt" => some titlecased
  | "changeswhenuppercased" | "cwu" => some uppercased
  | "dash" => some dash
  | "defaultignorablecodepoint" | "di" => some defaultIgnorable
  | "deprecated" | "dep" => some deprecated
  | "diacritic" | "dia" => some diacritic
  | "emoji" => some emoji
  | "emojicomponent" | "ecomp" => some emojiComponent
  | "emojimodifier" | "emod" => some [(0x1F3FB, 0x1F3FF)]
  | "emojimodifierbase" | "ebase" => some emojiModifierBase
  | "emojipresentation" | "epres" => some emojiPresentation
  | "extendedpictographic" | "extpict" => some extendedPictographic
  | "extender" | "ext" => some extender
  | "graphemebase" | "grbase" =>
    some (Ranges.complement
      (Ranges.union (Category.ranges ["Cc", "Cf", "Co", "Cn", "Zl", "Zp"]) graphemeExtend))
  | "graphemeextend" | "grext" => some graphemeExtend
  | "graphemelink" | "grlink" => some ((CombiningClass.classes.lookup 9).getD [])
  | "hexdigit" | "hex" =>
    some [(0x30, 0x39), (0x41, 0x46), (0x61, 0x66), (0xFF10, 0xFF19), (0xFF21, 0xFF26),
      (0xFF41, 0xFF46)]
  | "hyphen" => some hyphen
  | "idcompatmathcontinue" =>
    some (Ranges.ofList (compatibleMath ++
      [(0xB2, 0xB3), (0xB9, 0xB9), (0x2070, 0x2070), (0x2074, 0x207E), (0x2080, 0x208E)]))
  | "idcompatmathstart" => some compatibleMath
  | "idcontinue" | "idc" => some idContinue
  | "ideographic" | "ideo" => some ideographic
  | "idsbinaryoperator" | "idsb" => some [(0x2FF0, 0x2FF1), (0x2FF4, 0x2FFD), (0x31EF, 0x31EF)]
  | "idstart" | "ids" => some idStart
  | "idstrinaryoperator" | "idst" => some [(0x2FF2, 0x2FF3)]
  | "idsunaryoperator" | "idsu" => some [(0x2FFE, 0x2FFF)]
  | "joincontrol" | "joinc" => some [(0x200C, 0x200D)]
  | "logicalorderexception" | "loe" => some logicalOrderException
  | "lowercase" | "lower" => some lowercase
  | "math" => some (Ranges.union (Category.ranges ["Sm"]) otherMath)
  | "modifiercombiningmark" | "mcm" => some modifierCombiningMark
  | "noncharactercodepoint" | "nchar" =>
    some ((0xFDD0, 0xFDEF) ::
      (List.range 17).map fun i => (0x10000 * i + 0xFFFE, 0x10000 * i + 0xFFFF))
  | "otheralphabetic" | "oalpha" => some otherAlphabetic
  | "otherdefaultignorablecodepoint" | "odi" => some otherDefaultIgnorable
  | "othergraphemeextend" | "ogrext" => some otherGraphemeExtend
  | "otheridcontinue" | "oidc" => some otherIdContinue
  | "otheridstart" | "oids" => some otherIdStart
  | "otherlowercase" | "olower" => some otherLowercase
  | "othermath" | "omath" => some otherMath
  | "otheruppercase" | "oupper" => some otherUppercase
  | "patternsyntax" | "patsyn" => some patternSyntax
  | "patternwhitespace" | "patws" =>
    some [(9, 13), (0x20, 0x20), (0x85, 0x85), (0x200E, 0x200F), (0x2028, 0x2029)]
  | "prependedconcatenationmark" | "pcm" => some prependedConcatenationMark
  | "quotationmark" | "qmark" => some quotationMark
  | "radical" => some [(0x2E80, 0x2E99), (0x2E9B, 0x2EF3), (0x2F00, 0x2FD5)]
  | "regionalindicator" | "ri" => some [(0x1F1E6, 0x1F1FF)]
  | "sentenceterminal" | "sterm" => some sentenceTerminal
  | "softdotted" | "sd" => some softDotted
  | "terminalpunctuation" | "term" => some (Ranges.union sentenceTerminal clauseTerminal)
  | "unifiedideograph" | "uideo" => some unifiedIdeograph
  | "uppercase" | "upper" => some uppercase
  | "variationselector" | "vs" =>
    some [(0x180B, 0x180D), (0x180F, 0x180F), (0xFE00, 0xFE0F), (0xE0100, 0xE01EF)]
  | "whitespace" | "wspace" | "space" => some whiteSpace
  | "xidcontinue" | "xidc" => some (Ranges.diff idContinue continuesChanged)
  | "xidstart" | "xids" => some (Ranges.diff idStart startsChanged)
  | _ => none

/-- The set that one name stands for: a property, a general category or a script. -/
def named? (name : Text) : Option Ranges :=
  let name := normalize name
  (binary? name).or ((category? name).or ((scriptCode? name).map Script.ranges))

/-- The set of the characters for which a property has a given value. The properties of breaks
between graphemes, words and sentences and the age of a character are left out. -/
def valued? (property value : Text) : Option Ranges :=
  match String.ofList (normalize property) with
  | "generalcategory" | "gc" => category? (normalize value)
  | "script" | "sc" => (scriptCode? (normalize value)).map Script.ranges
  | "scriptextensions" | "scx" => (scriptCode? (normalize value)).map Script.extendedRanges
  | _ => none

end RuleGate.Unicode.Property

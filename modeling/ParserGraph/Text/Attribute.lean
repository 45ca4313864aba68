import ParserGraph.Text.Selection

/-!
# Attributes of characters

The properties of the Unicode standard that a character has or has not, in version
16.0, by their names: long ones and short ones, in lower case and without spaces,
hyphens and underscores.
-/

namespace ParserGraph.Text

namespace Attribute

/-- The alphabetic characters that are no letters. -/
def otherAlphabeticText : String := String.join [
    "837ny29n13y576n14ynyn2yn2yny72n11y48n13yn7y16ny101n7y4n4y2n2y4ny35ny30n16y102n11y101n2y3n9y",
    "n3yn4y106ny60n12y3n7y6n20y54n2y2n15yn2y5n3y10n2y29n3y58n7y2n2y2n2y10ny10n2y29n3y58n5y4n2y2n",
    "2y4ny30n2y3ny11n3y58n8yn3yn2y21n2y22n3y4n3y58n7y2n2y2n2y9n2y10n2y30ny59n5y3n3yn3y10ny40n5y5",
    "7n7yn3yn3y8n2y11n2y29n3y58n7yn3yn3y8n2y11n2y15ny12n4y58n7yn3yn3y10ny10n2y29n3y75n6ynyn8y18n",
    "2y61ny2n7y18ny99ny2n6yn2y16ny163n19y9n11yn36y110n12yny2n4y23n4y4n3yn3y2n7y3n4y13n12yny10n4y",
    "1652n2y30n2y30n2y30n2y66n19y188n2y34ny118n12y4n9y222n5y57n10y2n20y74n2y11n3y49n5y48n15y60n3",
    "y30n9y2n2y57n11y50n19y412n34y1729n52y2294n32y30836n8y34n2y354ny8ny23n5y88n2y50n16yny57ny38n",
    "5y28n12y45n4y48n12y37ny67n14y12ny8n2y45n3y50nyn3y2n2y5ny44n5y5ny237n8y20275ny2135n5y1670n3y",
    "n2y5n4y788n4y65ny321n2y79ny259n3y53n14y45n2y11n3y45n9y9ny61n3y36n12y18n2y57n3y48n13y14n2y92",
    "n9y2ny6ny2ny157n10y23n4y58n7y2n2y2n2y10ny10n2y84n9yny2nyn4yn2y103n13yn3y106n18y237n7y2n7y29",
    "n2y82n15yny106n11y103n14y257n13y247n6yn2y2n2y3nyny142n7y2n6y4ny28n10y42n5yn4y18n11y46n14y40",
    "7n8yn7y83n22yn14y122n6y3nyn2yn3yny3ny66n5yn2yn4y348n4y9n2yny48n7y3n3y16861n17y3616nyn55y7n4",
    "y93n2y19628ny9057n7yn17y2n7yn2yn5y100ny2231ny2024n26y6n26y6n26y"]

/-- The lowercase characters that are no lowercase letters. -/
def otherLowercaseText : String := String.join [
    "170ny15ny501n9y7n2y30n5y96ny52ny3457ny3119n63y13ny34n37y689ny13ny16n13y211n16y848n26y1938n2",
    "y31262n2y210ny129n3y3n2y866n4y9ny23574ny2n3yn42yn9y55413n62y"]

/-- The uppercase characters that are no uppercase letters. -/
def otherUppercaseText : String := "8544n16y838n26y117856n26y6n26y6n26y"

/-- The mathematical characters that are no mathematical symbols. -/
def otherMathText : String := String.join [
    "94ny881n3y2ny26n2y2n2y7200ny27n3y11ny32n4y24n2y14n2y65n13y4ny3n2y4n5y18ny4ny2n10yny3n5y6ny3",
    "n2y2n2yn3yn6y3n4y5n5y75n5y2n4yn2yn2ynyn5y2n2y4n2y4n18y2n2ynyn7yny6n2y290n4y168n2yny24ny17ny",
    "445n2y12n9y5n5y5n2y2n2y3n5y14nyny2n6y24n2y57nyny29n4y9n2y342n2y31n10y403n22y63n4y32n2y54371",
    "nyny4ny211nyny54465n85yn71yn2y2ny2n2y2n4yn12ynyn7yn65yn4y2n8yn7yn28yn4yn5yny3n7yn340y2n25yn",
    "25yn31yn25yn31yn25yn31yn25yn31yn25yn8y2n50y5632n4yn27yn2yny2nyn10yn4ynyny6ny4nynynyn3yn2yny",
    "2nynynynynyn2yny2n4yn7yn4yn4ynyn10yn17y5n3yn5yn17y"]

/-- The spacing characters that extend the grapheme in front of them. -/
def otherGraphemeExtendText : String := String.join [
    "2494ny24ny358ny24ny102ny24ny232nyny4n2yn2y9n2y103ny24ny119ny15ny2357ny30ny1024ny5nyny5n2y10",
    "1ny71n2y1048ny4129n2y31011ny108ny21981n2y4640ny116ny264ny14ny9ny96ny9ny2nyn3y5ny224ny12ny24",
    "1ny262ny633ny12ny1539ny20654n2y24947n2y6n6y798381n96y"]

/-- The characters that are not shown if they are not known. -/
def defaultIgnorableText : String := String.join [
    "173ny673ny716ny2882n2y1619n2y85n5y2043n5y26n5y49n16y4340ny52379n16y239ny160ny79n9y48295n4y5",
    "327n8y798341n4096y"]

/-- The characters that give a skin tone. -/
def emojiModifierText : String := "127995n5y"

/-- The characters reserved for the signs of patterns. -/
def patternSyntaxText : String := String.join [
    "33n15y10n7y26n4yny26n4y34n7ynyn2ynyn2y4ny4ny3ny23ny31ny7960n24y8n15y2n19yn10y305n720y160n63",
    "0y30n1132y512n128y385n3y4n25y15ny52493n2y261n2y"]

/-- The characters that start identifiers and are no letters. -/
def otherIdStartText : String := "6277n2y2193ny21ny3948n2y"

/-- The characters that continue identifiers and are neither letters, marks nor digits. -/
def otherIdContinueText : String := "183ny719ny4065n9y1640ny1585n2y4333ny52841ny"

/-- The starts of identifiers that are none once compatible characters are replaced. -/
def startExceptionsText : String :=
  "890ny2744ny127ny8679n2y52161n6y406n2y116nynynynynynynyny287n2y"

/-- The parts of identifiers that are none once compatible characters are replaced. -/
def continueExceptionsText : String := "890ny11552n2y52161n6y406n2y116nynynynynynynyny"

/-- The letters that pairs of which stand for flags. -/
def regionalIndicatorText : String := "127462n26y"

/-- The selection of an attribute that is made from categories or from other attributes. -/
def derived? : String → Option Selection
  | "alpha" | "alphabetic" => some
      { categories := Category.letters ++ [.letterNumber], further := [otherAlphabeticText] }
  | "cased" => some
      { categories := [.uppercaseLetter, .lowercaseLetter, .titlecaseLetter],
        further := [otherLowercaseText, otherUppercaseText] }
  | "caseignorable" | "ci" => some
      { categories := [.nonspacingMark, .enclosingMark, .format, .modifierLetter,
          .modifierSymbol],
        further := ["39ny6ny11ny124ny719ny471ny148ny6691n2y10ny2ny56811ny62ny2ny177ny6ny11ny"] }
  | "defaultignorablecodepoint" | "di" => some { further := [defaultIgnorableText] }
  | "emojimodifier" | "emod" => some { further := [emojiModifierText] }
  | "graphemebase" | "grbase" => some
      { categories := Category.letters ++ [.spacingMark, .decimalNumber, .letterNumber,
          .otherNumber, .connectorPunctuation, .dashPunctuation, .openPunctuation,
          .closePunctuation, .initialPunctuation, .finalPunctuation, .otherPunctuation,
          .mathSymbol, .currencySymbol, .modifierSymbol, .otherSymbol, .spaceSeparator],
        exceptions := [otherGraphemeExtendText] }
  | "graphemeextend" | "grext" => some
      { categories := [.nonspacingMark, .enclosingMark],
        further := [otherGraphemeExtendText] }
  | "idcontinue" | "idc" => some
      { categories := Category.letters ++ [.letterNumber, .nonspacingMark, .spacingMark,
          .decimalNumber, .connectorPunctuation],
        further := [otherIdStartText, otherIdContinueText],
        exceptions := [patternSyntaxText] }
  | "idstart" | "ids" => some
      { categories := Category.letters ++ [.letterNumber],
        further := [otherIdStartText],
        exceptions := [patternSyntaxText] }
  | "lowercase" | "lower" => some
      { categories := [.lowercaseLetter], further := [otherLowercaseText] }
  | "math" => some { categories := [.mathSymbol], further := [otherMathText] }
  | "otheralphabetic" | "oalpha" => some { further := [otherAlphabeticText] }
  | "otherdefaultignorablecodepoint" | "odi" => some
      { further := ["847ny3599n2y1619n2y2223ny4350ny52795ny79n9y851975nyn30y96n128y240n3600y"] }
  | "othergraphemeextend" | "ogrext" => some { further := [otherGraphemeExtendText] }
  | "otheridcontinue" | "oidc" => some { further := [otherIdContinueText] }
  | "otheridstart" | "oids" => some { further := [otherIdStartText] }
  | "otherlowercase" | "olower" => some { further := [otherLowercaseText] }
  | "othermath" | "omath" => some { further := [otherMathText] }
  | "otheruppercase" | "oupper" => some { further := [otherUppercaseText] }
  | "patternsyntax" | "patsyn" => some { further := [patternSyntaxText] }
  | "regionalindicator" | "ri" => some { further := [regionalIndicatorText] }
  | "uppercase" | "upper" => some
      { categories := [.uppercaseLetter], further := [otherUppercaseText] }
  | "xidcontinue" | "xidc" => some
      { categories := Category.letters ++ [.letterNumber, .nonspacingMark, .spacingMark,
          .decimalNumber, .connectorPunctuation],
        further := [otherIdStartText, otherIdContinueText],
        exceptions := [patternSyntaxText, continueExceptionsText] }
  | "xidstart" | "xids" => some
      { categories := Category.letters ++ [.letterNumber],
        further := [otherIdStartText],
        exceptions := [patternSyntaxText, startExceptionsText] }
  | _ => none

/-- The text of an attribute that is laid down character by character. -/
def text? : String → Option String
  | "asciihexdigit" | "ahex" => some "48n10y7n6y26n6y"
  | "bidicontrol" | "bidic" => some "1564ny6641n2y26n5y55n4y"
  | "bidimirrored" | "bidim" => some (String.join [
      "40n2y18nyny28nyny29nyny45ny15ny3710n4y1885n2y2460n2y10n2y54n2y14n2y177ny192n4y3n6y3ny3n2",
      "y3n4yn4ynyny4n9y5nyn18y5n4y9n2ynyn8y2n31y2n4y5ny9n2y2n19y5n2y9n5y2n2y4n24y2n16y8n4y20n2y",
      "7n2y1085n14y74ny2n4yn2yn3y5n4y5n3y3n14y403n22y2n6yn14y8ny7n6y3ny4n5yn2y2n5y4nyn3y2n2y10n",
      "6y2n2y12n19yn4y2nyny2nyn4y5n2y6n3y24n2y11n2y4n4yn2y2n2y4n43y2n8yn40y5nyny3n5y5n3y4ny3n5y",
      "ny256ny515n4y3n2yn2y14n2y2n10y43n8y427n10y2n8y52797n6y5n2y162n2y18nyny28nyny29nynyn2yn2y",
      "55159ny57ny57ny57ny57ny"])
  | "changeswhencasefolded" | "cwcf" => some (String.join [
      "65n26y90ny10n23yn8y32nynynynynynynynynynynynynynynynynynynynynynynynynynynyny2nynynynyny",
      "nynynyn2ynynynynynynynynynynynynynynynynynynynynynynyn2ynynynyn2ynyn2yn3y2n4yn2yn3y3n2yn",
      "2ynynyn2yny2nyn2yn3ynyn2y3ny7n2yn2yn2ynynynynynynynyny2nynynynynynynynyny2n2ynyn3ynynyny",
      "nynynynynynynynynynynynynynynynynynynynynynynynynyny7n2yn2y2nyn4ynynynyny246ny42nyny3ny8",
      "ny6nyn3ynyn2yn17yn9y22ny12n3y3n2ynynynynynynynynynynynynyn2y2n2ynyn2y2n51y48nynynynynyny",
      "nynynynynynynynynynyny9nynynynynynynynynynynynynynynynynynynynynynynynynynynyn2ynynynyny",
      "nyny2nynynynynynynynynynynynynynynynynynynynynynynynynynynynynynynynynynynynynynynynynyn",
      "ynynynynynyny2n38y48ny2840n38yny5ny810n6y2178n10y6n43y2n3y320nynynynynynynynynynynynynyn",
      "ynynynynynynynynynynynynynynynynynynynynynynynynynynynynynynynynynynynynynynynynynynynyn",
      "ynynynynynynynynynynynynynynynynyny5n2y2nynynynynynynynynynynynynynynynynynynynynynynyny",
      "nynynynynynynynynynynynynynynynynynynynynynynynyny9n8y8n6y10n8y8n8y8n6y11nynynyny8n8y16n",
      "48y2n3y2n6y5n3y2n6y11n4y12n5y5n3y2n6y297ny3n2y6ny45n16y19ny818n26y1840n48y48nyn3y2nynyny",
      "n4yny2ny8n3ynynynynynynynynynynynynynynynynynynynynynynynynynynynynynynynynynynynynynyny",
      "nynynynynynynynynynyny8nyny4ny31053nynynynynynynynynynynynynynynynynynynynynynyny19nynyn",
      "ynynynynynynynynynynyny135nynynynynynyny3nynynynynynynynynynynynynynynynynynynynynynynyn",
      "ynynynynynynyny10nynyn2ynynynyny4nyny2nyny3nynynynynynynynynynyn5yn5ynynynynynynynyn4yny",
      "n2y3ny5nynynyny24ny890n80y20288n7y12n5y1033n26y1221n40y136n36y156n11yn15yn7yn2y1770n51y1",
      "57n22y2874n32y21888n32y31392n34y"])
  | "changeswhencasemapped" | "cwcm" => some (String.join [
      "65n26y6n26y58ny10n23yn31yn64yn84yn28y2n14y2n2yny4n93yn18y6n27yn2ynyn2y3n2yn4yn5y2nyn2y2n",
      "y7ny2nyn2y3n6y5ny10n2y166ny42n4y2n2y3n3yny6nyn3ynyn20yn47y3n33yn5yn133y8n166yn38y10n39y2",
      "840n38yny5ny2n43y2n3y672n86y2n6y2178n11y5n43y2n3y185ny3ny16ny113n156y2nyn118y2n6y2n38y2n",
      "6y2n8ynynynyn31y2n53yn7yny3n3yn7y3n4y2n6y4n13y5n3yn7y297ny3n2y6ny27ny17n32y3n2y817n52y18",
      "14n113yn2yn2y7n102y7n4y3n2y12n38yny5ny30994n46y18n28y134n14y2n62y9n15y3n3y2n5yn25yn30y2n",
      "2y4n7y24n2y860ny28n80y20288n7y12n5y1033n26y6n26y1189n80y96n36y4n36y116n11yn15yn7yn2yn11y",
      "n15yn7yn2y1731n51y13n51y93n22y10n22y2842n64y21856n64y31360n68y"])
  | "changeswhenlowercased" | "cwl" => some (String.join [
      "65n26y101n23yn7y33nynynynynynynynynynynynynynynynynynynynynynynynynynynyny2nynynynynynyn",
      "yny2nynynynynynynynynynynynynynynynynynynynynynynyn2ynyny3n2ynyn2yn3y2n4yn2yn3y3n2yn2yny",
      "nyn2yny2nyn2yn3ynyn2y3ny7n2yn2yn2ynynynynynynynyny2nynynynynynynynyny2n2ynyn3ynynynynyny",
      "nynynynynynynynynynynynynynynynynynynynynynynyny7n2yn2y2nyn4ynynynyny289nyny3ny8ny6nyn3y",
      "nyn2yn17yn9y35ny8nynynynynynynynynynynyny5ny2nyn2y2n51y48nynynynynynynynynynynynynynynyn",
      "yny9nynynynynynynynynynynynynynynynynynynynynynynynynynynyn2ynynynynynyny2nynynynynynyny",
      "nynynynynynynynynynynynynynynynynynynynynynynynynynynynynynynynynynynynynynynynyny2n38y2",
      "889n38yny5ny722n86y2195ny6n43y2n3y320nynynynynynynynynynynynynynynynynynynynynynynynynyn",
      "ynynynynynynynynynynynynynynynynynynynynynynynynynynynynynynynynynynynynynynynynynynynyn",
      "ynynynynyny9nynynynynynynynynynynynynynynynynynynynynynynynynynynynynynynynynynynynynyny",
      "nynynynynynynynynynyny9n8y8n6y10n8y8n8y8n6y11nynynyny8n8y24n8y8n8y8n8y8n5y11n5y11n4y12n5",
      "y11n5y297ny3n2y6ny45n16y19ny818n26y1840n48y48nyn3y2nynynyn4yny2ny8n3ynynynynynynynynynyn",
      "ynynynynynynynynynynynynynynynynynynynynynynynynynynynynynynynynynynynynynynyny8nyny4ny3",
      "1053nynynynynynynynynynynynynynynynynynynynynynyny19nynynynynynynynynynynynynyny135nynyn",
      "ynynynyny3nynynynynynynynynynynynynynynynynynynynynynynynynynynynynynyny10nynyn2ynynynyn",
      "y4nyny2nyny3nynynynynynynynynynyn5yn5ynynynynynynynyn4ynyn2y3ny5nynynyny24ny22315n26y122",
      "1n40y136n36y156n11yn15yn7yn2y1770n51y157n22y2874n32y21888n32y31392n34y"])
  | "changeswhentitlecased" | "cwt" => some (String.join [
      "97n26y58ny41n24yn8ynynynynynynynynynynynynynynynynynynynynynynynynynynynyny2nynynynynyny",
      "nyn2ynynynynynynynynynynynynynynynynynynynynynynyny2nynyn3y2nyny2ny3ny5ny2ny3n3y2ny2nyny",
      "ny2ny4ny2ny3nyny2ny3nyny4nyn2yn2ynynynynynynynynyn2ynynynynynynynynyn3ynyny3nynynynynyny",
      "nynynynynynynynynynynynynyny3nynynynynynynynyny8ny2n2yny4nynynynyn6yn2ynyn2y3n2yn4yn5y2n",
      "yn2y2ny7ny2nyn2y3n6y5ny10n2y166ny43nyny3ny3n3y18ny27n35yn2y3n3ynynynynynynynynynynynyn5y",
      "ny2ny2ny52n48ynynynynynynynynynynynynynynynynyny9nynynynynynynynynynynynynynynynynynynyn",
      "ynynynynynynyny2nynynynynynyn2ynynynynynynynynynynynynynynynynynynynynynynynynynynynynyn",
      "ynynynynynynynynynynynynynynynynynynyny49n39y3696n6y2178n9yny238ny3ny16ny114nynynynynyny",
      "nynynynynynynynynynynynynynynynynynynynynynynynynynynynynynynynynynynynynynynynynynynyny",
      "nynynynynynynynynynynynynynynynynynynynynynynynyn7y5nynynynynynynynynynynynynynynynynyny",
      "nynynynynynynynynynynynynynynynynynynynynynynynynynynynynyn9y8n6y10n8y8n8y8n6y10n8y8n8y8",
      "n14y2n8y8n8y8n8y8n5yn2y6ny3n3yn2y8n4y2n2y8n8y10n3yn2y342ny33n16y4ny843n26y1862n48yny3n2y",
      "nynyny6ny2ny10nynynynynynynynynynynynynynynynynynynynynynynynynynynynynynynynynynynynyny",
      "nynynynynynynynynynynynyny8nyny4ny12n38yny5ny30995nynynynynynynynynynynynynynynynynynyny",
      "nynynyny19nynynynynynynynynynynynynyny135nynynynynynyny3nynynynynynynynynynynynynynynyny",
      "nynynynynynynynynynynynynynyny10nyny2nynynynyny4ny4nyn2y2nynynynynynynynynyny11nynynynyn",
      "ynynyny4nyny2ny3ny5nynyny26ny860ny28n80y20288n7y12n5y1065n26y1229n40y136n36y155n11yn15yn",
      "7yn2y1795n51y125n22y2874n32y21888n32y31394n34y"])
  | "changeswhenuppercased" | "cwu" => some (String.join [
      "97n26y58ny41n24yn8ynynynynynynynynynynynynynynynynynynynynynynynynynynynyny2nynynynynyny",
      "nyn2ynynynynynynynynynynynynynynynynynynynynynynyny2nynyn3y2nyny2ny3ny5ny2ny3n3y2ny2nyny",
      "ny2ny4ny2ny3nyny2ny3nyny5n2yn2yn2ynynynynynynynyn2ynynynynynynynynyn2yn2yny3nynynynynyny",
      "nynynynynynynynynynynynynyny3nynynynynynynynyny8ny2n2yny4nynynynyn6yn2ynyn2y3n2yn4yn5y2n",
      "yn2y2ny7ny2nyn2y3n6y5ny10n2y166ny43nyny3ny3n3y18ny27n35yn2y3n3ynynynynynynynynynynynyn5y",
      "ny2ny2ny52n48ynynynynynynynynynynynynynynynynyny9nynynynynynynynynynynynynynynynynynynyn",
      "ynynynynynynyny2nynynynynynyn2ynynynynynynynynynynynynynynynynynynynynynynynynynynynynyn",
      "ynynynynynynynynynynynynynynynynynynyny49n39y2888n43y2n3y760n6y2178n9yny238ny3ny16ny114n",
      "ynynynynynynynynynynynynynynynynynynynynynynynynynynynynynynynynynynynynynynynynynynynyn",
      "ynynynynynynynynynynynynynynynynynynynynynynynynynynynynynyn7y5nynynynynynynynynynynynyn",
      "ynynynynynynynynynynynynynynynynynynynynynynynynynynynynynynynynynynyn9y8n6y10n8y8n8y8n6",
      "y10n8y8n8y8n14y2n53yn2y4nyny3n3yn2y4ny3n4y2n2y8n8y10n3yn2y4ny337ny33n16y4ny843n26y1862n4",
      "8yny3n2ynynyny6ny2ny10nynynynynynynynynynynynynynynynynynynynynynynynynynynynynynynynyny",
      "nynynynynynynynynynynynynynynynyny8nyny4ny12n38yny5ny30995nynynynynynynynynynynynynynyny",
      "nynynynynynynyny19nynynynynynynynynynynynynyny135nynynynynynyny3nynynynynynynynynynynyny",
      "nynynynynynynynynynynynynynynynynynyny10nyny2nynynynyny4ny4nyn2y2nynynynynynynynynyny11n",
      "ynynynynynynyny4nyny2ny3ny5nynyny26ny860ny28n80y20288n7y12n5y1065n26y1229n40y136n36y155n",
      "11yn15yn7yn2y1795n51y125n22y2874n32y21888n32y31394n34y"])
  | "dash" => some (String.join [
      "45ny1372ny51ny3649ny1029ny2057n6y61ny39ny15ny390ny3076ny2ny31n2y4ny28ny446ny19ny111ny526",
      "24n2y37ny10ny169ny3680ny318ny"])
  | "deprecated" | "dep" => some "329ny1321ny2307nyny2089n2y2245n6y697n2y908502ny"
  | "diacritic" | "dia" => some (String.join [
      "94nyny71ny6ny4ny2n2y503n159yn8y5n6y17n2y4ny9n2y253n5y209ny55n17yn27ynyn2yny134n8y4n2y134",
      "n2y4n2y3n3y67n27y91n11y58n11y34n2y125n9y41n10y16n28y61ny16ny3n4y28ny74ny16ny110ny16ny110",
      "ny16ny47n3y60ny16ny7ny119ny110ny16ny110ny16ny109n2y16ny124ny124n6yny107ny13n5y75n2y27nyn",
      "yny4n2y66n3yn2y62ny112nyn2y40n2y4n5y25n7yny10n2y705n3y948n2y179n11y9ny347n3y313n8y2ny48n",
      "15y2n11y104ny15ny38n9y54n2y138n2y64n6y82n25y4ny6ny2n3y50n63y89n12y37n11y445nyn3y11n3y13n",
      "3y13n3y13n2y3312n3y317ny506n6y105n4y95ny30066ny12n2yny28n2y82n2y14n34y102n3y109n2y202ny2",
      "7n18y57n4y36ny95ny12ny36ny149n3y65n4y51ny100n5y9n3y128n2y20272ny769n16y270nyny47ny45n2y6",
      "7ny764ny1183n6yn42yn9y810n2y571n6y38ny26n5y398n4y70n11y49n4y192ny41ny72n2y120n2y62ny76ny",
      "9n3y104n2y178n2y81ny16ny24n7y3n5y89n3yn2y13n2y95ny3ny123n2y251n2y126ny118n2y115ny269n2y2",
      "58n2y4ny156ny83ny18ny81ny421ny258nyn2y81ny450ny5356n15y11481ny2496n5y59n7y564n2y546n17y8",
      "0n2y16382n4yn7yn2y7937n46y2n23y544n3y3n6y8n8y2n7y30n4y3714n62y194n7y375ny61n4y766n2y736n",
      "7y109n3yn3y"])
  | "emoji" => some (String.join [
      "35ny6ny5n10y111ny4ny8077ny12ny216ny22ny90n6y15n2y367n2y12ny166ny25n11y4n3y199ny231n2y10n",
      "y9ny58n4yn5y9ny2ny2n2y2ny4ny2nyn2y2ny3ny3n2y8n3y5nyny5n12y11n2y2nyn2yny18ny2n2y18n6ynyn2",
      "y3n2y5ny2n2y4n2y11n2y5n2y2ny5n2ynyn2y20n2y5n6yn4y2ny4ny2ny2n6yny2nynyny6ny3ny6ny10n2y15n",
      "y2ny4nyny4n3yny11n2y48n3y9ny14ny14ny372n2y463n3y19n2y51ny4ny1242ny12ny601nyny114026ny202",
      "ny160n2y12n2y14ny2n10y75n26yn2y23ny20ny2n9y21n2y174n34y2n112y2n2yn3y2n83y2n3yn263yn63y11",
      "n6yn24y7n2y2n8y12ny2n4y2ny4n2y13n2y2ny8n2y9ny5n3y12n3y8n3y2nyny4ny6ny3ny6n86y48n70y5n8y2",
      "n3y4n10y3nyn2y3ny2n10y227n12y4ny283n47yn10yn185y112n13y3n10y5n56y7n15y2n11y6n9y"])
  | "emojicomponent" | "ecomp" => some
      "35ny6ny5n10y8147ny213ny56619ny62422n26y507n5y1456n4y788076n96y"
  | "emojimodifierbase" | "ebase" => some (String.join [
      "9757ny219ny16n4y117879ny60n3y2ny2n3y117n2y2n11y21n19y3ny4n3yn3y7nyny24ny201n2y4ny21ny4n2",
      "y174n3y3n5y83ny16n3y9ny11ny575ny2ny8n8y6ny9n10y2n3y56ny61n2yn2yny17n3yn13y229n3y42n9y"])
  | "emojipresentation" | "epres" => some (String.join [
      "8986n2y205n4y3ny2ny521n2y21n2y50n12y43ny19ny13ny8n2y17n2y5n2y8ny5ny21ny7n2yny4ny2ny7ny4n",
      "2y28ny35nyny4n3yny61n3y24ny14ny859n2y51ny4ny115886ny202ny190ny2n10y75n26yny24ny20ny2n5yn",
      "3y21n2y174n33y12n9yn70yn22y12n43y4n5y12n17y3ny3n71ynyn187y2n63y13n4yn24y18ny26n2y13ny86n",
      "85y48n70y6ny3n3y2n3y4n4y11n2y7n9y227n12y4ny283n47yn10yn185y112n13y3n10y5n56y7n15y2n11y6n",
      "9y"])
  | "extendedpictographic" | "extpict" => some (String.join [
      "169ny4ny8077ny12ny216ny22ny90n6y15n2y367n2y12ny95ny70ny25n11y4n3y199ny231n2y10ny9ny58n4y",
      "n6yn12yn114y10n118y2n11ynyny6ny3ny6ny10n2y15ny2ny4nyny4n3yny11n5y45n3y9ny14ny14ny372n2y4",
      "63n3y19n2y51ny4ny1242ny12ny601nyny114022n256y13n3y31ny60n6y12n2y14ny2n10y18n57y27n15y10n",
      "y20ny2n9yn4y9n434y5n318y8n266y48n128y116n12y85n43y12n4y56n8y10n6y40n8y30n82y12n47yn10yn4",
      "41y256n1022y"])
  | "extender" | "ext" => some (String.join [
      "183ny536n2y878ny441ny858ny752ny127ny2371ny56ny611ny398ny68ny5001ny43n5y103n2y93n3y28438n",
      "y1526ny962ny22ny137ny108ny21n2y21627ny2064n2y1483ny27ny4ny1517ny116n2y498n3y1231ny20649n",
      "2y1180n2yny29016n2y2054n3y"])
  | "grlink" | "graphemelink" => some (String.join [
      "2381ny127ny127ny127ny127ny127ny127ny127ny109n2y16ny124ny111ny127ny201ny180n2y1753n2y30ny",
      "157ny653ny227ny101n2y70n2y4491ny31366ny37ny151ny142ny108ny309ny246ny24145ny1542ny41ny14n",
      "y57ny121n2y139ny116ny180ny98ny128n3y113ny127ny252ny127ny118ny116ny269ny259n2y161ny83ny18",
      "ny81ny421ny260n2y81ny425n2y16876ny"])
  | "hexdigit" | "hex" => some "48n10y7n6y26n6y65193n10y7n6y26n6y"
  | "hyphen" => some "45ny127ny1244ny4731ny2057n2y3589ny739ny52583ny169ny87ny"
  | "idcompatmathcontinue" => some
      "178n2y5ny8118ny3n11yn15y371ny4ny22ny111778ny25ny31ny25ny31ny25ny31ny25ny31ny25ny"
  | "idcompatmathstart" => some "8706ny4ny22ny111778ny25ny31ny25ny31ny25ny31ny25ny31ny25ny"
  | "ideographic" | "ideo" => some (String.join [
      "12294n2y25n9y14n3y965n6592y64n20992y22784n366y2n106y29962ny27n6136y8n1238y41n10y9319n396",
      "y19716n42720y32n4154y6n222y2n5762y14n7473y15n622y2466n542y1506n4939y5n4192y"])
  | "idsbinaryoperator" | "idsb" => some "12272n2y2n10y497ny"
  | "idstrinaryoperator" | "idst" => some "12274n2y"
  | "idsu" | "idsunaryoperator" => some "12286n2y"
  | "joincontrol" | "joinc" => some "8204n2y"
  | "logicalorderexception" | "loe" => some "3648n5y123n5y2800n3y2ny37114n2y2nyn2y"
  | "mcm" | "modifiercombiningmark" => some "1620n2y2ny131ny6ny3n2y481n2yn3y3ny31ny"
  | "noncharactercodepoint" | "nchar" => some (String.join [
      "64976n32y526n2y65534n2y65534n2y65534n2y65534n2y65534n2y65534n2y65534n2y65534n2y65534n2y6",
      "5534n2y65534n2y65534n2y65534n2y65534n2y65534n2y65534n2y"])
  | "patternwhitespace" | "patws" => some "9n5y18ny100ny8072n2y24n2y"
  | "prependedconcatenationmark" | "pcm" => some "1536n6y215ny49ny384n2y80ny67546ny15ny"
  | "quotationmark" | "qmark" => some
      "34ny4ny131ny15ny8028n8y25n2y3591ny457n4y13n3y52769n4y189ny4ny90n2y"
  | "radical" => some "11904n26yn89y12n214y"
  | "sentenceterminal" | "sterm" => some (String.join [
      "33ny12ny16ny1353ny147n3y180ny43n3y246ny61nyny3n2y293n2y1764n2y790ny4n2y773ny198n2y204ny5",
      "ny314n2y354n4y162n2y10n2y2n2y29n3y187n2y65n2y932ny23n2y9n3y3556ny13ny22n2y429ny29948ny27",
      "0n2y227ny3ny382n2y86n2y95ny152n2y147n3y144n2y249ny21094ny3n2y169ny12ny16ny65ny2804n2y127",
      "7n5y44n4y189n2y117n4y127n3y129n2y6ny16n2y88n2yn2y108ny298n2y117n2y373n2y5n15y105n2y249n3",
      "y517nyny251n2y87n2y420n2y692n2y74n2y19241n2y133ny65n2y11ny553n2y296ny19974ny7656ny"])
  | "softdotted" | "sd" => some (String.join [
      "105n2y196ny281ny30ny52ny20ny320ny98nyny6409ny51ny13ny3ny132ny157ny421ny214n2y2866ny10845",
      "3n2y50n2y50n2y50n2y50n2y50n2y50n2y50n2y50n2y50n2y50n2y50n2y50n2y2182ny305n2y26ny"])
  | "terminalpunctuation" | "term" => some (String.join [
      "33ny10nyny11n2y3ny830ny8ny513ny57ny72ny14nyn3y180ny43n11yny235n2y54n15y31ny261n2y1268n2y",
      "172ny4n6y311n2y789n8y773ny124n3y71n2y157n3y3ny39n4y2n2y314n2y354n4y162n2y10n2yn3y29n3y18",
      "7n5y62n2y932ny23n2y9n3y3556ny13ny4ny10nyn2y3n2y428n2y29947n2y269n3y227n5y382n2y86n2y95ny",
      "151n3y147n3y127ny16n2y249ny21092n3yn4y169ny10nyny11n2y3ny65ny2ny1082ny48ny1158ny199ny310",
      "n2y152n6y68n6y89n4y952n5y44n4y189n7y112n4y127n3y129n2y6ny16n2y88n5y108ny298n2y117n3y12n2",
      "y358n4y3n15y105n2y249n3y517nyny251n2y87n2y4n2y414n3y45ny645n2y74n2y1323n5y17913n2y133ny6",
      "5n3y10ny553n2y295n2y19974ny7655n4y"])
  | "unifiedideograph" | "uideo" => some (String.join [
      "13312n6592y64n20992y23054n2ynyn2y10nynyn2y2n3y67030n42720y32n4154y6n222y2n5762y14n7473y1",
      "5n622y4514n4939y5n4192y"])
  | "variationselector" | "vs" => some "6155n3yny58864n16y852720n240y"
  | "whitespace" | "wspace" | "space" => some "9n5y18ny100ny26ny5599ny2431n11y29n2y5ny47ny4000ny"
  | _ => none

def selection? (name : String) : Option Selection :=
  (derived? name).or ((text? name).map fun text => { further := [text] })

end Attribute

end ParserGraph.Text

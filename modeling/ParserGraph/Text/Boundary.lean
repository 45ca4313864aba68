import ParserGraph.Text.Attribute

/-!
# Boundaries in text

The classes by which the Unicode standard finds the boundaries of graphemes, words
and sentences, in version 16.0, by their plain names.
-/

namespace ParserGraph.Text.Boundary

open Attribute

/-- The Hangul syllables without a final consonant: every 28th one. -/
def openSyllables : CharacterSet :=
  .ofRanges ((List.range 399).map fun index => (0xAC00 + 28 * index, 0xAC00 + 28 * index))

/-- The Hangul syllables with a final consonant. -/
def closedSyllables : CharacterSet :=
  .ofRanges ((List.range 399).map fun index => (0xAC01 + 28 * index, 0xAC1B + 28 * index))

/-- The selection of a class of graphemes, other than those of Hangul syllables. -/
def graphemeSelection? : String → Option Selection
  | "control" | "cn" => some
      { categories := [.lineSeparator, .paragraphSeparator, .control, .format],
        further := ["8293ny57226n9y851975nyn30y96n128y240n3600y"],
        exceptions := ["10ny2ny1522n6y215ny49ny384n2y80ny5929n2y61615ny15ny847698n96y"] }
  | "cr" => some { further := ["13ny"] }
  | "extend" | "ex" => some
      { categories := [.nonspacingMark, .enclosingMark],
        further := [otherGraphemeExtendText, emojiModifierText] }
  | "l" => some { further := ["4352n96y38912n29y"] }
  | "lf" => some { further := ["10ny"] }
  | "prepend" | "pp" => some
      { further :=
          ["1536n6y215ny49ny384n2y80ny1131ny66414ny15ny244n2y525ny1389nyny248ny73n6y700ny443ny"] }
  | "regionalindicator" | "ri" => some { further := [regionalIndicatorText] }
  | "spacingmark" | "sm" => some
      { categories := [.spacingMark],
        further := ["3635ny127ny"],
        exceptions := [String.join [
            "2494ny24ny358ny24ny102ny24ny232nyny4n2yn2y9n2y103ny24ny119ny15ny587n2y11ny41n3y2n7y2",
            "1ny3n6y2ny10n3y1656ny30ny812nyn2y208ny5nyny5n2y101ny71n2y5178n2y31011ny108ny186nyny2",
            "6434ny116ny264ny14ny9ny96ny9ny2nyn3y5ny224ny12ny241ny262ny105n2y526ny12ny1539ny20654",
            "n2y24947n2y6n6y"]] }
  | "t" => some { further := ["4520n88y50635n49y"] }
  | "v" => some { further := ["4448n72y50696n23y38300ny3n4y"] }
  | "zwj" => some { further := ["8205ny"] }
  | _ => none

def graphemeClass? : String → Option CharacterSet
  | "lv" => some openSyllables
  | "lvt" => some closedSyllables
  | name => (graphemeSelection? name).map Selection.characters

def wordClass? : String → Option Selection
  | "cr" => some { further := ["13ny"] }
  | "doublequote" | "dq" => some { further := ["34ny"] }
  | "extendnumlet" | "ex" => some { further := ["95ny8143ny15n2y19ny56798n2y24n3y239ny"] }
  | "extend" => some
      { categories := [.nonspacingMark, .spacingMark, .enclosingMark],
        further := [otherGraphemeExtendText, emojiModifierText] }
  | "format" | "fo" => some { categories := [.format], exceptions := ["8203n3y909330n96y"] }
  | "hebrewletter" | "hl" => some { further := ["1488n27y4n4y62762nyn10yn13yn5ynyn2yn2yn10y"] }
  | "katakana" | "ka" => some
      { further :=
          ["12337n5y101n2y3n91yn4y240n16y208n47yn88y52238n56y45138n4yn7yn2yny287n3y50ny14n4y"] }
  | "aletter" | "le" => some
      { categories := Category.letters ++ [.letterNumber],
        further :=
          [otherAlphabeticText,
            "706n4y12n6y6n2y5n7ynyn17y602n3yny43ny104ny41236n15y9n2y103n2y976ny"],
        exceptions := [String.join [
            "837ny29n13y576n14ynyn2yn2yny8n27y4n4y29n11y48n13yn7y16ny101n7y4n4y2n2y4ny35ny30n16y1",
            "02n11y101n2y3n9yn3yn4y106ny60n12y3n7y6n20y54n2y2n15yn2y5n3y10n2y29n3y58n7y2n2y2n2y10",
            "ny10n2y29n3y58n5y4n2y2n2y4ny30n2y3ny11n3y58n8yn3yn2y21n2y22n3y4n3y58n7y2n2y2n2y9n2y1",
            "0n2y30ny59n5y3n3yn3y10ny40n5y57n7yn3yn3y8n2y11n2y29n3y58n7yn3yn3y8n2y11n2y15ny12n4y5",
            "8n7yn3yn3y10ny10n2y29n3y75n6ynyn8y18n2y13n58y5n7y6ny51n2ynyn5yn24ynyn19yn3y2n5yny6ny",
            "14n4y145n19y9n11yn36y67n55yny2n5y16n64y10n4y1652n2y30n2y30n2y30n2y12n52y2n19y14ny4ny",
            "168n2y34ny118n12y4n9y23n30y2n5y11n44y4n26y77n5y4n63y2n20y50ny23n2y11n3y49n5y48n15y60",
            "n3y30n9y2n2y57n11y50n19y412n34y4075n32y518n2y25n9y7n5y2n3y6n86y6n3yn90yn4y240n16y512",
            "n6592y64n20992y1652n8y34n2y354ny8ny23n5y88n2y50n16yny57ny38n5y28n12y45n4y48n12y32n16",
            "y10n5y42n14y12ny8n2y18n23y3n69ynyny24n3y13n5y5ny237n8y19733n366y2n106y67n12yn13yn5yn",
            "yn2yn2yn10y1046n58y982n5y1670n3yn2y5n4y788n4y65ny321n2y79ny259n3y53n14y45n2y11n3y45n",
            "9y9ny61n3y36n12y18n2y57n3y48n13y14n2y92n9y2ny6ny2ny157n10y23n4y58n7y2n2y2n2y10ny10n2",
            "y84n9yny2nyn4yn2y103n13yn3y106n18y237n7y2n7y29n2y82n15yny106n11y74n27y2n14y21n7y229n",
            "13y247n6yn2y2n2y3nyny142n7y2n6y4ny28n10y42n5yn4y18n11y46n14y407n8yn7y83n22yn14y122n6",
            "y3nyn2yn3yny3ny66n5yn2yn4y348n4y9n2yny48n7y3n3y16861n17y3616nyn55y7n4y93n2y14n6136y8",
            "n1238y41n10y8935n4yn7yn2yn291y15ny29n3y2ny14n4y8n396y2466ny9057n7yn17y2n7yn2yn5y100n",
            "y2231ny5816n42720y32n4154y6n222y2n5762y14n7473y15n622y2466n542y1506n4939y5n4192y"]] }
  | "lf" => some { further := ["10ny"] }
  | "midnumlet" | "mb" => some { further := ["46ny8169n2y10ny56877ny180ny6ny"] }
  | "midletter" | "ml" => some { further := ["58ny124ny719ny471ny148ny6706ny56811ny65ny196ny"] }
  | "midnum" | "mn" => some
      { further := ["44ny14ny834ny522ny130n2y94ny395ny6219ny56779ny3ny59ny3ny183ny14ny"] }
  | "newline" | "nl" => some { further := ["11n2y120ny8098n2y"] }
  | "numeric" | "nu" => some { categories := [.decimalNumber], further := ["1643ny"] }
  | "regionalindicator" | "ri" => some { further := [regionalIndicatorText] }
  | "singlequote" | "sq" => some { further := ["39ny"] }
  | "wsegspace" => some { further := ["32ny5727ny2431n7yn3y84ny4000ny"] }
  | "zwj" => some { further := ["8205ny"] }
  | _ => none

def sentenceClass? : String → Option Selection
  | "aterm" | "at" => some { further := ["46ny8181ny56877ny187ny"] }
  | "close" | "cl" => some
      { categories := [.openPunctuation, .closePunctuation, .initialPunctuation,
          .finalPunctuation],
        further := ["34ny4ny10035n6y1695n2y4n3y2ny116842n3y"] }
  | "cr" => some { further := ["13ny"] }
  | "extend" | "ex" => some
      { categories := [.nonspacingMark, .spacingMark, .enclosingMark],
        further := [otherGraphemeExtendText, "8205ny"] }
  | "format" | "fo" => some { categories := [.format], exceptions := ["8204n2y909330n96y"] }
  | "oletter" | "le" => some
      { categories := [.modifierLetter, .otherLetter, .letterNumber],
        further := [otherAlphabeticText, "1523ny2780n43y2n3y2960n43y2n3y"],
        exceptions := [String.join [
            "170ny15ny501n9y7n2y30n5y96ny29n13y10ny565n14ynyn2yn2yny72n11y48n13yn7y16ny101n7y4n4y",
            "2n2y4ny35ny30n16y102n11y101n2y3n9yn3yn4y106ny60n12y3n7y6n20y54n2y2n15yn2y5n3y10n2y29",
            "n3y58n7y2n2y2n2y10ny10n2y29n3y58n5y4n2y2n2y4ny30n2y3ny11n3y58n8yn3yn2y21n2y22n3y4n3y",
            "58n7y2n2y2n2y9n2y10n2y30ny59n5y3n3yn3y10ny40n5y57n7yn3yn3y8n2y11n2y29n3y58n7yn3yn3y8",
            "n2y11n2y15ny12n4y58n7yn3yn3y10ny10n2y29n3y75n6ynyn8y18n2y61ny2n7y18ny99ny2n6yn2y16ny",
            "163n19y9n11yn36y110n12yny2n4y23n4y4n3yn3y2n7y3n4y13n12yny10n4y94ny1557n2y30n2y30n2y3",
            "0n2y66n19y188n2y34ny118n12y4n9y222n5y57n10y2n20y74n2y11n3y49n5y48n15y60n3y30n9y2n2y5",
            "7n11y50n19y245n63y13ny34n37y19n34y636ny13ny16n13y195n32y822n52y1938n2y354n32y30836n8",
            "y32n4y208ny129n3y3n2y8ny8ny23n5y88n2y50n16yny57ny38n5y28n12y45n4y48n12y37ny67n14y12n",
            "y8n2y45n3y50nyn3y2n2y5ny44n5y5ny102n4y9ny121n8y20275ny1151n2y982n5y1029ny2n3yn42yn9y",
            "582n3yn2y5n4y788n4y65ny321n2y79ny259n3y53n14y45n2y11n3y45n9y9ny61n3y36n12y18n2y57n3y",
            "48n13y14n2y92n9y2ny6ny2ny157n10y23n4y58n7y2n2y2n2y10ny10n2y84n9yny2nyn4yn2y103n13yn3",
            "y106n18y237n7y2n7y29n2y82n15yny106n11y103n14y257n13y247n6yn2y2n2y3nyny142n7y2n6y4ny2",
            "8n10y42n5yn4y18n11y46n14y407n8yn7y83n22yn14y122n6y3nyn2yn3yny3ny66n5yn2yn4y348n4y9n2",
            "yny48n7y3n3y16861n17y3616nyn55y7n4y93n2y19628ny9057n7yn17y2n7yn2yn5y5n62y33ny2231ny2",
            "024n26y6n26y6n26y"]] }
  | "lf" => some { further := ["10ny"] }
  | "lower" | "lo" => some
      { categories := [.lowercaseLetter],
        further := [otherLowercaseText],
        exceptions := ["837ny3466n43y2n3y"] }
  | "numeric" | "nu" => some { categories := [.decimalNumber], further := ["1643n2y"] }
  | "scontinue" | "sc" => some
      { further := [String.join [
            "44n2y12ny1314ny174n2y490ny4105ny5ny2058n2y4076ny52750n2yny29n2y29n2y3ny2ny10ny168n2y",
            "12ny73ny"]] }
  | "sep" | "se" => some { further := ["133ny8098n2y"] }
  | "sp" => some { further := ["9nyn2y19ny127ny5599ny2431n11y36ny47ny4000ny"] }
  | "sterm" | "st" => some
      { further := [String.join [
            "33ny29ny1353ny147n3y180ny43n3y246ny61nyny3n2y293n2y1764n2y790ny4n2y773ny198n2y204ny5",
            "ny314n2y354n4y162n2y10n2y2n2y29n3y187n2y65n2y956n2y9n3y3556ny13ny22n2y429ny29948ny27",
            "0n2y227ny3ny382n2y86n2y95ny152n2y147n3y144n2y249ny21098n2y169ny29ny65ny2804n2y1277n5",
            "y44n4y189n2y117n4y127n3y129n2y6ny16n2y88n2yn2y108ny298n2y117n2y373n2y5n15y105n2y249n",
            "3y517nyny251n2y87n2y420n2y692n2y74n2y19241n2y133ny65n2y11ny553n2y296ny19974ny",
            "7656ny"]] }
  | "upper" | "up" => some
      { categories := [.uppercaseLetter, .titlecaseLetter],
        further := [otherUppercaseText],
        exceptions := ["7312n43y2n3y"] }
  | _ => none

end ParserGraph.Text.Boundary

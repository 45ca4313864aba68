import ParserGraph.Text.CharacterSet

/-!
# General categories

The general category that the Unicode standard gives to each code point.  The
table lists runs of code points of one category from zero on: a count, left out
when it is one, and the mark of the category.  It describes version 16.0 of the
standard, by which patterns are read; the characters that version 17.0 added stand
in a table of their own.
-/

namespace ParserGraph.Text

/-- The general categories of Unicode. -/
inductive Category where
  | uppercaseLetter
  | lowercaseLetter
  | titlecaseLetter
  | modifierLetter
  | otherLetter
  | nonspacingMark
  | spacingMark
  | enclosingMark
  | decimalNumber
  | letterNumber
  | otherNumber
  | connectorPunctuation
  | dashPunctuation
  | openPunctuation
  | closePunctuation
  | initialPunctuation
  | finalPunctuation
  | otherPunctuation
  | mathSymbol
  | currencySymbol
  | modifierSymbol
  | otherSymbol
  | spaceSeparator
  | lineSeparator
  | paragraphSeparator
  | control
  | format
  | surrogate
  | privateUse
  | unassigned
deriving DecidableEq, Repr

namespace Category

def ofMark : Char → Category
  | 'U' => .uppercaseLetter
  | 'l' => .lowercaseLetter
  | 'T' => .titlecaseLetter
  | 'm' => .modifierLetter
  | 'o' => .otherLetter
  | 'n' => .nonspacingMark
  | 'c' => .spacingMark
  | 'e' => .enclosingMark
  | 'd' => .decimalNumber
  | 'r' => .letterNumber
  | 'N' => .otherNumber
  | '_' => .connectorPunctuation
  | '-' => .dashPunctuation
  | '(' => .openPunctuation
  | ')' => .closePunctuation
  | '<' => .initialPunctuation
  | '>' => .finalPunctuation
  | '.' => .otherPunctuation
  | '+' => .mathSymbol
  | '$' => .currencySymbol
  | '^' => .modifierSymbol
  | 'S' => .otherSymbol
  | 's' => .spaceSeparator
  | 'L' => .lineSeparator
  | 'P' => .paragraphSeparator
  | 'C' => .control
  | 'f' => .format
  | 'x' => .surrogate
  | 'p' => .privateUse
  | _ => .unassigned

/-- The runs of the first 128 code points. -/
def asciiText : String :=
  "32Cs3.$3.().+.-2.10d2.3+2.26U(.)^_^26l(+)+C"

/-- The runs of code points of one category, from code point zero on. -/
def runText : String := String.join [
    "32Cs3.$3.().+.-2.10d2.3+2.26U(.)^_^26l(+)+33Cs.4$S.^So<+fS^S+2N^l2.^No>3N.23U+7U24l+8lUlUlU",
    "lUlUlUlUlUlUlUlUlUlUlUlUlUlUlUlUlUlUlUlUlUlUlUlUlU2lUlUlUlUlUlUlUlU2lUlUlUlUlUlUlUlUlUlUlUl",
    "UlUlUlUlUlUlUlUlUlUlUlUl2UlUlU3l2UlUl2Ul3U2l4Ul2Ul3U3l2Ul2UlUlUl2UlU2lUl2Ul3UlUl2U2loU3l4oU",
    "TlUTlUTlUlUlUlUlUlUlUlU2lUlUlUlUlUlUlUlUlU2lUTlUl3UlUlUlUlUlUlUlUlUlUlUlUlUlUlUlUlUlUlUlUlU",
    "lUlUlUlUlUlUlUlUlU7l2Ul2U2lUl4UlUlUlUlU69lo27l18m4^12m14^5m7^m^m17^112nUlUlm^Ul2um3l.U4u2^U",
    ".3UuUu2Ul17Uu9U35lU2l3U3lUlUlUlUlUlUlUlUlUlUlUlU5lUl+Ul2U2l51U48lUlUlUlUlUlUlUlUlUlUlUlUlUl",
    "UlUlUlUlS5n2eUlUlUlUlUlUlUlUlUlUlUlUlUlUlUlUlUlUlUlUlUlUlUlUlUlUlUl2UlUlUlUlUlUlU2lUlUlUlUl",
    "UlUlUlUlUlUlUlUlUlUlUlUlUlUlUlUlUlUlUlUlUlUlUlUlUlUlUlUlUlUlUlUlUlUlUlUlUlUlUlUlUlUlUlUlu38",
    "U2um6.41l.-2u2S$u45n-n.2n.2n.n8u27o4u4o2.11u6f3+2.$2.2S11n.f3.32om10o21n10d4.2on99o.o7nfS6n",
    "2m2nS4n2o10d3o2So14.ufon30o27n2u89o11no14u10d33o9n2mS3.m2un2$22o4nm9nm3nm5n2u15.u25o3n2u.u1",
    "1o5u24o^6ou2f5u9n41om24nf32nc54oncno3c8n4cn2co7n10o2n2.10d.m15on2cu8o2u2o2u22ou7ouo3u4o2uno",
    "3c4n2u2c2u2cno8uc4u2ou3o2n2u10d2o2$6NS$o.n2u2ncu6o4u2o2u22ou7ou2ou2ou2o2unu3c2n4u2n2u3n3un7",
    "u4ouo7u10d2n3on.10u2ncu9ou3ou22ou7ou2ou5o2uno3c5nu2ncu2cn2uo15u2o2n2u10d.$7uo6nun2cu8o2u2o2",
    "u22ou7ou2ou5o2unocnc4n2u2c2u2cn7u2nc4u2ou3o2n2u10dSo6N10unou6o3u3ou4o3u2ouou2o3u2o3u3o3u12o",
    "4u2cn2c3u3cu3cn2uo6uc14u10d3N6S$S5un3cn8ou3ou23ou16o2uno3n4cu3nu4n7u2nu3o2uo2u2o2n2u10d7u.7",
    "NSon2c.8ou3ou23ou10ou5o2unocn5cun2cu2c2n7u2c6u2ou2o2n2u10du2oc12u2n2c9ou3ou41o2no3c4nu3cu3c",
    "noS4u3oc7N3o2n2u10d9NS6oun2cu18o3u24ou9ouo2u7o3un4u3c3nunu8c6u10d2u2c.12u48on2o7n4u$6om8n.1",
    "0d2.37u2ouou5ou24ouou10on2o9no2u5oumu7nu10d2u4o32uo3S15.S.3S2n6S10d10NSnSnSn()()2c8ou36o4u1",
    "4nc5n.2n5o11nu36nu8Sn6Su2S5.4S2.37u43o2c4nc6nc2n2c2no10d6.6o2c2n4o3no3c2o7c3o4n13on2c2n6cno",
    "c10d3cn2S38UuU5uU2u43l.m3l329ou4o2u7ouou4o2u41ou4o2u33ou4o2u7ouou4o2u15ou57ou4o2u67o2u3n9.2",
    "0N3u16o10S6u86U2u6l2u-620oS.17os26o()3u75o3.3r8o7u18o3nc9u19o2nc2.9u18o2n12u13ou3ou2n12u52o",
    "2nc7n8cn2c11n3.m3.$on2u10d6u10N6u6.-4.3nfn10d6u35om53o7u5o2n34ono5u70o10u31ou3n4c2n3c4u2cn6",
    "c3n4uS3u2.10d30o2u5o11u44o4u26o6u10dN3u34S23o2n2cn2u2.53ocnc7nuncn2c8n6c10n2un10d6u10d6u7.m",
    "6.2u14ne16n49u4nc47onc5ncn5cn2c8ou2.10d7.10S9n9S3.2nc30oc4n2c2nc3n2o10d44onc2n3cnc3n2c8u4.3",
    "6o8c8n2c2n3u5.10d3u3o10d30o6m2.9lUl5u43U2u3U8.8u3n.13nc7n4on6on2oc2no5u44l63m13lm34l37m64nU",
    "lUlUlUlUlUlUlUlUlUlUlUlUlUlUlUlUlUlUlUlUlUlUlUlUlUlUlUlUlUlUlUlUlUlUlUlUlUlUlUlUlUlUlUlUlUl",
    "UlUlUlUlUlUlUlUlUlUlUlUlUlUlUlUlUlUlUlUlUlUlUlUlUlUlUlUlU9lUlUlUlUlUlUlUlUlUlUlUlUlUlUlUlUl",
    "UlUlUlUlUlUlUlUlUlUlUlUlUlUlUlUlUlUlUlUlUlUlUlUlUlUlUlUlUlUlUlUlU9l8U6l2u6U2u8l8U8l8U6l2u6U",
    "2u8luUuUuUuU8l8U14l2u8l8T8l8T8l8T5lu2l4UT^l3^3lu2l4UT3^4l2u2l4Uu3^8l5U3^2u3lu2l4UT2^u11s5f6",
    "-2.<>(2<>(<8.LP5fs9.<>4.2_3.+()11.+._10.s5fu10fNm2u6N3+()m10N3+()u13m3u33$15u13n4en3e12n15u",
    "2SU4SU2Sl3U2l3UlSU2S+5U6SUSUSUS4USl4Ul4ol2S2l2U5+U4lS+2SlS16N35rUl4rN2S4u5+5S2+4S+2S+2S+7S+",
    "31S2+2S+S+31S268+8S()()20S2+7S()81S+30S25+40S6+72S22u11S21u60N78S22N183S+9S+54S8+111S+248S(",
    ")()()()()()()30N44S5+()31+()()()()()16+256S131+()()()()()()()()()()()63+()()32+()258+48S21+",
    "2S6+39S2u32Su105S48U48lUl3U2lUlUlUl4UlU2lU6l2m3UlUlUlUlUlUlUlUlUlUlUlUlUlUlUlUlUlUlUlUlUlUl",
    "UlUlUlUlUlUlUlUlUlUlUlUlUlUlUlUlUlUlUlUlUlUlUlUlUlUlUlU2l6SUlUl3nUl5u4.N2.38lul5ul2u56o7um.",
    "14un23o9u7ou7ou7ou7ou7ou7ou7ou7ou32n2.<><>3.<>.<>9.-2.-.<>2.<>()()()()5.m10.2-4.-.(13.2S3.(",
    ")()()()-34u26Su89S12u214S26u16Ss3.Smor()()()()()2S()()()()-(2)S9r4n2c-5m2S3rmo.2Su86o2u2n2^",
    "2mo-90o.3mo5u43ou94ou2S4N10S32o38S9uS16o31Su10N30S8NS15N32S10N39S15N320S6592o64S21013om1143",
    "o3u55S9u40o6m2.268om3.16o10d2o20uUlUlUlUlUlUlUlUlUlUlUlUlUlUlUlUlUlUlUlUlUlUlUlon3e.10n.mUl",
    "UlUlUlUlUlUlUlUlUlUlUlUlUl2m2n70o10r2n6.8u23^9m2^UlUlUlUlUlUlU3lUlUlUlUlUlUlUlUlUlUlUlUlUlU",
    "lUlUlUlUlUlUlUlUlUlUlUlUlUlUlUlUlUlm8lUlUl2UlUlUlUlUlm2^UlUloUlU3lUlUlUlUlUlUlUlUlUlUl5Ul5U",
    "lUlUlUlUlUlUlUl4UlUl2Ul2uUlululUlUlUlU21u3mUlo2ml7on3on4on23o2c2nc4Sn3u6N2S$S6u52o4.8u2c50o",
    "16c2n8u2.10d6u18n6o3.o.2on10d28o8n2.23o11n2c11u.29o3u3nc47on2c4n2c2n3c13.um10d4u2.5onm9o10d",
    "5ou41o6n2c2n2c2n9u3on8onc2u10d2u4.16om6o3Socnc50ono3n2o2n5o2nono24u2om2.11oc2n2c2.o2mcn10u6",
    "o2u6o2u6o9u7ou7ou43l^4m9lm2^4u80l35o2cn2cn2c.cn2u10d6u11172o12u23o4u49o4u2048x6400p366o2u10",
    "6o38u7l12u5l5uon10o+13ou5ouou2ou2ou108o17^16u363o)(16S64o2u54o7uS32u12o$3S16n7.().6u16n.2-2",
    "_()()()()()()()()2.()4.3_3.u4.-()()()3.+-3+u.$2.4u5ou135o2ufu3.$3.().+.-2.10d2.3+2.26U(.)^_",
    "^26l(+)+().()2.10om45o2m31o3u6o2u6o2u6o2u3o3u2$+^S2$uS4+2S10u3f2S2u12ou26ou19ou2ou15o2u14o3",
    "4u123o5u3.4u45N3u9S53r4N17S2N3Su13S3uS47u45Sn130u29o3u49o15un27N4u32o4N9u20or8or5u38o5n5u30",
    "ou.36o4u8o.5r42u40U40l78o2u10d6u36U4u36l4u40o8u52o11u.11Uu15Uu7Uu2Uu11lu15lu7lu2l3u52o12u31",
    "1o9u22o10u8o24u6mu42mu9m69u6o2uou44ou2o3uo2u23ou.8N23o2S7N31o8u9N48u19ou2o5u5N22o6N3u.26o5u",
    ".64u56o4u2N2o16N2u46No3nu2n5u4n4ou3ou29o2u3n4un9N7u9.7u29o2N.29o3N32u8oS28o2n4u5N7.9u54o3u7",
    ".22o2u8N19o5u8N18o7u4.12u7N80u73o55u51U13u51l7u6N36o4n8u10d6u10d4omo22U3u5n-m22l8u2+208u31N",
    "u42ou2n-2u2o16u3o55u4n29o10No8u22o11n4N5.22u18o4n4.38u21o7N20u23o9ucnc53o15n7.4u20N10dn2o2n",
    "o9u3nc45o3c4n2c2n2.f4.n10uf2u25o7u10d6u3n36o5nc8nu10d4.o2co8u35on2.o9u2nc48o3c9n2c4o4.4n.cn",
    "10do.o3.u20N11u18ou25o3c3n2cnc2n6.n2on62u7ouou4ou15ou10o.6u47on3c8n5u10d6u2n2cu8o2u2o2u22ou",
    "7ou2ou5ou2no2cn4c2u2c2u3c2uo6uc5u5o2c2u7n3u5n11u10ouo2uou38ouo3c6nuc2ucu4cu2cncnono2.u2.8u2",
    "n29u53o3c8n2c3ncn4o5.10d2.u.n3o30u48o3c6ncn4c2nc2n2o.o8u10d166u47o3c4n2u4c2nc2n23.4o2n34u48",
    "o3c8n2cnc2n3.o11u10d6u13.19u43oncn2c6ncno.6u10d6u20d28u27o2uncn2c4nc5n4u10d2N3.S7o185u44o3c",
    "9nc2n.100u32U32l10d9N12u8o2uo2u8ou2ou24o6cu2c2u2ncnococn3.9u10d70u8o2u39o3c4n2u2n4cno.oc27u",
    "o10n40o6nco4n8.n8uo6n2c3n46o13nc2n3.o5.13u73o7u10.182u33o.14u10d6u9ou37oc7nu6ncno5.10u10d19",
    "N3u2.30o2u22nuc7nc2nc2n73u7ou2ou38o6n3unu2nu7non8u10d6u6ou2ou32o5cu2nu2cncno7u10d310u19o2n2",
    "c2.7u2noc13ou34o2c5n3u2cncn13.10dn85uo15u21N8S4$17S13u.922o102u111ru5.11u196o2636u97o2.13u1",
    "072o16fn6o15n10u3995o5u583o6841u30o12n3c3n10d1734u569o7u31ou10d4u2.79ou10d6u30o2u5n.10u48o7",
    "n5.4S4m.S10u10du7Nu21o5u19o432u3m40o2m3.10d198u32U32l23N4.101u75o4uno55c7u4n13m64u2m.mn11u2",
    "c14u6136o8u1238o41u10o8935u4mu7mu2mu291o15uo29u3o2uo14u4o8u396o2308u107o5u13o3u9o7u10o2uS2n",
    ".4f3932u240S10d6u436S76u46n2u23n9u116S60u246S10u39S2u60S2c3n3S6c8f8n2S7n30S4n61S21u66S3nS12",
    "2u20N12u20N12u87S9u25N135u26U26l26U7lu18l26U26lUu2U2uU2u2U2u4Uu8U4lulu7lu11l26U26l2Uu4U2u8U",
    "u7Uu26l2Uu4Uu5UuU3u7Uu26l26U26l26U26l26U26l26U26l26U26l26U28l2u25U+25l+6l25U+25l+6l25U+25l+",
    "6l25U+25l+6l25U+25l+6lUl2u50d512S55n4S50n8Sn14Sn2S5.15u5nu15n1104u10lo20l6u6l213u7nu17n2u7n",
    "u2nu5n5u62m33un112u45o3u7n7m2u10d4uoS320u30on17u44o4n10d5u$464u27om4n10d214u30o2no10d4u.480",
    "u7ou4ou2ou15ou197o2u9N7n41u34U34l7nm4u10d4u2.785u59NS3N$4N76u45NS15N194u4ou27ou2ouo2uou10ou",
    "4ououo6uo4uououou3ou2ouo2uououououou2ouo2u4ou7ou4ou4ouou10ou17o5u3ou5ou17o52u2+270u44S4u100",
    "S12u15S2u15Su15Su37S10u13N161S56u29S13u44S4u9S7u2S14u6S154u251S5^728S4u17S3u13S3u119S4u95S6",
    "u12S4uS15u12S4u56S8u10S6u40S8u30S2u12S4u2S62u340S12u14S2u13S3u10S5u56S7u15S2u11S6u9S7u147Su",
    "92S10d1030u42720o32u4154o6u222o2u5762o14u7473o15u622o2466u542o1506u4939o5u4192o711761uf30u9",
    "6f128u240n65040u65534p2u65534p2u"]

/-- The categories of the characters that version 17.0 added; other code points are unassigned. -/
def latestText : String := String.join [
    "2191uo972uo127uo3570u15n2u12n1493u$2772uS31799uUl2uUuU28um21457u16S445u2S54u7S2929u26o1387u",
    "m2o8u.8S33u2n3172unc3ncnc584u41om2o4u10d20662u25U2u25l286u2m3r6145u8o1289u22o97u115o16135u3",
    "S445u23S15u16S+6095u31ou3on2on7o2n5on8uom4056uS158u4S341u9+379u4S50uS3uS57uS4uS28uS4uS266uS",
    "47935u6o5986u12o21762u4298o"]

def asciiRuns : List (Nat × Char) := Runs.ofText asciiText

/-- The runs of the whole table. -/
def runs : List (Nat × Char) := Runs.ofText runText

def latestRuns : List (Nat × Char) := Runs.ofText latestText

def lookUp (table : List (Nat × Char)) (code : Nat) : Category :=
  ((Runs.markAt? table code).map ofMark).getD .unassigned

/-- The general category of a character in version 16.0; ASCII is looked up in the short table. -/
def of (character : Char) : Category :=
  lookUp (if character.toNat < 0x80 then asciiRuns else runs) character.toNat

/-- The general category of a character in version 17.0. -/
def latest (character : Char) : Category :=
  match of character with
  | .unassigned => lookUp latestRuns character.toNat
  | category => category

/-- The characters of some categories in version 16.0. -/
def characters (categories : List Category) : CharacterSet :=
  .ofRuns (fun mark => categories.contains (ofMark mark)) runs

def letters : List Category :=
  [.uppercaseLetter, .lowercaseLetter, .titlecaseLetter, .modifierLetter, .otherLetter]

/-- The categories of marks, which combine with the character in front of them. -/
def marks : List Category :=
  [.nonspacingMark, .spacingMark, .enclosingMark]

def numbers : List Category :=
  [.decimalNumber, .letterNumber, .otherNumber]

def punctuation : List Category :=
  [.connectorPunctuation, .dashPunctuation, .openPunctuation, .closePunctuation,
   .initialPunctuation, .finalPunctuation, .otherPunctuation]

def symbols : List Category :=
  [.mathSymbol, .currencySymbol, .modifierSymbol, .otherSymbol]

def separators : List Category :=
  [.spaceSeparator, .lineSeparator, .paragraphSeparator]

/-- The categories of what is neither a letter, mark, number, sign nor separator. -/
def others : List Category :=
  [.control, .format, .surrogate, .privateUse, .unassigned]

/-- Categories whose characters leave no visible trace or stand for nothing. -/
def isInvisible (category : Category) : Bool :=
  others.contains category || separators.contains category

end Category

end ParserGraph.Text

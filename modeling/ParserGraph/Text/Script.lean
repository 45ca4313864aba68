import ParserGraph.Text.CharacterSet

/-!
# Scripts

The script that each character belongs to, and the scripts that use characters of
no script of their own, in version 16.0 of the Unicode standard.
-/

namespace ParserGraph.Text

/-- A script. -/
structure Script where
  names : List String
  /-- The characters of the script, as runs of yes and no. -/
  members : String
  /-- The characters that the script uses with others, as runs of yes and no. -/
  shared : String := ""
deriving DecidableEq, Repr

namespace Script

/-- The scripts that have a name of their own. -/
def table : List Script := [
  { names := ["adlam", "adlm"], members := "125184n76y4n10y4n2y", shared := "1567ny32ny" },
  { names := ["ahom"], members := "71424n27y2n15y4n23y" },
  { names := ["anatolianhieroglyphs", "hluw"], members := "82944n583y" },
  { names := ["arabic", "arab"],
    members := String.join [
        "1536n5yn6yn14yn3yn32yn10y11n26yn108yn34y80n48y240n31yn2y5n75yn29y62032n115y16n363y2n80",
        "y2n54y7ny32n16y112n5yn135y3939n31y67n3y55n4y57088n4yn27yn2yny2nyn10yn4ynyny6ny4nynynyn",
        "3yn2yny2nynynynynyn2yny2n4yn7yn4yn4ynyn10yn17y5n3yn5yn17y52n2y"],
    shared := "1548ny14ny3ny32ny10n11y26ny63181n2y1440n28y" },
  { names := ["armenian", "armn"], members := "1329n38y2n50y2n3y62851n5y", shared := "776ny" },
  { names := ["avestan", "avst"], members := "68352n54y3n7y", shared := "183ny" },
  { names := ["balinese", "bali"], members := "6912n77yn50y" },
  { names := ["bamum", "bamu"], members := "42656n88y49416n569y" },
  { names := ["bassavah", "bass"], members := "92880n30y2n6y" },
  { names := ["batak", "batk"], members := "7104n52y8n4y" },
  { names := ["bengali", "beng"],
    members := "2432n4yn8y2n2y2n22yn7yny3n4y2n9y2n2y2n4y8ny4n2yn5y2n25y",
    shared := "700ny1684n2y17n2y4970nyny2n2yny8ny8ny2ny4ny2n3y35833ny" },
  { names := ["bhaiksuki", "bhks"], members := "72704n9yn45yn14y10n29y" },
  { names := ["bopomofo", "bopo"],
    members := "746n2y11801n43y112n32y",
    shared := "711nyn3y13ny11559n3y4n10yn13y10n4y2ny6ny195ny52553n2y282n5y" },
  { names := ["brahmi", "brah"], members := "69632n78y4n36y9ny" },
  { names := ["braille", "brai"], members := "10240n256y" },
  { names := ["buginese", "bugi"], members := "6656n28y2n2y", shared := "43471ny" },
  { names := ["buhid", "buhd"], members := "5952n20y", shared := "5941n2y" },
  { names := ["canadianaboriginal", "cans"], members := "5120n640y560n70y65978n16y" },
  { names := ["carian", "cari"], members := "66208n49y", shared := "183ny" },
  { names := ["caucasianalbanian", "aghb"],
    members := "66864n52y11ny",
    shared := "772ny44ny44ny" },
  { names := ["chakma", "cakm"], members := "69888n53yn18y", shared := "2534n10y1616n10y" },
  { names := ["cham"], members := "43520n55y9n14y2n10y2n4y" },
  { names := ["cherokee", "cher"],
    members := "5024n86y2n6y38770n80y",
    shared := "768n3yny6n2y22n2y11n2y" },
  { names := ["chorasmian", "chrs"], members := "69552n28y" },
  { names := ["coptic", "copt", "qaac"],
    members := "994n14y10384n116y5n7y",
    shared := "183ny584ny3n2yny65496n28y" },
  { names := ["cuneiform", "xsux"], members := "73728n922y102n111yn5y11n196y" },
  { names := ["cypriot", "cprt"],
    members := "67584n6y2nyn44yn2y3ny2ny",
    shared := "65792n3y4n45y3n9y" },
  { names := ["cyprominoan", "cpmn"], members := "77712n99y", shared := "65792n2y" },
  { names := ["cyrillic", "cyrl"],
    members := "1024n133y2n169y5968n11y160ny76ny4199n32y30784n96y22414n2y57856n62y33ny",
    shared := "700ny67n3ynynyny2ny5ny371n2y6513ny4170ny" },
  { names := ["deseret", "dsrt"], members := "66560n80y" },
  { names := ["devanagari", "deva"],
    members := "2304n81y4n15y2n26y40800n32y29184n10y",
    shared := "700ny1684n2y17n2y4970n39yn2y1014ny34623n10y" },
  { names := ["divesakuru", "diak"], members := "71936n7y2ny2n8yn2yn30yn2y2n12y9n10y" },
  { names := ["dogra", "dogr"], members := "71680n60y", shared := "2404n12y40640n10y" },
  { names := ["duployan", "dupl"],
    members := "113664n107y5n13y3n9y7n10y2n4y",
    shared := "183ny591n2yny24n2y113019n4y" },
  { names := ["egyptianhieroglyphs", "egyp"], members := "77824n1110y10n3995y" },
  { names := ["elbasan", "elba"], members := "66816n40y", shared := "183ny589ny" },
  { names := ["elymaic", "elym"], members := "69600n23y" },
  { names := ["ethiopic", "ethi"],
    members := String.join [
        "4608n73yn4y2n7ynyn4y2n41yn4y2n33yn4y2n7ynyn4y2n15yn57yn4y2n67y2n32y3n26y6630n23y9n7yn7",
        "yn7yn7yn7yn7yn7yn7y32034n6y2n6y2n6y9n7yn7y81073n7yn4yn2yn15y"],
    shared := "782ny" },
  { names := ["garay", "gara"], members := "68928n38y3n29y8n2y" },
  { names := ["georgian", "geor"],
    members := "4256n38yny5ny2n43yn4y2960n43y2n3y4160n38yny5ny",
    shared := "183ny4163ny" },
  { names := ["glagolitic", "glag"],
    members := "11264n96y111520n7yn17y2n7yn2yn5y",
    shared := "183ny587nyny382ny2ny10683ny30763ny" },
  { names := ["gothic", "goth"], members := "66352n27y", shared := "183ny588n2y2ny40ny" },
  { names := ["grantha", "gran"],
    members := "70400n4yn8y2n2y2n22yn7yn2yn5y2n9y2n2y2n3y2ny6ny5n7y2n7y3n5y",
    shared := "2385n2y17n2y640n14y4316nyn2y30n3y3n2y1014ny62026ny3220n2yny" },
  { names := ["greek", "grek"],
    members := String.join [
        "880n4yn3y2n4yny4nynyn3ynyn20yn63y14n16y6438n5y50n5y4n5y84ny320n22y2n6y2n38y2n6y2n8ynyn",
        "ynyn31y2n53yn15yn14y2n6yn19y2n3yn9y295ny35390ny21978n79y17ny53343n70y"],
    shared := "183ny584n2y2nynyny10ny46ny2ny6778n2y" },
  { names := ["gujarati", "gujr"],
    members := "2689n3yn9yn3yn22yn7yn2yn5y2n10yn3yn3y2ny15n4y2n12y7n7y",
    shared := "2385n2y17n2y40650n10y" },
  { names := ["gunjalagondi", "gong"],
    members := "73056n6yn2yn37yn2yn6y7n10y",
    shared := "183ny2220n2y" },
  { names := ["gurmukhi", "guru"],
    members := "2561n3yn6y4n2y2n22yn7yn2yn2yn2y2nyn5y4n2y2n3y3ny7n4yny7n17y",
    shared := "2385n2y17n2y40650n10y" },
  { names := ["gurungkhema", "gukh"], members := "90368n58y" },
  { names := ["hangul", "hang"],
    members := String.join [
        "4352n256y7726n2y257n94y113n31y65n31y30433n29y643n11172y12n23y4n49y10148n31y3n6y2n6y2n6",
        "y2n3y"],
    shared := "12289n3y4n10yn13y16ny6ny195ny52553n2y282n5y" },
  { names := ["hani", "han"],
    members := String.join [
        "11904n26yn89y12n214y47nyny25n9y14n4y964n6592y64n20992y22784n366y2n106y29960n2y12n2y368",
        "78n42720y32n4154y6n222y2n5762y14n7473y15n622y2466n542y1506n4939y5n4192y"],
    shared := String.join [
        "183ny12105n3y2nyn10yn13y10n4y2ny6ny4n4y187ny148n16y32n36y60n40y56n49y15n12y51ny88n25y1",
        "0n5y96n31y29441n8y22333n2y282n5y54266n18y7902n2y"] },
  { names := ["hanifirohingya", "rohg"],
    members := "68864n40y8n10y",
    shared := "1548ny14ny3ny32ny147ny" },
  { names := ["hanunoo", "hano"], members := "5920n21y", shared := "5941n2y" },
  { names := ["hatran", "hatr"], members := "67808n19yn2y5n5y" },
  { names := ["hebrew", "hebr"],
    members := "1425n55y8n27y4n6y62760n26yn5ynyn2yn2yn10y",
    shared := "775n2y" },
  { names := ["hiragana", "hira"],
    members := "12353n86y6n3y98145n287y18ny29n3y16557ny",
    shared := "12289n3y4n10yn13y16n6yny4n2y91n4y3ny90n2y52552n2y282n5y10ny45n2y" },
  { names := ["imperialaramaic", "armi"], members := "67648n22yn9y" },
  { names := ["inscriptionalpahlavi", "phli"], members := "68448n19y5n8y" },
  { names := ["inscriptionalparthian", "prti"], members := "68416n22y2n8y" },
  { names := ["javanese", "java"], members := "43392n78y2n10y4n2y", shared := "43471ny" },
  { names := ["kaithi", "kthi"], members := "69760n67y10ny", shared := "2406n10y40640n10y" },
  { names := ["kannada", "knda"],
    members := "3200n13yn3yn23yn10yn5y2n9yn3yn4y7n2y6n2yn4y2n10yn3y",
    shared := "2385n2y17n2y4970nyny7ny23nyny35643n6y" },
  { names := ["katakana", "kana"],
    members := "12449n90y2n3y240n16y208n47yn88y52238n10yn45y45138n4yn7yn2yny287n3y50ny14n4y",
    shared := "773ny29ny11485n3y4n10yn13y16n6yny4n2y91n4y3ny90n2y52552n2y282n5y10ny45n2y" },
  { names := ["kawi"], members := "73472n17yn41y3n29y" },
  { names := ["kayahli", "kali"], members := "43264n46yny", shared := "43310ny" },
  { names := ["kharoshthi", "khar"], members := "68096n4yn2y5n8yn3yn29y2n3y4n10y7n9y" },
  { names := ["khitansmallscript", "kits"], members := "94180ny6939n470y41ny" },
  { names := ["khmer", "khmr"], members := "6016n94y2n10y6n10y486n32y" },
  { names := ["khojki", "khoj"], members := "70144n18yn47y", shared := "2790n10y40256n10y" },
  { names := ["khudawadi", "sind"], members := "70320n59y5n10y", shared := "2404n2y40650n10y" },
  { names := ["kiratrai", "krai"], members := "93504n58y" },
  { names := ["laoo", "lao"], members := "3713n2ynyn5yn24ynyn23y2n5ynyn7yn10y2n4y" },
  { names := ["latin", "latn"],
    members := String.join [
        "65n26y6n26y47ny15ny5n23yn31yn449y39n5y6683n38y6n49y5n4y5n13yn70y65n256y369ny13ny16n13y",
        "141n2y6ny27ny17n41y2775n32y31394n102y3n67y2n2ynyn8y21n14y816n43yn9yn4y20374n7y1050n26y",
        "6n26y2085n6yn42yn9y55109n31y6n6y"],
    shared := String.join [
        "183ny516ny10nyn3yny9nyny38n15yn2yny12ny2n3y7n2yn2y38ny5ny4n13y277n2y1226n2y1960ny3891n",
        "y192ny34319n8y550ny"] },
  { names := ["lepcha", "lepc"], members := "7168n56y3n15y3n3y" },
  { names := ["limbu", "limb"], members := "6400n31yn12y4n12y4ny3n12y", shared := "2405ny" },
  { names := ["lineara", "lina"], members := "67072n311y9n22y10n8y", shared := "65799n45y" },
  { names := ["linearb", "linb"],
    members := "65536n12yn26yn19yn2yn15y2n14y34n123y",
    shared := "65792n3y4n45y3n9y" },
  { names := ["lisu"], members := "42192n48y31408ny", shared := "700ny16ny" },
  { names := ["lycian", "lyci"], members := "66176n29y" },
  { names := ["lydian", "lydi"], members := "67872n26y5ny", shared := "183ny" },
  { names := ["mahajani", "mahj"], members := "69968n39y", shared := "183ny2220n12y40640n10y" },
  { names := ["makasar", "maka"], members := "73440n25y" },
  { names := ["malayalam", "mlym"],
    members := "3328n13yn3yn51yn3yn6y4n16y2n26y",
    shared := "2385n2y17n2y4980ny35669n3y" },
  { names := ["mandaic", "mand"], members := "2112n28y2ny", shared := "1600ny" },
  { names := ["manichaean", "mani"], members := "68288n39y4n12y", shared := "1600ny" },
  { names := ["marchen", "marc"], members := "72816n32y2n22yn14y" },
  { names := ["masaramgondi", "gonm"],
    members := "72960n7yn2yn44y3nyn2yn9y8n10y",
    shared := "2404n2y" },
  { names := ["medefaidrin", "medf"], members := "93760n91y" },
  { names := ["meeteimayek", "mtei"], members := "43744n23y201n46y2n10y" },
  { names := ["mendekikakui", "mend"], members := "124928n197y2n16y" },
  { names := ["meroiticcursive", "merc"], members := "68000n24y4n20y2n46y" },
  { names := ["meroitichieroglyphs", "mero"], members := "67968n32y" },
  { names := ["modi"], members := "71168n69y11n10y", shared := "43056n10y" },
  { names := ["mongolian", "mong"],
    members := "6144n2y2nyn20y6n89y7n43y64949n13y",
    shared := "6146n2yny2089ny" },
  { names := ["mroo", "mro"], members := "92736n31yn10y4n2y" },
  { names := ["multani", "mult"], members := "70272n7ynyn4yn15yn11y", shared := "2662n10y" },
  { names := ["myanmar", "mymr"],
    members := "4096n160y39232n31y97n32y27728n20y",
    shared := "43310ny" },
  { names := ["nabataean", "nbat"], members := "67712n31y8n9y" },
  { names := ["nagmundari", "nagm"], members := "124112n42y" },
  { names := ["nandinagari", "nand"],
    members := "72096n8y2n46y2n11y",
    shared := "2404n2y896n10y4089ny8ny7ny35637n6y" },
  { names := ["newa"], members := "70656n92yn5y" },
  { names := ["newtailue", "talu"], members := "6528n44y4n26y6n11y3n2y" },
  { names := ["nkoo", "nko"], members := "1984n59y2n3y", shared := "1548ny14ny3ny63262n2y" },
  { names := ["nushu", "nshu"], members := "94177ny16782n396y" },
  { names := ["nyiakengpuachuehmong", "hmnp"], members := "123136n45y3n14y2n10y4n2y" },
  { names := ["ogham", "ogam"], members := "5760n29y" },
  { names := ["olchiki", "olck"], members := "7248n48y" },
  { names := ["oldhungarian", "hung"], members := "68736n51y13n51y7n6y" },
  { names := ["olditalic", "ital"], members := "66304n36y9n3y" },
  { names := ["oldnortharabian", "narb"], members := "68224n32y" },
  { names := ["oldpermic", "perm"], members := "66384n43y", shared := "183ny584ny5n3y10ny367ny" },
  { names := ["oldpersian", "xpeo"], members := "66464n36y4n14y" },
  { names := ["oldsogdian", "sogo"], members := "69376n40y" },
  { names := ["oldsoutharabian", "sarb"], members := "68192n32y" },
  { names := ["oldturkic", "orkh"], members := "68608n73y" },
  { names := ["olduyghur", "ougr"], members := "69488n26y", shared := "1600ny66737ny" },
  { names := ["olonal", "onao"], members := "124368n43y4ny" },
  { names := ["oriya", "orya"],
    members := "2817n3yn8y2n2y2n22yn7yn2yn5y2n9y2n2y2n3y7n3y4n2yn5y2n18y",
    shared := "2385n2y17n2y4980ny23ny" },
  { names := ["osage", "osge"], members := "66736n36y4n36y", shared := "769ny2ny6ny76ny" },
  { names := ["osmanya", "osma"], members := "66688n30y2n10y" },
  { names := ["pahawhhmong", "hmng"], members := "92928n70y10n10yn7yn21y5n19y" },
  { names := ["palmyrene", "palm"], members := "67680n32y" },
  { names := ["paucinhau", "pauc"], members := "72384n57y" },
  { names := ["phagspa", "phag"], members := "43072n56y", shared := "6146n2yny" },
  { names := ["phoenician", "phnx"], members := "67840n28y3ny" },
  { names := ["miao", "plrd"], members := "93952n75y4n57y7n17y" },
  { names := ["psalterpahlavi", "phlp"], members := "68480n18y7n4y12n7y", shared := "1600ny" },
  { names := ["rejang", "rjng"], members := "43312n36y11ny" },
  { names := ["runic", "runr"], members := "5792n75y3n11y" },
  { names := ["samaritan", "samr"], members := "2048n46y2n15y" },
  { names := ["saurashtra", "saur"], members := "43136n70y8n12y" },
  { names := ["sharada", "shrd"], members := "70016n96y", shared := "2385ny4997nyny2n2y2ny" },
  { names := ["shavian", "shaw"], members := "66640n48y", shared := "183ny" },
  { names := ["siddham", "sidd"], members := "71040n54y2n38y" },
  { names := ["signwriting", "sgnw"], members := "120832n652y15n5yn15y" },
  { names := ["sinhala", "sinh"],
    members := "3457n3yn18y3n24yn9yny2n7y3ny4n6ynyn8y6n10y2n3y66540n20y",
    shared := "2404n2y" },
  { names := ["sogdian", "sogd"], members := "69424n42y", shared := "1600ny" },
  { names := ["sorasompeng", "sora"], members := "69840n25y7n10y" },
  { names := ["soyombo", "soyo"], members := "72272n83y" },
  { names := ["sundanese", "sund"], members := "7040n64y256n8y" },
  { names := ["sunuwar", "sunu"],
    members := "72640n34y14n10y",
    shared := "768n2yny9ny2ny28ny3ny" },
  { names := ["sylotinagri", "sylo"], members := "43008n45y", shared := "2404n2y128n10y" },
  { names := ["syriac", "syrc"],
    members := "1792n14yn60y2n3y272n11y",
    shared := "771n2y2n2yny21ny2n3y7n2yny731ny14n2y2ny32ny10n11y26ny6023nyny" },
  { names := ["tagalog", "tglg"], members := "5888n22y9ny", shared := "5941n2y" },
  { names := ["tagbanwa", "tagb"], members := "5984n13yn3yn2y", shared := "5941n2y" },
  { names := ["taile", "tale"], members := "6480n30y2n5y", shared := "768n2y5n2y3ny3379n10y" },
  { names := ["taitham", "lana"], members := "6688n63yn29y2n11y6n10y6n14y" },
  { names := ["taiviet", "tavt"], members := "43648n67y24n5y" },
  { names := ["takri", "takr"], members := "71296n58y6n10y", shared := "2404n2y40650n10y" },
  { names := ["tamil", "taml"],
    members := "2946n2yn6y3n3yn4y3n2ynyn2y3n2y3n3y3n12y4n5y3n3yn4y2ny6ny14n21y70597n50y13ny",
    shared := "2385n2y17n2y4980ny35864ny27149nyny55n2y" },
  { names := ["tangsa", "tnsa"], members := "92784n79yn10y" },
  { names := ["tangut", "tang"], members := "94176ny31n6136y8n768y512n9y" },
  { names := ["telugu", "telu"],
    members := "3072n13yn3yn23yn16y2n9yn3yn4y7n2yn3y2ny2n4y2n10y7n9y",
    shared := "2385n2y17n2y4980ny23ny" },
  { names := ["thaana", "thaa"],
    members := "1920n50y",
    shared := "1548ny14n2y2ny64n10y63368ny10ny" },
  { names := ["thai"], members := "3585n58y5n28y", shared := "700ny26ny43ny45ny" },
  { names := ["tibetan", "tibt"], members := "3840n72yn36y4n39yn36yn15yn7y4n2y" },
  { names := ["tifinagh", "tfng"], members := "11568n56y7n2y14ny", shared := "770nyny2nyny" },
  { names := ["tirhuta", "tirh"],
    members := "70784n72y8n10y",
    shared := "2385n2y17n2y5004ny35645n10y" },
  { names := ["todhri", "todr"], members := "67008n52y", shared := "769ny2ny2ny9nyny74ny" },
  { names := ["toto"], members := "123536n31y", shared := "700ny" },
  { names := ["tulutigalari", "tutg"], members := "70528n10yny2nyn38yn10yny2nyn4yn10yn2y8n2y" },
  { names := ["ugaritic", "ugar"], members := "66432n30yny" },
  { names := ["vaii", "vai"], members := "42240n300y" },
  { names := ["vithkuqi", "vith"], members := "66928n11yn15yn7yn2yn11yn15yn7yn2y" },
  { names := ["wancho", "wcho"], members := "123584n58y5ny" },
  { names := ["warangciti", "wara"], members := "71840n83y12ny" },
  { names := ["yezidi", "yezi"], members := "69248n42yn3y2n2y", shared := "1548ny14ny3ny64n10y" },
  { names := ["yiii", "yi"],
    members := "40960n1165y3n55y",
    shared := "12289n2y5n10y2n8y223ny52837n5y" },
  { names := ["zanabazarsquare", "zanb"], members := "72192n72y" }]

/-- The characters that many scripts use. -/
def commonText : String := String.join [
    "65y26n6y26n47yn15yn5y23ny31ny449n39y5n5y2n20y116ny9ny6nyny637ny6ny14ny3ny32ny156ny516ny129n",
    "2y1241ny405n4y290ny1519n3y71n2y203n2yny1229ny13ny7n4yn6yn3y2ny773n12y2n87yn11y3n11yn15y17n3",
    "3y63n38yn3y2n6yn27yn17y41n3y4n666y22n11y21n928y256n628y2n32yn105y512n94y402n21ynyn25y15n8y4",
    "n4y91n2y3ny90n2y147n16y32n38y9ny48n64y31n81y47ny88n168y6592n64y22784n34y102n3y165n10y244ny1",
    "60ny395ny14n2y20946n2y208n10y22n35yn19yn4y147nyn32y26n6y26n11y10ny45n2y64n7yn7y10n5y258n3y4",
    "n45y3n9y80n13y51n45y228n27y47524n4y3932n250y6n436y156n116y60n246y10n39y2n62y3n17y8n2y7n30y4",
    "n61y213n20y12n20y12n87y9n25y135n85yn71yn2y2ny2n2y2n4yn12ynyn7yn65yn4y2n8yn7yn28yn4yn5yny3n7",
    "yn340y2n292y2n50y5233n68y76n61y706n44y4n100y12n15y2n15yn15yn37y10n174y56n26yn2y13n44y4n9y7n",
    "2y14n6y154n984y4n17y3n13y3n119y4n95y6n12y4ny15n12y4n56y8n10y6n40y8n30y2n12y4n2y62n340y12n14",
    "y2n13y3n10y5n56y7n15y2n11y6n9y7n147yn102y787463ny30n96y"]

/-- The marks that belong to the script of the character in front of them. -/
def inheritedText : String := String.join [
    "768n112y277n2y452n11y26ny736n4y4443n31y513n3yn13yn7y4ny6ny3n2y198n64y524n2y194n33y3897n4y10",
    "7n2y52581n16y16n14y975ny226ny4186ny48068n46y2n23y544n3y17n8y2n7y30n4y798546n240y"]

/-- Characters that many scripts use: the plain names and the characters of what holds them. -/
def common : Script := { names := ["common", "zyyy"], members := commonText }

/-- Marks without a script of their own. -/
def inherited : Script := { names := ["inherited", "zinh", "qaai"], members := inheritedText }

def ofName? (name : String) : Option Script :=
  (common :: inherited :: table).find? fun script => script.names.contains name

def characters (script : Script) : CharacterSet :=
  .ofText script.members

/-- The characters that some scripts use with others. -/
def sharedCharacters : CharacterSet :=
  .unionOf (table.map fun script => .ofText script.shared)

/--
The characters that a script uses.  What some scripts share no longer counts among
those of all scripts.
-/
def usedCharacters (script : Script) : CharacterSet :=
  if script = common ∨ script = inherited then
    script.characters.difference sharedCharacters
  else
    script.characters.union (.ofText script.shared)

end Script

end ParserGraph.Text

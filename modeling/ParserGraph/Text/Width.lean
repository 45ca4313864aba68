import ParserGraph.Text.CharacterSet

/-!
# Widths of characters

The number of columns that a character takes where all columns are equally wide:
none for what is not shown or joins the character in front, two for East Asian
characters and pictures, one for most others.
-/

namespace ParserGraph.Text

/-- Runs of characters of no column, marked z, of one, two and three columns, marked o, w and t. -/
def widthText : String := String.join [
    "173oz594o112z275o7z263o45zozo2zo2zoz61oz10o11zoz46o21z16oz101o7z2o6z2o2zo4z33ozoz30o27z91o1",
    "1z58o9z9oz24o4zo9zo3zo5z43o3z52o2z5o9z42o57z55ozoz4o8z4oz3o7z10o2z29oz58ozoz2o4z8oz9oz10o2z",
    "26oz2o2z57oz4o2z4o2z2o3z3oz30o2z3oz11o2z57oz4o5zo2z4oz20o2z22o6zoz58ozo2zo4z8oz7o3z10o2z30o",
    "z59ozoz12oz9oz40oz3oz55ozo3z5o3zo4z7o2z11o2z29oz58oz2o2zoz3o3zo4z7o2z11o2z28o2z57o2zoz2o4z8",
    "oz9oz10o2z29oz72oz4oz2o3zoz8oz81oz2o7z12o8z98oz2o9z11o7z73o2z27ozozoz55o14zo5zo2z5o11zo36z9",
    "oz102o4zo6zo2z2o2z25o2z4o3z16o4z13oz2o2z6oz15oz98o96w160z349o3z946o4z28o3z29o2z30o2z48ow15o",
    "2zo7z8oz2o11z4ot4oz45o5z117o2z34oz118o3z4o2z9oz6o3z219o2z2oz58ozo7zozoz2o8z6o10z2oz48o31z49",
    "o4z48o10z4o3z38o9z12o2z32o4z2o6z56ozo2z3ozo5z56o8z2o2z152o3zo13zo7z4oz6oz3o2z198o64z523o5z2",
    "6o5z49o16z96o33z553o2w13o2w190o4w3ow2ow521o2w21o2w26o8w16o12w43ow10o6w3ow13ow8o2w17o2w5o2w8",
    "ow5ow21ow7o2wow4ow2ow7ow4o2w28ow35owow4o3wow61o3w24ow14ow859o2w51ow4ow409o3z238o32z128o26wo",
    "89w12o214w26o58w6z15w2o86w2o2z101w5o43wo51wz42wo86w9o48wo40w8o29245w3o55w424o4zo10z32o2z80o",
    "2z272oz3oz4oz25o2z5oz151o2z26o18z8oz4oz38o8z25o11zoz12o29w3o3z48oz2o4z2o2z2oz36oz67o6z2o2z2",
    "o2z12oz8oz47oz51ozo3z2o2z5o2zoz42o2z8oz238oz2oz4oz18o11172w12o23z4o49z8452o512w30oz737o16z1",
    "0w6o16z35wo19wo4w147ozo96w61o3z63o7w9o9z516oz226oz149o5z1670o3zo2z5o4z40o3z4oz165o2z573o4z6",
    "5o5z317o2z79o4z70o11z49o4z123oz54o15z41oz2o2z10o3z49o4z2o2z7oz61o3z36o5zo8z62oz12o2z52o9zoz",
    "8o4z2oz95o3z2o4z6oz2oz157oz3o8z21o2z57o2zozoz12oz9oz14o7z3o5z67oz2o6zoz2ozo3z4o3zoz14o2z85o",
    "8z2o3zoz23oz81oz2o6zoz2ozo2zo2z235oz2o4z6o2zo2z27o2z85o8z2ozo2z106ozoz2o8z101ozoz2o4zo5z259",
    "o9zo2z245oz10o4z4oz144o4z2o2z4oz32o10z40o6z2o4z8oz9o6z2o3z46o13zo2z406o7zo6zoz82o22z2o7zo2z",
    "o2z122o6z3ozo2zo7zoz72o2z3ozoz347o2z11o2z52o5z5o3z23oz5349oz6o15z11464o12z3o3z2496o5z59o7z1",
    "048oz63o4z77o4wz11o2z14o6136w8o1238w41o10w8935o4wo7wo2wo291w15ow29o3w2ow14o4w8o396w2465o2zo",
    "4z4700o46z2o23z542o5z3o22z2o7z30o4z148o3z187o87w9o23w1673o55z4o50z8oz14oz22o5zo15z1360o7zo1",
    "7z2o7zo2zo5z100oz160o7z375oz61o4z508o4z254o2z736o7z109o7z1721ow202ow190ow2o10w101o3w13o44w4",
    "o9w7o2w14o6w154o33w12o9wo70wo22w12o43w4o5w12o17w3ow3o71wowo187w2o63w13o4wo24w18ow26o2w13ow8",
    "6o85w48o70w6ow3o3w2o3w4o4w11o2w7o9w227o12w4ow283o47wo10wo185w112o13w3o10w5o56w7o15w2o11w6o9",
    "w1287o65534w2o65534w655362o4096z192512o"]

def widthRuns : List (Nat × Char) := Runs.ofText widthText

/-- The number of columns of a character; ASCII takes one each. -/
def width (character : Char) : Nat :=
  if character.toNat < 0x80 then
    1
  else
    match Runs.markAt? widthRuns character.toNat with
    | some 'z' => 0
    | some 'w' => 2
    | some 't' => 3
    | _ => 1

end ParserGraph.Text

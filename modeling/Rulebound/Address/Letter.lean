import Rulebound.Text.Character

/-!
# Letters of international names

The characters that stand in the parts of an international name, and what is known of them: in
which direction they are written, and which of them make one character together.
-/

namespace Rulebound.Address

/-! ## Which characters -/

/-- The characters of words and the marks that do not stand in names: some have another form that
does, some are numbers but not figures, and some stand only next to certain others. -/
def formedRanges : List (Nat × Nat) := [
  (170, 190), (307, 307), (320, 320), (329, 329), (383, 383), (454, 460), (499, 499), (688, 696),
  (736, 740), (832, 833), (835, 837), (847, 847), (884, 884), (890, 890), (976, 982), (1008, 1010),
  (1013, 1013), (1160, 1161), (1415, 1415), (1600, 1600), (1632, 1641), (1653, 1656), (1776, 1785),
  (2042, 2042), (2392, 2399), (2524, 2527), (2548, 2553), (2611, 2611), (2614, 2614), (2649, 2651),
  (2654, 2654), (2908, 2909), (2930, 2935), (3056, 3058), (3192, 3198), (3416, 3422), (3440, 3448),
  (3635, 3635), (3763, 3763), (3804, 3805), (3882, 3891), (3907, 3907), (3917, 3917), (3922, 3922),
  (3927, 3927), (3932, 3932), (3945, 3945), (3955, 3955), (3957, 3961), (3969, 3969), (3987, 3987),
  (3997, 3997), (4002, 4002), (4007, 4007), (4012, 4012), (4025, 4025), (4348, 4348), (4352, 4607),
  (4969, 4988), (5112, 5117), (5870, 5872), (6068, 6069), (6128, 6159), (6618, 6618), (6846, 6846),
  (7296, 7304), (7468, 7470), (7472, 7482), (7484, 7501), (7503, 7530), (7544, 7544), (7579, 7615),
  (7834, 7835), (8049, 8049), (8051, 8051), (8053, 8053), (8055, 8055), (8057, 8057), (8059, 8059),
  (8061, 8103), (8114, 8116), (8119, 8132), (8135, 8135), (8147, 8147), (8163, 8163), (8178, 8180),
  (8183, 8521), (8528, 8578), (8581, 10131), (11388, 11389), (11517, 11517), (11631, 11631),
  (12321, 12329), (12334, 12347), (12447, 12447), (12543, 12543), (12593, 12693), (12832, 12991),
  (42608, 42610), (42652, 42653), (42726, 42735), (42864, 42864), (42994, 42996), (43000, 43001),
  (43056, 43061), (43360, 43388), (43868, 43871), (43881, 43967), (55216, 64013), (64016, 64016),
  (64018, 64018), (64021, 64030), (64032, 64032), (64034, 64034), (64037, 64038), (64042, 64285),
  (64287, 65039), (65136, 65138), (65140, 65500), (65799, 65931), (66273, 66299), (66336, 66339),
  (66369, 66369), (66378, 66378), (66513, 66517), (67457, 67514), (67672, 67679), (67705, 67711),
  (67751, 67759), (67835, 67839), (67862, 67867), (68028, 68029), (68032, 68095), (68160, 68168),
  (68221, 68222), (68253, 68255), (68331, 68335), (68440, 68447), (68472, 68479), (68521, 68527),
  (68858, 68863), (69216, 69246), (69405, 69414), (69457, 69460), (69573, 69579), (69714, 69733),
  (70113, 70132), (71482, 71483), (71914, 71922), (72794, 72812), (73664, 73684), (74752, 74862),
  (93019, 93025), (93824, 93846), (119141, 120831), (125127, 125135), (126065, 130041),
  (194560, 195101), (917760, 917999)]

def wordSigns : List Nat := [0x6FD, 0x6FE, 0xF0B]

/-- Whether a character in lower case may stand anywhere in a part of an international name. -/
def isLetter (c : Char) : Bool :=
  if c.toNat < 128 then c.isLower || c.isDigit || c == '-'
  else
    ((Text.isWord c || Text.isCombining c) && !Text.inRanges formedRanges c) ||
      wordSigns.contains c.toNat

/-! ## Direction -/

def leftwardRanges : List (Nat × Nat) := [
  (1488, 1524), (1568, 1610), (1646, 1647), (1649, 1749), (1765, 1766), (1774, 1775), (1786, 1808),
  (1810, 1839), (1869, 1957), (1969, 2026), (2036, 2037), (2048, 2069), (2074, 2074), (2084, 2084),
  (2088, 2088), (2112, 2136), (2144, 2190), (2208, 2249), (65139, 65139), (67584, 68096),
  (68112, 68149), (68192, 68324), (68352, 68899), (69248, 69289), (69296, 69445), (69488, 69505),
  (69552, 69622), (124928, 125124), (125218, 125251), (125259, 125273)]

def isLeftward (c : Char) : Bool :=
  Text.inRanges leftwardRanges c

/-- Whether a character is a figure of the numbers that are written from left to right between
letters of the other direction. -/
def isPlainFigure (c : Char) : Bool :=
  Text.inRanges [(0x30, 0x39), (0x6F0, 0x6F9)] c

/-- Whether a character is a figure of the numbers of Arabic script. -/
def isArabicFigure (c : Char) : Bool :=
  Text.inRanges [(0x660, 0x669), (0x10D30, 0x10D39)] c

/-! ## Joining -/

/-- The marks that take the vowel from the letter before them. -/
def silencers : List Nat := [
  2381, 2509, 2637, 2765, 2893, 3021, 3149, 3277, 3387, 3388, 3405, 3530, 3642, 3770, 3972, 4153,
  4154, 5908, 5909, 5940, 6098, 6752, 6980, 7082, 7083, 7154, 7155, 11647, 43014, 43052, 43204,
  43347, 43456, 43766, 44013, 68159, 69702, 69744, 69759, 69817, 69939, 69940, 70080, 70197, 70378,
  70477, 70722, 70850, 71103, 71231, 71350, 71467, 71737, 71997, 71998, 72160, 72244, 72263, 72345,
  72767, 73028, 73029, 73111]

def compositions : List (Nat × List Nat) := [
  (768, [97, 101, 105, 110, 111, 117, 119, 121, 226, 234, 244, 252, 259, 275, 333, 417, 432, 945,
    949, 951, 953, 959, 965, 969, 970, 971, 1077, 1080, 7936, 7937, 7952, 7953, 7968, 7969, 7984,
    7985, 8000, 8001, 8016, 8017, 8032, 8033]),
  (769, [97, 99, 101, 103, 105, 107, 108, 109, 110, 111, 112, 114, 115, 117, 119, 121, 122, 226,
    229, 230, 231, 234, 239, 244, 245, 248, 252, 259, 275, 333, 361, 417, 432, 945, 949, 951, 953,
    959, 965, 969, 970, 971, 1075, 1082, 7936, 7937, 7952, 7953, 7968, 7969, 7984, 7985, 8000,
    8001, 8016, 8017, 8032, 8033]),
  (770, [97, 99, 101, 103, 104, 105, 106, 111, 115, 117, 119, 121, 122, 7841, 7865, 7885]),
  (771, [97, 101, 105, 110, 111, 117, 118, 121, 226, 234, 244, 259, 417, 432]),
  (772, [97, 101, 103, 105, 111, 117, 121, 228, 230, 245, 246, 252, 491, 551, 559, 945, 953, 965,
    1080, 1091, 7735, 7771]),
  (774, [97, 101, 103, 105, 111, 117, 553, 945, 953, 965, 1072, 1077, 1078, 1080, 1091, 7841]),
  (775, [97, 98, 99, 100, 101, 102, 103, 104, 109, 110, 111, 112, 114, 115, 116, 119, 120, 121,
    122, 347, 353, 7779]),
  (776, [97, 101, 104, 105, 111, 116, 117, 119, 120, 121, 245, 363, 953, 965, 1072, 1077, 1078,
    1079, 1080, 1086, 1091, 1095, 1099, 1101, 1110, 1241, 1257]),
  (777, [97, 101, 105, 111, 117, 121, 226, 234, 244, 259, 417, 432]),
  (778, [97, 117, 119, 121]),
  (779, [111, 117, 1091]),
  (780, [97, 99, 100, 101, 103, 104, 105, 106, 107, 108, 110, 111, 114, 115, 116, 117, 122, 252,
    658]),
  (783, [97, 101, 105, 111, 114, 117, 1141]),
  (785, [97, 101, 105, 111, 114, 117]),
  (787, [945, 949, 951, 953, 959, 961, 965, 969]),
  (788, [945, 949, 951, 953, 959, 961, 965, 969]),
  (795, [111, 117]),
  (803, [97, 98, 100, 101, 104, 105, 107, 108, 109, 110, 111, 114, 115, 116, 117, 118, 119, 121,
    122, 417, 432]),
  (804, [117]),
  (805, [97]),
  (806, [115, 116]),
  (807, [99, 100, 101, 103, 104, 107, 108, 110, 114, 115, 116]),
  (808, [97, 101, 105, 111, 117]),
  (813, [100, 101, 108, 110, 116, 117]),
  (814, [104]),
  (816, [101, 105, 117]),
  (817, [98, 100, 104, 107, 108, 110, 114, 116, 122]),
  (834, [945, 951, 953, 965, 969, 970, 971, 7936, 7937, 7968, 7969, 7984, 7985, 8016, 8017, 8032,
    8033]),
  (1619, [1575]),
  (1620, [1575, 1608, 1610, 1729, 1746, 1749]),
  (1621, [1575]),
  (2364, [2344, 2352, 2355]),
  (2494, [2503]),
  (2519, [2503]),
  (2878, [2887]),
  (2902, [2887]),
  (2903, [2887]),
  (3006, [3014, 3015]),
  (3031, [2962, 3014]),
  (3158, [3142]),
  (3266, [3270]),
  (3285, [3263, 3270, 3274]),
  (3286, [3270]),
  (3390, [3398, 3399]),
  (3415, [3398]),
  (3530, [3545, 3548]),
  (3535, [3545]),
  (3551, [3545]),
  (4142, [4133]),
  (6965, [6917, 6919, 6921, 6923, 6925, 6929, 6970, 6972, 6974, 6975, 6978]),
  (12441, [12358, 12363, 12365, 12367, 12369, 12371, 12373, 12375, 12377, 12379, 12381, 12383,
    12385, 12388, 12390, 12392, 12399, 12402, 12405, 12408, 12411, 12445, 12454, 12459, 12461,
    12463, 12465, 12467, 12469, 12471, 12473, 12475, 12477, 12479, 12481, 12484, 12486, 12488,
    12495, 12498, 12501, 12504, 12507, 12527, 12528, 12529, 12530, 12541]),
  (12442, [12399, 12402, 12405, 12408, 12411, 12495, 12498, 12501, 12504, 12507]),
  (69818, [69785, 69787, 69797]),
  (69927, [69937, 69938]),
  (70462, [70471]),
  (70487, [70471]),
  (70832, [70841]),
  (70842, [70841]),
  (70845, [70841]),
  (71087, [71096, 71097]),
  (71984, [71989])]

def composes (c mark : Char) : Bool :=
  ((compositions.lookup mark.toNat).getD []).contains c.toNat

end Rulebound.Address

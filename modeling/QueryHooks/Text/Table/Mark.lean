/-!
Combining marks, Unicode 14, among the characters that the name of a host can hold.
-/

namespace QueryHooks.Text.Table

/-- Combining marks, as inclusive ranges. -/
def marks : List (Nat × Nat) :=
  [(768, 831), (834, 834), (838, 846), (848, 879), (1155, 1159), (1425, 1469), (1471, 1471),
    (1473, 1474), (1476, 1477), (1479, 1479), (1552, 1562), (1611, 1631), (1648, 1648),
    (1750, 1756), (1759, 1764), (1767, 1768), (1770, 1773), (1809, 1809), (1840, 1866),
    (1958, 1968), (2027, 2035), (2045, 2045), (2070, 2073), (2075, 2083), (2085, 2087),
    (2089, 2093), (2137, 2139), (2200, 2207), (2250, 2273), (2275, 2307), (2362, 2364),
    (2366, 2383), (2385, 2391), (2402, 2403), (2433, 2435), (2492, 2492), (2494, 2500),
    (2503, 2504), (2507, 2509), (2519, 2519), (2530, 2531), (2558, 2558), (2561, 2563),
    (2620, 2620), (2622, 2626), (2631, 2632), (2635, 2637), (2641, 2641), (2672, 2673),
    (2677, 2677), (2689, 2691), (2748, 2748), (2750, 2757), (2759, 2761), (2763, 2765),
    (2786, 2787), (2810, 2815), (2817, 2819), (2876, 2876), (2878, 2884), (2887, 2888),
    (2891, 2893), (2901, 2903), (2914, 2915), (2946, 2946), (3006, 3010), (3014, 3016),
    (3018, 3021), (3031, 3031), (3072, 3076), (3132, 3132), (3134, 3140), (3142, 3144),
    (3146, 3149), (3157, 3158), (3170, 3171), (3201, 3203), (3260, 3260), (3262, 3268),
    (3270, 3272), (3274, 3277), (3285, 3286), (3298, 3299), (3328, 3331), (3387, 3388),
    (3390, 3396), (3398, 3400), (3402, 3405), (3415, 3415), (3426, 3427), (3457, 3459),
    (3530, 3530), (3535, 3540), (3542, 3542), (3544, 3551), (3570, 3571), (3633, 3633),
    (3636, 3642), (3655, 3662), (3761, 3761), (3764, 3772), (3784, 3789), (3864, 3865),
    (3893, 3893), (3895, 3895), (3897, 3897), (3902, 3903), (3953, 3954), (3956, 3956),
    (3962, 3968), (3970, 3972), (3974, 3975), (3981, 3986), (3988, 3991), (3993, 3996),
    (3998, 4001), (4003, 4006), (4008, 4011), (4013, 4024), (4026, 4028), (4038, 4038),
    (4139, 4158), (4182, 4185), (4190, 4192), (4194, 4196), (4199, 4205), (4209, 4212),
    (4226, 4237), (4239, 4239), (4250, 4253), (4957, 4959), (5906, 5909), (5938, 5940),
    (5970, 5971), (6002, 6003), (6070, 6099), (6109, 6109), (6277, 6278), (6313, 6313),
    (6432, 6443), (6448, 6459), (6679, 6683), (6741, 6750), (6752, 6780), (6783, 6783),
    (6832, 6845), (6847, 6862), (6912, 6916), (6964, 6980), (7019, 7027), (7040, 7042),
    (7073, 7085), (7142, 7155), (7204, 7223), (7376, 7378), (7380, 7400), (7405, 7405),
    (7412, 7412), (7415, 7417), (7616, 7679), (11503, 11505), (11647, 11647), (11744, 11775),
    (12330, 12333), (12441, 12442), (42607, 42607), (42612, 42621), (42654, 42655),
    (42736, 42737), (43010, 43010), (43014, 43014), (43019, 43019), (43043, 43047),
    (43052, 43052), (43136, 43137), (43188, 43205), (43232, 43249), (43263, 43263),
    (43302, 43309), (43335, 43347), (43392, 43395), (43443, 43456), (43493, 43493),
    (43561, 43574), (43587, 43587), (43596, 43597), (43643, 43645), (43696, 43696),
    (43698, 43700), (43703, 43704), (43710, 43711), (43713, 43713), (43755, 43759),
    (43765, 43766), (44003, 44010), (44012, 44013), (64286, 64286), (65056, 65071),
    (66045, 66045), (66272, 66272), (66422, 66426), (68097, 68099), (68101, 68102),
    (68108, 68111), (68152, 68154), (68159, 68159), (68325, 68326), (68900, 68903),
    (69291, 69292), (69446, 69456), (69506, 69509), (69632, 69634), (69688, 69702),
    (69744, 69744), (69747, 69748), (69759, 69762), (69808, 69818), (69826, 69826),
    (69888, 69890), (69927, 69940), (69957, 69958), (70003, 70003), (70016, 70018),
    (70067, 70080), (70089, 70092), (70094, 70095), (70188, 70199), (70206, 70206),
    (70367, 70378), (70400, 70403), (70459, 70460), (70462, 70468), (70471, 70472),
    (70475, 70477), (70487, 70487), (70498, 70499), (70502, 70508), (70512, 70516),
    (70709, 70726), (70750, 70750), (70832, 70851), (71087, 71093), (71096, 71104),
    (71132, 71133), (71216, 71232), (71339, 71351), (71453, 71467), (71724, 71738),
    (71984, 71989), (71991, 71992), (71995, 71998), (72000, 72000), (72002, 72003),
    (72145, 72151), (72154, 72160), (72164, 72164), (72193, 72202), (72243, 72249),
    (72251, 72254), (72263, 72263), (72273, 72283), (72330, 72345), (72751, 72758),
    (72760, 72767), (72850, 72871), (72873, 72886), (73009, 73014), (73018, 73018),
    (73020, 73021), (73023, 73029), (73031, 73031), (73098, 73102), (73104, 73105),
    (73107, 73111), (73459, 73462), (92912, 92916), (92976, 92982), (94031, 94031),
    (94033, 94087), (94095, 94098), (94180, 94180), (94192, 94193), (113821, 113822),
    (118528, 118573), (118576, 118598), (121344, 121398), (121403, 121452), (121461, 121461),
    (121476, 121476), (121499, 121503), (121505, 121519), (122880, 122886), (122888, 122904),
    (122907, 122913), (122915, 122916), (122918, 122922), (123184, 123190), (123566, 123566),
    (123628, 123631), (125136, 125142), (125252, 125258)]

/-- Marks that suppress a vowel, as inclusive ranges. -/
def vowelKillers : List (Nat × Nat) :=
  [(2381, 2381), (2509, 2509), (2637, 2637), (2765, 2765), (2893, 2893), (3021, 3021),
    (3149, 3149), (3277, 3277), (3387, 3388), (3405, 3405), (3530, 3530), (3642, 3642),
    (3770, 3770), (3972, 3972), (4153, 4154), (5908, 5909), (5940, 5940), (6098, 6098),
    (6752, 6752), (6980, 6980), (7082, 7083), (7154, 7155), (11647, 11647), (43014, 43014),
    (43052, 43052), (43204, 43204), (43347, 43347), (43456, 43456), (43766, 43766),
    (44013, 44013), (68159, 68159), (69702, 69702), (69744, 69744), (69759, 69759),
    (69817, 69817), (69939, 69940), (70080, 70080), (70197, 70197), (70378, 70378),
    (70477, 70477), (70722, 70722), (70850, 70850), (71103, 71103), (71231, 71231),
    (71350, 71350), (71467, 71467), (71737, 71737), (71997, 71998), (72160, 72160),
    (72244, 72244), (72263, 72263), (72345, 72345), (72767, 72767), (73028, 73029),
    (73111, 73111)]

/-- Code points, each with those before it with which it makes one character. -/
def compositions : List (Nat × List Nat) :=
  [(768, [97, 101, 105, 110, 111, 117, 119, 121, 226, 234, 244, 252, 259, 275, 333, 417, 432, 945,
    949, 951, 953, 959, 965, 969, 970, 971, 1077, 1080, 7936, 7937, 7952, 7953, 7968, 7969, 7984,
    7985, 8000, 8001, 8016, 8017, 8032, 8033]),
   (769, [97, 99, 101, 103, 105, 107, 108, 109, 110, 111, 112, 114, 115, 117, 119, 121, 122, 226,
    229, 230, 231, 234, 239, 244, 245, 248, 252, 259, 275, 333, 361, 417, 432, 945, 949, 951, 953,
    959, 965, 969, 970, 971, 1075, 1082, 7936, 7937, 7952, 7953, 7968, 7969, 7984, 7985, 8000,
    8001, 8016, 8017, 8032, 8033]),
   (770, [97, 99, 101, 103, 104, 105, 106, 111, 115, 117, 119, 121, 122, 7841, 7865, 7885]),
   (771, [97, 101, 105, 110, 111, 117, 118, 121, 226, 234, 244, 259, 417, 432]),
   (772, [97, 101, 103, 105, 111, 117, 121, 228, 230, 245, 246, 252, 491, 551, 559, 945, 953, 965,
    1080, 1091, 7735, 7771]),
   (774, [97, 101, 103, 105, 111, 117, 553, 945, 953, 965, 1072, 1077, 1078, 1080, 1091, 7841]),
   (775, [97, 98, 99, 100, 101, 102, 103, 104, 109, 110, 111, 112, 114, 115, 116, 119, 120, 121,
    122, 347, 353, 7779]),
   (776, [97, 101, 104, 105, 111, 116, 117, 119, 120, 121, 245, 363, 953, 965, 1072, 1077, 1078,
    1079, 1080, 1086, 1091, 1095, 1099, 1101, 1110, 1241, 1257]),
   (777, [97, 101, 105, 111, 117, 121, 226, 234, 244, 259, 417, 432]),
   (778, [97, 117, 119, 121]),
   (779, [111, 117, 1091]),
   (780, [97, 99, 100, 101, 103, 104, 105, 106, 107, 108, 110, 111, 114, 115, 116, 117, 122, 252,
    658]),
   (783, [97, 101, 105, 111, 114, 117, 1141]),
   (785, [97, 101, 105, 111, 114, 117]),
   (787, [945, 949, 951, 953, 959, 961, 965, 969]),
   (788, [945, 949, 951, 953, 959, 961, 965, 969]),
   (795, [111, 117]),
   (803, [97, 98, 100, 101, 104, 105, 107, 108, 109, 110, 111, 114, 115, 116, 117, 118, 119, 121,
    122, 417, 432]),
   (804, [117]),
   (805, [97]),
   (806, [115, 116]),
   (807, [99, 100, 101, 103, 104, 107, 108, 110, 114, 115, 116]),
   (808, [97, 101, 105, 111, 117]),
   (813, [100, 101, 108, 110, 116, 117]),
   (814, [104]),
   (816, [101, 105, 117]),
   (817, [98, 100, 104, 107, 108, 110, 114, 116, 122]),
   (834, [945, 951, 953, 965, 969, 970, 971, 7936, 7937, 7968, 7969, 7984, 7985, 8016, 8017, 8032,
    8033]),
   (1619, [1575]),
   (1620, [1575, 1608, 1610, 1729, 1746, 1749]),
   (1621, [1575]),
   (2364, [2344, 2352, 2355]),
   (2494, [2503]),
   (2519, [2503]),
   (2878, [2887]),
   (2902, [2887]),
   (2903, [2887]),
   (3006, [3014, 3015]),
   (3031, [2962, 3014]),
   (3158, [3142]),
   (3266, [3270]),
   (3285, [3263, 3270, 3274]),
   (3286, [3270]),
   (3390, [3398, 3399]),
   (3415, [3398]),
   (3530, [3545, 3548]),
   (3535, [3545]),
   (3551, [3545]),
   (4142, [4133]),
   (6965, [6917, 6919, 6921, 6923, 6925, 6929, 6970, 6972, 6974, 6975, 6978]),
   (12441, [12358, 12363, 12365, 12367, 12369, 12371, 12373, 12375, 12377, 12379, 12381, 12383,
    12385, 12388, 12390, 12392, 12399, 12402, 12405, 12408, 12411, 12445, 12454, 12459, 12461,
    12463, 12465, 12467, 12469, 12471, 12473, 12475, 12477, 12479, 12481, 12484, 12486, 12488,
    12495, 12498, 12501, 12504, 12507, 12527, 12528, 12529, 12530, 12541]),
   (12442, [12399, 12402, 12405, 12408, 12411, 12495, 12498, 12501, 12504, 12507]),
   (69818, [69785, 69787, 69797]),
   (69927, [69937, 69938]),
   (70462, [70471]),
   (70487, [70471]),
   (70832, [70841]),
   (70842, [70841]),
   (70845, [70841]),
   (71087, [71096, 71097]),
   (71984, [71989])]

end QueryHooks.Text.Table

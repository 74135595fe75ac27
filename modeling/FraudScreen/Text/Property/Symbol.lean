import FraudScreen.Text.CodeSet

/-!
# Properties of signs and symbols

Sets of edition 16 that no general category decides: dashes, quotation marks, ends of sentences, what
formulas and patterns are made of, and pictures.
-/
namespace FraudScreen.Text.Property

/-- Dashes of all kinds. -/
def dash : CodeSet := ⟨#[
  45, 46, 1418, 1419, 1470, 1471, 5120, 5121, 6150, 6151, 8208, 8214, 8275, 8276, 8315, 8316,
  8331, 8332, 8722, 8723, 11799, 11800, 11802, 11803, 11834, 11836, 11840, 11841, 11869, 11870,
  12316, 12317, 12336, 12337, 12448, 12449, 65073, 65075, 65112, 65113, 65123, 65124, 65293,
  65294, 68974, 68975, 69293, 69294]⟩

/-- Dashes that join the parts of words. -/
def hyphen : CodeSet := ⟨#[
  45, 46, 173, 174, 1418, 1419, 6150, 6151, 8208, 8210, 11799, 11800, 12539, 12540, 65123, 65124,
  65293, 65294, 65381, 65382]⟩

/-- Quotation marks. -/
def quotationMark : CodeSet := ⟨#[
  34, 35, 39, 40, 171, 172, 187, 188, 8216, 8224, 8249, 8251, 11842, 11843, 12300, 12304, 12317,
  12320, 65089, 65093, 65282, 65283, 65287, 65288, 65378, 65380]⟩

/-- Signs that end sentences. -/
def sentenceTerminal : CodeSet := ⟨#[
  33, 34, 46, 47, 63, 64, 1417, 1418, 1565, 1568, 1748, 1749, 1792, 1795, 2041, 2042, 2103, 2104,
  2105, 2106, 2109, 2111, 2404, 2406, 4170, 4172, 4962, 4963, 4967, 4969, 5742, 5743, 5941, 5943,
  6100, 6102, 6147, 6148, 6153, 6154, 6468, 6470, 6824, 6828, 6990, 6992, 7002, 7004, 7006, 7008,
  7037, 7040, 7227, 7229, 7294, 7296, 8228, 8229, 8252, 8254, 8263, 8266, 11513, 11516, 11822,
  11823, 11836, 11837, 11859, 11861, 12290, 12291, 42239, 42240, 42510, 42512, 42739, 42740,
  42743, 42744, 43126, 43128, 43214, 43216, 43311, 43312, 43464, 43466, 43613, 43616, 43760,
  43762, 44011, 44012, 65042, 65043, 65045, 65047, 65106, 65107, 65110, 65112, 65281, 65282,
  65294, 65295, 65311, 65312, 65377, 65378, 68182, 68184, 69461, 69466, 69510, 69514, 69703,
  69705, 69822, 69826, 69953, 69956, 70085, 70087, 70093, 70094, 70110, 70112, 70200, 70202,
  70203, 70205, 70313, 70314, 70612, 70614, 70731, 70733, 71106, 71108, 71113, 71128, 71233,
  71235, 71484, 71487, 72004, 72005, 72006, 72007, 72258, 72260, 72347, 72349, 72769, 72771,
  73463, 73465, 73539, 73541, 92782, 92784, 92917, 92918, 92983, 92985, 92996, 92997, 93550,
  93552, 93848, 93849, 113823, 113824, 121480, 121481]⟩

/-- Signs that end parts of a text. -/
def terminalPunctuation : CodeSet := ⟨#[
  33, 34, 44, 45, 46, 47, 58, 60, 63, 64, 894, 895, 903, 904, 1417, 1418, 1475, 1476, 1548, 1549,
  1563, 1564, 1565, 1568, 1748, 1749, 1792, 1803, 1804, 1805, 2040, 2042, 2096, 2102, 2103, 2111,
  2142, 2143, 2404, 2406, 3674, 3676, 3848, 3849, 3853, 3859, 4170, 4172, 4961, 4969, 5742, 5743,
  5867, 5870, 5941, 5943, 6100, 6103, 6106, 6107, 6146, 6150, 6152, 6154, 6468, 6470, 6824, 6828,
  6990, 6992, 7002, 7004, 7005, 7008, 7037, 7040, 7227, 7232, 7294, 7296, 8228, 8229, 8252, 8254,
  8263, 8266, 11513, 11516, 11822, 11823, 11836, 11837, 11841, 11842, 11852, 11853, 11854, 11856,
  11859, 11861, 12289, 12291, 42238, 42240, 42509, 42512, 42739, 42744, 43126, 43128, 43214,
  43216, 43311, 43312, 43463, 43466, 43613, 43616, 43743, 43744, 43760, 43762, 44011, 44012,
  65042, 65043, 65045, 65047, 65104, 65107, 65108, 65112, 65281, 65282, 65292, 65293, 65294,
  65295, 65306, 65308, 65311, 65312, 65377, 65378, 65380, 65381, 66463, 66464, 66512, 66513,
  67671, 67672, 67871, 67872, 68182, 68184, 68336, 68342, 68410, 68416, 68505, 68509, 69461,
  69466, 69510, 69514, 69703, 69710, 69822, 69826, 69953, 69956, 70085, 70087, 70093, 70094,
  70110, 70112, 70200, 70205, 70313, 70314, 70612, 70614, 70731, 70734, 70746, 70748, 71106,
  71110, 71113, 71128, 71233, 71235, 71484, 71487, 72004, 72005, 72006, 72007, 72258, 72260,
  72347, 72349, 72353, 72355, 72769, 72772, 72817, 72818, 73463, 73465, 73539, 73541, 74864,
  74869, 92782, 92784, 92917, 92918, 92983, 92986, 92996, 92997, 93550, 93552, 93847, 93849,
  113823, 113824, 121479, 121483]⟩

/-- Signs that are mirrored in text from right to left. -/
def bidiMirrored : CodeSet := ⟨#[
  40, 42, 60, 61, 62, 63, 91, 92, 93, 94, 123, 124, 125, 126, 171, 172, 187, 188, 3898, 3902,
  5787, 5789, 8249, 8251, 8261, 8263, 8317, 8319, 8333, 8335, 8512, 8513, 8705, 8709, 8712, 8718,
  8721, 8722, 8725, 8727, 8730, 8734, 8735, 8739, 8740, 8741, 8742, 8743, 8747, 8756, 8761, 8762,
  8763, 8781, 8786, 8790, 8799, 8801, 8802, 8803, 8804, 8812, 8813, 8845, 8847, 8851, 8856, 8857,
  8866, 8868, 8870, 8889, 8894, 8896, 8905, 8910, 8912, 8914, 8918, 8942, 8944, 8960, 8968, 8972,
  8992, 8994, 9001, 9003, 10088, 10102, 10176, 10177, 10179, 10183, 10184, 10186, 10187, 10190,
  10195, 10199, 10204, 10207, 10210, 10224, 10627, 10649, 10651, 10657, 10658, 10672, 10680,
  10681, 10688, 10694, 10697, 10698, 10702, 10707, 10708, 10710, 10712, 10717, 10721, 10722,
  10723, 10726, 10728, 10730, 10740, 10746, 10748, 10750, 10762, 10781, 10782, 10786, 10788,
  10789, 10790, 10791, 10793, 10794, 10795, 10799, 10804, 10806, 10812, 10815, 10839, 10841,
  10852, 10854, 10858, 10862, 10863, 10865, 10867, 10869, 10873, 10916, 10918, 10926, 10927,
  10967, 10972, 10973, 10974, 10975, 10978, 10983, 10988, 10991, 10995, 10996, 10999, 11004,
  11005, 11006, 11262, 11263, 11778, 11782, 11785, 11787, 11788, 11790, 11804, 11806, 11808,
  11818, 11861, 11869, 12296, 12306, 12308, 12316, 65113, 65119, 65124, 65126, 65288, 65290,
  65308, 65309, 65310, 65311, 65339, 65340, 65341, 65342, 65371, 65372, 65373, 65374, 65375,
  65377, 65378, 65380, 120539, 120540, 120597, 120598, 120655, 120656, 120713, 120714, 120771,
  120772]⟩

/-- Controls of the direction of text. -/
def bidiControl : CodeSet := ⟨#[1564, 1565, 8206, 8208, 8234, 8239, 8294, 8298]⟩

/-- Mathematical characters that are not mathematical symbols. -/
def otherMath : CodeSet := ⟨#[
  94, 95, 976, 979, 981, 982, 1008, 1010, 1012, 1014, 8214, 8215, 8242, 8245, 8256, 8257, 8289,
  8293, 8317, 8319, 8333, 8335, 8400, 8413, 8417, 8418, 8421, 8423, 8427, 8432, 8450, 8451, 8455,
  8456, 8458, 8468, 8469, 8470, 8473, 8478, 8484, 8485, 8488, 8490, 8492, 8494, 8495, 8498, 8499,
  8505, 8508, 8512, 8517, 8522, 8597, 8602, 8604, 8608, 8609, 8611, 8612, 8614, 8615, 8616, 8617,
  8622, 8624, 8626, 8630, 8632, 8636, 8654, 8656, 8658, 8659, 8660, 8661, 8668, 8669, 8670, 8676,
  8678, 8968, 8972, 9140, 9142, 9143, 9144, 9168, 9169, 9186, 9187, 9632, 9634, 9646, 9655, 9660,
  9665, 9670, 9672, 9674, 9676, 9679, 9684, 9698, 9699, 9700, 9701, 9703, 9709, 9733, 9735, 9792,
  9793, 9794, 9795, 9824, 9828, 9837, 9839, 10181, 10183, 10214, 10224, 10627, 10649, 10712,
  10716, 10748, 10750, 65121, 65122, 65123, 65124, 65128, 65129, 65340, 65341, 65342, 65343,
  119808, 119893, 119894, 119965, 119966, 119968, 119970, 119971, 119973, 119975, 119977, 119981,
  119982, 119994, 119995, 119996, 119997, 120004, 120005, 120070, 120071, 120075, 120077, 120085,
  120086, 120093, 120094, 120122, 120123, 120127, 120128, 120133, 120134, 120135, 120138, 120145,
  120146, 120486, 120488, 120513, 120514, 120539, 120540, 120571, 120572, 120597, 120598, 120629,
  120630, 120655, 120656, 120687, 120688, 120713, 120714, 120745, 120746, 120771, 120772, 120780,
  120782, 120832, 126464, 126468, 126469, 126496, 126497, 126499, 126500, 126501, 126503, 126504,
  126505, 126515, 126516, 126520, 126521, 126522, 126523, 126524, 126530, 126531, 126535, 126536,
  126537, 126538, 126539, 126540, 126541, 126544, 126545, 126547, 126548, 126549, 126551, 126552,
  126553, 126554, 126555, 126556, 126557, 126558, 126559, 126560, 126561, 126563, 126564, 126565,
  126567, 126571, 126572, 126579, 126580, 126584, 126585, 126589, 126590, 126591, 126592, 126602,
  126603, 126620, 126625, 126628, 126629, 126634, 126635, 126652]⟩

/-- Mathematical signs with which a name may start. -/
def compatMathStart : CodeSet := ⟨#[
  8706, 8707, 8711, 8712, 8734, 8735, 120513, 120514, 120539, 120540, 120571, 120572, 120597,
  120598, 120629, 120630, 120655, 120656, 120687, 120688, 120713, 120714, 120745, 120746, 120771,
  120772]⟩

/-- Mathematical signs that a name may hold after its start only. -/
def compatMathMore : CodeSet := ⟨#[178, 180, 185, 186, 8304, 8305, 8308, 8319, 8320, 8335]⟩

/-- Code points kept for the syntax of patterns. -/
def patternSyntax : CodeSet := ⟨#[
  33, 48, 58, 65, 91, 95, 96, 97, 123, 127, 161, 168, 169, 170, 171, 173, 174, 175, 176, 178,
  182, 183, 187, 188, 191, 192, 215, 216, 247, 248, 8208, 8232, 8240, 8255, 8257, 8276, 8277,
  8287, 8592, 9312, 9472, 10102, 10132, 11264, 11776, 11904, 12289, 12292, 12296, 12321, 12336,
  12337, 64830, 64832, 65093, 65095]⟩

/-- White space of patterns. -/
def patternWhiteSpace : CodeSet := ⟨#[9, 14, 32, 33, 133, 134, 8206, 8208, 8232, 8234]⟩

/-- Hexadecimal digits. -/
def hexDigit : CodeSet := ⟨#[48, 58, 65, 71, 97, 103, 65296, 65306, 65313, 65319, 65345, 65351]⟩

/-- Letters of flags. -/
def regionalIndicator : CodeSet := ⟨#[127462, 127488]⟩

/-- Characters that may be shown as pictures. -/
def emoji : CodeSet := ⟨#[
  35, 36, 42, 43, 48, 58, 169, 170, 174, 175, 8252, 8253, 8265, 8266, 8482, 8483, 8505, 8506,
  8596, 8602, 8617, 8619, 8986, 8988, 9000, 9001, 9167, 9168, 9193, 9204, 9208, 9211, 9410, 9411,
  9642, 9644, 9654, 9655, 9664, 9665, 9723, 9727, 9728, 9733, 9742, 9743, 9745, 9746, 9748, 9750,
  9752, 9753, 9757, 9758, 9760, 9761, 9762, 9764, 9766, 9767, 9770, 9771, 9774, 9776, 9784, 9787,
  9792, 9793, 9794, 9795, 9800, 9812, 9823, 9825, 9827, 9828, 9829, 9831, 9832, 9833, 9851, 9852,
  9854, 9856, 9874, 9880, 9881, 9882, 9883, 9885, 9888, 9890, 9895, 9896, 9898, 9900, 9904, 9906,
  9917, 9919, 9924, 9926, 9928, 9929, 9934, 9936, 9937, 9938, 9939, 9941, 9961, 9963, 9968, 9974,
  9975, 9979, 9981, 9982, 9986, 9987, 9989, 9990, 9992, 9998, 9999, 10000, 10002, 10003, 10004,
  10005, 10006, 10007, 10013, 10014, 10017, 10018, 10024, 10025, 10035, 10037, 10052, 10053,
  10055, 10056, 10060, 10061, 10062, 10063, 10067, 10070, 10071, 10072, 10083, 10085, 10133,
  10136, 10145, 10146, 10160, 10161, 10175, 10176, 10548, 10550, 11013, 11016, 11035, 11037,
  11088, 11089, 11093, 11094, 12336, 12337, 12349, 12350, 12951, 12952, 12953, 12954, 126980,
  126981, 127183, 127184, 127344, 127346, 127358, 127360, 127374, 127375, 127377, 127387, 127462,
  127488, 127489, 127491, 127514, 127515, 127535, 127536, 127538, 127547, 127568, 127570, 127744,
  127778, 127780, 127892, 127894, 127896, 127897, 127900, 127902, 127985, 127987, 127990, 127991,
  128254, 128255, 128318, 128329, 128335, 128336, 128360, 128367, 128369, 128371, 128379, 128391,
  128392, 128394, 128398, 128400, 128401, 128405, 128407, 128420, 128422, 128424, 128425, 128433,
  128435, 128444, 128445, 128450, 128453, 128465, 128468, 128476, 128479, 128481, 128482, 128483,
  128484, 128488, 128489, 128495, 128496, 128499, 128500, 128506, 128592, 128640, 128710, 128715,
  128723, 128725, 128728, 128732, 128742, 128745, 128746, 128747, 128749, 128752, 128753, 128755,
  128765, 128992, 129004, 129008, 129009, 129292, 129339, 129340, 129350, 129351, 129536, 129648,
  129661, 129664, 129674, 129679, 129735, 129742, 129757, 129759, 129770, 129776, 129785]⟩

/-- Characters that sequences of pictures are made of. -/
def emojiComponent : CodeSet := ⟨#[
  35, 36, 42, 43, 48, 58, 8205, 8206, 8419, 8420, 65039, 65040, 127462, 127488, 127995, 128000,
  129456, 129460, 917536, 917632]⟩

/-- Colours of skin. -/
def emojiModifier : CodeSet := ⟨#[127995, 128000]⟩

/-- Pictures that take a colour of skin. -/
def emojiModifierBase : CodeSet := ⟨#[
  9757, 9758, 9977, 9978, 9994, 9998, 127877, 127878, 127938, 127941, 127943, 127944, 127946,
  127949, 128066, 128068, 128070, 128081, 128102, 128121, 128124, 128125, 128129, 128132, 128133,
  128136, 128143, 128144, 128145, 128146, 128170, 128171, 128372, 128374, 128378, 128379, 128400,
  128401, 128405, 128407, 128581, 128584, 128587, 128592, 128675, 128676, 128692, 128695, 128704,
  128705, 128716, 128717, 129292, 129293, 129295, 129296, 129304, 129312, 129318, 129319, 129328,
  129338, 129340, 129343, 129399, 129400, 129461, 129463, 129464, 129466, 129467, 129468, 129485,
  129488, 129489, 129502, 129731, 129734, 129776, 129785]⟩

/-- Characters that are shown as pictures unless asked otherwise. -/
def emojiPresentation : CodeSet := ⟨#[
  8986, 8988, 9193, 9197, 9200, 9201, 9203, 9204, 9725, 9727, 9748, 9750, 9800, 9812, 9855, 9856,
  9875, 9876, 9889, 9890, 9898, 9900, 9917, 9919, 9924, 9926, 9934, 9935, 9940, 9941, 9962, 9963,
  9970, 9972, 9973, 9974, 9978, 9979, 9981, 9982, 9989, 9990, 9994, 9996, 10024, 10025, 10060,
  10061, 10062, 10063, 10067, 10070, 10071, 10072, 10133, 10136, 10160, 10161, 10175, 10176,
  11035, 11037, 11088, 11089, 11093, 11094, 126980, 126981, 127183, 127184, 127374, 127375,
  127377, 127387, 127462, 127488, 127489, 127490, 127514, 127515, 127535, 127536, 127538, 127543,
  127544, 127547, 127568, 127570, 127744, 127777, 127789, 127798, 127799, 127869, 127870, 127892,
  127904, 127947, 127951, 127956, 127968, 127985, 127988, 127989, 127992, 128063, 128064, 128065,
  128066, 128253, 128255, 128318, 128331, 128335, 128336, 128360, 128378, 128379, 128405, 128407,
  128420, 128421, 128507, 128592, 128640, 128710, 128716, 128717, 128720, 128723, 128725, 128728,
  128732, 128736, 128747, 128749, 128756, 128765, 128992, 129004, 129008, 129009, 129292, 129339,
  129340, 129350, 129351, 129536, 129648, 129661, 129664, 129674, 129679, 129735, 129742, 129757,
  129759, 129770, 129776, 129785]⟩

/-- Pictures, with code points kept for more of them. -/
def extendedPictographic : CodeSet := ⟨#[
  169, 170, 174, 175, 8252, 8253, 8265, 8266, 8482, 8483, 8505, 8506, 8596, 8602, 8617, 8619,
  8986, 8988, 9000, 9001, 9096, 9097, 9167, 9168, 9193, 9204, 9208, 9211, 9410, 9411, 9642, 9644,
  9654, 9655, 9664, 9665, 9723, 9727, 9728, 9734, 9735, 9747, 9748, 9862, 9872, 9990, 9992,
  10003, 10004, 10005, 10006, 10007, 10013, 10014, 10017, 10018, 10024, 10025, 10035, 10037,
  10052, 10053, 10055, 10056, 10060, 10061, 10062, 10063, 10067, 10070, 10071, 10072, 10083,
  10088, 10133, 10136, 10145, 10146, 10160, 10161, 10175, 10176, 10548, 10550, 11013, 11016,
  11035, 11037, 11088, 11089, 11093, 11094, 12336, 12337, 12349, 12350, 12951, 12952, 12953,
  12954, 126976, 127232, 127245, 127248, 127279, 127280, 127340, 127346, 127358, 127360, 127374,
  127375, 127377, 127387, 127405, 127462, 127489, 127504, 127514, 127515, 127535, 127536, 127538,
  127547, 127548, 127552, 127561, 127995, 128000, 128318, 128326, 128592, 128640, 128768, 128884,
  128896, 128981, 129024, 129036, 129040, 129096, 129104, 129114, 129120, 129160, 129168, 129198,
  129280, 129292, 129339, 129340, 129350, 129351, 129792, 130048, 131070]⟩

end FraudScreen.Text.Property

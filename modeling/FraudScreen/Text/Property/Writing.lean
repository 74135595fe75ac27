import FraudScreen.Text.CodeSet

/-!
# Properties of the characters of scripts

Sets of edition 16 that no general category decides: marks and signs that change other characters,
ideographs and their parts, and what names are made of.
-/
namespace FraudScreen.Text.Property

/-- Marks that change the meaning or sound of another character. -/
def diacritic : CodeSet := ⟨#[
  94, 95, 96, 97, 168, 169, 175, 176, 180, 181, 183, 185, 688, 847, 848, 856, 861, 867, 884, 886,
  890, 891, 900, 902, 1155, 1160, 1369, 1370, 1425, 1470, 1471, 1472, 1473, 1475, 1476, 1478,
  1479, 1480, 1611, 1619, 1623, 1625, 1759, 1761, 1765, 1767, 1770, 1773, 1840, 1867, 1958, 1969,
  2027, 2038, 2072, 2074, 2200, 2208, 2249, 2259, 2275, 2303, 2364, 2365, 2381, 2382, 2385, 2389,
  2417, 2418, 2492, 2493, 2509, 2510, 2620, 2621, 2637, 2638, 2748, 2749, 2765, 2766, 2813, 2816,
  2876, 2877, 2893, 2894, 2901, 2902, 3021, 3022, 3132, 3133, 3149, 3150, 3260, 3261, 3277, 3278,
  3387, 3389, 3405, 3406, 3530, 3531, 3642, 3643, 3655, 3661, 3662, 3663, 3770, 3771, 3784, 3789,
  3864, 3866, 3893, 3894, 3895, 3896, 3897, 3898, 3902, 3904, 3970, 3973, 3974, 3976, 4038, 4039,
  4151, 4152, 4153, 4155, 4195, 4197, 4201, 4206, 4231, 4238, 4239, 4240, 4250, 4252, 4957, 4960,
  5908, 5910, 5940, 5941, 6089, 6100, 6109, 6110, 6457, 6460, 6752, 6753, 6773, 6781, 6783, 6784,
  6832, 6847, 6849, 6860, 6964, 6965, 6980, 6981, 7019, 7028, 7082, 7084, 7142, 7143, 7154, 7156,
  7222, 7224, 7288, 7294, 7376, 7401, 7405, 7406, 7412, 7413, 7415, 7418, 7468, 7531, 7579, 7615,
  7620, 7632, 7669, 7680, 8125, 8126, 8127, 8130, 8141, 8144, 8157, 8160, 8173, 8176, 8189, 8191,
  11503, 11506, 11823, 11824, 12330, 12336, 12441, 12445, 12540, 12541, 42607, 42608, 42620,
  42622, 42623, 42624, 42652, 42654, 42736, 42738, 42752, 42786, 42888, 42891, 43000, 43002,
  43014, 43015, 43052, 43053, 43204, 43205, 43232, 43250, 43307, 43311, 43347, 43348, 43443,
  43444, 43456, 43457, 43493, 43494, 43643, 43646, 43711, 43715, 43766, 43767, 43867, 43872,
  43881, 43884, 44012, 44014, 64286, 64287, 65056, 65072, 65342, 65343, 65344, 65345, 65392,
  65393, 65438, 65440, 65507, 65508, 66272, 66273, 67456, 67462, 67463, 67505, 67506, 67515,
  68152, 68155, 68159, 68160, 68325, 68327, 68898, 68904, 68942, 68943, 68969, 68974, 69373,
  69376, 69446, 69457, 69506, 69510, 69702, 69703, 69744, 69745, 69817, 69819, 69939, 69941,
  70003, 70004, 70080, 70081, 70090, 70093, 70197, 70199, 70377, 70379, 70459, 70461, 70477,
  70478, 70502, 70509, 70512, 70517, 70606, 70609, 70610, 70612, 70625, 70627, 70722, 70723,
  70726, 70727, 70850, 70852, 71103, 71105, 71231, 71232, 71350, 71352, 71467, 71468, 71737,
  71739, 71997, 71999, 72003, 72004, 72160, 72161, 72244, 72245, 72263, 72264, 72345, 72346,
  72767, 72768, 73026, 73027, 73028, 73030, 73111, 73112, 73537, 73539, 73562, 73563, 78919,
  78934, 90415, 90416, 92912, 92917, 92976, 92983, 93547, 93549, 94095, 94112, 94192, 94194,
  110576, 110580, 110581, 110588, 110589, 110591, 118528, 118574, 118576, 118599, 119143, 119146,
  119149, 119155, 119163, 119171, 119173, 119180, 119210, 119214, 122928, 122990, 123184, 123191,
  123566, 123567, 123628, 123632, 124398, 124400, 125136, 125143, 125252, 125255, 125256, 125259]⟩

/-- Signs that lengthen or repeat. -/
def extender : CodeSet := ⟨#[
  183, 184, 720, 722, 1600, 1601, 2042, 2043, 2673, 2674, 2811, 2812, 2901, 2902, 3654, 3655,
  3782, 3783, 6154, 6155, 6211, 6212, 6823, 6824, 7222, 7223, 7291, 7292, 12293, 12294, 12337,
  12342, 12445, 12447, 12540, 12543, 40981, 40982, 42508, 42509, 43471, 43472, 43494, 43495,
  43632, 43633, 43741, 43742, 43763, 43765, 65392, 65393, 67457, 67459, 68942, 68943, 68970,
  68971, 68975, 68976, 70199, 70200, 70493, 70494, 70610, 70612, 71110, 71113, 72344, 72345,
  92994, 92996, 94176, 94178, 94179, 94180, 123196, 123198, 124399, 124400, 125252, 125255]⟩

/-- Letters whose dot gives way to a mark above. -/
def softDotted : CodeSet := ⟨#[
  105, 107, 303, 304, 585, 586, 616, 617, 669, 670, 690, 691, 1011, 1012, 1110, 1111, 1112, 1113,
  7522, 7523, 7574, 7575, 7588, 7589, 7592, 7593, 7725, 7726, 7883, 7884, 8305, 8306, 8520, 8522,
  11388, 11389, 119842, 119844, 119894, 119896, 119946, 119948, 119998, 120000, 120050, 120052,
  120102, 120104, 120154, 120156, 120206, 120208, 120258, 120260, 120310, 120312, 120362, 120364,
  120414, 120416, 120466, 120468, 122650, 122651, 122956, 122958, 122984, 122985]⟩

/-- Vowel signs that are written before what they follow in speech. -/
def logicalOrderException : CodeSet := ⟨#[
  3648, 3653, 3776, 3781, 6581, 6584, 6586, 6587, 43701, 43703, 43705, 43706, 43707, 43709]⟩

/-- Signs that join consonants. -/
def graphemeLink : CodeSet := ⟨#[
  2381, 2382, 2509, 2510, 2637, 2638, 2765, 2766, 2893, 2894, 3021, 3022, 3149, 3150, 3277, 3278,
  3387, 3389, 3405, 3406, 3530, 3531, 3642, 3643, 3770, 3771, 3972, 3973, 4153, 4155, 5908, 5910,
  5940, 5941, 6098, 6099, 6752, 6753, 6980, 6981, 7082, 7084, 7154, 7156, 11647, 11648, 12441,
  12442, 43014, 43015, 43052, 43053, 43204, 43205, 43347, 43348, 43456, 43457, 43766, 43767,
  44013, 44014, 68159, 68160, 69702, 69703, 69744, 69745, 69759, 69760, 69817, 69818, 69939,
  69941, 70080, 70081, 70197, 70198, 70378, 70379, 70477, 70478, 70606, 70609, 70722, 70723,
  70850, 70851, 71103, 71104, 71231, 71232, 71350, 71351, 71467, 71468, 71737, 71738, 71997,
  71999, 72160, 72161, 72244, 72245, 72263, 72264, 72345, 72346, 72767, 72768, 73028, 73030,
  73111, 73112, 73537, 73539, 90415, 90416]⟩

/-- Marks that come before others of their class. -/
def modifierCombiningMark : CodeSet := ⟨#[
  1620, 1622, 1624, 1625, 1756, 1757, 1763, 1764, 1767, 1769, 2250, 2252, 2253, 2256, 2259, 2260,
  2291, 2292]⟩

/-- Signs that enclose the digits after them. -/
def prependedConcatenationMark : CodeSet := ⟨#[
  1536, 1542, 1757, 1758, 1807, 1808, 2192, 2194, 2274, 2275, 69821, 69822, 69837, 69838]⟩

/-- Ideographs. -/
def ideographic : CodeSet := ⟨#[
  12294, 12296, 12321, 12330, 12344, 12347, 13312, 19904, 19968, 40960, 63744, 64110, 64112,
  64218, 94180, 94181, 94208, 100344, 100352, 101590, 101631, 101641, 110960, 111356, 131072,
  173792, 173824, 177978, 177984, 178206, 178208, 183970, 183984, 191457, 191472, 192094, 194560,
  195102, 196608, 201547, 201552, 205744]⟩

/-- Ideographs that are unified across languages. -/
def unifiedIdeograph : CodeSet := ⟨#[
  13312, 19904, 19968, 40960, 64014, 64016, 64017, 64018, 64019, 64021, 64031, 64032, 64033,
  64034, 64035, 64037, 64039, 64042, 131072, 173792, 173824, 177978, 177984, 178206, 178208,
  183970, 183984, 191457, 191472, 192094, 196608, 201547, 201552, 205744]⟩

/-- Parts by which ideographs are looked up. -/
def radical : CodeSet := ⟨#[11904, 11930, 11931, 12020, 12032, 12246]⟩

/-- Ways to put two parts of an ideograph together. -/
def idsBinaryOperator : CodeSet := ⟨#[12272, 12274, 12276, 12286, 12783, 12784]⟩

/-- Ways to put three parts of an ideograph together. -/
def idsTrinaryOperator : CodeSet := ⟨#[12274, 12276]⟩

/-- Ways to turn a part of an ideograph. -/
def idsUnaryOperator : CodeSet := ⟨#[12286, 12288]⟩

/-- The two joiners. -/
def joinControl : CodeSet := ⟨#[8204, 8206]⟩

/-- Selectors of variants. -/
def variationSelector : CodeSet := ⟨#[6155, 6158, 6159, 6160, 65024, 65040, 917760, 918000]⟩

/-- Code points without visible form that the general category does not tell. -/
def otherDefaultIgnorable : CodeSet := ⟨#[
  847, 848, 4447, 4449, 6068, 6070, 8293, 8294, 12644, 12645, 65440, 65441, 65520, 65529, 917504,
  917505, 917506, 917536, 917632, 917760, 918000, 921600]⟩

/-- Code points that never get a character. -/
def noncharacter : CodeSet := ⟨#[
  64976, 65008, 65534, 65536, 131070, 131072, 196606, 196608, 262142, 262144, 327678, 327680,
  393214, 393216, 458750, 458752, 524286, 524288, 589822, 589824, 655358, 655360, 720894, 720896,
  786430, 786432, 851966, 851968, 917502, 917504, 983038, 983040, 1048574, 1048576, 1114110,
  1114112]⟩

/-- Characters whose use is discouraged. -/
def deprecatedCharacter : CodeSet := ⟨#[
  329, 330, 1651, 1652, 3959, 3960, 3961, 3962, 6051, 6053, 8298, 8304, 9001, 9003, 917505,
  917506]⟩

/-- Characters that start names though they are not letters. -/
def otherIdStart : CodeSet := ⟨#[6277, 6279, 8472, 8473, 8494, 8495, 12443, 12445]⟩

/-- Characters that names may hold though they are neither letters, marks nor digits. -/
def otherIdContinue : CodeSet := ⟨#[
  183, 184, 903, 904, 4969, 4978, 6618, 6619, 8204, 8206, 12539, 12540, 65381, 65382]⟩

/-- Characters that start names but change what they are in compatible forms. -/
def unstableIdStart : CodeSet := ⟨#[
  890, 891, 3635, 3636, 3763, 3764, 12443, 12445, 64606, 64612, 65018, 65020, 65136, 65137,
  65138, 65139, 65140, 65141, 65142, 65143, 65144, 65145, 65146, 65147, 65148, 65149, 65150,
  65151, 65438, 65440]⟩

/-- Characters that names may hold but that change what they are in compatible forms. -/
def unstableIdContinue : CodeSet := ⟨#[
  890, 891, 12443, 12445, 64606, 64612, 65018, 65020, 65136, 65137, 65138, 65139, 65140, 65141,
  65142, 65143, 65144, 65145, 65146, 65147, 65148, 65149, 65150, 65151]⟩

end FraudScreen.Text.Property

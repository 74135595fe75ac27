import FraudScreen.Text.Script

/-!
# Characters shared between scripts

Characters that are used with several scripts, or with another one than their own.
-/
namespace FraudScreen.Text.Script

/-- Runs of characters that are used with other scripts than their own, with the codes of all of those
scripts, between spaces. -/
def sharedRuns : List (Nat × Nat × String) := [
  (183, 183, "avst cari copt dupl elba geor glag gong goth grek hani latn lydi mahj perm shaw"),
  (700, 700, "beng cyrl deva latn lisu thai toto"), (711, 711, "bopo latn"),
  (713, 715, "bopo latn"), (717, 717, "latn lisu"), (727, 727, "latn thai"),
  (729, 729, "bopo latn"), (768, 768, "cher copt cyrl grek latn perm sunu tale"),
  (769, 769, "cher cyrl grek latn osge sunu tale todr"), (770, 770, "cher cyrl latn tfng"),
  (771, 771, "glag latn sunu syrc thai"),
  (772, 772, "aghb cher copt cyrl goth grek latn osge syrc tfng todr"),
  (773, 773, "copt elba glag goth kana latn"), (774, 774, "cyrl grek latn perm tfng"),
  (775, 775, "copt dupl hebr latn perm syrc tale tfng todr"),
  (776, 776, "armn cyrl dupl goth grek hebr latn perm syrc tale tfng"), (777, 777, "latn tfng"),
  (778, 778, "dupl latn syrc"), (779, 779, "cher cyrl latn osge"), (780, 780, "cher latn tale"),
  (781, 781, "latn sunu"), (782, 782, "ethi latn"), (784, 784, "latn sunu"),
  (785, 785, "cyrl latn todr"), (787, 787, "grek latn perm todr"),
  (803, 803, "cher dupl kana latn syrc tfng"), (804, 804, "cher dupl latn syrc"),
  (805, 805, "latn syrc"), (813, 813, "latn sunu syrc"), (814, 814, "latn syrc"),
  (816, 816, "cher latn syrc"), (817, 817, "aghb cher goth latn sunu syrc thai"),
  (834, 834, "grek"), (837, 837, "grek"), (856, 856, "latn osge"), (862, 862, "aghb latn todr"),
  (867, 879, "latn"), (884, 885, "copt grek"), (1155, 1155, "cyrl perm"),
  (1156, 1156, "cyrl glag"), (1157, 1158, "cyrl latn"), (1159, 1159, "cyrl glag"),
  (1417, 1417, "armn geor glag"), (1548, 1548, "arab gara nkoo rohg syrc thaa yezi"),
  (1563, 1563, "arab gara nkoo rohg syrc thaa yezi"), (1564, 1564, "arab syrc thaa"),
  (1567, 1567, "adlm arab gara nkoo rohg syrc thaa yezi"),
  (1600, 1600, "adlm arab mand mani ougr phlp rohg sogd syrc"), (1611, 1621, "arab syrc"),
  (1632, 1641, "arab thaa yezi"), (1648, 1648, "arab syrc"), (1748, 1748, "arab rohg"),
  (2385, 2385, "beng deva gran gujr guru knda latn mlym nand newa orya shrd taml telu tirh"),
  (2386, 2386, "beng deva gran gujr guru knda latn mlym newa orya taml telu tirh"),
  (2404, 2404, "beng deva dogr gong gonm gran gujr guru knda mahj mlym nand onao orya sind sinh sylo takr taml telu tirh"),
  (2405, 2405, "beng deva dogr gong gonm gran gujr gukh guru knda limb mahj mlym nand onao orya sind sinh sylo takr taml telu tirh"),
  (2406, 2415, "deva dogr kthi mahj"), (2534, 2543, "beng cakm sylo"), (2662, 2671, "guru mult"),
  (2790, 2799, "gujr khoj"), (3046, 3059, "gran taml"), (3302, 3311, "knda nand tutg"),
  (4160, 4169, "cakm mymr tale"), (4347, 4347, "geor glag latn"), (5867, 5869, "runr"),
  (5941, 5942, "buhd hano tagb tglg"), (6146, 6147, "mong phag"), (6149, 6149, "mong phag"),
  (7376, 7376, "beng deva gran knda"), (7377, 7377, "deva"), (7378, 7378, "beng deva gran knda"),
  (7379, 7379, "deva gran knda"), (7380, 7380, "deva"), (7381, 7381, "beng deva newa telu tirh"),
  (7382, 7382, "beng deva telu"), (7383, 7383, "deva newa shrd"),
  (7384, 7384, "beng deva newa telu"), (7385, 7385, "deva shrd"),
  (7386, 7386, "deva knda mlym orya taml telu"), (7387, 7387, "deva"), (7388, 7389, "deva shrd"),
  (7390, 7391, "deva"), (7392, 7392, "deva shrd"), (7393, 7393, "beng deva"),
  (7394, 7394, "deva newa tirh"), (7395, 7400, "deva"), (7401, 7401, "deva nand newa"),
  (7402, 7402, "beng deva shrd"), (7403, 7403, "deva newa"), (7404, 7404, "deva"),
  (7405, 7405, "beng deva newa shrd"), (7406, 7409, "deva"),
  (7410, 7410, "beng deva gran knda mlym nand orya sinh telu tirh tutg"),
  (7411, 7411, "deva gran"), (7412, 7412, "deva gran knda tutg"), (7413, 7414, "beng deva"),
  (7415, 7415, "beng"), (7416, 7417, "deva gran"), (7418, 7418, "nand"), (7616, 7617, "grek"),
  (7672, 7672, "cyrl latn syrc"), (7674, 7674, "syrc"), (8239, 8239, "latn mong phag"),
  (8271, 8271, "adlm arab"), (8282, 8282, "cari geor glag hung lyci orkh"),
  (8285, 8285, "cari grek hung mero"), (8432, 8432, "deva gran latn"),
  (11799, 11799, "copt latn"), (11824, 11824, "avst orkh"),
  (11825, 11825, "avst cari geor hung kthi lydi samr"), (11836, 11836, "dupl"),
  (11841, 11841, "adlm arab hung"), (11843, 11843, "cyrl glag"), (12272, 12287, "hani tang"),
  (12289, 12289, "bopo hang hani hira kana mong yiii"),
  (12290, 12290, "bopo hang hani hira kana mong phag yiii"),
  (12291, 12291, "bopo hang hani hira kana"), (12294, 12294, "hani"),
  (12296, 12297, "bopo hang hani hira kana mong tibt yiii"),
  (12298, 12299, "bopo hang hani hira kana lisu mong tibt yiii"),
  (12300, 12305, "bopo hang hani hira kana yiii"), (12307, 12307, "bopo hang hani hira kana"),
  (12308, 12315, "bopo hang hani hira kana yiii"), (12316, 12319, "bopo hang hani hira kana"),
  (12330, 12333, "bopo hani"), (12336, 12336, "bopo hang hani hira kana"),
  (12337, 12341, "hira kana"), (12343, 12343, "bopo hang hani hira kana"),
  (12348, 12349, "hani hira kana"), (12350, 12351, "hani"), (12441, 12444, "hira kana"),
  (12448, 12448, "hira kana"), (12539, 12539, "bopo hang hani hira kana yiii"),
  (12540, 12540, "hira kana"), (12688, 12703, "hani"), (12736, 12773, "hani"),
  (12783, 12783, "hani tang"), (12832, 12871, "hani"), (12928, 12976, "hani"),
  (12992, 13003, "hani"), (13055, 13055, "hani"), (13144, 13168, "hani"), (13179, 13183, "hani"),
  (13280, 13310, "hani"), (42607, 42607, "cyrl glag"), (42752, 42759, "hani latn"),
  (43056, 43058, "deva dogr gujr guru khoj knda kthi mahj mlym modi nand shrd sind takr tirh tutg"),
  (43059, 43061, "deva dogr gujr guru khoj knda kthi mahj modi nand shrd sind takr tirh tutg"),
  (43062, 43063, "deva dogr gujr guru khoj kthi mahj modi sind takr tirh"),
  (43064, 43064, "deva dogr gujr guru khoj kthi mahj modi shrd sind takr tirh"),
  (43065, 43065, "deva dogr gujr guru khoj kthi mahj modi sind takr tirh"),
  (43249, 43249, "beng deva tutg"), (43251, 43251, "deva taml"),
  (43310, 43310, "kali latn mymr"), (43471, 43471, "bugi java"), (64830, 64831, "arab nkoo"),
  (65010, 65010, "arab thaa"), (65021, 65021, "arab thaa"),
  (65093, 65094, "bopo hang hani hira kana"), (65377, 65381, "bopo hang hani hira kana yiii"),
  (65392, 65392, "hira kana"), (65438, 65439, "hira kana"), (65792, 65793, "cpmn cprt linb"),
  (65794, 65794, "cprt linb"), (65799, 65843, "cprt lina linb"), (65847, 65855, "cprt linb"),
  (66272, 66299, "arab copt"), (68338, 68338, "mani ougr"), (70401, 70401, "gran taml"),
  (70403, 70403, "gran taml"), (70459, 70460, "gran taml"), (73680, 73681, "gran taml"),
  (73683, 73683, "gran taml"), (113824, 113827, "dupl"), (119648, 119665, "hani"),
  (127568, 127569, "hani")]

/-- The characters of `sharedRuns`. -/
def shared : CodeSet := CodeSet.unions (sharedRuns.map fun (a, b, _) => .range a b)

/-- The characters that are used with a script: its own ones that no run names, and those of the runs that
name its code. -/
def users (s : Script) : CodeSet :=
  (s.members.diff shared).union
    (CodeSet.unions ((sharedRuns.filter fun (_, _, codes) => (codes.splitOn " ").contains s.code).map
      fun (a, b, _) => .range a b))

end FraudScreen.Text.Script

import CompactSchema.Unicode.Runs

/-
The script of every code point, and the further scripts that use it.

A code point in no run of the table has no script.  `extensions` lists, for a script,
the code points of other scripts that it uses.
-/

namespace CompactSchema
namespace Unicode
namespace Script

def values : Labelling where
  names :=
    [["adlm", "adlam"],
     ["aghb", "caucasianalbanian"],
     ["ahom", "ahom"],
     ["arab", "arabic"],
     ["armi", "imperialaramaic"],
     ["armn", "armenian"],
     ["avst", "avestan"],
     ["bali", "balinese"],
     ["bamu", "bamum"],
     ["bass", "bassavah"],
     ["batk", "batak"],
     ["beng", "bengali"],
     ["bhks", "bhaiksuki"],
     ["bopo", "bopomofo"],
     ["brah", "brahmi"],
     ["brai", "braille"],
     ["bugi", "buginese"],
     ["buhd", "buhid"],
     ["cakm", "chakma"],
     ["cans", "canadianaboriginal"],
     ["cari", "carian"],
     ["cham", "cham"],
     ["cher", "cherokee"],
     ["chrs", "chorasmian"],
     ["copt", "coptic", "qaac"],
     ["cpmn", "cyprominoan"],
     ["cprt", "cypriot"],
     ["cyrl", "cyrillic"],
     ["deva", "devanagari"],
     ["diak", "divesakuru"],
     ["dogr", "dogra"],
     ["dsrt", "deseret"],
     ["dupl", "duployan"],
     ["egyp", "egyptianhieroglyphs"],
     ["elba", "elbasan"],
     ["elym", "elymaic"],
     ["ethi", "ethiopic"],
     ["gara", "garay"],
     ["geor", "georgian"],
     ["glag", "glagolitic"],
     ["gong", "gunjalagondi"],
     ["gonm", "masaramgondi"],
     ["goth", "gothic"],
     ["gran", "grantha"],
     ["grek", "greek"],
     ["gujr", "gujarati"],
     ["gukh", "gurungkhema"],
     ["guru", "gurmukhi"],
     ["hang", "hangul"],
     ["hani", "han"],
     ["hano", "hanunoo"],
     ["hatr", "hatran"],
     ["hebr", "hebrew"],
     ["hira", "hiragana"],
     ["hluw", "anatolianhieroglyphs"],
     ["hmng", "pahawhhmong"],
     ["hmnp", "nyiakengpuachuehmong"],
     ["hung", "oldhungarian"],
     ["ital", "olditalic"],
     ["java", "javanese"],
     ["kali", "kayahli"],
     ["kana", "katakana"],
     ["kawi", "kawi"],
     ["khar", "kharoshthi"],
     ["khmr", "khmer"],
     ["khoj", "khojki"],
     ["kits", "khitansmallscript"],
     ["knda", "kannada"],
     ["krai", "kiratrai"],
     ["kthi", "kaithi"],
     ["lana", "taitham"],
     ["laoo", "lao"],
     ["latn", "latin"],
     ["lepc", "lepcha"],
     ["limb", "limbu"],
     ["lina", "lineara"],
     ["linb", "linearb"],
     ["lisu", "lisu"],
     ["lyci", "lycian"],
     ["lydi", "lydian"],
     ["mahj", "mahajani"],
     ["maka", "makasar"],
     ["mand", "mandaic"],
     ["mani", "manichaean"],
     ["marc", "marchen"],
     ["medf", "medefaidrin"],
     ["mend", "mendekikakui"],
     ["merc", "meroiticcursive"],
     ["mero", "meroitichieroglyphs"],
     ["mlym", "malayalam"],
     ["modi", "modi"],
     ["mong", "mongolian"],
     ["mroo", "mro"],
     ["mtei", "meeteimayek"],
     ["mult", "multani"],
     ["mymr", "myanmar"],
     ["nagm", "nagmundari"],
     ["nand", "nandinagari"],
     ["narb", "oldnortharabian"],
     ["nbat", "nabataean"],
     ["newa", "newa"],
     ["nkoo", "nko"],
     ["nshu", "nushu"],
     ["ogam", "ogham"],
     ["olck", "olchiki"],
     ["onao", "olonal"],
     ["orkh", "oldturkic"],
     ["orya", "oriya"],
     ["osge", "osage"],
     ["osma", "osmanya"],
     ["ougr", "olduyghur"],
     ["palm", "palmyrene"],
     ["pauc", "paucinhau"],
     ["perm", "oldpermic"],
     ["phag", "phagspa"],
     ["phli", "inscriptionalpahlavi"],
     ["phlp", "psalterpahlavi"],
     ["phnx", "phoenician"],
     ["plrd", "miao"],
     ["prti", "inscriptionalparthian"],
     ["rjng", "rejang"],
     ["rohg", "hanifirohingya"],
     ["runr", "runic"],
     ["samr", "samaritan"],
     ["sarb", "oldsoutharabian"],
     ["saur", "saurashtra"],
     ["sgnw", "signwriting"],
     ["shaw", "shavian"],
     ["shrd", "sharada"],
     ["sidd", "siddham"],
     ["sind", "khudawadi"],
     ["sinh", "sinhala"],
     ["sogd", "sogdian"],
     ["sogo", "oldsogdian"],
     ["sora", "sorasompeng"],
     ["soyo", "soyombo"],
     ["sund", "sundanese"],
     ["sunu", "sunuwar"],
     ["sylo", "sylotinagri"],
     ["syrc", "syriac"],
     ["tagb", "tagbanwa"],
     ["takr", "takri"],
     ["tale", "taile"],
     ["talu", "newtailue"],
     ["taml", "tamil"],
     ["tang", "tangut"],
     ["tavt", "taiviet"],
     ["telu", "telugu"],
     ["tfng", "tifinagh"],
     ["tglg", "tagalog"],
     ["thaa", "thaana"],
     ["thai", "thai"],
     ["tibt", "tibetan"],
     ["tirh", "tirhuta"],
     ["tnsa", "tangsa"],
     ["todr", "todhri"],
     ["toto", "toto"],
     ["tutg", "tulutigalari"],
     ["ugar", "ugaritic"],
     ["vaii", "vai"],
     ["vith", "vithkuqi"],
     ["wara", "warangciti"],
     ["wcho", "wancho"],
     ["xpeo", "oldpersian"],
     ["xsux", "cuneiform"],
     ["yezi", "yezidi"],
     ["yiii", "yi"],
     ["zanb", "zanabazarsquare"],
     ["zinh", "inherited", "qaai"],
     ["zyyy", "common"]]
  table :=
    gappedPartition <| decode
      ["a2a5jaz2iaf5jaz2ia1o5jaa2iao5jaa2iae5jaw2iaa5ja+2iaa5jaEa2ia1g5jae2iae5jabnat5ja3p5iad1m",
       "aa5jac1mcd1maa5jaa1mea1maa5jaa1maa5jac1mba1mbt1mb1+1manyap1ma4eXab5ia5iXb1ffc1rfccfb1w1u",
       "iW1uef1uledaa5jafdaa5jandaa5jacdaa5ja-daa5jajdak5iazdaa5ia3ldaa5ja1bdan4lb1X4lcc4la1pda1",
       "r4wo1W3fcc3fa1n3Xco3XbX2sca2sbk4lf+dbbdf2kdaa5jaYda2qYad5iaoYab5jazYadlbhlcblcvlbglbaldd",
       "lcilcblcdlialeblbelcylcc1pbf1peb1pcv1pbg1pbb1pbb1pbb1pca1pbe1peb1pcc1pda1phd1pba1phq1pkc",
       "1nbi1nbc1nbv1nbg1nbb1nbe1ncj1nbc1nbc1nca1npd1ncl1nhg1nbc3lbh3lcb3lcv3lbg3lbb3lbe3lci3lcb",
       "3lcc3lhc3leb3lbe3lcr3lkb4qbf4qdc4qbd4qdb4qba4qbb4qdb4qdc4qdl4qee4qdc4qbd4qca4qga4qou4qfm",
       "4tbc4tbw4tbp4tci4tbc4tbd4thb4tbc4tca4tcd4tcj4thi4tam2dbc2dbw2dbj2dbe2dci2dbc2dbd2dhb2dgb",
       "2dbd2dcj2dbc2dmm2zbc2zb1s2zbc2zbf2zep2zcz2zbc4dbr4ddx4dbi4dba4dcg4dda4def4dba4dbh4dgj4dc",
       "c4dm1z4xea5jaX4x1fb2hba2hbe2hbx2hba2hbw2hce2hba2hbg2hbj2hcd2h1a2h4yb1d4ye1g4yb1d4ybo4ybg",
       "4yad5jab4y1f4-2-a1f1gba1gfa1gc1k1gaa5jad1ga7-1qa2i1ebd1ecg1eba1ebd1ec1i1ebd1ec1a1ebd1ecg",
       "1eba1ebd1eco1eb1y1ebd1ec2c1ec-1edz1eg2vwcfwcJ-taY3hd2k3Wac5jak3Whv4vja4vau1sab5jjtrmm4mb",
       "c4mbb4mm2Z2acj2agj2agb2Xab5jaa2Xaa5jat2Xg2y2Xh1k2Xf2ftk+2kbl2kel2kea2kdl2kaZ4oce4ol1l4pe",
       "z4pgk4pdb4pa-2aaXqcbqa1+2gbY2gck2ggj2ggn2gc+5i1r2mhb1rha1-4ia1tkidka1x2jdo2jdc2ja1p3iakX",
       "f1k1gcc1gah4iic5iaa5jam5iaa5jag5iad5jaa5iaf5jaa5iac5jab5iaa5jf1f2iae1maaXa1q2iae1mad2iae",
       "1mam2iaaXa2f2iaa1ma1-5ia7-2iav1mcf1mc1f1mcf1mch1mba1mba1mba1mb+1mc1u1mbo1mbn1mcf1mbs1mcc",
       "1mbi1mbl5jab5ia2w5jbk5jaa2ick5jaa2iao5jbm2id1a5jp1a5ip1f5jaa1mac5jab2iaf5jaa2iaW5jaa2iaq",
       "5ja1i2iac5jeKz5jwk5jvS-5ja7-paJt5jc-5jb3i5ja2-1ha-2ia3tyfgya1f1gba1gfa1gc1x4uhb4uoa4uaw1",
       "ejg1ebg1ebg1ebg1ebg1ebg1ebg1ebg1eb-Xa2Z5j1cz1rb2y1rm6v1rWu5jaa1raa5jaa1ray5jai1rad5iab1q",
       "ah5jad1rad5jb2v1vcb5iab5jac1vaa5ja2z1Zab5jac1Zf1knb2Z1qbp5ja-na1f5jja5jap1Za+1qb1-5ja+1q",
       "a2q5ja1o1Zaa5ja2x1Za5h5ja6D-1ra1-5jaKF-1ra14m5gd1w5gj1p2na9l4-u2-Xa2xii1b5ja3f2iac5ja2c2",
       "icb2iba2ibh2ivn2ia1m4kdj5jg1x3si2f3Zil3Zg-Ya1n1Yaa5jaa1Ya1d3yla3yaY1qd2n1Xba5jaj1Xeb1Xa+",
       "2-b1wvjnvcjvcdva-2-a2c4sye4saw2Zkf1ecf1ecf1ejg1ebg1eb1k2iaa5jai2iaa1mad2iab5je2pwa1n2Zcj",
       "2ZgATd1qmw1qe1q1q88eBn1rc3j1r1gg2imeffz1ube1uba1ubb1ubb1ubj1ua3sdqBkdab5ja2pdc1vdhad1apd",
       "ap5iaj5jgn5iabXa1c5jbs5jbd5jeedb4gdca5jb-5jaz2iaf5jaz2iak5jaj1Zaa5ja1m1Zab5ja+1qdf1qcf1q",
       "cf1qcc1qdg5jbg5jke5jcl2mbz2mbs2mbb2mbo2mcn2m1c3W2mfc5je1m5jdi5ja2o1mbm5jda1m1p1m5jaa5i4c",
       "Y2od1qupa5iaW5je1d1Wjc1WaW1kf1k3rfZ4+ba4+a1d5den5d1k2p-a1p3-aZ3ncj3ng1d3me1d3me1h1ci1tbl",
       "abak5abo5abg5abb5abk5abo5abg5abb5ad1t4Xm9w2ljv2lkh2lyf2ib1j2ibi2i2ffWcaWb1lWbbWdaWcaWave",
       "biea-3pa+3dii3d1qs1tbb1tfe1taX3vda3vaz2pfa2p2a-2yax2xet2xc1n2xad1-bb1-fh1-bc1-bY1-cc1-ej",
       "1-hi1-h-3Ya-3c1a1g2tel2tj1vgdggav3xch3xas3tfh3tar3uhd3umg3u2q2i3k1x1s1zn1s1zhf1za1h3zij3",
       "zg1f1fdY1fib1f6q+db1j5fbc5fcb5fqcd1xdda1h4fi1j4ewz3o1gXxuw1dj2noe1dojaoa2c2fka2fcy4ghj4g",
       "g1usbrsi1g2qj2-4abt4dlr2bb1o2b1+g2+ba2+bd2+bo2+bk2+g1W4cfj4cgd1lbh1lcb1lcv1lbg1lbb1lbe1l",
       "ba5iai1lcb1lcc1lca1lga1lfg1lcg1lde1llj4Zba4Zca4Zb1f4Zbj4Zba4Zca4Zbd4Zbj4Zbb4Zib4ZZ2X3ebe",
       "3e+2h4zij4z5g1v4bc1f4b1c2e2Wlj2Wgm2Xt1z4ngj4ngt2-YWccocewc5z1X+3e2s5bma5bagZcaZchZbbZbZZ",
       "bbZclZjjZ2gh3bc1n3bck3bX2h5hi2s4hnpta1y3qhjY5w1b4joj4jgimb1mmbnmkYmd-2ucv2ubn2u2jg1jbb1j",
       "b1l1jda1jbb1jbi1jij1jgf1ibb1ib1e1ibb1ibf1ihj1i9wy2rhq1+b1i1+dY1+2va2np1r4qna4qaSz5e3g3o5",
       "ebe5el6d5e2Im3czn12v1bk3SW1bfIg1w6Lz1z1o1MgHyih+2Ybj2Yeb2Ya2o4Wbj4WgZjcfjk2f1xkj1xbg1xbu",
       "1xfs1xDq1z2e6g2W2v3f2k3we1y3whq3w2aa4raa3gab1raa2clb1ro5Vx4riN-4raEv2c1ja2cai4r8Nhd1Zbg1",
       "Zbb1Zba1Za8+1vac1Zpa1vZc1vca1Zod1ZiCl3g28e3k1afm1adi1ahj1acd1aad5j3QY7z5jgDt5j2m1n5icw5i",
       "j3t5j1Y7v5jk1g5jc1Z5jac5iaq5jah5iab5jag5iaZ5jad5ia1Y5jv2f1m3Wt5jmt5jm2w5jjy5j4h2u5jb2g5j",
       "bb5jca5jcb5jcd5jbl5jba5jbg5jb2a5jbd5jch5jbg5jbX5jbd5jbe5jba5jdg5jbAt5jc9d5jc1r5jaKl3+pe3",
       "+bo3+12q+2igf2i6vg1hbq1hcg1hbb1hbe1hf1ZX1baX3q1m1ydn1ycj1yeb1yAa+4Yr1z5cfa5cEq1j3a6w1k3j",
       "ea3jFag1ebd1ebb1ebo1eb6e2wcp2w1j2laejaebaOr2d5j2m1Y5j6cddbWdbbdbadcadbjdbddbadbadgadeadb",
       "adbadbcdbbdbadcadbadbadbadbadbbdbadcddbgdbddbddbadbjdbqdfcdbedbqd1ubd8o1l5je3d5jmo5jco5j",
       "bo5jb1e5jk5n5j1yz5jaa1vab5jn1l5jei5jhb5jof5j4WUx5jeq5jdm5jd3w5je2+5jgl5jea5jpl5je1x5jij5",
       "jg1h5jiZ5jcl5jeb5j1+At5jmn5jcm5jdj5jf1x5jho5jck5jgi5jh4s5jb3f5j10g19M-1r1a41z1rg6Z1rc5Kb",
       "1ro79q1rpJn1r2DcGZ1r1Fc4Qk1rf42-1rLN2ra5j+2-5j4a7p5i"]

/-- The code points that a script shares with the script they belong to. -/
def extensions : List (Nat × List String) :=
  [(0,
    ["1G-a1aa6Goa3Fra"]),
   (1,
    ["Oea1ma1ma"]),
   (3,
    ["1Gmaoada1aakkWa6E+a3Fra1JNYb1DaX"]),
   (5,
    ["Oia"]),
   (6,
    ["5xaBByb"]),
   (11,
    ["LYa1Kubrb4Rkabacbbaiaiacaeacc12Vza"]),
   (13,
    ["MhabcnaB9hcejbmkdcaga6da1JAjb8We"]),
   (16,
    ["1AEpa"]),
   (17,
    ["5Pvb"]),
   (18,
    ["2Fgj1Iqj"]),
   (20,
    ["5xa7Tcaca3Eta"]),
   (22,
    ["Oacbagbwblb"]),
   (24,
    ["5xaIiadbba3mbALba1L6iX"]),
   (25,
    ["208ab"]),
   (26,
    ["208ace1mdi"]),
   (27,
    ["LYa2dcbababacafaBtb6Bra42ka"]),
   (28,
    ["LYa1Kubrb4Rk1gbbVwa11P-j"]),
   (30,
    ["2Bel17Maj"]),
   (32,
    ["5xaIpbbaybAOxa33Jdd"]),
   (34,
    ["5xaIna"]),
   (36,
    ["Ooa"]),
   (37,
    ["1Gmaoada"]),
   (38,
    ["5xa16ra2Rra3Q+a3Ewa"]),
   (39,
    ["5xaIlabaB+aca8ba2Rra3Q+a3FiaU1la"]),
   (40,
    ["5xa25mb"]),
   (41,
    ["2Beb"]),
   (42,
    ["5xaImbca1ia"]),
   (43,
    ["2ArbrbKan46Yabb+cdbVwa1SIka34ubba"]),
   (44,
    ["5xaIibcababaka1oaca1oa6IlbKXa"]),
   (45,
    ["2Arbrb17Mkj"]),
   (46,
    ["2Bfa"]),
   (47,
    ["2Arbrb17Mkj"]),
   (48,
    ["C0bcejbmqaga6da1JAjb8We"]),
   (49,
    ["5xaBPypbccabjbmkdcagaed5Xa4up1a1fja1q1h1y1qpl1ta2yyke3a+SObhLPZb8We1KVWr7M+b"]),
   (50,
    ["5Pvb"]),
   (52,
    ["Ohb"]),
   (53,
    ["C0bcejbmqfbaeb2Xdda2Wb1JAib8Weka1nb"]),
   (57,
    ["82Waca3Etapa"]),
   (59,
    ["1AEpa"]),
   (60,
    ["1A9oa"]),
   (61,
    ["OfaZaB6Zcejbmqfbaeb2Xdda2Wb1JAib8Weka1nb"]),
   (65,
    ["2Ngj17Aaj"]),
   (67,
    ["2Arbrb4Rkabbgaxaba12PXf"]),
   (69,
    ["2Bgj96baUF+j"]),
   (72,
    ["5xaGeakabcbajaba1gobbbamacchbbb1gafaem8vb16kb1Tia37YaHwa6aa39gaU7ihHga"]),
   (74,
    ["2Bfa"]),
   (75,
    ["208h1m"]),
   (76,
    ["208ace1mdi"]),
   (77,
    ["LYaqaB9Yb"]),
   (78,
    ["82Wa"]),
   (79,
    ["5xaBBza"]),
   (80,
    ["5xa25ml17Maj"]),
   (82,
    ["1Iaa"]),
   (83,
    ["1Iaa"]),
   (88,
    ["82Za"]),
   (89,
    ["2Arbrb4Ruaxa12PZc"]),
   (90,
    ["1A1qj"]),
   (91,
    ["60cbba21ja3Urbfd"]),
   (94,
    ["2Jgj"]),
   (95,
    ["1A9oa"]),
   (97,
    ["2BebSaj3Vzaiaha12Pvf"]),
   (101,
    ["1Gmaoada1TO+b"]),
   (105,
    ["2Beb"]),
   (106,
    ["82Wa3Eva"]),
   (107,
    ["2Arbrb4Ruaxa"]),
   (108,
    ["Obacaga2ma"]),
   (110,
    ["1Iaa215ra"]),
   (113,
    ["5xaIiafckaBpa"]),
   (114,
    ["60cbba21ja3Usa"]),
   (116,
    ["1Iaa"]),
   (121,
    ["1Gmaoada1aa4ta"]),
   (122,
    ["5Nlc"]),
   (123,
    ["BHra"]),
   (127,
    ["5xa"]),
   (128,
    ["2Ara4Sfabacbca12Qpfca"]),
   (130,
    ["2Beb17Mkj"]),
   (131,
    ["2Beb4Sma"]),
   (132,
    ["1Iaa"]),
   (137,
    ["OabbajacaYada"]),
   (138,
    ["2Beb4aj"]),
   (139,
    ["OdbcbbavacchbbaMXaobca1aakkWa5Shaba"]),
   (140,
    ["5Pvb"]),
   (141,
    ["2Beb17Mkj"]),
   (142,
    ["Oabfbda39tj"]),
   (144,
    ["2Arbrb4Rua130yaQGnaba1xb"]),
   (145,
    ["BVqpFpa"]),
   (147,
    ["2Arbrb4Ruaxa"]),
   (148,
    ["Ocabacaba"]),
   (149,
    ["5Pvb"]),
   (150,
    ["1Gmaobca2aj1TSiaka"]),
   (151,
    ["LYaWa1la1na"]),
   (152,
    ["C0id"]),
   (153,
    ["2Arbrb4Sma12PZj"]),
   (155,
    ["Obacacajaba2ka"]),
   (156,
    ["LYa"]),
   (157,
    ["37gj40caba12PXf5Xa"]),
   (165,
    ["1Gmaoada2aj"]),
   (166,
    ["C0bbfjch6-a1JJfe"])]

def sharedRanges (place : Nat) : List (Nat × Nat) :=
  match extensions.lookup place with
  | some lines => spans (decode lines)
  | none => []

def allSharedRanges : List (List (Nat × Nat)) := extensions.map fun entry => spans (decode entry.2)

/-- The scripts of code points that belong to no script in particular. -/
def common : List String := ["zyyy", "zinh"]

end Script
end Unicode
end CompactSchema

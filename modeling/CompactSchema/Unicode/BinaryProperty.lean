import CompactSchema.Unicode.Runs

/-
The binary properties of code points.

Each property has its names, in lower case and without separators, and the ranges
of its code points.
-/

namespace CompactSchema
namespace Unicode
namespace BinaryProperty

def alphabetic : List (Nat × Nat) :=
  spans <| decode
    ["2bzgz1pakaeafwb+bEjeloehaba2waZrbbcdbagabcbabtb2sb4ki5fb1fcag1i1hnbabbbbbaiWedZkf1xbgo3f",
     "bheheckccaq1pn3ey1ajbeafxcstyhkfxbfiai1jkldgg2lbpbceonsbhcbcvbgbadddhcbcbbaiaebbembkaecb",
     "febcvbgbbbbbbeeebcbeahdbarflcbibcbvbgbbbedibcbbdapdvdecbhcbcvbgbbbedhcbcbjbebbenaqbbfdcb",
     "ddbbabbdbdcdleedcbcdaga1imbcbwbpdhbcbcibbccacdYdbhbcbwbjbedhbcbcibgbbdncmmbcb1ichbcbcbaf",
     "dhewfbcbrdxbibacgifbabhsbn1zfgga1tbbabebxbabsbccebagaod1aa1-hb1desepb1d2d1wbaceq1-kdc1fb",
     "afac1kbAmbdcgbabdc1ibdc1abdcgbabdcob1ybdc2c1fpq2vcfdJlcqbzf2kdkhtlumtmmbcbbm1tcsoaea2d2y",
     "h1kf2fk+bleixZcel1lez1wXe1+ct1saxblc1r1tbobh1t1jcdk1lbko1wwck1dckf1kcc1jdbfbbdaf5-t1bl8v",
     "cfc1fcfchbababab+c1ubgbadcbgddcfemfcbg3uanaqm3faeacjbadegabababdbkcdfeear1iPn1t1Ow7egddb",
     "m1fbafac1xhaqwjgbgbgbgbgbgbgbgb-1paEvczihecee2vgcb2zbdf1kb2Zr-1qpGa6D-2aLKm2d1nc8mdpkbu1",
     "ofhd3q1hic3gc2ccbbabhvtb1ay1tm2dba1mfdabck1af1cnYd1sblpaqpkeb1wjnswd2ebabayccpcdlfcfcfjg",
     "bgb1kbng3WvATdmwe1q88eBnc3j1ggmeflbmbebabbbbb3l1bBks1-c1v1il3ueb4g1ezgzl2ydfcfcfcc1dlbzb",
     "sbbbocn1c3W2f1u8lYd1q1p-nZf1kfZc1dehbe1k4Zs1de1de1hi1tmkbobgbbbkbobgbbd1tm9wjvkhyfb1jbi2",
     "ffcab1lbbdacwkwj+2bsbbkvkz2g1xgb2adbbfhbcbY1kYdY1dhbXX1vkvksnr3o2i1x1sn1sn1h1cXdafw7W1jb",
     "bdbqc1xadYkaiv1kr1ouXwj2f1lek1yjanyx1srdi1cdaj1-bdjbkaba1drb1bcagd1+gbabdbobjh1yxdbhcbcv",
     "bgbbbedhcbcbdagafgYjbacab1fbjbacabdbbdaba1m2bbcbduc+2bcbba5y1vcgzf1c1+bada1X1vca2hWcnvg5",
     "z1y3h1--hcachbbbZbbcbcd2Zhc1ncfbabbX1scjr2hfas2i6h1a-ib1mbgba1rZcvbn2jgbbb1ldabbbcbacbyf",
     "bbb1ebbbdbaAhwjqb1idc3pa2pSz3g3or6d2Im3ap11prfz3SWfIg6Lz1o1MrHyh+r2orZs1pqd-ufsDq1m6t1-4",
     "a2ke1yhq2abbambo5Vxi16v1jj8Nhdbgbbb9cpaZccaodiCl28e3kfmdihjea5Rb2ub2gbbcacbcdblbabgb2abd",
     "chbgbXbdbebadgbAtcybyb+byb+byb+byb+bybh1Pu+gf6vgbqcgbbbef1Z1ba3q1mkgqaAbZs1lFeX7eZcaFpgb",
     "dbbbob6e1X2ddada15udbWbbbacabjbdbabagaeabababcbbbacabababababbbacdbgbdbdbabjbqfcbebqJuzg",
     "zgz3Jw19M-1a41zg6Zc5Kbo79qpJn2DcGZ1Fc4Qkf42-"]

def asciiHexDigit : List (Nat × Nat) :=
  spans <| decode
    ["1qjhfWf"]

def bidiControl : List (Nat × Nat) :=
  spans <| decode
    ["1GYa6FrbWe1xd"]

def bidiMirrored : List (Nat × Nat) :=
  spans <| decode
    ["1ibsabaYabaZaba1napa3J+d1QZb2CYbkb1wbob5ra6addfdadbddbdbabaeifabrfdjbbabhb-cdfajbcsfbjec",
     "bexcpidubhb11Zn2kacdbbbcfdfcdnCtvcfbniahfdaeebbceeabccbkfcbmsbdcabacabdfbgcyblbedbbcbe1k",
     "chb1hfabadefceadeba8aaGdddbbbobcj1lhDljch1JHZffb5cbsabaYabaZababbbb1LRxa1za1za1za1za"]

def caseIgnorable : List (Nat × Nat) :=
  spans <| decode
    ["1hagala1daba2haeabaeacbFx5-ebeajbba7Xg6pafa1r1mbabbbbba1malfkkba1dakuqa3fhbjbd1baba+W2Xk",
     "1Wkeacayx1lc1mahbfi1j1z1xabaeheadgkbnapa1WaediaubWacb1zaebebccda+bdalb1zaeebbeaubwfba1Wa",
     "cabdiahblb+a1Zama1sada1xabcfcbdhblbZa1WacagafbubYb1zbediaubZa2iahcba2Wacgli3cacijabg2jbX",
     "ababa1xnbebbfkb1dja3gdbfbbcbzbecqdnacbgapa2+aJacTscZb+b+b2abbgiackdafa1ne1ta2bb1ca3wcebj",
     "agc6Xbca1Wabgbabachgjca1hai+1rd1qabebafa1iimb1adcbbc1yabbdabc1Whcb2af2scbmbgeagadb1s1+na",
     "1c3eDZabclcncncnbmeibkacace1rebjbanaqm1t1a2Slb3rc3Zapa3a-1paEva1eddefa2Zf2ZcROwa17cf8oa3",
     "cdbjbaYd2qbo1b2oaxc3hcdbiadaeazbfa4xbWrna1ghzk1oc1qacdcbravb2cfcbcbmaia1dala1tabccbfbbaX",
     "aobfbba3eejc3zacaeaJPqa4tqHZpdamp1caca5jahagala1daba1pa1nb2davcGba7ca4ve10ffb1jbiIgcbbfd",
     "1icea5fbHZd1gaWeba9Xb2pd2gk1rd3Xa1wo1jacbkc1rdcbcaeaka1sc1eebh1+amb1uikdca2-ccabbgaca4Za",
     "dhvb1zbda1fgde2gfnababaob2vhccbaxa2ufbaebbb7odgbbbXb2vhcabb3kabacfba3fabacdbe8dibb8abbae",
     "a4qdcbea1aj1ifcdiajfcc1ombbCwgbfba2svcgbbbb3Wfdabbbgba2ibdabaAXblb1uefabaxa56vqgoB6ildc2",
     "Eae1XgjdFYc1ibFca1-q2abbbG0ldbgbb34+bbd4IY1ncwHacjpcg+d4uc1TX1we1riaoawebo1Aqgbqcgbbbef1",
     "Z1ba5anBqa1ZdFXe7+bNag3nh2LpeO30ba+2-4a7p"]

def cased : List (Nat × Nat) :=
  spans <| decode
    ["2bzgz1pakaeafwb+b6cbde6pb1dhb+e3aa1kdcbcdbagabcbabtb2sb4ki5fb1fj1i2Ox1fbafac1kbdLa2vcf24",
     "ckf1kcc2a5-2a8vcfc1fcfchbababab+c1ubgbadcbgddcfemfcbg3uanaqm3faeacjbadegabababdbfeacdfee",
     "ar-dbPr1t1Ow7egddbm1fbafaU8s1nsZ4e3fddb1ZcbbabhvebcPv1kbng2pJQagme10jzgz15f2p3a1de1d3ukb",
     "obgbbbkbobgbbEdaccb1jbi16f1sn1s2Zvkv2OW1-LBa1-PCa2ub2gbbcacbcdblbabgb2abdchbgbXbdbebadgb",
     "Atcybyb+byb+byb+byb+bybh1Pujbtgf8f1Z24s2d1Vmzgzgz"]

def changesWhenCasefolded : List (Nat × Nat) :=
  spans <| decode
    ["2bz2Wakwbh1aabababababababababababababababababababababababababababacababababababababbbab",
     "abababababababababababababababababababababbbabababbbabbbccdbbbcdbbbbababbbacabbbcbabbdah",
     "bbbbbbabababababababacababababababababacbbabcbababababababababababababababababababababab",
     "abababababababahbbbcabdbabababa7wa1kabadaiagabcbabbbqbiwamcdbbababababababababababababbc",
     "bbabbc1s1qababababababababababababababababajabababababababababababababababababababababab",
     "abababababbbabababababacabababababababababababababababababababababababababababababababab",
     "abababababababababababababababac1f1qa2Oy1fbafaPkf24cjg1kccAaabababababababababababababab",
     "abababababababababababababababababababababababababababababababababababababababababababab",
     "ababababababababababababababababafbcabababababababababababababababababababababababababab",
     "ababababababababababababababababababababababajhifkhihiflabababaihq1pcccffccfldmefccf9jad",
     "bga1nptaPsz1Pq1p1qabccabababdbacaicbabababababababababababababababababababababababababab",
     "ababababababababababababababababababababababaiabaeaUAnababababababababababababababababab",
     "abababababatabababababababababababababa4hababababababadababababababababababababababababa",
     "babababababababababababababakababbbabababaeabacabadababababababababababebebababababababa",
     "bdbabbdafabababayaRW2pJQagme10jz16f1h4i1d4Ykbobgbb1Nk1s4Zv2PW-LCa-ULa1b"]

def changesWhenCasemapped : List (Nat × Nat) :=
  spans <| decode
    ["2bzgz1Wakwb+b1-b2tbXcncbbae2YbrgWbbbabbdbbdbecabbcahacabbdffakb5ga1kdcbdcbagabcbabtb1od1",
     "abeb4ei5fb1fk1g2Oy1fbafac1kccLa2vcf24ckf1kcc5zadaqa3r4Xcab3vcfc1fcfchbababab+c1ubgbadcbg",
     "ddcfemfcbg9jadbgaXar-dbPr1t1Ow3qbbbbh3fhddbm1fbafaU8s1nsX4gnc1ZjodccebybZcbegybQYaY2pJQa",
     "gme10jzgz15f2p3a1de1d3ukbobgbbbkbobgbb1Md1sn1s2Zvkv2OW1-LBa1-UKa2d"]

def changesWhenLowercased : List (Nat × Nat) :=
  spans <| decode
    ["2bz3fwbg1babababababababababababababababababababababababababababacabababababababacababab",
     "ababababababababababababababababababababbbabadbbabbbccdbbbcdbbbbababbbacabbbcbabbdahbbbb",
     "bbabababababababacababababababababacbbabcbababababababababababababababababababababababab",
     "abababababahbbbcabdbabababa9babadaiagabcbabbbqbi1daiabababababababababababafacabbc1s1qab",
     "abababababababababababababababajabababababababababababababababababababababababababababbb",
     "abababababacabababababababababababababababababababababababababababababababababababababab",
     "abababababababababac1f2Qj1fbafaMs2v24tag1kccAaababababababababababababababababababababab",
     "abababababababababababababababababababababababababababababababababababababababababababab",
     "abababababababababajabababababababababababababababababababababababababababababababababab",
     "ababababababababababababababajhifkhihiflabababaihyhihihieleldmele9jadbga1nptaPsz1Pq1p1qa",
     "bccabababdbacaicbabababababababababababababababababababababababababababababababababababa",
     "bababababababababababababaiabaeaUAnababababababababababababababababababababababatabababa",
     "babababababababababa4hababababababadabababababababababababababababababababababababababab",
     "ababababakababbbabababaeabacabadababababababababababebebabababababababdbabbdafabababayaL",
     "Plz16f1h4i1d4Ykbobgbb1Nk1s4Zv2PW-LCa-ULa1b"]

def changesWhenTitlecased : List (Nat × Nat) :=
  spans <| decode
    ["3bz1Wa1jxbhbabababababababababababababababababababababababababababacabababababababbbabab",
     "ababababababababababababababababababababacababccabacadafacadccacababacaeacadabacadabaeab",
     "bbbbababababababababbbababababababababcbabadabababababababababababababababababababadabab",
     "ababababababaiacbbaeababababfbbbabbdbbdbecabbcahacabbdffakb5ga1labadadcsaX1cbbdcbabababa",
     "babababababababebacaca1u1pbababababababababababababababababajabababababababababababababa",
     "bababababababababababababacababababababbbabababababababababababababababababababababababa",
     "babababababababababababababababababababababababa1r1g3Jqf24ciba7oadaqa3sababababababababa",
     "babababababababababababababababababababababababababababababababababababababababababababa",
     "babababababababababababababababababababababgfabababababababababababababababababababababa",
     "babababababababababababababababababababababababababiifkhihifkhihinchihihiebbgadcbbidcbih",
     "kcbbAwa1bpeaQlz1Qg1pbadbbababagacakababababababababababababababababababababababababababa",
     "bababababababababababababababababababababababaiabaeam1fbafaU8tababababababababababababab",
     "abababababababababatabababababababababababababa4hababababababadababababababababababababa",
     "babababababababababababababababababakabacababababaeaeabbcabababababababababalabababababa",
     "babaeabacadafababaWaQYaY2pJQagme11jz16n1h4i1d4Xkbobgbb1Od1s3Zv2PW-LCa-ULc1b"]

def changesWhenUppercased : List (Nat × Nat) :=
  spans <| decode
    ["3bz1Wa1jxbhbabababababababababababababababababababababababababababacabababababababbbabab",
     "ababababababababababababababababababababacababccabacadafacadccacababacaeacadabacadabafbb",
     "bbbbabababababababbbababababababababbbbbadabababababababababababababababababababadababab",
     "abababababaiacbbaeababababfbbbabbdbbdbecabbcahacabbdffakb5ga1labadadcsaX1cbbdcbababababa",
     "bababababababebacaca1u1pbababababababababababababababababajababababababababababababababa",
     "babababababababababababacababababababbbababababababababababababababababababababababababa",
     "bababababababababababababababababababababababa1r1g2Qi1kccNyf24ciba7oadaqa3sababababababa",
     "babababababababababababababababababababababababababababababababababababababababababababa",
     "babababababababababababababababababababababababgfabababababababababababababababababababa",
     "babababababababababababababababababababababababababababiifkhihifkhihinc1ubbeabadcbbeaddc",
     "bihkcbbeaAra1bpeaQlz1Qg1pbadbbababagacakabababababababababababababababababababababababab",
     "abababababababababababababababababababababababababaiabaeam1fbafaU8tababababababababababa",
     "babababababababababababatabababababababababababababa4hababababababadabababababababababab",
     "ababababababababababababababababababababakabacababababaeaeabbcabababababababababalababab",
     "ababababaeabacadafababaWaQYaY2pJQagme11jz16n1h4i1d4Xkbobgbb1Od1s3Zv2PW-LCa-ULc1b"]

def dash : List (Nat × Nat) :=
  spans <| decode
    ["1na1AYa1ta3Iba10fa20jf1Za1hapaCga30eaca-beaYaD+ata3pa1JCqb1faka5ja3Jaa9+a"]

def defaultIgnorableCodePoint : List (Nat × Nat) :=
  spans <| decode
    ["5naLbaMma2Qcb1Itb2ve1VXeWe1rp47ua1J4Xp7pa5aa2pi1F5hd56phOBKf3V-"]

def deprecated : List (Nat × Nat) :=
  spans <| decode
    ["Aja19ja28daba21jb26ffLzbRN6wa"]

def diacritic : List (Nat × Nat) :=
  spans <| decode
    ["2+aba2hagaeacbFx4+bhffrbeajb7Ze6ra1xqbWbabbba4gheb4gbebdc2dW2Xk1Wk1cb3+h1jjqX1ZaqaddYa2k",
     "aqa3oaqa3oaqa1pc1Yaqaha3xa3oaqa3oaqa3nbqa3Ya3pamfba3lane2lbXababaeb2ccbb1+a3qabb1ibeezgb",
     "akbMbcTub+a4ukjaAXc9eauhca1qock3iapa1gi1wb1Walb2cb2af2syeagacc1s1+2zl1fkDZabclcncncnb37q",
     "c9ZaFWf3jd2-aTBsambbaYb2sbo1b3gc3nbma1fa4xaXr1zd1ea2-ama1ea4vc2bd1ta3eejc4abJPqaObp8oaba",
     "1pa1nb2daNYa14-fb1jbiJZcea5fbHXf1gaWeCpc2gk1rd6aa1ja2ib3yb1+a2majc3ib5sb2qbqaygde2zcbbnb",
     "2-ada3Xb7Xb3+a3wb3ta8nb8cbea4Ya2tasa2raDfa8cabb2raDjbxa57moB6za2Eae1XgHubHcq2qbFV+dbgbb7",
     "Ob1ncwHacdfihcg+d3Kc1Z6cgBxa1ZdN+bNag3ncbc"]

def emoji : List (Nat × Nat) :=
  spans <| decode
    ["1dagafj3paea7Snama6yawa2WfpbBpbma5gazkec6ha7hbkaja1Wdbejacacbcaeacabbcadadbicfabafllbcab",
     "bbasacbsfbabbdbfacbeblbfbcafbbabbubffbdcaeacacfbacababagadagakbpacaeabaecbalb1qcjaoaoaBu",
     "bEpctb1taea16WamaIzaba3FBka6ka5abmboacj2lzbbxauacivb5o1bc3pcbbcc2sccb8gb1+lfbxhbchmacdca",
     "ebnbcaibjafcmciccabaeagadag2v1q2ffhccejdabbdacj7dlea8X1objb5y3qmdjf1xhockgi"]

def emojiComponent : List (Nat × Nat) :=
  spans <| decode
    ["1dagafj7Uta6va1N9la1SUwzFXe1DqdO1Jm2-"]

def emojiModifier : List (Nat × Nat) :=
  spans <| decode
    ["3SVXe"]

def emojiModifierBase : List (Nat × Nat) :=
  spans <| decode
    ["9GZa6Xaqd3J3xa1Yccacc3vbckvsdaecbchabaya6jbeavaeb5ocde2taqcjalaH-acaihgajjcc1ya1Zbbbbarc",
     "bm7fc1ki"]

def emojiPresentation : List (Nat × Nat) :=
  spans <| decode
    ["8OWb6nddacaGjbvb1sl1latanaibrbfbiafavahbbaeacahaebYa1dabaecba1ZcyaoaQXb1taea3H5oa6ka5+ac",
     "j2lzbayauacebcvb5o1amib2fbvm1keemqdad2gbab5Wc1+ndbxsaWbna2w2u1q2fgadcccedlbhi7dlea8X1obj",
     "b5y3qmdjf1xhockgi"]

def extendedPictographic : List (Nat × Nat) :=
  spans <| decode
    ["5jaea7Snama6yawa2WfpbBpbma2-a2gazkec6ha7hbkaja1Wdbfblb3rk3vckbabagadagakbpacaeabaecbale1",
     "ncjaoaoaBubEpctb1taea16WamaIzaba3FBg7-nc-a1Yfmboacjs1yXokauacibdjDrf9Zi8j1q3-3ul2v1kmd1y",
     "hkf1ih+2rm1objbDy8aVZ"]

def extender : List (Nat × Nat) :=
  spans <| decode
    ["5xaGybRoaDzaJwa4ja2zaNqa3-a2Ada1yaJdaCoa2ea4Sja1le3hb2ZcROwa1FwaUcawa4ja3mavbL3Xa20qb1El",
     "aXaea16ha9fa3ubFsc16paK5jb14YbbaSAyb15raQuc"]

def graphemeBase : List (Nat × Nat) :=
  spans <| decode
    ["1a2+1bmbIr3qhcfegbabtb6-h5fb1fc1rcc1oabacacajWefrjlab1nvpb3eiagbcae-cabZZ2ylao1kjgdxeaja",
     "dahobyfabkf+r1j1z1wbabdidbchjcYbbbhcbcvbgbadddabbgbcbbanbbcexfabfebcvbgbbbbbbecydbahjccb",
     "amabibcbvbgbbbeddiabbdapbelhaibbhcbcvbgbbbedacagbcbpbbcerlabfdcbddbbabbdbdcdlfabbdcbcdav",
     "ugcbhbcbwbpdaddtccacbejhjbkbcbwbjbedbcabbybbbejbcokbcb1icabbfcbcbbecbjezcbbrdxbibacgjbgg",
     "hjccm1pbblhim1fbbabebxbabjbbjacebajjcd1axcWbababnb1dsaface1rhbfbm1f1meagacbcycddpembbcfb",
     "ob1hbafacBybdcgbabdc1ibdc1abdcgbabdcob1ybdc2cfYdzg2vcfcKYd2yhrnsdbjrombcp1tcahhbblidjgjg",
     "kfjg2yhec1bbaf2fk+edccebbfhad1jcel1lezgkd1ycbd1xbajabbifnjgjgn2w1pkddhbYjlc-ebg1xbaccban",
     "1pibfod1Zf1kcklanahdbfbccaf5-2a8vcfc1fcfchbababab+c1ubobncfbsccbibkfxh1qqbcWbmd1a1-4leKz",
     "wkv1Otc-bAxdbf1mbafac1xhbpwjgbgbgbgbgbgbgbg1b2Z1czb2ym6vW1zgpb2ve3ef1kb2Zb2vj1pbSJmd1wjA",
     "Xu1oeak-c2pcfi6ncbbabhvpbcbdbyceejg1xi2dklymb1fiylamZg1pbbebcbbmbkegbyb1igbcblcbhbacjc-b",
     "1sbadbcecabayqchlfcfcfjgbgb1Xe3ubbbddjgATdmwe1q88eBnc3j1ggmefabxbebabbbbb3YqDYc1vha1apqj",
     "w1cbsbdeeb4ge4Yc+dfcfcfccdgbgnbclbzbsbbbocn1c3Wfce1md2xbmda1p1m4dYd1qqWe1djZf1fkZb1een1k",
     "4Zcjg1de1de1hi1tllbobgbbbkbobgbbd1tm9wjvkhyfb1jbi2ffcab1lbbdacwb2hii1qsbbf1adWfa2a1xetc1",
     "opdbcbYkihih1-1a1eglj1vdYcWfzhdmg2q2i1x1sn1sh1jmjg1fixib6q+b1jdacbqc1X1hivliwred1gXuwjab",
     "1vpgeZbbcam1qebcbbdoyhjj1dfajri1cbcl1tjabhebbpbtlrbXdbefbb1-gbabdbobkg1obcnjibbhcbcvbgbb",
     "bedababdcbcbdamgYjbacab1fbabbpabbdabcbb1h1xibdabubabc+1pbbgabbbacacdij5g1obbgdcacW1e1sib",
     "bacdljgmt1kbabbibgjgtYWdabbeajw5z1ojaca3e2smhcachbbbxbebbgdbcjj2ghc1jidbdXak1hgbehjagbd1",
     "nnacin2ihj5w1bojgib1foabfkYd-zahaca2lgbbb1fvajjgfbbb1eebbabahj9wscdjob1dibdw2wap1rnSW3g3",
     "obel6d2Im3cn11prfz3SWfIg6LzZmcdj1MgHyh+bje2qbjgZhak1phokjbgbufsDq1z6g2W3f2kf1xlm2adY5Vxi",
     "16v1jj8Nhdbgbbb9cpaZccaodiCl28e3kfmdihjcaca3Ra7zgDt4Y3t1Y7vk1gc1XfcwbhZe1Yv2bda3Wtmtm2wj",
     "y4h2ub2gbbcacbcdblbabgb2abdchbgbXbdbebadgbAtc9dcHr1xd1shbnbg13u+gf8f1Z4s1mkgcjebAaZs1lej",
     "faEqXej6wZckeaFagbdbbbob6eci1q2dhaejebOr2d2m1Y6cdbWbbbacabjbdbabagaeabababcbbbacabababab",
     "abbbacdbgbdbdbabjbqfcbebq1ub8o1le3dmocobob1ek5n1yYn1leihbof4WUxeqdmd3we2+gleaple1xijg1hi",
     "Zcleb1+Atmncmdjf1xhockgih4sb3f10g19M-1a41zg6Zc5Kbo79qpJn2DcGZ1Fc4Qkf42-"]

def graphemeExtend : List (Nat × Nat) :=
  spans <| decode
    ["Oa3p8tg8h1mbabbbbba2ik1quqa3fgcfcbbd1da+W2Xk1Wijaydbibcbe1lc1Xi1kxb-1xabaeheadgkbZa1Waba",
     "cdiajakbWacb1zaebebccda+bdalb1zaeebbeaubwfba1Wabbbdiahckb+a1Xabamaja1iada1xabcfcbdhblbZa",
     "1WacbbadcbdhblbYb1zbbacdiajakbZa2iaeaccbaia2racgmh3cacilg2jbXababa1xnbebbfkb1dja3gdbfbbc",
     "bzbecqdnacbgapaL-cTsdYcZb+b2abbgiackja1ncba3vb1ca3wcebjagc6Xbca1Wabgbabachgjca1q+1rd1qje",
     "c1gimb1adcf1yabbdabe1yhcb4ycbmbgeagadb6g1-Gma6d1a2V+c4na3a-Hkf3jbTEudbj1ab2qb8qadaeazbfa",
     "4xbWrna1ghzkba1mc1qacdcbca1ea2dfcbcbmaia1pa1tabccbfbba1kbia7oacaeaJPqaNbpqpBobIZa7ca4ve1",
     "Kgcbbfd1icea5fbHZd2be9Zb2pd2gk1rd3Xa1wo1jacbkc1rdcbha1Zc1eebh1+amb1uibaidca2-ccdgaca4Zad",
     "hvb1zbbabamajaogde2dacfbacabcecbaob2vhccbaxa2racfbacabbbb7lacdgbbbXb2vhcabb3kabach3fabac",
     "dbe8dibb7vakdea4qdcbea1aj1ifcdiajfcc1ombbCwgbfba2svcgbbbb3Wfdabbbgba2ibdabaAXblb1uefcxa5",
     "7fagoB6ildc2Eae1Xg10ya1-d2ralbJ5lb4Jb1ncwG+edfihcg+d4uc1TX1we1riaoawebo1Aqgbqcgbbbe3ea5a",
     "gBxa1ZdFYd7+bNag3ngO5Mv2-4a7p"]

def graphemeLink : List (Nat × Nat) :=
  spans <| decode
    ["2Ana3-a3-a3-a3-a3-a3-a3-a3nbqa3Ya3pa3-a6ja5ub1Mzb+a4ZaKna7da3fb2gb4ClaUKga1fa4xa4oa3ma9v",
     "a7waNIra1Gga1jaoa1za3zb4la3ua5ua3ca4ac3ra3-a7Ya3-a3wa3ua8na8db5ba2tasa2raDfa8eb2raDjbGFm",
     "a"]

def hexDigit : List (Nat × Nat) :=
  spans <| decode
    ["1qjhfWf1VLjjhfWf"]

def hyphen : List (Nat × Nat) :=
  spans <| decode
    ["1na3-a16Ya4JXa20jb3GfaNda1JBha5ja2xa"]

def idsBinaryOperator : List (Nat × Nat) :=
  spans <| decode
    ["BVqbcjFra"]

def idsTrinaryOperator : List (Nat × Nat) :=
  spans <| decode
    ["BVsb"]

def idsUnaryOperator : List (Nat × Nat) :=
  spans <| decode
    ["BV+b"]

def idCompatMathContinue : List (Nat × Nat) :=
  spans <| decode
    ["5sbfa7TwadkboBtaeawa3D5caza-aza-aza-aza-aza"]

def idCompatMathStart : List (Nat × Nat) :=
  spans <| decode
    ["8Gcaeawa3D5caza-aza-aza-aza-aza"]

def idContinue : List (Nat × Nat) :=
  spans <| decode
    ["1qjhzeabz1pakabacafwb+bEjeloehabar3ubbcdbagebabtb2sb4kbec5fb1fcag1ii1mbabbbbbaiWedZkf2je",
     "3fbhcjbscaq1Wc3eo1veacac1nsXekfxbfi2kb4acjbsbhcbcvbgbaddcicbcdiaebbeclkabaccbfebcvbgbbbb",
     "bbcabeebccdahdbahplcbibcbvbgbbbecjbcbccapdcjjgbcbhcbcvbgbbbecicbcchcebbecjbaqbbfdcbddbba",
     "bbdbdcdleedcbdcagaojqmbcbwbpcibcbdhbbccacdcjqdbhbcbwbjbecibcbdhbgbbdcjbcmmbcb1sbcbefdhec",
     "jkfbcbrdxbibacgdaefbabhgjcbn1zfobj1hbbabebxbabwcebabgbjcd1aaxbgjlababaejb1detbrb1dja1z2j",
     "g2nc1fbafac1kbAmbdcgbabdc1ibdc1abdcgbabdcob1ybdc2cccjiopq2vcfdJlcqbzf2kdkhvjvltmmbcbbm2t",
     "daebcj1bcbkg2yh1kf2fk+blelk1hcel1lezgk1fXe1+bYckgjnainbp1r2mdjrim3tm1xijd1qckf1kccqcb1gf",
     "Gvcfc1fcfchbababab+c1ubgbadcbgddcfemfcbgpb1rbtaYanaqm1tmeadlraeacjbacfgabababpcdfeear1i2",
     "Jx7egim1fbafac1xhapxjgbgbgbgbgbgbgbgb-Gfczobecee2vcgb2+f1kb2Zr-1qpGa6D-2aLKm2d1nc8mdXu1p",
     "ejb3s1fic3gc2ccbbabhv1veat1tm2fkjgxdab1qc1dmYd2aokg+b1wjncjgwd2iyccpcekfcfcfjgbgb1kbng3W",
     "bbcjgATdmwe1q88eBnc3j1ggmeflbmbebabbbbb3l1bBks1-c1v1ilepqpdbyc1aeb4gtjhzeabzk2zdfcfcfcc1",
     "dlbzbsbbbocn1c3W2f1u4ia4cYd1qpa--nZf1kfZc1dehbe1k4Zcjg1de1de1hi1tmkbobgbbbkbobgbbd1tm9wj",
     "vkhyfb1jbi2ffcab1lbbdacwkwj+2bsbbkvkz2g1xgb2adbbfhbcbYccea1aYdY1dhbZz1vkvksnr3o2i1x1sn1s",
     "n1hijg1fdebw7W1jbbdbqc1x1akai1a-v1kuXwj2g-pj1Xhanyhjg1ubjedi1dcaj2eedbmba1drb1egd1+gbabd",
     "bobjh1Wfjgdbhcbcvbgbbbebjcbcccagafgcgdeljbacab1fbjbacabdbhnbZ2kfjed+2fbaij5g1vcixf1c2ada",
     "lj1g1yhjgtYWcoejgg5z1W3f2jvhcachbbbZbbcimj2ghc1nchbbX1+iai2jdas2i6h1apjgib1mbipjyZcvbn2j",
     "gbbb1ldabbbiijgfbbb1ebbbfhj9wwjqb1idenk2va2pSz3g3or6d2Im3ap11pqvk3SWfIg6Lz1z1MgHyh+bjg2o",
     "bjgZcel1wjdmjjufsDq1mdj6g1-4a2ke1yhq2abbblbo5Vxi16v1jj8Nhdbgbbb9cpaZccaodiCl28e3kfmdihjd",
     "b42rjGg1ncwG+edfihcg+d4ucDX2ub2gbbcacbcdblbabgb2abdchbgbXbdbebadgbAtcybyb+byb+byb+byb+by",
     "bhc1rGa1we1riaoawebo12q+gf6vgbqcgbbbef1Z1ba3q1mdncjeaAb+r1zEw1j6w1kFfgbdbbbob6elg1j2lej1",
     "5gdbWbbbacabjbdbabagaeabababcbbbacabababababbbacdbgbdbdbabjbqfcbebq39uj10g19M-1a41zg6Zc5",
     "Kbo79qpJn2DcGZ1Fc4Qkf42-LNAq7p"]

def idStart : List (Nat × Nat) :=
  spans <| decode
    ["2bzgz1pakaeafwb+bEjeloehaba4bebbcdbagabcbabtb2sb4ki5fb1fcag1i2hWed1n1k1dbb3cbapbhbkccaqa",
     "bZZ2ylay1ajbeafveajadaxyhkfxbfr1j1W1vdasahjppehcbcvbgbadddaqanbbcobkaifebcvbgbbbbbb-dbat",
     "cqibcbvbgbbbedasapbxalhcbcvbgbbbeda+bbcparabfdcbddbbabbdbdcdlwa1uhbcbwbpdaWccacb+aehbcbw",
     "bjbeda-bbbpbribcb1icaqafcicyffrdxbibacg1W1pbbmg1Wbbabebxbabjbbjacebavd1aa1-hb1dXe3t1kuaq",
     "feddadbhcemmar1fbafac1kbAmbdcgbabdc1ibdc1abdcgbabdcob1ybdc2c1fpq2vcfdJlcqbzf2kdkhrnsorom",
     "bcp1t1daea2d2yh1ibaf2fk+1rZcel1lez1wwj1u2sa2Z1orh1wZnbk1lW1d1jck1dckf1kcc1jdbfbbdaf5-2a8",
     "vcfc1fcfchbababab+c1ubgbadcbgddcfemfcbg3uanaqm3faeacjbacfgabababpcdfeear1i2Jx7egddbm1fba",
     "fac1xhaqwjgbgbgbgbgbgbgbgHgczihecee2veeb2zbdf1kb2Zr-1qpGa6D-2aLKm2d1nc8mdpkbu1oq+c2p1hic",
     "3gc2ccbbabhvpbcbdbwZ1to1r1+fdabblXkwzYh1oYaqebjkeb1ixcbhuwdad1rbadbcecabaycckhcmfcfcfjgb",
     "gb1kbng3sZATdmwe1q88eBnc3j1ggmefabjbmbebabbbbb3l1bBks1-c1v1il3ueb4g1ezgzl2ydfcfcfcc1dlbz",
     "bsbbbocn1c3W2f1u8lYd1q1p-nZf1fkZc1dehbe1k4Zs1de1de1hi1tmkbobgbbbkbobgbbd1tm9wjvkhyfb1jbi",
     "2ffcab1lbbdacwkwj+2bsbbkvkz2g1xgb2aapdbcbY1kYdY1dhbXX1vkvksnr3o2i1x1sn1sn1d1gXjw7W1jgbqc",
     "1XYkaiv1kr1ouXwm1u1zbcan1m1ayW1dZacai1cdam1podvaba1drbytb1-gbabdbobjh1o1ghcbcvbgbbbedasa",
     "me+jbacab1fbazaba1m1usduc+1pubba5y1o1jd1e1pua1X1kna2hW1fg5z1l3u1--hcachbbbxpaba2+hc1gqab",
     "aYak1hhaval1ntas2i6h1a-ib1era1rZ3qgbbb1fvazfbbb-oaAhspabmb1b3Ya2pSz3g3or6d2Im3ap11prfz3S",
     "WfIg6LzZ1NcHyh+r2orZs1pqd-ufsDq1m6t1-4a2kfa2cm2abbaY5Vxi16v1jj8Nhdbgbbb9cpaZccaodiCl28e3",
     "kfmdihj5Rg2ub2gbbcacbcdblbabgb2abdchbgbXbdbebadgbAtcybyb+byb+byb+byb+bybh1Pu+gf8f1Z4s1mk",
     "gqaAbZs1lFeX7eZcaFpgbdbbbob6e1X2dha15udbWbbbacabjbdbabagaeabababcbbbacabababababbbacdbgb",
     "dbdbabjbqfcbebq4Ae19M-1a41zg6Zc5Kbo79qpJn2DcGZ1Fc4Qkf42-"]

def ideographic : List (Nat × Nat) :=
  spans <| decode
    ["C0gbziocUf6D-2aKF-M8aBnc3jT8kaX5Vxi16v1jj93hClJ8e19M-1a41zg6Zc5Kbo79qpJn2DcGZ1Fc4Qkf42-"]

def joinControl : List (Nat × Nat) :=
  spans <| decode
    ["80mb"]

def logicalOrderException : List (Nat × Nat) :=
  spans <| decode
    ["3Iae3Xe2Nqcca147Wbcabb"]

def lowercase : List (Nat × Nat) :=
  spans <| decode
    ["3bz1pakaea1exbhbabababababababababababababababababababababababababababbbabababababababbb",
     "ababababababababababababababababababababababacababccabacadbeacadccacababacabbbacadabacbc",
     "cgacacababababababababbbababababababababbcabadababababababababababababababababababababab",
     "ababababababababgcacbbaeabababab2eb1dhb+e3aa1labadacdsaX1cbbdcbabababababababababababeba",
     "cacb1t1pbababababababababababababababababajababababababababababababababababababababababa",
     "babababacababababababbbababababababababababababababababababababababababababababababababa",
     "bababababababababababababababa1q1i2Qh1kbdNyf24ciba3v5-2babababababababababababababababab",
     "abababababababababababababababababababababababababababababababababababababababababababab",
     "ababababababababababababababibababababababababababababababababababababababababababababab",
     "abababababababababababababababababababiifkhihifkhihinchihihiebbgadcbbidcbihkcbb3zanaqm3n",
     "adbdaXaeaeacbidea1bpeaQlz1Qg1pbadbbababaeabbbhdababababababababababababababababababababa",
     "bababababababababababababababababababababababababababababbhabaeam1fbafaU8tababababababab",
     "abababababababababababababababatabababababababababababababc4fababababababcbababababababa",
     "babababababababababababababababababababababababjbabacababababaeabacabcbababababababababa",
     "bafafabababababababaeabacadabababababawcbabcPv1kbng2pJQagme11jz16n1h4i1d4XkbobgbbEdaccb1",
     "jbi18f1s3Zv2PW-LCa-PCWzWgbrWzWdbabgbkWzWzWzWzWzWzWzWzWXYybfWybfWybfWybfWybfba1Pujbtgf8f1",
     "Z25u1b"]

def math : List (Nat × Nat) :=
  spans <| decode
    ["1laqc-aZaba1naea1fa-aMyccaWbccGpc6GnaXcladanaodvele2bmeadbeesaeacjbacfgadbcbbcbfdnba2exb",
     "fbbebe-bagbo8lidub2Wa+WbayalgDZbmjefebcbdeoabacflhfb1zabaZdjcAq1-8aF-1qucf1JUYaPxfba5caq",
     "cZabaZaba4dagd3Dbb1HJq2ub2gbbcacbcdblbabgb2abdchbgbXbdbebadgbAtc9dc1r5GadbWbbbacabjbdbab",
     "agaeabababcbbbacabababababbbacdbgbdbdbabjbqfcbebq1ub"]

def modifierCombiningMark : List (Nat × Nat) :=
  spans <| decode
    ["1Iubca4dagadbFbbbcda-a"]

def noncharacterCodePoint : List (Nat × Nat) :=
  spans <| decode
    ["1VEq-Gob1VV+b1VV+b1VV+b1VV+b1VV+b1VV+b1VV+b1VV+b1VV+b1VV+b1VV+b1VV+b1VV+b1VV+b1VV+b1VV+b"]

def otherAlphabetic : List (Nat × Nat) :=
  spans <| decode
    ["QfaZmIanbabbbbba2ik1qmbgqa3fgedcbea1da+p3gk3fbdibcbd3ka1Yldggt1wbcobbfckbZc1WgcbcbkakbZc",
     "1Weebcbea+bdalc1Whbcbbvbwcec1Wgcbcbjbkb+a1Xedcbcka1ie1zgbcbciblbZc1Wgbcbciblbpamd1Wgbcbc",
     "kakbZc2lfbabhsb1Zacgsa3dacfbbqa5dsjkb1d3olbacdxdecbccgddnlbakd1Jub+b+b+b2cs5Yb1ca3wlei6+",
     "e1zjct2kblc1re1qo1Yc+icb1zk1ssCY1b1Mb1t27w-U3uh1cbBcaiaxe2yb1spba1za1geYl1nd1ql1fa2dnmai",
     "b1nc1sabccbfa1mefa7nhJPta22xe1KgcbbfdOud2baAbb2pa8dc1vn1nblc1nija1Zc1elsb1zc1qmob2Yicaga",
     "ca4Zjxd1Wgcbcbkakb2uibacabdbb3hmbc3kr7ngcgZb2soba3kk3hn8bm7xfbbcbdaba4ogcfeaYj1kebdsk1on",
     "Cxhbg2tvbn3Wfdabbbcbada2cebbbdAYdjbba1qgdcGEZq3Haab1whd2ZbJ5ma8Rbgbqcgbbbe3ea25xa1Vizgzg",
     "z"]

def otherDefaultIgnorableCodePoint : List (Nat × Nat) :=
  spans <| decode
    ["Qpa3Gpb1Itb25pa47+a1JHXa2piQ00habZ3a3-7q3Gp"]

def otherGraphemeExtend : List (Nat × Nat) :=
  spans <| decode
    ["2D+ayaBgaya3gaya7iabaebbbjb3haya3xapa29va+a10aafabafb3fa2hb10ya41bbU9da3maLEZb4Haa3ua8ia",
     "oaja3aajacabcfa7aama7ra8gaJzama1GdaK5obOBtbgfOBLn2-"]

def otherIdContinue : List (Nat × Nat) :=
  spans <| decode
    ["5xaMpa3Vbi1Jia1Hrb47na1JJja"]

def otherIdStart : List (Nat × Nat) :=
  spans <| decode
    ["64fb24rava3Rmb"]

def otherLowercase : List (Nat × Nat) :=
  spans <| decode
    ["5kapaFvihb+e3aa1ua3Cba31p1+na1c1eLranaqm6tpQqz1SsbUG+b6sa4bcdbRcdjaN0waccb1jbi1M3v1Z"]

def otherMath : List (Nat × Nat) :=
  spans <| decode
    ["2+aRrccaWbcb71aaXcla1adybob2bmeadbeesaeacjbadegadbcbbcbfddfe2lecdbbbbbabecbebercbbabgbag",
     "b9cd5ibbayaraDZbmifefbcbdeoabacfyb1zabaZdjbAwb-jCtv1-d1ab1L3dabaea6taba1L6b2ub2gbbcacbcd",
     "blbabgb2abdchbgbXbdbebadgbAtcybyb+byb+byb+byb+bybhc1r5GadbWbbbacabjbdbabagaeabababcbbbac",
     "abababababbbacdbgbdbdbabjbqfcbebq"]

def otherUppercase : List (Nat × Nat) :=
  spans <| decode
    ["8BapQgz3J3azgzgz"]

def patternSyntax : List (Nat × Nat) :=
  spans <| decode
    ["1bokgWdbaWd1cgbabbbabbeaeadaxa-a7Oyxiocsbj9rMp5aJv+13lGa3-Cbceypa1J8nb8fb"]

def patternWhiteSpace : List (Nat × Nat) :=
  spans <| decode
    ["jesa3ea7Sibyb"]

def prependedConcatenationMark : List (Nat × Nat) :=
  spans <| decode
    ["1Gaf6xa1raCab2qa21UWapa"]

def quotationMark : List (Nat × Nat) :=
  spans <| decode
    ["1caea4dapa7QYhzb3GhaEjdnc1JHbd5Zaea2Wb"]

def radical : List (Nat × Nat) :=
  spans <| decode
    ["BKazb2ym6v"]

def regionalIndicator : List (Nat × Nat) :=
  spans <| decode
    ["3SFgz"]

def sentenceTerminal : List (Nat × Nat) :=
  spans <| decode
    ["1bamaqa1Aja4tc5ua1lc7wa1Zabadb9fb1NebOwaebOfa6gb4Zb1nafa9WbBcd5cbkbcbZc5Xb2bbTeaxbjc35pc",
     "9sanawbDnaT7Ya8ob7dadaB+b2wb2-a4yb4tc4qb7zaKHgacb1Xadb5jamaqa2ba2Nub17Ze1md5Zb3vd3-c4bbg",
     "aqb2ybbb3ma9kb3vbBvbfo3jb7zcGfaba7Xb2xbDebLub2kbIPjb4fa2bblaHjb9iaJGga7Fia"]

def softDotted : List (Nat × Nat) :=
  spans <| decode
    ["3jb6ea8za+a1uauaAaa3caba68ja1tanada4ea4ZaDfa6wb2Psa39Tfb1sb1sb1sb1sb1sb1sb1sb1sb1sb1sb1s",
     "b1sb24ga9rbWa"]

def terminalPunctuation : List (Nat × Nat) :=
  spans <| decode
    ["1bakabalbdaP+aiaGba1za2iaoabc5ua1lkba7lb1wfbh-a8fb17ub5maef9xbOvhOfa3Yc2hb4Zcda1hdcb9WbB",
     "cd5cbkbbcZc5Xe1+bTeaxbjc35pc9sanaeakabbdbDmbT7Xb8nc7deB+b2wb2-a4xc4tc3-aqb7zaKHgacb1zcbd",
     "5jakabalbda2baca11Wa1qa14ga6ha9wb4yf2ef2zdTye1md5Zg3qd3-c4bbgaqb2ye3ma9kb3vcmbBgddo3jb7z",
     "cGfaba7Xb2xbebC+c1naKfb2kb19leHFzb4fa2bckaHjb9hbJGga7Fhd"]

def unifiedIdeograph : List (Nat × Nat) :=
  spans <| decode
    ["D0a6D-2aKF-MGobbabbkababbcc21Ew19M-1a41zg6Zc5Kbo79qpJn4Dc4Qkf42-"]

def uppercase : List (Nat × Nat) :=
  spans <| decode
    ["2bz3fwbg1babababababababababababababababababababababababababababacabababababababacababab",
     "ababababababababababababababababababababbbabadbbabbbccdbbbcdbbbbababbbacabbbcbabbdahacac",
     "acabababababababacababababababababacacabcbababababababababababababababababababababababab",
     "abababababahbbbcabdbabababa9babadaiagabcbabbbqbi1daccdabababababababababababafacabbc1s1q",
     "ababababababababababababababababajababababababababababababababababababababababababababab",
     "bbabababababacababababababababababababababababababababababababababababababababababababab",
     "ababababababababababac1f2Qj1fbafaMs2v24tag1kccAaabababababababababababababababababababab",
     "abababababababababababababababababababababababababababababababababababababababababababab",
     "ababababababababababajababababababababababababababababababababababababababababababababab",
     "abababababababababababababababajhifkhihiflabababaih2idmdmdmeld8gaeadccccadegabababdcdkbf",
     "aWptaPsz1Pq1p1qabccabababdbacaicbabababababababababababababababababababababababababababa",
     "bababababababababababababababababababababaiabaeaUAnababababababababababababababababababa",
     "babababatabababababababababababababa4hababababababadabababababababababababababababababab",
     "ababababababababababababakababbbabababaeabacabadababababababababababebebabababababababdb",
     "abbdafabababayaLPlz16f1h4i1d4Ykbobgbb1Nk1s4Zv2PW-LCa-PDazWzWzWabbcacbcdbhWzWbbdchbgXbbdb",
     "ebadgXzWzWzWzWzWz+y1by1by1by1by1ba49v1b20ozgzgz"]

def variationSelector : List (Nat × Nat) :=
  spans <| decode
    ["60lcba1PFqpQ0Nq7p"]

def xidContinue : List (Nat × Nat) :=
  spans <| decode
    ["1qjhzeabz1pakabacafwb+bEjeloehabar3ubbdcbagebabtb2sb4kbec5fb1fcag1ii1mbabbbbbaiWedZkf2je",
     "3fbhcjbscaq1Wc3eo1veacac1nsXekfxbfi2kb4acjbsbhcbcvbgbaddcicbcdiaebbeclkabaccbfebcvbgbbbb",
     "bbcabeebccdahdbahplcbibcbvbgbbbecjbcbccapdcjjgbcbhcbcvbgbbbecicbcchcebbecjbaqbbfdcbddbba",
     "bbdbdcdleedcbdcagaojqmbcbwbpcibcbdhbbccacdcjqdbhbcbwbjbecibcbdhbgbbdcjbcmmbcb1sbcbefdhec",
     "jkfbcbrdxbibacgdaefbabhgjcbn1zfobj1hbbabebxbabwcebabgbjcd1aaxbgjlababaejb1detbrb1dja1z2j",
     "g2nc1fbafac1kbAmbdcgbabdc1ibdc1abdcgbabdcob1ybdc2cccjiopq2vcfdJlcqbzf2kdkhvjvltmmbcbbm2t",
     "daebcj1bcbkg2yh1kf2fk+blelk1hcel1lezgk1fXe1+bYckgjnainbp1r2mdjrim3tm1xijd1qckf1kccqcb1gf",
     "Gvcfc1fcfchbababab+c1ubgbadcbgddcfemfcbgpb1rbtaYanaqm1tmeadlraeacjbacfgabababpcdfeear1i2",
     "Jx7egim1fbafac1xhapxjgbgbgbgbgbgbgbgb-Gfczobecee2vcbccb2+f1kb2Zr-1qpGa6D-2aLKm2d1nc8mdXu",
     "1pejb3s1fic3gc2ccbbabhv1veat1tm2fkjgxdab1qc1dmYd2aokg+b1wjncjgwd2iyccpcekfcfcfjgbgb1kbng",
     "3WbbcjgATdmwe1q88eBnc3j1ggmeflbmbebabbbbb3l1b4kg6zs1-c1v1ijgpqpdbyc1babadabababab3Ztjhze",
     "abzk2zdfcfcfcc1dlbzbsbbbocn1c3W2f1u4ia4cYd1qpa--nZf1kfZc1dehbe1k4Zcjg1de1de1hi1tmkbobgbb",
     "bkbobgbbd1tm9wjvkhyfb1jbi2ffcab1lbbdacwkwj+2bsbbkvkz2g1xgb2adbbfhbcbYccea1aYdY1dhbZz1vkv",
     "ksnr3o2i1x1sn1sn1hijg1fdebw7W1jbbdbqc1x1akai1a-v1kuXwj2g-pj1Xhanyhjg1ubjedi1dcaj2eedbmba",
     "1drb1egd1+gbabdbobjh1Wfjgdbhcbcvbgbbbebjcbcccagafgcgdeljbacab1fbjbacabdbhnbZ2kfjed+2fbai",
     "j5g1vcixf1c2adalj1g1yhjgtYWcoejgg5z1W3f2jvhcachbbbZbbcimj2ghc1nchbbX1+iai2jdas2i6h1apjgi",
     "b1mbipjyZcvbn2jgbbb1ldabbbiijgfbbb1ebbbfhj9wwjqb1idenk2va2pSz3g3or6d2Im3ap11pqvk3SWfIg6L",
     "z1z1MgHyh+bjg2objgZcel1wjdmjjufsDq1mdj6g1-4a2ke1yhq2abbblbo5Vxi16v1jj8Nhdbgbbb9cpaZccaod",
     "iCl28e3kfmdihjdb42rjGg1ncwG+edfihcg+d4ucDX2ub2gbbcacbcdblbabgb2abdchbgbXbdbebadgbAtcybyb",
     "+byb+byb+byb+bybhc1rGa1we1riaoawebo12q+gf6vgbqcgbbbef1Z1ba3q1mdncjeaAb+r1zEw1j6w1kFfgbdb",
     "bbob6elg1j2lej15gdbWbbbacabjbdbabagaeabababcbbbacabababababbbacdbgbdbdbabjbqfcbebq39uj10",
     "g19M-1a41zg6Zc5Kbo79qpJn2DcGZ1Fc4Qkf42-LNAq7p"]

def xidStart : List (Nat × Nat) :=
  spans <| decode
    ["2bzgz1pakaeafwb+bEjeloehaba4bebbdcbagabcbabtb2sb4ki5fb1fcag1i2hWed1n1k1dbb3cbapbhbkccaqa",
     "bZZ2ylay1ajbeafveajadaxyhkfxbfr1j1W1vdasahjppehcbcvbgbadddaqanbbcobkaifebcvbgbbbbbb-dbat",
     "cqibcbvbgbbbedasapbxalhcbcvbgbbbeda+bbcparabfdcbddbbabbdbdcdlwa1uhbcbwbpdaWccacb+aehbcbw",
     "bjbeda-bbbpbribcb1icaqafcicyffrdxbibacg1W1pbang1Wbbabebxbabjbakacebavd1aa1-hb1dXe3t1kuaq",
     "feddadbhcemmar1fbafac1kbAmbdcgbabdc1ibdc1abdcgbabdcob1ybdc2c1fpq2vcfdJlcqbzf2kdkhrnsorom",
     "bcp1t1daea2d2yh1ibaf2fk+1rZcel1lez1wwj1u2sa2Z1orh1wZnbk1lW1d1jck1dckf1kcc1jdbfbbdaf5-2a8",
     "vcfc1fcfchbababab+c1ubgbadcbgddcfemfcbg3uanaqm3faeacjbacfgabababpcdfeear1i2Jx7egddbm1fba",
     "fac1xhaqwjgbgbgbgbgbgbgbgHgczihecee2vgcb2zbdf1kb2Zr-1qpGa6D-2aLKm2d1nc8mdpkbu1oq+c2p1hic",
     "3gc2ccbbabhvpbcbdbwZ1to1r1+fdabblXkwzYh1oYaqebjkeb1ixcbhuwdad1rbadbcecabaycckhcmfcfcfjgb",
     "gb1kbng3sZATdmwe1q88eBnc3j1ggmefabjbmbebabbbbb3l1b4kg6zs1-c1v1ij3xabadabababab3Z1ezgzl1x",
     "c+dfcfcfcc1dlbzbsbbbocn1c3W2f1u8lYd1q1p-nZf1fkZc1dehbe1k4Zs1de1de1hi1tmkbobgbbbkbobgbbd1",
     "tm9wjvkhyfb1jbi2ffcab1lbbdacwkwj+2bsbbkvkz2g1xgb2aapdbcbY1kYdY1dhbXX1vkvksnr3o2i1x1sn1sn",
     "1d1gXjw7W1jgbqc1XYkaiv1kr1ouXwm1u1zbcan1m1ayW1dZacai1cdam1podvaba1drbytb1-gbabdbobjh1o1g",
     "hcbcvbgbbbedasame+jbacab1fbazaba1m1usduc+1pubba5y1o1jd1e1pua1X1kna2hW1fg5z1l3u1--hcachbb",
     "bxpaba2+hc1gqabaYak1hhaval1ntas2i6h1a-ib1era1rZ3qgbbb1fvazfbbb-oaAhspabmb1b3Ya2pSz3g3or6",
     "d2Im3ap11prfz3SWfIg6LzZ1NcHyh+r2orZs1pqd-ufsDq1m6t1-4a2kfa2cm2abbaY5Vxi16v1jj8Nhdbgbbb9c",
     "paZccaodiCl28e3kfmdihj5Rg2ub2gbbcacbcdblbabgb2abdchbgbXbdbebadgbAtcybyb+byb+byb+byb+bybh",
     "1Pu+gf8f1Z4s1mkgqaAbZs1lFeX7eZcaFpgbdbbbob6e1X2dha15udbWbbbacabjbdbabagaeabababcbbbacaba",
     "babababbbacdbgbdbdbabjbqfcbebq4Ae19M-1a41zg6Zc5Kbo79qpJn2DcGZ1Fc4Qkf42-"]

def named : List (List String × List (Nat × Nat)) :=
  [(["alphabetic", "alpha"], alphabetic),
   (["asciihexdigit", "ahex"], asciiHexDigit),
   (["bidicontrol", "bidic"], bidiControl),
   (["bidimirrored", "bidim"], bidiMirrored),
   (["caseignorable", "ci"], caseIgnorable),
   (["cased"], cased),
   (["changeswhencasefolded", "cwcf"], changesWhenCasefolded),
   (["changeswhencasemapped", "cwcm"], changesWhenCasemapped),
   (["changeswhenlowercased", "cwl"], changesWhenLowercased),
   (["changeswhentitlecased", "cwt"], changesWhenTitlecased),
   (["changeswhenuppercased", "cwu"], changesWhenUppercased),
   (["dash"], dash),
   (["defaultignorablecodepoint", "di"], defaultIgnorableCodePoint),
   (["deprecated", "dep"], deprecated),
   (["diacritic", "dia"], diacritic),
   (["emoji"], emoji),
   (["emojicomponent", "ecomp"], emojiComponent),
   (["emojimodifier", "emod"], emojiModifier),
   (["emojimodifierbase", "ebase"], emojiModifierBase),
   (["emojipresentation", "epres"], emojiPresentation),
   (["extendedpictographic", "extpict"], extendedPictographic),
   (["extender", "ext"], extender),
   (["graphemebase", "grbase"], graphemeBase),
   (["graphemeextend", "grext"], graphemeExtend),
   (["graphemelink", "grlink"], graphemeLink),
   (["hexdigit", "hex"], hexDigit),
   (["hyphen"], hyphen),
   (["idsbinaryoperator", "idsb"], idsBinaryOperator),
   (["idstrinaryoperator", "idst"], idsTrinaryOperator),
   (["idsunaryoperator", "idsu"], idsUnaryOperator),
   (["idcompatmathcontinue"], idCompatMathContinue),
   (["idcompatmathstart"], idCompatMathStart),
   (["idcontinue", "idc"], idContinue),
   (["idstart", "ids"], idStart),
   (["ideographic", "ideo"], ideographic),
   (["joincontrol", "joinc"], joinControl),
   (["logicalorderexception", "loe"], logicalOrderException),
   (["lowercase", "lower"], lowercase),
   (["math"], math),
   (["modifiercombiningmark", "mcm"], modifierCombiningMark),
   (["noncharactercodepoint", "nchar"], noncharacterCodePoint),
   (["otheralphabetic", "oalpha"], otherAlphabetic),
   (["otherdefaultignorablecodepoint", "odi"], otherDefaultIgnorableCodePoint),
   (["othergraphemeextend", "ogrext"], otherGraphemeExtend),
   (["otheridcontinue", "oidc"], otherIdContinue),
   (["otheridstart", "oids"], otherIdStart),
   (["otherlowercase", "olower"], otherLowercase),
   (["othermath", "omath"], otherMath),
   (["otheruppercase", "oupper"], otherUppercase),
   (["patternsyntax", "patsyn"], patternSyntax),
   (["patternwhitespace", "patws"], patternWhiteSpace),
   (["prependedconcatenationmark", "pcm"], prependedConcatenationMark),
   (["quotationmark", "qmark"], quotationMark),
   (["radical"], radical),
   (["regionalindicator", "ri"], regionalIndicator),
   (["sentenceterminal", "sterm"], sentenceTerminal),
   (["softdotted", "sd"], softDotted),
   (["terminalpunctuation", "term"], terminalPunctuation),
   (["unifiedideograph", "uideo"], unifiedIdeograph),
   (["uppercase", "upper"], uppercase),
   (["variationselector", "vs"], variationSelector),
   (["xidcontinue", "xidc"], xidContinue),
   (["xidstart", "xids"], xidStart)]

end BinaryProperty
end Unicode
end CompactSchema

import CompactSchema.Unicode.Runs

/-
The versions of the standard in which code points were assigned.

The versions stand in order, and a code point in no run of the table is unassigned.
-/

namespace CompactSchema
namespace Unicode
namespace Age

def values : Labelling where
  names :=
    [["1.1", "v11"],
     ["2.0", "v20"],
     ["2.1", "v21"],
     ["3.0", "v30"],
     ["3.1", "v31"],
     ["3.2", "v32"],
     ["4.0", "v40"],
     ["4.1", "v41"],
     ["5.0", "v50"],
     ["5.1", "v51"],
     ["5.2", "v52"],
     ["6.0", "v60"],
     ["6.1", "v61"],
     ["6.2", "v62"],
     ["6.3", "v63"],
     ["7.0", "v70"],
     ["8.0", "v80"],
     ["9.0", "v90"],
     ["10.0", "v100"],
     ["11.0", "v110"],
     ["12.0", "v120"],
     ["12.1", "v121"],
     ["13.0", "v130"],
     ["14.0", "v140"],
     ["15.0", "v150"],
     ["15.1", "v151"],
     ["16.0", "v160"]]
  table :=
    gappedPartition <| decode
      ["aFvaaddaZaahdaafaagardacgakhania2yaaedabga1oaaadajaaedaqga2faaidaafahgaehacgabaaadamfadj",
       "abaabjcaaaciaaaaapegabaabtab1laaajagaaadabfaaaaadaaaaadaaaaadaaaaadaraabeaafaegadhaadala",
       "aada2baaadalaaada1iaaajabdabfadda1uaabfabaabfabaabfaaiaXaabdahaabhabaafiapfadiapjabkabla",
       "hpb1facgaaata1gaaataaaaadcbpaambqbaahambajaaaiaiaaabachiWaeataealdgaamaapaejaahaaaaigaej",
       "aaaaaoaaxaahaaaaalazaaejasaacdacgafhaalanaabfa2haabdaeaaadaoaaadaZaabgajaaedaagandbZdacg",
       "aWdccgaZharja1qdaafo1Wiccta1nkcokbXlcalbksf+xbbxfaWahxaamaapakmafpabqaaxahrajwakxaataora",
       "aqaWmaapaakacaaaga1uaablaraaakaalaeaaakablayaabjaelaapabkabiaahabiaapacabhacbacvabgabaad",
       "dacaaaagagacbaccaaahiaaebabeacuaaakabsaatcagaaaaagbfaebacvabgabbabbabbacaabeaebaccadajhd",
       "abaahoaaajaatkcabgaaagaaabcabvabgabbabeacjabcabcacaapaaacgcjaaamaaghaqafsbcabhacbacvabga",
       "bbabagadachaaajcbaccahawabaebabcaabjckaaagaflkbabfadcabdadbabaabbadbadcadhaaahacaeeadcab",
       "dacajgaaoahalaahgfapacaaatahabcabwabjaaapaeacaxaajagabcabdahbabbjaaqcaxcbaabjcjahauahjaa",
       "raapabaaatahabcabwabjabeacbgagabcabdahbagaxaaabbaabicjabbiaaymasaapabaaawahabcabwaaalapa",
       "aalabsaajafaaajbcabdaaalaarecraaaagraaqabaabjcjaafjacragjbawabdbrddxdbidbadcgddadefdbadb",
       "hdgjpccdm1zaeYa1fbabaabauabaaauaaabauaaaafuadaaauagaaauacabaabaaabuabaaauamaaauacaceabaa",
       "bfaaaybjacbaabm1a2hbb1abaadabjeWbadlafbaadaabbubacdagbaadaabacdbodbajaadabhacjadkabl1f1b",
       "daajaedaajabdaajagdacjaddafjazda1-jadkabja1fabamfamc1gaabfabhaaaaahacma2zaaeka2daaeka2ra",
       "afkagdaaha1+daahaadbddcgdbadbddc1gdaahaadbddc+daahaadbddcgdbadbddcgdaahagdbwdaaha+daahaa",
       "dbddcgdaaha1gdaahasdcblabhaXddzhg2udaaqcfqcakaJvdaikaYdd2qdahphmfaaxagfaaxjaxawfjtfmmfbc",
       "fbbfm2Ydaagcjdgjggodaaxajdg2xdaath1jdaajf2fkkYgabpblgelgeagd1jgcegl1jhabkezhgjhaakdbha-g",
       "aXhcbha1+kbYkckkgjkgnkcopabwanx1r2liaaxbbWa1miabxaaWa1kjacmaljafma1tlidla1xjdojd1sjairab",
       "Wf1ktcctahmi1ckadmaasabpaauf3lga2xhagiaXjaopadsaaxaaraalaakabia4Waaabadja2zaafjavacfac1f",
       "acfachabaabaabaab+ac1uaboabnacfabsaccabiab1oaaadawaaafafdaefabgabhaafaghaefaajbdoagaaafc",
       "Wabehahldkaaabaacacdabfadhackaalaanacpaaqaasaaxpraabdagfaahadiaajp1yaabdaagaahaofaahabia",
       "ajacka1paaadaaiadjaakabqe2Waaidalfa7raanfaaaaada3yaaadaafaZda1tfabgakhaliaakaklagpadraas",
       "a1eaabdacWwkav4kaatfaaga4vaajfa2paahdahfataabgabfaahaada2vaabdalfabhajfahgakhaajabkabgap",
       "haaiajjackadjajkaalaskaalaakadlaxkaapadaaaladaablaXaaala1caaalaaaaaladaaclaaaaakagaablag",
       "aanfa+aaclaxaaalanaaalaghadiaamaajaamablaXfadjapfa7-daF-fangafhagiaejadia1ijacpaejaekazp",
       "c-pbawa1bpactalpaauahpaasaytadqaotaaua1ohaaxa1ohaaxamiacjaakacjadiafjabka3khagkabmf1mhba",
       "mfamc1vhabmhahaaloalawhjghbghbghbghbghbghbghbghb-jaxhadjabhasjaakajmagpabraesaetaauacwak",
       "x1czdb2ydm6vdWldadza1xaacdacfaadaaab2taabfcfaabfa2Zaaaff1haaajaasaatb2Zabpaaxdaclaewapha",
       "tjabWjazapfaYaabgb1daalkaagaofaXaabgaaha1raaofalaadga1oaaava3waadga3caabga+aaaga6Dvdajwa",
       "1-gaKDfaavhahjahkaamaiqausaetamwacxa14mddrdabfapdaafaldaafacdaafaadj1pka9lju-jablarjahma",
       "Xjafpaaqaama2xkiwhadiaejabia3kjablaaqablabmalpajlaamacpaaraatabpafqabtafuabxaeuadwacWcbx",
       "baxbexacWvcxabwaapabmaalaeja1lhaawdjkg1xii2ejaariljgXkabqabta2tjlajaYkd2nkbkkebka+pb1wjj",
       "njcjjcdjaXkadpa2ckyekawmkflcflcfljglbglb1ppadqabpabuadwe2pqa1nkcjkgATdbmwke1qk20e6Hnaabm",
       "a1Wfackc3jh1ggameafadayabeabaabbabbab3laaplaaxqBmaapxa1-ac1vahaxa-ealaaafaagabxapfajhgda",
       "acjagpabqauaabfabgajabsabdaecaaafaaab4gacaab2Zaabfa2Zadfacfacfaccadgabgakcdaacacaalgbzgb",
       "sgbbgbogcng1c3Wgfcge1mgdiga2khabpabrbljaawdap1p1nj4cYjd1qjpXpe+eaapadejcsaWef1kpfZgbaga1",
       "dhenh1k1feabga1fea2pgcjgg1dre1dre1hpi1tplapakxboxbgxbbxbkxboxbgxbbxd1tWm9wpjvpkhpyfxb1jx",
       "bix2ffgcagb1lgbbgdagcagavkbika1+piip1qsqbbqfeqaziabkdaiazjfaj2a1xmebqabmapqc1nqadhbbhfhh",
       "bchbWhabtccheihaathihh-ka-p1a1gpelpj1vkdYkcWkfhkarphdpmgp2q2ik1x1sqn1sqhfqa1htijtg1fWdYW",
       "ibW6q+kb1jwbcwcbwqcW1xaWacya1hti1jtwzx1gXwuwuj2nleZlafxjapa2bkaaxkatcymhjmg1umbnmactaawi",
       "1gpj2imadqaapabwajmaapaeqbtplrpb1kpaaracy1+gqbaqbdqboqbkqg1Wpfjpgaqacpbhpcbpcvpbgpbbpbep",
       "bataipcbpccpcaqgapfgpcgpdepljWbaWcaWb1fWbjWbaWcaWbdWbjWbbWibWZ2zraawaarbaraataauabw+2hpi",
       "jp5g1vpcrpatq1c2epljpgmrt1xmaauaaxgjmgtWYzqaatcoqepqagx5z1Xt3e2spmapagwcawchwbbwbZwbbwcl",
       "wjjw2ghuc1nuckuX2hsi1tsabuawsaataesnpxa1yphjy5w1bWojWgirb1mrbnrkYrd-rcvrbnr2jgsbbsb1lsda",
       "sbbsbisijsgftbbtb1etbbtbfthjt9wythqyb1iydXyaaW2vawp1runauaRoia1jpaaq3g3cialpbdiaapl6dq2I",
       "m3cxn11okaayaiuaYyk3SWWfIgq6Lz1zW1MgHylh+pbjpebpa2oxbjxgZpcfpk2fpkjpbgpbupfspDq1zW6g2Wt3",
       "f2emafueaua1omaiuhqm2aaraasabuaawlbwo5VmraetafuiNsraFcw1jaWaiw8Nhdxbgxbbxbbla8YsadxpayZc",
       "ucayoduiCls28e3kpfmpdiphjpchp3QY7zWgDtW2m1nxcwxj3tx1Y7vek1gecaja5teakqabxv2fh3Wtymttm2wg",
       "jriagt4h2ueb2gebbecaecbecdeblebaebdeaagabeb2aebdechebgebXebdebeebaedgebAreabhc9beabic1re",
       "aKlqpeqboq12q+xgfy6vgrbqrcgrbbrberf1Zy1bay3q1mudnucjuebuAa+xr1zufauEq1jy6w1kWeaWFagxbdxb",
       "bxboxb6epcpp1j2kraauejrebrOr2dt2m1Yu6cdmbWmbbmbamcambjmbdmbambamgameambambambcmbbmbamcam",
       "bambambambambbmbamcdmbgmbdmbdmbambjmbqmfcmbembqm1ubm8o1lje3djmolcnlaapbolbolavpkkkabpacw",
       "a+kaataalaakaklaakaalaakablaakaclaakaclaekahlaakaglaakajlabmaauacwailaakaalabkablaakajla",
       "dkablaakajlarraaw1yzlaakabln1bkailaareikhblofs4W1alalpacqaflaapa2flaapabqatlalpa1elaapae",
       "ladpaeqalpaqlagpahqa1+laapaalaapa5vlaapadlabpaaqa1Zlabpadmagpaeqaxlarpaara1ipaara2vpaela",
       "amaplaamaclaamaalaamaalaamaalaamaclaamaflabmadlaamaalabmadlaamallabpabqakla1ppa2flajpaaq",
       "abrabsaauabweayacxampddpacrabsaataauabwd3tlacyeeya2upadtaayglueaxplpe1xpijpg1hpiZpcbwajW",
       "ebW1+lsaawacuaiqafraasahrahsaarabsalraaualraasactaoramsaetaauaawadtabwaaxaataauadtaeqamr",
       "afsaktabwafuacwabuajtafuaaqabtahuaawaaxacuawsayta2tumntcduaawacyacuabxdcuadwabyaaWfaWafu",
       "aswadxacyagwadxacyaaWaayacwacxaaWhbyagwacxabyaaWcaWahxaayaaWggxabyh4swb1wwa1eWajw10ebba1",
       "9Mweagwabx1a41ukadxaayg6Zlc5Kbqo79qspJnz2DcGZe1Fabba4Qkwf42-y1N2obb1VV+bb1VV+bb1VV+bb1VV",
       "+bb1VV+bb1VV+bb1VV+bb1VV+bb1VV+bb1VV+bbbae+2-e4a7pg1VGo400bb"]

def upTo? (version : String) : Option (List (Nat × Nat)) :=
  (values.place? version).map fun place =>
    values.table.filterMap fun (low, high, held) => if held ≤ place then some (low, high) else none

end Age
end Unicode
end CompactSchema

import CompactSchema.Unicode.Runs

/-
Breaks between sentences.

The property Sentence_Break; a code point in no run of the table has the value Other,
which cannot be asked for.
-/

namespace CompactSchema
namespace Unicode
namespace SentenceBreak

def values : Labelling where
  names :=
    [["aterm", "at"],
     ["close", "cl"],
     ["cr"],
     ["extend", "ex"],
     ["format", "fo"],
     ["lf"],
     ["lower", "lo"],
     ["numeric", "nu"],
     ["oletter", "le"],
     ["scontinue", "sc"],
     ["sep", "se"],
     ["sp"],
     ["sterm", "st"],
     ["upper", "up"]]
  table :=
    gappedPartition <| decode
      ["jalaafablaacsalaamaabecbcbjaaabjhabjdambznaabbabdzgaabbabhakWaljagaabbaehageagaabewnbgna",
       "xgbhgaanaagaanaagaanaagaanaagaanaagaanaagaanaagaanaagaanaagaanaagaanaagaanaagaanaagaanaa",
       "gaanaagaanaagaanaagaanaagaanaagaanaagaanaagaanaagaanaagaanaagaanaagaanaagaanaagaanabgaan",
       "aagaanaagaanaagaanaagaanaagaanaagaanaagaanabgaanaagaanaagaanaagaanaagaanaagaanaagaanaaga",
       "anaagaanaagaanaagaanaagaanaagaanaagaanaagaanaagaanaagaanaagaanaagaanaagaanaagaanaagaanaa",
       "gaanaagabnaagaanaagaanacgabnaagaanaagabnaagacnabgadnaagabnaagacnacgabnaagabnaagaanaagaan",
       "aagabnaagaanabgaanaagabnaagacnaagaanaagabnabgaaiaanacgadiabnaagabnaagabnaagaanaagaanaaga",
       "anaagaanaagaanaagaanaagaanaagaanabgaanaagaanaagaanaagaanaagaanaagaanaagaanaagaanaagaanab",
       "gabnaagaanaagacnaagaanaagaanaagaanaagaanaagaanaagaanaagaanaagaanaagaanaagaanaagaanaagaan",
       "aagaanaagaanaagaanaagaanaagaanaagaanaagaanaagaanaagaanaagaanaagaanaagaanaagaanaagaanaaga",
       "anaagaanaagaanaggabnaagabnabgaanaagadnaagaanaagaanaagaanaagaana2egaaia1dgagiabgelioeghai",
       "bair3pdaanaagaanaagaaibanaagcdgaajaanganbcnbanbbnaagaqnbina1cgaanabgacnacgaanaagaanaagaa",
       "naagaanaagaanaagaanaagaanaagaanaagaanaagaanaagaanaagaanaegaanaagbanaagabnabga1sna1pgaana",
       "agaanaagaanaagaanaagaanaagaanaagaanaagaanaagaanaagaanaagaanaagaanaagaanaagaanaagaanaagaa",
       "naagaanaagbgdaanaagaanaagaanaagaanaagaanaagaanaagaanaagaanaagaanaagaanaagaanaagaanaagaan",
       "aagaanaagaanaagaanaagaanaagaanaagaanaagaanaagaanaagaanaagaanaagaanaagaanaagaanaagaanaaga",
       "bnaagaanaagaanaagaanaagaanaagaanaagaanabgaanaagaanaagaanaagaanaagaanaagaanaagaanaagaanaa",
       "gaanaagaanaagaanaagaanaagaanaagaanaagaanaagaanaagaanaagaanaagaanaagaanaagaanaagaanaagaan",
       "aagaanaagaanaagaanaagaanaagaanaagaanaagaanaagaanaagaanaagaanaagaanaagaanaagaanaagaanaaga",
       "anaagaanaagaanaagaanaagaanaagaanaagaanaagaanaagaanaagaanaagaanaagb1fncaidajc1igaamh1mdba",
       "dbbdbbdbadiWieeimfhgbjckdbaeacma1kiaudajhbbhbbiaada3ciaamaaiagdaahbfdabiabdbddabiajhacic",
       "aiacmmaeaaiaadaZiaWdc2yiakdaaiojha1aiaidabicajaamaaicadcviaddaaiaidaaiacdaaiaedjambamdbm",
       "byiacdekifxibfibbhfida1jiaxdaaha1ada1viacdaaiardaaiagdajiabdabmajhbpiacdbhicbicvibgibaid",
       "dicadaaiagdcbdccdaaiiadebibciabdcjhabikaibadccdbfiebicvibgibbibbibbicadbedebdccddadhdiba",
       "ihjhabdaciaadlcdbiibcibvibgibbibeicadaaiahdbcdbcdcaipbiabdcjhjaiafdbcdbhicbicvibgibbibei",
       "cadaaiagdcbdccdhcdebibciabdcjhbaiqadaaibfidcibdidbibaibbidbidcidlieeddcdbddcaigadojhqeda",
       "hibcibwibpicadaaiagdbcdbddhbdbcicaicbiabdcjhqaiacdbhibcibwibjibeicadaaiagdbcdbddhbdgbibb",
       "iabdcjhbbiaadmddaiibcib1iiabdaaiagdbcdbddaaifciaadhciabdcjhkfibcdbridxibiibaicgidadefdba",
       "dbhdgjhcbdn1piaadabiagdfgiahdbjh1hbibaibeibxibaibjiaadabiaidaaiceibaibgdbjhcdi1aaixbdgjh",
       "ladbadbadadbabdahib1dietdbbdaeiakdb1ddjad1z1kiatdaaiajhabmefiaddadiacdaaiacdabiagdaciadd",
       "amialdaaiaadajhaddc1fnbanfanc1kibagaAlibdicgibaibdic1iibdic1aibdicgibaibdicoib1yibdic2ci",
       "ccdcamebmxpiq2vncfgdJlibamaqiaalaziabbd2kidkihriaddjsiacdabmjriabdmmibcibbdm1tia-dabmbai",
       "eaiaadcjhyajaameajaambcdaaeaadajhg2yiheiabda1biaadaaif2fik+ibldeldibmajhaZiceil1liezigkh",
       "1fwiaede1uiajdbYdcadajhgjhnaiadme+d1reda1oiaqdahibbmajhabmcbmlidjcmacdaZiamdabiajha1lian",
       "dm1diatddbmdjhdciajha1diabmaigaanaagf1kicciqcdbudadiaadafiaadabiacdaaif5-ga1-daanaagaana",
       "agaanaagaanaagaanaagaanaagaanaagaanaagaanaagaanaagaanaagaanaagaanaagaanaagaanaagaanaagaa",
       "naagaanaagaanaagaanaagaanaagaanaagaanaagaanaagaanaagaanaagaanaagaanaagaanaagaanaagaanaag",
       "aanaagaanaagaanaagaanaagaanaagaanaagaanaagaanaagaanaagaanaagaanaagaanaagaanaagaanaagaana",
       "agaanaagaanaagaanaagaanaagaanaagaanaagaanaagaanaagaanaagaanaagaanaagaanaagaanaagaanaagaa",
       "naagaanaagaanaagaanaagaanaagaanaagaanaagaanaagaanaagaanaagaanaagaanaagaanaagaanaagaanaig",
       "aanaagaanaagaanaagaanaagaanaagaanaagaanaagaanaagaanaagaanaagaanaagaanaagaanaagaanaagaana",
       "agaanaagaanaagaanaagaanaagaanaagaanaagaanaagaanaagaanaagaanaagaanaagaanaagaanaagaanaagaa",
       "naagaanaagaanaagaanaagaanaagaanaagaanaagaanaagaanaagaanaagaanaagaanaagaanaagaanaagaanaag",
       "aanaagaanaagaanaagaanaagaanaigahnafgcfnchgahnahgahnafgcfnchgbanbanbanbanahgahnangchgahna",
       "hgahnahgahnaegbbgaenbagdcgbbgaenddgcbgadnehgaenfcgbbgaendklaaeabdabedbjdhbeaadbkaeeaaljb",
       "bbbmhbbacmvalaeebjebaglbbaagnbbbmg1t1adraneancagacnabgacnaagbandenganbanbanbdnbagadnaaga",
       "diaagcbgabnfanadgeagrpnapgaciaanaagadiB-dbZbbClznazgJrfbhnb2pbb-jbCtvb1-db1abbGc1pna1pga",
       "anaagacnabgaanaagaanaagaanaagadnaagaanabgaanahgacnaagaanaagaanaagaanaagaanaagaanaagaanaa",
       "gaanaagaanaagaanaagaanaagaanaagaanaagaanaagaanaagaanaagaanaagaanaagaanaagaanaagaanaagaan",
       "aagaanaagaanaagaanaagaanaagaanaagaanaagaanaagaanaagaanaagaanaagaanaagaanaagaanaagaanaaga",
       "anaagaanaagaanaagaanaagaanaagaanaagaanaagaanaagaanaagaanaagaanaagaanaagaanaagaanabgganaa",
       "gaanaagacdaanaagfcme1fgbagfagc1xihaipadawijgibgibgibgibgibgibgibgib-danbobbcjbeamaaimamf",
       "abqbmahbDdalaajaamcciajbchbbcbbiiafdbeiceie2vicbdccib2zibdif1kib2Zir-i1qpiGa6D-i2aLKmi2d",
       "1nibama8mibbmapiajhabiuanaagaanaagaanaagaanaagaanaagaanaagaanaagaanaagaanaagaanaagaanaag",
       "aanaagaanaagaanaagaanaagaanaagaanaagaanaagaanaagaanaagaanaagaanaagaanaagaaiaddbjdbaiaana",
       "agaanaagaanaagaanaagaanaagaanaagaanaagaanaagaanaagaanaagaanaagaanaagaanaagaanacgabda2pia",
       "bdbamdam-iicanaagaanaagaanaagaanaagaanaagaanaagaanacgaanaagaanaagaanaagaanaagaanaagaanaa",
       "gaanaagaanaagaanaagaanaagaanaagaanaagaanaagaanaagaanaagaanaagaanaagaanaagaanaagaanaagaan",
       "aagaanaagaanaagaanaagaanaagaanaagaanaagaanaagaanaagaanaagaanajgaanaagaanaagabnaagaanaaga",
       "anaagaanaagaanaagaaicanaagaanaagaaiaanaagaanacgaanaagaanaagaanaagaanaagaanaagaanaagaanaa",
       "gaanaagaanaagaanaagaenaagaenaagaanaagaanaagaanaagaanaagaanaagaanaagaanaagadnaagaanaagabn",
       "aagcanaagbagbagaanaagaanaagaanaagaanvcgaanaagaaiacgagiaadaciaadadiaadawiaedeadt1ticbmibd",
       "a1riardibmajhgrdafidaibbiaadajhaXiahdbamawiamdmYiddda1oiandhbmfaiajhgeiaadajiajhaeib1iia",
       "ndjciaadahiabdcjhdcmawidaiacda1riaadaaiacdabiabdaeiabdaaiaadaaiycickiaedabmaciabdkficfic",
       "fijgibgib1kgbngg2pga1ciahdaamabdcjhgATdimwie1qi88eBnic3ji1gggmegfaiaadajibmibeibaibbibbi",
       "b3li1bBkiabbq1-ic1vi1iliepdabjaamabjabmabbhpdbbjcpbcbbhbjaaabbjabmaajafbeajmeib4gicaebam",
       "gbbcbjaaabjhabjdambznaabbabdzgaabbabbbbaamabbaajb1xiabda+idficficficciYceelibzibsibbiboi",
       "cni1c3Wi2f1ui4iad4cYid1qipad--inZif1fiaedfZic1diehibei1k1hna1hga2nicjhg1dne1dge1hii1timk",
       "nbonbgnbbnbkgbogbggbbgd1tim9wijvikhiyagabiacgb1jgbig2fficaib1libbidaicwikwij+i2bsibbikvi",
       "kzi2g1xigbi2aaiacdbbdfddadibcibYiccdeadwbmiYidYi1dhibXiabdz1vikviksinri3o2ii1x1snn1sgn1d",
       "iaddijhgjhafiavndedbaiavg7W1jibbddbiqci1xddaYikaiiviakdeemwriaddadm1guiXwijcda1uiaodabmZ",
       "jhaadabiabdaaijdda1miakdcahadmaadkahcyihjhgcda1diandbjhbcmaaiabdaaii1ciaadcaijcda1pianda",
       "diabmcddaamabdajhaaibaibbm1aribyialdabmbbmbadabiaad1+gibaibdiboibjiaamg1oialdfjhgddbhicb",
       "icvibgibbibeibbdaaiagdcbdccdcaigadfeiabdcgddedljibaicaib1fibaiaidbadcadbddbedaaiaadaaiab",
       "mlbdZ1uiardadiabmdjheadaci+1piatdabibaiijh5g1oiagdcidbbmfomadiabd1c1piaqdabmbailjh1g1kia",
       "mdaaihjhgthYWicodejhccmbgi5z1liaod3f-na-gajhvhicaichibbibxiafdbbdcddaaiaadaaiabdaambamjj",
       "h2ghic1giagdcgdaaibaiaadXaiajda1hiagdaaiadddbmdadiaiakda1niapdbbmaais2ii6h1aipjhgiib1eia",
       "hdbhdaaiabmnjhyZicvdbnd2jgibbib1fiafddadbbdbgdaaiaadijhgfibbib-iaedbbdbedaaihjh9wsiaddab",
       "mhbdaaiaadamib1biagddedabmljhaad2vai2pSzi3g3oir6di2Im3aip11piapeaadafiaodk3SWifIgi6LzZia",
       "rdajh1MgHyih+ibjhebma2oibjhgZicedaamk1piagdabmhdiaamljhjuifsiDq1mibbmajh6g-na-gyam3h2kie",
       "adaaia1wdhddami2abibaiaadlbdo5Vxii16vi1jji8Nhdibgibbib9cipaiZcicaiodiiCli28e3kifmidiihji",
       "dbdaamade42mjhGg1ndcwdG+eddfdaheahdcgd+dd4ucdDXznazgaznaggbrgaznazgaanbbncancbncdnbhnadg",
       "bagbggbkgaznazgabnbdnchnbgnbzgabnbdnbenbandgnbzgaznazgaznazgaznazgaznazgaznazgaznaXgcynb",
       "ygbfgaynbygbfgaynbygbfgaynbygbfgaynbygbfgaanaagc1rhGa1wde1rdiadoaddamsedbod12qjgaaiatggf",
       "g6vgdbqdcgdbbdbedf1Zg1bad3q1midgdagicjheaiAbZiaadr1liaddajhEwXiaddajh6wZiabdaaiajhFfgibd",
       "ibbiboib6eilgd1j1bna1bgagdaaiejh15gdibWibbibaicaibjibdibaibaigaieaibaibaibcibbibaicaibai",
       "baibaibaibbibaicdibgibdibdibaibjibqifcibeibqiJuzngzngzn17mcb1Bxjh10g19M-i1a41zig6Zic5Kbi",
       "o79qipJni2DcGZi1Fc4Qkif42-iLN2rae+2-d4a7pd"]

end SentenceBreak
end Unicode
end CompactSchema

import CompactSchema.Unicode.Runs

/-
Breaks between words.

The property Word_Break; a code point in no run of the table has the value Other,
which cannot be asked for.
-/

namespace CompactSchema
namespace Unicode
namespace WordBreak

def values : Labelling where
  names :=
    [["aletter", "le"],
     ["cr"],
     ["doublequote", "dq"],
     ["extend"],
     ["extendnumlet", "ex"],
     ["format", "fo"],
     ["hebrewletter", "hl"],
     ["katakana", "ka"],
     ["lf"],
     ["midletter", "ml"],
     ["midnum", "mn"],
     ["midnumlet", "mb"],
     ["newline", "nl"],
     ["numeric", "nu"],
     ["regionalindicator", "ri"],
     ["singlequote", "sq"],
     ["wsegspace"],
     ["zwj"]]
  table :=
    gappedPartition <| decode
      ["kaiabmaabsaqbaceapeakbalbjnaajaakfzaeaebzakam1eaacafhaabajcaafwab+abE-ag1baa3pdaeabbacda",
       "aakaaagaaaajacabaabtab2sab4kabgda5fab1facdabaaaaja1iaaakaaag1mdbadbbdbbdbadiWgedgaaaaajl",
       "fngbkckdbafd1kaaudajnbanaakbbaaada3cabaaagdaanbfdabaabdbddabaajnacacaapbaaadaZaaWdc2yaak",
       "daaaojna1aaaidabacakbaacadcvaaddaaaaidaaaacdaaaaedsyaacdekafxabfabbnfida1jaaxdaana1ada1v",
       "aacdaaaardaaaagdajaabdcjnbpaacdbhacbacvabgabaaddacadaaaagdcbdccdaaaiadebabcaabdcjnabakaa",
       "badccdbfaebacvabgabbabbabbacadbedebdccddadhdabaahjnabdacaaadlcdbiabcabvabgabbabeacadaaaa",
       "hdbcdbcdcaapbaabdcjnjaaafdbcdbhacbacvabgabbabeacadaaaagdcbdccdhcdebabcaabdcjnbaaqadaaabf",
       "adcabdadbabaabbadbadcadlaeeddcdbddcaagadojnqedahabcabwabpacadaaaagdbcdbddhbdbcacaacbaabd",
       "cjnqaaacdbhabcabwabjabeacadaaaagdbcdbddhbdgbabbaabdcjnbbaaadmddaiabcab1iaabdaaaagdbcdbdd",
       "aaafcaaadhcaabdcjnkfabcdbradxabiabaacgadadefdbadbhdgjncbd1Zadcgdmhdbjn2xadcidlgdbjn1gaax",
       "bdgjnladbadbadebdahab1daetdbbdaeaakdb1ddjad3etdbjnmddecdbcdcgddddnldbadajnaddc1fabaafaac",
       "1kabAmabdacgabaabdac1iabdac1aabdacgabaabdacoab1yabdac2caccd1apaq2vacfadJlacqaaaqazaf2kad",
       "kahraaddjsaacdlraabdmmabcabbd2a-djadcjn1bcdaafaadajng2yaheaabda1baaadaaaf2fak+abldeldkjn",
       "4akn1fwaaed1zjdbYdcadajngjnw+d1reda1oaaqdahadjnridmcdaZaamdabaajna1laandm1daatdijndcaajn",
       "a1dackaf1kaccaqcdbudadaaadafaaadabaacdaaaf5-aa1-da8vacfac1facfachabaabaabaab+ac1uabgabaa",
       "dcabgaddacfaemafcabgadgqbcqbadaarabfiblkalcajabmaefaaepbedakpaekaqaefbjfbaanaaqma1t1adra",
       "aeaacjabaadeagaabaabaabdabkacdafeaeaar1iaPn1ta1Ow7eagdaacdabam1fabaafaac1xahaapadawajgab",
       "gabgabgabgabgabgabgab-d1paaEqaqeaa1efdbehfba2Ybdabhd2Whbdhf1kab2Zar-a1qph6q1ohb2xhR5i14m",
       "a2d1nac8madpaajnabau1oaaddbjdb+aabda2paabdw6facbabaabhavpaaadacaaadadaaadawaaedeadt1tamb",
       "da1raardkjngrdafadaabbaaadajnaXaahdcwaamdmYaddda1oaandoaaajnladkjng1iaandjcaaadahaabdcjn",
       "1bcd1sadbcdcbdfbdbad+kaaedccaabdkfacfacfajgabgab1zag3saahdbbdcjngATdamwae1qa8Oegameafaga",
       "adajgbmgbegbagbbgbbgbjga3ba1bBkas1-ac1va1ilaepddajmpddbeyceaakbalbakaajWeab4gacafhaleakb",
       "albjnaajaakfzaeaebzal1xhabda+adfacfacfaccaYcfelabzabsabbaboacna1c3Wa2f1ua4iad4cYad1qapad",
       "--anZaf1faaedfZac1daehabea1k4Zacjng1dae1dae1hai1tamkaboabgabbabkaboabgabbad1tam9wajvakha",
       "yfab1jabia2ffacaab1labbadaacwakwaj+a2bsabbakvakza2g1xagba2aaaacdbbdfddadabcabYaccdead1aY",
       "adYa1dhabXaabdz1vakvaksanra3o2ia1x1san1san1daaddijngjnaXadedbwa7W1jabbddbaqca1xddaYakaai",
       "vaakd-raadd1kuaXwajcda1uaaod-jnaadabaabdaaajdda1maakdcaneadkancyahjngcda1daandbjneaaabda",
       "aai1caaadcaajcda1paandadaeddbbdajnaaabaa1drabyaaldgadabaaad1+gabaabdaboabjah1oaaldfjngdd",
       "bhacbacvabgabbabeabbdaaaagdcbdccdcaagadfeaabdcgddedljabaacaab1fabaaaidbadcadbddbedaaaaad",
       "aaanbdZ1uaardadafjneadaca+1paatdababaaijn5g1oaagdcidxdaabd1c1paaqddaaljn1g1kaamdaaahjngt",
       "n1zodejn6g1laaod3f1-aajnvhacaachabbabxaafdbbdcddaaaaadaaaabdmjn2ghac1gaagdcgdaaabaaaadXa",
       "aajda1haagdaaaaddiadiaaakda1naapddaas2ia6h1aapjngiab1eaahdbhdaaapjnyZacvdbnd2jgabbab1faa",
       "fddadbbdbgdaaaaadijngfabbab-aaedbbdbedaaahjn9wsaaddjbdaaaaadamab1baagddednjnaad2vaa2pSza",
       "3g3oar6da2Im3aap11paapfaadafaaodk3SWafIga6LzZaardajn1MgHyah+abjng2oabjngZacedl1paagdjdam",
       "jnjuafsaDq1madjn6g1-a4a2kaeadaaaa1wdhddama2ababaaaadlbdFV+dhbghbbhbah8-ch1sahodh2Ky3kafm",
       "adiahjadbdbdf42mjnGg1ndcwdG+eddfdahfahdcgd+dd4ucdDX2uab2gabbacaacbacdablabaabgab2aabdach",
       "abgabXabdabeabaadgabAtacyabyab+abyab+abyab+abyab+abyabhac1rnGa1wde1rdiadoadwedbod12q+agf",
       "a6vgdbqdcgdbbdbedf1Za1bad3q1madgdagacjneaaAbZaaadr1laaddajnEwXaaddajn6wZaabdaaaajnFfgabd",
       "abbaboab6ealgd1j2daagdaaaejn15gdabWabbabaacaabjabdabaabaagaaeaabaabaabcabbabaacaabaabaab",
       "aabaabbabaacdabgabdabdabaabjabqafcabeabqaJuzagzagza2YzoFXed1VqjnO10haf+2-d4a7pd"]

end WordBreak
end Unicode
end CompactSchema

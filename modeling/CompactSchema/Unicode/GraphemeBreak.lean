import CompactSchema.Unicode.Runs

/-
Breaks between the characters that a reader sees.

The property Grapheme_Cluster_Break; a code point in no run of the table has the
value Other, which cannot be asked for.
-/

namespace CompactSchema
namespace Unicode
namespace GraphemeBreak

def values : Labelling where
  names :=
    [["control", "cn"],
     ["cr"],
     ["extend", "ex"],
     ["l"],
     ["lf"],
     ["lv"],
     ["lvt"],
     ["prepend", "pp"],
     ["regionalindicator", "ri"],
     ["spacingmark", "sm"],
     ["t"],
     ["v"],
     ["zwj"]]
  table :=
    gappedPartition <| decode
      ["ajaaaeabaaabara2-1aanaaIs3pc8tgc8h1mcbacbbcbbcbac1yfhkkcbaa1oucqac3fgcaahbfccbcbdc1bahba",
       "c+Wc2Xkc1Wicjacydcbicbccbec1lcc1ubhfic1kxcaaha-caaj1wacaajaacbcjahcadjaacabjbgckbcZacabj",
       "1yacbacabjadccbjcbjaacjackbcWaccbcaaj1yacbcjabcebccccdac+bcdaclbcaaj1yacbcjaecbbcaajbbja",
       "acubcwfcbacabj1yacbbcaajadccbjcbjaachcckbc+ac1Xacaajaacabjdcjbcjaacjac1iacacjaac1xacbcca",
       "djbccbdchbclbcZacabj1yacbajabcaajaacabjbccbdchbclbcpajmbcabj1xbcbacabjadcbcjbcjaacaahiac",
       "kbcZacabj2gaceacabjaccbacbgjaacsbj1Zacbajagcmhc3cacbajaiclgc2jbcXacbacbacebj1rncaajaecbb",
       "cfkcb1dcjac3gdcaajafcbbcabjabcxbjabceccqdcnacbajabcgacpac3c2-da2hla2xkAZccTsdcYccZbc+bc2",
       "abcaajagcahjaacabjakcjac1nccaaaaac3vbc1cac3wccadjabcacjebjaacafjacc6Xbcabjaac1zajaacaaja",
       "gcbacbacchcafjajccac1q+c1rdcaaj1pjcadjacc1gicmbcaaj+ajadcabjafc1yacaajabcacjaacaajaec1qh",
       "jahcabjabc4yccbmcaajagceacgaccajabc6g1-cGlaaaacaamabayga1rpa3a1ac2V+cc4nac3a-cHkfc3jbcTE",
       "udcbjc1abc2qbc8qacdaceacxbjabcaajeac2tbj1spjabcWrcnac1ghczkcaajaacmYddccaaj1pacabjadcabj",
       "abcabjaac1eac2dfcabjabcabjabcmaciacaaj1oac1tacbcccbcfbcbac1jajabcabjfajaac7mbjaacabjaaca",
       "bjbajaacsafaWgaafaWgaafaWgaafaWgaafaWgaafaWgaafaWgaafaWgaafaWgaafaWgaafaWgaafaWgaafaWgaa",
       "faWgaafaWgaafaWgaafaWgaafaWgaafaWgaafaWgaafaWgaafaWgaafaWgaafaWgaafaWgaafaWgaafaWgaafaWg",
       "aafaWgaafaWgaafaWgaafaWgaafaWgaafaWgaafaWgaafaWgaafaWgaafaWgaafaWgaafaWgaafaWgaafaWgaafa",
       "WgaafaWgaafaWgaafaWgaafaWgaafaWgaafaWgaafaWgaafaWgaafaWgaafaWgaafaWgaafaWgaafaWgaafaWgaa",
       "faWgaafaWgaafaWgaafaWgaafaWgaafaWgaafaWgaafaWgaafaWgaafaWgaafaWgaafaWgaafaWgaafaWgaafaWg",
       "aafaWgaafaWgaafaWgaafaWgaafaWgaafaWgaafaWgaafaWgaafaWgaafaWgaafaWgaafaWgaafaWgaafaWgaafa",
       "WgaafaWgaafaWgaafaWgaafaWgaafaWgaafaWgaafaWgaafaWgaafaWgaafaWgaafaWgaafaWgaafaWgaafaWgaa",
       "faWgaafaWgaafaWgaafaWgaafaWgaafaWgaafaWgaafaWgaafaWgaafaWgaafaWgaafaWgaafaWgaafaWgaafaWg",
       "aafaWgaafaWgaafaWgaafaWgaafaWgaafaWgaafaWgaafaWgaafaWgaafaWgaafaWgaafaWgaafaWgaafaWgaafa",
       "WgaafaWgaafaWgaafaWgaafaWgaafaWgaafaWgaafaWgaafaWgaafaWgaafaWgaafaWgaafaWgaafaWgaafaWgaa",
       "faWgaafaWgaafaWgaafaWgaafaWgaafaWgaafaWgaafaWgaafaWgaafaWgaafaWgaafaWgaafaWgaafaWgaafaWg",
       "aafaWgaafaWgaafaWgaafaWgaafaWgaafaWgaafaWgaafaWgaafaWgaafaWgaafaWgaafaWgaafaWgaafaWgaafa",
       "WgaafaWgaafaWgaafaWgaafaWgaafaWgaafaWgaafaWgaafaWgaafaWgaafaWgaafaWgaafaWgaafaWgaafaWgaa",
       "faWgaafaWgaafaWgaafaWgaafaWgaafaWgaafaWgaafaWgaafaWgaafaWgaafaWgaafaWgaafaWgaafaWgaafaWg",
       "aafaWgaafaWgaafaWgaafaWgaafaWgaafaWgaafaWgaafaWgaafaWgaafaWgaafaWgaafaWgaafaWgaafaWgaafa",
       "WgaafaWgaafaWgaafaWgaafaWgaafaWgaafaWgaafaWgaafaWgaafaWgaafaWgaafaWgaafaWgaafaWgaafaWgaa",
       "faWgaafaWgaafaWgaafaWgaafaWgaafaWgaafaWgaafaWgaafaWgaafaWgaafaWgaafaWgaafaWgaafaWgaafaWg",
       "aafaWgaafaWgaafaWgaafaWgaafaWgaafaWgaafaWgaafaWgaafaWgaafaWgaafaWgaafaWgaafaWgaafaWgaafa",
       "WgaafaWgaafaWgaafaWgaafaWgaafaWgaafaWgaafaWgaafaWgaafaWgaafaWgaafaWgaafaWgaafaWgaafaWgaa",
       "faWgaafaWgaafaWgaafaWgaafaWgaafaWgaafaWgaafaWgaafaWgaafaWgaafaWgaafaWgaafaWgaafaWgaafaWg",
       "aafaWgaafaWgaafaWgaafaWgaafaWgaafaWgaafaWgaafaWgaafaWgaafaWgaafaWgaafaWgaafaWgaafaWgaafa",
       "WgaafaWgaafaWgaafaWgaafaWgaafaWgaafaWgaafaWgaafaWgaafaWgaafaWgaafaWgaafaWgaafaWgaafaWgaa",
       "faWgaafaWgaafaWgaafaWgaafaWgaafaWgaafaWgaafaWgaafaWgaafaWgaafaWgaafaWgaafaWgaafaWgaafaWg",
       "aafaWgaafaWgaafaWgaafaWgaafaWgaafaWgaafaWgaafaWgaafaWgaafaWgaafaWgaafaWgaafaWgaafaWgaafa",
       "WgaafaWgaafaWgaafaWgaafaWgaafaWgaafaWgaafaWgaafaWgaafaWgaafaWgaafaWgaafaWgaafaWgaafaWgaa",
       "faWgaafaWgaafaWgaafaWgaafaWgaafaWgaafaWgaafaWgaafaWgaafaWgaafaWgaafaWgaafaWgaafaWgaafaWg",
       "aafaWgaafaWgaafaWgaafaWgaafaWgaafaWgaafaWgaafaWgaafaWgaafaWgaafaWgaafaWgaafaWgaafaWgaafa",
       "WgaafaWgaafaWgaafaWgaafaWgmwle1qk8PcacNbpcqpc6paa4+bc2qlaGbac7cac4vec1Kgccbbcfdc1icceac5",
       "fbcHZdc2bec9Zbc2pdc2gkc1rdc3Wajaacaaj1voc1jaccbckccaaj1ncjadcabjabccaheackah1scc1eecaaja",
       "hcqbj1macmbcaaj1qcjaicaajaacbbhfdcbajaac2Ycjaccabjadcgaccac4Zacacjahcvbcabj1xbcbacaajaac",
       "adjcbjcbjaacjackbjcgcdec2dacabjafcbaccacbccaajbbjaccaahaacobc2scjahcabjaccaajaacxac2raca",
       "bjafcaajaacabjaacaajabcaajabc7lacabjadccdjabcaajabcXbc2scjahcabjaacaajabc3kacaajaacabjah",
       "c3facaajaaccdcaajaec8acjaicaajabc7vacaejbbjcdcaahaajaahaajaac4ncjadccbcadjaacdajYjc1ifca",
       "ajaahadciacjfcabjacc1ifhamcaajabcCvajagcbfcaajaac2svcbajagcaajabcaajabc3Wfcdacbbcbgcaaha",
       "ac2cejbbcbbjaacaajaacAXbcabjjbcaahaaj1qbjaecdbjaccxac56vpaaacgocB6ilcacjacc2Eaec1XgcHmal",
       "ddlFeacb1wjhdc2raclbcJ5lbcbda4IY1nccwcG+ecdfcahaahccgc+dc4ucc1TX1wce1rciacoacwecboc1Aqgc",
       "bqccgcbbcbec3eac5agcBxac1ZdcFYdc7+bcNagc3ngc24XziFXecO30a-aa2-ca3-aa7pca3Gpa"]

end GraphemeBreak
end Unicode
end CompactSchema

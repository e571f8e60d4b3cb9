import CompactSchema.Unicode.Runs

/-
The general category of every code point.

The table lists the runs of code points of one category from zero on; each run is
its length less one and the place of its category in `order`.
-/

namespace CompactSchema
namespace Unicode

inductive GeneralCategory where
  | uppercaseLetter
  | lowercaseLetter
  | titlecaseLetter
  | modifierLetter
  | otherLetter
  | nonspacingMark
  | spacingMark
  | enclosingMark
  | decimalNumber
  | letterNumber
  | otherNumber
  | connectorPunctuation
  | dashPunctuation
  | openPunctuation
  | closePunctuation
  | initialPunctuation
  | finalPunctuation
  | otherPunctuation
  | mathSymbol
  | currencySymbol
  | modifierSymbol
  | otherSymbol
  | spaceSeparator
  | lineSeparator
  | paragraphSeparator
  | control
  | format
  | surrogate
  | privateUse
  | unassigned
  deriving DecidableEq

namespace GeneralCategory

def order : Array GeneralCategory :=
  #[.uppercaseLetter, .lowercaseLetter, .titlecaseLetter, .modifierLetter,
    .otherLetter, .nonspacingMark, .spacingMark, .enclosingMark,
    .decimalNumber, .letterNumber, .otherNumber, .connectorPunctuation,
    .dashPunctuation, .openPunctuation, .closePunctuation, .initialPunctuation,
    .finalPunctuation, .otherPunctuation, .mathSymbol, .currencySymbol,
    .modifierSymbol, .otherSymbol, .spaceSeparator, .lineSeparator,
    .paragraphSeparator, .control, .format, .surrogate,
    .privateUse, .unassigned]

def table : List (Nat × Nat × Nat) :=
  partition <| decode
    ["-zawcratcranaoarasarambrjibrcsbrzaanaraoaualauzbanasaoas1azawardtavarauavaeapasaWavauava",
     "sbkauabbrauakaeaqckarwaasgaxbashbaaabaaabaaabaaabaaabaaabaaabaaabaaabaaabaaabaaabaaabaaa",
     "baaabaaabaaabaaabaaabaaabaaabaaabaaabaaabaaabaaabaaabaabbaaabaaabaaabaaabaaabaaabaaabaab",
     "baaabaaabaaabaaabaaabaaabaaabaaabaaabaaabaaabaaabaaabaaabaaabaaabaaabaaabaaabaaabaaabaaa",
     "baaabbaabaaabaacbbaabaaabbaabcabbdaabbaabcacbbaabbaabaaabaaabbaabaabbaaabbaabcaabaaabbab",
     "baeaacbdeaaacabaaacabaaacabaaabaaabaaabaaabaaabaaabaaabaabbaaabaaabaaabaaabaaabaaabaaaba",
     "aabaabbaaacabaaabcaabaaabaaabaaabaaabaaabaaabaaabaaabaaabaaabaaabaaabaaabaaabaaabaaabaaa",
     "baaabaaabaaabaaabaaabaaabaaabaaabaaabaaabaaabaagbbaabbabbaaabdaabaaabaaabaaabaa2ebaeWbrd",
     "duldnuedguadauadqu3pfaaabaaabadauaaabbZadcbaraadZbuaaarcaaZaaaZbaabqaaZia1cbaabbcacbaaab",
     "aaabaaabaaabaaabaaabaaabaaabaaabaaabaaabaaebaaabasaaabbabb1sa1pbaaabaaabaaabaaabaaabaaab",
     "aaabaaabaaabaaabaaabaaabaaabaaabaaabaaabaaabavefbhaaabaaabaaabaaabaaabaaabaaabaaabaaabaa",
     "abaaabaaabaaabaaabaaabaaabaaabaaabaaabaaabaaabaaabaaabaaabaaabaaabaaabbaabaaabaaabaaabaa",
     "abaaabaabbaaabaaabaaabaaabaaabaaabaaabaaabaaabaaabaaabaaabaaabaaabaaabaaabaaabaaabaaabaa",
     "abaaabaaabaaabaaabaaabaaabaaabaaabaaabaaabaaabaaabaaabaaabaaabaaabaaabaaabaaabaaabaaabaa",
     "abaaabaaabaaabaaabaaabaaabaZ1fabZadfr1ibarambZbvataZ1mfamafarbfarbfarafhZWedZdebrkZfWcsb",
     "ratbrbvkfaraWcr-eadjeufjidrbeaf3cearaegfaWavffbdbfavdfbejicebvaenraZaWaeafZeWfbZ2yekfaen",
     "Zji1aeifbdavcradbZafbtvedfadifadcfadefbZoraZyecfbZaraZkeeZxeaufeaZbWeZif1ieadxfaW-fag1ve",
     "afagafaecghfdgafbgaegfjebfbrjiaradoeafbgaZhebZbebZveaZgeaZaecZdebZafaecgdfbZbgbZbgafaehZ",
     "agdZbeaZcebfbZjibebtfkavataearafbZbfagaZfedZbebZveaZgeaZbeaZbeaZbebZafaZcgbfdZbfbZcfcZaf",
     "gZdeaZaegZjibfceafarjZbfagaZieaZceaZveaZgeaZbeaZeebZafaecgefaZbfagaZbgafbZaeoZbebfbZjiar",
     "atgZaeffaZafbgaZhebZbebZveaZgeaZbeaZeebZafaeagafagdfbZbgbZbgafgZbfagdZbeaZcebfbZjiavaefk",
     "jZafaeaZfecZceaZdecZbeaZaeaZbecZbecZcecZledZbgafbgcZcgaZcgafbZaefZagnZjickfvataveZafcgaf",
     "heaZceaZweaZpebZafaecfdgaZcfaZdfgZbfaZcebZaebZbebfbZjigZargkavaeafbgarheaZceaZweaZjeaZee",
     "bZafaeagafegaZafbgaZbgbfgZbgfZbeaZbebfbZjiaZbeaglZbfbgieaZceaZ1iebfaecgdfaZcgaZcgafaeavd",
     "ZceaggkcebfbZjiikavfeaZafbgaZrecZxeaZieaZaebZgecZafdZcgcfaZafaZhgfZjibZbgarlZ1peafbegfdZ",
     "atfeadhfarjibr1eZbeaZaeaZeeaZxeaZaeaZjeafbeifaebZeeaZadaZgfaZjibZde-Zaecvoravarcvbffvjij",
     "kavafavafavafanaoanaobgheaZ1dedZnfagefarbfeekfaZ1dfaZhvaffvaZbverdvbr1eZ1kebgdfagffagbfb",
     "gbfaejifrfebgbfdecfaecgbeggcedfmeafbgbffgafaeagjicgafbv1faaZaaeZaabZ1kbaradcbAieaZdebZge",
     "aZaeaZdebZ1ieaZdebZ1aeaZdebZgeaZaeaZdebZoeaZ1yeaZdebZ2cebZcfirtkcZpejvfZ2vabZfbbZamJleav",
     "arqeawzeanaocZ2kecrcjhegZrecfagiZsebfagbriZrebflZmeaZceaZbflZ1tebfaggfhgafbgkfcradcratae",
     "afbZjifZjkfZframdrcfaWafjifZ1cead1uegZeebf1beafaeeZ2fejZ+eaZcfdgbfcgdZbgaffgcfdZavcZbrji",
     "ZebZeekZ1ledZzefZjiakcZ1bvwebfbgafbZbr1ueagafaggfaZafagafbghffgjfbZafjifZjifZgradfrbZnfa",
     "hpf1qZdfag1oeafagefagafegafbgheaZbrjigrjvifivcrbfagZeagdfbgbfagcfbeji1leafagbfcgafagcfbg",
     "hZdr1dehghfbgbfcZerjicZcejiZefdbribaaabeZ1kabZcahrhZcfarmfaggfdeaffeafbeagbfaeeZ1lb1+dmb",
     "ad1bb1ed1-faaabaaabaaabaaabaaabaaabaaabaaabaaabaaabaaabaaabaaabaaabaaabaaabaaabaaabaaaba",
     "aabaaabaaabaaabaaabaaabaaabaaabaaabaaabaaabaaabaaabaaabaaabaaabaaabaaabaaabaaabaaabaaaba",
     "aabaaabaaabaaabaaabaaabaaabaaabaaabaaabaaabaaabaaabaaabaaabaaabaaabaaabaaabaaabaaabaaaba",
     "aabaaabaaabaaabaaabaaabaaabaaabaaabaaabaaabaaibaaabaaabaaabaaabaaabaaabaaabaaabaaabaaaba",
     "aabaaabaaabaaabaaabaaabaaabaaabaaabaaabaaabaaabaaabaaabaaabaaabaaabaaabaaabaaabaaabaaaba",
     "aabaaabaaabaaabaaabaaabaaabaaabaaabaaabaaabaaabaaabaaabaaabaaabaaibhafbbZfabZhbhahbhafbb",
     "ZfabZhbaZaaaZaaaZaaaZaahbhanbbZhbhchbhchbhcebaZbbdaacauabcucbaZbbdaaccudbbZbbdaaZcuhbeac",
     "ubZcbaZbbdaacbuaZkweWfmbrapaqanbpaqanaphraxayeWawirapaqdrblcrasanaokrasaraljraweWaZjWaka",
     "dbZfkcsanaoadjkcsanaoaZmdcZ1atoZmfdhafchlfoZbvaadvaabvabcabbcaabavaabvaseafvaaavaaavaaav",
     "daavabdaabdeabbvbbbaesaadbavasbvabavpk1cjaaabdjakbvdZesevbsdvasbvasbvasgvas+vbsbvasavas+",
     "v8lshvanaoanaotvbsgvanao2qvasZvys1hvfs2hvvZkvuZ1Xk2nvvk5wvasivas1vvhs3ovas7xvanaoanaoana",
     "oanaoanaoanaoanaoZk1lvesanao+sanaoanaoanaoanaoanaops7-v4csanaoanaoanaoanaoanaoanaoanaoan",
     "aoanaoanaoanao1+sanaoanao-sanao8bs1pvusbvfs1gvbZ-vaZ3iv1pa1pbaaabcabbaaabaaabaaabdaabaab",
     "baafbbdcaabaaabaaabaaabaaabaaabaaabaaabaaabaaabaaabaaabaaabaaabaaabaaabaaabaaabaaabaaaba",
     "aabaaabaaabaaabaaabaaabaaabaaabaaabaaabaaabaaabaaabaaabaaabaaabaaabaaabaaabaaabaaabaaaba",
     "aabaaabaaabaaabaaabaaabaaabaabbfvaaabaaabcfaaabeZdrakbr1fbaZabeZabbZ1xegZadarnZafweiZgea",
     "ZgeaZgeaZgeaZgeaZgeaZgeaZgeaZ-fbrapaqapaqcrapaqarapaqirambramarapaqbrapaqanaoanaoanaoana",
     "oeradjrbmdramaranmrbvcranaoanaoanaoanaoam1bZzvaZ2yvlZ6vvzZpvawcravadaeajanaoanaoanaoanao",
     "anaobvanaoanaoanaoanaoamanboavijdfbgamedbvcjadaearbvaZ2vebZbfbubdaeam2zearcdaeeZ1keaZ2Ze",
     "aZbvdkjv-e1fviZavpe+vaZjkZvhkavok-vjk1gvok9-v6D-e1-vKGuead13wecZ1wviZ1hefdbr8leadcrpejib",
     "etZaaabaaabaaabaaabaaabaaabaaabaaabaaabaaabaaabaaabaaabaaabaaabaaabaaabaaabaaabaaabaaaba",
     "aabaaabaeafcharjfaradaaabaaabaaabaaabaaabaaabaaabaaabaaabaaabaaabaaabaaabaaabbdbf2fejjbf",
     "frhZwuidbuaaabaaabaaabaaabaaabaaabaacbaaabaaabaaabaaabaaabaaabaaabaaabaaabaaabaaabaaabaa",
     "abaaabaaabaaabaaabaaabaaabaaabaaabaaabaaabaaabaaabaaabaaabaaabaaabaaabaaabadhbaaabaaabba",
     "abaaabaaabaaabaaabadbuaaabaaabaeaaabaacbaaabaaabaaabaaabaaabaaabaaabaaabaaabaaabeaabeaab",
     "aaabaaabaaabaaabaaabaaabaaabdaabaaabbaabbZaaabaZabaZabaaabaaabaaabaauZcdaaabaebdabgeafce",
     "afdeafwebgbfagdvafcZfkbvatavfZ1tedrhZbg1repgbfhZbrjifZrffecraearbeafjiXehfbrwekfbgkZarYe",
     "cZcfag1oeafbgdfbgbfcgmraZadjidZbreeafadiejieeaZ1ieffbgbfbgbfiZceafheafagbZjibZdrpeadfecv",
     "aeagafag1reafaecfbebfeebfaeafaexZbeadbrkeagbfbgbraebdagafjZfebZfebZfeiZgeaZgeaZ1kbauddib",
     "adbudZ2pb1cebgafbgafbgaragafbZjifZATdelZwedZ1qedZ1V-X67-YBnebZ3je1fZgblZebeZaeafjeasmeaZ",
     "eeaZaeaZbeaZbeaZ3lequpZBkeaoanpv1-ebZ1vegZav-ZleatcvpfgranaoarfZpfarbmblanaoanaoanaoanao",
     "anaoanaoanaoanaobranaodrclcraZdramanaoanaoanaocrasamcsaZaratbrdZeeaZ4gebZaWaZcratcranaoa",
     "rasarambrjibrcsbrzaanaraoaualauzbanasaoasanaoaranaobrjead1mebd+ecZfebZfebZfebZcecZbtasau",
     "avbtaZavdsbvjZcWbvbZleaZzeaZseaZbeaZoebZne1bZ3WeeZcrdZ1mkcZiv1ujdkqvbkcvaZmvcZav1oZ1mvaf",
     "4bZYecZ1qeoZafWkdZ-edkiZteajheajeZ1feefeZZeaZar1dedZhearej1jZ1ha1hb2nebZjifZ1dadZ1dbdZ1h",
     "ehZ1tekZarkaaZoaaZgaaZbaaZkbaZobaZgbaZbbcZ1telZ9weiZvejZhexZfdaZ1jdaZid2eZfebZaeaZ1leaZb",
     "ecZaebZweaZarhkwebvgk+ehZik1pZseaZbeeZekvefkcZarzeeZar1-Z1xedZbkbepkbZ1nkaecfaZbfeZdfdea",
     "ZceaZYebZcfdZafikgZirgZYebkarYeck-ZheavXebfdZekgriZ1vecZgrvebZhkseeZhkregZdrlZgk2pZ2ie1w",
     "Z1samZ1sbgZfk1dedfhZjifZjideadaevacZefamadvbhZbs6pZ+kaZ1jeaZbfambZbepZce1wZdfYejkaehZvek",
     "fdkervZredfdr1fZuegktZweiZagafag1ueofgrdZtkjiafbebfaeiZcfag1mecgdfbgbfbraWdrafjZaWbZyegZ",
     "jifZcf1deefaghfaZjidraebgaehZ1ceafbraeiZbfag1pecgifbgdedrdfaragafjiaearaecraZtkkZreaZyec",
     "gcfbgafagbffrafbeaf1ZZgeaZaeaZdeaZoeaZjearfZ1oeafcghfeZjifZbfbgaZhebZbebZveaZgeaZbeaZeea",
     "ZbfaebgafdgbZbgbZcgbZaefZageZeebgbZgfcZefkZjeaZaebZaeaZ1feaZaecgffaZagbZagaZdgaZbgafagaf",
     "aeafaebraZbrhZbfYZ1uecghfbgcfagafdeerjibraZarafceZZ1pecgffagafdgbfagbfbearaehZji5fZ1oecg",
     "dfbZdgbfagbfwrdebf1bZ1pecghfbgafagbfcraekZjifZmrsZ1keafagafbgffagafaearfZjifZtiXZWebZafa",
     "gafbgdfagefdZjibkcravge5yZ1lecgifagbfar3dZ-a-bjiiklZhebZaebZheaZbeaZxefgaZbgbZbfagafaeag",
     "aeagafcriZji2fZhebZ1gecgdfbZbfdgafaearaeagWZaejf1heffagaedfhrafhZaeffbgcf1nemfagbfcraeer",
     "mZ2iegZjr5vZ1aearnZjifZieaZ1eeaggfaZffagafaeerjZjiskcZbrZebZvfaZaggfagbfagbf2iZgeaZbeaZ1",
     "feffcZafaZbfaZgfaeafhZjifZfeaZbeaZ-eegaZbfaZbgafagafaegZji9vZsebfbgbrgZbfaeagmeaZ1bebgef",
     "cZbgafagafmrjiaf2uZaeoZukhvdtqvmZarSze3fZ3ojaZerkZ6de2IlZ3aebrmZ11pepWaffeofjZ3SWeeZIge6",
     "LyZZelfcgcfji1MfZHyegZ+eaZjidZbr2oeaZjifZZebZefarjZ1pegferdvddaravjZjiaZgkaZueeZseDpZcd1",
     "hebdcrji6fZ-a-bwkdr3eZ2kedZafae1wggZdfmd1-ZbdaradafkZbgnZ5VxehZ16ve1iZje8NgZddaZgdaZbdaZ",
     "9ceoZaeYZcebZaenZdehZCle28dZ3keeZmecZiegZjebZavbfardW3QXZ7pvjifZDtv2lZ1nfbZwfiZ3tv1XZ7vv",
     "jZ1gvbZ1XvbgcfcvfghWhfbvgfZvdf1YvuZ2bvcfav3zZtklZtklZ2wviZyk4gZzazbzagbaZrbzazbaaaZbabZa",
     "abZbabZdaaZhadbaZabaZgbaZkbzazbbaaZdabZhaaZgaaZzbbaaZdaaZeaaZaacZgaaZzbzazbzazbzazbzazbz",
     "azbzaXbbZyaasybasfbyaasybasfbyaasybasfbyaasybasfbyaasybasfbaaabbZ1riF-v1wfdv1rfhvafnvafb",
     "veroZefaZof12pZjbaetbfZfb6uZgfaZqfbZgfaZbfaZefeZ1Zd1aZaf3pZ1mecZgfgdbZjidZaeav9-ZZeafqZ1",
     "ledfjieZatEpZWeaddfji6vZZebfaejidZarE-ZgeaZdeaZbeaZoeaZ6eebZikgf1iZ1ba1bbgfaddZjidZbrOqZ",
     "1Wkavckatdk2lZ1mkavok6bZdeaZWeaZbeaZaebZaeaZjeaZdeaZaeaZaefZaedZaeaZaeaZaeaZceaZbeaZaebZ",
     "aeaZaeaZaeaZaeaZaeaZbeaZaebZdeaZgeaZdeaZdeaZaeaZjeaZqeeZceaZeeaZqe1tZbs8nZ1lvdZ3dvlZovbZ",
     "ovaZovaZ1evjZmk5av1xZYvmZ1lvdZivgZbvnZfv4zZ7WveuMxvdZqvcZmvcZ3wvdZ2+vfZlvdZavoZlvdZ1xvhZ",
     "jvfZ1hvhZZvbZlvdZbv1ZZAtvlZnvbZmvcZjveZ1xvgZovbZkvfZivgZ4svaZ2Xvji10fZ19M-e-Z41zefZ6ZebZ",
     "5KbenZ79qeoZJne2DbZGZe1FbZ4QkeeZ42-eLN2qZaWZZ2-W3-Z7pf1VGpZ1VVZYbZ1VVZYbZ"]

def ofCode (code : Nat) : GeneralCategory :=
  match find? code table with
  | some place => order.getD place .unassigned
  | none => .unassigned

def ranges (categories : List GeneralCategory) : List (Nat × Nat) :=
  table.filterMap fun (low, high, place) =>
    if categories.contains (order.getD place .unassigned) then some (low, high) else none

def named : List (List String × List GeneralCategory) :=
  [(["lu", "uppercaseletter"],
    [.uppercaseLetter]),
   (["ll", "lowercaseletter"],
    [.lowercaseLetter]),
   (["lt", "titlecaseletter"],
    [.titlecaseLetter]),
   (["lm", "modifierletter"],
    [.modifierLetter]),
   (["lo", "otherletter"],
    [.otherLetter]),
   (["mn", "nonspacingmark"],
    [.nonspacingMark]),
   (["mc", "spacingmark"],
    [.spacingMark]),
   (["me", "enclosingmark"],
    [.enclosingMark]),
   (["nd", "decimalnumber", "digit"],
    [.decimalNumber]),
   (["nl", "letternumber"],
    [.letterNumber]),
   (["no", "othernumber"],
    [.otherNumber]),
   (["pc", "connectorpunctuation"],
    [.connectorPunctuation]),
   (["pd", "dashpunctuation"],
    [.dashPunctuation]),
   (["ps", "openpunctuation"],
    [.openPunctuation]),
   (["pe", "closepunctuation"],
    [.closePunctuation]),
   (["pi", "initialpunctuation"],
    [.initialPunctuation]),
   (["pf", "finalpunctuation"],
    [.finalPunctuation]),
   (["po", "otherpunctuation"],
    [.otherPunctuation]),
   (["sm", "mathsymbol"],
    [.mathSymbol]),
   (["sc", "currencysymbol"],
    [.currencySymbol]),
   (["sk", "modifiersymbol"],
    [.modifierSymbol]),
   (["so", "othersymbol"],
    [.otherSymbol]),
   (["zs", "spaceseparator"],
    [.spaceSeparator]),
   (["zl", "lineseparator"],
    [.lineSeparator]),
   (["zp", "paragraphseparator"],
    [.paragraphSeparator]),
   (["cc", "control", "cntrl"],
    [.control]),
   (["cf", "format"],
    [.format]),
   (["co", "privateuse"],
    [.privateUse]),
   (["cn", "unassigned"],
    [.unassigned]),
   (["lc", "casedletter"],
    [.uppercaseLetter, .lowercaseLetter, .titlecaseLetter]),
   (["l", "letter"],
    [.uppercaseLetter, .lowercaseLetter, .titlecaseLetter, .modifierLetter, .otherLetter]),
   (["m", "mark", "combiningmark"],
    [.nonspacingMark, .spacingMark, .enclosingMark]),
   (["n", "number"],
    [.decimalNumber, .letterNumber, .otherNumber]),
   (["p", "punctuation", "punct"],
    [.connectorPunctuation, .dashPunctuation, .openPunctuation, .closePunctuation, .initialPunctuation, .finalPunctuation, .otherPunctuation]),
   (["s", "symbol"],
    [.mathSymbol, .currencySymbol, .modifierSymbol, .otherSymbol]),
   (["z", "separator"],
    [.spaceSeparator, .lineSeparator, .paragraphSeparator]),
   (["c", "other"],
    [.control, .format, .surrogate, .privateUse, .unassigned])]

end GeneralCategory
end Unicode
end CompactSchema

import CompactSchema.Unicode.Runs

/-
Simple case folding.

Two characters fold together when one of them may stand for the other in a search
that ignores case.  The table lists runs of characters that all have a partner at
the same distance: the first character, how many there are, the step from one to
the next, and the distance.
-/

namespace CompactSchema
namespace Unicode
namespace CaseFolding

/-- A run of characters that have a partner at one distance. -/
structure Run where
  first : Nat
  count : Nat
  step : Nat
  distance : Int

/-- Takes the numbers of a run by fours; a distance `d` is coded as `2 * d`, and
`-d` as `2 * d - 1`. -/
def runs : List Nat → List Run
  | first :: count :: step :: code :: rest =>
      let distance : Int := if code % 2 = 0 then code / 2 else -((code + 1) / 2 : Nat)
      ⟨first, count, step, distance⟩ :: runs rest
  | _ => []

def table : List Run :=
  runs <| decode
    ["2bWb2a2lbbGD+2tbbIy3bWb1-3lbbGB+3tbbGy5vbb1Eo5vbb1Go6axb2a6fbbG6m6yhb2a6-bbER+7axb1-7fbb",
     "G4m7yhb1-7-bb7s8aycc8bycb9sdcc9tdcb9zicc9WicbAkxccAlxcbBybb7rBzdccBWdcbB-bbIxB-bbGxCabbC",
     "gCbbbDeCccccCdccbCgbbCYChbbcCibbbCjcbCWClbbcCmbbbCobb4+CpbbCuCqbbCwCrbbcCsbbbCtbbCWCubbC",
     "+Cvbb6cCwbbDgCxbbDcCybbcCzbbbCWbbAgCXbb2J4cCYbbDgCZbbDkC+bb8eC-bbDmDadccDbdcbDgbbDuDhbbc",
     "DibbbDjbbDuDmbbcDnbbbDobbDuDpbbcDqbbbDrcbDsDtcccDuccbDxbbDwDybbcDzbbbDYbbcDZbbbD-bb3qEeb",
     "beEecbcEfcbbEgbbdEhbbeEhcbcEicbbEjbbdEkbbeEkcbcElcbbEmbbdEniccEoicbEZbb4ZE+jccE-jcbFrbbe",
     "FrcbcFscbbFtbbdFubbcFvbbbFwbb6bFxbb3pFyuccFzucbHabb8dHcjccHdjcbHWbbL2wHXbbcHYbbbHZbbAfH+",
     "bbL2qH-cbL3+IbbbcIcbbbIdbbCfIebb4kIfbb4oIgfccIhfcbIqbbL1+IrbbL1yIsbbL1YItbbDdIubbCXIwcbC",
     "zIzbbCtIXbbCvIYbb2IK+JabbCzJbbb2IKwJdbbCZJebb2IMoJfbb2IIqJgbb2IKiJibbDbJjbbDfJkbb2IKiJlb",
     "bKVoJmbb2IKcJpbbDfJrbbKVWJsbbDjJvbbDlJZbbKUoKabbDtKcbb2IKgKdbbDtKhbb2IIuKibbDtKjbb4jKkcb",
     "DrKmbb4nKsbbDvKZbb2IHkK+bb2IHeQfbb5iQfbb7iQfbbE7sRqcccRrccbRwbbcRxbbbRXdb8eR-bb7iSgbb2mS",
     "idb2kSmbb4aSocb3+SqbbE4gSrrb2aSsbb3YSvbb6aSybb3sSybb5ySzbb5hSzbbE2kSWbb5mSYbb1EnTabb3mTb",
     "bb5aTdbb1+Tdjb2aTgbb2+TjbbENWTmbb2lTndb2jTqbbE3gTrrb1-Tsbb1YTvbb4aTybb1sTybb3yTzbb7hTzbb",
     "E0kTWbb3mTYbb1GnUabb1mUbbb3aUcbb1ZUcbbcUdbbbUdjb1-Ugbb+UjbbELWUmbb3-Uncb3ZUpbbqUqbb3XUqb",
     "b1XUrbb3rUrbb1rUrbb2gUvbb2ZUvbbZUwbb3lUwbb1lUxbbpUymccUzmcbVqbb5lVqbb3lVrbb4-Vrbb2-Vsbbo",
     "Vtbb7hVubb5xVubb3xVubb2fVvbb5-Vvbb3-VxbbcVybbbVzbbnVWbbcVXbbbVZdb8d10aqb5a10q1ab2a10sbbC",
     "6Y10ubbC6W10+bbC6i11bcbC6e11cbbC6g11kbbC5y11q1ab1-11sbbC4Y11ubbC4W11+bbC4i12bcbC4e12cbbC",
     "4g12kbbC3y12qqb4-13arcc13brcb13cbbC2k13dbbC2i14kXcc14lXcb16abb+16bhcc16chcb16pbbZ16q1qcc",
     "16r1qcb19r1gb3a1Bb1gb2-45a1gbE6a46hbbE6a46nbbE6a46q1lb5Sa47Zdb5Sa4Ta2qb2BTa4Vqgbq4Vygbp7",
     "4abbC6X74abbC4X74bbbC6z74bbbC4z74cbbC6h74cbbC4h74dcbC6d74dcbC4d74ebbc74fbbC6f74fbbC4f74f",
     "bbb74gbbC5x74gbbC3x74hbbC2j74hbbC2h74ibb24Se74ibb24Sg74jbbc74kbbb74q1lb5R-75Zdb5R-7Bzbb2",
     "50i7BZbb7Em7Cobb253q7Ga2lcc7Gb2lcb7Jabb3w7Jbbb3u7KXbb3v7KXbb3t7K+bbERZ7La1qcc7Lb1qcb7Oai",
     "bq7Oiibp7Oqgbq7Oygbp7Paibq7Piibp7Pqibq7Pyibp7Qagbq7Qigbp7Qrecq7Qzecp7Raibq7Riibp7Rqcb4u7",
     "Rseb5m7Rwcb6i7Rycb8a7RWcb7a7RYcb7Y7Saibq7Siibp7Sqibq7Syibp7Taibq7Tiibp7Tqcbq7Ttbbs7Tycbp",
     "7TWcb4t7TYbbr7T+bbE7r7T+bbE2j7T+bbE0j7Udbbs7Uieb5l7Umbbr7Uqcbq7UtbbE4f7Uycbp7UWcb6h7Vacb",
     "q7VdbbE3f7Vfbbo7Vicbp7Vkcb6-7Vmbbn7Vtbbs7Vycb7-7VWcb7X7VYbbr89gbbENz89gbbELz89kbbGDZ89kb",
     "bGBZ89lbbG6l89lbbG4l89sbb1y8Aobb1x8Baqb1a8Bqqb-8Cdbbc8Cebbb95wWb1u96qWb1tB0a1qb3aB1q1qb2",
     "-B3abbcB3bbbbB3cbbKVnB3dbb7ElB3ebbKUnB3fbbL2vB3gbbL2pB3hdccB3idcbB3nbbL1xB3obbKVzB3pbbL1",
     "ZB3qbbL1XB3sbbcB3tbbbB3vbbcB3wbbbB3+cbL3ZB4a1sccB4b1scbB7lcccB7mccbB7sbbcB7tbbbB8a1gbE5-",
     "B9hbbE5-B9nbbE5-19Iaxcc19Ibxcb19Ikbb24Sd19Ilbb24Sf19Kaocc19Kbocb19Pchcc19Pdhcb19Ps-cc19P",
     "t-cb19Rzccc19RWccb19RZbb250h19R+fcc19R-fcb19Slbbc19Smbbb19Snbb2IIp19Sqccc19Srccb19Subb3a",
     "19Swkcc19Sxkcb19Tkbb2IKh19Tlbb2IKZ19Tmbb2IKv19Tnbb2IKb19Tobb2IKh19Tqbb2IHd19Trbb2IIt19Ts",
     "bb2IHj19Ttbb1Qa19Tuicc19Tvicb19Uebb2-19Ufbb2IKf19Ugbb253p19Uhccc19Uiccb19Ulbb2IMn19Umbbc",
     "19Unbbb19Uqbbc19Urbbb19Uwdcc19Uxdcb19UYbb2J4b19Vvbbc19Vwbbb1AQtbb1P-1ARq2qb2BS-1UOfbbc1U",
     "Ogbbb1VPbWb2a1VQbWb1-210a1ib2q211i1ib2p215q1eb2q216y1eb2p21Bqlb2o21BYpb2o21Cmhb2o21Cucb2",
     "o21Cxlb2n21Ddpb2n21Dthb2n21DXcb2n234a1tb4a236a1tb3-23Aqwb2a23Bqwb1-265a1ab2a266a1ab1-2RI",
     "a1ab2a2RJa1ab1-3Q8a1cb2e3Q9c1cb2d"]

def Run.partner? (run : Run) (code : Nat) : Option Nat :=
  if run.first ≤ code ∧ code < run.first + run.count * run.step ∧ (code - run.first) % run.step = 0 then
    some (code + run.distance).toNat
  else
    none

def partners (code : Nat) : List Nat := table.filterMap (·.partner? code)

end CaseFolding
end Unicode
end CompactSchema

import SessionVault.Unicode.Ranges

/-!
# Direction: text that runs from left to right and from right to left

Where texts of both directions meet, the eye cannot tell in which order they are written.

* `direction` — the direction of a character;
* `isRightToLeft` — whether it takes part in text from right to left;
* `runsOneWay` — the texts where the order is plain: they begin with a letter of one direction and hold no letter
  of the other, and behind their last letter or number stand only marks.
-/

namespace SessionVault.Unicode

inductive Direction where
  | leftToRight
  | rightToLeft
  /-- A European number, which runs from left to right inside either text. -/
  | europeanNumber
  /-- An Arabic number, which belongs to text that runs from right to left. -/
  | arabicNumber
  /-- As the text around it. -/
  | neutral
  /-- As the letter in front of it. -/
  | mark
  /-- Between texts. -/
  | separator
deriving DecidableEq

def Direction.read : List Char → Direction
  | ['l'] => leftToRight
  | ['r'] => rightToLeft
  | ['e'] => europeanNumber
  | ['a'] => arabicNumber
  | ['n'] => neutral
  | ['m'] => mark
  | _ => separator

def directions : Ranges Direction := Ranges.read Direction.read
  "0n 9s En 1Cs 21n 30e 3An 41l 5Bn 61l 7Bn 85s 86n AAl ABn B2e B4n B5l B6n B9e BAl BBn C0l D7n D8l F7n F8l 2B9n 2BBl
2C2n 2D0l 2D2n 2E0l 2E5n 2EEl 2EFn 300m 370l 374n 376l 37En 37Fl 384n 386l 387n 388l 3F6n 3F7l 483m 48Al 58An 58Bl
58Dn 590r 591m 5BEr 5BFm 5C0r 5C1m 5C3r 5C4m 5C6r 5C7m 5C8r 600a 606n 608r 609n 60Br 60Cn 60Dr 60En 610m 61Br 64Bm
660a 66An 66Ba 66Dr 670m 671r 6D6m 6DDa 6DEn 6DFm 6E5r 6E7m 6E9n 6EAm 6EEr 6F0e 6FAr 711m 712r 730m 74Br 7A6m 7B1r
7EBm 7F4r 7F6n 7FAr 7FDm 7FEr 816m 81Ar 81Bm 824r 825m 828r 829m 82Er 859m 85Cr 890a 892r 897m 8A0r 8CAm 8E2a 8E3m
903l 93Am 93Bl 93Cm 93Dl 941m 949l 94Dm 94El 951m 958l 962m 964l 981m 982l 9BCm 9BDl 9C1m 9C5l 9CDm 9CEl 9E2m 9E4l
9F2n 9F4l 9FBn 9FCl 9FEm 9FFl A01m A03l A3Cm A3Dl A41m A43l A47m A49l A4Bm A4El A51m A52l A70m A72l A75m A76l A81m
A83l ABCm ABDl AC1m AC6l AC7m AC9l ACDm ACEl AE2m AE4l AF1n AF2l AFAm B00l B01m B02l B3Cm B3Dl B3Fm B40l B41m B45l
B4Dm B4El B55m B57l B62m B64l B82m B83l BC0m BC1l BCDm BCEl BF3n BFBl C00m C01l C04m C05l C3Cm C3Dl C3Em C41l C46m
C49l C4Am C4El C55m C57l C62m C64l C78n C7Fl C81m C82l CBCm CBDl CCCm CCEl CE2m CE4l D00m D02l D3Bm D3Dl D41m D45l
D4Dm D4El D62m D64l D81m D82l DCAm DCBl DD2m DD5l DD6m DD7l E31m E32l E34m E3Bl E3Fn E40l E47m E4Fl EB1m EB2l EB4m
EBDl EC8m ECFl F18m F1Al F35m F36l F37m F38l F39m F3An F3El F71m F7Fl F80m F85l F86m F88l F8Dm F98l F99m FBDl FC6m
FC7l 102Dm 1031l 1032m 1038l 1039m 103Bl 103Dm 103Fl 1058m 105Al 105Em 1061l 1071m 1075l 1082m 1083l 1085m 1087l
108Dm 108El 109Dm 109El 135Dm 1360l 1390n 139Al 1400n 1401l 1680s 1681l 169Bn 169Dl 1712m 1715l 1732m 1734l 1752m
1754l 1772m 1774l 17B4m 17B6l 17B7m 17BEl 17C6m 17C7l 17C9m 17D4l 17DBn 17DCl 17DDm 17DEl 17F0n 17FAl 1800n 180Bm
180En 180Fm 1810l 1885m 1887l 18A9m 18AAl 1920m 1923l 1927m 1929l 1932m 1933l 1939m 193Cl 1940n 1941l 1944n 1946l
19DEn 1A00l 1A17m 1A19l 1A1Bm 1A1Cl 1A56m 1A57l 1A58m 1A5Fl 1A60m 1A61l 1A62m 1A63l 1A65m 1A6Dl 1A73m 1A7Dl 1A7Fm
1A80l 1AB0m 1ADEl 1AE0m 1AECl 1B00m 1B04l 1B34m 1B35l 1B36m 1B3Bl 1B3Cm 1B3Dl 1B42m 1B43l 1B6Bm 1B74l 1B80m 1B82l
1BA2m 1BA6l 1BA8m 1BAAl 1BABm 1BAEl 1BE6m 1BE7l 1BE8m 1BEAl 1BEDm 1BEEl 1BEFm 1BF2l 1C2Cm 1C34l 1C36m 1C38l 1CD0m
1CD3l 1CD4m 1CE1l 1CE2m 1CE9l 1CEDm 1CEEl 1CF4m 1CF5l 1CF8m 1CFAl 1DC0m 1E00l 1FBDn 1FBEl 1FBFn 1FC2l 1FCDn 1FD0l
1FDDn 1FE0l 1FEDn 1FF0l 1FFDn 1FFFl 2000s 200Bn 200El 200Fr 2010n 2028s 202Fn 205Fs 2060n 2066s 206An 2070e 2071l
2074e 207An 207Fl 2080e 208An 208Fl 20A0n 20D0m 20F1l 2100n 2102l 2103n 2107l 2108n 210Al 2114n 2115l 2116n 2119l
211En 2124l 2125n 2126l 2127n 2128l 2129n 212Al 212En 212Fl 213An 213Cl 2140n 2145l 214An 214El 2150n 2160l 2189n
218Cl 2190n 2336l 237Bn 2395l 2396n 242Al 2440n 244Bl 2460n 2488e 249Cl 24EAn 26ACl 26ADn 2800l 2900n 2B74l 2B76n
2C00l 2CE5n 2CEBl 2CEFm 2CF2l 2CF9n 2D00l 2D7Fm 2D80l 2DE0m 2E00n 2E5El 2E80n 2E9Al 2E9Bn 2EF4l 2F00n 2FD6l 2FF0n
3000s 3001n 3005l 3008n 3021l 302Am 302El 3030n 3031l 3036n 3038l 303Dn 3040l 3099m 309Bn 309Dl 30A0n 30A1l 30FBn
30FCl 31C0n 31E6l 31EFn 31F0l 321Dn 321Fl 3250n 3260l 327Cn 327Fl 32B1n 32C0l 32CCn 32D0l 3377n 337Bl 33DEn 33E0l
33FFn 3400l 4DC0n 4E00l A490n A4C7l A60Dn A610l A66Fm A673n A674m A67En A680l A69Em A6A0l A6F0m A6F2l A700n A722l
A788n A789l A802m A803l A806m A807l A80Bm A80Cl A825m A827l A828n A82Cm A82Dl A838n A83Al A874n A878l A8C4m A8C6l
A8E0m A8F2l A8FFm A900l A926m A92El A947m A952l A980m A983l A9B3m A9B4l A9B6m A9BAl A9BCm A9BEl A9E5m A9E6l AA29m
AA2Fl AA31m AA33l AA35m AA37l AA43m AA44l AA4Cm AA4Dl AA7Cm AA7Dl AAB0m AAB1l AAB2m AAB5l AAB7m AAB9l AABEm AAC0l
AAC1m AAC2l AAECm AAEEl AAF6m AAF7l AB6An AB6Cl ABE5m ABE6l ABE8m ABE9l ABEDm ABEEl FB1Dr FB1Em FB1Fr FB29n FB2Ar
FBC3n FBD3r FD3En FD50r FD90n FD92r FDC8n FDF0r FDFDn FE00m FE10n FE1Al FE20m FE30n FE53l FE54n FE67l FE68n FE6Cl
FE70r FEFFn FF00l FF01n FF10e FF1An FF21l FF3Bn FF41l FF5Bn FF66l FFE0n FFE7l FFE8n FFEFl FFF0n 10000l 10101n 10102l
10140n 1018Dl 10190n 1019Dl 101A0n 101A1l 101FDm 101FEl 102E0m 102E1e 102FCl 10376m 1037Bl 10800r 1091Fn 10920r
10A01m 10A04r 10A05m 10A07r 10A0Cm 10A10r 10A38m 10A3Br 10A3Fm 10A40r 10AE5m 10AE7r 10B39n 10B40r 10D24m 10D28r
10D30a 10D3Ar 10D40a 10D4Ar 10D69m 10D6En 10D6Fr 10E60a 10E7Fr 10EABm 10EADr 10ED0n 10ED9r 10EFAm 10F00r 10F46m
10F51r 10F82m 10F86r 11000l 11001m 11002l 11038m 11047l 11052n 11066l 11070m 11071l 11073m 11075l 1107Fm 11082l
110B3m 110B7l 110B9m 110BBl 110C2m 110C3l 11100m 11103l 11127m 1112Cl 1112Dm 11135l 11173m 11174l 11180m 11182l
111B6m 111BFl 111C9m 111CDl 111CFm 111D0l 1122Fm 11232l 11234m 11235l 11236m 11238l 1123Em 1123Fl 11241m 11242l
112DFm 112E0l 112E3m 112EBl 11300m 11302l 1133Bm 1133Dl 11340m 11341l 11366m 1136Dl 11370m 11375l 113BBm 113C1l
113CEm 113CFl 113D0m 113D1l 113D2m 113D3l 113E1m 113E3l 11438m 11440l 11442m 11445l 11446m 11447l 1145Em 1145Fl
114B3m 114B9l 114BAm 114BBl 114BFm 114C1l 114C2m 114C4l 115B2m 115B6l 115BCm 115BEl 115BFm 115C1l 115DCm 115DEl
11633m 1163Bl 1163Dm 1163El 1163Fm 11641l 11660n 1166Dl 116ABm 116ACl 116ADm 116AEl 116B0m 116B6l 116B7m 116B8l
1171Dm 1171El 1171Fm 11720l 11722m 11726l 11727m 1172Cl 1182Fm 11838l 11839m 1183Bl 1193Bm 1193Dl 1193Em 1193Fl
11943m 11944l 119D4m 119D8l 119DAm 119DCl 119E0m 119E1l 11A01m 11A07l 11A09m 11A0Bl 11A33m 11A39l 11A3Bm 11A3Fl
11A47m 11A48l 11A51m 11A57l 11A59m 11A5Cl 11A8Am 11A97l 11A98m 11A9Al 11B60m 11B61l 11B62m 11B65l 11B66m 11B67l
11C30m 11C37l 11C38m 11C3El 11C92m 11CA8l 11CAAm 11CB1l 11CB2m 11CB4l 11CB5m 11CB7l 11D31m 11D37l 11D3Am 11D3Bl
11D3Cm 11D3El 11D3Fm 11D46l 11D47m 11D48l 11D90m 11D92l 11D95m 11D96l 11D97m 11D98l 11EF3m 11EF5l 11F00m 11F02l
11F36m 11F3Bl 11F40m 11F41l 11F42m 11F43l 11F5Am 11F5Bl 11FD5n 11FF2l 13440m 13441l 13447m 13456l 1611Em 1612Al
1612Dm 16130l 16AF0m 16AF5l 16B30m 16B37l 16F4Fm 16F50l 16F8Fm 16F93l 16FE2n 16FE3l 16FE4m 16FE5l 1BC9Dm 1BC9Fl
1BCA0n 1BCA4l 1CC00n 1CCD6l 1CCF0e 1CCFAn 1CCFDl 1CD00n 1CEB4l 1CEBAn 1CED1l 1CEE0n 1CEF1l 1CF00m 1CF2El 1CF30m
1CF47l 1D167m 1D16Al 1D173n 1D17Bm 1D183l 1D185m 1D18Cl 1D1AAm 1D1AEl 1D1E9n 1D1EBl 1D200n 1D242m 1D245n 1D246l
1D300n 1D357l 1D6C1n 1D6C2l 1D6DBn 1D6DCl 1D6FBn 1D6FCl 1D715n 1D716l 1D735n 1D736l 1D74Fn 1D750l 1D76Fn 1D770l
1D789n 1D78Al 1D7A9n 1D7AAl 1D7C3n 1D7C4l 1D7CEe 1D800l 1DA00m 1DA37l 1DA3Bm 1DA6Dl 1DA75m 1DA76l 1DA84m 1DA85l
1DA9Bm 1DAA0l 1DAA1m 1DAB0l 1E000m 1E007l 1E008m 1E019l 1E01Bm 1E022l 1E023m 1E025l 1E026m 1E02Bl 1E08Fm 1E090l
1E130m 1E137l 1E2AEm 1E2AFl 1E2ECm 1E2F0l 1E2FFn 1E300l 1E4ECm 1E4F0l 1E5EEm 1E5F0l 1E6E3m 1E6E4l 1E6E6m 1E6E7l
1E6EEm 1E6F0l 1E6F5m 1E6F6l 1E800r 1E8D0m 1E8D7r 1E944m 1E94Br 1EEF0n 1EEF2r 1F000n 1F02Cl 1F030n 1F094l 1F0A0n
1F0AFl 1F0B1n 1F0C0l 1F0C1n 1F0D0l 1F0D1n 1F0F6l 1F100e 1F10Bn 1F110l 1F12Fn 1F130l 1F16An 1F170l 1F1ADn 1F1AEl
1F260n 1F266l 1F300n 1F6D9l 1F6DCn 1F6EDl 1F6F0n 1F6FDl 1F700n 1F7DAl 1F7E0n 1F7ECl 1F7F0n 1F7F1l 1F800n 1F80Cl
1F810n 1F848l 1F850n 1F85Al 1F860n 1F888l 1F890n 1F8AEl 1F8B0n 1F8BCl 1F8C0n 1F8C2l 1F8D0n 1F8D9l 1F900n 1FA58l
1FA60n 1FA6El 1FA70n 1FA7Dl 1FA80n 1FA8Bl 1FA8En 1FAC7l 1FAC8n 1FAC9l 1FACDn 1FADDl 1FADFn 1FAEBl 1FAEFn 1FAF9l
1FB00n 1FB93l 1FB94n 1FBF0e 1FBFAn 1FBFBl 1FFFEn 20000l 2FFFEn 30000l 3FFFEn 40000l 4FFFEn 50000l 5FFFEn 60000l
6FFFEn 70000l 7FFFEn 80000l 8FFFEn 90000l 9FFFEn A0000l AFFFEn B0000l BFFFEn C0000l CFFFEn D0000l DFFFEn E0100m
E01F0n E1000l EFFFEn F0000l FFFFEn 100000l 10FFFEn"

def direction (c : Char) : Direction := (directions.value? c.toNat).getD .separator

def isRightToLeft (c : Char) : Bool := direction c ∈ [.rightToLeft, .arabicNumber]

/-- Whether what follows a letter that runs from left to right does so too; its last character, which is not a
mark, comes first. -/
def continuesRight : List Direction → Bool
  | [] => true
  | last :: front =>
    last ∈ [.leftToRight, .europeanNumber] &&
      front.all (· ∈ [.leftToRight, .europeanNumber, .neutral, .mark])

/-- Whether what follows a letter that runs from right to left does so too, with numbers of one kind only. -/
def continuesLeft : List Direction → Bool
  | [] => true
  | last :: front =>
    last ∈ [.rightToLeft, .arabicNumber, .europeanNumber] &&
      front.all (· ∈ [.rightToLeft, .arabicNumber, .europeanNumber, .neutral, .mark]) &&
      !((last :: front).contains .arabicNumber && (last :: front).contains .europeanNumber)

def runsOneWay (cs : List Char) : Bool :=
  match cs.map direction with
  | [] => true
  | first :: rest =>
    let rest := rest.reverse.dropWhile (· == .mark)
    match first with
    | .leftToRight => continuesRight rest
    | .rightToLeft => continuesLeft rest
    | _ => false

end SessionVault.Unicode

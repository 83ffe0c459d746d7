import SessionVault.Unicode.Mark

/-!
# Joining: letters that change their form beside others

In some scripts a letter joins the one in front of it, the one behind it or both.  Two characters that cannot be
seen ask for it or forbid it.

* `joining` — with which neighbours a character joins;
* `joinersFit` — the texts where the two characters make a difference: they stand behind a virama, and the one
  that forbids also between letters that would join.
-/

namespace SessionVault.Unicode

/-- With which neighbours a character joins. -/
inductive Joining where
  | left
  | right
  | both
  /-- With none, but letters join across it. -/
  | across
  | none
deriving DecidableEq

def Joining.read : List Char → Joining
  | ['l'] => left
  | ['r'] => right
  | ['d'] => both
  | ['t'] => across
  | _ => none

def joinings : Ranges Joining := Ranges.read Joining.read
  "0n ADt AEn 300t 370n 483t 48An 591t 5BEn 5BFt 5C0n 5C1t 5C3n 5C4t 5C6n 5C7t 5C8n 610t 61Bn 61Ct 61Dn 620d 621n 622r
626d 627r 628d 629r 62Ad 62Fr 633d 640n 641d 648r 649d 64Bt 660n 66Ed 670t 671r 674n 675r 678d 688r 69Ad 6C0r 6C1d
6C3r 6CCd 6CDr 6CEd 6CFr 6D0d 6D2r 6D4n 6D5r 6D6t 6DDn 6DFt 6E5n 6E7t 6E9n 6EAt 6EEr 6F0n 6FAd 6FDn 6FFd 700n 70Ft
710r 711t 712d 715r 71Ad 71Er 71Fd 728r 729d 72Ar 72Bd 72Cr 72Dd 72Fr 730t 74Bn 74Dr 74Ed 759r 75Cd 76Br 76Dd 771r
772d 773r 775d 778r 77Ad 780n 7A6t 7B1n 7CAd 7EBt 7F4n 7FDt 7FEn 816t 81An 81Bt 824n 825t 828n 829t 82En 840r 841d
846r 848d 849r 84Ad 854r 855d 856r 859t 85Cn 860d 861n 862d 866n 867r 868d 869r 86Bn 870r 883n 886d 887n 889d 88Er
88Fd 890n 897t 8A0d 8AAr 8ADn 8AEr 8AFd 8B1r 8B3d 8B9r 8BAd 8C9n 8CAt 8E2n 8E3t 903n 93At 93Bn 93Ct 93Dn 941t 949n
94Dt 94En 951t 958n 962t 964n 981t 982n 9BCt 9BDn 9C1t 9C5n 9CDt 9CEn 9E2t 9E4n 9FEt 9FFn A01t A03n A3Ct A3Dn A41t
A43n A47t A49n A4Bt A4En A51t A52n A70t A72n A75t A76n A81t A83n ABCt ABDn AC1t AC6n AC7t AC9n ACDt ACEn AE2t AE4n
AFAt B00n B01t B02n B3Ct B3Dn B3Ft B40n B41t B45n B4Dt B4En B55t B57n B62t B64n B82t B83n BC0t BC1n BCDt BCEn C00t
C01n C04t C05n C3Ct C3Dn C3Et C41n C46t C49n C4At C4En C55t C57n C62t C64n C81t C82n CBCt CBDn CBFt CC0n CC6t CC7n
CCCt CCEn CE2t CE4n D00t D02n D3Bt D3Dn D41t D45n D4Dt D4En D62t D64n D81t D82n DCAt DCBn DD2t DD5n DD6t DD7n E31t
E32n E34t E3Bn E47t E4Fn EB1t EB2n EB4t EBDn EC8t ECFn F18t F1An F35t F36n F37t F38n F39t F3An F71t F7Fn F80t F85n
F86t F88n F8Dt F98n F99t FBDn FC6t FC7n 102Dt 1031n 1032t 1038n 1039t 103Bn 103Dt 103Fn 1058t 105An 105Et 1061n 1071t
1075n 1082t 1083n 1085t 1087n 108Dt 108En 109Dt 109En 135Dt 1360n 1712t 1715n 1732t 1734n 1752t 1754n 1772t 1774n
17B4t 17B6n 17B7t 17BEn 17C6t 17C7n 17C9t 17D4n 17DDt 17DEn 1807d 1808n 180Bt 180En 180Ft 1810n 1820d 1879n 1885t
1887d 18A9t 18AAd 18ABn 1920t 1923n 1927t 1929n 1932t 1933n 1939t 193Cn 1A17t 1A19n 1A1Bt 1A1Cn 1A56t 1A57n 1A58t
1A5Fn 1A60t 1A61n 1A62t 1A63n 1A65t 1A6Dn 1A73t 1A7Dn 1A7Ft 1A80n 1AB0t 1ADEn 1AE0t 1AECn 1B00t 1B04n 1B34t 1B35n
1B36t 1B3Bn 1B3Ct 1B3Dn 1B42t 1B43n 1B6Bt 1B74n 1B80t 1B82n 1BA2t 1BA6n 1BA8t 1BAAn 1BABt 1BAEn 1BE6t 1BE7n 1BE8t
1BEAn 1BEDt 1BEEn 1BEFt 1BF2n 1C2Ct 1C34n 1C36t 1C38n 1CD0t 1CD3n 1CD4t 1CE1n 1CE2t 1CE9n 1CEDt 1CEEn 1CF4t 1CF5n
1CF8t 1CFAn 1DC0t 1E00n 200Bt 200Cn 200Et 2010n 202At 202Fn 2060t 2065n 206At 2070n 20D0t 20F1n 2CEFt 2CF2n 2D7Ft
2D80n 2DE0t 2E00n 302At 302En 3099t 309Bn A66Ft A673n A674t A67En A69Et A6A0n A6F0t A6F2n A802t A803n A806t A807n
A80Bt A80Cn A825t A827n A82Ct A82Dn A840d A872l A873n A8C4t A8C6n A8E0t A8F2n A8FFt A900n A926t A92En A947t A952n
A980t A983n A9B3t A9B4n A9B6t A9BAn A9BCt A9BEn A9E5t A9E6n AA29t AA2Fn AA31t AA33n AA35t AA37n AA43t AA44n AA4Ct
AA4Dn AA7Ct AA7Dn AAB0t AAB1n AAB2t AAB5n AAB7t AAB9n AABEt AAC0n AAC1t AAC2n AAECt AAEEn AAF6t AAF7n ABE5t ABE6n
ABE8t ABE9n ABEDt ABEEn FB1Et FB1Fn FE00t FE10n FE20t FE30n FEFFt FF00n FFF9t FFFCn 101FDt 101FEn 102E0t 102E1n
10376t 1037Bn 10A01t 10A04n 10A05t 10A07n 10A0Ct 10A10n 10A38t 10A3Bn 10A3Ft 10A40n 10AC0d 10AC5r 10AC6n 10AC7r
10AC8n 10AC9r 10ACBn 10ACDl 10ACEr 10AD3d 10AD7l 10AD8d 10ADDr 10ADEd 10AE1r 10AE2n 10AE4r 10AE5t 10AE7n 10AEBd
10AEFr 10AF0n 10B80d 10B81r 10B82d 10B83r 10B86d 10B89r 10B8Ad 10B8Cr 10B8Dd 10B8Er 10B90d 10B91r 10B92n 10BA9r
10BADd 10BAFn 10D00l 10D01d 10D22r 10D23d 10D24t 10D28n 10D69t 10D6En 10EABt 10EADn 10EC2r 10EC3d 10EC5n 10EC6d
10EC8n 10EFAt 10F00n 10F30d 10F33r 10F34d 10F45n 10F46t 10F51d 10F54r 10F55n 10F70d 10F74r 10F76d 10F82t 10F86n
10FB0d 10FB1n 10FB2d 10FB4r 10FB7n 10FB8d 10FB9r 10FBBd 10FBDr 10FBEd 10FC0n 10FC1d 10FC2r 10FC4d 10FC5n 10FC9r
10FCAd 10FCBl 10FCCn 11001t 11002n 11038t 11047n 11070t 11071n 11073t 11075n 1107Ft 11082n 110B3t 110B7n 110B9t
110BBn 110C2t 110C3n 11100t 11103n 11127t 1112Cn 1112Dt 11135n 11173t 11174n 11180t 11182n 111B6t 111BFn 111C9t
111CDn 111CFt 111D0n 1122Ft 11232n 11234t 11235n 11236t 11238n 1123Et 1123Fn 11241t 11242n 112DFt 112E0n 112E3t
112EBn 11300t 11302n 1133Bt 1133Dn 11340t 11341n 11366t 1136Dn 11370t 11375n 113BBt 113C1n 113CEt 113CFn 113D0t
113D1n 113D2t 113D3n 113E1t 113E3n 11438t 11440n 11442t 11445n 11446t 11447n 1145Et 1145Fn 114B3t 114B9n 114BAt
114BBn 114BFt 114C1n 114C2t 114C4n 115B2t 115B6n 115BCt 115BEn 115BFt 115C1n 115DCt 115DEn 11633t 1163Bn 1163Dt
1163En 1163Ft 11641n 116ABt 116ACn 116ADt 116AEn 116B0t 116B6n 116B7t 116B8n 1171Dt 1171En 1171Ft 11720n 11722t
11726n 11727t 1172Cn 1182Ft 11838n 11839t 1183Bn 1193Bt 1193Dn 1193Et 1193Fn 11943t 11944n 119D4t 119D8n 119DAt
119DCn 119E0t 119E1n 11A01t 11A0Bn 11A33t 11A39n 11A3Bt 11A3Fn 11A47t 11A48n 11A51t 11A57n 11A59t 11A5Cn 11A8At
11A97n 11A98t 11A9An 11B60t 11B61n 11B62t 11B65n 11B66t 11B67n 11C30t 11C37n 11C38t 11C3En 11C3Ft 11C40n 11C92t
11CA8n 11CAAt 11CB1n 11CB2t 11CB4n 11CB5t 11CB7n 11D31t 11D37n 11D3At 11D3Bn 11D3Ct 11D3En 11D3Ft 11D46n 11D47t
11D48n 11D90t 11D92n 11D95t 11D96n 11D97t 11D98n 11EF3t 11EF5n 11F00t 11F02n 11F36t 11F3Bn 11F40t 11F41n 11F42t
11F43n 11F5At 11F5Bn 13430t 13441n 13447t 13456n 1611Et 1612An 1612Dt 16130n 16AF0t 16AF5n 16B30t 16B37n 16F4Ft
16F50n 16F8Ft 16F93n 16FE4t 16FE5n 1BC9Dt 1BC9Fn 1BCA0t 1BCA4n 1CF00t 1CF2En 1CF30t 1CF47n 1D167t 1D16An 1D173t
1D183n 1D185t 1D18Cn 1D1AAt 1D1AEn 1D242t 1D245n 1DA00t 1DA37n 1DA3Bt 1DA6Dn 1DA75t 1DA76n 1DA84t 1DA85n 1DA9Bt
1DAA0n 1DAA1t 1DAB0n 1E000t 1E007n 1E008t 1E019n 1E01Bt 1E022n 1E023t 1E025n 1E026t 1E02Bn 1E08Ft 1E090n 1E130t
1E137n 1E2AEt 1E2AFn 1E2ECt 1E2F0n 1E4ECt 1E4F0n 1E5EEt 1E5F0n 1E6E3t 1E6E4n 1E6E6t 1E6E7n 1E6EEt 1E6F0n 1E6F5t
1E6F6n 1E8D0t 1E8D7n 1E900d 1E944t 1E94Cn E0001t E0002n E0020t E0080n E0100t E01F0n"

def joining (c : Char) : Joining := (joinings.value? c.toNat).getD .none

/-- The character that forbids to join. -/
def nonJoiner : Char := Char.ofNat 0x200C

/-- The character that asks to join. -/
def joiner : Char := Char.ofNat 0x200D

/-- Whether the first of some characters, across those that letters join across, joins in one of two ways. -/
def meets (a b : Joining) (cs : List Char) : Bool :=
  match cs.dropWhile (joining · == .across) with
  | [] => false
  | c :: _ => joining c == a || joining c == b

/-- Whether a character is in its place between those in front of it, the last one first, and those behind. -/
def joinerFits (front : List Char) (c : Char) (back : List Char) : Bool :=
  if c = joiner ∨ c = nonJoiner then
    match front with
    | [] => false
    | d :: _ => isVirama d || (c == nonJoiner && meets .left .both front && meets .right .both back)
  else true

/-- Whether the joiners of a text are in their places, behind some characters, the last one first. -/
def joinersFit (front : List Char) : List Char → Bool
  | [] => true
  | c :: back => joinerFits front c back && joinersFit (c :: front) back

end SessionVault.Unicode

import SessionVault.Unicode.Ranges

/-!
# Marks: signs that belong to the letter in front of them

A mark has a combining class; marks of different classes stand in different places at their letter, so their
order does not matter.  The class zero is that of letters and of marks that have a place of their own.

* `combiningClass` — the class of a character;
* `isMark` — whether it is a mark; `isVirama` — whether it is one that kills a vowel.
-/

namespace SessionVault.Unicode

/-- Combining classes, an equals sign in front. -/
def combiningClasses : Ranges Nat := Ranges.read (fun cs => Ranges.ofHex (cs.drop 1))
  "0=0 300=E6 315=E8 316=DC 31A=E8 31B=D8 31C=DC 321=CA 323=DC 327=CA 329=DC 334=1 339=DC 33D=E6 345=F0 346=E6 347=DC
34A=E6 34D=DC 34F=0 350=E6 353=DC 357=E6 358=E8 359=DC 35B=E6 35C=E9 35D=EA 35F=E9 360=EA 362=E9 363=E6 370=0 483=E6
488=0 591=DC 592=E6 596=DC 597=E6 59A=DE 59B=DC 59C=E6 5A2=DC 5A8=E6 5AA=DC 5AB=E6 5AD=DE 5AE=E4 5AF=E6 5B0=A 5B1=B
5B2=C 5B3=D 5B4=E 5B5=F 5B6=10 5B7=11 5B8=12 5B9=13 5BB=14 5BC=15 5BD=16 5BE=0 5BF=17 5C0=0 5C1=18 5C2=19 5C3=0
5C4=E6 5C5=DC 5C6=0 5C7=12 5C8=0 610=E6 618=1E 619=1F 61A=20 61B=0 64B=1B 64C=1C 64D=1D 64E=1E 64F=1F 650=20 651=21
652=22 653=E6 655=DC 657=E6 65C=DC 65D=E6 65F=DC 660=0 670=23 671=0 6D6=E6 6DD=0 6DF=E6 6E3=DC 6E4=E6 6E5=0 6E7=E6
6E9=0 6EA=DC 6EB=E6 6ED=DC 6EE=0 711=24 712=0 730=E6 731=DC 732=E6 734=DC 735=E6 737=DC 73A=E6 73B=DC 73D=E6 73E=DC
73F=E6 742=DC 743=E6 744=DC 745=E6 746=DC 747=E6 748=DC 749=E6 74B=0 7EB=E6 7F2=DC 7F3=E6 7F4=0 7FD=DC 7FE=0 816=E6
81A=0 81B=E6 824=0 825=E6 828=0 829=E6 82E=0 859=DC 85C=0 897=E6 899=DC 89C=E6 8A0=0 8CA=E6 8CF=DC 8D4=E6 8E2=0
8E3=DC 8E4=E6 8E6=DC 8E7=E6 8E9=DC 8EA=E6 8ED=DC 8F0=1B 8F1=1C 8F2=1D 8F3=E6 8F6=DC 8F7=E6 8F9=DC 8FB=E6 900=0 93C=7
93D=0 94D=9 94E=0 951=E6 952=DC 953=E6 955=0 9BC=7 9BD=0 9CD=9 9CE=0 9FE=E6 9FF=0 A3C=7 A3D=0 A4D=9 A4E=0 ABC=7 ABD=0
ACD=9 ACE=0 B3C=7 B3D=0 B4D=9 B4E=0 BCD=9 BCE=0 C3C=7 C3D=0 C4D=9 C4E=0 C55=54 C56=5B C57=0 CBC=7 CBD=0 CCD=9 CCE=0
D3B=9 D3D=0 D4D=9 D4E=0 DCA=9 DCB=0 E38=67 E3A=9 E3B=0 E48=6B E4C=0 EB8=76 EBA=9 EBB=0 EC8=7A ECC=0 F18=DC F1A=0
F35=DC F36=0 F37=DC F38=0 F39=D8 F3A=0 F71=81 F72=82 F73=0 F74=84 F75=0 F7A=82 F7E=0 F80=82 F81=0 F82=E6 F84=9 F85=0
F86=E6 F88=0 FC6=DC FC7=0 1037=7 1038=0 1039=9 103B=0 108D=DC 108E=0 135D=E6 1360=0 1714=9 1716=0 1734=9 1735=0
17D2=9 17D3=0 17DD=E6 17DE=0 18A9=E4 18AA=0 1939=DE 193A=E6 193B=DC 193C=0 1A17=E6 1A18=DC 1A19=0 1A60=9 1A61=0
1A75=E6 1A7D=0 1A7F=DC 1A80=0 1AB0=E6 1AB5=DC 1ABB=E6 1ABD=DC 1ABE=0 1ABF=DC 1AC1=E6 1AC3=DC 1AC5=E6 1ACA=DC 1ACB=E6
1ADD=DC 1ADE=0 1AE0=E6 1AE6=DC 1AE7=E6 1AEB=EA 1AEC=0 1B34=7 1B35=0 1B44=9 1B45=0 1B6B=E6 1B6C=DC 1B6D=E6 1B74=0
1BAA=9 1BAC=0 1BE6=7 1BE7=0 1BF2=9 1BF4=0 1C37=7 1C38=0 1CD0=E6 1CD3=0 1CD4=1 1CD5=DC 1CDA=E6 1CDC=DC 1CE0=E6 1CE1=0
1CE2=1 1CE9=0 1CED=DC 1CEE=0 1CF4=E6 1CF5=0 1CF8=E6 1CFA=0 1DC0=E6 1DC2=DC 1DC3=E6 1DCA=DC 1DCB=E6 1DCD=EA 1DCE=D6
1DCF=DC 1DD0=CA 1DD1=E6 1DF6=E8 1DF7=E4 1DF9=DC 1DFA=DA 1DFB=E6 1DFC=E9 1DFD=DC 1DFE=E6 1DFF=DC 1E00=0 20D0=E6 20D2=1
20D4=E6 20D8=1 20DB=E6 20DD=0 20E1=E6 20E2=0 20E5=1 20E7=E6 20E8=DC 20E9=E6 20EA=1 20EC=DC 20F0=E6 20F1=0 2CEF=E6
2CF2=0 2D7F=9 2D80=0 2DE0=E6 2E00=0 302A=DA 302B=E4 302C=E8 302D=DE 302E=E0 3030=0 3099=8 309B=0 A66F=E6 A670=0
A674=E6 A67E=0 A69E=E6 A6A0=0 A6F0=E6 A6F2=0 A806=9 A807=0 A82C=9 A82D=0 A8C4=9 A8C5=0 A8E0=E6 A8F2=0 A92B=DC A92E=0
A953=9 A954=0 A9B3=7 A9B4=0 A9C0=9 A9C1=0 AAB0=E6 AAB1=0 AAB2=E6 AAB4=DC AAB5=0 AAB7=E6 AAB9=0 AABE=E6 AAC0=0 AAC1=E6
AAC2=0 AAF6=9 AAF7=0 ABED=9 ABEE=0 FB1E=1A FB1F=0 FE20=E6 FE27=DC FE2E=E6 FE30=0 101FD=DC 101FE=0 102E0=DC 102E1=0
10376=E6 1037B=0 10A0D=DC 10A0E=0 10A0F=E6 10A10=0 10A38=E6 10A39=1 10A3A=DC 10A3B=0 10A3F=9 10A40=0 10AE5=E6
10AE6=DC 10AE7=0 10D24=E6 10D28=0 10D69=E6 10D6E=0 10EAB=E6 10EAD=0 10EFA=DC 10EFC=0 10EFD=DC 10F00=0 10F46=DC
10F48=E6 10F4B=DC 10F4C=E6 10F4D=DC 10F51=0 10F82=E6 10F83=DC 10F84=E6 10F85=DC 10F86=0 11046=9 11047=0 11070=9
11071=0 1107F=9 11080=0 110B9=9 110BA=7 110BB=0 11100=E6 11103=0 11133=9 11135=0 11173=7 11174=0 111C0=9 111C1=0
111CA=7 111CB=0 11235=9 11236=7 11237=0 112E9=7 112EA=9 112EB=0 1133B=7 1133D=0 1134D=9 1134E=0 11366=E6 1136D=0
11370=E6 11375=0 113CE=9 113D1=0 11442=9 11443=0 11446=7 11447=0 1145E=E6 1145F=0 114C2=9 114C3=7 114C4=0 115BF=9
115C0=7 115C1=0 1163F=9 11640=0 116B6=9 116B7=7 116B8=0 1172B=9 1172C=0 11839=9 1183A=7 1183B=0 1193D=9 1193F=0
11943=7 11944=0 119E0=9 119E1=0 11A34=9 11A35=0 11A47=9 11A48=0 11A99=9 11A9A=0 11C3F=9 11C40=0 11D42=7 11D43=0
11D44=9 11D46=0 11D97=9 11D98=0 11F41=9 11F43=0 1612F=9 16130=0 16AF0=1 16AF5=0 16B30=E6 16B37=0 16FF0=6 16FF2=0
1BC9E=1 1BC9F=0 1D165=D8 1D167=1 1D16A=0 1D16D=E2 1D16E=D8 1D173=0 1D17B=DC 1D183=0 1D185=E6 1D18A=DC 1D18C=0
1D1AA=E6 1D1AE=0 1D242=E6 1D245=0 1E000=E6 1E007=0 1E008=E6 1E019=0 1E01B=E6 1E022=0 1E023=E6 1E025=0 1E026=E6
1E02B=0 1E08F=E6 1E090=0 1E130=E6 1E137=0 1E2AE=E6 1E2AF=0 1E2EC=E6 1E2F0=0 1E4EC=E8 1E4EE=DC 1E4EF=E6 1E4F0=0
1E5EE=E6 1E5EF=DC 1E5F0=0 1E6E3=E6 1E6E4=0 1E6E6=E6 1E6E7=0 1E6EE=E6 1E6F0=0 1E6F5=E6 1E6F6=0 1E8D0=DC 1E8D7=0
1E944=E6 1E94A=7 1E94B=0"

def combiningClass (c : Char) : Nat := (combiningClasses.value? c.toNat).getD 0

/-- Whether a mark kills the vowel that its letter would have. -/
def isVirama (c : Char) : Bool := combiningClass c == 9

def marks : Ranges Bool := Ranges.read (· == ['m'])
  "0n 300m 370n 483m 48An 591m 5BEn 5BFm 5C0n 5C1m 5C3n 5C4m 5C6n 5C7m 5C8n 610m 61Bn 64Bm 660n 670m 671n 6D6m 6DDn 6DFm
6E5n 6E7m 6E9n 6EAm 6EEn 711m 712n 730m 74Bn 7A6m 7B1n 7EBm 7F4n 7FDm 7FEn 816m 81An 81Bm 824n 825m 828n 829m 82En
859m 85Cn 897m 8A0n 8CAm 8E2n 8E3m 904n 93Am 93Dn 93Em 950n 951m 958n 962m 964n 981m 984n 9BCm 9BDn 9BEm 9C5n 9C7m
9C9n 9CBm 9CEn 9D7m 9D8n 9E2m 9E4n 9FEm 9FFn A01m A04n A3Cm A3Dn A3Em A43n A47m A49n A4Bm A4En A51m A52n A70m A72n
A75m A76n A81m A84n ABCm ABDn ABEm AC6n AC7m ACAn ACBm ACEn AE2m AE4n AFAm B00n B01m B04n B3Cm B3Dn B3Em B45n B47m
B49n B4Bm B4En B55m B58n B62m B64n B82m B83n BBEm BC3n BC6m BC9n BCAm BCEn BD7m BD8n C00m C05n C3Cm C3Dn C3Em C45n
C46m C49n C4Am C4En C55m C57n C62m C64n C81m C84n CBCm CBDn CBEm CC5n CC6m CC9n CCAm CCEn CD5m CD7n CE2m CE4n CF3m
CF4n D00m D04n D3Bm D3Dn D3Em D45n D46m D49n D4Am D4En D57m D58n D62m D64n D81m D84n DCAm DCBn DCFm DD5n DD6m DD7n
DD8m DE0n DF2m DF4n E31m E32n E34m E3Bn E47m E4Fn EB1m EB2n EB4m EBDn EC8m ECFn F18m F1An F35m F36n F37m F38n F39m
F3An F3Em F40n F71m F85n F86m F88n F8Dm F98n F99m FBDn FC6m FC7n 102Bm 103Fn 1056m 105An 105Em 1061n 1062m 1065n
1067m 106En 1071m 1075n 1082m 108En 108Fm 1090n 109Am 109En 135Dm 1360n 1712m 1716n 1732m 1735n 1752m 1754n 1772m
1774n 17B4m 17D4n 17DDm 17DEn 180Bm 180En 180Fm 1810n 1885m 1887n 18A9m 18AAn 1920m 192Cn 1930m 193Cn 1A17m 1A1Cn
1A55m 1A5Fn 1A60m 1A7Dn 1A7Fm 1A80n 1AB0m 1ADEn 1AE0m 1AECn 1B00m 1B05n 1B34m 1B45n 1B6Bm 1B74n 1B80m 1B83n 1BA1m
1BAEn 1BE6m 1BF4n 1C24m 1C38n 1CD0m 1CD3n 1CD4m 1CE9n 1CEDm 1CEEn 1CF4m 1CF5n 1CF7m 1CFAn 1DC0m 1E00n 20D0m 20F1n
2CEFm 2CF2n 2D7Fm 2D80n 2DE0m 2E00n 302Am 3030n 3099m 309Bn A66Fm A673n A674m A67En A69Em A6A0n A6F0m A6F2n A802m
A803n A806m A807n A80Bm A80Cn A823m A828n A82Cm A82Dn A880m A882n A8B4m A8C6n A8E0m A8F2n A8FFm A900n A926m A92En
A947m A954n A980m A984n A9B3m A9C1n A9E5m A9E6n AA29m AA37n AA43m AA44n AA4Cm AA4En AA7Bm AA7En AAB0m AAB1n AAB2m
AAB5n AAB7m AAB9n AABEm AAC0n AAC1m AAC2n AAEBm AAF0n AAF5m AAF7n ABE3m ABEBn ABECm ABEEn FB1Em FB1Fn FE00m FE10n
FE20m FE30n 101FDm 101FEn 102E0m 102E1n 10376m 1037Bn 10A01m 10A04n 10A05m 10A07n 10A0Cm 10A10n 10A38m 10A3Bn 10A3Fm
10A40n 10AE5m 10AE7n 10D24m 10D28n 10D69m 10D6En 10EABm 10EADn 10EFAm 10F00n 10F46m 10F51n 10F82m 10F86n 11000m
11003n 11038m 11047n 11070m 11071n 11073m 11075n 1107Fm 11083n 110B0m 110BBn 110C2m 110C3n 11100m 11103n 11127m
11135n 11145m 11147n 11173m 11174n 11180m 11183n 111B3m 111C1n 111C9m 111CDn 111CEm 111D0n 1122Cm 11238n 1123Em
1123Fn 11241m 11242n 112DFm 112EBn 11300m 11304n 1133Bm 1133Dn 1133Em 11345n 11347m 11349n 1134Bm 1134En 11357m
11358n 11362m 11364n 11366m 1136Dn 11370m 11375n 113B8m 113C1n 113C2m 113C3n 113C5m 113C6n 113C7m 113CBn 113CCm
113D1n 113D2m 113D3n 113E1m 113E3n 11435m 11447n 1145Em 1145Fn 114B0m 114C4n 115AFm 115B6n 115B8m 115C1n 115DCm
115DEn 11630m 11641n 116ABm 116B8n 1171Dm 1172Cn 1182Cm 1183Bn 11930m 11936n 11937m 11939n 1193Bm 1193Fn 11940m
11941n 11942m 11944n 119D1m 119D8n 119DAm 119E1n 119E4m 119E5n 11A01m 11A0Bn 11A33m 11A3An 11A3Bm 11A3Fn 11A47m
11A48n 11A51m 11A5Cn 11A8Am 11A9An 11B60m 11B68n 11C2Fm 11C37n 11C38m 11C40n 11C92m 11CA8n 11CA9m 11CB7n 11D31m
11D37n 11D3Am 11D3Bn 11D3Cm 11D3En 11D3Fm 11D46n 11D47m 11D48n 11D8Am 11D8Fn 11D90m 11D92n 11D93m 11D98n 11EF3m
11EF7n 11F00m 11F02n 11F03m 11F04n 11F34m 11F3Bn 11F3Em 11F43n 11F5Am 11F5Bn 13440m 13441n 13447m 13456n 1611Em
16130n 16AF0m 16AF5n 16B30m 16B37n 16F4Fm 16F50n 16F51m 16F88n 16F8Fm 16F93n 16FE4m 16FE5n 16FF0m 16FF2n 1BC9Dm
1BC9Fn 1CF00m 1CF2En 1CF30m 1CF47n 1D165m 1D16An 1D16Dm 1D173n 1D17Bm 1D183n 1D185m 1D18Cn 1D1AAm 1D1AEn 1D242m
1D245n 1DA00m 1DA37n 1DA3Bm 1DA6Dn 1DA75m 1DA76n 1DA84m 1DA85n 1DA9Bm 1DAA0n 1DAA1m 1DAB0n 1E000m 1E007n 1E008m
1E019n 1E01Bm 1E022n 1E023m 1E025n 1E026m 1E02Bn 1E08Fm 1E090n 1E130m 1E137n 1E2AEm 1E2AFn 1E2ECm 1E2F0n 1E4ECm
1E4F0n 1E5EEm 1E5F0n 1E6E3m 1E6E4n 1E6E6m 1E6E7n 1E6EEm 1E6F0n 1E6F5m 1E6F6n 1E8D0m 1E8D7n 1E944m 1E94Bn E0100m
E01F0n"

def isMark (c : Char) : Bool := (marks.value? c.toNat).getD false

end SessionVault.Unicode

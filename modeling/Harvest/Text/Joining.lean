import Harvest.Text.Table

/-!
How letters join their neighbours in cursive scripts, and which characters are marks.
-/

namespace Harvest.Text

inductive Joining where
  | none
  | left
  | right
  | both
  | causing
  | transparent
  deriving DecidableEq

private def joiningRows : Table := Table.ofLines
  ["ADT AEU 300T 370U 483T 48AU 591T 5BEU 5BFT 5C0U 5C1T 5C3U 5C4T 5C6U 5C7T 5C8U 610T 61BU 61CT",
   "61DU 620W 621U 622R 626W 627R 628W 629R 62AW 62FR 633W 640J 641W 648R 649W 64BT 660U 66EW 670T",
   "671R 674U 675R 678W 688R 69AW 6C0R 6C1W 6C3R 6CCW 6CDR 6CEW 6CFR 6D0W 6D2R 6D4U 6D5R 6D6T 6DDU",
   "6DFT 6E5U 6E7T 6E9U 6EAT 6EER 6F0U 6FAW 6FDU 6FFW 700U 70FT 710R 711T 712W 715R 71AW 71ER 71FW",
   "728R 729W 72AR 72BW 72CR 72DW 72FR 730T 74BU 74DR 74EW 759R 75CW 76BR 76DW 771R 772W 773R 775W",
   "778R 77AW 780U 7A6T 7B1U 7CAW 7EBT 7F4U 7FAJ 7FBU 7FDT 7FEU 816T 81AU 81BT 824U 825T 828U 829T",
   "82EU 840R 841W 846R 848W 849R 84AW 854R 855W 856R 859T 85CU 860W 861U 862W 866U 867R 868W 869R",
   "86BU 870R 883J 886W 887U 889W 88ER 88FW 890U 897T 8A0W 8AAR 8ADU 8AER 8AFW 8B1R 8B3W 8B9R 8BAW",
   "8C9U 8CAT 8E2U 8E3T 903U 93AT 93BU 93CT 93DU 941T 949U 94DT 94EU 951T 958U 962T 964U 981T 982U",
   "9BCT 9BDU 9C1T 9C5U 9CDT 9CEU 9E2T 9E4U 9FET 9FFU A01T A03U A3CT A3DU A41T A43U A47T A49U A4BT",
   "A4EU A51T A52U A70T A72U A75T A76U A81T A83U ABCT ABDU AC1T AC6U AC7T AC9U ACDT ACEU AE2T AE4U",
   "AFAT B00U B01T B02U B3CT B3DU B3FT B40U B41T B45U B4DT B4EU B55T B57U B62T B64U B82T B83U BC0T",
   "BC1U BCDT BCEU C00T C01U C04T C05U C3CT C3DU C3ET C41U C46T C49U C4AT C4EU C55T C57U C62T C64U",
   "C81T C82U CBCT CBDU CBFT CC0U CC6T CC7U CCCT CCEU CE2T CE4U D00T D02U D3BT D3DU D41T D45U D4DT",
   "D4EU D62T D64U D81T D82U DCAT DCBU DD2T DD5U DD6T DD7U E31T E32U E34T E3BU E47T E4FU EB1T EB2U",
   "EB4T EBDU EC8T ECFU F18T F1AU F35T F36U F37T F38U F39T F3AU F71T F7FU F80T F85U F86T F88U F8DT",
   "F98U F99T FBDU FC6T FC7U 102DT 1031U 1032T 1038U 1039T 103BU 103DT 103FU 1058T 105AU 105ET 1061U",
   "1071T 1075U 1082T 1083U 1085T 1087U 108DT 108EU 109DT 109EU 135DT 1360U 1712T 1715U 1732T 1734U",
   "1752T 1754U 1772T 1774U 17B4T 17B6U 17B7T 17BEU 17C6T 17C7U 17C9T 17D4U 17DDT 17DEU 1807W 1808U",
   "180AJ 180BT 180EU 180FT 1810U 1820W 1879U 1885T 1887W 18A9T 18AAW 18ABU 1920T 1923U 1927T 1929U",
   "1932T 1933U 1939T 193CU 1A17T 1A19U 1A1BT 1A1CU 1A56T 1A57U 1A58T 1A5FU 1A60T 1A61U 1A62T 1A63U",
   "1A65T 1A6DU 1A73T 1A7DU 1A7FT 1A80U 1AB0T 1ADEU 1AE0T 1AECU 1B00T 1B04U 1B34T 1B35U 1B36T 1B3BU",
   "1B3CT 1B3DU 1B42T 1B43U 1B6BT 1B74U 1B80T 1B82U 1BA2T 1BA6U 1BA8T 1BAAU 1BABT 1BAEU 1BE6T 1BE7U",
   "1BE8T 1BEAU 1BEDT 1BEEU 1BEFT 1BF2U 1C2CT 1C34U 1C36T 1C38U 1CD0T 1CD3U 1CD4T 1CE1U 1CE2T 1CE9U",
   "1CEDT 1CEEU 1CF4T 1CF5U 1CF8T 1CFAU 1DC0T 1E00U 200BT 200CU 200DJ 200ET 2010U 202AT 202FU 2060T",
   "2065U 206AT 2070U 20D0T 20F1U 2CEFT 2CF2U 2D7FT 2D80U 2DE0T 2E00U 302AT 302EU 3099T 309BU A66FT",
   "A673U A674T A67EU A69ET A6A0U A6F0T A6F2U A802T A803U A806T A807U A80BT A80CU A825T A827U A82CT",
   "A82DU A840W A872L A873U A8C4T A8C6U A8E0T A8F2U A8FFT A900U A926T A92EU A947T A952U A980T A983U",
   "A9B3T A9B4U A9B6T A9BAU A9BCT A9BEU A9E5T A9E6U AA29T AA2FU AA31T AA33U AA35T AA37U AA43T AA44U",
   "AA4CT AA4DU AA7CT AA7DU AAB0T AAB1U AAB2T AAB5U AAB7T AAB9U AABET AAC0U AAC1T AAC2U AAECT AAEEU",
   "AAF6T AAF7U ABE5T ABE6U ABE8T ABE9U ABEDT ABEEU FB1ET FB1FU FE00T FE10U FE20T FE30U FEFFT FF00U",
   "FFF9T FFFCU 101FDT 101FEU 102E0T 102E1U 10376T 1037BU 10A01T 10A04U 10A05T 10A07U 10A0CT 10A10U",
   "10A38T 10A3BU 10A3FT 10A40U 10AC0W 10AC5R 10AC6U 10AC7R 10AC8U 10AC9R 10ACBU 10ACDL 10ACER",
   "10AD3W 10AD7L 10AD8W 10ADDR 10ADEW 10AE1R 10AE2U 10AE4R 10AE5T 10AE7U 10AEBW 10AEFR 10AF0U",
   "10B80W 10B81R 10B82W 10B83R 10B86W 10B89R 10B8AW 10B8CR 10B8DW 10B8ER 10B90W 10B91R 10B92U",
   "10BA9R 10BADW 10BAFU 10D00L 10D01W 10D22R 10D23W 10D24T 10D28U 10D69T 10D6EU 10EABT 10EADU",
   "10EC2R 10EC3W 10EC5U 10EC6W 10EC8U 10EFAT 10F00U 10F30W 10F33R 10F34W 10F45U 10F46T 10F51W",
   "10F54R 10F55U 10F70W 10F74R 10F76W 10F82T 10F86U 10FB0W 10FB1U 10FB2W 10FB4R 10FB7U 10FB8W",
   "10FB9R 10FBBW 10FBDR 10FBEW 10FC0U 10FC1W 10FC2R 10FC4W 10FC5U 10FC9R 10FCAW 10FCBL 10FCCU",
   "11001T 11002U 11038T 11047U 11070T 11071U 11073T 11075U 1107FT 11082U 110B3T 110B7U 110B9T",
   "110BBU 110C2T 110C3U 11100T 11103U 11127T 1112CU 1112DT 11135U 11173T 11174U 11180T 11182U",
   "111B6T 111BFU 111C9T 111CDU 111CFT 111D0U 1122FT 11232U 11234T 11235U 11236T 11238U 1123ET",
   "1123FU 11241T 11242U 112DFT 112E0U 112E3T 112EBU 11300T 11302U 1133BT 1133DU 11340T 11341U",
   "11366T 1136DU 11370T 11375U 113BBT 113C1U 113CET 113CFU 113D0T 113D1U 113D2T 113D3U 113E1T",
   "113E3U 11438T 11440U 11442T 11445U 11446T 11447U 1145ET 1145FU 114B3T 114B9U 114BAT 114BBU",
   "114BFT 114C1U 114C2T 114C4U 115B2T 115B6U 115BCT 115BEU 115BFT 115C1U 115DCT 115DEU 11633T",
   "1163BU 1163DT 1163EU 1163FT 11641U 116ABT 116ACU 116ADT 116AEU 116B0T 116B6U 116B7T 116B8U",
   "1171DT 1171EU 1171FT 11720U 11722T 11726U 11727T 1172CU 1182FT 11838U 11839T 1183BU 1193BT",
   "1193DU 1193ET 1193FU 11943T 11944U 119D4T 119D8U 119DAT 119DCU 119E0T 119E1U 11A01T 11A0BU",
   "11A33T 11A39U 11A3BT 11A3FU 11A47T 11A48U 11A51T 11A57U 11A59T 11A5CU 11A8AT 11A97U 11A98T",
   "11A9AU 11B60T 11B61U 11B62T 11B65U 11B66T 11B67U 11C30T 11C37U 11C38T 11C3EU 11C3FT 11C40U",
   "11C92T 11CA8U 11CAAT 11CB1U 11CB2T 11CB4U 11CB5T 11CB7U 11D31T 11D37U 11D3AT 11D3BU 11D3CT",
   "11D3EU 11D3FT 11D46U 11D47T 11D48U 11D90T 11D92U 11D95T 11D96U 11D97T 11D98U 11EF3T 11EF5U",
   "11F00T 11F02U 11F36T 11F3BU 11F40T 11F41U 11F42T 11F43U 11F5AT 11F5BU 13430T 13441U 13447T",
   "13456U 1611ET 1612AU 1612DT 16130U 16AF0T 16AF5U 16B30T 16B37U 16F4FT 16F50U 16F8FT 16F93U",
   "16FE4T 16FE5U 1BC9DT 1BC9FU 1BCA0T 1BCA4U 1CF00T 1CF2EU 1CF30T 1CF47U 1D167T 1D16AU 1D173T",
   "1D183U 1D185T 1D18CU 1D1AAT 1D1AEU 1D242T 1D245U 1DA00T 1DA37U 1DA3BT 1DA6DU 1DA75T 1DA76U",
   "1DA84T 1DA85U 1DA9BT 1DAA0U 1DAA1T 1DAB0U 1E000T 1E007U 1E008T 1E019U 1E01BT 1E022U 1E023T",
   "1E025U 1E026T 1E02BU 1E08FT 1E090U 1E130T 1E137U 1E2AET 1E2AFU 1E2ECT 1E2F0U 1E4ECT 1E4F0U",
   "1E5EET 1E5F0U 1E6E3T 1E6E4U 1E6E6T 1E6E7U 1E6EET 1E6F0U 1E6F5T 1E6F6U 1E8D0T 1E8D7U 1E900W",
   "1E944T 1E94CU E0001T E0002U E0020T E0080U E0100T E01F0U"]

private def markRows : Table := Table.ofLines
  ["300M 370N 483M 48AN 591M 5BEN 5BFM 5C0N 5C1M 5C3N 5C4M 5C6N 5C7M 5C8N 610M 61BN 64BM 660N 670M",
   "671N 6D6M 6DDN 6DFM 6E5N 6E7M 6E9N 6EAM 6EEN 711M 712N 730M 74BN 7A6M 7B1N 7EBM 7F4N 7FDM 7FEN",
   "816M 81AN 81BM 824N 825M 828N 829M 82EN 859M 85CN 898M 8A0N 8CAM 8E2N 8E3M 904N 93AM 93DN 93EM",
   "950N 951M 958N 962M 964N 981M 984N 9BCM 9BDN 9BEM 9C5N 9C7M 9C9N 9CBM 9CEN 9D7M 9D8N 9E2M 9E4N",
   "9FEM 9FFN A01M A04N A3CM A3DN A3EM A43N A47M A49N A4BM A4EN A51M A52N A70M A72N A75M A76N A81M",
   "A84N ABCM ABDN ABEM AC6N AC7M ACAN ACBM ACEN AE2M AE4N AFAM B00N B01M B04N B3CM B3DN B3EM B45N",
   "B47M B49N B4BM B4EN B55M B58N B62M B64N B82M B83N BBEM BC3N BC6M BC9N BCAM BCEN BD7M BD8N C00M",
   "C05N C3CM C3DN C3EM C45N C46M C49N C4AM C4EN C55M C57N C62M C64N C81M C84N CBCM CBDN CBEM CC5N",
   "CC6M CC9N CCAM CCEN CD5M CD7N CE2M CE4N CF3M CF4N D00M D04N D3BM D3DN D3EM D45N D46M D49N D4AM",
   "D4EN D57M D58N D62M D64N D81M D84N DCAM DCBN DCFM DD5N DD6M DD7N DD8M DE0N DF2M DF4N E31M E32N",
   "E34M E3BN E47M E4FN EB1M EB2N EB4M EBDN EC8M ECFN F18M F1AN F35M F36N F37M F38N F39M F3AN F3EM",
   "F40N F71M F85N F86M F88N F8DM F98N F99M FBDN FC6M FC7N 102BM 103FN 1056M 105AN 105EM 1061N 1062M",
   "1065N 1067M 106EN 1071M 1075N 1082M 108EN 108FM 1090N 109AM 109EN 135DM 1360N 1712M 1716N 1732M",
   "1735N 1752M 1754N 1772M 1774N 17B4M 17D4N 17DDM 17DEN 180BM 180EN 180FM 1810N 1885M 1887N 18A9M",
   "18AAN 1920M 192CN 1930M 193CN 1A17M 1A1CN 1A55M 1A5FN 1A60M 1A7DN 1A7FM 1A80N 1AB0M 1ACFN 1B00M",
   "1B05N 1B34M 1B45N 1B6BM 1B74N 1B80M 1B83N 1BA1M 1BAEN 1BE6M 1BF4N 1C24M 1C38N 1CD0M 1CD3N 1CD4M",
   "1CE9N 1CEDM 1CEEN 1CF4M 1CF5N 1CF7M 1CFAN 1DC0M 1E00N 20D0M 20F1N 2CEFM 2CF2N 2D7FM 2D80N 2DE0M",
   "2E00N 302AM 3030N 3099M 309BN A66FM A673N A674M A67EN A69EM A6A0N A6F0M A6F2N A802M A803N A806M",
   "A807N A80BM A80CN A823M A828N A82CM A82DN A880M A882N A8B4M A8C6N A8E0M A8F2N A8FFM A900N A926M",
   "A92EN A947M A954N A980M A984N A9B3M A9C1N A9E5M A9E6N AA29M AA37N AA43M AA44N AA4CM AA4EN AA7BM",
   "AA7EN AAB0M AAB1N AAB2M AAB5N AAB7M AAB9N AABEM AAC0N AAC1M AAC2N AAEBM AAF0N AAF5M AAF7N ABE3M",
   "ABEBN ABECM ABEEN FB1EM FB1FN FE00M FE10N FE20M FE30N 101FDM 101FEN 102E0M 102E1N 10376M 1037BN",
   "10A01M 10A04N 10A05M 10A07N 10A0CM 10A10N 10A38M 10A3BN 10A3FM 10A40N 10AE5M 10AE7N 10D24M",
   "10D28N 10EABM 10EADN 10EFDM 10F00N 10F46M 10F51N 10F82M 10F86N 11000M 11003N 11038M 11047N",
   "11070M 11071N 11073M 11075N 1107FM 11083N 110B0M 110BBN 110C2M 110C3N 11100M 11103N 11127M",
   "11135N 11145M 11147N 11173M 11174N 11180M 11183N 111B3M 111C1N 111C9M 111CDN 111CEM 111D0N",
   "1122CM 11238N 1123EM 1123FN 11241M 11242N 112DFM 112EBN 11300M 11304N 1133BM 1133DN 1133EM",
   "11345N 11347M 11349N 1134BM 1134EN 11357M 11358N 11362M 11364N 11366M 1136DN 11370M 11375N",
   "11435M 11447N 1145EM 1145FN 114B0M 114C4N 115AFM 115B6N 115B8M 115C1N 115DCM 115DEN 11630M",
   "11641N 116ABM 116B8N 1171DM 1172CN 1182CM 1183BN 11930M 11936N 11937M 11939N 1193BM 1193FN",
   "11940M 11941N 11942M 11944N 119D1M 119D8N 119DAM 119E1N 119E4M 119E5N 11A01M 11A0BN 11A33M",
   "11A3AN 11A3BM 11A3FN 11A47M 11A48N 11A51M 11A5CN 11A8AM 11A9AN 11C2FM 11C37N 11C38M 11C40N",
   "11C92M 11CA8N 11CA9M 11CB7N 11D31M 11D37N 11D3AM 11D3BN 11D3CM 11D3EN 11D3FM 11D46N 11D47M",
   "11D48N 11D8AM 11D8FN 11D90M 11D92N 11D93M 11D98N 11EF3M 11EF7N 11F00M 11F02N 11F03M 11F04N",
   "11F34M 11F3BN 11F3EM 11F43N 13440M 13441N 13447M 13456N 16AF0M 16AF5N 16B30M 16B37N 16F4FM",
   "16F50N 16F51M 16F88N 16F8FM 16F93N 16FE4M 16FE5N 16FF0M 16FF2N 1BC9DM 1BC9FN 1CF00M 1CF2EN",
   "1CF30M 1CF47N 1D165M 1D16AN 1D16DM 1D173N 1D17BM 1D183N 1D185M 1D18CN 1D1AAM 1D1AEN 1D242M",
   "1D245N 1DA00M 1DA37N 1DA3BM 1DA6DN 1DA75M 1DA76N 1DA84M 1DA85N 1DA9BM 1DAA0N 1DAA1M 1DAB0N",
   "1E000M 1E007N 1E008M 1E019N 1E01BM 1E022N 1E023M 1E025N 1E026M 1E02BN 1E08FM 1E090N 1E130M",
   "1E137N 1E2AEM 1E2AFN 1E2ECM 1E2F0N 1E4ECM 1E4F0N 1E8D0M 1E8D7N 1E944M 1E94BN E0100M E01F0N"]

def Joining.of (c : Char) : Joining :=
  match (joiningRows.covering c.toNat).map Row.kind with
  | some 'J' => .causing
  | some 'W' => .both
  | some 'L' => .left
  | some 'R' => .right
  | some 'T' => .transparent
  | _ => .none

/-- Whether a character attaches to the one before it. -/
def isMark (c : Char) : Bool := (markRows.covering c.toNat).map Row.kind == some 'M'

end Harvest.Text

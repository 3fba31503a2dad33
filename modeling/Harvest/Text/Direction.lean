import Harvest.Text.Table

/-!
The writing direction of characters, as the bidirectional algorithm classes them.
-/

namespace Harvest.Text

inductive Direction where
  | left
  | right
  | arabicLetter
  | arabicNumber
  | europeanNumber
  | europeanSeparator
  | commonSeparator
  | europeanTerminator
  | otherNeutral
  | boundaryNeutral
  | nonspacingMark
  | other
  deriving DecidableEq

private def directionRows : Table := Table.ofLines
  ["0P 9X EP 1CX 21O 23M 26O 2BJ 2CK 2DJ 2EK 30I 3AK 3BO 41L 5BO 61L 7BO 7FP 85X 86P A0K A1O A2M A6O",
   "AAL ABO ADP AEO B0M B2I B4O B5L B6O B9I BAL BBO C0L D7O D8L F7O F8L 2B9O 2BBL 2C2O 2D0L 2D2O",
   "2E0L 2E5O 2EEL 2EFO 300S 370L 374O 376L 37EO 37FL 384O 386L 387O 388L 3F6O 3F7L 483S 48AL 58AO",
   "58BL 58DO 58FM 590L 591S 5BER 5BFS 5C0R 5C1S 5C3R 5C4S 5C6R 5C7S 5C8L 5D0R 5EBL 5EFR 5F5L 600H",
   "606O 608G 609M 60BG 60CK 60DG 60EO 610S 61BG 64BS 660H 66AM 66BH 66DG 670S 671G 6D6S 6DDH 6DEO",
   "6DFS 6E5G 6E7S 6E9O 6EAS 6EEG 6F0I 6FAG 70EL 70FG 711S 712G 730S 74BL 74DG 7A6S 7B1G 7B2L 7C0R",
   "7EBS 7F4R 7F6O 7FAR 7FBL 7FDS 7FER 816S 81AR 81BS 824R 825S 828R 829S 82EL 830R 83FL 840R 859S",
   "85CL 85ER 85FL 860G 86BL 870G 88FL 890H 892L 898S 8A0G 8CAS 8E2H 8E3S 903L 93AS 93BL 93CS 93DL",
   "941S 949L 94DS 94EL 951S 958L 962S 964L 981S 982L 9BCS 9BDL 9C1S 9C5L 9CDS 9CEL 9E2S 9E4L 9F2M",
   "9F4L 9FBM 9FCL 9FES 9FFL A01S A03L A3CS A3DL A41S A43L A47S A49L A4BS A4EL A51S A52L A70S A72L",
   "A75S A76L A81S A83L ABCS ABDL AC1S AC6L AC7S AC9L ACDS ACEL AE2S AE4L AF1M AF2L AFAS B00L B01S",
   "B02L B3CS B3DL B3FS B40L B41S B45L B4DS B4EL B55S B57L B62S B64L B82S B83L BC0S BC1L BCDS BCEL",
   "BF3O BF9M BFAO BFBL C00S C01L C04S C05L C3CS C3DL C3ES C41L C46S C49L C4AS C4EL C55S C57L C62S",
   "C64L C78O C7FL C81S C82L CBCS CBDL CCCS CCEL CE2S CE4L D00S D02L D3BS D3DL D41S D45L D4DS D4EL",
   "D62S D64L D81S D82L DCAS DCBL DD2S DD5L DD6S DD7L E31S E32L E34S E3BL E3FM E40L E47S E4FL EB1S",
   "EB2L EB4S EBDL EC8S ECFL F18S F1AL F35S F36L F37S F38L F39S F3AO F3EL F71S F7FL F80S F85L F86S",
   "F88L F8DS F98L F99S FBDL FC6S FC7L 102DS 1031L 1032S 1038L 1039S 103BL 103DS 103FL 1058S 105AL",
   "105ES 1061L 1071S 1075L 1082S 1083L 1085S 1087L 108DS 108EL 109DS 109EL 135DS 1360L 1390O 139AL",
   "1400O 1401L 1680X 1681L 169BO 169DL 1712S 1715L 1732S 1734L 1752S 1754L 1772S 1774L 17B4S 17B6L",
   "17B7S 17BEL 17C6S 17C7L 17C9S 17D4L 17DBM 17DCL 17DDS 17DEL 17F0O 17FAL 1800O 180BS 180EP 180FS",
   "1810L 1885S 1887L 18A9S 18AAL 1920S 1923L 1927S 1929L 1932S 1933L 1939S 193CL 1940O 1941L 1944O",
   "1946L 19DEO 1A00L 1A17S 1A19L 1A1BS 1A1CL 1A56S 1A57L 1A58S 1A5FL 1A60S 1A61L 1A62S 1A63L 1A65S",
   "1A6DL 1A73S 1A7DL 1A7FS 1A80L 1AB0S 1ACFL 1B00S 1B04L 1B34S 1B35L 1B36S 1B3BL 1B3CS 1B3DL 1B42S",
   "1B43L 1B6BS 1B74L 1B80S 1B82L 1BA2S 1BA6L 1BA8S 1BAAL 1BABS 1BAEL 1BE6S 1BE7L 1BE8S 1BEAL 1BEDS",
   "1BEEL 1BEFS 1BF2L 1C2CS 1C34L 1C36S 1C38L 1CD0S 1CD3L 1CD4S 1CE1L 1CE2S 1CE9L 1CEDS 1CEEL 1CF4S",
   "1CF5L 1CF8S 1CFAL 1DC0S 1E00L 1FBDO 1FBEL 1FBFO 1FC2L 1FCDO 1FD0L 1FDDO 1FE0L 1FEDO 1FF0L 1FFDO",
   "1FFFL 2000X 200BP 200EL 200FR 2010O 2028X 202FK 2030M 2035O 2044K 2045O 205FX 2060P 2065L 2066X",
   "206AP 2070I 2071L 2074I 207AJ 207CO 207FL 2080I 208AJ 208CO 208FL 20A0M 20C1L 20D0S 20F1L 2100O",
   "2102L 2103O 2107L 2108O 210AL 2114O 2115L 2116O 2119L 211EO 2124L 2125O 2126L 2127O 2128L 2129O",
   "212AL 212EM 212FL 213AO 213CL 2140O 2145L 214AO 214EL 2150O 2160L 2189O 218CL 2190O 2212J 2213M",
   "2214O 2336L 237BO 2395L 2396O 2427L 2440O 244BL 2460O 2488I 249CL 24EAO 26ACL 26ADO 2800L 2900O",
   "2B74L 2B76O 2B96L 2B97O 2C00L 2CE5O 2CEBL 2CEFS 2CF2L 2CF9O 2D00L 2D7FS 2D80L 2DE0S 2E00O 2E5EL",
   "2E80O 2E9AL 2E9BO 2EF4L 2F00O 2FD6L 2FF0O 2FFCL 3000X 3001O 3005L 3008O 3021L 302AS 302EL 3030O",
   "3031L 3036O 3038L 303DO 3040L 3099S 309BO 309DL 30A0O 30A1L 30FBO 30FCL 31C0O 31E4L 321DO 321FL",
   "3250O 3260L 327CO 327FL 32B1O 32C0L 32CCO 32D0L 3377O 337BL 33DEO 33E0L 33FFO 3400L 4DC0O 4E00L",
   "A490O A4C7L A60DO A610L A66FS A673O A674S A67EO A680L A69ES A6A0L A6F0S A6F2L A700O A722L A788O",
   "A789L A802S A803L A806S A807L A80BS A80CL A825S A827L A828O A82CS A82DL A838M A83AL A874O A878L",
   "A8C4S A8C6L A8E0S A8F2L A8FFS A900L A926S A92EL A947S A952L A980S A983L A9B3S A9B4L A9B6S A9BAL",
   "A9BCS A9BEL A9E5S A9E6L AA29S AA2FL AA31S AA33L AA35S AA37L AA43S AA44L AA4CS AA4DL AA7CS AA7DL",
   "AAB0S AAB1L AAB2S AAB5L AAB7S AAB9L AABES AAC0L AAC1S AAC2L AAECS AAEEL AAF6S AAF7L AB6AO AB6CL",
   "ABE5S ABE6L ABE8S ABE9L ABEDS ABEEL FB1DR FB1ES FB1FR FB29J FB2AR FB37L FB38R FB3DL FB3ER FB3FL",
   "FB40R FB42L FB43R FB45L FB46R FB50G FBC3L FBD3G FD3EO FD50G FD90L FD92G FDC8L FDCFO FDD0L FDF0G",
   "FDFDO FE00S FE10O FE1AL FE20S FE30O FE50K FE51O FE52K FE53L FE54O FE55K FE56O FE5FM FE60O FE62J",
   "FE64O FE67L FE68O FE69M FE6BO FE6CL FE70G FE75L FE76G FEFDL FEFFP FF00L FF01O FF03M FF06O FF0BJ",
   "FF0CK FF0DJ FF0EK FF10I FF1AK FF1BO FF21L FF3BO FF41L FF5BO FF66L FFE0M FFE2O FFE5M FFE7L FFE8O",
   "FFEFL FFF9O FFFEL 10101O 10102L 10140O 1018DL 10190O 1019DL 101A0O 101A1L 101FDS 101FEL 102E0S",
   "102E1I 102FCL 10376S 1037BL 10800R 10806L 10808R 10809L 1080AR 10836L 10837R 10839L 1083CR",
   "1083DL 1083FR 10856L 10857R 1089FL 108A7R 108B0L 108E0R 108F3L 108F4R 108F6L 108FBR 1091CL",
   "1091FO 10920R 1093AL 1093FR 10940L 10980R 109B8L 109BCR 109D0L 109D2R 10A01S 10A04L 10A05S",
   "10A07L 10A0CS 10A10R 10A14L 10A15R 10A18L 10A19R 10A36L 10A38S 10A3BL 10A3FS 10A40R 10A49L",
   "10A50R 10A59L 10A60R 10AA0L 10AC0R 10AE5S 10AE7L 10AEBR 10AF7L 10B00R 10B36L 10B39O 10B40R",
   "10B56L 10B58R 10B73L 10B78R 10B92L 10B99R 10B9DL 10BA9R 10BB0L 10C00R 10C49L 10C80R 10CB3L",
   "10CC0R 10CF3L 10CFAR 10D00G 10D24S 10D28L 10D30H 10D3AL 10E60H 10E7FL 10E80R 10EAAL 10EABS",
   "10EADR 10EAEL 10EB0R 10EB2L 10EFDS 10F00R 10F28L 10F30G 10F46S 10F51G 10F5AL 10F70R 10F82S",
   "10F86R 10F8AL 10FB0R 10FCCL 10FE0R 10FF7L 11001S 11002L 11038S 11047L 11052O 11066L 11070S",
   "11071L 11073S 11075L 1107FS 11082L 110B3S 110B7L 110B9S 110BBL 110C2S 110C3L 11100S 11103L",
   "11127S 1112CL 1112DS 11135L 11173S 11174L 11180S 11182L 111B6S 111BFL 111C9S 111CDL 111CFS",
   "111D0L 1122FS 11232L 11234S 11235L 11236S 11238L 1123ES 1123FL 11241S 11242L 112DFS 112E0L",
   "112E3S 112EBL 11300S 11302L 1133BS 1133DL 11340S 11341L 11366S 1136DL 11370S 11375L 11438S",
   "11440L 11442S 11445L 11446S 11447L 1145ES 1145FL 114B3S 114B9L 114BAS 114BBL 114BFS 114C1L",
   "114C2S 114C4L 115B2S 115B6L 115BCS 115BEL 115BFS 115C1L 115DCS 115DEL 11633S 1163BL 1163DS",
   "1163EL 1163FS 11641L 11660O 1166DL 116ABS 116ACL 116ADS 116AEL 116B0S 116B6L 116B7S 116B8L",
   "1171DS 11720L 11722S 11726L 11727S 1172CL 1182FS 11838L 11839S 1183BL 1193BS 1193DL 1193ES",
   "1193FL 11943S 11944L 119D4S 119D8L 119DAS 119DCL 119E0S 119E1L 11A01S 11A07L 11A09S 11A0BL",
   "11A33S 11A39L 11A3BS 11A3FL 11A47S 11A48L 11A51S 11A57L 11A59S 11A5CL 11A8AS 11A97L 11A98S",
   "11A9AL 11C30S 11C37L 11C38S 11C3EL 11C92S 11CA8L 11CAAS 11CB1L 11CB2S 11CB4L 11CB5S 11CB7L",
   "11D31S 11D37L 11D3AS 11D3BL 11D3CS 11D3EL 11D3FS 11D46L 11D47S 11D48L 11D90S 11D92L 11D95S",
   "11D96L 11D97S 11D98L 11EF3S 11EF5L 11F00S 11F02L 11F36S 11F3BL 11F40S 11F41L 11F42S 11F43L",
   "11FD5O 11FDDM 11FE1O 11FF2L 13440S 13441L 13447S 13456L 16AF0S 16AF5L 16B30S 16B37L 16F4FS",
   "16F50L 16F8FS 16F93L 16FE2O 16FE3L 16FE4S 16FE5L 1BC9DS 1BC9FL 1BCA0P 1BCA4L 1CF00S 1CF2EL",
   "1CF30S 1CF47L 1D167S 1D16AL 1D173P 1D17BS 1D183L 1D185S 1D18CL 1D1AAS 1D1AEL 1D1E9O 1D1EBL",
   "1D200O 1D242S 1D245O 1D246L 1D300O 1D357L 1D6DBO 1D6DCL 1D715O 1D716L 1D74FO 1D750L 1D789O",
   "1D78AL 1D7C3O 1D7C4L 1D7CEI 1D800L 1DA00S 1DA37L 1DA3BS 1DA6DL 1DA75S 1DA76L 1DA84S 1DA85L",
   "1DA9BS 1DAA0L 1DAA1S 1DAB0L 1E000S 1E007L 1E008S 1E019L 1E01BS 1E022L 1E023S 1E025L 1E026S",
   "1E02BL 1E08FS 1E090L 1E130S 1E137L 1E2AES 1E2AFL 1E2ECS 1E2F0L 1E2FFM 1E300L 1E4ECS 1E4F0L",
   "1E800R 1E8C5L 1E8C7R 1E8D0S 1E8D7L 1E900R 1E944S 1E94BR 1E94CL 1E950R 1E95AL 1E95ER 1E960L",
   "1EC71G 1ECB5L 1ED01G 1ED3EL 1EE00G 1EE04L 1EE05G 1EE20L 1EE21G 1EE23L 1EE24G 1EE25L 1EE27G",
   "1EE28L 1EE29G 1EE33L 1EE34G 1EE38L 1EE39G 1EE3AL 1EE3BG 1EE3CL 1EE42G 1EE43L 1EE47G 1EE48L",
   "1EE49G 1EE4AL 1EE4BG 1EE4CL 1EE4DG 1EE50L 1EE51G 1EE53L 1EE54G 1EE55L 1EE57G 1EE58L 1EE59G",
   "1EE5AL 1EE5BG 1EE5CL 1EE5DG 1EE5EL 1EE5FG 1EE60L 1EE61G 1EE63L 1EE64G 1EE65L 1EE67G 1EE6BL",
   "1EE6CG 1EE73L 1EE74G 1EE78L 1EE79G 1EE7DL 1EE7EG 1EE7FL 1EE80G 1EE8AL 1EE8BG 1EE9CL 1EEA1G",
   "1EEA4L 1EEA5G 1EEAAL 1EEABG 1EEBCL 1EEF0O 1EEF2L 1F000O 1F02CL 1F030O 1F094L 1F0A0O 1F0AFL",
   "1F0B1O 1F0C0L 1F0C1O 1F0D0L 1F0D1O 1F0F6L 1F100I 1F10BO 1F110L 1F12FO 1F130L 1F16AO 1F170L",
   "1F1ADO 1F1AEL 1F260O 1F266L 1F300O 1F6D8L 1F6DCO 1F6EDL 1F6F0O 1F6FDL 1F700O 1F777L 1F77BO",
   "1F7DAL 1F7E0O 1F7ECL 1F7F0O 1F7F1L 1F800O 1F80CL 1F810O 1F848L 1F850O 1F85AL 1F860O 1F888L",
   "1F890O 1F8AEL 1F8B0O 1F8B2L 1F900O 1FA54L 1FA60O 1FA6EL 1FA70O 1FA7DL 1FA80O 1FA89L 1FA90O",
   "1FABEL 1FABFO 1FAC6L 1FACEO 1FADCL 1FAE0O 1FAE9L 1FAF0O 1FAF9L 1FB00O 1FB93L 1FB94O 1FBCBL",
   "1FBF0I 1FBFAL E0001P E0002L E0020P E0080L E0100S E01F0L"]

/-- The direction class of a character. -/
def Direction.of (c : Char) : Direction :=
  match (directionRows.covering c.toNat).map Row.kind with
  | some 'R' => .right
  | some 'G' => .arabicLetter
  | some 'H' => .arabicNumber
  | some 'I' => .europeanNumber
  | some 'J' => .europeanSeparator
  | some 'K' => .commonSeparator
  | some 'M' => .europeanTerminator
  | some 'O' => .otherNeutral
  | some 'P' => .boundaryNeutral
  | some 'S' => .nonspacingMark
  | some 'X' => .other
  | _ => .left

end Harvest.Text

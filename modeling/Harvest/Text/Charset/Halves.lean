import Harvest.Text.Table

/-!
The upper halves of character sets with one byte per character. A row marked `m` gives the character
of its byte, with the following ones in order; the bytes of a row marked `x` stand for nothing.
-/

namespace Harvest.Text.Charset

def halves : List (String × List String) :=
  [("ibm866", ["80m410 B0m2591 B3m2502 B4m2524 B5m2561 B7m2556 B8m2555 B9m2563 BAm2551 BBm2557 BCm255D",
      "BDm255C BEm255B BFm2510 C0m2514 C1m2534 C2m252C C3m251C C4m2500 C5m253C C6m255E C8m255A",
      "C9m2554 CAm2569 CBm2566 CCm2560 CDm2550 CEm256C CFm2567 D1m2564 D3m2559 D4m2558 D5m2552",
      "D7m256B D8m256A D9m2518 DAm250C DBm2588 DCm2584 DDm258C DEm2590 DFm2580 E0m440 F0m401",
      "F1m451 F2m404 F3m454 F4m407 F5m457 F6m40E F7m45E F8mB0 F9m2219 FAmB7 FBm221A FCm2116",
      "FDmA4 FEm25A0 FFmA0"]),
    ("iso-8859-2", ["80m80 A1m104 A2m2D8 A3m141 A4mA4 A5m13D A6m15A A7mA7 A9m160 AAm15E ABm164 ACm179 ADmAD",
      "AEm17D AFm17B B0mB0 B1m105 B2m2DB B3m142 B4mB4 B5m13E B6m15B B7m2C7 B8mB8 B9m161 BAm15F",
      "BBm165 BCm17A BDm2DD BEm17E BFm17C C0m154 C1mC1 C3m102 C4mC4 C5m139 C6m106 C7mC7 C8m10C",
      "C9mC9 CAm118 CBmCB CCm11A CDmCD CFm10E D0m110 D1m143 D2m147 D3mD3 D5m150 D6mD6 D8m158",
      "D9m16E DAmDA DBm170 DCmDC DEm162 DFmDF E0m155 E1mE1 E3m103 E4mE4 E5m13A E6m107 E7mE7",
      "E8m10D E9mE9 EAm119 EBmEB ECm11B EDmED EFm10F F0m111 F1m144 F2m148 F3mF3 F5m151 F6mF6",
      "F8m159 F9m16F FAmFA FBm171 FCmFC FEm163 FFm2D9"]),
    ("iso-8859-3", ["80m80 A1m126 A2m2D8 A3mA3 A5x A6m124 A7mA7 A9m130 AAm15E ABm11E ACm134 ADmAD AEx AFm17B",
      "B0mB0 B1m127 B2mB2 B6m125 B7mB7 B9m131 BAm15F BBm11F BCm135 BDmBD BEx BFm17C C0mC0 C3x",
      "C4mC4 C5m10A C6m108 C7mC7 D0x D1mD1 D5m120 D6mD6 D8m11C D9mD9 DDm16C DEm15C DFmDF E3x",
      "E4mE4 E5m10B E6m109 E7mE7 F0x F1mF1 F5m121 F6mF6 F8m11D F9mF9 FDm16D FEm15D FFm2D9"]),
    ("iso-8859-4", ["80m80 A1m104 A2m138 A3m156 A4mA4 A5m128 A6m13B A7mA7 A9m160 AAm112 ABm122 ACm166 ADmAD",
      "AEm17D AFmAF B1m105 B2m2DB B3m157 B4mB4 B5m129 B6m13C B7m2C7 B8mB8 B9m161 BAm113 BBm123",
      "BCm167 BDm14A BEm17E BFm14B C0m100 C1mC1 C7m12E C8m10C C9mC9 CAm118 CBmCB CCm116 CDmCD",
      "CFm12A D0m110 D1m145 D2m14C D3m136 D4mD4 D9m172 DAmDA DDm168 DEm16A DFmDF E0m101 E1mE1",
      "E7m12F E8m10D E9mE9 EAm119 EBmEB ECm117 EDmED EFm12B F0m111 F1m146 F2m14D F3m137 F4mF4",
      "F9m173 FAmFA FDm169 FEm16B FFm2D9"]),
    ("iso-8859-5", ["80m80 A1m401 ADmAD AEm40E F0m2116 F1m451 FDmA7 FEm45E"]),
    ("iso-8859-6", ["80m80 A1x A4mA4 A5x ACm60C ADmAD AEx BBm61B BCx BFm61F C0x C1m621 DBx E0m640 F3x"]),
    ("iso-8859-7", ["80m80 A1m2018 A3mA3 A4m20AC A5m20AF A6mA6 AAm37A ABmAB AEx AFm2015 B0mB0 B4m384 B7mB7",
      "B8m388 BBmBB BCm38C BDmBD BEm38E D2x D3m3A3 FFx"]),
    ("iso-8859-8", ["80m80 A1x A2mA2 AAmD7 ABmAB BAmF7 BBmBB BFx DFm2017 E0m5D0 FBx FDm200E FFx"]),
    ("iso-8859-10", ["80m80 A1m104 A2m112 A3m122 A4m12A A5m128 A6m136 A7mA7 A8m13B A9m110 AAm160 ABm166 ACm17D",
      "ADmAD AEm16A AFm14A B0mB0 B1m105 B2m113 B3m123 B4m12B B5m129 B6m137 B7mB7 B8m13C B9m111",
      "BAm161 BBm167 BCm17E BDm2015 BEm16B BFm14B C0m100 C1mC1 C7m12E C8m10C C9mC9 CAm118 CBmCB",
      "CCm116 CDmCD D1m145 D2m14C D3mD3 D7m168 D8mD8 D9m172 DAmDA E0m101 E1mE1 E7m12F E8m10D",
      "E9mE9 EAm119 EBmEB ECm117 EDmED F1m146 F2m14D F3mF3 F7m169 F8mF8 F9m173 FAmFA FFm138"]),
    ("iso-8859-13", ["80m80 A1m201D A2mA2 A5m201E A6mA6 A8mD8 A9mA9 AAm156 ABmAB AFmC6 B0mB0 B4m201C B5mB5",
      "B8mF8 B9mB9 BAm157 BBmBB BFmE6 C0m104 C1m12E C2m100 C3m106 C4mC4 C6m118 C7m112 C8m10C",
      "C9mC9 CAm179 CBm116 CCm122 CDm136 CEm12A CFm13B D0m160 D1m143 D2m145 D3mD3 D4m14C D5mD5",
      "D8m172 D9m141 DAm15A DBm16A DCmDC DDm17B DEm17D DFmDF E0m105 E1m12F E2m101 E3m107 E4mE4",
      "E6m119 E7m113 E8m10D E9mE9 EAm17A EBm117 ECm123 EDm137 EEm12B EFm13C F0m161 F1m144",
      "F2m146 F3mF3 F4m14D F5mF5 F8m173 F9m142 FAm15B FBm16B FCmFC FDm17C FEm17E FFm2019"]),
    ("iso-8859-14", ["80m80 A1m1E02 A3mA3 A4m10A A6m1E0A A7mA7 A8m1E80 A9mA9 AAm1E82 ABm1E0B ACm1EF2 ADmAD",
      "AFm178 B0m1E1E B2m120 B4m1E40 B6mB6 B7m1E56 B8m1E81 B9m1E57 BAm1E83 BBm1E60 BCm1EF3",
      "BDm1E84 BFm1E61 C0mC0 D0m174 D1mD1 D7m1E6A D8mD8 DEm176 DFmDF F0m175 F1mF1 F7m1E6B F8mF8",
      "FEm177 FFmFF"]),
    ("iso-8859-15", ["80m80 A4m20AC A5mA5 A6m160 A7mA7 A8m161 A9mA9 B4m17D B5mB5 B8m17E B9mB9 BCm152 BEm178",
      "BFmBF"]),
    ("iso-8859-16", ["80m80 A1m104 A3m141 A4m20AC A5m201E A6m160 A7mA7 A8m161 A9mA9 AAm218 ABmAB ACm179 ADmAD",
      "AEm17A B0mB0 B2m10C B3m142 B4m17D B5m201D B6mB6 B8m17E B9m10D BAm219 BBmBB BCm152 BEm178",
      "BFm17C C0mC0 C3m102 C4mC4 C5m106 C6mC6 D0m110 D1m143 D2mD2 D5m150 D6mD6 D7m15A D8m170",
      "D9mD9 DDm118 DEm21A DFmDF E3m103 E4mE4 E5m107 E6mE6 F0m111 F1m144 F2mF2 F5m151 F6mF6",
      "F7m15B F8m171 F9mF9 FDm119 FEm21B FFmFF"]),
    ("koi8-r", ["80m2500 81m2502 82m250C 83m2510 84m2514 85m2518 86m251C 87m2524 88m252C 89m2534 8Am253C",
      "8Bm2580 8Cm2584 8Dm2588 8Em258C 8Fm2590 93m2320 94m25A0 95m2219 97m2248 98m2264 9AmA0",
      "9Bm2321 9CmB0 9DmB2 9EmB7 9FmF7 A0m2550 A3m451 A4m2553 B3m401 B4m2562 BFmA9 C0m44E",
      "C1m430 C3m446 C4m434 C6m444 C7m433 C8m445 C9m438 D1m44F D2m440 D6m436 D7m432 D8m44C",
      "D9m44B DAm437 DBm448 DCm44D DDm449 DEm447 DFm44A E0m42E E1m410 E3m426 E4m414 E6m424",
      "E7m413 E8m425 E9m418 F1m42F F2m420 F6m416 F7m412 F8m42C F9m42B FAm417 FBm428 FCm42D",
      "FDm429 FEm427 FFm42A"]),
    ("koi8-u", ["80m2500 81m2502 82m250C 83m2510 84m2514 85m2518 86m251C 87m2524 88m252C 89m2534 8Am253C",
      "8Bm2580 8Cm2584 8Dm2588 8Em258C 8Fm2590 93m2320 94m25A0 95m2219 97m2248 98m2264 9AmA0",
      "9Bm2321 9CmB0 9DmB2 9EmB7 9FmF7 A0m2550 A3m451 A4m454 A5m2554 A6m456 A8m2557 ADm491",
      "AEm45E AFm255E B3m401 B4m404 B5m2563 B6m406 B8m2566 BDm490 BEm40E BFmA9 C0m44E C1m430",
      "C3m446 C4m434 C6m444 C7m433 C8m445 C9m438 D1m44F D2m440 D6m436 D7m432 D8m44C D9m44B",
      "DAm437 DBm448 DCm44D DDm449 DEm447 DFm44A E0m42E E1m410 E3m426 E4m414 E6m424 E7m413",
      "E8m425 E9m418 F1m42F F2m420 F6m416 F7m412 F8m42C F9m42B FAm417 FBm428 FCm42D FDm429",
      "FEm427 FFm42A"]),
    ("macintosh", ["80mC4 82mC7 83mC9 84mD1 85mD6 86mDC 87mE1 88mE0 89mE2 8AmE4 8BmE3 8CmE5 8DmE7 8EmE9",
      "8FmE8 90mEA 92mED 93mEC 94mEE 96mF1 97mF3 98mF2 99mF4 9AmF6 9BmF5 9CmFA 9DmF9 9EmFB",
      "A0m2020 A1mB0 A2mA2 A4mA7 A5m2022 A6mB6 A7mDF A8mAE A9mA9 AAm2122 ABmB4 ACmA8 ADm2260",
      "AEmC6 AFmD8 B0m221E B1mB1 B2m2264 B4mA5 B5mB5 B6m2202 B7m2211 B8m220F B9m3C0 BAm222B",
      "BBmAA BCmBA BDm3A9 BEmE6 BFmF8 C0mBF C1mA1 C2mAC C3m221A C4m192 C5m2248 C6m2206 C7mAB",
      "C8mBB C9m2026 CAmA0 CBmC0 CCmC3 CDmD5 CEm152 D0m2013 D2m201C D4m2018 D6mF7 D7m25CA D8mFF",
      "D9m178 DAm2044 DBm20AC DCm2039 DEmFB01 E0m2021 E1mB7 E2m201A E3m201E E4m2030 E5mC2 E6mCA",
      "E7mC1 E8mCB E9mC8 EAmCD EDmCC EEmD3 F0mF8FF F1mD2 F2mDA F4mD9 F5m131 F6m2C6 F7m2DC F8mAF",
      "F9m2D8 FCmB8 FDm2DD FEm2DB FFm2C7"]),
    ("windows-874", ["80m20AC 81m81 85m2026 86m86 91m2018 93m201C 95m2022 96m2013 98m98 A1mE01 DBx DFmE3F FCx"]),
    ("windows-1250", ["80m20AC 81m81 82m201A 83m83 84m201E 85m2026 86m2020 88m88 89m2030 8Am160 8Bm2039 8Cm15A",
      "8Dm164 8Em17D 8Fm179 90m90 91m2018 93m201C 95m2022 96m2013 98m98 99m2122 9Am161 9Bm203A",
      "9Cm15B 9Dm165 9Em17E 9Fm17A A0mA0 A1m2C7 A2m2D8 A3m141 A4mA4 A5m104 A6mA6 AAm15E ABmAB",
      "AFm17B B0mB0 B2m2DB B3m142 B4mB4 B9m105 BAm15F BBmBB BCm13D BDm2DD BEm13E BFm17C C0m154",
      "C1mC1 C3m102 C4mC4 C5m139 C6m106 C7mC7 C8m10C C9mC9 CAm118 CBmCB CCm11A CDmCD CFm10E",
      "D0m110 D1m143 D2m147 D3mD3 D5m150 D6mD6 D8m158 D9m16E DAmDA DBm170 DCmDC DEm162 DFmDF",
      "E0m155 E1mE1 E3m103 E4mE4 E5m13A E6m107 E7mE7 E8m10D E9mE9 EAm119 EBmEB ECm11B EDmED",
      "EFm10F F0m111 F1m144 F2m148 F3mF3 F5m151 F6mF6 F8m159 F9m16F FAmFA FBm171 FCmFC FEm163",
      "FFm2D9"]),
    ("windows-1251", ["80m402 82m201A 83m453 84m201E 85m2026 86m2020 88m20AC 89m2030 8Am409 8Bm2039 8Cm40A",
      "8Dm40C 8Em40B 8Fm40F 90m452 91m2018 93m201C 95m2022 96m2013 98m98 99m2122 9Am459 9Bm203A",
      "9Cm45A 9Dm45C 9Em45B 9Fm45F A0mA0 A1m40E A2m45E A3m408 A4mA4 A5m490 A6mA6 A8m401 A9mA9",
      "AAm404 ABmAB AFm407 B0mB0 B2m406 B3m456 B4m491 B5mB5 B8m451 B9m2116 BAm454 BBmBB BCm458",
      "BDm405 BEm455 BFm457 C0m410"]),
    ("windows-1252", ["80m20AC 81m81 82m201A 83m192 84m201E 85m2026 86m2020 88m2C6 89m2030 8Am160 8Bm2039",
      "8Cm152 8Dm8D 8Em17D 8Fm8F 91m2018 93m201C 95m2022 96m2013 98m2DC 99m2122 9Am161 9Bm203A",
      "9Cm153 9Dm9D 9Em17E 9Fm178 A0mA0"]),
    ("windows-1253", ["80m20AC 81m81 82m201A 83m192 84m201E 85m2026 86m2020 88m88 89m2030 8Am8A 8Bm2039 8Cm8C",
      "91m2018 93m201C 95m2022 96m2013 98m98 99m2122 9Am9A 9Bm203A 9Cm9C A1m385 A3mA3 AAx ABmAB",
      "AFm2015 B0mB0 B4m384 B5mB5 B8m388 BBmBB BCm38C BDmBD BEm38E D2x D3m3A3 FFx"]),
    ("windows-1254", ["80m20AC 81m81 82m201A 83m192 84m201E 85m2026 86m2020 88m2C6 89m2030 8Am160 8Bm2039",
      "8Cm152 8Dm8D 91m2018 93m201C 95m2022 96m2013 98m2DC 99m2122 9Am161 9Bm203A 9Cm153 9Dm9D",
      "9Fm178 A0mA0 D0m11E D1mD1 DDm130 DEm15E DFmDF F0m11F F1mF1 FDm131 FEm15F FFmFF"]),
    ("windows-1255", ["80m20AC 81m81 82m201A 83m192 84m201E 85m2026 86m2020 88m2C6 89m2030 8Am8A 8Bm2039 8Cm8C",
      "91m2018 93m201C 95m2022 96m2013 98m2DC 99m2122 9Am9A 9Bm203A 9Cm9C A4m20AA A5mA5 AAmD7",
      "ABmAB BAmF7 BBmBB C0m5B0 D4m5F0 D9x E0m5D0 FBx FDm200E FFx"]),
    ("windows-1256", ["80m20AC 81m67E 82m201A 83m192 84m201E 85m2026 86m2020 88m2C6 89m2030 8Am679 8Bm2039",
      "8Cm152 8Dm686 8Em698 8Fm688 90m6AF 91m2018 93m201C 95m2022 96m2013 98m6A9 99m2122 9Am691",
      "9Bm203A 9Cm153 9Dm200C 9Fm6BA A0mA0 A1m60C A2mA2 AAm6BE ABmAB BAm61B BBmBB BFm61F C0m6C1",
      "C1m621 D7mD7 D8m637 DCm640 E0mE0 E1m644 E2mE2 E3m645 E7mE7 ECm649 EEmEE F0m64B F4mF4",
      "F5m64F F7mF7 F8m651 F9mF9 FAm652 FBmFB FDm200E FFm6D2"]),
    ("windows-1257", ["80m20AC 81m81 82m201A 83m83 84m201E 85m2026 86m2020 88m88 89m2030 8Am8A 8Bm2039 8Cm8C",
      "8DmA8 8Em2C7 8FmB8 90m90 91m2018 93m201C 95m2022 96m2013 98m98 99m2122 9Am9A 9Bm203A",
      "9Cm9C 9DmAF 9Em2DB 9Fm9F A1x A2mA2 A5x A6mA6 A8mD8 A9mA9 AAm156 ABmAB AFmC6 B0mB0 B8mF8",
      "B9mB9 BAm157 BBmBB BFmE6 C0m104 C1m12E C2m100 C3m106 C4mC4 C6m118 C7m112 C8m10C C9mC9",
      "CAm179 CBm116 CCm122 CDm136 CEm12A CFm13B D0m160 D1m143 D2m145 D3mD3 D4m14C D5mD5 D8m172",
      "D9m141 DAm15A DBm16A DCmDC DDm17B DEm17D DFmDF E0m105 E1m12F E2m101 E3m107 E4mE4 E6m119",
      "E7m113 E8m10D E9mE9 EAm17A EBm117 ECm123 EDm137 EEm12B EFm13C F0m161 F1m144 F2m146 F3mF3",
      "F4m14D F5mF5 F8m173 F9m142 FAm15B FBm16B FCmFC FDm17C FEm17E FFm2D9"]),
    ("windows-1258", ["80m20AC 81m81 82m201A 83m192 84m201E 85m2026 86m2020 88m2C6 89m2030 8Am8A 8Bm2039 8Cm152",
      "8Dm8D 91m2018 93m201C 95m2022 96m2013 98m2DC 99m2122 9Am9A 9Bm203A 9Cm153 9Dm9D 9Fm178",
      "A0mA0 C3m102 C4mC4 CCm300 CDmCD D0m110 D1mD1 D2m309 D3mD3 D5m1A0 D6mD6 DDm1AF DEm303",
      "DFmDF E3m103 E4mE4 ECm301 EDmED F0m111 F1mF1 F2m323 F3mF3 F5m1A1 F6mF6 FDm1B0 FEm20AB",
      "FFmFF"]),
    ("x-mac-cyrillic", ["80m410 A0m2020 A1mB0 A2m490 A3mA3 A4mA7 A5m2022 A6mB6 A7m406 A8mAE A9mA9 AAm2122 ABm402",
      "ACm452 ADm2260 AEm403 AFm453 B0m221E B1mB1 B2m2264 B4m456 B5mB5 B6m491 B7m408 B8m404",
      "B9m454 BAm407 BBm457 BCm409 BDm459 BEm40A BFm45A C0m458 C1m405 C2mAC C3m221A C4m192",
      "C5m2248 C6m2206 C7mAB C8mBB C9m2026 CAmA0 CBm40B CCm45B CDm40C CEm45C CFm455 D0m2013",
      "D2m201C D4m2018 D6mF7 D7m201E D8m40E D9m45E DAm40F DBm45F DCm2116 DDm401 DEm451 DFm44F",
      "E0m430 FFm20AC"])]

end Harvest.Text.Charset

import Harvest.Text.Table

/-!
Canonical decompositions and combining classes of characters. A row of kind `K` may be composed
again, one of kind `Q` may not.
-/

namespace Harvest.Text.Normal

def decompositionRows : Table := Table.ofLines
  ["C0K41.300 C1K41.301 C2K41.302 C3K41.303 C4K41.308 C5K41.30A C7K43.327 C8K45.300 C9K45.301",
   "CAK45.302 CBK45.308 CCK49.300 CDK49.301 CEK49.302 CFK49.308 D1K4E.303 D2K4F.300 D3K4F.301",
   "D4K4F.302 D5K4F.303 D6K4F.308 D9K55.300 DAK55.301 DBK55.302 DCK55.308 DDK59.301 E0K61.300",
   "E1K61.301 E2K61.302 E3K61.303 E4K61.308 E5K61.30A E7K63.327 E8K65.300 E9K65.301 EAK65.302",
   "EBK65.308 ECK69.300 EDK69.301 EEK69.302 EFK69.308 F1K6E.303 F2K6F.300 F3K6F.301 F4K6F.302",
   "F5K6F.303 F6K6F.308 F9K75.300 FAK75.301 FBK75.302 FCK75.308 FDK79.301 FFK79.308 100K41.304",
   "101K61.304 102K41.306 103K61.306 104K41.328 105K61.328 106K43.301 107K63.301 108K43.302",
   "109K63.302 10AK43.307 10BK63.307 10CK43.30C 10DK63.30C 10EK44.30C 10FK64.30C 112K45.304",
   "113K65.304 114K45.306 115K65.306 116K45.307 117K65.307 118K45.328 119K65.328 11AK45.30C",
   "11BK65.30C 11CK47.302 11DK67.302 11EK47.306 11FK67.306 120K47.307 121K67.307 122K47.327",
   "123K67.327 124K48.302 125K68.302 128K49.303 129K69.303 12AK49.304 12BK69.304 12CK49.306",
   "12DK69.306 12EK49.328 12FK69.328 130K49.307 134K4A.302 135K6A.302 136K4B.327 137K6B.327",
   "139K4C.301 13AK6C.301 13BK4C.327 13CK6C.327 13DK4C.30C 13EK6C.30C 143K4E.301 144K6E.301",
   "145K4E.327 146K6E.327 147K4E.30C 148K6E.30C 14CK4F.304 14DK6F.304 14EK4F.306 14FK6F.306",
   "150K4F.30B 151K6F.30B 154K52.301 155K72.301 156K52.327 157K72.327 158K52.30C 159K72.30C",
   "15AK53.301 15BK73.301 15CK53.302 15DK73.302 15EK53.327 15FK73.327 160K53.30C 161K73.30C",
   "162K54.327 163K74.327 164K54.30C 165K74.30C 168K55.303 169K75.303 16AK55.304 16BK75.304",
   "16CK55.306 16DK75.306 16EK55.30A 16FK75.30A 170K55.30B 171K75.30B 172K55.328 173K75.328",
   "174K57.302 175K77.302 176K59.302 177K79.302 178K59.308 179K5A.301 17AK7A.301 17BK5A.307",
   "17CK7A.307 17DK5A.30C 17EK7A.30C 1A0K4F.31B 1A1K6F.31B 1AFK55.31B 1B0K75.31B 1CDK41.30C",
   "1CEK61.30C 1CFK49.30C 1D0K69.30C 1D1K4F.30C 1D2K6F.30C 1D3K55.30C 1D4K75.30C 1D5KDC.304",
   "1D6KFC.304 1D7KDC.301 1D8KFC.301 1D9KDC.30C 1DAKFC.30C 1DBKDC.300 1DCKFC.300 1DEKC4.304",
   "1DFKE4.304 1E0K226.304 1E1K227.304 1E2KC6.304 1E3KE6.304 1E6K47.30C 1E7K67.30C 1E8K4B.30C",
   "1E9K6B.30C 1EAK4F.328 1EBK6F.328 1ECK1EA.304 1EDK1EB.304 1EEK1B7.30C 1EFK292.30C 1F0K6A.30C",
   "1F4K47.301 1F5K67.301 1F8K4E.300 1F9K6E.300 1FAKC5.301 1FBKE5.301 1FCKC6.301 1FDKE6.301",
   "1FEKD8.301 1FFKF8.301 200K41.30F 201K61.30F 202K41.311 203K61.311 204K45.30F 205K65.30F",
   "206K45.311 207K65.311 208K49.30F 209K69.30F 20AK49.311 20BK69.311 20CK4F.30F 20DK6F.30F",
   "20EK4F.311 20FK6F.311 210K52.30F 211K72.30F 212K52.311 213K72.311 214K55.30F 215K75.30F",
   "216K55.311 217K75.311 218K53.326 219K73.326 21AK54.326 21BK74.326 21EK48.30C 21FK68.30C",
   "226K41.307 227K61.307 228K45.327 229K65.327 22AKD6.304 22BKF6.304 22CKD5.304 22DKF5.304",
   "22EK4F.307 22FK6F.307 230K22E.304 231K22F.304 232K59.304 233K79.304 340Q300 341Q301 343Q313",
   "344Q308.301 374Q2B9 37EQ3B 385KA8.301 386K391.301 387QB7 388K395.301 389K397.301 38AK399.301",
   "38CK39F.301 38EK3A5.301 38FK3A9.301 390K3CA.301 3AAK399.308 3ABK3A5.308 3ACK3B1.301 3ADK3B5.301",
   "3AEK3B7.301 3AFK3B9.301 3B0K3CB.301 3CAK3B9.308 3CBK3C5.308 3CCK3BF.301 3CDK3C5.301 3CEK3C9.301",
   "3D3K3D2.301 3D4K3D2.308 400K415.300 401K415.308 403K413.301 407K406.308 40CK41A.301 40DK418.300",
   "40EK423.306 419K418.306 439K438.306 450K435.300 451K435.308 453K433.301 457K456.308 45CK43A.301",
   "45DK438.300 45EK443.306 476K474.30F 477K475.30F 4C1K416.306 4C2K436.306 4D0K410.306 4D1K430.306",
   "4D2K410.308 4D3K430.308 4D6K415.306 4D7K435.306 4DAK4D8.308 4DBK4D9.308 4DCK416.308 4DDK436.308",
   "4DEK417.308 4DFK437.308 4E2K418.304 4E3K438.304 4E4K418.308 4E5K438.308 4E6K41E.308 4E7K43E.308",
   "4EAK4E8.308 4EBK4E9.308 4ECK42D.308 4EDK44D.308 4EEK423.304 4EFK443.304 4F0K423.308 4F1K443.308",
   "4F2K423.30B 4F3K443.30B 4F4K427.308 4F5K447.308 4F8K42B.308 4F9K44B.308 622K627.653 623K627.654",
   "624K648.654 625K627.655 626K64A.654 6C0K6D5.654 6C2K6C1.654 6D3K6D2.654 929K928.93C 931K930.93C",
   "934K933.93C 958Q915.93C 959Q916.93C 95AQ917.93C 95BQ91C.93C 95CQ921.93C 95DQ922.93C 95EQ92B.93C",
   "95FQ92F.93C 9CBK9C7.9BE 9CCK9C7.9D7 9DCQ9A1.9BC 9DDQ9A2.9BC 9DFQ9AF.9BC A33QA32.A3C A36QA38.A3C",
   "A59QA16.A3C A5AQA17.A3C A5BQA1C.A3C A5EQA2B.A3C B48KB47.B56 B4BKB47.B3E B4CKB47.B57 B5CQB21.B3C",
   "B5DQB22.B3C B94KB92.BD7 BCAKBC6.BBE BCBKBC7.BBE BCCKBC6.BD7 C48KC46.C56 CC0KCBF.CD5 CC7KCC6.CD5",
   "CC8KCC6.CD6 CCAKCC6.CC2 CCBKCCA.CD5 D4AKD46.D3E D4BKD47.D3E D4CKD46.D57 DDAKDD9.DCA DDCKDD9.DCF",
   "DDDKDDC.DCA DDEKDD9.DDF F43QF42.FB7 F4DQF4C.FB7 F52QF51.FB7 F57QF56.FB7 F5CQF5B.FB7 F69QF40.FB5",
   "F73QF71.F72 F75QF71.F74 F76QFB2.F80 F78QFB3.F80 F81QF71.F80 F93QF92.FB7 F9DQF9C.FB7 FA2QFA1.FB7",
   "FA7QFA6.FB7 FACQFAB.FB7 FB9QF90.FB5 1026K1025.102E 1B06K1B05.1B35 1B08K1B07.1B35 1B0AK1B09.1B35",
   "1B0CK1B0B.1B35 1B0EK1B0D.1B35 1B12K1B11.1B35 1B3BK1B3A.1B35 1B3DK1B3C.1B35 1B40K1B3E.1B35",
   "1B41K1B3F.1B35 1B43K1B42.1B35 1E00K41.325 1E01K61.325 1E02K42.307 1E03K62.307 1E04K42.323",
   "1E05K62.323 1E06K42.331 1E07K62.331 1E08KC7.301 1E09KE7.301 1E0AK44.307 1E0BK64.307 1E0CK44.323",
   "1E0DK64.323 1E0EK44.331 1E0FK64.331 1E10K44.327 1E11K64.327 1E12K44.32D 1E13K64.32D 1E14K112.300",
   "1E15K113.300 1E16K112.301 1E17K113.301 1E18K45.32D 1E19K65.32D 1E1AK45.330 1E1BK65.330",
   "1E1CK228.306 1E1DK229.306 1E1EK46.307 1E1FK66.307 1E20K47.304 1E21K67.304 1E22K48.307",
   "1E23K68.307 1E24K48.323 1E25K68.323 1E26K48.308 1E27K68.308 1E28K48.327 1E29K68.327 1E2AK48.32E",
   "1E2BK68.32E 1E2CK49.330 1E2DK69.330 1E2EKCF.301 1E2FKEF.301 1E30K4B.301 1E31K6B.301 1E32K4B.323",
   "1E33K6B.323 1E34K4B.331 1E35K6B.331 1E36K4C.323 1E37K6C.323 1E38K1E36.304 1E39K1E37.304",
   "1E3AK4C.331 1E3BK6C.331 1E3CK4C.32D 1E3DK6C.32D 1E3EK4D.301 1E3FK6D.301 1E40K4D.307 1E41K6D.307",
   "1E42K4D.323 1E43K6D.323 1E44K4E.307 1E45K6E.307 1E46K4E.323 1E47K6E.323 1E48K4E.331 1E49K6E.331",
   "1E4AK4E.32D 1E4BK6E.32D 1E4CKD5.301 1E4DKF5.301 1E4EKD5.308 1E4FKF5.308 1E50K14C.300",
   "1E51K14D.300 1E52K14C.301 1E53K14D.301 1E54K50.301 1E55K70.301 1E56K50.307 1E57K70.307",
   "1E58K52.307 1E59K72.307 1E5AK52.323 1E5BK72.323 1E5CK1E5A.304 1E5DK1E5B.304 1E5EK52.331",
   "1E5FK72.331 1E60K53.307 1E61K73.307 1E62K53.323 1E63K73.323 1E64K15A.307 1E65K15B.307",
   "1E66K160.307 1E67K161.307 1E68K1E62.307 1E69K1E63.307 1E6AK54.307 1E6BK74.307 1E6CK54.323",
   "1E6DK74.323 1E6EK54.331 1E6FK74.331 1E70K54.32D 1E71K74.32D 1E72K55.324 1E73K75.324 1E74K55.330",
   "1E75K75.330 1E76K55.32D 1E77K75.32D 1E78K168.301 1E79K169.301 1E7AK16A.308 1E7BK16B.308",
   "1E7CK56.303 1E7DK76.303 1E7EK56.323 1E7FK76.323 1E80K57.300 1E81K77.300 1E82K57.301 1E83K77.301",
   "1E84K57.308 1E85K77.308 1E86K57.307 1E87K77.307 1E88K57.323 1E89K77.323 1E8AK58.307 1E8BK78.307",
   "1E8CK58.308 1E8DK78.308 1E8EK59.307 1E8FK79.307 1E90K5A.302 1E91K7A.302 1E92K5A.323 1E93K7A.323",
   "1E94K5A.331 1E95K7A.331 1E96K68.331 1E97K74.308 1E98K77.30A 1E99K79.30A 1E9BK17F.307 1EA0K41.323",
   "1EA1K61.323 1EA2K41.309 1EA3K61.309 1EA4KC2.301 1EA5KE2.301 1EA6KC2.300 1EA7KE2.300 1EA8KC2.309",
   "1EA9KE2.309 1EAAKC2.303 1EABKE2.303 1EACK1EA0.302 1EADK1EA1.302 1EAEK102.301 1EAFK103.301",
   "1EB0K102.300 1EB1K103.300 1EB2K102.309 1EB3K103.309 1EB4K102.303 1EB5K103.303 1EB6K1EA0.306",
   "1EB7K1EA1.306 1EB8K45.323 1EB9K65.323 1EBAK45.309 1EBBK65.309 1EBCK45.303 1EBDK65.303",
   "1EBEKCA.301 1EBFKEA.301 1EC0KCA.300 1EC1KEA.300 1EC2KCA.309 1EC3KEA.309 1EC4KCA.303 1EC5KEA.303",
   "1EC6K1EB8.302 1EC7K1EB9.302 1EC8K49.309 1EC9K69.309 1ECAK49.323 1ECBK69.323 1ECCK4F.323",
   "1ECDK6F.323 1ECEK4F.309 1ECFK6F.309 1ED0KD4.301 1ED1KF4.301 1ED2KD4.300 1ED3KF4.300 1ED4KD4.309",
   "1ED5KF4.309 1ED6KD4.303 1ED7KF4.303 1ED8K1ECC.302 1ED9K1ECD.302 1EDAK1A0.301 1EDBK1A1.301",
   "1EDCK1A0.300 1EDDK1A1.300 1EDEK1A0.309 1EDFK1A1.309 1EE0K1A0.303 1EE1K1A1.303 1EE2K1A0.323",
   "1EE3K1A1.323 1EE4K55.323 1EE5K75.323 1EE6K55.309 1EE7K75.309 1EE8K1AF.301 1EE9K1B0.301",
   "1EEAK1AF.300 1EEBK1B0.300 1EECK1AF.309 1EEDK1B0.309 1EEEK1AF.303 1EEFK1B0.303 1EF0K1AF.323",
   "1EF1K1B0.323 1EF2K59.300 1EF3K79.300 1EF4K59.323 1EF5K79.323 1EF6K59.309 1EF7K79.309 1EF8K59.303",
   "1EF9K79.303 1F00K3B1.313 1F01K3B1.314 1F02K1F00.300 1F03K1F01.300 1F04K1F00.301 1F05K1F01.301",
   "1F06K1F00.342 1F07K1F01.342 1F08K391.313 1F09K391.314 1F0AK1F08.300 1F0BK1F09.300 1F0CK1F08.301",
   "1F0DK1F09.301 1F0EK1F08.342 1F0FK1F09.342 1F10K3B5.313 1F11K3B5.314 1F12K1F10.300 1F13K1F11.300",
   "1F14K1F10.301 1F15K1F11.301 1F18K395.313 1F19K395.314 1F1AK1F18.300 1F1BK1F19.300 1F1CK1F18.301",
   "1F1DK1F19.301 1F20K3B7.313 1F21K3B7.314 1F22K1F20.300 1F23K1F21.300 1F24K1F20.301 1F25K1F21.301",
   "1F26K1F20.342 1F27K1F21.342 1F28K397.313 1F29K397.314 1F2AK1F28.300 1F2BK1F29.300 1F2CK1F28.301",
   "1F2DK1F29.301 1F2EK1F28.342 1F2FK1F29.342 1F30K3B9.313 1F31K3B9.314 1F32K1F30.300 1F33K1F31.300",
   "1F34K1F30.301 1F35K1F31.301 1F36K1F30.342 1F37K1F31.342 1F38K399.313 1F39K399.314 1F3AK1F38.300",
   "1F3BK1F39.300 1F3CK1F38.301 1F3DK1F39.301 1F3EK1F38.342 1F3FK1F39.342 1F40K3BF.313 1F41K3BF.314",
   "1F42K1F40.300 1F43K1F41.300 1F44K1F40.301 1F45K1F41.301 1F48K39F.313 1F49K39F.314 1F4AK1F48.300",
   "1F4BK1F49.300 1F4CK1F48.301 1F4DK1F49.301 1F50K3C5.313 1F51K3C5.314 1F52K1F50.300 1F53K1F51.300",
   "1F54K1F50.301 1F55K1F51.301 1F56K1F50.342 1F57K1F51.342 1F59K3A5.314 1F5BK1F59.300 1F5DK1F59.301",
   "1F5FK1F59.342 1F60K3C9.313 1F61K3C9.314 1F62K1F60.300 1F63K1F61.300 1F64K1F60.301 1F65K1F61.301",
   "1F66K1F60.342 1F67K1F61.342 1F68K3A9.313 1F69K3A9.314 1F6AK1F68.300 1F6BK1F69.300 1F6CK1F68.301",
   "1F6DK1F69.301 1F6EK1F68.342 1F6FK1F69.342 1F70K3B1.300 1F71Q3AC 1F72K3B5.300 1F73Q3AD",
   "1F74K3B7.300 1F75Q3AE 1F76K3B9.300 1F77Q3AF 1F78K3BF.300 1F79Q3CC 1F7AK3C5.300 1F7BQ3CD",
   "1F7CK3C9.300 1F7DQ3CE 1F80K1F00.345 1F81K1F01.345 1F82K1F02.345 1F83K1F03.345 1F84K1F04.345",
   "1F85K1F05.345 1F86K1F06.345 1F87K1F07.345 1F88K1F08.345 1F89K1F09.345 1F8AK1F0A.345",
   "1F8BK1F0B.345 1F8CK1F0C.345 1F8DK1F0D.345 1F8EK1F0E.345 1F8FK1F0F.345 1F90K1F20.345",
   "1F91K1F21.345 1F92K1F22.345 1F93K1F23.345 1F94K1F24.345 1F95K1F25.345 1F96K1F26.345",
   "1F97K1F27.345 1F98K1F28.345 1F99K1F29.345 1F9AK1F2A.345 1F9BK1F2B.345 1F9CK1F2C.345",
   "1F9DK1F2D.345 1F9EK1F2E.345 1F9FK1F2F.345 1FA0K1F60.345 1FA1K1F61.345 1FA2K1F62.345",
   "1FA3K1F63.345 1FA4K1F64.345 1FA5K1F65.345 1FA6K1F66.345 1FA7K1F67.345 1FA8K1F68.345",
   "1FA9K1F69.345 1FAAK1F6A.345 1FABK1F6B.345 1FACK1F6C.345 1FADK1F6D.345 1FAEK1F6E.345",
   "1FAFK1F6F.345 1FB0K3B1.306 1FB1K3B1.304 1FB2K1F70.345 1FB3K3B1.345 1FB4K3AC.345 1FB6K3B1.342",
   "1FB7K1FB6.345 1FB8K391.306 1FB9K391.304 1FBAK391.300 1FBBQ386 1FBCK391.345 1FBEQ3B9 1FC1KA8.342",
   "1FC2K1F74.345 1FC3K3B7.345 1FC4K3AE.345 1FC6K3B7.342 1FC7K1FC6.345 1FC8K395.300 1FC9Q388",
   "1FCAK397.300 1FCBQ389 1FCCK397.345 1FCDK1FBF.300 1FCEK1FBF.301 1FCFK1FBF.342 1FD0K3B9.306",
   "1FD1K3B9.304 1FD2K3CA.300 1FD3Q390 1FD6K3B9.342 1FD7K3CA.342 1FD8K399.306 1FD9K399.304",
   "1FDAK399.300 1FDBQ38A 1FDDK1FFE.300 1FDEK1FFE.301 1FDFK1FFE.342 1FE0K3C5.306 1FE1K3C5.304",
   "1FE2K3CB.300 1FE3Q3B0 1FE4K3C1.313 1FE5K3C1.314 1FE6K3C5.342 1FE7K3CB.342 1FE8K3A5.306",
   "1FE9K3A5.304 1FEAK3A5.300 1FEBQ38E 1FECK3A1.314 1FEDKA8.300 1FEEQ385 1FEFQ60 1FF2K1F7C.345",
   "1FF3K3C9.345 1FF4K3CE.345 1FF6K3C9.342 1FF7K1FF6.345 1FF8K39F.300 1FF9Q38C 1FFAK3A9.300 1FFBQ38F",
   "1FFCK3A9.345 1FFDQB4 2000Q2002 2001Q2003 2126Q3A9 212AQ4B 212BQC5 219AK2190.338 219BK2192.338",
   "21AEK2194.338 21CDK21D0.338 21CEK21D4.338 21CFK21D2.338 2204K2203.338 2209K2208.338",
   "220CK220B.338 2224K2223.338 2226K2225.338 2241K223C.338 2244K2243.338 2247K2245.338",
   "2249K2248.338 2260K3D.338 2262K2261.338 226DK224D.338 226EK3C.338 226FK3E.338 2270K2264.338",
   "2271K2265.338 2274K2272.338 2275K2273.338 2278K2276.338 2279K2277.338 2280K227A.338",
   "2281K227B.338 2284K2282.338 2285K2283.338 2288K2286.338 2289K2287.338 22ACK22A2.338",
   "22ADK22A8.338 22AEK22A9.338 22AFK22AB.338 22E0K227C.338 22E1K227D.338 22E2K2291.338",
   "22E3K2292.338 22EAK22B2.338 22EBK22B3.338 22ECK22B4.338 22EDK22B5.338 2329Q3008 232AQ3009",
   "2ADCQ2ADD.338 304CK304B.3099 304EK304D.3099 3050K304F.3099 3052K3051.3099 3054K3053.3099",
   "3056K3055.3099 3058K3057.3099 305AK3059.3099 305CK305B.3099 305EK305D.3099 3060K305F.3099",
   "3062K3061.3099 3065K3064.3099 3067K3066.3099 3069K3068.3099 3070K306F.3099 3071K306F.309A",
   "3073K3072.3099 3074K3072.309A 3076K3075.3099 3077K3075.309A 3079K3078.3099 307AK3078.309A",
   "307CK307B.3099 307DK307B.309A 3094K3046.3099 309EK309D.3099 30ACK30AB.3099 30AEK30AD.3099",
   "30B0K30AF.3099 30B2K30B1.3099 30B4K30B3.3099 30B6K30B5.3099 30B8K30B7.3099 30BAK30B9.3099",
   "30BCK30BB.3099 30BEK30BD.3099 30C0K30BF.3099 30C2K30C1.3099 30C5K30C4.3099 30C7K30C6.3099",
   "30C9K30C8.3099 30D0K30CF.3099 30D1K30CF.309A 30D3K30D2.3099 30D4K30D2.309A 30D6K30D5.3099",
   "30D7K30D5.309A 30D9K30D8.3099 30DAK30D8.309A 30DCK30DB.3099 30DDK30DB.309A 30F4K30A6.3099",
   "30F7K30EF.3099 30F8K30F0.3099 30F9K30F1.3099 30FAK30F2.3099 30FEK30FD.3099 F900Q8C48 F901Q66F4",
   "F902Q8ECA F903Q8CC8 F904Q6ED1 F905Q4E32 F906Q53E5 F907Q9F9C F908Q9F9C F909Q5951 F90AQ91D1",
   "F90BQ5587 F90CQ5948 F90DQ61F6 F90EQ7669 F90FQ7F85 F910Q863F F911Q87BA F912Q88F8 F913Q908F",
   "F914Q6A02 F915Q6D1B F916Q70D9 F917Q73DE F918Q843D F919Q916A F91AQ99F1 F91BQ4E82 F91CQ5375",
   "F91DQ6B04 F91EQ721B F91FQ862D F920Q9E1E F921Q5D50 F922Q6FEB F923Q85CD F924Q8964 F925Q62C9",
   "F926Q81D8 F927Q881F F928Q5ECA F929Q6717 F92AQ6D6A F92BQ72FC F92CQ90CE F92DQ4F86 F92EQ51B7",
   "F92FQ52DE F930Q64C4 F931Q6AD3 F932Q7210 F933Q76E7 F934Q8001 F935Q8606 F936Q865C F937Q8DEF",
   "F938Q9732 F939Q9B6F F93AQ9DFA F93BQ788C F93CQ797F F93DQ7DA0 F93EQ83C9 F93FQ9304 F940Q9E7F",
   "F941Q8AD6 F942Q58DF F943Q5F04 F944Q7C60 F945Q807E F946Q7262 F947Q78CA F948Q8CC2 F949Q96F7",
   "F94AQ58D8 F94BQ5C62 F94CQ6A13 F94DQ6DDA F94EQ6F0F F94FQ7D2F F950Q7E37 F951Q964B F952Q52D2",
   "F953Q808B F954Q51DC F955Q51CC F956Q7A1C F957Q7DBE F958Q83F1 F959Q9675 F95AQ8B80 F95BQ62CF",
   "F95CQ6A02 F95DQ8AFE F95EQ4E39 F95FQ5BE7 F960Q6012 F961Q7387 F962Q7570 F963Q5317 F964Q78FB",
   "F965Q4FBF F966Q5FA9 F967Q4E0D F968Q6CCC F969Q6578 F96AQ7D22 F96BQ53C3 F96CQ585E F96DQ7701",
   "F96EQ8449 F96FQ8AAA F970Q6BBA F971Q8FB0 F972Q6C88 F973Q62FE F974Q82E5 F975Q63A0 F976Q7565",
   "F977Q4EAE F978Q5169 F979Q51C9 F97AQ6881 F97BQ7CE7 F97CQ826F F97DQ8AD2 F97EQ91CF F97FQ52F5",
   "F980Q5442 F981Q5973 F982Q5EEC F983Q65C5 F984Q6FFE F985Q792A F986Q95AD F987Q9A6A F988Q9E97",
   "F989Q9ECE F98AQ529B F98BQ66C6 F98CQ6B77 F98DQ8F62 F98EQ5E74 F98FQ6190 F990Q6200 F991Q649A",
   "F992Q6F23 F993Q7149 F994Q7489 F995Q79CA F996Q7DF4 F997Q806F F998Q8F26 F999Q84EE F99AQ9023",
   "F99BQ934A F99CQ5217 F99DQ52A3 F99EQ54BD F99FQ70C8 F9A0Q88C2 F9A1Q8AAA F9A2Q5EC9 F9A3Q5FF5",
   "F9A4Q637B F9A5Q6BAE F9A6Q7C3E F9A7Q7375 F9A8Q4EE4 F9A9Q56F9 F9AAQ5BE7 F9ABQ5DBA F9ACQ601C",
   "F9ADQ73B2 F9AEQ7469 F9AFQ7F9A F9B0Q8046 F9B1Q9234 F9B2Q96F6 F9B3Q9748 F9B4Q9818 F9B5Q4F8B",
   "F9B6Q79AE F9B7Q91B4 F9B8Q96B8 F9B9Q60E1 F9BAQ4E86 F9BBQ50DA F9BCQ5BEE F9BDQ5C3F F9BEQ6599",
   "F9BFQ6A02 F9C0Q71CE F9C1Q7642 F9C2Q84FC F9C3Q907C F9C4Q9F8D F9C5Q6688 F9C6Q962E F9C7Q5289",
   "F9C8Q677B F9C9Q67F3 F9CAQ6D41 F9CBQ6E9C F9CCQ7409 F9CDQ7559 F9CEQ786B F9CFQ7D10 F9D0Q985E",
   "F9D1Q516D F9D2Q622E F9D3Q9678 F9D4Q502B F9D5Q5D19 F9D6Q6DEA F9D7Q8F2A F9D8Q5F8B F9D9Q6144",
   "F9DAQ6817 F9DBQ7387 F9DCQ9686 F9DDQ5229 F9DEQ540F F9DFQ5C65 F9E0Q6613 F9E1Q674E F9E2Q68A8",
   "F9E3Q6CE5 F9E4Q7406 F9E5Q75E2 F9E6Q7F79 F9E7Q88CF F9E8Q88E1 F9E9Q91CC F9EAQ96E2 F9EBQ533F",
   "F9ECQ6EBA F9EDQ541D F9EEQ71D0 F9EFQ7498 F9F0Q85FA F9F1Q96A3 F9F2Q9C57 F9F3Q9E9F F9F4Q6797",
   "F9F5Q6DCB F9F6Q81E8 F9F7Q7ACB F9F8Q7B20 F9F9Q7C92 F9FAQ72C0 F9FBQ7099 F9FCQ8B58 F9FDQ4EC0",
   "F9FEQ8336 F9FFQ523A FA00Q5207 FA01Q5EA6 FA02Q62D3 FA03Q7CD6 FA04Q5B85 FA05Q6D1E FA06Q66B4",
   "FA07Q8F3B FA08Q884C FA09Q964D FA0AQ898B FA0BQ5ED3 FA0CQ5140 FA0DQ55C0 FA10Q585A FA12Q6674",
   "FA15Q51DE FA16Q732A FA17Q76CA FA18Q793C FA19Q795E FA1AQ7965 FA1BQ798F FA1CQ9756 FA1DQ7CBE",
   "FA1EQ7FBD FA20Q8612 FA22Q8AF8 FA25Q9038 FA26Q90FD FA2AQ98EF FA2BQ98FC FA2CQ9928 FA2DQ9DB4",
   "FA2EQ90DE FA2FQ96B7 FA30Q4FAE FA31Q50E7 FA32Q514D FA33Q52C9 FA34Q52E4 FA35Q5351 FA36Q559D",
   "FA37Q5606 FA38Q5668 FA39Q5840 FA3AQ58A8 FA3BQ5C64 FA3CQ5C6E FA3DQ6094 FA3EQ6168 FA3FQ618E",
   "FA40Q61F2 FA41Q654F FA42Q65E2 FA43Q6691 FA44Q6885 FA45Q6D77 FA46Q6E1A FA47Q6F22 FA48Q716E",
   "FA49Q722B FA4AQ7422 FA4BQ7891 FA4CQ793E FA4DQ7949 FA4EQ7948 FA4FQ7950 FA50Q7956 FA51Q795D",
   "FA52Q798D FA53Q798E FA54Q7A40 FA55Q7A81 FA56Q7BC0 FA57Q7DF4 FA58Q7E09 FA59Q7E41 FA5AQ7F72",
   "FA5BQ8005 FA5CQ81ED FA5DQ8279 FA5EQ8279 FA5FQ8457 FA60Q8910 FA61Q8996 FA62Q8B01 FA63Q8B39",
   "FA64Q8CD3 FA65Q8D08 FA66Q8FB6 FA67Q9038 FA68Q96E3 FA69Q97FF FA6AQ983B FA6BQ6075 FA6CQ242EE",
   "FA6DQ8218 FA70Q4E26 FA71Q51B5 FA72Q5168 FA73Q4F80 FA74Q5145 FA75Q5180 FA76Q52C7 FA77Q52FA",
   "FA78Q559D FA79Q5555 FA7AQ5599 FA7BQ55E2 FA7CQ585A FA7DQ58B3 FA7EQ5944 FA7FQ5954 FA80Q5A62",
   "FA81Q5B28 FA82Q5ED2 FA83Q5ED9 FA84Q5F69 FA85Q5FAD FA86Q60D8 FA87Q614E FA88Q6108 FA89Q618E",
   "FA8AQ6160 FA8BQ61F2 FA8CQ6234 FA8DQ63C4 FA8EQ641C FA8FQ6452 FA90Q6556 FA91Q6674 FA92Q6717",
   "FA93Q671B FA94Q6756 FA95Q6B79 FA96Q6BBA FA97Q6D41 FA98Q6EDB FA99Q6ECB FA9AQ6F22 FA9BQ701E",
   "FA9CQ716E FA9DQ77A7 FA9EQ7235 FA9FQ72AF FAA0Q732A FAA1Q7471 FAA2Q7506 FAA3Q753B FAA4Q761D",
   "FAA5Q761F FAA6Q76CA FAA7Q76DB FAA8Q76F4 FAA9Q774A FAAAQ7740 FAABQ78CC FAACQ7AB1 FAADQ7BC0",
   "FAAEQ7C7B FAAFQ7D5B FAB0Q7DF4 FAB1Q7F3E FAB2Q8005 FAB3Q8352 FAB4Q83EF FAB5Q8779 FAB6Q8941",
   "FAB7Q8986 FAB8Q8996 FAB9Q8ABF FABAQ8AF8 FABBQ8ACB FABCQ8B01 FABDQ8AFE FABEQ8AED FABFQ8B39",
   "FAC0Q8B8A FAC1Q8D08 FAC2Q8F38 FAC3Q9072 FAC4Q9199 FAC5Q9276 FAC6Q967C FAC7Q96E3 FAC8Q9756",
   "FAC9Q97DB FACAQ97FF FACBQ980B FACCQ983B FACDQ9B12 FACEQ9F9C FACFQ2284A FAD0Q22844 FAD1Q233D5",
   "FAD2Q3B9D FAD3Q4018 FAD4Q4039 FAD5Q25249 FAD6Q25CD0 FAD7Q27ED3 FAD8Q9F43 FAD9Q9F8E FB1DQ5D9.5B4",
   "FB1FQ5F2.5B7 FB2AQ5E9.5C1 FB2BQ5E9.5C2 FB2CQFB49.5C1 FB2DQFB49.5C2 FB2EQ5D0.5B7 FB2FQ5D0.5B8",
   "FB30Q5D0.5BC FB31Q5D1.5BC FB32Q5D2.5BC FB33Q5D3.5BC FB34Q5D4.5BC FB35Q5D5.5BC FB36Q5D6.5BC",
   "FB38Q5D8.5BC FB39Q5D9.5BC FB3AQ5DA.5BC FB3BQ5DB.5BC FB3CQ5DC.5BC FB3EQ5DE.5BC FB40Q5E0.5BC",
   "FB41Q5E1.5BC FB43Q5E3.5BC FB44Q5E4.5BC FB46Q5E6.5BC FB47Q5E7.5BC FB48Q5E8.5BC FB49Q5E9.5BC",
   "FB4AQ5EA.5BC FB4BQ5D5.5B9 FB4CQ5D1.5BF FB4DQ5DB.5BF FB4EQ5E4.5BF 1109AK11099.110BA",
   "1109CK1109B.110BA 110ABK110A5.110BA 1112EK11131.11127 1112FK11132.11127 1134BK11347.1133E",
   "1134CK11347.11357 114BBK114B9.114BA 114BCK114B9.114B0 114BEK114B9.114BD 115BAK115B8.115AF",
   "115BBK115B9.115AF 11938K11935.11930 1D15EQ1D157.1D165 1D15FQ1D158.1D165 1D160Q1D15F.1D16E",
   "1D161Q1D15F.1D16F 1D162Q1D15F.1D170 1D163Q1D15F.1D171 1D164Q1D15F.1D172 1D1BBQ1D1B9.1D165",
   "1D1BCQ1D1BA.1D165 1D1BDQ1D1BB.1D16E 1D1BEQ1D1BC.1D16E 1D1BFQ1D1BB.1D16F 1D1C0Q1D1BC.1D16F",
   "2F800Q4E3D 2F801Q4E38 2F802Q4E41 2F803Q20122 2F804Q4F60 2F805Q4FAE 2F806Q4FBB 2F807Q5002",
   "2F808Q507A 2F809Q5099 2F80AQ50E7 2F80BQ50CF 2F80CQ349E 2F80DQ2063A 2F80EQ514D 2F80FQ5154",
   "2F810Q5164 2F811Q5177 2F812Q2051C 2F813Q34B9 2F814Q5167 2F815Q518D 2F816Q2054B 2F817Q5197",
   "2F818Q51A4 2F819Q4ECC 2F81AQ51AC 2F81BQ51B5 2F81CQ291DF 2F81DQ51F5 2F81EQ5203 2F81FQ34DF",
   "2F820Q523B 2F821Q5246 2F822Q5272 2F823Q5277 2F824Q3515 2F825Q52C7 2F826Q52C9 2F827Q52E4",
   "2F828Q52FA 2F829Q5305 2F82AQ5306 2F82BQ5317 2F82CQ5349 2F82DQ5351 2F82EQ535A 2F82FQ5373",
   "2F830Q537D 2F831Q537F 2F832Q537F 2F833Q537F 2F834Q20A2C 2F835Q7070 2F836Q53CA 2F837Q53DF",
   "2F838Q20B63 2F839Q53EB 2F83AQ53F1 2F83BQ5406 2F83CQ549E 2F83DQ5438 2F83EQ5448 2F83FQ5468",
   "2F840Q54A2 2F841Q54F6 2F842Q5510 2F843Q5553 2F844Q5563 2F845Q5584 2F846Q5584 2F847Q5599",
   "2F848Q55AB 2F849Q55B3 2F84AQ55C2 2F84BQ5716 2F84CQ5606 2F84DQ5717 2F84EQ5651 2F84FQ5674",
   "2F850Q5207 2F851Q58EE 2F852Q57CE 2F853Q57F4 2F854Q580D 2F855Q578B 2F856Q5832 2F857Q5831",
   "2F858Q58AC 2F859Q214E4 2F85AQ58F2 2F85BQ58F7 2F85CQ5906 2F85DQ591A 2F85EQ5922 2F85FQ5962",
   "2F860Q216A8 2F861Q216EA 2F862Q59EC 2F863Q5A1B 2F864Q5A27 2F865Q59D8 2F866Q5A66 2F867Q36EE",
   "2F868Q36FC 2F869Q5B08 2F86AQ5B3E 2F86BQ5B3E 2F86CQ219C8 2F86DQ5BC3 2F86EQ5BD8 2F86FQ5BE7",
   "2F870Q5BF3 2F871Q21B18 2F872Q5BFF 2F873Q5C06 2F874Q5F53 2F875Q5C22 2F876Q3781 2F877Q5C60",
   "2F878Q5C6E 2F879Q5CC0 2F87AQ5C8D 2F87BQ21DE4 2F87CQ5D43 2F87DQ21DE6 2F87EQ5D6E 2F87FQ5D6B",
   "2F880Q5D7C 2F881Q5DE1 2F882Q5DE2 2F883Q382F 2F884Q5DFD 2F885Q5E28 2F886Q5E3D 2F887Q5E69",
   "2F888Q3862 2F889Q22183 2F88AQ387C 2F88BQ5EB0 2F88CQ5EB3 2F88DQ5EB6 2F88EQ5ECA 2F88FQ2A392",
   "2F890Q5EFE 2F891Q22331 2F892Q22331 2F893Q8201 2F894Q5F22 2F895Q5F22 2F896Q38C7 2F897Q232B8",
   "2F898Q261DA 2F899Q5F62 2F89AQ5F6B 2F89BQ38E3 2F89CQ5F9A 2F89DQ5FCD 2F89EQ5FD7 2F89FQ5FF9",
   "2F8A0Q6081 2F8A1Q393A 2F8A2Q391C 2F8A3Q6094 2F8A4Q226D4 2F8A5Q60C7 2F8A6Q6148 2F8A7Q614C",
   "2F8A8Q614E 2F8A9Q614C 2F8AAQ617A 2F8ABQ618E 2F8ACQ61B2 2F8ADQ61A4 2F8AEQ61AF 2F8AFQ61DE",
   "2F8B0Q61F2 2F8B1Q61F6 2F8B2Q6210 2F8B3Q621B 2F8B4Q625D 2F8B5Q62B1 2F8B6Q62D4 2F8B7Q6350",
   "2F8B8Q22B0C 2F8B9Q633D 2F8BAQ62FC 2F8BBQ6368 2F8BCQ6383 2F8BDQ63E4 2F8BEQ22BF1 2F8BFQ6422",
   "2F8C0Q63C5 2F8C1Q63A9 2F8C2Q3A2E 2F8C3Q6469 2F8C4Q647E 2F8C5Q649D 2F8C6Q6477 2F8C7Q3A6C",
   "2F8C8Q654F 2F8C9Q656C 2F8CAQ2300A 2F8CBQ65E3 2F8CCQ66F8 2F8CDQ6649 2F8CEQ3B19 2F8CFQ6691",
   "2F8D0Q3B08 2F8D1Q3AE4 2F8D2Q5192 2F8D3Q5195 2F8D4Q6700 2F8D5Q669C 2F8D6Q80AD 2F8D7Q43D9",
   "2F8D8Q6717 2F8D9Q671B 2F8DAQ6721 2F8DBQ675E 2F8DCQ6753 2F8DDQ233C3 2F8DEQ3B49 2F8DFQ67FA",
   "2F8E0Q6785 2F8E1Q6852 2F8E2Q6885 2F8E3Q2346D 2F8E4Q688E 2F8E5Q681F 2F8E6Q6914 2F8E7Q3B9D",
   "2F8E8Q6942 2F8E9Q69A3 2F8EAQ69EA 2F8EBQ6AA8 2F8ECQ236A3 2F8EDQ6ADB 2F8EEQ3C18 2F8EFQ6B21",
   "2F8F0Q238A7 2F8F1Q6B54 2F8F2Q3C4E 2F8F3Q6B72 2F8F4Q6B9F 2F8F5Q6BBA 2F8F6Q6BBB 2F8F7Q23A8D",
   "2F8F8Q21D0B 2F8F9Q23AFA 2F8FAQ6C4E 2F8FBQ23CBC 2F8FCQ6CBF 2F8FDQ6CCD 2F8FEQ6C67 2F8FFQ6D16",
   "2F900Q6D3E 2F901Q6D77 2F902Q6D41 2F903Q6D69 2F904Q6D78 2F905Q6D85 2F906Q23D1E 2F907Q6D34",
   "2F908Q6E2F 2F909Q6E6E 2F90AQ3D33 2F90BQ6ECB 2F90CQ6EC7 2F90DQ23ED1 2F90EQ6DF9 2F90FQ6F6E",
   "2F910Q23F5E 2F911Q23F8E 2F912Q6FC6 2F913Q7039 2F914Q701E 2F915Q701B 2F916Q3D96 2F917Q704A",
   "2F918Q707D 2F919Q7077 2F91AQ70AD 2F91BQ20525 2F91CQ7145 2F91DQ24263 2F91EQ719C 2F91FQ243AB",
   "2F920Q7228 2F921Q7235 2F922Q7250 2F923Q24608 2F924Q7280 2F925Q7295 2F926Q24735 2F927Q24814",
   "2F928Q737A 2F929Q738B 2F92AQ3EAC 2F92BQ73A5 2F92CQ3EB8 2F92DQ3EB8 2F92EQ7447 2F92FQ745C",
   "2F930Q7471 2F931Q7485 2F932Q74CA 2F933Q3F1B 2F934Q7524 2F935Q24C36 2F936Q753E 2F937Q24C92",
   "2F938Q7570 2F939Q2219F 2F93AQ7610 2F93BQ24FA1 2F93CQ24FB8 2F93DQ25044 2F93EQ3FFC 2F93FQ4008",
   "2F940Q76F4 2F941Q250F3 2F942Q250F2 2F943Q25119 2F944Q25133 2F945Q771E 2F946Q771F 2F947Q771F",
   "2F948Q774A 2F949Q4039 2F94AQ778B 2F94BQ4046 2F94CQ4096 2F94DQ2541D 2F94EQ784E 2F94FQ788C",
   "2F950Q78CC 2F951Q40E3 2F952Q25626 2F953Q7956 2F954Q2569A 2F955Q256C5 2F956Q798F 2F957Q79EB",
   "2F958Q412F 2F959Q7A40 2F95AQ7A4A 2F95BQ7A4F 2F95CQ2597C 2F95DQ25AA7 2F95EQ25AA7 2F95FQ7AEE",
   "2F960Q4202 2F961Q25BAB 2F962Q7BC6 2F963Q7BC9 2F964Q4227 2F965Q25C80 2F966Q7CD2 2F967Q42A0",
   "2F968Q7CE8 2F969Q7CE3 2F96AQ7D00 2F96BQ25F86 2F96CQ7D63 2F96DQ4301 2F96EQ7DC7 2F96FQ7E02",
   "2F970Q7E45 2F971Q4334 2F972Q26228 2F973Q26247 2F974Q4359 2F975Q262D9 2F976Q7F7A 2F977Q2633E",
   "2F978Q7F95 2F979Q7FFA 2F97AQ8005 2F97BQ264DA 2F97CQ26523 2F97DQ8060 2F97EQ265A8 2F97FQ8070",
   "2F980Q2335F 2F981Q43D5 2F982Q80B2 2F983Q8103 2F984Q440B 2F985Q813E 2F986Q5AB5 2F987Q267A7",
   "2F988Q267B5 2F989Q23393 2F98AQ2339C 2F98BQ8201 2F98CQ8204 2F98DQ8F9E 2F98EQ446B 2F98FQ8291",
   "2F990Q828B 2F991Q829D 2F992Q52B3 2F993Q82B1 2F994Q82B3 2F995Q82BD 2F996Q82E6 2F997Q26B3C",
   "2F998Q82E5 2F999Q831D 2F99AQ8363 2F99BQ83AD 2F99CQ8323 2F99DQ83BD 2F99EQ83E7 2F99FQ8457",
   "2F9A0Q8353 2F9A1Q83CA 2F9A2Q83CC 2F9A3Q83DC 2F9A4Q26C36 2F9A5Q26D6B 2F9A6Q26CD5 2F9A7Q452B",
   "2F9A8Q84F1 2F9A9Q84F3 2F9AAQ8516 2F9ABQ273CA 2F9ACQ8564 2F9ADQ26F2C 2F9AEQ455D 2F9AFQ4561",
   "2F9B0Q26FB1 2F9B1Q270D2 2F9B2Q456B 2F9B3Q8650 2F9B4Q865C 2F9B5Q8667 2F9B6Q8669 2F9B7Q86A9",
   "2F9B8Q8688 2F9B9Q870E 2F9BAQ86E2 2F9BBQ8779 2F9BCQ8728 2F9BDQ876B 2F9BEQ8786 2F9BFQ45D7",
   "2F9C0Q87E1 2F9C1Q8801 2F9C2Q45F9 2F9C3Q8860 2F9C4Q8863 2F9C5Q27667 2F9C6Q88D7 2F9C7Q88DE",
   "2F9C8Q4635 2F9C9Q88FA 2F9CAQ34BB 2F9CBQ278AE 2F9CCQ27966 2F9CDQ46BE 2F9CEQ46C7 2F9CFQ8AA0",
   "2F9D0Q8AED 2F9D1Q8B8A 2F9D2Q8C55 2F9D3Q27CA8 2F9D4Q8CAB 2F9D5Q8CC1 2F9D6Q8D1B 2F9D7Q8D77",
   "2F9D8Q27F2F 2F9D9Q20804 2F9DAQ8DCB 2F9DBQ8DBC 2F9DCQ8DF0 2F9DDQ208DE 2F9DEQ8ED4 2F9DFQ8F38",
   "2F9E0Q285D2 2F9E1Q285ED 2F9E2Q9094 2F9E3Q90F1 2F9E4Q9111 2F9E5Q2872E 2F9E6Q911B 2F9E7Q9238",
   "2F9E8Q92D7 2F9E9Q92D8 2F9EAQ927C 2F9EBQ93F9 2F9ECQ9415 2F9EDQ28BFA 2F9EEQ958B 2F9EFQ4995",
   "2F9F0Q95B7 2F9F1Q28D77 2F9F2Q49E6 2F9F3Q96C3 2F9F4Q5DB2 2F9F5Q9723 2F9F6Q29145 2F9F7Q2921A",
   "2F9F8Q4A6E 2F9F9Q4A76 2F9FAQ97E0 2F9FBQ2940A 2F9FCQ4AB2 2F9FDQ29496 2F9FEQ980B 2F9FFQ980B",
   "2FA00Q9829 2FA01Q295B6 2FA02Q98E2 2FA03Q4B33 2FA04Q9929 2FA05Q99A7 2FA06Q99C2 2FA07Q99FE",
   "2FA08Q4BCE 2FA09Q29B30 2FA0AQ9B12 2FA0BQ9C40 2FA0CQ9CFD 2FA0DQ4CCE 2FA0EQ4CED 2FA0FQ9D67",
   "2FA10Q2A0CE 2FA11Q4CF8 2FA12Q2A105 2FA13Q2A20E 2FA14Q2A291 2FA15Q9EBB 2FA16Q4D56 2FA17Q9EF9",
   "2FA18Q9EFE 2FA19Q9F05 2FA1AQ9F0F 2FA1BQ9F16 2FA1CQ9F3B 2FA1DQ2A600"]

def combiningClassRows : Table := Table.ofLines
  ["300NE6 315NE8 316NDC 31ANE8 31BND8 31CNDC 321NCA 323NDC 327NCA 329NDC 334N1 339NDC 33DNE6 345NF0",
   "346NE6 347NDC 34ANE6 34DNDC 34FN0 350NE6 353NDC 357NE6 358NE8 359NDC 35BNE6 35CNE9 35DNEA 35FNE9",
   "360NEA 362NE9 363NE6 370N0 483NE6 488N0 591NDC 592NE6 596NDC 597NE6 59ANDE 59BNDC 59CNE6 5A2NDC",
   "5A8NE6 5AANDC 5ABNE6 5ADNDE 5AENE4 5AFNE6 5B0NA 5B1NB 5B2NC 5B3ND 5B4NE 5B5NF 5B6N10 5B7N11",
   "5B8N12 5B9N13 5BBN14 5BCN15 5BDN16 5BEN0 5BFN17 5C0N0 5C1N18 5C2N19 5C3N0 5C4NE6 5C5NDC 5C6N0",
   "5C7N12 5C8N0 610NE6 618N1E 619N1F 61AN20 61BN0 64BN1B 64CN1C 64DN1D 64EN1E 64FN1F 650N20 651N21",
   "652N22 653NE6 655NDC 657NE6 65CNDC 65DNE6 65FNDC 660N0 670N23 671N0 6D6NE6 6DDN0 6DFNE6 6E3NDC",
   "6E4NE6 6E5N0 6E7NE6 6E9N0 6EANDC 6EBNE6 6EDNDC 6EEN0 711N24 712N0 730NE6 731NDC 732NE6 734NDC",
   "735NE6 737NDC 73ANE6 73BNDC 73DNE6 73ENDC 73FNE6 742NDC 743NE6 744NDC 745NE6 746NDC 747NE6",
   "748NDC 749NE6 74BN0 7EBNE6 7F2NDC 7F3NE6 7F4N0 7FDNDC 7FEN0 816NE6 81AN0 81BNE6 824N0 825NE6",
   "828N0 829NE6 82EN0 859NDC 85CN0 898NE6 899NDC 89CNE6 8A0N0 8CANE6 8CFNDC 8D4NE6 8E2N0 8E3NDC",
   "8E4NE6 8E6NDC 8E7NE6 8E9NDC 8EANE6 8EDNDC 8F0N1B 8F1N1C 8F2N1D 8F3NE6 8F6NDC 8F7NE6 8F9NDC",
   "8FBNE6 900N0 93CN7 93DN0 94DN9 94EN0 951NE6 952NDC 953NE6 955N0 9BCN7 9BDN0 9CDN9 9CEN0 9FENE6",
   "9FFN0 A3CN7 A3DN0 A4DN9 A4EN0 ABCN7 ABDN0 ACDN9 ACEN0 B3CN7 B3DN0 B4DN9 B4EN0 BCDN9 BCEN0 C3CN7",
   "C3DN0 C4DN9 C4EN0 C55N54 C56N5B C57N0 CBCN7 CBDN0 CCDN9 CCEN0 D3BN9 D3DN0 D4DN9 D4EN0 DCAN9",
   "DCBN0 E38N67 E3AN9 E3BN0 E48N6B E4CN0 EB8N76 EBAN9 EBBN0 EC8N7A ECCN0 F18NDC F1AN0 F35NDC F36N0",
   "F37NDC F38N0 F39ND8 F3AN0 F71N81 F72N82 F73N0 F74N84 F75N0 F7AN82 F7EN0 F80N82 F81N0 F82NE6",
   "F84N9 F85N0 F86NE6 F88N0 FC6NDC FC7N0 1037N7 1038N0 1039N9 103BN0 108DNDC 108EN0 135DNE6 1360N0",
   "1714N9 1716N0 1734N9 1735N0 17D2N9 17D3N0 17DDNE6 17DEN0 18A9NE4 18AAN0 1939NDE 193ANE6 193BNDC",
   "193CN0 1A17NE6 1A18NDC 1A19N0 1A60N9 1A61N0 1A75NE6 1A7DN0 1A7FNDC 1A80N0 1AB0NE6 1AB5NDC",
   "1ABBNE6 1ABDNDC 1ABEN0 1ABFNDC 1AC1NE6 1AC3NDC 1AC5NE6 1ACANDC 1ACBNE6 1ACFN0 1B34N7 1B35N0",
   "1B44N9 1B45N0 1B6BNE6 1B6CNDC 1B6DNE6 1B74N0 1BAAN9 1BACN0 1BE6N7 1BE7N0 1BF2N9 1BF4N0 1C37N7",
   "1C38N0 1CD0NE6 1CD3N0 1CD4N1 1CD5NDC 1CDANE6 1CDCNDC 1CE0NE6 1CE1N0 1CE2N1 1CE9N0 1CEDNDC 1CEEN0",
   "1CF4NE6 1CF5N0 1CF8NE6 1CFAN0 1DC0NE6 1DC2NDC 1DC3NE6 1DCANDC 1DCBNE6 1DCDNEA 1DCEND6 1DCFNDC",
   "1DD0NCA 1DD1NE6 1DF6NE8 1DF7NE4 1DF9NDC 1DFANDA 1DFBNE6 1DFCNE9 1DFDNDC 1DFENE6 1DFFNDC 1E00N0",
   "20D0NE6 20D2N1 20D4NE6 20D8N1 20DBNE6 20DDN0 20E1NE6 20E2N0 20E5N1 20E7NE6 20E8NDC 20E9NE6",
   "20EAN1 20ECNDC 20F0NE6 20F1N0 2CEFNE6 2CF2N0 2D7FN9 2D80N0 2DE0NE6 2E00N0 302ANDA 302BNE4",
   "302CNE8 302DNDE 302ENE0 3030N0 3099N8 309BN0 A66FNE6 A670N0 A674NE6 A67EN0 A69ENE6 A6A0N0",
   "A6F0NE6 A6F2N0 A806N9 A807N0 A82CN9 A82DN0 A8C4N9 A8C5N0 A8E0NE6 A8F2N0 A92BNDC A92EN0 A953N9",
   "A954N0 A9B3N7 A9B4N0 A9C0N9 A9C1N0 AAB0NE6 AAB1N0 AAB2NE6 AAB4NDC AAB5N0 AAB7NE6 AAB9N0 AABENE6",
   "AAC0N0 AAC1NE6 AAC2N0 AAF6N9 AAF7N0 ABEDN9 ABEEN0 FB1EN1A FB1FN0 FE20NE6 FE27NDC FE2ENE6 FE30N0",
   "101FDNDC 101FEN0 102E0NDC 102E1N0 10376NE6 1037BN0 10A0DNDC 10A0EN0 10A0FNE6 10A10N0 10A38NE6",
   "10A39N1 10A3ANDC 10A3BN0 10A3FN9 10A40N0 10AE5NE6 10AE6NDC 10AE7N0 10D24NE6 10D28N0 10EABNE6",
   "10EADN0 10EFDNDC 10F00N0 10F46NDC 10F48NE6 10F4BNDC 10F4CNE6 10F4DNDC 10F51N0 10F82NE6 10F83NDC",
   "10F84NE6 10F85NDC 10F86N0 11046N9 11047N0 11070N9 11071N0 1107FN9 11080N0 110B9N9 110BAN7",
   "110BBN0 11100NE6 11103N0 11133N9 11135N0 11173N7 11174N0 111C0N9 111C1N0 111CAN7 111CBN0 11235N9",
   "11236N7 11237N0 112E9N7 112EAN9 112EBN0 1133BN7 1133DN0 1134DN9 1134EN0 11366NE6 1136DN0",
   "11370NE6 11375N0 11442N9 11443N0 11446N7 11447N0 1145ENE6 1145FN0 114C2N9 114C3N7 114C4N0",
   "115BFN9 115C0N7 115C1N0 1163FN9 11640N0 116B6N9 116B7N7 116B8N0 1172BN9 1172CN0 11839N9 1183AN7",
   "1183BN0 1193DN9 1193FN0 11943N7 11944N0 119E0N9 119E1N0 11A34N9 11A35N0 11A47N9 11A48N0 11A99N9",
   "11A9AN0 11C3FN9 11C40N0 11D42N7 11D43N0 11D44N9 11D46N0 11D97N9 11D98N0 11F41N9 11F43N0 16AF0N1",
   "16AF5N0 16B30NE6 16B37N0 16FF0N6 16FF2N0 1BC9EN1 1BC9FN0 1D165ND8 1D167N1 1D16AN0 1D16DNE2",
   "1D16END8 1D173N0 1D17BNDC 1D183N0 1D185NE6 1D18ANDC 1D18CN0 1D1AANE6 1D1AEN0 1D242NE6 1D245N0",
   "1E000NE6 1E007N0 1E008NE6 1E019N0 1E01BNE6 1E022N0 1E023NE6 1E025N0 1E026NE6 1E02BN0 1E08FNE6",
   "1E090N0 1E130NE6 1E137N0 1E2AENE6 1E2AFN0 1E2ECNE6 1E2F0N0 1E4ECNE8 1E4EENDC 1E4EFNE6 1E4F0N0",
   "1E8D0NDC 1E8D7N0 1E944NE6 1E94AN7 1E94BN0"]

end Harvest.Text.Normal

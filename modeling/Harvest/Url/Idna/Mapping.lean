import Harvest.Text.Blank
import Harvest.Text.Table

/-!
What becomes of each character of an international host name: it stays, it is replaced, it is
dropped, or it is refused.
-/

namespace Harvest.Url.Idna

inductive Mapping where
  | keep
  | replace (by_ : List Char)
  | drop
  | refuse

private def mappingRows : Text.Table := Text.Table.ofLines
  ["0V 41S20 5BV 80X A0M20 A1V A8M20.308 A9V AAM61 ABV ADI AEV AFM20.304 B0V B2T80 B4M20.301 B5M3BC",
   "B6V B8M20.327 B9M31 BAM6F BBV BCM31.2044.34 BDM31.2044.32 BEM33.2044.34 BFV C0S20 D7V D8S20 DFV",
   "100P 130M69.307 131V 132M69.6A 134P 138V 139Q 13FM6C.B7 141Q 149M2BC.6E 14AP 178MFF 179Q 17FM73",
   "180V 181M253 182P 186M254 187M188 188V 189SCD 18BM18C 18CV 18EM1DD 18FM259 190M25B 191M192 192V",
   "193M260 194M263 195V 196M269 197M268 198M199 199V 19CM26F 19DM272 19EV 19FM275 1A0P 1A6M280",
   "1A7M1A8 1A8V 1A9M283 1AAV 1ACM1AD 1ADV 1AEM288 1AFM1B0 1B0V 1B1SD9 1B3Q 1B7M292 1B8M1B9 1B9V",
   "1BCM1BD 1BDV 1C4M64.17E 1C7M6C.6A 1CAM6E.6A 1CDQ 1DDV 1DEP 1F0V 1F1M64.7A 1F4M1F5 1F5V 1F6M195",
   "1F7M1BF 1F8P 220M19E 221V 222P 234V 23AM2C65 23BM23C 23CV 23DM19A 23EM2C66 23FV 241M242 242V",
   "243M180 244M289 245M28C 246P 250V 2B0M68 2B1M266 2B2M6A 2B3M72 2B4M279 2B5M27B 2B6M281 2B7M77",
   "2B8M79 2B9V 2D8M20.306 2D9M20.307 2DAM20.30A 2DBM20.328 2DCM20.303 2DDM20.30B 2DEV 2E0M263",
   "2E1M6C 2E2M73 2E3M78 2E4M295 2E5V 340T40 342V 343M313 344M308.301 345M3B9 346V 34FI 350V 370P",
   "374M2B9 375V 376M377 377V 378X 37AM20.3B9 37BV 37EM3B 37FM3F3 380X 384M20.301 385M20.308.301",
   "386M3AC 387MB7 388S25 38BX 38CM3CC 38DX 38ES3F 390V 391S20 3A2X 3A3S20 3ACV 3CFM3D7 3D0M3B2",
   "3D1M3B8 3D2M3C5 3D3M3CD 3D4M3CB 3D5M3C6 3D6M3C0 3D7V 3D8P 3F0M3BA 3F1M3C1 3F2M3C3 3F3V 3F4M3B8",
   "3F5M3B5 3F6V 3F7M3F8 3F8V 3F9M3C3 3FAM3FB 3FBV 3FDT82 400S50 410S20 430V 460P 482V 48AP 4C0M4CF",
   "4C1Q 4CFV 4D0P 530X 531S30 557X 559V 587M565.582 588V 58BX 58DV 590X 591V 5C8X 5D0V 5EBX 5EFV",
   "5F5X 606V 61CX 61DV 675M627.674 676M648.674 677M6C7.674 678M64A.674 679V 6DDX 6DEV 70EX 710V",
   "74BX 74DV 7B2X 7C0V 7FBX 7FDV 82EX 830V 83FX 840V 85CX 85EV 85FX 860V 86BX 870V 890X 897V 8E2X",
   "8E3V 958M915.93C 959M916.93C 95AM917.93C 95BM91C.93C 95CM921.93C 95DM922.93C 95EM92B.93C",
   "95FM92F.93C 960V 984X 985V 98DX 98FV 991X 993V 9A9X 9AAV 9B1X 9B2V 9B3X 9B6V 9BAX 9BCV 9C5X 9C7V",
   "9C9X 9CBV 9CFX 9D7V 9D8X 9DCM9A1.9BC 9DDM9A2.9BC 9DEX 9DFM9AF.9BC 9E0V 9E4X 9E6V 9FFX A01V A04X",
   "A05V A0BX A0FV A11X A13V A29X A2AV A31X A32V A33MA32.A3C A34X A35V A36MA38.A3C A37X A38V A3AX",
   "A3CV A3DX A3EV A43X A47V A49X A4BV A4EX A51V A52X A59MA16.A3C A5AMA17.A3C A5BMA1C.A3C A5CV A5DX",
   "A5EMA2B.A3C A5FX A66V A77X A81V A84X A85V A8EX A8FV A92X A93V AA9X AAAV AB1X AB2V AB4X AB5V ABAX",
   "ABCV AC6X AC7V ACAX ACBV ACEX AD0V AD1X AE0V AE4X AE6V AF2X AF9V B00X B01V B04X B05V B0DX B0FV",
   "B11X B13V B29X B2AV B31X B32V B34X B35V B3AX B3CV B45X B47V B49X B4BV B4EX B55V B58X B5CMB21.B3C",
   "B5DMB22.B3C B5EX B5FV B64X B66V B78X B82V B84X B85V B8BX B8EV B91X B92V B96X B99V B9BX B9CV B9DX",
   "B9EV BA0X BA3V BA5X BA8V BABX BAEV BBAX BBEV BC3X BC6V BC9X BCAV BCEX BD0V BD1X BD7V BD8X BE6V",
   "BFBX C00V C0DX C0EV C11X C12V C29X C2AV C3AX C3CV C45X C46V C49X C4AV C4EX C55V C57X C58V C5BX",
   "C5CV C5EX C60V C64X C66V C70X C77V C8DX C8EV C91X C92V CA9X CAAV CB4X CB5V CBAX CBCV CC5X CC6V",
   "CC9X CCAV CCEX CD5V CD7X CDCV CDFX CE0V CE4X CE6V CF0X CF1V CF4X D00V D0DX D0EV D11X D12V D45X",
   "D46V D49X D4AV D50X D54V D64X D66V D80X D81V D84X D85V D97X D9AV DB2X DB3V DBCX DBDV DBEX DC0V",
   "DC7X DCAV DCBX DCFV DD5X DD6V DD7X DD8V DE0X DE6V DF0X DF2V DF5X E01V E33ME4D.E32 E34V E3BX E3FV",
   "E5CX E81V E83X E84V E85X E86V E8BX E8CV EA4X EA5V EA6X EA7V EB3MECD.EB2 EB4V EBEX EC0V EC5X EC6V",
   "EC7X EC8V ECFX ED0V EDAX EDCMEAB.E99 EDDMEAB.EA1 EDEV EE0X F00V F0CMF0B F0DV F43MF42.FB7 F44V",
   "F48X F49V F4DMF4C.FB7 F4EV F52MF51.FB7 F53V F57MF56.FB7 F58V F5CMF5B.FB7 F5DV F69MF40.FB5 F6AV",
   "F6DX F71V F73MF71.F72 F74V F75MF71.F74 F76MFB2.F80 F77MFB2.F71.F80 F78MFB3.F80 F79MFB3.F71.F80",
   "F7AV F81MF71.F80 F82V F93MF92.FB7 F94V F98X F99V F9DMF9C.FB7 F9EV FA2MFA1.FB7 FA3V FA7MFA6.FB7",
   "FA8V FACMFAB.FB7 FADV FB9MF90.FB5 FBAV FBDX FBEV FCDX FCEV FDBX 1000V 10A0S1C60 10C6X 10C7M2D27",
   "10C8X 10CDM2D2D 10CEX 10D0V 10FCM10DC 10FDV 115FI 1161V 1249X 124AV 124EX 1250V 1257X 1258V",
   "1259X 125AV 125EX 1260V 1289X 128AV 128EX 1290V 12B1X 12B2V 12B6X 12B8V 12BFX 12C0V 12C1X 12C2V",
   "12C6X 12C8V 12D7X 12D8V 1311X 1312V 1316X 1318V 135BX 135DV 137DX 1380V 139AX 13A0V 13F6X 13F8T8",
   "13FEX 1400V 1680X 1681V 169DX 16A0V 16F9X 1700V 1716X 171FV 1737X 1740V 1754X 1760V 176DX 176EV",
   "1771X 1772V 1774X 1780V 17B4I 17B6V 17DEX 17E0V 17EAX 17F0V 17FAX 1800V 180BI 1810V 181AX 1820V",
   "1879X 1880V 18ABX 18B0V 18F6X 1900V 191FX 1920V 192CX 1930V 193CX 1940V 1941X 1944V 196EX 1970V",
   "1975X 1980V 19ACX 19B0V 19CAX 19D0V 19DBX 19DEV 1A1CX 1A1EV 1A5FX 1A60V 1A7DX 1A7FV 1A8AX 1A90V",
   "1A9AX 1AA0V 1AAEX 1AB0V 1ADEX 1AE0V 1AECX 1B00V 1B4DX 1B4EV 1BF4X 1BFCV 1C38X 1C3BV 1C4AX 1C4DV",
   "1C80M432 1C81M434 1C82M43E 1C83T1842 1C85M442 1C86M44A 1C87M463 1C88MA64B 1C89M1C8A 1C8AV 1C8BX",
   "1C90TBC0 1CBBX 1CBDTBC0 1CC0V 1CC8X 1CD0V 1CFBX 1D00V 1D2CM61 1D2DME6 1D2EM62 1D2FV 1D30T1CCC",
   "1D32M1DD 1D33T1CCC 1D3BV 1D3CM6F 1D3DM223 1D3EM70 1D3FM72 1D40T1CCC 1D42M77 1D43M61 1D44T1AF4",
   "1D46M1D02 1D47M62 1D48T1CE4 1D4AM259 1D4BT1AF0 1D4DM67 1D4EV 1D4FM6B 1D50M6D 1D51M14B 1D52M6F",
   "1D53M254 1D54T3E 1D56M70 1D57T1CE3 1D59M1D1D 1D5AM26F 1D5BM76 1D5CM1D25 1D5DT19AB 1D60T199A",
   "1D62M69 1D63M72 1D64T1CEF 1D66T19B4 1D68M3C1 1D69T19A3 1D6BV 1D78M43D 1D79V 1D9BM252 1D9CM63",
   "1D9DM255 1D9EMF0 1D9FM25C 1DA0M66 1DA1M25F 1DA2M261 1DA3M265 1DA4T1B3C 1DA7M1D7B 1DA8M29D",
   "1DA9M26D 1DAAM1D85 1DABM29F 1DACM271 1DADM270 1DAET1B3C 1DB2M278 1DB3T1B31 1DB5M1AB 1DB6T1B2D",
   "1DB8M1D1C 1DB9T1B2E 1DBBM7A 1DBCT1B2C 1DBFM3B8 1DC0V 1E00P 1E96V 1E9AM61.2BE 1E9BM1E61 1E9CV",
   "1E9EMDF 1E9FV 1EA0P 1F00V 1F08T8 1F10V 1F16X 1F18T8 1F1EX 1F20V 1F28T8 1F30V 1F38T8 1F40V 1F46X",
   "1F48T8 1F4EX 1F50V 1F58X 1F59M1F51 1F5AX 1F5BM1F53 1F5CX 1F5DM1F55 1F5EX 1F5FM1F57 1F60V 1F68T8",
   "1F70V 1F71M3AC 1F72V 1F73M3AD 1F74V 1F75M3AE 1F76V 1F77M3AF 1F78V 1F79M3CC 1F7AV 1F7BM3CD 1F7CV",
   "1F7DM3CE 1F7EX 1F80M1F00.3B9 1F81M1F01.3B9 1F82M1F02.3B9 1F83M1F03.3B9 1F84M1F04.3B9",
   "1F85M1F05.3B9 1F86M1F06.3B9 1F87M1F07.3B9 1F88M1F00.3B9 1F89M1F01.3B9 1F8AM1F02.3B9",
   "1F8BM1F03.3B9 1F8CM1F04.3B9 1F8DM1F05.3B9 1F8EM1F06.3B9 1F8FM1F07.3B9 1F90M1F20.3B9",
   "1F91M1F21.3B9 1F92M1F22.3B9 1F93M1F23.3B9 1F94M1F24.3B9 1F95M1F25.3B9 1F96M1F26.3B9",
   "1F97M1F27.3B9 1F98M1F20.3B9 1F99M1F21.3B9 1F9AM1F22.3B9 1F9BM1F23.3B9 1F9CM1F24.3B9",
   "1F9DM1F25.3B9 1F9EM1F26.3B9 1F9FM1F27.3B9 1FA0M1F60.3B9 1FA1M1F61.3B9 1FA2M1F62.3B9",
   "1FA3M1F63.3B9 1FA4M1F64.3B9 1FA5M1F65.3B9 1FA6M1F66.3B9 1FA7M1F67.3B9 1FA8M1F60.3B9",
   "1FA9M1F61.3B9 1FAAM1F62.3B9 1FABM1F63.3B9 1FACM1F64.3B9 1FADM1F65.3B9 1FAEM1F66.3B9",
   "1FAFM1F67.3B9 1FB0V 1FB2M1F70.3B9 1FB3M3B1.3B9 1FB4M3AC.3B9 1FB5X 1FB6V 1FB7M1FB6.3B9 1FB8T8",
   "1FBAM1F70 1FBBM3AC 1FBCM3B1.3B9 1FBDM20.313 1FBEM3B9 1FBFM20.313 1FC0M20.342 1FC1M20.308.342",
   "1FC2M1F74.3B9 1FC3M3B7.3B9 1FC4M3AE.3B9 1FC5X 1FC6V 1FC7M1FC6.3B9 1FC8M1F72 1FC9M3AD 1FCAM1F74",
   "1FCBM3AE 1FCCM3B7.3B9 1FCDM20.313.300 1FCEM20.313.301 1FCFM20.313.342 1FD0V 1FD3M390 1FD4X 1FD6V",
   "1FD8T8 1FDAM1F76 1FDBM3AF 1FDCX 1FDDM20.314.300 1FDEM20.314.301 1FDFM20.314.342 1FE0V 1FE3M3B0",
   "1FE4V 1FE8T8 1FEAM1F7A 1FEBM3CD 1FECM1FE5 1FEDM20.308.300 1FEEM20.308.301 1FEFM60 1FF0X",
   "1FF2M1F7C.3B9 1FF3M3C9.3B9 1FF4M3CE.3B9 1FF5X 1FF6V 1FF7M1FF6.3B9 1FF8M1F78 1FF9M3CC 1FFAM1F7C",
   "1FFBM3CE 1FFCM3C9.3B9 1FFDM20.301 1FFEM20.314 1FFFX 2000M20 2001M20 2002M20 2003M20 2004M20",
   "2005M20 2006M20 2007M20 2008M20 2009M20 200AM20 200BI 200CV 200EX 2010V 2011M2010 2012V",
   "2017M20.333 2018V 2024X 2027V 2028X 202FM20 2030V 2033M2032.2032 2034M2032.2032.2032 2035V",
   "2036M2035.2035 2037M2035.2035.2035 2038V 203CM21.21 203DV 203EM20.305 203FV 2047M3F.3F",
   "2048M3F.21 2049M21.3F 204AV 2057M2032.2032.2032.2032 2058V 205FM20 2060I 2065X 206AI 2070M30",
   "2071M69 2072X 2074T2040 207AM2B 207BM2212 207CM3D 207DT2055 207FM6E 2080T2050 208AM2B 208BM2212",
   "208CM3D 208DT2065 208FX 2090M61 2091M65 2092M6F 2093M78 2094M259 2095M68 2096T202B 209AM70",
   "209BT2028 209DX 20A0V 20A8M72.73 20A9V 20C2X 20D0V 20F1X 2100M61.2F.63 2101M61.2F.73 2102M63",
   "2103MB0.63 2104V 2105M63.2F.6F 2106M63.2F.75 2107M25B 2108V 2109MB0.66 210AT20A3 210CM68 210DM68",
   "210EM68 210FM127 2110M69 2111M69 2112M6C 2113M6C 2114V 2115M6E 2116M6E.6F 2117V 2119T20A9",
   "211CM72 211DM72 211EV 2120M73.6D 2121M74.65.6C 2122M74.6D 2123V 2124M7A 2125V 2126M3C9 2127V",
   "2128M7A 2129V 212AM6B 212BME5 212CT20CA 212EV 212FM65 2130T20CB 2132M214E 2133M6D 2134M6F",
   "2135T1B65 2139M69 213AV 213BM66.61.78 213CM3C0 213DM3B3 213EM3B3 213FM3C0 2140M2211 2141V",
   "2145M64 2146T20E2 2148T20DF 214AV 2150M31.2044.37 2151M31.2044.39 2152M31.2044.31.30",
   "2153M31.2044.33 2154M32.2044.33 2155M31.2044.35 2156M32.2044.35 2157M33.2044.35 2158M34.2044.35",
   "2159M31.2044.36 215AM35.2044.36 215BM31.2044.38 215CM33.2044.38 215DM35.2044.38 215EM37.2044.38",
   "215FM31.2044 2160M69 2161M69.69 2162M69.69.69 2163M69.76 2164M76 2165M76.69 2166M76.69.69",
   "2167M76.69.69.69 2168M69.78 2169M78 216AM78.69 216BM78.69.69 216CM6C 216DT210A 216FM6D 2170M69",
   "2171M69.69 2172M69.69.69 2173M69.76 2174M76 2175M76.69 2176M76.69.69 2177M76.69.69.69 2178M69.78",
   "2179M78 217AM78.69 217BM78.69.69 217CM6C 217DT211A 217FM6D 2180V 2183M2184 2184V 2189M30.2044.33",
   "218AV 218CX 2190V 222CM222B.222B 222DM222B.222B.222B 222EV 222FM222E.222E 2230M222E.222E.222E",
   "2231V 2329SCDF 232BV 242AX 2440V 244BX 2460T242F 2469M31.30 246AM31.31 246BM31.32 246CM31.33",
   "246DM31.34 246EM31.35 246FM31.36 2470M31.37 2471M31.38 2472M31.39 2473M32.30 2474M28.31.29",
   "2475M28.32.29 2476M28.33.29 2477M28.34.29 2478M28.35.29 2479M28.36.29 247AM28.37.29",
   "247BM28.38.29 247CM28.39.29 247DM28.31.30.29 247EM28.31.31.29 247FM28.31.32.29 2480M28.31.33.29",
   "2481M28.31.34.29 2482M28.31.35.29 2483M28.31.36.29 2484M28.31.37.29 2485M28.31.38.29",
   "2486M28.31.39.29 2487M28.32.30.29 2488X 249CM28.61.29 249DM28.62.29 249EM28.63.29 249FM28.64.29",
   "24A0M28.65.29 24A1M28.66.29 24A2M28.67.29 24A3M28.68.29 24A4M28.69.29 24A5M28.6A.29",
   "24A6M28.6B.29 24A7M28.6C.29 24A8M28.6D.29 24A9M28.6E.29 24AAM28.6F.29 24ABM28.70.29",
   "24ACM28.71.29 24ADM28.72.29 24AEM28.73.29 24AFM28.74.29 24B0M28.75.29 24B1M28.76.29",
   "24B2M28.77.29 24B3M28.78.29 24B4M28.79.29 24B5M28.7A.29 24B6T2455 24D0T246F 24EAM30 24EBV",
   "2A0CM222B.222B.222B.222B 2A0DV 2A74M3A.3A.3D 2A75M3D.3D 2A76M3D.3D.3D 2A77V 2ADCM2ADD.338 2ADDV",
   "2B74X 2B76V 2C00S30 2C30V 2C60M2C61 2C61V 2C62M26B 2C63M1D7D 2C64M27D 2C65V 2C67Q 2C6DM251",
   "2C6EM271 2C6FM250 2C70M252 2C71V 2C72M2C73 2C73V 2C75M2C76 2C76V 2C7CM6A 2C7DM76 2C7ET2A3F 2C80P",
   "2CE4V 2CEBQ 2CEFV 2CF2M2CF3 2CF3V 2CF4X 2CF9V 2D26X 2D27V 2D28X 2D2DV 2D2EX 2D30V 2D68X",
   "2D6FM2D61 2D70V 2D71X 2D7FV 2D97X 2DA0V 2DA7X 2DA8V 2DAFX 2DB0V 2DB7X 2DB8V 2DBFX 2DC0V 2DC7X",
   "2DC8V 2DCFX 2DD0V 2DD7X 2DD8V 2DDFX 2DE0V 2E5EX 2E80V 2E9AX 2E9BV 2E9FM6BCD 2EA0V 2EF3M9F9F",
   "2EF4X 2F00M4E00 2F01M4E28 2F02M4E36 2F03M4E3F 2F04M4E59 2F05M4E85 2F06M4E8C 2F07M4EA0 2F08M4EBA",
   "2F09M513F 2F0AM5165 2F0BM516B 2F0CM5182 2F0DM5196 2F0EM51AB 2F0FM51E0 2F10M51F5 2F11M5200",
   "2F12M529B 2F13M52F9 2F14M5315 2F15M531A 2F16M5338 2F17M5341 2F18M535C 2F19M5369 2F1AM5382",
   "2F1BM53B6 2F1CM53C8 2F1DM53E3 2F1EM56D7 2F1FM571F 2F20M58EB 2F21M5902 2F22M590A 2F23M5915",
   "2F24M5927 2F25M5973 2F26M5B50 2F27M5B80 2F28M5BF8 2F29M5C0F 2F2AM5C22 2F2BM5C38 2F2CM5C6E",
   "2F2DM5C71 2F2EM5DDB 2F2FM5DE5 2F30M5DF1 2F31M5DFE 2F32M5E72 2F33M5E7A 2F34M5E7F 2F35M5EF4",
   "2F36M5EFE 2F37M5F0B 2F38M5F13 2F39M5F50 2F3AM5F61 2F3BM5F73 2F3CM5FC3 2F3DM6208 2F3EM6236",
   "2F3FM624B 2F40M652F 2F41M6534 2F42M6587 2F43M6597 2F44M65A4 2F45M65B9 2F46M65E0 2F47M65E5",
   "2F48M66F0 2F49M6708 2F4AM6728 2F4BM6B20 2F4CM6B62 2F4DM6B79 2F4EM6BB3 2F4FM6BCB 2F50M6BD4",
   "2F51M6BDB 2F52M6C0F 2F53M6C14 2F54M6C34 2F55M706B 2F56M722A 2F57M7236 2F58M723B 2F59M723F",
   "2F5AM7247 2F5BM7259 2F5CM725B 2F5DM72AC 2F5EM7384 2F5FM7389 2F60M74DC 2F61M74E6 2F62M7518",
   "2F63M751F 2F64M7528 2F65M7530 2F66M758B 2F67M7592 2F68M7676 2F69M767D 2F6AM76AE 2F6BM76BF",
   "2F6CM76EE 2F6DM77DB 2F6EM77E2 2F6FM77F3 2F70M793A 2F71M79B8 2F72M79BE 2F73M7A74 2F74M7ACB",
   "2F75M7AF9 2F76M7C73 2F77M7CF8 2F78M7F36 2F79M7F51 2F7AM7F8A 2F7BM7FBD 2F7CM8001 2F7DM800C",
   "2F7EM8012 2F7FM8033 2F80M807F 2F81M8089 2F82M81E3 2F83M81EA 2F84M81F3 2F85M81FC 2F86M820C",
   "2F87M821B 2F88M821F 2F89M826E 2F8AM8272 2F8BM8278 2F8CM864D 2F8DM866B 2F8EM8840 2F8FM884C",
   "2F90M8863 2F91M897E 2F92M898B 2F93M89D2 2F94M8A00 2F95M8C37 2F96M8C46 2F97M8C55 2F98M8C78",
   "2F99M8C9D 2F9AM8D64 2F9BM8D70 2F9CM8DB3 2F9DM8EAB 2F9EM8ECA 2F9FM8F9B 2FA0M8FB0 2FA1M8FB5",
   "2FA2M9091 2FA3M9149 2FA4M91C6 2FA5M91CC 2FA6M91D1 2FA7M9577 2FA8M9580 2FA9M961C 2FAAM96B6",
   "2FABM96B9 2FACM96E8 2FADM9751 2FAEM975E 2FAFM9762 2FB0M9769 2FB1M97CB 2FB2M97ED 2FB3M97F3",
   "2FB4M9801 2FB5M98A8 2FB6M98DB 2FB7M98DF 2FB8M9996 2FB9M9999 2FBAM99AC 2FBBM9AA8 2FBCM9AD8",
   "2FBDM9ADF 2FBEM9B25 2FBFM9B2F 2FC0M9B32 2FC1M9B3C 2FC2M9B5A 2FC3M9CE5 2FC4M9E75 2FC5M9E7F",
   "2FC6M9EA5 2FC7M9EBB 2FC8M9EC3 2FC9M9ECD 2FCAM9ED1 2FCBM9EF9 2FCCM9EFD 2FCDM9F0E 2FCEM9F13",
   "2FCFM9F20 2FD0M9F3B 2FD1M9F4A 2FD2M9F52 2FD3M9F8D 2FD4M9F9C 2FD5M9FA0 2FD6X 3000M20 3001V",
   "3002M2E 3003V 3036M3012 3037V 3038M5341 3039S230B 303BV 3040X 3041V 3097X 3099V 309BM20.3099",
   "309CM20.309A 309DV 309FM3088.308A 30A0V 30FFM30B3.30C8 3100X 3105V 3130X 3131T2031 3133M11AA",
   "3134M1102 3135T1F89 3137T2034 313AT1F8A 3140M111A 3141T203B 3144M1121 3145T203C 314FT1FEE 3164I",
   "3165T2051 3167T1FA0 3169M11CC 316AM11CE 316BM11D3 316CM11D7 316DM11D9 316EM111C 316FM11DD",
   "3170M11DF 3171T2054 3173M1120 3174T2052 3176M1127 3177M1129 3178T204D 317DM1132 317EM1136",
   "317FM1140 3180M1147 3181M114C 3182T1F91 3184T202D 3187T2003 3189M1188 318AT1FF9 318CM1194",
   "318DM119E 318EM11A1 318FX 3190V 3192M4E00 3193M4E8C 3194M4E09 3195M56DB 3196M4E0A 3197M4E2D",
   "3198M4E0B 3199M7532 319AM4E59 319BM4E19 319CM4E01 319DM5929 319EM5730 319FM4EBA 31A0V 31E6X",
   "31F0V 3200M28.1100.29 3201M28.1102.29 3202M28.1103.29 3203M28.1105.29 3204M28.1106.29",
   "3205M28.1107.29 3206M28.1109.29 3207M28.110B.29 3208M28.110C.29 3209M28.110E.29 320AM28.110F.29",
   "320BM28.1110.29 320CM28.1111.29 320DM28.1112.29 320EM28.AC00.29 320FM28.B098.29 3210M28.B2E4.29",
   "3211M28.B77C.29 3212M28.B9C8.29 3213M28.BC14.29 3214M28.C0AC.29 3215M28.C544.29 3216M28.C790.29",
   "3217M28.CC28.29 3218M28.CE74.29 3219M28.D0C0.29 321AM28.D30C.29 321BM28.D558.29 321CM28.C8FC.29",
   "321DM28.C624.C804.29 321EM28.C624.D6C4.29 321FX 3220M28.4E00.29 3221M28.4E8C.29 3222M28.4E09.29",
   "3223M28.56DB.29 3224M28.4E94.29 3225M28.516D.29 3226M28.4E03.29 3227M28.516B.29 3228M28.4E5D.29",
   "3229M28.5341.29 322AM28.6708.29 322BM28.706B.29 322CM28.6C34.29 322DM28.6728.29 322EM28.91D1.29",
   "322FM28.571F.29 3230M28.65E5.29 3231M28.682A.29 3232M28.6709.29 3233M28.793E.29 3234M28.540D.29",
   "3235M28.7279.29 3236M28.8CA1.29 3237M28.795D.29 3238M28.52B4.29 3239M28.4EE3.29 323AM28.547C.29",
   "323BM28.5B66.29 323CM28.76E3.29 323DM28.4F01.29 323EM28.8CC7.29 323FM28.5354.29 3240M28.796D.29",
   "3241M28.4F11.29 3242M28.81EA.29 3243M28.81F3.29 3244M554F 3245M5E7C 3246M6587 3247M7B8F 3248V",
   "3250M70.74.65 3251M32.31 3252M32.32 3253M32.33 3254M32.34 3255M32.35 3256M32.36 3257M32.37",
   "3258M32.38 3259M32.39 325AM33.30 325BM33.31 325CM33.32 325DM33.33 325EM33.34 325FM33.35",
   "3260M1100 3261T215F 3263T215E 3266M1109 3267T215C 3269T215B 326EMAC00 326FMB098 3270MB2E4",
   "3271MB77C 3272MB9C8 3273MBC14 3274MC0AC 3275MC544 3276MC790 3277MCC28 3278MCE74 3279MD0C0",
   "327AMD30C 327BMD558 327CMCC38.ACE0 327DMC8FC.C758 327EMC6B0 327FV 3280M4E00 3281M4E8C 3282M4E09",
   "3283M56DB 3284M4E94 3285M516D 3286M4E03 3287M516B 3288M4E5D 3289M5341 328AM6708 328BM706B",
   "328CM6C34 328DM6728 328EM91D1 328FM571F 3290M65E5 3291M682A 3292M6709 3293M793E 3294M540D",
   "3295M7279 3296M8CA1 3297M795D 3298M52B4 3299M79D8 329AM7537 329BM5973 329CM9069 329DM512A",
   "329EM5370 329FM6CE8 32A0M9805 32A1M4F11 32A2M5199 32A3M6B63 32A4M4E0A 32A5M4E2D 32A6M4E0B",
   "32A7M5DE6 32A8M53F3 32A9M533B 32AAM5B97 32ABM5B66 32ACM76E3 32ADM4F01 32AEM8CC7 32AFM5354",
   "32B0M591C 32B1M33.36 32B2M33.37 32B3M33.38 32B4M33.39 32B5M34.30 32B6M34.31 32B7M34.32",
   "32B8M34.33 32B9M34.34 32BAM34.35 32BBM34.36 32BCM34.37 32BDM34.38 32BEM34.39 32BFM35.30",
   "32C0M31.6708 32C1M32.6708 32C2M33.6708 32C3M34.6708 32C4M35.6708 32C5M36.6708 32C6M37.6708",
   "32C7M38.6708 32C8M39.6708 32C9M31.30.6708 32CAM31.31.6708 32CBM31.32.6708 32CCM68.67",
   "32CDM65.72.67 32CEM65.76 32CFM6C.74.64 32D0M30A2 32D1M30A4 32D2M30A6 32D3M30A8 32D4T22A",
   "32D6M30AD 32D7M30AF 32D8M30B1 32D9M30B3 32DAM30B5 32DBM30B7 32DCM30B9 32DDM30BB 32DEM30BD",
   "32DFM30BF 32E0M30C1 32E1M30C4 32E2M30C6 32E3M30C8 32E4T21A 32EAM30D2 32EBM30D5 32ECM30D8",
   "32EDM30DB 32EET210 32F3M30E4 32F4M30E6 32F5T20D 32FBT20C 32FFM4EE4.548C 3300M30A2.30D1.30FC.30C8",
   "3301M30A2.30EB.30D5.30A1 3302M30A2.30F3.30DA.30A2 3303M30A2.30FC.30EB 3304M30A4.30CB.30F3.30B0",
   "3305M30A4.30F3.30C1 3306M30A6.30A9.30F3 3307M30A8.30B9.30AF.30FC.30C9 3308M30A8.30FC.30AB.30FC",
   "3309M30AA.30F3.30B9 330AM30AA.30FC.30E0 330BM30AB.30A4.30EA 330CM30AB.30E9.30C3.30C8",
   "330DM30AB.30ED.30EA.30FC 330EM30AC.30ED.30F3 330FM30AC.30F3.30DE 3310M30AE.30AC",
   "3311M30AE.30CB.30FC 3312M30AD.30E5.30EA.30FC 3313M30AE.30EB.30C0.30FC 3314M30AD.30ED",
   "3315M30AD.30ED.30B0.30E9.30E0 3316M30AD.30ED.30E1.30FC.30C8.30EB 3317M30AD.30ED.30EF.30C3.30C8",
   "3318M30B0.30E9.30E0 3319M30B0.30E9.30E0.30C8.30F3 331AM30AF.30EB.30BC.30A4.30ED",
   "331BM30AF.30ED.30FC.30CD 331CM30B1.30FC.30B9 331DM30B3.30EB.30CA 331EM30B3.30FC.30DD",
   "331FM30B5.30A4.30AF.30EB 3320M30B5.30F3.30C1.30FC.30E0 3321M30B7.30EA.30F3.30B0",
   "3322M30BB.30F3.30C1 3323M30BB.30F3.30C8 3324M30C0.30FC.30B9 3325M30C7.30B7 3326M30C9.30EB",
   "3327M30C8.30F3 3328M30CA.30CE 3329M30CE.30C3.30C8 332AM30CF.30A4.30C4",
   "332BM30D1.30FC.30BB.30F3.30C8 332CM30D1.30FC.30C4 332DM30D0.30FC.30EC.30EB",
   "332EM30D4.30A2.30B9.30C8.30EB 332FM30D4.30AF.30EB 3330M30D4.30B3 3331M30D3.30EB",
   "3332M30D5.30A1.30E9.30C3.30C9 3333M30D5.30A3.30FC.30C8 3334M30D6.30C3.30B7.30A7.30EB",
   "3335M30D5.30E9.30F3 3336M30D8.30AF.30BF.30FC.30EB 3337M30DA.30BD 3338M30DA.30CB.30D2",
   "3339M30D8.30EB.30C4 333AM30DA.30F3.30B9 333BM30DA.30FC.30B8 333CM30D9.30FC.30BF",
   "333DM30DD.30A4.30F3.30C8 333EM30DC.30EB.30C8 333FM30DB.30F3 3340M30DD.30F3.30C9",
   "3341M30DB.30FC.30EB 3342M30DB.30FC.30F3 3343M30DE.30A4.30AF.30ED 3344M30DE.30A4.30EB",
   "3345M30DE.30C3.30CF 3346M30DE.30EB.30AF 3347M30DE.30F3.30B7.30E7.30F3 3348M30DF.30AF.30ED.30F3",
   "3349M30DF.30EA 334AM30DF.30EA.30D0.30FC.30EB 334BM30E1.30AC 334CM30E1.30AC.30C8.30F3",
   "334DM30E1.30FC.30C8.30EB 334EM30E4.30FC.30C9 334FM30E4.30FC.30EB 3350M30E6.30A2.30F3",
   "3351M30EA.30C3.30C8.30EB 3352M30EA.30E9 3353M30EB.30D4.30FC 3354M30EB.30FC.30D6.30EB",
   "3355M30EC.30E0 3356M30EC.30F3.30C8.30B2.30F3 3357M30EF.30C3.30C8 3358M30.70B9 3359M31.70B9",
   "335AM32.70B9 335BM33.70B9 335CM34.70B9 335DM35.70B9 335EM36.70B9 335FM37.70B9 3360M38.70B9",
   "3361M39.70B9 3362M31.30.70B9 3363M31.31.70B9 3364M31.32.70B9 3365M31.33.70B9 3366M31.34.70B9",
   "3367M31.35.70B9 3368M31.36.70B9 3369M31.37.70B9 336AM31.38.70B9 336BM31.39.70B9 336CM32.30.70B9",
   "336DM32.31.70B9 336EM32.32.70B9 336FM32.33.70B9 3370M32.34.70B9 3371M68.70.61 3372M64.61",
   "3373M61.75 3374M62.61.72 3375M6F.76 3376M70.63 3377M64.6D 3378M64.6D.32 3379M64.6D.33 337AM69.75",
   "337BM5E73.6210 337CM662D.548C 337DM5927.6B63 337EM660E.6CBB 337FM682A.5F0F.4F1A.793E 3380M70.61",
   "3381M6E.61 3382M3BC.61 3383M6D.61 3384M6B.61 3385M6B.62 3386M6D.62 3387M67.62 3388M63.61.6C",
   "3389M6B.63.61.6C 338AM70.66 338BM6E.66 338CM3BC.66 338DM3BC.67 338EM6D.67 338FM6B.67 3390M68.7A",
   "3391M6B.68.7A 3392M6D.68.7A 3393M67.68.7A 3394M74.68.7A 3395M3BC.6C 3396M6D.6C 3397M64.6C",
   "3398M6B.6C 3399M66.6D 339AM6E.6D 339BM3BC.6D 339CM6D.6D 339DM63.6D 339EM6B.6D 339FM6D.6D.32",
   "33A0M63.6D.32 33A1M6D.32 33A2M6B.6D.32 33A3M6D.6D.33 33A4M63.6D.33 33A5M6D.33 33A6M6B.6D.33",
   "33A7M6D.2215.73 33A8M6D.2215.73.32 33A9M70.61 33AAM6B.70.61 33ABM6D.70.61 33ACM67.70.61",
   "33ADM72.61.64 33AEM72.61.64.2215.73 33AFM72.61.64.2215.73.32 33B0M70.73 33B1M6E.73 33B2M3BC.73",
   "33B3M6D.73 33B4M70.76 33B5M6E.76 33B6M3BC.76 33B7M6D.76 33B8M6B.76 33B9M6D.76 33BAM70.77",
   "33BBM6E.77 33BCM3BC.77 33BDM6D.77 33BEM6B.77 33BFM6D.77 33C0M6B.3C9 33C1M6D.3C9 33C2X 33C3M62.71",
   "33C4M63.63 33C5M63.64 33C6M63.2215.6B.67 33C7X 33C8M64.62 33C9M67.79 33CAM68.61 33CBM68.70",
   "33CCM69.6E 33CDM6B.6B 33CEM6B.6D 33CFM6B.74 33D0M6C.6D 33D1M6C.6E 33D2M6C.6F.67 33D3M6C.78",
   "33D4M6D.62 33D5M6D.69.6C 33D6M6D.6F.6C 33D7M70.68 33D8X 33D9M70.70.6D 33DAM70.72 33DBM73.72",
   "33DCM73.76 33DDM77.62 33DEM76.2215.6D 33DFM61.2215.6D 33E0M31.65E5 33E1M32.65E5 33E2M33.65E5",
   "33E3M34.65E5 33E4M35.65E5 33E5M36.65E5 33E6M37.65E5 33E7M38.65E5 33E8M39.65E5 33E9M31.30.65E5",
   "33EAM31.31.65E5 33EBM31.32.65E5 33ECM31.33.65E5 33EDM31.34.65E5 33EEM31.35.65E5 33EFM31.36.65E5",
   "33F0M31.37.65E5 33F1M31.38.65E5 33F2M31.39.65E5 33F3M32.30.65E5 33F4M32.31.65E5 33F5M32.32.65E5",
   "33F6M32.33.65E5 33F7M32.34.65E5 33F8M32.35.65E5 33F9M32.36.65E5 33FAM32.37.65E5 33FBM32.38.65E5",
   "33FCM32.39.65E5 33FDM33.30.65E5 33FEM33.31.65E5 33FFM67.61.6C 3400V A48DX A490V A4C7X A4D0V",
   "A62CX A640P A66EV A680P A69CM44A A69DM44C A69EV A6F8X A700V A722P A730V A732P A770MA76F A771V",
   "A779Q A77DM1D79 A77EP A788V A78BMA78C A78CV A78DM265 A78EV A790P A794V A796P A7AAM266 A7ABM25C",
   "A7ACM261 A7ADM26C A7AEM26A A7AFV A7B0M29E A7B1M287 A7B2M29D A7B3MAB53 A7B4P A7C4MA794 A7C5M282",
   "A7C6M1D8E A7C7Q A7CBM264 A7CCP A7DCM19B A7DDX A7F1M73 A7F2M63 A7F3M66 A7F4M71 A7F5MA7F6 A7F6V",
   "A7F8M127 A7F9M153 A7FAV A82DX A830V A83AX A840V A878X A880V A8C6X A8CEV A8DAX A8E0V A954X A95FV",
   "A97DX A980V A9CEX A9CFV A9DAX A9DEV A9FFX AA00V AA37X AA40V AA4EX AA50V AA5AX AA5CV AAC3X AADBV",
   "AAF7X AB01V AB07X AB09V AB0FX AB11V AB17X AB20V AB27X AB28V AB2FX AB30V AB5CMA727 AB5DMAB37",
   "AB5EM26B AB5FMAB52 AB60V AB69M28D AB6AV AB6CX AB70T97D0 ABC0V ABEEX ABF0V ABFAX AC00V D7A4X",
   "D7B0V D7C7X D7CBV D7FCX F900M8C48 F901M66F4 F902M8ECA F903M8CC8 F904M6ED1 F905M4E32 F906M53E5",
   "F907M9F9C F908M9F9C F909M5951 F90AM91D1 F90BM5587 F90CM5948 F90DM61F6 F90EM7669 F90FM7F85",
   "F910M863F F911M87BA F912M88F8 F913M908F F914M6A02 F915M6D1B F916M70D9 F917M73DE F918M843D",
   "F919M916A F91AM99F1 F91BM4E82 F91CM5375 F91DM6B04 F91EM721B F91FM862D F920M9E1E F921M5D50",
   "F922M6FEB F923M85CD F924M8964 F925M62C9 F926M81D8 F927M881F F928M5ECA F929M6717 F92AM6D6A",
   "F92BM72FC F92CM90CE F92DM4F86 F92EM51B7 F92FM52DE F930M64C4 F931M6AD3 F932M7210 F933M76E7",
   "F934M8001 F935M8606 F936M865C F937M8DEF F938M9732 F939M9B6F F93AM9DFA F93BM788C F93CM797F",
   "F93DM7DA0 F93EM83C9 F93FM9304 F940M9E7F F941M8AD6 F942M58DF F943M5F04 F944M7C60 F945M807E",
   "F946M7262 F947M78CA F948M8CC2 F949M96F7 F94AM58D8 F94BM5C62 F94CM6A13 F94DM6DDA F94EM6F0F",
   "F94FM7D2F F950M7E37 F951M964B F952M52D2 F953M808B F954M51DC F955M51CC F956M7A1C F957M7DBE",
   "F958M83F1 F959M9675 F95AM8B80 F95BM62CF F95CM6A02 F95DM8AFE F95EM4E39 F95FM5BE7 F960M6012",
   "F961M7387 F962M7570 F963M5317 F964M78FB F965M4FBF F966M5FA9 F967M4E0D F968M6CCC F969M6578",
   "F96AM7D22 F96BM53C3 F96CM585E F96DM7701 F96EM8449 F96FM8AAA F970M6BBA F971M8FB0 F972M6C88",
   "F973M62FE F974M82E5 F975M63A0 F976M7565 F977M4EAE F978M5169 F979M51C9 F97AM6881 F97BM7CE7",
   "F97CM826F F97DM8AD2 F97EM91CF F97FM52F5 F980M5442 F981M5973 F982M5EEC F983M65C5 F984M6FFE",
   "F985M792A F986M95AD F987M9A6A F988M9E97 F989M9ECE F98AM529B F98BM66C6 F98CM6B77 F98DM8F62",
   "F98EM5E74 F98FM6190 F990M6200 F991M649A F992M6F23 F993M7149 F994M7489 F995M79CA F996M7DF4",
   "F997M806F F998M8F26 F999M84EE F99AM9023 F99BM934A F99CM5217 F99DM52A3 F99EM54BD F99FM70C8",
   "F9A0M88C2 F9A1M8AAA F9A2M5EC9 F9A3M5FF5 F9A4M637B F9A5M6BAE F9A6M7C3E F9A7M7375 F9A8M4EE4",
   "F9A9M56F9 F9AAM5BE7 F9ABM5DBA F9ACM601C F9ADM73B2 F9AEM7469 F9AFM7F9A F9B0M8046 F9B1M9234",
   "F9B2M96F6 F9B3M9748 F9B4M9818 F9B5M4F8B F9B6M79AE F9B7M91B4 F9B8M96B8 F9B9M60E1 F9BAM4E86",
   "F9BBM50DA F9BCM5BEE F9BDM5C3F F9BEM6599 F9BFM6A02 F9C0M71CE F9C1M7642 F9C2M84FC F9C3M907C",
   "F9C4M9F8D F9C5M6688 F9C6M962E F9C7M5289 F9C8M677B F9C9M67F3 F9CAM6D41 F9CBM6E9C F9CCM7409",
   "F9CDM7559 F9CEM786B F9CFM7D10 F9D0M985E F9D1M516D F9D2M622E F9D3M9678 F9D4M502B F9D5M5D19",
   "F9D6M6DEA F9D7M8F2A F9D8M5F8B F9D9M6144 F9DAM6817 F9DBM7387 F9DCM9686 F9DDM5229 F9DEM540F",
   "F9DFM5C65 F9E0M6613 F9E1M674E F9E2M68A8 F9E3M6CE5 F9E4M7406 F9E5M75E2 F9E6M7F79 F9E7M88CF",
   "F9E8M88E1 F9E9M91CC F9EAM96E2 F9EBM533F F9ECM6EBA F9EDM541D F9EEM71D0 F9EFM7498 F9F0M85FA",
   "F9F1M96A3 F9F2M9C57 F9F3M9E9F F9F4M6797 F9F5M6DCB F9F6M81E8 F9F7M7ACB F9F8M7B20 F9F9M7C92",
   "F9FAM72C0 F9FBM7099 F9FCM8B58 F9FDM4EC0 F9FEM8336 F9FFM523A FA00M5207 FA01M5EA6 FA02M62D3",
   "FA03M7CD6 FA04M5B85 FA05M6D1E FA06M66B4 FA07M8F3B FA08M884C FA09M964D FA0AM898B FA0BM5ED3",
   "FA0CM5140 FA0DM55C0 FA0EV FA10M585A FA11V FA12M6674 FA13V FA15M51DE FA16M732A FA17M76CA",
   "FA18M793C FA19M795E FA1AM7965 FA1BM798F FA1CM9756 FA1DM7CBE FA1EM7FBD FA1FV FA20M8612 FA21V",
   "FA22M8AF8 FA23V FA25M9038 FA26M90FD FA27V FA2AM98EF FA2BM98FC FA2CM9928 FA2DM9DB4 FA2EM90DE",
   "FA2FM96B7 FA30M4FAE FA31M50E7 FA32M514D FA33M52C9 FA34M52E4 FA35M5351 FA36M559D FA37M5606",
   "FA38M5668 FA39M5840 FA3AM58A8 FA3BM5C64 FA3CM5C6E FA3DM6094 FA3EM6168 FA3FM618E FA40M61F2",
   "FA41M654F FA42M65E2 FA43M6691 FA44M6885 FA45M6D77 FA46M6E1A FA47M6F22 FA48M716E FA49M722B",
   "FA4AM7422 FA4BM7891 FA4CM793E FA4DM7949 FA4EM7948 FA4FM7950 FA50M7956 FA51M795D FA52T80C5",
   "FA54M7A40 FA55M7A81 FA56M7BC0 FA57M7DF4 FA58M7E09 FA59M7E41 FA5AM7F72 FA5BM8005 FA5CM81ED",
   "FA5DM8279 FA5EM8279 FA5FM8457 FA60M8910 FA61M8996 FA62M8B01 FA63M8B39 FA64M8CD3 FA65M8D08",
   "FA66M8FB6 FA67M9038 FA68M96E3 FA69M97FF FA6AM983B FA6BM6075 FA6CM242EE FA6DM8218 FA6EX FA70M4E26",
   "FA71M51B5 FA72M5168 FA73M4F80 FA74M5145 FA75M5180 FA76M52C7 FA77M52FA FA78M559D FA79M5555",
   "FA7AM5599 FA7BM55E2 FA7CM585A FA7DM58B3 FA7EM5944 FA7FM5954 FA80M5A62 FA81M5B28 FA82M5ED2",
   "FA83M5ED9 FA84M5F69 FA85M5FAD FA86M60D8 FA87M614E FA88M6108 FA89M618E FA8AM6160 FA8BM61F2",
   "FA8CM6234 FA8DM63C4 FA8EM641C FA8FM6452 FA90M6556 FA91M6674 FA92M6717 FA93M671B FA94M6756",
   "FA95M6B79 FA96M6BBA FA97M6D41 FA98M6EDB FA99M6ECB FA9AM6F22 FA9BM701E FA9CM716E FA9DM77A7",
   "FA9EM7235 FA9FM72AF FAA0M732A FAA1M7471 FAA2M7506 FAA3M753B FAA4M761D FAA5M761F FAA6M76CA",
   "FAA7M76DB FAA8M76F4 FAA9M774A FAAAM7740 FAABM78CC FAACM7AB1 FAADM7BC0 FAAEM7C7B FAAFM7D5B",
   "FAB0M7DF4 FAB1M7F3E FAB2M8005 FAB3M8352 FAB4M83EF FAB5M8779 FAB6M8941 FAB7M8986 FAB8M8996",
   "FAB9M8ABF FABAM8AF8 FABBM8ACB FABCM8B01 FABDM8AFE FABEM8AED FABFM8B39 FAC0M8B8A FAC1M8D08",
   "FAC2M8F38 FAC3M9072 FAC4M9199 FAC5M9276 FAC6M967C FAC7M96E3 FAC8M9756 FAC9M97DB FACAM97FF",
   "FACBM980B FACCM983B FACDM9B12 FACEM9F9C FACFM2284A FAD0M22844 FAD1M233D5 FAD2M3B9D FAD3M4018",
   "FAD4M4039 FAD5M25249 FAD6M25CD0 FAD7M27ED3 FAD8M9F43 FAD9M9F8E FADAX FB00M66.66 FB01M66.69",
   "FB02M66.6C FB03M66.66.69 FB04M66.66.6C FB05M73.74 FB07X FB13M574.576 FB14M574.565 FB15M574.56B",
   "FB16M57E.576 FB17M574.56D FB18X FB1DM5D9.5B4 FB1EV FB1FM5F2.5B7 FB20M5E2 FB21M5D0 FB22TF54F",
   "FB24TF549 FB27M5E8 FB28M5EA FB29M2B FB2AM5E9.5C1 FB2BM5E9.5C2 FB2CM5E9.5BC.5C1 FB2DM5E9.5BC.5C2",
   "FB2EM5D0.5B7 FB2FM5D0.5B8 FB30M5D0.5BC FB31M5D1.5BC FB32M5D2.5BC FB33M5D3.5BC FB34M5D4.5BC",
   "FB35M5D5.5BC FB36M5D6.5BC FB37X FB38M5D8.5BC FB39M5D9.5BC FB3AM5DA.5BC FB3BM5DB.5BC FB3CM5DC.5BC",
   "FB3DX FB3EM5DE.5BC FB3FX FB40M5E0.5BC FB41M5E1.5BC FB42X FB43M5E3.5BC FB44M5E4.5BC FB45X",
   "FB46M5E6.5BC FB47M5E7.5BC FB48M5E8.5BC FB49M5E9.5BC FB4AM5EA.5BC FB4BM5D5.5B9 FB4CM5D1.5BF",
   "FB4DM5DB.5BF FB4EM5E4.5BF FB4FM5D0.5DC FB50M671 FB51M671 FB52M67B FB53M67B FB54M67B FB55M67B",
   "FB56M67E FB57M67E FB58M67E FB59M67E FB5AM680 FB5BM680 FB5CM680 FB5DM680 FB5EM67A FB5FM67A",
   "FB60M67A FB61M67A FB62M67F FB63M67F FB64M67F FB65M67F FB66M679 FB67M679 FB68M679 FB69M679",
   "FB6AM6A4 FB6BM6A4 FB6CM6A4 FB6DM6A4 FB6EM6A6 FB6FM6A6 FB70M6A6 FB71M6A6 FB72M684 FB73M684",
   "FB74M684 FB75M684 FB76M683 FB77M683 FB78M683 FB79M683 FB7AM686 FB7BM686 FB7CM686 FB7DTF4F7",
   "FB7FM687 FB80M687 FB81M687 FB82M68D FB83M68D FB84M68C FB85M68C FB86M68E FB87M68E FB88M688",
   "FB89M688 FB8AM698 FB8BM698 FB8CM691 FB8DM691 FB8EM6A9 FB8FM6A9 FB90M6A9 FB91M6A9 FB92M6AF",
   "FB93M6AF FB94M6AF FB95M6AF FB96M6B3 FB97M6B3 FB98M6B3 FB99M6B3 FB9AM6B1 FB9BM6B1 FB9CM6B1",
   "FB9DM6B1 FB9EM6BA FB9FTF4E5 FBA1M6BB FBA2M6BB FBA3M6BB FBA4M6C0 FBA5TF4E5 FBA7M6C1 FBA8M6C1",
   "FBA9M6C1 FBAAM6BE FBABM6BE FBACM6BE FBADM6BE FBAEM6D2 FBAFTF4DD FBB1M6D3 FBB2V FBD3M6AD FBD4M6AD",
   "FBD5M6AD FBD6M6AD FBD7M6C7 FBD8M6C7 FBD9M6C6 FBDAM6C6 FBDBM6C8 FBDCM6C8 FBDDM6C7.674 FBDEM6CB",
   "FBDFM6CB FBE0M6C5 FBE1M6C5 FBE2M6C9 FBE3M6C9 FBE4M6D0 FBE5M6D0 FBE6M6D0 FBE7M6D0 FBE8M649",
   "FBE9M649 FBEAM626.627 FBECM626.6D5 FBEEM626.648 FBF0M626.6C7 FBF2M626.6C6 FBF4M626.6C8",
   "FBF6M626.6D0 FBF9M626.649 FBFCM6CC FBFDM6CC FBFEM6CC FBFFM6CC FC00M626.62C FC01M626.62D",
   "FC02M626.645 FC03M626.649 FC04M626.64A FC05M628.62C FC06M628.62D FC07M628.62E FC08M628.645",
   "FC09M628.649 FC0AM628.64A FC0BM62A.62C FC0CM62A.62D FC0DM62A.62E FC0EM62A.645 FC0FM62A.649",
   "FC10M62A.64A FC11M62B.62C FC12M62B.645 FC13M62B.649 FC14M62B.64A FC15M62C.62D FC16M62C.645",
   "FC17M62D.62C FC18M62D.645 FC19M62E.62C FC1AM62E.62D FC1BM62E.645 FC1CM633.62C FC1DM633.62D",
   "FC1EM633.62E FC1FM633.645 FC20M635.62D FC21M635.645 FC22M636.62C FC23M636.62D FC24M636.62E",
   "FC25M636.645 FC26M637.62D FC27M637.645 FC28M638.645 FC29M639.62C FC2AM639.645 FC2BM63A.62C",
   "FC2CM63A.645 FC2DM641.62C FC2EM641.62D FC2FM641.62E FC30M641.645 FC31M641.649 FC32M641.64A",
   "FC33M642.62D FC34M642.645 FC35M642.649 FC36M642.64A FC37M643.627 FC38M643.62C FC39M643.62D",
   "FC3AM643.62E FC3BM643.644 FC3CM643.645 FC3DM643.649 FC3EM643.64A FC3FM644.62C FC40M644.62D",
   "FC41M644.62E FC42M644.645 FC43M644.649 FC44M644.64A FC45M645.62C FC46M645.62D FC47M645.62E",
   "FC48M645.645 FC49M645.649 FC4AM645.64A FC4BM646.62C FC4CM646.62D FC4DM646.62E FC4EM646.645",
   "FC4FM646.649 FC50M646.64A FC51M647.62C FC52M647.645 FC53M647.649 FC54M647.64A FC55M64A.62C",
   "FC56M64A.62D FC57M64A.62E FC58M64A.645 FC59M64A.649 FC5AM64A.64A FC5BM630.670 FC5CM631.670",
   "FC5DM649.670 FC5EM20.64C.651 FC5FM20.64D.651 FC60M20.64E.651 FC61M20.64F.651 FC62M20.650.651",
   "FC63M20.651.670 FC64M626.631 FC65M626.632 FC66M626.645 FC67M626.646 FC68M626.649 FC69M626.64A",
   "FC6AM628.631 FC6BM628.632 FC6CM628.645 FC6DM628.646 FC6EM628.649 FC6FM628.64A FC70M62A.631",
   "FC71M62A.632 FC72M62A.645 FC73M62A.646 FC74M62A.649 FC75M62A.64A FC76M62B.631 FC77M62B.632",
   "FC78M62B.645 FC79M62B.646 FC7AM62B.649 FC7BM62B.64A FC7CM641.649 FC7DM641.64A FC7EM642.649",
   "FC7FM642.64A FC80M643.627 FC81M643.644 FC82M643.645 FC83M643.649 FC84M643.64A FC85M644.645",
   "FC86M644.649 FC87M644.64A FC88M645.627 FC89M645.645 FC8AM646.631 FC8BM646.632 FC8CM646.645",
   "FC8DM646.646 FC8EM646.649 FC8FM646.64A FC90M649.670 FC91M64A.631 FC92M64A.632 FC93M64A.645",
   "FC94M64A.646 FC95M64A.649 FC96M64A.64A FC97M626.62C FC98M626.62D FC99M626.62E FC9AM626.645",
   "FC9BM626.647 FC9CM628.62C FC9DM628.62D FC9EM628.62E FC9FM628.645 FCA0M628.647 FCA1M62A.62C",
   "FCA2M62A.62D FCA3M62A.62E FCA4M62A.645 FCA5M62A.647 FCA6M62B.645 FCA7M62C.62D FCA8M62C.645",
   "FCA9M62D.62C FCAAM62D.645 FCABM62E.62C FCACM62E.645 FCADM633.62C FCAEM633.62D FCAFM633.62E",
   "FCB0M633.645 FCB1M635.62D FCB2M635.62E FCB3M635.645 FCB4M636.62C FCB5M636.62D FCB6M636.62E",
   "FCB7M636.645 FCB8M637.62D FCB9M638.645 FCBAM639.62C FCBBM639.645 FCBCM63A.62C FCBDM63A.645",
   "FCBEM641.62C FCBFM641.62D FCC0M641.62E FCC1M641.645 FCC2M642.62D FCC3M642.645 FCC4M643.62C",
   "FCC5M643.62D FCC6M643.62E FCC7M643.644 FCC8M643.645 FCC9M644.62C FCCAM644.62D FCCBM644.62E",
   "FCCCM644.645 FCCDM644.647 FCCEM645.62C FCCFM645.62D FCD0M645.62E FCD1M645.645 FCD2M646.62C",
   "FCD3M646.62D FCD4M646.62E FCD5M646.645 FCD6M646.647 FCD7M647.62C FCD8M647.645 FCD9M647.670",
   "FCDAM64A.62C FCDBM64A.62D FCDCM64A.62E FCDDM64A.645 FCDEM64A.647 FCDFM626.645 FCE0M626.647",
   "FCE1M628.645 FCE2M628.647 FCE3M62A.645 FCE4M62A.647 FCE5M62B.645 FCE6M62B.647 FCE7M633.645",
   "FCE8M633.647 FCE9M634.645 FCEAM634.647 FCEBM643.644 FCECM643.645 FCEDM644.645 FCEEM646.645",
   "FCEFM646.647 FCF0M64A.645 FCF1M64A.647 FCF2M640.64E.651 FCF3M640.64F.651 FCF4M640.650.651",
   "FCF5M637.649 FCF6M637.64A FCF7M639.649 FCF8M639.64A FCF9M63A.649 FCFAM63A.64A FCFBM633.649",
   "FCFCM633.64A FCFDM634.649 FCFEM634.64A FCFFM62D.649 FD00M62D.64A FD01M62C.649 FD02M62C.64A",
   "FD03M62E.649 FD04M62E.64A FD05M635.649 FD06M635.64A FD07M636.649 FD08M636.64A FD09M634.62C",
   "FD0AM634.62D FD0BM634.62E FD0CM634.645 FD0DM634.631 FD0EM633.631 FD0FM635.631 FD10M636.631",
   "FD11M637.649 FD12M637.64A FD13M639.649 FD14M639.64A FD15M63A.649 FD16M63A.64A FD17M633.649",
   "FD18M633.64A FD19M634.649 FD1AM634.64A FD1BM62D.649 FD1CM62D.64A FD1DM62C.649 FD1EM62C.64A",
   "FD1FM62E.649 FD20M62E.64A FD21M635.649 FD22M635.64A FD23M636.649 FD24M636.64A FD25M634.62C",
   "FD26M634.62D FD27M634.62E FD28M634.645 FD29M634.631 FD2AM633.631 FD2BM635.631 FD2CM636.631",
   "FD2DM634.62C FD2EM634.62D FD2FM634.62E FD30M634.645 FD31M633.647 FD32M634.647 FD33M637.645",
   "FD34M633.62C FD35M633.62D FD36M633.62E FD37M634.62C FD38M634.62D FD39M634.62E FD3AM637.645",
   "FD3BM638.645 FD3CM627.64B FD3EV FD50M62A.62C.645 FD51M62A.62D.62C FD53M62A.62D.645",
   "FD54M62A.62E.645 FD55M62A.645.62C FD56M62A.645.62D FD57M62A.645.62E FD58M62C.645.62D",
   "FD5AM62D.645.64A FD5BM62D.645.649 FD5CM633.62D.62C FD5DM633.62C.62D FD5EM633.62C.649",
   "FD5FM633.645.62D FD61M633.645.62C FD62M633.645.645 FD64M635.62D.62D FD66M635.645.645",
   "FD67M634.62D.645 FD69M634.62C.64A FD6AM634.645.62E FD6CM634.645.645 FD6EM636.62D.649",
   "FD6FM636.62E.645 FD71M637.645.62D FD73M637.645.645 FD74M637.645.64A FD75M639.62C.645",
   "FD76M639.645.645 FD78M639.645.649 FD79M63A.645.645 FD7AM63A.645.64A FD7BM63A.645.649",
   "FD7CM641.62E.645 FD7EM642.645.62D FD7FM642.645.645 FD80M644.62D.645 FD81M644.62D.64A",
   "FD82M644.62D.649 FD83M644.62C.62C FD85M644.62E.645 FD87M644.645.62D FD89M645.62D.62C",
   "FD8AM645.62D.645 FD8BM645.62D.64A FD8CM645.62C.62D FD8DM645.62C.645 FD8EM645.62E.62C",
   "FD8FM645.62E.645 FD90V FD92M645.62C.62E FD93M647.645.62C FD94M647.645.645 FD95M646.62D.645",
   "FD96M646.62D.649 FD97M646.62C.645 FD99M646.62C.649 FD9AM646.645.64A FD9BM646.645.649",
   "FD9CM64A.645.645 FD9EM628.62E.64A FD9FM62A.62C.64A FDA0M62A.62C.649 FDA1M62A.62E.64A",
   "FDA2M62A.62E.649 FDA3M62A.645.64A FDA4M62A.645.649 FDA5M62C.645.64A FDA6M62C.62D.649",
   "FDA7M62C.645.649 FDA8M633.62E.649 FDA9M635.62D.64A FDAAM634.62D.64A FDABM636.62D.64A",
   "FDACM644.62C.64A FDADM644.645.64A FDAEM64A.62D.64A FDAFM64A.62C.64A FDB0M64A.645.64A",
   "FDB1M645.645.64A FDB2M642.645.64A FDB3M646.62D.64A FDB4M642.645.62D FDB5M644.62D.645",
   "FDB6M639.645.64A FDB7M643.645.64A FDB8M646.62C.62D FDB9M645.62E.64A FDBAM644.62C.645",
   "FDBBM643.645.645 FDBCM644.62C.645 FDBDM646.62C.62D FDBEM62C.62D.64A FDBFM62D.62C.64A",
   "FDC0M645.62C.64A FDC1M641.645.64A FDC2M628.62D.64A FDC3M643.645.645 FDC4M639.62C.645",
   "FDC5M635.645.645 FDC6M633.62E.64A FDC7M646.62C.64A FDC8V FDD0X FDF0M635.644.6D2 FDF1M642.644.6D2",
   "FDF2M627.644.644.647 FDF3M627.643.628.631 FDF4M645.62D.645.62F FDF5M635.644.639.645",
   "FDF6M631.633.648.644 FDF7M639.644.64A.647 FDF8M648.633.644.645 FDF9M635.644.649",
   "FDFAM635.644.649.20.627.644.644.647.20.639.644.64A.647.20.648.633.644.645",
   "FDFBM62C.644.20.62C.644.627.644.647 FDFCM631.6CC.627.644 FDFDV FE00I FE10M2C FE11M3001 FE12X",
   "FE13TFDD9 FE15M21 FE16M3F FE17TCE01 FE19X FE20V FE30X FE31M2014 FE32M2013 FE33M5F FE34M5F",
   "FE35TFE0D FE37M7B FE38M7D FE39TCE25 FE3BTCE2B FE3DTCE33 FE3FTCE37 FE41TCE35 FE45V FE47M5B",
   "FE48M5D FE49M20.305 FE4DM5F FE4EM5F FE4FM5F FE50M2C FE51M3001 FE52X FE54M3B FE55M3A FE56M3F",
   "FE57M21 FE58M2014 FE59TFE31 FE5BM7B FE5CM7D FE5DTCE49 FE5FM23 FE60M26 FE61TFE37 FE63M2D FE64M3C",
   "FE65M3E FE66M3D FE67X FE68M5C FE69TFE45 FE6BM40 FE6CX FE70M20.64B FE71M640.64B FE72M20.64C FE73V",
   "FE74M20.64D FE75X FE76M20.64E FE77M640.64E FE78M20.64F FE79M640.64F FE7AM20.650 FE7BM640.650",
   "FE7CM20.651 FE7DM640.651 FE7EM20.652 FE7FM640.652 FE80TF85F FE82TF860 FE84TF861 FE86TF862",
   "FE88TF863 FE8AM626 FE8BM626 FE8CTF866 FE8ETF867 FE90M628 FE91M628 FE92TF86A FE94TF86B FE96M62A",
   "FE97M62A FE98TF86E FE9AM62B FE9BM62B FE9CTF871 FE9EM62C FE9FM62C FEA0TF874 FEA2M62D FEA3M62D",
   "FEA4TF877 FEA6M62E FEA7M62E FEA8TF87A FEAATF87B FEACTF87C FEAETF87D FEB0TF87E FEB2M633 FEB3M633",
   "FEB4TF881 FEB6M634 FEB7M634 FEB8TF884 FEBAM635 FEBBM635 FEBCTF887 FEBEM636 FEBFM636 FEC0TF88A",
   "FEC2M637 FEC3M637 FEC4TF88D FEC6M638 FEC7M638 FEC8TF890 FECAM639 FECBM639 FECCTF893 FECEM63A",
   "FECFM63A FED0M63A FED1M641 FED2M641 FED3M641 FED4TF893 FED6M642 FED7M642 FED8TF896 FEDAM643",
   "FEDBM643 FEDCTF899 FEDEM644 FEDFM644 FEE0TF89C FEE2M645 FEE3M645 FEE4TF89F FEE6M646 FEE7M646",
   "FEE8TF8A2 FEEAM647 FEEBM647 FEECTF8A5 FEEETF8A6 FEF0TF8A7 FEF2M64A FEF3M64A FEF4M64A",
   "FEF5M644.622 FEF7M644.623 FEF9M644.625 FEFBM644.627 FEFDX FEFFI FF00X FF01TFEE0 FF21TFEC0",
   "FF3BTFEE0 FF5FTD5DA FF61M2E FF62TCF56 FF64M3001 FF65M30FB FF66M30F2 FF67M30A1 FF68M30A3",
   "FF69M30A5 FF6AM30A7 FF6BM30A9 FF6CM30E3 FF6DM30E5 FF6EM30E7 FF6FM30C3 FF70M30FC FF71M30A2",
   "FF72M30A4 FF73M30A6 FF74M30A8 FF75TCECB FF77M30AD FF78M30AF FF79M30B1 FF7AM30B3 FF7BM30B5",
   "FF7CM30B7 FF7DM30B9 FF7EM30BB FF7FM30BD FF80M30BF FF81M30C1 FF82M30C4 FF83M30C6 FF84M30C8",
   "FF85TCEBB FF8BM30D2 FF8CM30D5 FF8DM30D8 FF8EM30DB FF8FTCEB1 FF94M30E4 FF95M30E6 FF96TCEAE",
   "FF9CM30EF FF9DM30F3 FF9ETCF05 FFA0I FFA1TEEA1 FFA3M11AA FFA4M1102 FFA5TEDF9 FFA7TEEA4 FFAATEDFA",
   "FFB0M111A FFB1TEEAB FFB4M1121 FFB5TEEAC FFBFX FFC2TEE61 FFC8X FFCATEE63 FFD0X FFD2TEE65 FFD8X",
   "FFDATEE67 FFDDX FFE0TFF3E FFE2MAC FFE3M20.304 FFE4MA6 FFE5MA5 FFE6M20A9 FFE7X FFE8M2502",
   "FFE9TDE59 FFEDM25A0 FFEEM25CB FFEFX 10000V 1000CX 1000DV 10027X 10028V 1003BX 1003CV 1003EX",
   "1003FV 1004EX 10050V 1005EX 10080V 100FBX 10100V 10103X 10107V 10134X 10137V 1018FX 10190V",
   "1019DX 101A0V 101A1X 101D0V 101FEX 10280V 1029DX 102A0V 102D1X 102E0V 102FCX 10300V 10324X",
   "1032DV 1034BX 10350V 1037BX 10380V 1039EX 1039FV 103C4X 103C8V 103D6X 10400S28 10428V 1049EX",
   "104A0V 104AAX 104B0S28 104D4X 104D8V 104FCX 10500V 10528X 10530V 10564X 1056FV 10570S27 1057BX",
   "1057CS27 1058BX 1058CS27 10593X 10594S27 10596X 10597V 105A2X 105A3V 105B2X 105B3V 105BAX 105BBV",
   "105BDX 105C0V 105F4X 10600V 10737X 10740V 10756X 10760V 10768X 10780V 10781T104B1 10783ME6",
   "10784M299 10785M253 10786X 10787M2A3 10788MAB66 10789M2A5 1078AM2A4 1078BT10535 1078DM1D91",
   "1078EM258 1078FM25E 10790M2A9 10791M264 10792M262 10793M260 10794M29B 10795M127 10796M29C",
   "10797M267 10798M284 10799T104EF 1079BM26C 1079CM1DF04 1079DMA78E 1079EM26E 1079FM1DF05 107A0M28E",
   "107A1M1DF06 107A2MF8 107A3T1052D 107A5M71 107A6M27A 107A7M1DF08 107A8T1052B 107AAM280 107ABM2A8",
   "107ACM2A6 107ADMAB67 107AEM2A7 107AFM288 107B0M2C71 107B1X 107B2M28F 107B3T10512 107B5M298",
   "107B6T105F6 107B9M1DF0A 107BAM1DF1E 107BBX 10800V 10806X 10808V 10809X 1080AV 10836X 10837V",
   "10839X 1083CV 1083DX 1083FV 10856X 10857V 1089FX 108A7V 108B0X 108E0V 108F3X 108F4V 108F6X",
   "108FBV 1091CX 1091FV 1093AX 1093FV 1095AX 10980V 109B8X 109BCV 109D0X 109D2V 10A04X 10A05V",
   "10A07X 10A0CV 10A14X 10A15V 10A18X 10A19V 10A36X 10A38V 10A3BX 10A3FV 10A49X 10A50V 10A59X",
   "10A60V 10AA0X 10AC0V 10AE7X 10AEBV 10AF7X 10B00V 10B36X 10B39V 10B56X 10B58V 10B73X 10B78V",
   "10B92X 10B99V 10B9DX 10BA9V 10BB0X 10C00V 10C49X 10C80S40 10CB3X 10CC0V 10CF3X 10CFAV 10D28X",
   "10D30V 10D3AX 10D40V 10D50S20 10D66X 10D69V 10D86X 10D8EV 10D90X 10E60V 10E7FX 10E80V 10EAAX",
   "10EABV 10EAEX 10EB0V 10EB2X 10EC2V 10EC8X 10ED0V 10ED9X 10EFAV 10F28X 10F30V 10F5AX 10F70V",
   "10F8AX 10FB0V 10FCCX 10FE0V 10FF7X 11000V 1104EX 11052V 11076X 1107FV 110BDX 110BEV 110C3X",
   "110D0V 110E9X 110F0V 110FAX 11100V 11135X 11136V 11148X 11150V 11177X 11180V 111E0X 111E1V",
   "111F5X 11200V 11212X 11213V 11242X 11280V 11287X 11288V 11289X 1128AV 1128EX 1128FV 1129EX",
   "1129FV 112AAX 112B0V 112EBX 112F0V 112FAX 11300V 11304X 11305V 1130DX 1130FV 11311X 11313V",
   "11329X 1132AV 11331X 11332V 11334X 11335V 1133AX 1133BV 11345X 11347V 11349X 1134BV 1134EX",
   "11350V 11351X 11357V 11358X 1135DV 11364X 11366V 1136DX 11370V 11375X 11380V 1138AX 1138BV",
   "1138CX 1138EV 1138FX 11390V 113B6X 113B7V 113C1X 113C2V 113C3X 113C5V 113C6X 113C7V 113CBX",
   "113CCV 113D6X 113D7V 113D9X 113E1V 113E3X 11400V 1145CX 1145DV 11462X 11480V 114C8X 114D0V",
   "114DAX 11580V 115B6X 115B8V 115DEX 11600V 11645X 11650V 1165AX 11660V 1166DX 11680V 116BAX",
   "116C0V 116CAX 116D0V 116E4X 11700V 1171BX 1171DV 1172CX 11730V 11747X 11800V 1183CX 118A0S20",
   "118C0V 118F3X 118FFV 11907X 11909V 1190AX 1190CV 11914X 11915V 11917X 11918V 11936X 11937V",
   "11939X 1193BV 11947X 11950V 1195AX 119A0V 119A8X 119AAV 119D8X 119DAV 119E5X 11A00V 11A48X",
   "11A50V 11AA3X 11AB0V 11AF9X 11B00V 11B0AX 11B60V 11B68X 11BC0V 11BE2X 11BF0V 11BFAX 11C00V",
   "11C09X 11C0AV 11C37X 11C38V 11C46X 11C50V 11C6DX 11C70V 11C90X 11C92V 11CA8X 11CA9V 11CB7X",
   "11D00V 11D07X 11D08V 11D0AX 11D0BV 11D37X 11D3AV 11D3BX 11D3CV 11D3EX 11D3FV 11D48X 11D50V",
   "11D5AX 11D60V 11D66X 11D67V 11D69X 11D6AV 11D8FX 11D90V 11D92X 11D93V 11D99X 11DA0V 11DAAX",
   "11DB0V 11DDCX 11DE0V 11DEAX 11EE0V 11EF9X 11F00V 11F11X 11F12V 11F3BX 11F3EV 11F5BX 11FB0V",
   "11FB1X 11FC0V 11FF2X 11FFFV 1239AX 12400V 1246FX 12470V 12475X 12480V 12544X 12F90V 12FF3X",
   "13000V 13430X 13440V 13456X 13460V 143FBX 14400V 14647X 16100V 1613AX 16800V 16A39X 16A40V",
   "16A5FX 16A60V 16A6AX 16A6EV 16ABFX 16AC0V 16ACAX 16AD0V 16AEEX 16AF0V 16AF6X 16B00V 16B46X",
   "16B50V 16B5AX 16B5BV 16B62X 16B63V 16B78X 16B7DV 16B90X 16D40V 16D7AX 16E40S20 16E60V 16E9BX",
   "16EA0S1B 16EB9X 16EBBV 16ED4X 16F00V 16F4BX 16F4FV 16F88X 16F8FV 16FA0X 16FE0V 16FE5X 16FF0V",
   "16FF7X 17000V 18CD6X 18CFFV 18D1FX 18D80V 18DF3X 1AFF0V 1AFF4X 1AFF5V 1AFFCX 1AFFDV 1AFFFX",
   "1B000V 1B123X 1B132V 1B133X 1B150V 1B153X 1B155V 1B156X 1B164V 1B168X 1B170V 1B2FCX 1BC00V",
   "1BC6BX 1BC70V 1BC7DX 1BC80V 1BC89X 1BC90V 1BC9AX 1BC9CV 1BCA0I 1BCA4X 1CC00V 1CCD6T1CC75",
   "1CCF0T1CCC0 1CCFAV 1CCFDX 1CD00V 1CEB4X 1CEBAV 1CED1X 1CEE0V 1CEF1X 1CF00V 1CF2EX 1CF30V 1CF47X",
   "1CF50V 1CFC4X 1D000V 1D0F6X 1D100V 1D127X 1D129V 1D15EM1D157.1D165 1D15FM1D158.1D165",
   "1D160M1D158.1D165.1D16E 1D161M1D158.1D165.1D16F 1D162M1D158.1D165.1D170 1D163M1D158.1D165.1D171",
   "1D164M1D158.1D165.1D172 1D165V 1D173I 1D17BV 1D1BBM1D1B9.1D165 1D1BCM1D1BA.1D165",
   "1D1BDM1D1B9.1D165.1D16E 1D1BEM1D1BA.1D165.1D16E 1D1BFM1D1B9.1D165.1D16F 1D1C0M1D1BA.1D165.1D16F",
   "1D1C1V 1D1EBX 1D200V 1D246X 1D2C0V 1D2D4X 1D2E0V 1D2F4X 1D300V 1D357X 1D360V 1D379X 1D400T1D39F",
   "1D41AT1D3B9 1D434T1D3D3 1D44ET1D3ED 1D455X 1D456T1D3ED 1D468T1D407 1D482T1D421 1D49CM61 1D49DX",
   "1D49ET1D43B 1D4A0X 1D4A2M67 1D4A3X 1D4A5T1D43B 1D4A7X 1D4A9T1D43B 1D4ADX 1D4AET1D43B 1D4B6T1D455",
   "1D4BAX 1D4BBM66 1D4BCX 1D4BDT1D455 1D4C4X 1D4C5T1D455 1D4D0T1D46F 1D4EAT1D489 1D504T1D4A3 1D506X",
   "1D507T1D4A3 1D50BX 1D50DT1D4A3 1D515X 1D516T1D4A3 1D51DX 1D51ET1D4BD 1D538T1D4D7 1D53AX",
   "1D53BT1D4D7 1D53FX 1D540T1D4D7 1D545X 1D546M6F 1D547X 1D54AT1D4D7 1D551X 1D552T1D4F1 1D56CT1D50B",
   "1D586T1D525 1D5A0T1D53F 1D5BAT1D559 1D5D4T1D573 1D5EET1D58D 1D608T1D5A7 1D622T1D5C1 1D63CT1D5DB",
   "1D656T1D5F5 1D670T1D60F 1D68AT1D629 1D6A4M131 1D6A5M237 1D6A6X 1D6A8T1D2F7 1D6B9M3B8 1D6BAT1D2F7",
   "1D6C1M2207 1D6C2T1D311 1D6D3M3C3 1D6D4T1D311 1D6DBM2202 1D6DCM3B5 1D6DDM3B8 1D6DEM3BA 1D6DFM3C6",
   "1D6E0M3C1 1D6E1M3C0 1D6E2T1D331 1D6F3M3B8 1D6F4T1D331 1D6FBM2207 1D6FCT1D34B 1D70DM3C3",
   "1D70ET1D34B 1D715M2202 1D716M3B5 1D717M3B8 1D718M3BA 1D719M3C6 1D71AM3C1 1D71BM3C0 1D71CT1D36B",
   "1D72DM3B8 1D72ET1D36B 1D735M2207 1D736T1D385 1D747M3C3 1D748T1D385 1D74FM2202 1D750M3B5",
   "1D751M3B8 1D752M3BA 1D753M3C6 1D754M3C1 1D755M3C0 1D756T1D3A5 1D767M3B8 1D768T1D3A5 1D76FM2207",
   "1D770T1D3BF 1D781M3C3 1D782T1D3BF 1D789M2202 1D78AM3B5 1D78BM3B8 1D78CM3BA 1D78DM3C6 1D78EM3C1",
   "1D78FM3C0 1D790T1D3DF 1D7A1M3B8 1D7A2T1D3DF 1D7A9M2207 1D7AAT1D3F9 1D7BBM3C3 1D7BCT1D3F9",
   "1D7C3M2202 1D7C4M3B5 1D7C5M3B8 1D7C6M3BA 1D7C7M3C6 1D7C8M3C1 1D7C9M3C0 1D7CAM3DD 1D7CBM3DD",
   "1D7CCX 1D7CET1D79E 1D7D8T1D7A8 1D7E2T1D7B2 1D7ECT1D7BC 1D7F6T1D7C6 1D800V 1DA8CX 1DA9BV 1DAA0X",
   "1DAA1V 1DAB0X 1DF00V 1DF1FX 1DF25V 1DF2BX 1E000V 1E007X 1E008V 1E019X 1E01BV 1E022X 1E023V",
   "1E025X 1E026V 1E02BX 1E030T1DC00 1E039T1DBFF 1E03CT1DBFE 1E047M44B 1E048T1DBFB 1E04AMA689",
   "1E04BM4D9 1E04CM456 1E04DM458 1E04EM4E9 1E04FM4AF 1E050M4CF 1E051T1DC21 1E05AT1DC20 1E05CT1DC1E",
   "1E05EM441 1E05FT1DC1C 1E065T1DC1B 1E067M491 1E068M456 1E069M455 1E06AM45F 1E06BM4AB 1E06CMA651",
   "1E06DM4B1 1E06EX 1E08FV 1E090X 1E100V 1E12DX 1E130V 1E13EX 1E140V 1E14AX 1E14EV 1E150X 1E290V",
   "1E2AFX 1E2C0V 1E2FAX 1E2FFV 1E300X 1E4D0V 1E4FAX 1E5D0V 1E5FBX 1E5FFV 1E600X 1E6C0V 1E6DFX",
   "1E6E0V 1E6F6X 1E6FEV 1E700X 1E7E0V 1E7E7X 1E7E8V 1E7ECX 1E7EDV 1E7EFX 1E7F0V 1E7FFX 1E800V",
   "1E8C5X 1E8C7V 1E8D7X 1E900S22 1E922V 1E94CX 1E950V 1E95AX 1E95EV 1E960X 1EC71V 1ECB5X 1ED01V",
   "1ED3EX 1EE00T1E7D9 1EE02M62C 1EE03M62F 1EE04X 1EE05M648 1EE06M632 1EE07M62D 1EE08M637 1EE09M64A",
   "1EE0AT1E7C7 1EE0EM633 1EE0FM639 1EE10M641 1EE11M635 1EE12M642 1EE13M631 1EE14M634 1EE15T1E7EB",
   "1EE17M62E 1EE18M630 1EE19M636 1EE1AM638 1EE1BM63A 1EE1CM66E 1EE1DM6BA 1EE1EM6A1 1EE1FM66F 1EE20X",
   "1EE21M628 1EE22M62C 1EE23X 1EE24M647 1EE25X 1EE27M62D 1EE28X 1EE29M64A 1EE2AT1E7E7 1EE2EM633",
   "1EE2FM639 1EE30M641 1EE31M635 1EE32M642 1EE33X 1EE34M634 1EE35T1E80B 1EE37M62E 1EE38X 1EE39M636",
   "1EE3AX 1EE3BM63A 1EE3CX 1EE42M62C 1EE43X 1EE47M62D 1EE48X 1EE49M64A 1EE4AX 1EE4BM644 1EE4CX",
   "1EE4DM646 1EE4EM633 1EE4FM639 1EE50X 1EE51M635 1EE52M642 1EE53X 1EE54M634 1EE55X 1EE57M62E",
   "1EE58X 1EE59M636 1EE5AX 1EE5BM63A 1EE5CX 1EE5DM6BA 1EE5EX 1EE5FM66F 1EE60X 1EE61M628 1EE62M62C",
   "1EE63X 1EE64M647 1EE65X 1EE67M62D 1EE68M637 1EE69M64A 1EE6AM643 1EE6BX 1EE6CT1E827 1EE6EM633",
   "1EE6FM639 1EE70M641 1EE71M635 1EE72M642 1EE73X 1EE74M634 1EE75T1E84B 1EE77M62E 1EE78X 1EE79M636",
   "1EE7AM638 1EE7BM63A 1EE7CM66E 1EE7DX 1EE7EM6A1 1EE7FX 1EE80T1E859 1EE82M62C 1EE83M62F",
   "1EE84T1E83D 1EE86M632 1EE87M62D 1EE88M637 1EE89M64A 1EE8AX 1EE8BT1E847 1EE8EM633 1EE8FM639",
   "1EE90M641 1EE91M635 1EE92M642 1EE93M631 1EE94M634 1EE95T1E86B 1EE97M62E 1EE98M630 1EE99M636",
   "1EE9AM638 1EE9BM63A 1EE9CX 1EEA1M628 1EEA2M62C 1EEA3M62F 1EEA4X 1EEA5M648 1EEA6M632 1EEA7M62D",
   "1EEA8M637 1EEA9M64A 1EEAAX 1EEABT1E867 1EEAEM633 1EEAFM639 1EEB0M641 1EEB1M635 1EEB2M642",
   "1EEB3M631 1EEB4M634 1EEB5T1E88B 1EEB7M62E 1EEB8M630 1EEB9M636 1EEBAM638 1EEBBM63A 1EEBCX 1EEF0V",
   "1EEF2X 1F000V 1F02CX 1F030V 1F094X 1F0A0V 1F0AFX 1F0B1V 1F0C0X 1F0C1V 1F0D0X 1F0D1V 1F0F6X",
   "1F101M30.2C 1F102M31.2C 1F103M32.2C 1F104M33.2C 1F105M34.2C 1F106M35.2C 1F107M36.2C 1F108M37.2C",
   "1F109M38.2C 1F10AM39.2C 1F10BV 1F110M28.61.29 1F111M28.62.29 1F112M28.63.29 1F113M28.64.29",
   "1F114M28.65.29 1F115M28.66.29 1F116M28.67.29 1F117M28.68.29 1F118M28.69.29 1F119M28.6A.29",
   "1F11AM28.6B.29 1F11BM28.6C.29 1F11CM28.6D.29 1F11DM28.6E.29 1F11EM28.6F.29 1F11FM28.70.29",
   "1F120M28.71.29 1F121M28.72.29 1F122M28.73.29 1F123M28.74.29 1F124M28.75.29 1F125M28.76.29",
   "1F126M28.77.29 1F127M28.78.29 1F128M28.79.29 1F129M28.7A.29 1F12AM3014.73.3015 1F12BM63 1F12CM72",
   "1F12DM63.64 1F12EM77.7A 1F12FV 1F130T1F0CF 1F14AM68.76 1F14BM6D.76 1F14CM73.64 1F14DM73.73",
   "1F14EM70.70.76 1F14FM77.63 1F150V 1F16AM6D.63 1F16BM6D.64 1F16CM6D.72 1F16DV 1F190M64.6A 1F191V",
   "1F1AEX 1F1E6V 1F200M307B.304B 1F201M30B3.30B3 1F202M30B5 1F203X 1F210M624B 1F211M5B57 1F212M53CC",
   "1F213M30C7 1F214M4E8C 1F215M591A 1F216M89E3 1F217M5929 1F218M4EA4 1F219M6620 1F21AM7121",
   "1F21BM6599 1F21CM524D 1F21DM5F8C 1F21EM518D 1F21FM65B0 1F220M521D 1F221M7D42 1F222M751F",
   "1F223M8CA9 1F224M58F0 1F225M5439 1F226M6F14 1F227M6295 1F228M6355 1F229M4E00 1F22AM4E09",
   "1F22BM904A 1F22CM5DE6 1F22DM4E2D 1F22EM53F3 1F22FM6307 1F230M8D70 1F231M6253 1F232M7981",
   "1F233M7A7A 1F234M5408 1F235M6E80 1F236M6709 1F237M6708 1F238M7533 1F239M5272 1F23AM55B6",
   "1F23BM914D 1F23CX 1F240M3014.672C.3015 1F241M3014.4E09.3015 1F242M3014.4E8C.3015",
   "1F243M3014.5B89.3015 1F244M3014.70B9.3015 1F245M3014.6253.3015 1F246M3014.76D7.3015",
   "1F247M3014.52DD.3015 1F248M3014.6557.3015 1F249X 1F250M5F97 1F251M53EF 1F252X 1F260V 1F266X",
   "1F300V 1F6D9X 1F6DCV 1F6EDX 1F6F0V 1F6FDX 1F700V 1F7DAX 1F7E0V 1F7ECX 1F7F0V 1F7F1X 1F800V",
   "1F80CX 1F810V 1F848X 1F850V 1F85AX 1F860V 1F888X 1F890V 1F8AEX 1F8B0V 1F8BCX 1F8C0V 1F8C2X",
   "1F8D0V 1F8D9X 1F900V 1FA58X 1FA60V 1FA6EX 1FA70V 1FA7DX 1FA80V 1FA8BX 1FA8EV 1FAC7X 1FAC8V",
   "1FAC9X 1FACDV 1FADDX 1FADFV 1FAEBX 1FAEFV 1FAF9X 1FB00V 1FB93X 1FB94V 1FBF0T1FBC0 1FBFAV 1FBFBX",
   "20000V 2A6E0X 2A700V 2B81EX 2B820V 2CEAEX 2CEB0V 2EBE1X 2EBF0V 2EE5EX 2F800M4E3D 2F801M4E38",
   "2F802M4E41 2F803M20122 2F804M4F60 2F805M4FAE 2F806M4FBB 2F807M5002 2F808M507A 2F809M5099",
   "2F80AM50E7 2F80BM50CF 2F80CM349E 2F80DM2063A 2F80EM514D 2F80FM5154 2F810M5164 2F811M5177",
   "2F812M2051C 2F813M34B9 2F814M5167 2F815M518D 2F816M2054B 2F817M5197 2F818M51A4 2F819M4ECC",
   "2F81AM51AC 2F81BM51B5 2F81CM291DF 2F81DM51F5 2F81EM5203 2F81FM34DF 2F820M523B 2F821M5246",
   "2F822M5272 2F823M5277 2F824M3515 2F825M52C7 2F826M52C9 2F827M52E4 2F828M52FA 2F829T2A524",
   "2F82BM5317 2F82CM5349 2F82DM5351 2F82EM535A 2F82FM5373 2F830M537D 2F831M537F 2F832M537F",
   "2F833M537F 2F834M20A2C 2F835M7070 2F836M53CA 2F837M53DF 2F838M20B63 2F839M53EB 2F83AM53F1",
   "2F83BM5406 2F83CM549E 2F83DM5438 2F83EM5448 2F83FM5468 2F840M54A2 2F841M54F6 2F842M5510",
   "2F843M5553 2F844M5563 2F845M5584 2F846M5584 2F847M5599 2F848M55AB 2F849M55B3 2F84AM55C2",
   "2F84BM5716 2F84CM5606 2F84DM5717 2F84EM5651 2F84FM5674 2F850M5207 2F851M58EE 2F852M57CE",
   "2F853M57F4 2F854M580D 2F855M578B 2F856M5832 2F857M5831 2F858M58AC 2F859M214E4 2F85AM58F2",
   "2F85BM58F7 2F85CM5906 2F85DM591A 2F85EM5922 2F85FM5962 2F860M216A8 2F861M216EA 2F862M59EC",
   "2F863M5A1B 2F864M5A27 2F865M59D8 2F866M5A66 2F867M36EE 2F868M36FC 2F869M5B08 2F86AM5B3E",
   "2F86BM5B3E 2F86CM219C8 2F86DM5BC3 2F86EM5BD8 2F86FM5BE7 2F870M5BF3 2F871M21B18 2F872M5BFF",
   "2F873M5C06 2F874M5F53 2F875M5C22 2F876M3781 2F877M5C60 2F878M5C6E 2F879M5CC0 2F87AM5C8D",
   "2F87BM21DE4 2F87CM5D43 2F87DM21DE6 2F87EM5D6E 2F87FM5D6B 2F880M5D7C 2F881T29AA0 2F883M382F",
   "2F884M5DFD 2F885M5E28 2F886M5E3D 2F887M5E69 2F888M3862 2F889M22183 2F88AM387C 2F88BM5EB0",
   "2F88CM5EB3 2F88DM5EB6 2F88EM5ECA 2F88FM2A392 2F890M5EFE 2F891M22331 2F892M22331 2F893M8201",
   "2F894M5F22 2F895M5F22 2F896M38C7 2F897M232B8 2F898M261DA 2F899M5F62 2F89AM5F6B 2F89BM38E3",
   "2F89CM5F9A 2F89DM5FCD 2F89EM5FD7 2F89FM5FF9 2F8A0M6081 2F8A1M393A 2F8A2M391C 2F8A3M6094",
   "2F8A4M226D4 2F8A5M60C7 2F8A6M6148 2F8A7M614C 2F8A8M614E 2F8A9M614C 2F8AAM617A 2F8ABM618E",
   "2F8ACM61B2 2F8ADM61A4 2F8AEM61AF 2F8AFM61DE 2F8B0M61F2 2F8B1M61F6 2F8B2M6210 2F8B3M621B",
   "2F8B4M625D 2F8B5M62B1 2F8B6M62D4 2F8B7M6350 2F8B8M22B0C 2F8B9M633D 2F8BAM62FC 2F8BBM6368",
   "2F8BCM6383 2F8BDM63E4 2F8BEM22BF1 2F8BFM6422 2F8C0M63C5 2F8C1M63A9 2F8C2M3A2E 2F8C3M6469",
   "2F8C4M647E 2F8C5M649D 2F8C6M6477 2F8C7M3A6C 2F8C8M654F 2F8C9M656C 2F8CAM2300A 2F8CBM65E3",
   "2F8CCM66F8 2F8CDM6649 2F8CEM3B19 2F8CFM6691 2F8D0M3B08 2F8D1M3AE4 2F8D2M5192 2F8D3M5195",
   "2F8D4M6700 2F8D5M669C 2F8D6M80AD 2F8D7M43D9 2F8D8M6717 2F8D9M671B 2F8DAM6721 2F8DBM675E",
   "2F8DCM6753 2F8DDM233C3 2F8DEM3B49 2F8DFM67FA 2F8E0M6785 2F8E1M6852 2F8E2M6885 2F8E3M2346D",
   "2F8E4M688E 2F8E5M681F 2F8E6M6914 2F8E7M3B9D 2F8E8M6942 2F8E9M69A3 2F8EAM69EA 2F8EBM6AA8",
   "2F8ECM236A3 2F8EDM6ADB 2F8EEM3C18 2F8EFM6B21 2F8F0M238A7 2F8F1M6B54 2F8F2M3C4E 2F8F3M6B72",
   "2F8F4M6B9F 2F8F5T28D3B 2F8F7M23A8D 2F8F8M21D0B 2F8F9M23AFA 2F8FAM6C4E 2F8FBM23CBC 2F8FCM6CBF",
   "2F8FDM6CCD 2F8FEM6C67 2F8FFM6D16 2F900M6D3E 2F901M6D77 2F902M6D41 2F903M6D69 2F904M6D78",
   "2F905M6D85 2F906M23D1E 2F907M6D34 2F908M6E2F 2F909M6E6E 2F90AM3D33 2F90BM6ECB 2F90CM6EC7",
   "2F90DM23ED1 2F90EM6DF9 2F90FM6F6E 2F910M23F5E 2F911M23F8E 2F912M6FC6 2F913M7039 2F914M701E",
   "2F915M701B 2F916M3D96 2F917M704A 2F918M707D 2F919M7077 2F91AM70AD 2F91BM20525 2F91CM7145",
   "2F91DM24263 2F91EM719C 2F91FM243AB 2F920M7228 2F921M7235 2F922M7250 2F923M24608 2F924M7280",
   "2F925M7295 2F926M24735 2F927M24814 2F928M737A 2F929M738B 2F92AM3EAC 2F92BM73A5 2F92CM3EB8",
   "2F92DM3EB8 2F92EM7447 2F92FM745C 2F930M7471 2F931M7485 2F932M74CA 2F933M3F1B 2F934M7524",
   "2F935M24C36 2F936M753E 2F937M24C92 2F938M7570 2F939M2219F 2F93AM7610 2F93BM24FA1 2F93CM24FB8",
   "2F93DM25044 2F93EM3FFC 2F93FM4008 2F940M76F4 2F941M250F3 2F942M250F2 2F943M25119 2F944M25133",
   "2F945T28227 2F947M771F 2F948M774A 2F949M4039 2F94AM778B 2F94BM4046 2F94CM4096 2F94DM2541D",
   "2F94EM784E 2F94FM788C 2F950M78CC 2F951M40E3 2F952M25626 2F953M7956 2F954M2569A 2F955M256C5",
   "2F956M798F 2F957M79EB 2F958M412F 2F959M7A40 2F95AM7A4A 2F95BM7A4F 2F95CM2597C 2F95DM25AA7",
   "2F95EM25AA7 2F95FM7AEE 2F960M4202 2F961M25BAB 2F962M7BC6 2F963M7BC9 2F964M4227 2F965M25C80",
   "2F966M7CD2 2F967M42A0 2F968M7CE8 2F969M7CE3 2F96AM7D00 2F96BM25F86 2F96CM7D63 2F96DM4301",
   "2F96EM7DC7 2F96FM7E02 2F970M7E45 2F971M4334 2F972M26228 2F973M26247 2F974M4359 2F975M262D9",
   "2F976M7F7A 2F977M2633E 2F978M7F95 2F979M7FFA 2F97AM8005 2F97BM264DA 2F97CM26523 2F97DM8060",
   "2F97EM265A8 2F97FM8070 2F980M2335F 2F981M43D5 2F982M80B2 2F983M8103 2F984M440B 2F985M813E",
   "2F986M5AB5 2F987M267A7 2F988M267B5 2F989M23393 2F98AM2339C 2F98BM8201 2F98CM8204 2F98DM8F9E",
   "2F98EM446B 2F98FM8291 2F990M828B 2F991M829D 2F992M52B3 2F993M82B1 2F994M82B3 2F995M82BD",
   "2F996M82E6 2F997M26B3C 2F998M82E5 2F999M831D 2F99AM8363 2F99BM83AD 2F99CM8323 2F99DM83BD",
   "2F99EM83E7 2F99FM8457 2F9A0M8353 2F9A1M83CA 2F9A2M83CC 2F9A3M83DC 2F9A4M26C36 2F9A5M26D6B",
   "2F9A6M26CD5 2F9A7M452B 2F9A8M84F1 2F9A9M84F3 2F9AAM8516 2F9ABM273CA 2F9ACM8564 2F9ADM26F2C",
   "2F9AEM455D 2F9AFM4561 2F9B0M26FB1 2F9B1M270D2 2F9B2M456B 2F9B3M8650 2F9B4M865C 2F9B5M8667",
   "2F9B6M8669 2F9B7M86A9 2F9B8M8688 2F9B9M870E 2F9BAM86E2 2F9BBM8779 2F9BCM8728 2F9BDM876B",
   "2F9BEM8786 2F9BFM45D7 2F9C0M87E1 2F9C1M8801 2F9C2M45F9 2F9C3M8860 2F9C4M8863 2F9C5M27667",
   "2F9C6M88D7 2F9C7M88DE 2F9C8M4635 2F9C9M88FA 2F9CAM34BB 2F9CBM278AE 2F9CCM27966 2F9CDM46BE",
   "2F9CEM46C7 2F9CFM8AA0 2F9D0M8AED 2F9D1M8B8A 2F9D2M8C55 2F9D3M27CA8 2F9D4M8CAB 2F9D5M8CC1",
   "2F9D6M8D1B 2F9D7M8D77 2F9D8M27F2F 2F9D9M20804 2F9DAM8DCB 2F9DBM8DBC 2F9DCM8DF0 2F9DDM208DE",
   "2F9DEM8ED4 2F9DFM8F38 2F9E0M285D2 2F9E1M285ED 2F9E2M9094 2F9E3M90F1 2F9E4M9111 2F9E5M2872E",
   "2F9E6M911B 2F9E7M9238 2F9E8T26711 2F9EAM927C 2F9EBM93F9 2F9ECM9415 2F9EDM28BFA 2F9EEM958B",
   "2F9EFM4995 2F9F0M95B7 2F9F1M28D77 2F9F2M49E6 2F9F3M96C3 2F9F4M5DB2 2F9F5M9723 2F9F6M29145",
   "2F9F7M2921A 2F9F8M4A6E 2F9F9M4A76 2F9FAM97E0 2F9FBM2940A 2F9FCM4AB2 2F9FDM29496 2F9FEM980B",
   "2F9FFM980B 2FA00M9829 2FA01M295B6 2FA02M98E2 2FA03M4B33 2FA04M9929 2FA05M99A7 2FA06M99C2",
   "2FA07M99FE 2FA08M4BCE 2FA09M29B30 2FA0AM9B12 2FA0BM9C40 2FA0CM9CFD 2FA0DM4CCE 2FA0EM4CED",
   "2FA0FM9D67 2FA10M2A0CE 2FA11M4CF8 2FA12M2A105 2FA13M2A20E 2FA14M2A291 2FA15M9EBB 2FA16M4D56",
   "2FA17M9EF9 2FA18M9EFE 2FA19M9F05 2FA1AM9F0F 2FA1BM9F16 2FA1CM9F3B 2FA1DM2A600 2FA1EX 30000V",
   "3134BX 31350V 3347AX E0100I E01F0X"]

/-- The mapping of a character outside ASCII. In a row of kind `P` even characters move up by one, in a row
of kind `Q` odd ones. -/
private def Mapping.ofRow (n : Nat) : Mapping :=
  match mappingRows.covering n with
  | none => .refuse
  | some row =>
    match row.kind, row.numbers with
    | 'V', _ => .keep
    | 'I', _ => .drop
    | 'S', [delta] => .replace [Char.ofNat (n + delta)]
    | 'T', [delta] => .replace [Char.ofNat (n - delta)]
    | 'M', numbers => .replace (numbers.map Char.ofNat)
    | 'P', _ => if n % 2 == 0 then .replace [Char.ofNat (n + 1)] else .keep
    | 'Q', _ => if n % 2 == 1 then .replace [Char.ofNat (n + 1)] else .keep
    | _, _ => .refuse

/-- The mapping of a character. In ASCII only capitals change. -/
def Mapping.of (c : Char) : Mapping :=
  if Text.lowerAscii c ≠ c then .replace [Text.lowerAscii c]
  else if c.toNat < 128 then .keep
  else .ofRow c.toNat

theorem Mapping.of_eq_keep {c : Char} (ascii : c.toNat < 128) (lower : Text.lowerAscii c = c) :
    Mapping.of c = .keep := by
  rw [Mapping.of, if_neg (not_not_intro lower), if_pos ascii]

theorem Mapping.lower_of_keep {c : Char} (keep : Mapping.of c = .keep) : Text.lowerAscii c = c := by
  unfold Mapping.of at keep
  split at keep
  · cases keep
  next lower => exact Decidable.not_not.mp lower

end Harvest.Url.Idna

import Harvest.Text.Table

/-!
Small letters for capitals. A row marked `s` gives the small letter of its first character, with the
following ones in order; in a row marked `t` only every second character is a capital; the characters
of a row marked `x` stay as they are.
-/

namespace Harvest.Text

private def lowerRows : List String :=
  ["C0sE0 D7x D8sF8 DFx 100t101 12Fx 132t133 137x 139t13A 148x 14At14B 177x 178sFF 179t17A",
    "17Ex 181s253 182t183 185x 186s254 187s188 188x 189s256 18Bs18C 18Cx 18Es1DD 18Fs259",
    "190s25B 191s192 192x 193s260 194s263 195x 196s269 197s268 198s199 199x 19Cs26F 19Ds272",
    "19Ex 19Fs275 1A0t1A1 1A5x 1A6s280 1A7s1A8 1A8x 1A9s283 1AAx 1ACs1AD 1ADx 1AEs288 1AFs1B0",
    "1B0x 1B1s28A 1B3t1B4 1B6x 1B7s292 1B8s1B9 1B9x 1BCs1BD 1BDx 1C4s1C6 1C5s1C6 1C6x 1C7s1C9",
    "1C8s1C9 1C9x 1CAs1CC 1CBt1CC 1DCx 1DEt1DF 1EFx 1F1s1F3 1F2t1F3 1F5x 1F6s195 1F7s1BF",
    "1F8t1F9 21Fx 220s19E 221x 222t223 233x 23As2C65 23Bs23C 23Cx 23Ds19A 23Es2C66 23Fx 241s242",
    "242x 243s180 244s289 245s28C 246t247 24Fx 370t371 373x 376s377 377x 37Fs3F3 380x 386s3AC",
    "387x 388s3AD 38Bx 38Cs3CC 38Dx 38Es3CD 390x 391s3B1 3A2x 3A3s3C3 3ACx 3CFs3D7 3D0x 3D8t3D9",
    "3EFx 3F4s3B8 3F5x 3F7s3F8 3F8x 3F9s3F2 3FAs3FB 3FBx 3FDs37B 400s450 410s430 430x 460t461",
    "481x 48At48B 4BFx 4C0s4CF 4C1t4C2 4CEx 4D0t4D1 52Fx 531s561 557x 10A0s2D00 10C6x 10C7s2D27",
    "10C8x 10CDs2D2D 10CEx 13A0sAB70 13F0s13F8 13F6x 1C90s10D0 1CBBx 1CBDs10FD 1CC0x 1E00t1E01",
    "1E95x 1E9EsDF 1E9Fx 1EA0t1EA1 1EFFx 1F08s1F00 1F10x 1F18s1F10 1F1Ex 1F28s1F20 1F30x",
    "1F38s1F30 1F40x 1F48s1F40 1F4Ex 1F59t1F51 1F60x 1F68s1F60 1F70x 1F88s1F80 1F90x 1F98s1F90",
    "1FA0x 1FA8s1FA0 1FB0x 1FB8s1FB0 1FBAs1F70 1FBCs1FB3 1FBDx 1FC8s1F72 1FCCs1FC3 1FCDx",
    "1FD8s1FD0 1FDAs1F76 1FDCx 1FE8s1FE0 1FEAs1F7A 1FECs1FE5 1FEDx 1FF8s1F78 1FFAs1F7C",
    "1FFCs1FF3 1FFDx 2126s3C9 2127x 212As6B 212BsE5 212Cx 2132s214E 2133x 2160s2170 2170x",
    "2183s2184 2184x 24B6s24D0 24D0x 2C00s2C30 2C30x 2C60s2C61 2C61x 2C62s26B 2C63s1D7D",
    "2C64s27D 2C65x 2C67t2C68 2C6Cx 2C6Ds251 2C6Es271 2C6Fs250 2C70s252 2C71x 2C72s2C73 2C73x",
    "2C75s2C76 2C76x 2C7Es23F 2C80t2C81 2CE3x 2CEBt2CEC 2CEEx 2CF2s2CF3 2CF3x A640tA641 A66Dx",
    "A680tA681 A69Bx A722tA723 A72Fx A732tA733 A76Fx A779tA77A A77Cx A77Ds1D79 A77EtA77F A787x",
    "A78BsA78C A78Cx A78Ds265 A78Ex A790tA791 A793x A796tA797 A7A9x A7AAs266 A7ABs25C A7ACs261",
    "A7ADs26C A7AEs26A A7AFx A7B0s29E A7B1s287 A7B2s29D A7B3sAB53 A7B4tA7B5 A7C3x A7C4sA794",
    "A7C5s282 A7C6s1D8E A7C7tA7C8 A7CAx A7D0sA7D1 A7D1x A7D6tA7D7 A7D9x A7F5sA7F6 A7F6x",
    "FF21sFF41 FF3Bx 10400s10428 10428x 104B0s104D8 104D4x 10570s10597 1057Bx 1057Cs105A3",
    "1058Bx 1058Cs105B3 10593x 10594s105BB 10596x 10C80s10CC0 10CB3x 118A0s118C0 118C0x",
    "16E40s16E60 16E60x 1E900s1E922 1E922x"]

private def lowerTable : Table := Table.ofLines lowerRows

/-- The small letters for a character, or the character itself. -/
def lowerChar (c : Char) : List Char :=
  let n := c.toNat
  if n < 0x80 then [if 0x41 ≤ n && n ≤ 0x5A then Char.ofNat (n + 32) else c]
  else if n == 0x130 then ['i', Char.ofNat 0x307]
  else match lowerTable.covering n with
    | none => [c]
    | some row =>
      match row.kind, row.numbers with
      | 's', [first] => [Char.ofNat (first + (n - row.start))]
      | 't', [first] => [if (n - row.start) % 2 == 0 then Char.ofNat (first + (n - row.start)) else c]
      | _, _ => [c]

def lower (text : String) : String := String.ofList (text.toList.flatMap lowerChar)

end Harvest.Text

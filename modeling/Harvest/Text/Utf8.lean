/-!
Text as bytes. `decode?` takes well-formed UTF-8 only, `decodeLossy` puts the replacement character
for each longest broken piece, so that both agree on well-formed bytes.
-/

namespace Harvest.Text.Utf8

/-- What stands at the head of a byte sequence: a character, or a broken piece of some length. -/
inductive Head where
  | char (c : Char) (length : Nat)
  | broken (length : Nat)

def isTail (b : UInt8) : Bool := 0x80 ≤ b && b ≤ 0xBF

def low (b : UInt8) : Nat := (b &&& 0x3F).toNat

/-- The range of second bytes a lead byte of three or four bytes admits. -/
def second (lead : UInt8) (b : UInt8) : Bool :=
  if lead == 0xE0 then 0xA0 ≤ b && b ≤ 0xBF
  else if lead == 0xED then 0x80 ≤ b && b ≤ 0x9F
  else if lead == 0xF0 then 0x90 ≤ b && b ≤ 0xBF
  else if lead == 0xF4 then 0x80 ≤ b && b ≤ 0x8F
  else isTail b

/-- Reads the character at the head of a sequence that starts with `lead`. -/
def head (lead : UInt8) (rest : List UInt8) : Head :=
  if lead < 0x80 then .char (Char.ofNat lead.toNat) 1
  else if lead < 0xC2 || 0xF4 < lead then .broken 1
  else match rest with
    | [] => .broken 1
    | b :: rest =>
      if lead < 0xE0 then
        if isTail b then .char (Char.ofNat ((lead.toNat - 0xC0) * 64 + low b)) 2 else .broken 1
      else if !second lead b then .broken 1
      else match rest with
        | [] => .broken 2
        | c :: rest =>
          if !isTail c then .broken 2
          else if lead < 0xF0 then
            .char (Char.ofNat ((lead.toNat - 0xE0) * 4096 + low b * 64 + low c)) 3
          else match rest with
            | [] => .broken 3
            | d :: _ =>
              if isTail d then
                .char (Char.ofNat
                  ((lead.toNat - 0xF0) * 262144 + low b * 4096 + low c * 64 + low d)) 4
              else .broken 3

/-- The text of well-formed bytes. -/
def decodeFrom (done : List Char) : (skip : Nat) → List UInt8 → Option (List Char)
  | 0, [] => some done.reverse
  | _ + 1, [] => some done.reverse
  | skip + 1, _ :: rest => decodeFrom done skip rest
  | 0, lead :: rest =>
    match head lead rest with
    | .char c length => decodeFrom (c :: done) (length - 1) rest
    | .broken _ => none

/-- The text of well-formed bytes. -/
def decode? (bytes : List UInt8) : Option (List Char) := decodeFrom [] 0 bytes

def replacement : Char := Char.ofNat 0xFFFD

def decodeLossyFrom (done : List Char) : (skip : Nat) → List UInt8 → List Char
  | _, [] => done.reverse
  | skip + 1, _ :: rest => decodeLossyFrom done skip rest
  | 0, lead :: rest =>
    match head lead rest with
    | .char c length => decodeLossyFrom (c :: done) (length - 1) rest
    | .broken length => decodeLossyFrom (replacement :: done) (length - 1) rest

/-- The text of any bytes, each longest broken piece becoming one replacement character. -/
def decodeLossy (bytes : List UInt8) : List Char := decodeLossyFrom [] 0 bytes

/-- The bytes of one character. -/
def encodeChar (c : Char) : List UInt8 :=
  let n := c.toNat
  let tail (k : Nat) : UInt8 := (0x80 + n / Nat.pow 64 k % 64).toUInt8
  if n < 0x80 then [n.toUInt8]
  else if n < 0x800 then [(0xC0 + n / 64).toUInt8, tail 0]
  else if n < 0x10000 then [(0xE0 + n / 4096).toUInt8, tail 1, tail 0]
  else [(0xF0 + n / 262144).toUInt8, tail 2, tail 1, tail 0]

/-- The bytes of a text. -/
def encode (text : List Char) : List UInt8 := text.flatMap encodeChar

/-- The bytes of a text. -/
def encodeText (text : String) : List UInt8 := encode text.toList

end Harvest.Text.Utf8
